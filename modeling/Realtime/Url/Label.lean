import Realtime.Text.Composition
import Realtime.Text.Direction
import Realtime.Text.Joining
import Realtime.Url.Mapping
import Realtime.Url.Punycode

/-!
# Labels

The labels of a host name stand between its dots. A label may be given in the
code that starts with `xn--`, and then has to tell a text that could have been
given itself.
-/

namespace Realtime.Url

open Text

/-- A character of ASCII. -/
def isAscii (c : Char) : Bool :=
  c.toNat < 0x80

namespace Label

/-! ## Joiners -/

/-- Whether the first character that is not transparent satisfies a condition. -/
def meets (condition : Joining → Bool) : List Char → Bool
  | [] => false
  | c :: rest =>
    if Joining.of c = .transparent then meets condition rest else condition (Joining.of c)

/-- Whether the joiners of a label stand where they can be seen, given the
characters before it in reverse: after a virama, and, of the two, the one that
keeps letters apart also between letters that would join. -/
def joinersFit (before : List Char) : List Char → Bool
  | [] => true
  | c :: rest =>
    let afterVirama := (before.head?.map isVirama).getD false
    let betweenLetters := meets Joining.joinsNext before && meets Joining.joinsPrevious rest
    let fits :=
      if c = '\u200C' then afterVirama || betweenLetters
      else if c = '\u200D' then afterVirama
      else true
    fits && joinersFit (c :: before) rest

/-! ## Directions -/

/-- Whether a label fits in a host name with text from right to left. It runs in
the direction of its first character, which has to be a letter, and holds nothing
of the other one; its last character, marks apart, is a letter or a number. In
text from right to left there are not both kinds of numbers. -/
def directionFits (label : List Char) : Bool :=
  let classes := label.map Direction.of
  let last := classes.reverse.find? (· ≠ .nonspacingMark)
  match classes with
  | [] => true
  | .leftToRight :: rest =>
    rest.all (fun d => d = .leftToRight || d.fitsBoth) &&
      (last = some .leftToRight || last = some .europeanNumber)
  | first :: rest =>
    (first = .rightToLeft || first = .arabicLetter) &&
      rest.all (fun d => d.turnsText || d.fitsBoth) &&
      (last.any fun d => d.turnsText || d = .europeanNumber) &&
      !(rest.contains .europeanNumber && rest.contains .arabicNumber)

/-! ## Reading -/

/-- The longest text that is put into code. -/
def longestText : Nat := 1000

/-- The longest code that is read. -/
def longestCode : Nat := 2000

/-- The mark of a label in code. -/
def codeMark : List Char := "xn--".toList

/-- Whether a label that is not in ASCII may be part of a host name: it starts
with no mark, and its joiners can be seen. -/
def isSound (label : List Char) : Bool :=
  !((label.head?.map isMark).getD false) && joinersFit [] label && label.length ≤ longestText

/-- The text that a code tells, if it could have been given itself. -/
def ofCode? (code : List Char) : Option (List Char) :=
  if code.all isAscii ∧ code.getLast?.any (· ≠ '-') ∧ code.length ≤ longestCode then
    match Punycode.decode code with
    | none => none
    | some label =>
      if standsForItself label && compose label = label && isSound label &&
        !codeMark.isPrefixOf label then some label
      else none
  else none

/-- The text of a label, which is given with its characters mapped. -/
def read? (label : List Char) : Option (List Char) :=
  if codeMark.isPrefixOf label then ofCode? (label.drop codeMark.length)
  else if label.all isAscii || isSound label then some label
  else none

end Label

end Realtime.Url
