import Realtime.Pieces

/-!
# Properties of characters

A property of characters is mostly the same for long stretches of consecutive
characters. It is kept as the list of these stretches, from the first code point
on, and written down as one word for each: its length in hexadecimal digits, in
lower case, and a spelling of the value, which starts with no such digit.

Results:
1. `map_at?_eq_getElem?_expand`: looking up a place gives what stands there when
   all runs are written out.
-/

namespace Realtime.Text

/-- Consecutive places with one value. -/
structure Run (α : Type) where
  length : Nat
  value : α
  deriving Repr

namespace Run

variable {α : Type}

/-! ## Looking up -/

/-- The value at a place, and how far into its run the place is. -/
def at? : List (Run α) → Nat → Option (Nat × α)
  | [], _ => none
  | run :: others, place =>
    if place < run.length then some (place, run.value) else at? others (place - run.length)

/-- The value of every place, in order. -/
def expand : List (Run α) → List α
  | [] => []
  | run :: others => List.replicate run.length run.value ++ expand others

/-- Looking up a place gives what stands there when all runs are written out. -/
theorem map_at?_eq_getElem?_expand (runs : List (Run α)) (place : Nat) :
    (at? runs place).map Prod.snd = (expand runs)[place]? := by
  induction runs generalizing place with
  | nil => simp [at?, expand]
  | cons run others found =>
    by_cases inside : place < run.length
    · simp [at?, expand, inside, List.getElem?_append]
    · simp [at?, expand, inside, List.getElem?_append, found]

/-- The value for a character, or what holds of characters that are not covered. -/
def valueOf (runs : List (Run α)) (otherwise : α) (c : Char) : α :=
  ((at? runs c.toNat).map Prod.snd).getD otherwise

/-! ## The written form -/

/-- The words of a text, which stand between blanks and line breaks. -/
def words (text : List Char) : List (List Char) :=
  (Pieces.fields ' ' (text.map fun c => if c = '\n' then ' ' else c)).filter (· ≠ [])

/-- The value of a hexadecimal digit in lower case. -/
def digit? (c : Char) : Option Nat :=
  if c.isDigit then some (c.toNat - '0'.toNat)
  else if 'a' ≤ c ∧ c ≤ 'f' then some (c.toNat - 'a'.toNat + 10)
  else none

/-- The number that hexadecimal digits write; other characters do not count. -/
def number (digits : List Char) : Nat :=
  digits.foldl (fun sum c => ((digit? c).map (sum * 16 + ·)).getD sum) 0

/-- Reads one run. -/
def ofWord? (value? : List Char → Option α) (word : List Char) : Option (Run α) :=
  let (digits, spelling) := word.span fun c => (digit? c).isSome
  (value? spelling).map fun value => ⟨number digits, value⟩

/-- Reads the runs of a property, given how its values are spelled. -/
def ofText (value? : List Char → Option α) (text : String) : List (Run α) :=
  (words text.toList).filterMap (ofWord? value?)

end Run

end Realtime.Text
