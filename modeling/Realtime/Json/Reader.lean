import Realtime.Json.Lexeme

/-!
# Reading JSON

A reader of one value, given the readers of its parts, and the whole text of a
value. Arrays and objects may stand inside each other at most `depthLimit`
deep; one that would go deeper is refused at its opening bracket.
-/

namespace Realtime.Json

/-! ## Brackets -/

/-- Reads parts with commas between them up to the closing bracket, after at
least one part. Every part takes at least one byte, so the number of bytes
bounds the number of parts. -/
def moreParts {σ : Type} (close : UInt8) (part : σ → Bytes → Scan σ) :
    Nat → σ → Bytes → Scan σ
  | 0, _, _ => .error .unfinished
  | bound + 1, state, bytes =>
    match skipBlanks bytes with
    | [] => .error .unfinished
    | b :: rest =>
      if b = close then .ok (state, rest)
      else if b = comma then
        match part state rest with
        | .error fault => .error fault
        | .ok (next, left) => moreParts close part bound next left
      else .error .malformed

/-- Reads the parts between two brackets, of which the opening one is already
read. Each part is read with the result of the parts before it. -/
def parts {σ : Type} (close : UInt8) (part : σ → Bytes → Scan σ) (start : σ) (bytes : Bytes) :
    Scan σ :=
  match skipBlanks bytes with
  | [] => .error .unfinished
  | b :: rest =>
    if b = close then .ok (start, rest)
    else
      match part start (b :: rest) with
      | .error fault => .error fault
      | .ok (next, left) => moreParts close part (left.length + 1) next left

/-- The name of a member, in quotes. -/
def memberName (bytes : Bytes) : Scan String :=
  match skipBlanks bytes with
  | [] => .error .unfinished
  | b :: rest => if b = quote then string rest else .error .malformed

/-- The colon between the name and the value of a member. -/
def memberColon (bytes : Bytes) : Except Fault Bytes :=
  match skipBlanks bytes with
  | [] => .error .unfinished
  | b :: rest => if b = colon then .ok rest else .error .malformed

/-- A member added to those before it. -/
def member (value : Bytes → Scan Value) (before : List (String × Value)) (bytes : Bytes) :
    Scan (List (String × Value)) :=
  match memberName bytes with
  | .error fault => .error fault
  | .ok (name, afterName) =>
    match memberColon afterName with
    | .error fault => .error fault
    | .ok afterColon =>
      match value afterColon with
      | .error fault => .error fault
      | .ok (v, left) => .ok (Entries.insert name v before, left)

/-- An item put in front of those before it. -/
def item (value : Bytes → Scan Value) (before : List Value) (bytes : Bytes) :
    Scan (List Value) :=
  (value bytes).map fun (v, left) => (v :: before, left)

/-! ## Values -/

/-- How deep arrays and objects may stand inside each other. -/
def depthLimit : Nat :=
  127

/-- A value that holds arrays and objects at most `depth` deep. -/
def value (depth : Nat) (bytes : Bytes) : Scan Value :=
  match skipBlanks bytes with
  | [] => .error .unfinished
  | b :: rest =>
    if b = 0x6E then (expect restOfNull rest).map (.null, ·)
    else if b = 0x74 then (expect restOfTrue rest).map (.bool true, ·)
    else if b = 0x66 then (expect restOfFalse rest).map (.bool false, ·)
    else if b = minus then (unsignedNumber true rest).map fun (n, left) => (.number n, left)
    else if isDigit b then
      (unsignedNumber false (b :: rest)).map fun (n, left) => (.number n, left)
    else if b = quote then (string rest).map fun (s, left) => (.string s, left)
    else
      match depth with
      | 0 => .error .malformed
      | inner + 1 =>
        if b = openBracket then
          (parts closeBracket (item (value inner)) [] rest).map fun (items, left) =>
            (.array items.reverse, left)
        else if b = openBrace then
          (parts closeBrace (member (value inner)) [] rest).map fun (members, left) =>
            (.object members, left)
        else .error .malformed

/-- The end of a text, after which only blanks may follow. -/
def finished {α : Type} (scan : Scan α) : Except Fault α :=
  match scan with
  | .error fault => .error fault
  | .ok (result, left) => if skipBlanks left = [] then .ok result else .error .malformed

/-- The value of a whole text. -/
def decode (bytes : Bytes) : Except Fault Value :=
  finished (value depthLimit bytes)

end Realtime.Json
