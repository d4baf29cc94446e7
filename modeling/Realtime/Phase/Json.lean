import Realtime.Json.Printer
import Realtime.Json.Skipper
import Realtime.Phase

/-!
# Phases as JSON

A phase is stored as its name. It is read back from the name, or from an object
with the name as its only member and null as the value of that.
-/

namespace Realtime.Phase

/-- The name under which a phase is stored. -/
def storedName : Phase → String
  | .error => "Error"
  | .awaitConnection => "AwaitConnection"
  | .challenging => "Challenging"
  | .challengingWait => "ChallengingWait"
  | .awaitAuthentication => "AwaitAuthentication"
  | .authenticating => "Authenticating"
  | .connected => "Connected"
  | .disconnected => "Disconnected"

/-- The phase stored under a name. -/
def ofStoredName? (name : String) : Option Phase :=
  all.find? fun p => p.storedName = name

theorem ofStoredName?_storedName (p : Phase) : ofStoredName? p.storedName = some p := by
  cases p <;> decide

/-- The phase as JSON. -/
def toJson (p : Phase) : Json.Value :=
  .string p.storedName

/-- Reads the name of a phase. -/
def scanName (bytes : Bytes) : Json.Scan Phase :=
  match Json.text bytes with
  | .error fault => .error fault
  | .ok (name, left) =>
    match ofStoredName? name with
    | some p => .ok (p, left)
    | none => .error .mismatch

/-- Reads the member of an object up to the brace that closes it. -/
def scanMember (bytes : Bytes) : Json.Scan Phase :=
  match scanName bytes with
  | .error fault => .error fault
  | .ok (p, afterName) =>
    match Json.memberColon afterName with
    | .error fault => .error fault
    | .ok afterColon =>
      match Json.nothing afterColon with
      | .error fault => .error fault
      | .ok (_, left) =>
        match Json.skipBlanks left with
        | [] => .error .unfinished
        | b :: rest => if b = Json.closeBrace then .ok (p, rest) else .error .malformed

/-- Reads a phase. -/
def scan (bytes : Bytes) : Json.Scan Phase :=
  match Json.skipBlanks bytes with
  | [] => .error .unfinished
  | b :: rest =>
    if b = Json.quote then scanName (b :: rest)
    else if b = Json.openBrace then scanMember rest
    else .error .malformed

/-- The phase of a whole text. -/
def decode (bytes : Bytes) : Except Json.Fault Phase :=
  Json.finished (scan bytes)

end Realtime.Phase
