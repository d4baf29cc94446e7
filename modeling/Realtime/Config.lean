import Realtime.Json.Printer
import Realtime.Json.Skipper

/-!
# Settings of a client

How many redirections a client follows, and how long it waits for a reply. The
settings are stored as JSON, with the time in whole milliseconds; reading them
fills in what is missing.
-/

namespace Realtime

/-! ## Lengths of time -/

/-- A length of time, to the nanosecond. -/
structure Duration where
  seconds : UInt64
  nanoseconds : Nat
  nanoseconds_lt : nanoseconds < 1000000000 := by decide
  deriving DecidableEq, Repr

namespace Duration

/-- Nanoseconds in a millisecond. -/
def perMillisecond : Nat :=
  1000000

/-- The whole milliseconds of a length of time. -/
def milliseconds (d : Duration) : Nat :=
  d.seconds.toNat * 1000 + d.nanoseconds / perMillisecond

/-- A length of time in milliseconds, of which a 64-bit word holds the number. -/
def ofMilliseconds (count : UInt64) : Duration where
  seconds := count / 1000
  nanoseconds := count.toNat % 1000 * perMillisecond
  nanoseconds_lt := by simp only [perMillisecond]; omega

/-- Nanoseconds in a second. -/
def perSecond : Nat :=
  1000000000

/-- Seconds and nanoseconds. Whole seconds among the latter are carried over. -/
def ofParts (seconds : UInt64) (nanoseconds : Nat) : Duration where
  seconds := seconds + UInt64.ofNat (nanoseconds / perSecond)
  nanoseconds := nanoseconds % perSecond
  nanoseconds_lt := Nat.mod_lt _ (by decide)

end Duration

/-! ## Settings -/

/-- The settings of a client. -/
structure Config where
  /-- Redirections at which the handshake gives up. -/
  maxRedirections : UInt32 := 3
  /-- How long the client waits for each reply of the server. -/
  receiveTimeout : Duration := ⟨10, 0, by decide⟩
  deriving DecidableEq, Repr

namespace Config

/-- The settings of a client that was given none. -/
def standard : Config :=
  {}

/-- The name of the number of redirections. -/
def redirectionsName : String :=
  "max_redirections"

/-- The name of the time to wait, in milliseconds. -/
def timeoutName : String :=
  "receive_timeout_ms"

/-! ## Writing -/

/-- The milliseconds that are written: those that fit a word. -/
def writtenMilliseconds (c : Config) : UInt64 :=
  UInt64.ofNat c.receiveTimeout.milliseconds

/-- A 64-bit word as a JSON integer. -/
def wordValue (n : UInt64) : Json.Value :=
  .number (.whole ⟨n.toNat, by omega, by have := n.toNat_lt; omega⟩)

/-- The settings as JSON. -/
def toJson (c : Config) : Json.Value :=
  .object
    [(redirectionsName, wordValue c.maxRedirections.toUInt64),
      (timeoutName, wordValue c.writtenMilliseconds)]

/-! ## Reading -/

/-- The settings that a text has given so far. -/
structure Given where
  maxRedirections : Option UInt32 := none
  milliseconds : Option UInt64 := none

/-- The settings, with the standard ones for those not given. -/
def Given.complete (g : Given) : Config where
  maxRedirections := g.maxRedirections.getD standard.maxRedirections
  receiveTimeout := (g.milliseconds.map Duration.ofMilliseconds).getD standard.receiveTimeout

/-- Reads a 32-bit word. -/
def word32 (bytes : Bytes) : Json.Scan UInt32 :=
  (Json.boundedNat UInt32.size bytes).map fun (n, left) => (UInt32.ofNat n, left)

/-- Reads a 64-bit word. -/
def word64 (bytes : Bytes) : Json.Scan UInt64 :=
  (Json.boundedNat UInt64.size bytes).map fun (n, left) => (UInt64.ofNat n, left)

/-- Reads a value after its colon. -/
def afterColon {α : Type} (read : Bytes → Json.Scan α) (bytes : Bytes) : Json.Scan α :=
  match Json.memberColon bytes with
  | .error fault => .error fault
  | .ok rest => read rest

/-- Reads a member. A setting may be given once; that it comes again is seen
before its value is read. -/
def member (given : Given) (bytes : Bytes) : Json.Scan Given :=
  match Json.memberName bytes with
  | .error fault => .error fault
  | .ok (name, rest) =>
    if name = redirectionsName then
      if given.maxRedirections.isSome then .error .mismatch
      else (afterColon word32 rest).map fun (n, left) =>
        ({ given with maxRedirections := some n }, left)
    else if name = timeoutName then
      if given.milliseconds.isSome then .error .mismatch
      else (afterColon word64 rest).map fun (n, left) =>
        ({ given with milliseconds := some n }, left)
    else (afterColon (fun left => (Json.skipValue left).map ((), ·)) rest).map fun (_, left) =>
      (given, left)

/-- Reads one more item of the settings written as an array. The items are told
apart by their place, and there is no third one. -/
def item (given : Given) (bytes : Bytes) : Json.Scan Given :=
  match given.maxRedirections, given.milliseconds with
  | none, _ =>
    (word32 bytes).map fun (n, left) => ({ given with maxRedirections := some n }, left)
  | some _, none =>
    (word64 bytes).map fun (n, left) => ({ given with milliseconds := some n }, left)
  | some _, some _ => .error .malformed

/-- Reads settings, as an object or as an array. -/
def scan (bytes : Bytes) : Json.Scan Config :=
  match Json.skipBlanks bytes with
  | [] => .error .unfinished
  | b :: rest =>
    if b = Json.openBrace then
      (Json.parts Json.closeBrace member {} rest).map fun (given, left) => (given.complete, left)
    else if b = Json.openBracket then
      (Json.parts Json.closeBracket item {} rest).map fun (given, left) => (given.complete, left)
    else .error (Json.otherKind (b :: rest))

/-- The settings of a whole text. -/
def decode (bytes : Bytes) : Except Json.Fault Config :=
  Json.finished (scan bytes)

end Config

end Realtime
