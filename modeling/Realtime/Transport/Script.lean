import Realtime.Transport

/-!
# Scripted transports

A transport that follows a script instead of talking to a server. Rules say
what to do on which call: what comes back, and whether the call fails. A rule
may be good for a number of calls only; the first one that fits a call and is
not used up is followed, and a call that none fits succeeds and does nothing.
-/

namespace Realtime

namespace Script

/-! ## Rules -/

/-- What to do on certain calls. -/
structure Rule where
  /-- How the name of the call begins. -/
  on : String
  /-- The address at which the rule is good, or every one. -/
  uri : Option String := none
  /-- How many calls the rule is still good for, or any number. -/
  uses : Option Nat := none
  /-- What comes on the channel. -/
  replies : List Signal := []
  /-- How the call fails, if it does. -/
  failure : Option Error := none
  deriving DecidableEq, Repr

namespace Rule

/-- Whether the rule is for a call of this name at this address. -/
def fits (name : String) (uri : Option String) (r : Rule) : Bool :=
  r.uses ≠ some 0 && r.on.toList.isPrefixOf name.toList &&
    match r.uri with
    | none => true
    | some wanted => uri = some wanted

/-- The rule after one more use. -/
def used (r : Rule) : Rule :=
  { r with uses := r.uses.map (· - 1) }

/-- How a call ends that follows the rule. -/
def outcome (r : Rule) : Except Error Unit :=
  match r.failure with
  | none => .ok ()
  | some e => .error e

end Rule

/-- The first rule that fits a call, and the rules after it was used. -/
def follow (name : String) (uri : Option String) : List Rule → Option Rule × List Rule
  | [] => (none, [])
  | r :: others =>
    if r.fits name uri then (some r, r.used :: others)
    else
      let (found, rest) := follow name uri others
      (found, r :: rest)

/-- A frame that arrives, in readable form. -/
def frame (text : String) : Signal :=
  .event (.frame (Readable.encode text))

/-- The rules of a server that lets every client in. -/
def welcome : List Rule :=
  [ { on := "open", replies := [frame "C|CH+"] },
    { on := "C|CHR|", replies := [frame "C|A+"] },
    { on := "A|REQ|", replies := [frame "A|A+"] } ]

/-! ## The transport -/

/-- A call in the log, with the address at which a connection was opened. -/
inductive Logged where
  | opened (uri : String)
  | closed
  | shutDown
  | sent (frame : Bytes)
  deriving DecidableEq, Repr

/-- The name of a call, which rules are compared with. A send is named by its
frame. -/
def callName : Call → String
  | .openLink => "open"
  | .closeLink => "close"
  | .shutdown => "shutdown"
  | .send frame => Readable.decode frame

/-- What comes on the channel because of the call itself. -/
def ownSignals : Call → List Signal
  | .closeLink => [.event .closed]
  | _ => []

/-- What a transport may do between its calls. -/
inductive Stimulus where
  /-- Something comes on the channel. -/
  | deliver (signals : List Signal)
  /-- The script is replaced. -/
  | replace (rules : List Rule)
  deriving DecidableEq, Repr

end Script

/-- A script that is being followed, and the calls made so far. -/
structure Script where
  rules : List Script.Rule := []
  log : List Script.Logged := []
  deriving DecidableEq, Repr

namespace Script

/-- Follows the rules for a call. -/
def answer (uri : Option String) (c : Call) (entry : Logged) (s : Script) : Reply Script :=
  let (rule, rules) := follow (callName c) uri s.rules
  { state := { rules := rules, log := s.log ++ [entry] }
    outcome := (rule.map Rule.outcome).getD (.ok ())
    signals := ownSignals c ++ (rule.map Rule.replies).getD [] }

/-- The answer to a call. Opening without an address fails and is no call yet. -/
def call (uri : Option String) (c : Call) (s : Script) : Reply Script :=
  match c with
  | .openLink =>
    match uri with
    | none => { state := s, outcome := .error .emptyUri }
    | some address => s.answer uri c (.opened address)
  | .closeLink => s.answer uri c .closed
  | .shutdown => s.answer uri c .shutDown
  | .send frame => s.answer uri c (.sent frame)

/-- What the transport does between the calls. -/
def stimulate : Stimulus → Script → Reply Script
  | .deliver signals, s => { state := s, signals := signals }
  | .replace rules, s => { state := { s with rules := rules } }

/-- The scripted transport, which may or may not keep its channel. -/
def transport (keepsChannel : Bool) : Transport Script Stimulus where
  keepsChannel := keepsChannel
  call := call
  stimulate := stimulate

end Script

end Realtime
