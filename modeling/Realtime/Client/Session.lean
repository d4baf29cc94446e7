import Realtime.Client.Basic
import Realtime.Url

/-!
# Steps of a client that can fail

A step runs on the state of a client and ends with a value or with a failure.
A failure keeps the state that it was met in, because what was sent and
reported up to then has happened.

Two loops of a client last as long as the server has something to say: waiting
for a reply, while it sends heartbeats, and handling what has come in, while it
answers the answers. Commands of callbacks may lead to more callbacks. Against
a transport that never stops a client would not return; `Stop.exhausted` stands
for that, after as many rounds as the surroundings of the client have patience
for.
-/

namespace Realtime

/-- Why a step ends without a value. -/
inductive Stop where
  | failed (e : Error)
  /-- The client is still busy after all rounds it was given. -/
  | exhausted
  deriving DecidableEq, Repr

/-- What a client runs in. -/
structure Surroundings (σ ι : Type) where
  transport : Transport σ ι
  /-- Which addresses a client may be sent to. -/
  checkUri : String → Except Url.Fault Unit := Url.check
  /-- Rounds after which a loop that does not end is given up. -/
  patience : Nat := 1000000

/-- A step of a client. -/
abbrev Session (σ ι α : Type) :=
  EStateM Stop (Client σ ι) α

namespace Session

variable {σ ι α : Type}

/-- Ends with an error. -/
def fail (e : Error) : Session σ ι α :=
  throw (.failed e)

/-- Tells the error handler. -/
def report (e : Error) : Session σ ι Unit :=
  modify fun c => c.note (.reported e)

/-- Tells the error handler, and ends with the error. -/
def failReported (e : Error) : Session σ ι α := do
  report e
  fail e

/-- The outcome of a step as a value. A step that would not end is no outcome. -/
def attempt (step : Session σ ι α) : Session σ ι (Except Error α) := fun c =>
  match step c with
  | .ok a after => .ok (.ok a) after
  | .error (.failed e) after => .ok (.error e) after
  | .error .exhausted after => .error .exhausted after

/-- Ends as an outcome says. -/
def ofOutcome : Except Error α → Session σ ι α
  | .ok a => pure a
  | .error e => fail e

/-- Makes a call of the transport. -/
def use (t : Transport σ ι) (call : Call) (what : Except Error Unit → Occurrence ι) :
    Session σ ι (Except Error Unit) :=
  modifyGet (Client.use t call what)

/-- Ends a connection that can no longer be used. -/
def shut (t : Transport σ ι) : Session σ ι Unit :=
  modify (Client.shut t)

/-! ## Sending -/

/-- Sends a message, if the protocol allows it now. -/
def send (t : Transport σ ι) (m : Message) : Session σ ι Unit := do
  let c ← get
  let next := c.phase.next .client m
  if next = .error then fail (.invalidTransition c.phase m.header.text)
  else
    ofOutcome (← use t (.send m.encode) (.sent m))
    modify (·.enter next)

/-- Sends the messages that stand in the outbox. One that cannot be sent is lost,
and those after it stay. -/
def flushAll (t : Transport σ ι) : List Message → Session σ ι Unit
  | [] => pure ()
  | m :: rest => do
    modify fun c => { c.note (.flushed m) with outbox := rest }
    match (← attempt (send t m)) with
    | .ok () => flushAll t rest
    | .error e => failReported e

/-- Sends what stands in the outbox. -/
def flush (t : Transport σ ι) : Session σ ι Unit := do
  flushAll t (← get).outbox

/-! ## Receiving -/

/-- Takes over the messages of a frame. If any part of the frame is malformed,
none of it is used: every fault is reported, the connection ends, and the first
fault is the error. -/
def receiveFrame (t : Transport σ ι) (frame : Bytes) : Session σ ι Unit := do
  let reading := Frame.read frame
  match reading.faults with
  | [] => modify fun c => { c with pending := c.pending ++ reading.messages }
  | first :: others => do
    (first :: others).forM fun fault => report (.frame fault)
    shut t
    fail (.frame first)

/-- Takes the next message that waits to be handled. -/
def takePending : Session σ ι (Option Message) := do
  match (← get).pending with
  | [] => pure none
  | m :: rest => do
    modify fun c => { c with pending := rest }
    pure (some m)

/-- Receives events until one of them brings a message. When they run out, a
client that waits has waited in vain, unless the transport has given up its
channel. -/
def receiveFrom (t : Transport σ ι) (wait : Bool) : List Event → Session σ ι (Option Message)
  | [] => do
    if wait && (← get).link.channel.isOpen then failReported .timeout else pure none
  | event :: rest => do
    modify fun c =>
      { c with link := { c.link with channel := { c.link.channel with queue := rest } } }
    match event with
    | .opened => receiveFrom t wait rest
    | .frame bytes => do
      receiveFrame t bytes
      match (← takePending) with
      | some m => pure (some m)
      | none => receiveFrom t wait rest
    | .failed reason => failReported (.transport reason)
    | .closed => do
      if (← get).phase = .disconnected then receiveFrom t wait rest
      else
        modify (·.enter .disconnected)
        failReported .suddenDisconnect

/-- The next message of the server, if there is one. -/
def nextMessage (t : Transport σ ι) (wait : Bool) : Session σ ι (Option Message) := do
  match (← takePending) with
  | some m => pure (some m)
  | none => receiveFrom t wait (← get).link.channel.queue

end Session

end Realtime
