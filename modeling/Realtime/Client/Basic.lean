import Realtime.Client.Command
import Realtime.Config
import Realtime.NameMap
import Realtime.Transport

/-!
# The state of a client

What a client knows: its settings and address, its transport, the phase of the
connection, messages on their way in and out, and who is to be told of what.
Beside that it keeps a journal of what it did, which it never reads itself.

This module holds the steps that cannot fail. They are functions on the state.

Results:
1. `note_*`: writing the journal changes nothing else.
-/

namespace Realtime

/-! ## The journal -/

/-- Something a client did. -/
inductive Occurrence (ι : Type) where
  /-- A session begins anew after a connection ended. -/
  | restarted
  /-- The transport was asked to open a connection, and how that ended. -/
  | opened (uri : Option String) (outcome : Except Error Unit)
  /-- The transport was asked to close the connection, and how that ended. -/
  | closed (outcome : Except Error Unit)
  /-- The transport was given another address. -/
  | targeted (uri : String)
  /-- The transport was asked to send a message, and how that ended. -/
  | sent (m : Message) (outcome : Except Error Unit)
  /-- A message was taken from the outbox. -/
  | flushed (m : Message)
  /-- A message of the server took effect. -/
  | handled (m : Message)
  /-- An event was accepted for sending. -/
  | emitted (m : Message)
  /-- A callback was called. -/
  | invoked (i : Invocation)
  /-- A callback gave a command, and what that led to. -/
  | performed (c : Command ι) (result : Except Error Answer)
  /-- An error was reported. -/
  | reported (e : Error)

/-- An entry of the journal, with how things stood just before. -/
structure Entry (ι : Type) where
  phase : Phase
  /-- No message was waiting to be handled and no event to be received. -/
  idle : Bool
  what : Occurrence ι

/-! ## Who is to be told of what -/

/-- The side of events: who subscribes, who listens, and what was emitted while
there was no connection. -/
structure EventBoard (ι : Type) where
  /-- The subscriptions of each name, oldest first. A name without any is not
  listed. -/
  subscriptions : NameMap (List (Subscription ι Bytes)) := .empty
  listeners : NameMap (Listener ι) := .empty
  sendQueue : List Message := []

/-- The side of presence: who follows it, and who waits for a list of users. -/
structure PresenceBoard (ι : Type) where
  subscriptions : List (Subscription ι (String × Bool)) := []
  querents : List (Querent ι) := []

/-- A client, over the states `σ` and the stimuli `ι` of its transport. -/
structure Client (σ ι : Type) where
  config : Config
  /-- Where the client connects to. -/
  uri : String
  link : Link σ
  phase : Phase := .awaitConnection
  /-- Messages of the server that are not yet handled. -/
  pending : List Message := []
  /-- Messages for the server that are not yet sent. -/
  outbox : List Message := []
  events : EventBoard ι := {}
  presence : PresenceBoard ι := {}
  nextId : SubscriptionId := 0
  /-- How often each callback was called. -/
  calls : List Nat := []
  journal : List (Entry ι) := []

namespace Client

variable {σ ι : Type}

/-- Nothing is waiting to be handled or received. -/
def isIdle (c : Client σ ι) : Bool :=
  c.pending.isEmpty && c.link.channel.queue.isEmpty

/-- Writes an entry in the journal. -/
def note (c : Client σ ι) (what : Occurrence ι) : Client σ ι :=
  { c with journal := c.journal ++ [⟨c.phase, c.isIdle, what⟩] }

@[simp] theorem note_phase (c : Client σ ι) (what : Occurrence ι) :
    (c.note what).phase = c.phase := rfl

@[simp] theorem note_uri (c : Client σ ι) (what : Occurrence ι) :
    (c.note what).uri = c.uri := rfl

@[simp] theorem note_outbox (c : Client σ ι) (what : Occurrence ι) :
    (c.note what).outbox = c.outbox := rfl

@[simp] theorem note_events (c : Client σ ι) (what : Occurrence ι) :
    (c.note what).events = c.events := rfl

@[simp] theorem note_presence (c : Client σ ι) (what : Occurrence ι) :
    (c.note what).presence = c.presence := rfl

/-! ## Messages of the client -/

/-- A message about an event name or a pattern. -/
def eventMessage (action : Action) (name : String) : Message :=
  .plain .event action [Utf8.encode name]

/-- A message about presence. -/
def presenceMessage (action : Action) (arguments : List Bytes := []) : Message :=
  .plain .presence action arguments

/-- The request for everyone who is logged in. -/
def queryMessage : Message :=
  presenceMessage .query [Utf8.encode "Q"]

/-- Puts a message in the outbox. Without a connection it is dropped: what it
says is said again when there is one. -/
def post (c : Client σ ι) (m : Message) : Client σ ι :=
  if c.phase = .connected then { c with outbox := c.outbox ++ [m] } else c

/-! ## Phases -/

/-- What the server has to be told once the client is connected: who subscribes
and listens, in ascending order of the names, what was emitted meanwhile, and
what the client wants to know of presence. -/
def replayMessages (c : Client σ ι) : List Message :=
  c.events.subscriptions.names.map (eventMessage .subscribe) ++
    c.events.listeners.names.map (eventMessage .listen) ++
    c.events.sendQueue ++
    (if c.presence.subscriptions = [] then [] else [presenceMessage .subscribe]) ++
    (if c.presence.querents = [] then [] else [queryMessage])

/-- Puts what the server has to be told in the outbox. -/
def replay (c : Client σ ι) : Client σ ι :=
  { c with
    outbox := c.outbox ++ c.replayMessages
    events := { c.events with sendQueue := [] } }

/-- Goes to another phase. Coming to be connected, the client tells the server
what it has to know. -/
def enter (c : Client σ ι) (next : Phase) : Client σ ι :=
  if c.phase = next then c
  else if next = .connected then replay { c with phase := next }
  else { c with phase := next }

/-! ## The transport -/

/-- Makes a call of the transport and writes down how it ended. -/
def use (t : Transport σ ι) (call : Call) (what : Except Error Unit → Occurrence ι)
    (c : Client σ ι) : Except Error Unit × Client σ ι :=
  let (outcome, link) := c.link.call t call
  (outcome, { c.note (what outcome) with link := link })

/-- Drops what has come in and is not yet handled. -/
def discardIncoming (c : Client σ ι) : Client σ ι :=
  { c with pending := [], link := { c.link with channel := c.link.channel.drained } }

/-- Closes the connection, whether the transport manages to or not, and drops
what it said last. -/
def closeLink (t : Transport σ ι) (c : Client σ ι) : Client σ ι :=
  (c.use t .closeLink .closed).2.discardIncoming

/-- Ends a connection that can no longer be used. -/
def shut (t : Transport σ ι) (c : Client σ ι) : Client σ ι :=
  (c.closeLink t).enter .disconnected

/-- Connects to another address from now on. -/
def retarget (uri : String) (c : Client σ ι) : Client σ ι :=
  { c.note (.targeted uri) with uri := uri, link := c.link.target uri }

/-! ## Callbacks -/

/-- A place to count the calls of a new callback. -/
def newSlot (c : Client σ ι) : Nat × Client σ ι :=
  (c.calls.length, { c with calls := c.calls ++ [0] })

/-- How often the callback was called whose calls are counted there. -/
def callsAt (c : Client σ ι) (slot : Nat) : Nat :=
  c.calls.getD slot 0

/-- Counts a call, and says how many there were before. -/
def countCall (slot : Nat) (c : Client σ ι) : Nat × Client σ ι :=
  (c.callsAt slot, { c with calls := c.calls.modify slot (· + 1) })

/-- A new identifier. When all have been given out, it is the turn of the first one
again. -/
def newId (c : Client σ ι) : SubscriptionId × Client σ ι :=
  (c.nextId, { c with nextId := c.nextId + 1 })

end Client

end Realtime
