import Realtime.Error

/-!
# Transports

A transport carries frames to a server and back. It is told where the server
is, opens and closes the connection, and sends; what comes back it reports on
a channel. What a transport does is left open: `Transport` is any function from
its state and a call to an answer, so that what is shown of a client for every
transport holds whatever the server does.

A transport may act between the calls too. Such an act is a *stimulus*; which
there are is up to the transport.
-/

namespace Realtime

/-! ## Events and the channel they come on -/

/-- Something that happened on a transport. -/
inductive Event where
  /-- The connection is open and ready to send. -/
  | opened
  /-- A frame arrived from the server. -/
  | frame (bytes : Bytes)
  /-- The transport failed. -/
  | failed (reason : String)
  /-- The connection is closed. -/
  | closed
  deriving DecidableEq, Repr

/-- What a transport puts on its channel. -/
inductive Signal where
  | event (e : Event)
  /-- The transport gives the channel up; nothing comes after this. -/
  | detach
  deriving DecidableEq, Repr

/-- The events that have come and are not yet received. A channel that is not
open has no transport at its other end any more. -/
structure Channel where
  queue : List Event := []
  isOpen : Bool := false
  deriving DecidableEq, Repr

/-- The channel after one more signal. What is put on a channel that is not open
is lost. -/
def Channel.put (c : Channel) : Signal → Channel
  | .event e => if c.isOpen then { c with queue := c.queue ++ [e] } else c
  | .detach => { c with isOpen := false }

/-- The channel after some signals. -/
def Channel.putAll (c : Channel) (signals : List Signal) : Channel :=
  signals.foldl Channel.put c

/-- The channel with nothing left to receive. -/
def Channel.drained (c : Channel) : Channel :=
  { c with queue := [] }

/-! ## Calls and answers -/

/-- What a transport is asked to do. -/
inductive Call where
  | openLink
  | closeLink
  /-- Stop sending, and let the server finish. -/
  | shutdown
  /-- Send one frame. -/
  | send (frame : Bytes)
  deriving DecidableEq, Repr

/-- The answer to a call: how it ended, what came on the channel meanwhile, and
the state of the transport after it. -/
structure Reply (σ : Type) where
  state : σ
  outcome : Except Error Unit := .ok ()
  signals : List Signal := []

/-- How a transport behaves, over states `σ` and stimuli `ι`. -/
structure Transport (σ ι : Type) where
  /-- Whether the transport keeps the channel that it is handed. One that does
  not leaves the channel without its other end. -/
  keepsChannel : Bool := true
  /-- The answer to a call, when the server is at the given address. -/
  call : Option String → Call → σ → Reply σ
  /-- What the transport does between the calls. -/
  stimulate : ι → σ → Reply σ

/-! ## A transport in use -/

/-- A transport with its address and its channel. -/
structure Link (σ : Type) where
  uri : Option String := none
  channel : Channel := {}
  state : σ

namespace Link

variable {σ ι : Type}

/-- The link after an answer. -/
def absorb (l : Link σ) (r : Reply σ) : Link σ :=
  { l with state := r.state, channel := l.channel.putAll r.signals }

/-- Makes a call. -/
def call (t : Transport σ ι) (c : Call) (l : Link σ) : Except Error Unit × Link σ :=
  let reply := t.call l.uri c l.state
  (reply.outcome, l.absorb reply)

/-- Lets the transport act. -/
def stimulate (t : Transport σ ι) (i : ι) (l : Link σ) : Link σ :=
  l.absorb (t.stimulate i l.state)

/-- Sets the address. -/
def target (uri : String) (l : Link σ) : Link σ :=
  { l with uri := some uri }

/-- Hands the transport a new channel. -/
def attach (t : Transport σ ι) (l : Link σ) : Link σ :=
  { l with channel := { isOpen := t.keepsChannel } }

/-- Closes the connection and opens it again. It stays closed if that fails. -/
def reconnect (t : Transport σ ι) (l : Link σ) : Except Error Unit × Link σ :=
  match l.call t .closeLink with
  | (.error e, closed) => (.error e, closed)
  | (.ok (), closed) => closed.call t .openLink

end Link

end Realtime
