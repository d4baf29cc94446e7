import Realtime.Transport

/-!
# Trying out a transport

A transport on its own, without a client: each step makes one call or asks for
the address, and what came on the channel is taken off after it.
-/

namespace Realtime.Bench

/-- What can be done with a transport. -/
inductive Step where
  | uri
  | target (uri : String)
  | attach
  | openLink
  | closeLink
  | reconnect
  | shutdown
  | send (frame : Bytes)
  deriving DecidableEq, Repr

/-- What a step led to. -/
structure Turn (σ : Type) where
  /-- The address, where one was asked for and is set. -/
  result : Except Error (Option String)
  events : List Event
  link : Link σ

variable {σ ι : Type}

/-- The result of a call, which has no value. -/
def done (answer : Except Error Unit × Link σ) : Except Error (Option String) × Link σ :=
  (answer.1.map fun _ => none, answer.2)

/-- Takes a step. -/
def perform (t : Transport σ ι) (l : Link σ) : Step → Except Error (Option String) × Link σ
  | .uri => (.ok l.uri, l)
  | .target uri => (.ok none, l.target uri)
  | .attach => (.ok none, l.attach t)
  | .openLink => done (l.call t .openLink)
  | .closeLink => done (l.call t .closeLink)
  | .reconnect => done (l.reconnect t)
  | .shutdown => done (l.call t .shutdown)
  | .send frame => done (l.call t (.send frame))

/-- Takes a step and takes the events off the channel. -/
def turn (t : Transport σ ι) (l : Link σ) (step : Step) : Turn σ :=
  let (result, after) := perform t l step
  { result := result
    events := after.channel.queue
    link := { after with channel := after.channel.drained } }

/-- Takes steps one after the other. -/
def run (t : Transport σ ι) (l : Link σ) : List Step → List (Turn σ)
  | [] => []
  | step :: rest =>
    let first := turn t l step
    first :: run t first.link rest

end Realtime.Bench
