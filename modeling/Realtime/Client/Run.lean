import Realtime.Client.Connection

/-!
# Running a client

A client is made for an address, and then asked for one thing after the other.
Each request leads to an answer or an error and to a new state; the entries
that the journal has gained tell what happened in between.
-/

namespace Realtime

/-- What a program may ask of a client. -/
inductive Request (ι : Type) where
  | connect
  | login (auth : String)
  | process
  | close
  | command (c : Command ι)

/-- A request that was carried out. -/
structure Turn (σ ι : Type) where
  result : Except Error Answer
  before : Client σ ι
  after : Client σ ι

namespace Client

variable {σ ι : Type}

/-- A client for an address, with a transport in its first state. -/
def create (w : Surroundings σ ι) (uri : String) (config : Config) (state : σ) :
    Except Error (Client σ ι) :=
  if uri = "" then .error .emptyUri
  else
    match w.checkUri uri with
    | .error fault => .error (.url fault)
    | .ok () =>
      let link : Link σ := { state := state }
      .ok { config := config, uri := uri, link := (link.target uri).attach w.transport }

/-- Carries out a request. -/
def execute (w : Surroundings σ ι) : Request ι → Session σ ι Answer
  | .connect => do Session.connect w; pure .nothing
  | .login auth => do return .userData (← Session.login w auth)
  | .process => do Session.process w; pure .nothing
  | .close => do Session.close w; pure .nothing
  | .command c => Session.perform w.transport (Session.runner w) c

/-- Carries out requests one after the other. A request that does not end is the
last one. -/
def run (w : Surroundings σ ι) (c : Client σ ι) : List (Request ι) → List (Turn σ ι)
  | [] => []
  | request :: rest =>
    match execute w request c with
    | .ok answer after => ⟨.ok answer, c, after⟩ :: run w after rest
    | .error (.failed e) after => ⟨.error e, c, after⟩ :: run w after rest
    | .error .exhausted _ => []

end Client

/-- What happened during a turn. -/
def Turn.occurrences {σ ι : Type} (t : Turn σ ι) : List (Occurrence ι) :=
  (t.after.journal.drop t.before.journal.length).map Entry.what

end Realtime
