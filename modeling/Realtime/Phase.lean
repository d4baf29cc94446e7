import Realtime.Message

/-!
# The phases of a connection

A connection starts out unopened, is challenged, answers with its address, may
be redirected or rejected, then authenticates, and is connected until it ends.
`Phase.next` says which message of which party moves it on; every message that
is not expected leads to the phase `error`.
-/

namespace Realtime

/-- The two ends of a connection. -/
inductive Party where
  | client
  | server
  deriving DecidableEq, Repr

/-- Where a connection stands. -/
inductive Phase where
  | error
  | awaitConnection
  | challenging
  | challengingWait
  | awaitAuthentication
  | authenticating
  | connected
  | disconnected
  deriving DecidableEq, Repr

namespace Phase

/-- The name of a phase. -/
def name : Phase → String
  | .error => "ERROR"
  | .awaitConnection => "AWAIT_CONNECTION"
  | .challenging => "CHALLENGING"
  | .challengingWait => "CHALLENGING_WAIT"
  | .awaitAuthentication => "AWAIT_AUTHENTICATION"
  | .authenticating => "AUTHENTICATING"
  | .connected => "CONNECTED"
  | .disconnected => "DISCONNECTED"

/-- Every phase. -/
def all : List Phase :=
  [.error, .awaitConnection, .challenging, .challengingWait, .awaitAuthentication,
    .authenticating, .connected, .disconnected]

/-- A phase that no message leads out of. -/
def isTerminal (p : Phase) : Bool :=
  p = .error || p = .disconnected

/-- The heartbeat of the server and the answer of the client. They may come at
any time while the connection lives. -/
def isHeartbeat (sender : Party) (h : Header) : Bool :=
  match sender, h with
  | .server, ⟨.connection, .ping, false⟩ => true
  | .client, ⟨.connection, .pong, false⟩ => true
  | _, _ => false

/-- The step that a header other than a heartbeat makes in a phase that is not
terminal. A connected client takes part in any exchange. -/
def step : Phase → Party → Header → Phase
  | .awaitConnection, .server, ⟨.connection, .challenge, false⟩ => .challenging
  | .challenging, .client, ⟨.connection, .challengeResponse, false⟩ => .challengingWait
  | .challengingWait, .server, ⟨.connection, .challengeResponse, true⟩ => .awaitAuthentication
  | .challengingWait, .server, ⟨.connection, .redirect, false⟩ => .awaitConnection
  | .challengingWait, .server, ⟨.connection, .reject, false⟩ => .disconnected
  | .awaitAuthentication, .client, ⟨.auth, .request, false⟩ => .authenticating
  | .authenticating, .server, ⟨.auth, .request, true⟩ => .connected
  | .authenticating, .server, ⟨.auth, .tooManyAuthAttempts, false⟩ => .disconnected
  | .authenticating, .server, ⟨.auth, .invalidAuthMessage, false⟩ => .disconnected
  | .authenticating, .server, ⟨.auth, .invalidAuthData, false⟩ => .awaitAuthentication
  | .connected, _, _ => .connected
  | _, _, _ => .error

/-- The phase after `sender` sent the message. -/
def next (p : Phase) (sender : Party) (m : Message) : Phase :=
  if p.isTerminal then .error
  else if isHeartbeat sender m.header then p
  else p.step sender m.header

/-- The phase after a whole exchange. -/
def run (p : Phase) (exchange : List (Party × Message)) : Phase :=
  exchange.foldl (fun q turn => q.next turn.1 turn.2) p

end Phase

end Realtime
