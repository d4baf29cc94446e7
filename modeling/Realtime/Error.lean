import Realtime.Frame
import Realtime.Json.Value
import Realtime.Phase
import Realtime.Url.Fault

/-!
# Errors

What can go wrong between a client and its server, and the wording of each.
-/

namespace Realtime

/-- An operation that is allowed in certain phases only. -/
inductive Operation where
  | connect
  | login
  deriving DecidableEq, Repr

/-- The name of an operation. -/
def Operation.name : Operation → String
  | .connect => "connect"
  | .login => "login"

/-- Why a web socket could not be opened. -/
inductive SocketFault where
  /-- The scheme of the address is not one of web sockets. -/
  | unsupportedScheme
  /-- There is no way to the server. -/
  | unreachable
  deriving DecidableEq, Repr

/-- The wording of a fault. -/
def SocketFault.message : SocketFault → String
  | .unsupportedScheme => "URL error: URL scheme not supported"
  | .unreachable => "IO error: network is unreachable"

/-- The wording of why a JSON text is refused. -/
def Json.Fault.message : Json.Fault → String
  | .malformed => "malformed text"
  | .unfinished => "unexpected end of text"
  | .mismatch => "unexpected kind of value"

/-- What went wrong. -/
inductive Error where
  | socket (fault : SocketFault)
  | url (fault : Url.Fault)
  | json (fault : Json.Fault)
  | frame (fault : Frame.Fault)
  | versionMismatch (expected actual : String)
  | emptyUri
  /-- A name was empty; `what` says of which thing. -/
  | emptyName (what : String)
  | invalidState (operation : Operation) (phase : Phase)
  /-- The protocol does not allow a message with this header now. -/
  | invalidTransition (phase : Phase) (header : String)
  | tooManyRedirections (limit : Nat)
  | rejected
  | authenticationFailed (reason : String)
  | suddenDisconnect
  | transport (reason : String)
  | notConnected
  | send (reason : String)
  | timeout
  | invalidPayload (reason : String)
  deriving DecidableEq, Repr

/-- The wording of an error. -/
def Error.message : Error → String
  | .socket fault => s!"WebSocket error: {fault.message}"
  | .url fault => s!"URL parse error: {fault.message}"
  | .json fault => s!"JSON error: {fault.message}"
  | .frame fault => s!"Parser error: {fault.message}"
  | .versionMismatch expected actual => s!"Version mismatch; expected {expected}, got {actual}"
  | .emptyUri => "URI must not be empty"
  | .emptyName what => s!"Empty {what} name"
  | .invalidState operation phase => s!"Cannot {operation.name} in state {phase.name}"
  | .invalidTransition phase header =>
    s!"Invalid state transition from {phase.name} on {header}"
  | .tooManyRedirections limit => s!"Too many redirections (limit {limit})"
  | .rejected => "Connection rejected by server"
  | .authenticationFailed reason => s!"Authentication failed: {reason}"
  | .suddenDisconnect => "Connection closed unexpectedly"
  | .transport reason => s!"Transport error: {reason}"
  | .notConnected => "Not connected"
  | .send reason => s!"Send error: {reason}"
  | .timeout => "Timed out waiting for the server"
  | .invalidPayload reason => s!"Invalid payload: {reason}"

end Realtime
