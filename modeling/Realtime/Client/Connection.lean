import Realtime.Client.Callbacks

/-!
# Connecting, logging in, processing, closing

The operations that drive a connection. Whatever goes wrong while a connection
is being made or a login is under way ends the connection, except that refused
credentials leave it open for another attempt.
-/

namespace Realtime.Session

variable {σ ι : Type}

/-- Runs the commands of callbacks as deep as the surroundings allow. -/
def runner (w : Surroundings σ ι) : Runner σ ι :=
  runCommands w.transport w.patience

/-! ## Messages of the server -/

/-- Refuses a message that the protocol does not allow, and ends the
connection. -/
def refuse (w : Surroundings σ ι) (phase : Phase) (m : Message) : Session σ ι Unit := do
  shut w.transport
  failReported (.invalidTransition phase m.header.text)

/-- Passes a message on to where it belongs. A heartbeat is answered at once. -/
def dispatch (w : Surroundings σ ι) (m : Message) : Session σ ι Unit :=
  match m.header.topic with
  | .connection =>
    if m.header.action = .ping then send w.transport (.plain .connection .pong) else pure ()
  | .event => notifyEvent (runner w) m
  | .presence => notifyPresence (runner w) m
  | _ => pure ()

/-- Lets a message of the server take effect. One that ends the connection is not
passed on. -/
def handle (w : Surroundings σ ι) (m : Message) : Session σ ι Unit := do
  let phase := (← get).phase
  let next := phase.next .server m
  if next = .error then refuse w phase m
  else
    modify fun c => (c.note (.handled m)).enter next
    if next = .disconnected then modify (Client.closeLink w.transport)
    else dispatch w m

/-- Waits for the next message that is no heartbeat, and handles it and the
heartbeats before it. -/
def awaitReply (w : Surroundings σ ι) : Nat → Session σ ι Message
  | 0 => throw .exhausted
  | rounds + 1 => do
    match (← nextMessage w.transport true) with
    | none => fail .timeout
    | some m => do
      handle w m
      if m.isPing then awaitReply w rounds else pure m

/-- Ends a connection in a phase that an operation cannot go on from. -/
def giveUp {α : Type} (w : Surroundings σ ι) (operation : Operation) : Session σ ι α := do
  let e := Error.invalidState operation (← get).phase
  shut w.transport
  failReported e

/-- Ends a connection after a failure, unless it has ended already. -/
def abandon (w : Surroundings σ ι) : Session σ ι Unit := do
  if (← get).phase ≠ .disconnected then shut w.transport

/-! ## Connecting -/

/-- The answer to a challenge, which names the address the client wants. -/
def challengeResponse (uri : String) : Message :=
  .plain .connection .challengeResponse [Utf8.encode uri]

/-- The address that a redirection names. -/
def redirectTarget (reply : Message) : String :=
  Utf8.lossy (reply.arguments.headD [])

/-- Follows a redirection: gives up the connection and changes the address. -/
def followRedirect (w : Surroundings σ ι) (reply : Message) : Session σ ι Unit := do
  let target := redirectTarget reply
  match w.checkUri target with
  | .error fault => fail (.url fault)
  | .ok () => modify fun c => (c.closeLink w.transport).retarget target

/-- Refuses to follow one more redirection. -/
def refuseRedirect (w : Surroundings σ ι) : Session σ ι Unit := do
  shut w.transport
  failReported (.tooManyRedirections (← get).config.maxRedirections.toNat)

/-- Opens the transport and is challenged. -/
def openAndAwaitChallenge (w : Surroundings σ ι) : Session σ ι Unit := do
  let uri := (← get).link.uri
  ofOutcome (← use w.transport .openLink (.opened uri))
  let _ ← awaitReply w w.patience
  if (← get).phase ≠ .challenging then giveUp w .connect

/-- Makes a connection, following at most `hops` redirections. -/
def handshake (w : Surroundings σ ι) (hops : Nat) : Session σ ι Unit := do
  openAndAwaitChallenge w
  send w.transport (challengeResponse (← get).uri)
  let reply ← awaitReply w w.patience
  match (← get).phase with
  | .awaitAuthentication => pure ()
  | .awaitConnection =>
    match hops with
    | 0 => refuseRedirect w
    | fewer + 1 => do
      followRedirect w reply
      handshake w fewer
  | .disconnected => failReported .rejected
  | _ => giveUp w .connect

/-- Starts a session, which a new client and a disconnected one may. -/
def startSession : Session σ ι Unit := do
  match (← get).phase with
  | .awaitConnection => pure ()
  | .disconnected =>
    modify fun c => (c.discardIncoming.note .restarted).enter .awaitConnection
  | phase => fail (.invalidState .connect phase)

/-- Connects to the server, up to where it awaits a login. The redirection that
reaches the limit is not followed. -/
def connect (w : Surroundings σ ι) : Session σ ι Unit := do
  startSession
  let hops := (← get).config.maxRedirections.toNat - 1
  match (← attempt (handshake w hops)) with
  | .ok () => pure ()
  | .error e => do
    abandon w
    fail e

/-! ## Logging in -/

/-- The request to log in. -/
def loginMessage (auth : String) : Message :=
  .plain .auth .request [Utf8.encode auth]

/-- Why the server refused a login: what it says, if that is a typed string, or
else the header of its message. -/
def refusalReason (reply : Message) : String :=
  match reply.arguments with
  | [] => reply.header.text
  | argument :: _ =>
    match Payload.decode argument with
    | .ok (.string reason) => reason
    | _ => reply.header.text

/-- Sends the credentials and does what the answer calls for. -/
def authenticate (w : Surroundings σ ι) (auth : String) : Session σ ι (Option Bytes) := do
  send w.transport (loginMessage auth)
  let reply ← awaitReply w w.patience
  match (← get).phase with
  | .connected => do
    flush w.transport
    pure reply.arguments.head?
  | .awaitAuthentication => failReported (.authenticationFailed (refusalReason reply))
  | .disconnected => failReported (.authenticationFailed (refusalReason reply))
  | _ => giveUp w .login

/-- Whether a failure says that the credentials were refused. -/
def isRefusal : Error → Bool
  | .authenticationFailed _ => true
  | _ => false

/-- Logs in with credentials, and gives what the server says of the user. -/
def login (w : Surroundings σ ι) (auth : String) : Session σ ι (Option Bytes) := do
  let phase := (← get).phase
  if phase ≠ .awaitAuthentication then fail (.invalidState .login phase)
  match (← attempt (authenticate w auth)) with
  | .ok data => pure data
  | .error e => do
    if !isRefusal e then abandon w
    fail e

/-- The credentials of someone without any: an empty object. -/
def anonymous : String :=
  "\x7b\x7d"

/-! ## Processing and closing -/

/-- Handles the messages that have come in. -/
def drain (w : Surroundings σ ι) : Nat → Session σ ι Unit
  | 0 => throw .exhausted
  | rounds + 1 => do
    match (← nextMessage w.transport false) with
    | none => pure ()
    | some m => do
      handle w m
      drain w rounds

/-- Handles the messages that have come in, and then sends what is to be sent. -/
def process (w : Surroundings σ ι) : Session σ ι Unit := do
  drain w w.patience
  flush w.transport

/-- Closes the connection. The client is disconnected even if the transport
fails to close. -/
def close (w : Surroundings σ ι) : Session σ ι Unit := do
  let outcome ← use w.transport .closeLink .closed
  modify fun c => (c.enter .disconnected).discardIncoming
  ofOutcome outcome

end Realtime.Session
