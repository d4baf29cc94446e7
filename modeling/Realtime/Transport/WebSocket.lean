import Realtime.Transport
import Realtime.Url

/-!
# Web sockets

The transport over web sockets, as far as it goes without a network: it checks
its address, and reports and returns why no socket can be opened. As no socket
is ever open, there is nothing to close and nowhere to send.
-/

namespace Realtime.WebSocket

/-- The schemes of web sockets. -/
def schemes : List String :=
  ["ws", "wss"]

/-- Why no socket can be opened at an address. -/
def openFault (uri : String) : SocketFault :=
  match Url.scheme? (Url.significant uri) with
  | some (scheme, _) => if scheme ∈ schemes then .unreachable else .unsupportedScheme
  | none => .unsupportedScheme

/-- The answer to a request for a socket. Only a failure to open one is an event;
an address that is none is refused at once. -/
def openReply (uri : Option String) : Reply Unit :=
  match uri with
  | none => { state := (), outcome := .error .emptyUri }
  | some address =>
    match Url.check address with
    | .error fault => { state := (), outcome := .error (.url fault) }
    | .ok () =>
      let fault := openFault address
      { state := ()
        outcome := .error (.socket fault)
        signals := [.event (.failed fault.message)] }

/-- The text frame that holds a buffer. A buffer that is no text has none. -/
def textFrame (buffer : Bytes) : Except Error String :=
  match Utf8.decode buffer with
  | .error fault => .error (.send s!"payload is not UTF-8: {fault.message}")
  | .ok text => .ok text

/-- Sends a buffer over a socket, if there is one; `push` is what the socket does with a text
frame. -/
def send (socket : Option (String → Except Error Unit)) (buffer : Bytes) : Except Error Unit :=
  match socket with
  | none => .error .notConnected
  | some push => do push (← textFrame buffer)

/-- The answer to a call. -/
def call (uri : Option String) (c : Call) (_ : Unit) : Reply Unit :=
  match c with
  | .openLink => openReply uri
  | .closeLink => { state := () }
  | .shutdown => { state := () }
  | .send frame => { state := (), outcome := send none frame }

/-- The transport over web sockets. Nothing that happens elsewhere reaches it. -/
def transport (ι : Type) : Transport Unit ι where
  call := call
  stimulate := fun _ _ => { state := () }

end Realtime.WebSocket
