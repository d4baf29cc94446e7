import Realtime.Client.Session

/-!
# Events, listeners and presence

What a client does for its program and for the server's messages about events
and presence. Whoever is to be told is told in the order in which they
subscribed, and all who were subscribed when the telling began are told, even
if one of them unsubscribes another.

Callbacks run as soon as they are called, and so do the commands that they
give. The functions here take the means to run commands as an argument, and
`Session.runCommands` ties the knot.
-/

namespace Realtime.Session

variable {σ ι : Type}

/-- The means to run the commands of a callback. -/
abbrev Runner (σ ι : Type) :=
  List (Command ι) → Session σ ι Unit

/-! ## Calling back -/

/-- Calls a callback: writes the call down, counts it, and runs the commands that
the callback gives. -/
def invoke {α : Type} (run : Runner σ ι) (callback : Callback ι α) (told : α)
    (what : Invocation) : Session σ ι Unit := do
  modify fun c => c.note (.invoked what)
  let before ← modifyGet (Client.countCall callback.slot)
  run (callback.react before told)

/-- Tells every subscriber of an event. -/
def notifySubscribers (run : Runner σ ι) (name : String) (data : Bytes) : Session σ ι Unit := do
  match (← get).events.subscriptions.find? name with
  | none => pure ()
  | some subscriptions =>
    subscriptions.forM fun s => invoke run s.callback data (.event s.callback.tag data)

/-- Asks the listener for a pattern whether to provide an event, and passes its
decision on when the server wants to know. -/
def notifyListener (run : Runner σ ι) (pattern name : String) (subscribed : Bool) :
    Session σ ι Unit := do
  let c ← get
  match c.events.listeners.find? pattern with
  | none => pure ()
  | some listener => do
    let before := c.callsAt listener.callback.slot
    invoke run listener.callback (name, subscribed)
      (.listener listener.callback.tag name subscribed)
    if subscribed then
      let accepted := listener.accepts before name subscribed
      let action := if accepted then Action.listenAccept else .listenReject
      modify fun c =>
        c.post (.plain .event action [Utf8.encode pattern, Utf8.encode name])

/-- Tells everyone who follows presence. -/
def notifyPresenceSubscribers (run : Runner σ ι) (user : String) (joined : Bool) :
    Session σ ι Unit := do
  (← get).presence.subscriptions.forM fun s =>
    invoke run s.callback (user, joined) (.presence s.callback.tag user joined)

/-- Answers everyone who waits for a list of users. They stop waiting before the
first is answered. -/
def answerQuerents (run : Runner σ ι) (users : List String) : Session σ ι Unit := do
  let querents := (← get).presence.querents
  modify fun c => { c with presence := { c.presence with querents := [] } }
  querents.forM fun q => do
    modify fun c => c.note (.invoked (.users q.tag users))
    run (q.react users)

/-! ## Messages of the server -/

/-- A message of the server about events. Names that are no text are read as well
as they can be. -/
def notifyEvent (run : Runner σ ι) (m : Message) : Session σ ι Unit :=
  match m.header.action, m.header.isAck, m.arguments with
  | .event, false, name :: data :: _ => notifySubscribers run (Utf8.lossy name) data
  | .patternFound, false, pattern :: name :: _ =>
    notifyListener run (Utf8.lossy pattern) (Utf8.lossy name) true
  | .patternRemoved, false, pattern :: name :: _ =>
    notifyListener run (Utf8.lossy pattern) (Utf8.lossy name) false
  | _, _, _ => pure ()

/-- A message of the server about presence. -/
def notifyPresence (run : Runner σ ι) (m : Message) : Session σ ι Unit :=
  match m.header.action, m.header.isAck, m.arguments with
  | .query, false, users => answerQuerents run (users.map Utf8.lossy)
  | .presenceJoin, false, user :: _ => notifyPresenceSubscribers run (Utf8.lossy user) true
  | .presenceLeave, false, user :: _ => notifyPresenceSubscribers run (Utf8.lossy user) false
  | _, _, _ => pure ()

/-! ## Commands about events -/

/-- Changes the side of events. -/
def modifyEvents (change : EventBoard ι → EventBoard ι) : Session σ ι Unit :=
  modify fun c => { c with events := change c.events }

/-- Changes the side of presence. -/
def modifyPresence (change : PresenceBoard ι → PresenceBoard ι) : Session σ ι Unit :=
  modify fun c => { c with presence := change c.presence }

/-- Puts a message in the outbox, if the client is connected. -/
def post (m : Message) : Session σ ι Unit :=
  modify (·.post m)

/-- The message of an emitted event. -/
def emitMessage (name : String) (data : Bytes) : Message :=
  .plain .event .event [Utf8.encode name, data]

/-- Accepts an event for sending: now, or once the client is connected. -/
def enqueue (m : Message) : Session σ ι Unit :=
  modify fun c =>
    let c := c.note (.emitted m)
    if c.phase = .connected then c.post m
    else { c with events := { c.events with sendQueue := c.events.sendQueue ++ [m] } }

/-- Emits an event, to the server and to the program's own subscribers. -/
def emit (run : Runner σ ι) (name : String) (data : Bytes) : Session σ ι Unit := do
  if name = "" then fail (.emptyName "event")
  match Utf8.decode data with
  | .error fault => fail (.invalidPayload s!"event data is not UTF-8: {fault.message}")
  | .ok _ => do
    enqueue (emitMessage name data)
    notifySubscribers run name data

/-- Emits a typed value. -/
def emitTyped (run : Runner σ ι) (name : String) (v : Json.Value) : Session σ ι Unit :=
  emit run name (Payload.encode v)

/-- Subscribes to an event. The server is told of the first subscription to a
name only. -/
def subscribe (name tag : String) (react : Nat → Bytes → List (Command ι)) :
    Session σ ι SubscriptionId := do
  if name = "" then fail (.emptyName "event subscription")
  let id ← modifyGet Client.newId
  let slot ← modifyGet Client.newSlot
  let before := ((← get).events.subscriptions.find? name).getD []
  modifyEvents fun e =>
    { e with subscriptions := e.subscriptions.insert name (before ++ [⟨id, slot, tag, react⟩]) }
  if before.isEmpty then post (Client.eventMessage .subscribe name)
  pure id

/-- Drops all subscriptions to a name. -/
def unsubscribe (name : String) : Session σ ι Unit := do
  if (← get).events.subscriptions.contains name then
    modifyEvents fun e => { e with subscriptions := e.subscriptions.erase name }
    post (Client.eventMessage .unsubscribe name)

/-- Drops one subscription to a name; with the last one the name itself. -/
def unsubscribeId (name : String) (id : SubscriptionId) : Session σ ι Unit := do
  match (← get).events.subscriptions.find? name with
  | none => pure ()
  | some subscriptions =>
    if subscriptions.any (·.id = id) then
      let rest := subscriptions.eraseP (·.id = id)
      if rest.isEmpty then unsubscribe name
      else modifyEvents fun e => { e with subscriptions := e.subscriptions.insert name rest }

/-- Listens for subscriptions to names that match a pattern. Whoever listens
already goes on. -/
def listen (pattern tag : String) (accepts : Nat → String → Bool → Bool)
    (react : Nat → String → Bool → List (Command ι)) : Session σ ι Unit := do
  if pattern = "" then fail (.emptyName "listen pattern")
  if !(← get).events.listeners.contains pattern then
    let slot ← modifyGet Client.newSlot
    let callback := ⟨slot, tag, fun before told => react before told.1 told.2⟩
    modifyEvents fun e =>
      { e with listeners := e.listeners.insert pattern ⟨callback, accepts⟩ }
    post (Client.eventMessage .listen pattern)

/-- Stops listening for a pattern. -/
def unlisten (pattern : String) : Session σ ι Unit := do
  if (← get).events.listeners.contains pattern then
    modifyEvents fun e => { e with listeners := e.listeners.erase pattern }
    post (Client.eventMessage .unlisten pattern)

/-! ## Commands about presence -/

/-- Follows presence. The server is told of the first subscription only. -/
def followPresence (tag : String) (react : Nat → String → Bool → List (Command ι)) :
    Session σ ι SubscriptionId := do
  let id ← modifyGet Client.newId
  let slot ← modifyGet Client.newSlot
  let callback := ⟨slot, tag, fun before told => react before told.1 told.2⟩
  let before := (← get).presence.subscriptions
  modifyPresence fun p => { p with subscriptions := before ++ [⟨id, callback⟩] }
  if before.isEmpty then post (Client.presenceMessage .subscribe)
  pure id

/-- Drops one subscription to presence. The server is told when none is left. -/
def unfollowPresence (id : SubscriptionId) : Session σ ι Unit := do
  let subscriptions := (← get).presence.subscriptions
  if subscriptions.any (·.id = id) then
    let rest := subscriptions.eraseP (·.id = id)
    modifyPresence fun p => { p with subscriptions := rest }
    if rest.isEmpty then post (Client.presenceMessage .unsubscribe)

/-- Drops all subscriptions to presence, and tells the server even if there were
none. -/
def unfollowAllPresence : Session σ ι Unit := do
  modifyPresence fun p => { p with subscriptions := [] }
  post (Client.presenceMessage .unsubscribe)

/-- Asks for everyone who is logged in. Those who ask while an answer is due wait
for the same one. -/
def queryPresence (tag : String) (react : List String → List (Command ι)) :
    Session σ ι Unit := do
  let before := (← get).presence.querents
  modifyPresence fun p => { p with querents := before ++ [⟨tag, react⟩] }
  if before.isEmpty then post Client.queryMessage

/-! ## Commands -/

/-- Runs one command. -/
def perform (t : Transport σ ι) (run : Runner σ ι) : Command ι → Session σ ι Answer
  | .emit name data => do emit run name data; pure .nothing
  | .emitJson name text => do
    match Json.decode (Utf8.encode text) with
    | .error fault => fail (.json fault)
    | .ok v => do emitTyped run name v; pure .nothing
  | .subscribe name tag react => do return .id (← subscribe name tag react)
  | .unsubscribe name => do unsubscribe name; pure .nothing
  | .unsubscribeId name id => do unsubscribeId name id; pure .nothing
  | .listen pattern tag accepts react => do listen pattern tag accepts react; pure .nothing
  | .unlisten pattern => do unlisten pattern; pure .nothing
  | .followPresence tag react => do return .id (← followPresence tag react)
  | .unfollowPresence id => do unfollowPresence id; pure .nothing
  | .unfollowAllPresence => do unfollowAllPresence; pure .nothing
  | .queryPresence tag react => do queryPresence tag react; pure .nothing
  | .stimulate i => do
    modify fun c => { c with link := c.link.stimulate t i }
    pure .nothing

/-- Runs the commands of a callback, and those of the callbacks that they lead
to, at most `depth` inside each other. A command that fails does not keep the
next one from running. -/
def runCommands (t : Transport σ ι) : Nat → Runner σ ι
  | _, [] => pure ()
  | 0, _ :: _ => throw .exhausted
  | depth + 1, commands =>
    commands.forM fun command => do
      let result ← attempt (perform t (runCommands t depth) command)
      modify fun c => c.note (.performed command result)

end Realtime.Session
