import Realtime.Proofs.Client.Causes

/-!
# What is to be expected

A request may come with commands, and a server with messages, of which not all are to be
expected. `Manners` says which are, and that what follows from them is expected too. What a
client keeps for its program is its desk; it is tidy if nothing lies there that is not to be
expected, and every change that a client makes to it keeps it so.

Results:
1. `Tidy.posted`, `Tidy.subscribed`, `Tidy.listened`: changes that keep a desk tidy.
-/

namespace Realtime

variable {σ ι : Type}

/-! ## Manners -/

/-- A callback that the command registers may give the other command. -/
inductive Command.Leads : Command ι → Command ι → Prop
  | subscribe {name tag : String} {react : Nat → Bytes → List (Command ι)} {before : Nat}
      {data : Bytes} {other : Command ι} : other ∈ react before data →
      Leads (.subscribe name tag react) other
  | listen {pattern tag : String} {accepts : Nat → String → Bool → Bool}
      {react : Nat → String → Bool → List (Command ι)} {before : Nat} {name : String}
      {subscribed : Bool} {other : Command ι} : other ∈ react before name subscribed →
      Leads (.listen pattern tag accepts react) other
  | followPresence {tag : String} {react : Nat → String → Bool → List (Command ι)}
      {before : Nat} {user : String} {joined : Bool} {other : Command ι} :
      other ∈ react before user joined → Leads (.followPresence tag react) other
  | queryPresence {tag : String} {react : List String → List (Command ι)}
      {users : List String} {other : Command ι} :
      other ∈ react users → Leads (.queryPresence tag react) other

/-- Which commands a program may give, which messages a client may say, and which messages
of the server may come. -/
structure Manners (ι : Type) where
  fit : Command ι → Prop
  say : Message → Prop
  decent : Message → Prop
  leads {command other : Command ι} : fit command → command.Leads other → fit other
  voices {command : Command ι} {m : Message} : fit command → command.wish? = some m → say m
  pong : say (.plain .connection .pong)
  follow : say (Client.presenceMessage .subscribe)
  query : say Client.queryMessage
  /-- A decision repeats what the server said. -/
  decides {m : Message} {pattern name : Bytes} {others : List Bytes} (accepted : Bool) :
    decent m → m.arguments = pattern :: name :: others →
      say (.plain .event (if accepted then .listenAccept else .listenReject)
        [Utf8.encode (Utf8.lossy pattern), Utf8.encode (Utf8.lossy name)])

/-- A callback that gives no commands but those to be expected. -/
def Manners.Approves {α : Type} (M : Manners ι) (callback : Callback ι α) : Prop :=
  ∀ before told, ∀ command ∈ callback.react before told, M.fit command

/-- A request that is to be expected of a program. -/
def Manners.Allows (M : Manners ι) : Request ι → Prop
  | .login auth => M.say (Session.loginMessage auth)
  | .command command => M.fit command
  | _ => True

/-! ## The desk -/

/-- What a client keeps for its program. -/
structure Desk (ι : Type) where
  outbox : List Message
  events : EventBoard ι
  presence : PresenceBoard ι
  nextId : SubscriptionId
  calls : List Nat

/-- Nothing lies on the desk that is not to be expected. -/
structure Tidy (M : Manners ι) (desk : Desk ι) : Prop where
  outbox : ∀ m ∈ desk.outbox, M.say m
  sendQueue : ∀ m ∈ desk.events.sendQueue, M.say m
  subscriptions : ∀ name subscriptions,
    desk.events.subscriptions.find? name = some subscriptions →
      M.say (Client.eventMessage .subscribe name) ∧ ∀ s ∈ subscriptions, M.Approves s.callback
  listeners : ∀ pattern listener, desk.events.listeners.find? pattern = some listener →
    M.say (Client.eventMessage .listen pattern) ∧ M.Approves listener.callback
  followers : ∀ s ∈ desk.presence.subscriptions, M.Approves s.callback
  querents : ∀ q ∈ desk.presence.querents, ∀ users, ∀ command ∈ q.react users, M.fit command

namespace Tidy

variable {M : Manners ι} {desk : Desk ι}

/-- What is to be expected by some manners is to be expected by more permissive ones. -/
theorem mono {N : Manners ι} (h : Tidy M desk) (hfit : ∀ command, M.fit command → N.fit command)
    (hsay : ∀ m, M.say m → N.say m) : Tidy N desk where
  outbox m hm := hsay m (h.outbox m hm)
  sendQueue m hm := hsay m (h.sendQueue m hm)
  subscriptions name subscriptions hfound := by
    obtain ⟨hname, happroved⟩ := h.subscriptions name subscriptions hfound
    exact ⟨hsay _ hname, fun s hs before told command hcommand =>
      hfit command (happroved s hs before told command hcommand)⟩
  listeners pattern listener hfound := by
    obtain ⟨hpattern, happroved⟩ := h.listeners pattern listener hfound
    exact ⟨hsay _ hpattern, fun before told command hcommand =>
      hfit command (happroved before told command hcommand)⟩
  followers s hs before told command hcommand :=
    hfit command (h.followers s hs before told command hcommand)
  querents q hq users command hcommand := hfit command (h.querents q hq users command hcommand)

theorem withOutbox (h : Tidy M desk) {outbox : List Message} (houtbox : ∀ m ∈ outbox, M.say m) :
    Tidy M { desk with outbox := outbox } :=
  { h with outbox := houtbox }

theorem posted (h : Tidy M desk) {m : Message} (hm : M.say m) :
    Tidy M { desk with outbox := desk.outbox ++ [m] } :=
  h.withOutbox (List.forall_mem_append.mpr ⟨h.outbox, List.forall_mem_singleton.mpr hm⟩)

theorem queued (h : Tidy M desk) {m : Message} (hm : M.say m) :
    Tidy M { desk with
      events := { desk.events with sendQueue := desk.events.sendQueue ++ [m] } } :=
  { h with
    sendQueue := List.forall_mem_append.mpr ⟨h.sendQueue, List.forall_mem_singleton.mpr hm⟩ }

theorem numbered (h : Tidy M desk) (nextId : SubscriptionId) (calls : List Nat) :
    Tidy M { desk with nextId := nextId, calls := calls } :=
  { h with }

theorem subscribed (h : Tidy M desk) {name : String}
    {subscriptions : List (Subscription ι Bytes)}
    (hname : M.say (Client.eventMessage .subscribe name))
    (happroved : ∀ s ∈ subscriptions, M.Approves s.callback) :
    Tidy M { desk with events := { desk.events with
      subscriptions := desk.events.subscriptions.insert name subscriptions } } :=
  { h with subscriptions := NameMap.forall_insert h.subscriptions ⟨hname, happroved⟩ }

theorem unsubscribed (h : Tidy M desk) (name : String) :
    Tidy M { desk with events :=
      { desk.events with subscriptions := desk.events.subscriptions.erase name } } :=
  { h with subscriptions := NameMap.forall_erase h.subscriptions }

theorem listened (h : Tidy M desk) {pattern : String} {listener : Listener ι}
    (hpattern : M.say (Client.eventMessage .listen pattern))
    (happroved : M.Approves listener.callback) :
    Tidy M { desk with events :=
      { desk.events with listeners := desk.events.listeners.insert pattern listener } } :=
  { h with listeners := NameMap.forall_insert h.listeners ⟨hpattern, happroved⟩ }

theorem unlistened (h : Tidy M desk) (pattern : String) :
    Tidy M { desk with events :=
      { desk.events with listeners := desk.events.listeners.erase pattern } } :=
  { h with listeners := NameMap.forall_erase h.listeners }

theorem withFollowers (h : Tidy M desk) {followers : List (Subscription ι (String × Bool))}
    (happroved : ∀ s ∈ followers, M.Approves s.callback) :
    Tidy M { desk with presence := { desk.presence with subscriptions := followers } } :=
  { h with followers := happroved }

theorem withQuerents (h : Tidy M desk) {querents : List (Querent ι)}
    (happroved : ∀ q ∈ querents, ∀ users, ∀ command ∈ q.react users, M.fit command) :
    Tidy M { desk with presence := { desk.presence with querents := querents } } :=
  { h with querents := happroved }

end Tidy

namespace Client

def desk (c : Client σ ι) : Desk ι :=
  ⟨c.outbox, c.events, c.presence, c.nextId, c.calls⟩

def withDesk (desk : Desk ι) (c : Client σ ι) : Client σ ι :=
  { c with
    outbox := desk.outbox
    events := desk.events
    presence := desk.presence
    nextId := desk.nextId
    calls := desk.calls }

end Client

/-! ## Calls -/

/-- The occurrence is a call of the transport. -/
def Occurrence.isCall : Occurrence ι → Bool
  | .opened _ _ | .closed _ | .sent _ _ => true
  | _ => false

/-- A call of the transport that a client may make, with what it writes down about it. -/
inductive Usage (M : Manners ι) : Call → (Except Error Unit → Occurrence ι) → Prop
  | opening (uri : Option String) : Usage M .openLink (.opened uri)
  | closing : Usage M .closeLink .closed
  | sending {m : Message} : M.say m → Usage M (.send m.encode) (.sent m)

end Realtime
