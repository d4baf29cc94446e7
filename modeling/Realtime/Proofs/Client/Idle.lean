import Realtime.Proofs.Client.Manners
import Realtime.Proofs.Client.Routine

/-!
# Callbacks that ask for nothing

What a callback leads to is hard to foresee, because it may give commands. But if no callback
asks anything of its client, calling one is little more than writing it down. Then what a client
does for its program when a message takes effect can be said outright: who is called, in which
order, and with what. And nothing but the program's own commands changes who is to be told.

Results:
1. `notifySubscribers_calls`, ..., `dispatch_news`: who is called.
2. `Routine.heard_or_upkeep`: what is routine is a message that takes effect, or serves the
   connection.
3. `Routine.settled`: what is routine changes no books, and calls those whom messages call for.
4. `execute_settled`: so does every request that is no command.
5. `emit_answered`: an event that a program emits is told to its own subscribers.
6. `execute_told`: whatever a program asks for, the news is told as messages call for.
-/

namespace Realtime

variable {σ ι : Type}

/-! ## Idle callbacks -/

/-- The command asks nothing of the client. -/
def Command.isStimulus : Command ι → Bool
  | .stimulate _ => true
  | _ => false

/-- No callback asks anything of the client. Anything may be said. -/
def idleManners (ι : Type) : Manners ι where
  fit command := command.isStimulus
  say _ := True
  decent _ := True
  leads h hleads := by cases hleads <;> cases h
  voices _ _ := trivial
  pong := trivial
  follow := trivial
  query := trivial
  decides _ _ _ := trivial

/-! ## Who is to be called -/

/-- Something that a program may subscribe to. -/
inductive Interest where
  | event (name : String)
  | presence
  deriving DecidableEq, Repr

/-- The call tells of an event or of someone who came or left. -/
def Invocation.isNews : Invocation → Bool
  | .event _ _ | .presence _ _ _ => true
  | _ => false

/-- The message tells of an event or of someone who came or left. -/
def Message.isNews (m : Message) : Bool :=
  m.header = ⟨.event, .event, false⟩ || m.header = ⟨.presence, .presenceJoin, false⟩ ||
    m.header = ⟨.presence, .presenceLeave, false⟩

/-- The calls that a message asks for, if those with these tags are interested. -/
def Message.calls (tags : Interest → List String) (m : Message) : List Invocation :=
  match m.header, m.arguments with
  | ⟨.event, .event, false⟩, name :: data :: _ =>
    (tags (.event (Utf8.lossy name))).map (.event · data)
  | ⟨.presence, .presenceJoin, false⟩, user :: _ =>
    (tags .presence).map (.presence · (Utf8.lossy user) true)
  | ⟨.presence, .presenceLeave, false⟩, user :: _ =>
    (tags .presence).map (.presence · (Utf8.lossy user) false)
  | _, _ => []

theorem Message.calls_of_not_isNews {m : Message} (h : m.isNews = false)
    (tags : Interest → List String) : m.calls tags = [] := by
  unfold calls
  split <;> first | rfl | (next hheader _ => simp [isNews, hheader] at h)

theorem Message.calls_emitMessage (name : String) (data : Bytes) (tags : Interest → List String) :
    (Session.emitMessage name data).calls tags = (tags (.event name)).map (.event · data) := by
  show (tags (.event (Utf8.lossy (Utf8.encode name)))).map _ = _
  rw [Utf8.lossy_encode]

/-- Messages call for nothing but news. -/
theorem Message.calls_filter (m : Message) (tags : Interest → List String) :
    (m.calls tags).filter Invocation.isNews = m.calls tags := by
  refine List.filter_eq_self.mpr fun i hi => ?_
  unfold calls at hi
  split at hi
  · obtain ⟨_, _, rfl⟩ := List.mem_map.mp hi
    rfl
  · obtain ⟨_, _, rfl⟩ := List.mem_map.mp hi
    rfl
  · obtain ⟨_, _, rfl⟩ := List.mem_map.mp hi
    rfl
  · cases hi

theorem Message.isTraffic_of_isNews {m : Message} (h : m.isNews) : m.isTraffic := by
  unfold isNews at h
  unfold isTraffic
  simp only [Bool.or_eq_true, decide_eq_true_eq] at h ⊢
  obtain (hheader | hheader) | hheader := h <;> rw [hheader] <;> simp

namespace Occurrence

/-- The call that was made. -/
def invocation? : Occurrence ι → Option Invocation
  | .invoked i => some i
  | _ => none

/-- A callback was called, or the transport acted meanwhile. -/
def isReaction : Occurrence ι → Bool
  | .invoked _ | .performed (.stimulate _) _ => true
  | _ => false

/-- The calls that are to follow: an event that is emitted is an event to the program's own
subscribers, too. -/
def calls (tags : Interest → List String) : Occurrence ι → List Invocation
  | .handled m | .emitted m => m.calls tags
  | _ => []

theorem calls_of_reactions {whats : List (Occurrence ι)} (h : ∀ what ∈ whats, what.isReaction)
    (tags : Interest → List String) : whats.flatMap (·.calls tags) = [] := by
  refine List.flatMap_eq_nil_iff.mpr fun what hwhat => ?_
  have hreaction := h what hwhat
  unfold isReaction at hreaction
  split at hreaction
  · rfl
  · rfl
  · cases hreaction

/-- It serves the connection: it is neither about a message of the server nor about anything that a
program does. -/
def isUpkeep : Occurrence ι → Bool
  | .restarted | .opened _ _ | .closed _ | .targeted _ | .sent _ _ | .flushed _ | .reported _ =>
    true
  | _ => false

theorem calls_of_isUpkeep {what : Occurrence ι} (h : what.isUpkeep)
    (tags : Interest → List String) : what.invocation? = none ∧ what.calls tags = [] := by
  cases what with
  | handled | emitted | invoked | performed => cases h
  | _ => exact ⟨rfl, rfl⟩

end Occurrence

namespace Client

/-- The calls that were made. -/
def invocations (whats : List (Occurrence ι)) : List Invocation :=
  whats.filterMap Occurrence.invocation?

/-- The calls that told of events or of people who came or left. -/
def news (whats : List (Occurrence ι)) : List Invocation :=
  (invocations whats).filter Invocation.isNews

theorem invocations_append (front back : List (Occurrence ι)) :
    invocations (front ++ back) = invocations front ++ invocations back :=
  List.filterMap_append

theorem news_append (front back : List (Occurrence ι)) :
    news (front ++ back) = news front ++ news back := by
  rw [news, invocations_append, List.filter_append]
  rfl

/-- No callback of the client asks for anything. -/
def Idle (c : Client σ ι) : Prop :=
  Tidy (idleManners ι) c.desk

/-- The subscriptions to a name. -/
def subscribers (c : Client σ ι) (name : String) : List (Subscription ι Bytes) :=
  (c.events.subscriptions.find? name).getD []

theorem subscribers_of_find? {c : Client σ ι} {name : String}
    {found : Option (List (Subscription ι Bytes))} (h : c.events.subscriptions.find? name = found) :
    c.subscribers name = found.getD [] :=
  congrArg (Option.getD · []) h

/-- Who is interested in something, in the order of the subscriptions. -/
def tags (c : Client σ ι) : Interest → List String
  | .event name => (c.subscribers name).map (·.callback.tag)
  | .presence => c.presence.subscriptions.map (·.callback.tag)

/-! ## The books -/

/-- The same people are to be told of the same things, except that some no longer wait for a list
of users. -/
structure SameBooks (c d : Client σ ι) : Prop where
  subscriptions : d.events.subscriptions = c.events.subscriptions
  listeners : d.events.listeners = c.events.listeners
  followers : d.presence.subscriptions = c.presence.subscriptions
  querents : d.presence.querents ⊆ c.presence.querents
  nextId : d.nextId = c.nextId

variable {c d e : Client σ ι}

namespace SameBooks

theorem refl (c : Client σ ι) : SameBooks c c :=
  ⟨rfl, rfl, rfl, fun _ => id, rfl⟩

theorem trans (hfirst : SameBooks c d) (hsecond : SameBooks d e) : SameBooks c e where
  subscriptions := hsecond.subscriptions.trans hfirst.subscriptions
  listeners := hsecond.listeners.trans hfirst.listeners
  followers := hsecond.followers.trans hfirst.followers
  querents := List.Subset.trans hsecond.querents hfirst.querents
  nextId := hsecond.nextId.trans hfirst.nextId

theorem of_eq (hevents : d.events = c.events) (hpresence : d.presence = c.presence)
    (hnextId : d.nextId = c.nextId) : SameBooks c d where
  subscriptions := congrArg EventBoard.subscriptions hevents
  listeners := congrArg EventBoard.listeners hevents
  followers := congrArg PresenceBoard.subscriptions hpresence
  querents := by rw [hpresence]; exact fun _ => id
  nextId := hnextId

theorem post (c : Client σ ι) (m : Message) : SameBooks c (c.post m) := by
  unfold Client.post
  split
  · exact .of_eq rfl rfl rfl
  · exact .refl c

/-- Coming to be connected, a client empties its send queue; it forgets no one. -/
theorem enter (c : Client σ ι) (next : Phase) : SameBooks c (c.enter next) := by
  unfold Client.enter
  split
  · exact .refl c
  · split
    · exact ⟨rfl, rfl, rfl, fun _ => id, rfl⟩
    · exact .of_eq rfl rfl rfl

theorem tags (h : SameBooks c d) : d.tags = c.tags := by
  funext interest
  cases interest with
  | event name => simp only [Client.tags, subscribers, h.subscriptions]
  | presence => simp only [Client.tags, h.followers]

theorem idle (h : SameBooks c d) (hidle : c.Idle) : d.Idle where
  outbox _ _ := trivial
  sendQueue _ _ := trivial
  subscriptions name subscriptions hfound :=
    hidle.subscriptions name subscriptions (h.subscriptions ▸ hfound)
  listeners pattern listener hfound := hidle.listeners pattern listener (h.listeners ▸ hfound)
  followers s hs := hidle.followers s (h.followers ▸ hs)
  querents q hq := hidle.querents q (h.querents hq)

end SameBooks

theorem Idle.subscribers (h : c.Idle) (name : String) :
    ∀ s ∈ c.subscribers name, (idleManners ι).Approves s.callback := by
  unfold Client.subscribers
  cases hfound : c.events.subscriptions.find? name with
  | none => exact List.forall_mem_nil _
  | some subscriptions => exact (h.subscriptions name subscriptions hfound).2

/-! ## Calls -/

/-- Between two states, exactly these calls were made, and nothing else was done but what the
transport did meanwhile. -/
structure Called (list : List Invocation) (c d : Client σ ι) : Prop where
  books : SameBooks c d
  reactions : ∃ whats, d.history = c.history ++ whats ∧ (∀ what ∈ whats, what.isReaction) ∧
    invocations whats = list

namespace Called

variable {list front back : List Invocation}

theorem silent (hbooks : SameBooks c d) (h : d.journal = c.journal) : Called [] c d :=
  ⟨hbooks, [], by rw [history_eq_of_journal h, List.append_nil], List.forall_mem_nil _, rfl⟩

theorem refl (c : Client σ ι) : Called [] c c :=
  silent (.refl c) rfl

theorem noted {what : Occurrence ι} (hwhat : what.isReaction)
    (hcall : what.invocation?.toList = list) : Called list c (c.note what) := by
  refine ⟨.of_eq rfl rfl rfl, [what], note_history c what, List.forall_mem_singleton.mpr hwhat, ?_⟩
  rw [← hcall]
  cases hcall : what.invocation? <;> simp [invocations, hcall]

theorem post (c : Client σ ι) (m : Message) : Called [] c (c.post m) := by
  refine silent (.post c m) ?_
  unfold Client.post
  split <;> rfl

theorem trans (hfirst : Called front c d) (hsecond : Called back d e) :
    Called (front ++ back) c e := by
  obtain ⟨early, hearly, hfront, rfl⟩ := hfirst.reactions
  obtain ⟨late, hlate, hback, rfl⟩ := hsecond.reactions
  refine ⟨hfirst.books.trans hsecond.books, early ++ late, ?_,
    List.forall_mem_append.mpr ⟨hfront, hback⟩, invocations_append early late⟩
  rw [hlate, hearly, List.append_assoc]

end Called

/-- Between two states, something was written down, and then exactly these calls were made. -/
structure Answered (what : Occurrence ι) (list : List Invocation) (c d : Client σ ι) : Prop where
  books : SameBooks c d
  reactions : ∃ whats, d.history = c.history ++ what :: whats ∧
    (∀ other ∈ whats, other.isReaction) ∧ invocations whats = list

theorem Answered.of_called {what : Occurrence ι} {list : List Invocation} (hbooks : SameBooks c d)
    (hhistory : d.history = c.history ++ [what]) (h : Called list d e) :
    Answered what list c e := by
  obtain ⟨whats, hlater, hreactions⟩ := h.reactions
  refine ⟨hbooks.trans h.books, whats, ?_, hreactions⟩
  rw [hlater, hhistory, List.append_assoc]
  rfl

end Client

namespace Session

open Client

variable {α β : Type} {w : Surroundings σ ι} {c : Client σ ι}

/-- The step succeeds, and what it does is to make these calls. -/
def Calls (list : List Invocation) (step : Session σ ι PUnit) (c : Client σ ι) : Prop :=
  ∃ d, step c = .ok ⟨⟩ d ∧ Called list c d

namespace Calls

variable {list front back : List Invocation}

theorem of_pure : Calls [] (pure ⟨⟩) c :=
  ⟨c, rfl, .refl c⟩

theorem of_get_bind {next : Client σ ι → Session σ ι PUnit} (h : Calls list (next c) c) :
    Calls list (get >>= next) c :=
  h

theorem of_modify {change : Client σ ι → Client σ ι} (h : Called list c (change c)) :
    Calls list (modify change) c :=
  ⟨change c, rfl, h⟩

theorem of_note {what : Occurrence ι} (hwhat : what.isReaction)
    (hcall : what.invocation?.toList = list) :
    Calls list (modify fun c => c.note what : Session σ ι PUnit) c :=
  of_modify (.noted hwhat hcall)

theorem of_bind {step : Session σ ι PUnit} {next : PUnit → Session σ ι PUnit}
    (hstep : Calls front step c) (hnext : ∀ d, Calls back (next ⟨⟩) d) :
    Calls (front ++ back) (step >>= next) c := by
  obtain ⟨d, hrun, hfirst⟩ := hstep
  obtain ⟨e, hlast, hsecond⟩ := hnext d
  exact ⟨e, (bind_of_ok hrun).trans hlast, hfirst.trans hsecond⟩

/-- What comes first calls no one. -/
theorem of_modify_bind {change : Client σ ι → Client σ ι} {next : PUnit → Session σ ι PUnit}
    (h : Called [] c (change c)) (hnext : Calls list (next ⟨⟩) (change c)) :
    Calls list (modify change >>= next) c := by
  obtain ⟨d, hrun, hcalled⟩ := hnext
  exact ⟨d, hrun, h.trans hcalled⟩

/-- What comes next calls no one. -/
theorem of_bind_silent {step : Session σ ι PUnit} {next : PUnit → Session σ ι PUnit}
    (hstep : Calls list step c) (hnext : ∀ d, Calls [] (next ⟨⟩) d) :
    Calls list (step >>= next) c := by
  rw [← List.append_nil list]
  exact of_bind hstep hnext

theorem of_forM {items : List β} {step : β → Session σ ι PUnit} {what : β → List Invocation}
    (h : ∀ b ∈ items, ∀ d, Calls (what b) (step b) d) :
    Calls (items.flatMap what) (items.forM step) c := by
  induction items generalizing c with
  | nil => exact of_pure
  | cons b rest ih =>
    obtain ⟨hb, hrest⟩ := List.forall_mem_cons.mp h
    exact of_bind (hb c) fun _ => ih hrest

/-- Everyone is called once, one after the other. -/
theorem of_forM_each {items : List β} {step : β → Session σ ι PUnit} {what : β → Invocation}
    (h : ∀ b ∈ items, ∀ d, Calls [what b] (step b) d) :
    Calls (items.map what) (items.forM step) c := by
  rw [List.map_eq_flatMap]
  exact of_forM h

end Calls

variable (hpatience : 0 < w.patience)
include hpatience

theorem runner_calls {commands : List (Command ι)} (h : ∀ command ∈ commands, command.isStimulus) :
    Calls [] (runner w commands) c := by
  obtain ⟨depth, hdepth⟩ := Nat.exists_eq_succ_of_ne_zero (Nat.ne_of_gt hpatience)
  unfold runner
  rw [hdepth]
  cases commands with
  | nil => exact .of_pure
  | cons first others =>
    have hnone : (first :: others).flatMap (fun _ => ([] : List Invocation)) = [] :=
      List.flatMap_eq_nil_iff.mpr fun _ _ => rfl
    rw [← hnone]
    refine .of_forM fun command hcommand d => ?_
    have hstimulus := h command hcommand
    cases command with
    | stimulate i =>
      let stirred : Client σ ι := { d with link := d.link.stimulate w.transport i }
      have hstirred : Called [] d stirred := .silent (.of_eq rfl rfl rfl) rfl
      exact ⟨_, rfl, hstirred.trans (.noted rfl rfl)⟩
    | _ => cases hstimulus

theorem invoke_calls {callback : Callback ι α} (h : (idleManners ι).Approves callback) (told : α)
    (what : Invocation) : Calls [what] (invoke (runner w) callback told what) c := by
  refine .of_bind (.of_note rfl rfl) fun d => ?_
  obtain ⟨e, hrun, hcalled⟩ := runner_calls hpatience (c := (d.countCall callback.slot).2)
    (h (d.countCall callback.slot).1 told)
  have hcounted : Called [] d (d.countCall callback.slot).2 := .silent (.of_eq rfl rfl rfl) rfl
  exact ⟨e, hrun, hcounted.trans hcalled⟩

/-- Every subscriber of the event is called, in the order of the subscriptions. -/
theorem notifySubscribers_calls {name : String}
    (hidle : ∀ s ∈ c.subscribers name, (idleManners ι).Approves s.callback) (data : Bytes) :
    Calls ((c.tags (.event name)).map (.event · data))
      (notifySubscribers (runner w) name data) c := by
  refine .of_get_bind ?_
  unfold subscribers at hidle
  simp only [tags, subscribers]
  cases hfound : c.events.subscriptions.find? name with
  | none => exact .of_pure
  | some subscriptions =>
    rw [hfound] at hidle
    rw [Option.getD_some, List.map_map]
    exact .of_forM_each fun s hs _ => invoke_calls hpatience (hidle s hs) data _

/-- Everyone who follows presence is called, in the order of the subscriptions. -/
theorem notifyPresenceSubscribers_calls (h : c.Idle) (user : String) (joined : Bool) :
    Calls ((c.tags .presence).map (.presence · user joined))
      (notifyPresenceSubscribers (runner w) user joined) c := by
  refine .of_get_bind ?_
  unfold tags
  rw [List.map_map]
  exact .of_forM_each fun s hs _ => invoke_calls hpatience (h.followers s hs) (user, joined) _

/-- The listener is called, if there is one. -/
theorem notifyListener_calls (h : c.Idle) (pattern name : String) (subscribed : Bool) :
    Calls ((c.events.listeners.find? pattern).toList.map
      fun listener => .listener listener.callback.tag name subscribed)
      (notifyListener (runner w) pattern name subscribed) c := by
  refine .of_get_bind ?_
  cases hfound : c.events.listeners.find? pattern with
  | none => exact .of_pure
  | some listener =>
    have hidle := (h.listeners pattern listener hfound).2
    refine .of_bind_silent (invoke_calls hpatience hidle (name, subscribed) _) fun d => ?_
    dsimp only
    split
    · exact .of_modify (.post d _)
    · exact .of_pure

/-- Everyone who waits for a list of users is called, in the order of the requests. -/
theorem answerQuerents_calls (h : c.Idle) (users : List String) :
    Calls (c.presence.querents.map fun q => .users q.tag users)
      (answerQuerents (runner w) users) c := by
  refine .of_get_bind (.of_modify_bind ?_ ?_)
  · exact .silent ⟨rfl, rfl, rfl, List.nil_subset _, rfl⟩ rfl
  · refine .of_forM_each fun q hq d => ?_
    exact .of_bind_silent (.of_note rfl rfl) fun _ =>
      runner_calls hpatience (h.querents q hq users)

/-- News calls exactly those who are interested. -/
theorem dispatch_news (h : c.Idle) {m : Message} (hm : m.isNews) :
    Calls (m.calls c.tags) (dispatch w m) c := by
  obtain ⟨header, arguments⟩ := m
  simp only [Message.isNews, Bool.or_eq_true, decide_eq_true_eq] at hm
  obtain (rfl | rfl) | rfl := hm
  · match arguments with
    | [] | [_] => exact .of_pure
    | _ :: data :: _ => exact notifySubscribers_calls hpatience (h.subscribers _) data
  · cases arguments with
    | nil => exact .of_pure
    | cons _ _ => exact notifyPresenceSubscribers_calls hpatience h _ true
  · cases arguments with
    | nil => exact .of_pure
    | cons _ _ => exact notifyPresenceSubscribers_calls hpatience h _ false

/-- Other messages about events and presence bring news to no one. -/
theorem dispatch_other (h : c.Idle) {m : Message} (htraffic : m.isTraffic)
    (hm : m.isNews = false) :
    ∃ list, Calls list (dispatch w m) c ∧ list.filter Invocation.isNews = [] := by
  obtain ⟨⟨topic, action, isAck⟩, arguments⟩ := m
  unfold dispatch
  split
  · next htopic => simp_all [Message.isTraffic]
  · next htopic =>
    unfold notifyEvent
    split
    · simp_all [Message.isNews]
    · exact ⟨_, notifyListener_calls hpatience h _ _ true, by simp [Invocation.isNews]⟩
    · exact ⟨_, notifyListener_calls hpatience h _ _ false, by simp [Invocation.isNews]⟩
    · exact ⟨[], .of_pure, rfl⟩
  · next htopic =>
    unfold notifyPresence
    split
    · exact ⟨_, answerQuerents_calls hpatience h _, by simp [Invocation.isNews]⟩
    · simp_all [Message.isNews]
    · simp_all [Message.isNews]
    · exact ⟨[], .of_pure, rfl⟩
  · exact ⟨[], .of_pure, rfl⟩

end Session

/-! ## What is routine -/

namespace Client

open Session

variable {w : Surroundings σ ι} {c d e : Client σ ι}

/-- Between two states, nothing was done but what serves the connection. No one was told of
anything, and the books have not changed. -/
structure Upkeep (c d : Client σ ι) : Prop where
  books : SameBooks c d
  querents : d.presence.querents = c.presence.querents
  writes : Writes (·.what.isUpkeep) c d

namespace Upkeep

theorem refl (c : Client σ ι) : Upkeep c c :=
  ⟨.refl c, rfl, .refl c⟩

theorem trans (hfirst : Upkeep c d) (hsecond : Upkeep d e) : Upkeep c e where
  books := hfirst.books.trans hsecond.books
  querents := hsecond.querents.trans hfirst.querents
  writes := hfirst.writes.trans hsecond.writes

theorem history (h : Upkeep c d) :
    ∃ whats, d.history = c.history ++ whats ∧ ∀ what ∈ whats, what.isUpkeep :=
  history_of_entries (P := (·.isUpkeep)) h.writes

/-- Nothing is written down. -/
theorem silent (hevents : d.events = c.events) (hpresence : d.presence = c.presence)
    (hnextId : d.nextId = c.nextId) (hjournal : d.journal = c.journal) : Upkeep c d :=
  ⟨.of_eq hevents hpresence hnextId, congrArg PresenceBoard.querents hpresence,
    .of_journal_eq hjournal⟩

theorem of_noted {what : Occurrence ι} (hevents : d.events = c.events)
    (hpresence : d.presence = c.presence) (hnextId : d.nextId = c.nextId)
    (hjournal : d.journal = (c.note what).journal) (hwhat : what.isUpkeep) : Upkeep c d :=
  ⟨.of_eq hevents hpresence hnextId, congrArg PresenceBoard.querents hpresence,
    .of_noted hjournal hwhat⟩

theorem of_walk (h : Relation.ReflTransGen Upkeep c d) : Upkeep c d := by
  induction h with
  | refl => exact .refl c
  | tail _ hlast ih => exact ih.trans hlast

theorem sending {m : Message} (h : Sending w.transport c m d) : Upkeep c d := by
  cases h with
  | taken _ _ => exact .of_noted rfl rfl rfl (delivered_journal ..) rfl
  | refused _ _ => exact .of_noted rfl rfl rfl (undelivered_journal ..) rfl

theorem drawn (c : Client σ ι) (m : Message) (rest : List Message) : Upkeep c (c.drawn m rest) :=
  .of_noted rfl rfl rfl (drawn_journal ..) rfl

theorem closeLink (c : Client σ ι) : Upkeep c (c.closeLink w.transport) :=
  .of_noted rfl rfl rfl (closeLink_journal ..) rfl

theorem enter (c : Client σ ι) (next : Phase) : Upkeep c (c.enter next) := by
  refine ⟨.enter c next, ?_, .of_journal_eq (enter_journal c next)⟩
  unfold Client.enter
  split
  · rfl
  · split <;> rfl

end Upkeep

/-- A message that is not about events or presence is written down, and no one is told of it. -/
theorem handle_upkeep {m : Message} (hm : ¬ m.isTraffic) (hnext : c.phase.next .server m ≠ .error) :
    Upkeep (c.note (.handled m)) ((handle w m).after c) := by
  have hentered : Upkeep (c.note (.handled m))
      ((c.note (.handled m)).enter (c.phase.next .server m)) := .enter _ _
  exact hentered.trans (.of_walk (handle_walks_of hm hnext Upkeep.closeLink fun _ _ => .sending))

/-- What is routine is that a message takes effect, or else it serves the connection. -/
theorem Routine.heard_or_upkeep (h : Routine w c d) :
    (∃ m, c.phase.next .server m ≠ .error ∧ d = (handle w m).after c) ∨ Upkeep c d := by
  cases h with
  | @heard m hnext => exact .inl ⟨m, hnext, rfl⟩
  | received gone => exact .inr (.silent rfl rfl rfl rfl)
  | reported e => exact .inr (.of_noted rfl rfl rfl rfl rfl)
  | lost => exact .inr (.silent rfl rfl rfl rfl)
  | shut => exact .inr ((Upkeep.closeLink c).trans (.enter _ _))
  | restarted _ =>
    have hdropped : Upkeep c c.discardIncoming := .silent rfl rfl rfl rfl
    have hnoted : Upkeep c.discardIncoming (c.discardIncoming.note .restarted) :=
      .of_noted rfl rfl rfl rfl rfl
    exact .inr ((hdropped.trans hnoted).trans (.enter _ _))
  | opened => exact .inr (.of_noted rfl rfl rfl (use_journal ..) rfl)
  | redirected uri =>
    have htargeted : Upkeep (c.closeLink w.transport) ((c.closeLink w.transport).retarget uri) :=
      .of_noted rfl rfl rfl (retarget_journal ..) rfl
    exact .inr ((Upkeep.closeLink c).trans htargeted)
  | said _ hsent => exact .inr (.sending hsent)
  | flushed _ hsent => exact .inr ((Upkeep.drawn c _ _).trans (.sending hsent))
  | dropped _ => exact .inr (.drawn c _ _)

/-- Between two states, the books have not changed, and the news was told to those whom messages
called for: once for each message, and in their order. -/
structure Settled (c d : Client σ ι) : Prop where
  books : SameBooks c d
  told : ∃ whats, d.history = c.history ++ whats ∧ news whats = whats.flatMap (·.calls c.tags)

namespace Settled

theorem refl (c : Client σ ι) : Settled c c :=
  ⟨.refl c, [], (List.append_nil _).symm, rfl⟩

theorem trans (hfirst : Settled c d) (hsecond : Settled d e) : Settled c e := by
  obtain ⟨early, hearly, hfront⟩ := hfirst.told
  obtain ⟨late, hlate, hback⟩ := hsecond.told
  rw [hfirst.books.tags] at hback
  refine ⟨hfirst.books.trans hsecond.books, early ++ late, ?_, ?_⟩
  · rw [hlate, hearly, List.append_assoc]
  · rw [news_append, hfront, hback, List.flatMap_append]

/-- Those are called whom something calls for. -/
theorem of_answered {what : Occurrence ι} {list : List Invocation} (h : Answered what list c d)
    (hwhat : what.invocation? = none) (hlist : list.filter Invocation.isNews = what.calls c.tags) :
    Settled c d := by
  obtain ⟨whats, hhistory, hreactions, rfl⟩ := h.reactions
  refine ⟨h.books, what :: whats, hhistory, ?_⟩
  rw [List.flatMap_cons, Occurrence.calls_of_reactions hreactions, List.append_nil, ← hlist, news,
    invocations, List.filterMap_cons_none hwhat]
  rfl

/-- Something is written down that calls for no one. -/
theorem noted {what : Occurrence ι} (hwhat : what.invocation? = none)
    (hcalls : what.calls c.tags = []) : Settled c (c.note what) := by
  have hbooks : SameBooks c (c.note what) := .of_eq rfl rfl rfl
  exact .of_answered (.of_called hbooks (note_history c what) (.refl _)) hwhat hcalls.symm

theorem of_upkeep (h : Upkeep c d) : Settled c d := by
  obtain ⟨whats, hhistory, hupkeep⟩ := h.history
  have hnone : invocations whats = [] := List.filterMap_eq_nil_iff.mpr fun what hwhat =>
    (Occurrence.calls_of_isUpkeep (hupkeep what hwhat) c.tags).1
  refine ⟨h.books, whats, hhistory, ?_⟩
  rw [news, hnone, List.flatMap_eq_nil_iff.mpr fun what hwhat =>
    (Occurrence.calls_of_isUpkeep (hupkeep what hwhat) c.tags).2]
  rfl

end Settled

/-- Letting a message of the server take effect succeeds, and makes exactly these calls. -/
def Brings (w : Surroundings σ ι) (m : Message) (list : List Invocation) (c : Client σ ι) : Prop :=
  ∃ d, handle w m c = .ok () d ∧ Answered (.handled m) list c d

theorem emitMessage_injective {name other : String} {data copy : Bytes}
    (h : emitMessage name data = emitMessage other copy) : name = other ∧ data = copy := by
  obtain ⟨hname, hdata⟩ := List.cons.inj (congrArg Message.arguments h)
  exact ⟨Utf8.encode_injective hname, (List.cons.inj hdata).1⟩

/-- A command that emits does nothing else. -/
theorem perform_of_event (t : Transport σ ι) (run : Runner σ ι) {command : Command ι} {m : Message}
    (hm : command.event? = some m) :
    ∃ name data, m = emitMessage name data ∧
      perform t run command = (do emit run name data; pure .nothing) := by
  cases command with
  | emit name data =>
    cases hm
    exact ⟨name, data, rfl, rfl⟩
  | emitJson name text =>
    cases htext : Json.decode (Utf8.encode text) with
    | error fault => simp [Command.event?, htext] at hm
    | ok v =>
      simp only [Command.event?, htext, Option.some.injEq] at hm
      exact ⟨name, Payload.encode v, hm.symm, by simp only [perform, htext]; rfl⟩
  | _ => cases hm

variable (hpatience : 0 < w.patience)
include hpatience

/-- News that reaches a connected client calls exactly those who are interested. -/
theorem handle_news (hidle : c.Idle) (hin : c.phase = .connected) {m : Message} (hm : m.isNews) :
    Brings w m (m.calls c.tags) c := by
  have hbooks : SameBooks c (c.note (.handled m)) := .of_eq rfl rfl rfl
  obtain ⟨d, hrun, hcalled⟩ := dispatch_news hpatience (hbooks.idle hidle) hm
  exact ⟨d, (handle_connected hin m).trans hrun, .of_called hbooks (note_history ..) hcalled⟩

/-- A message that takes effect calls whom it calls for. -/
theorem handle_settled (hidle : c.Idle) {m : Message} (hnext : c.phase.next .server m ≠ .error) :
    Settled c ((handle w m).after c) := by
  by_cases htraffic : m.isTraffic
  · have hin : c.phase = .connected := Phase.eq_connected_of_traffic htraffic hnext
    cases hnews : m.isNews with
    | true =>
      obtain ⟨d, hrun, hanswered⟩ := handle_news hpatience hidle hin hnews
      rw [after_of_ok hrun]
      exact .of_answered hanswered rfl (m.calls_filter c.tags)
    | false =>
      have hbooks : SameBooks c (c.note (.handled m)) := .of_eq rfl rfl rfl
      obtain ⟨list, ⟨d, hrun, hcalled⟩, hlist⟩ :=
        dispatch_other hpatience (hbooks.idle hidle) htraffic hnews
      rw [after_of_ok ((handle_connected hin m).trans hrun)]
      exact .of_answered (.of_called hbooks (note_history ..) hcalled) rfl
        (hlist.trans (Message.calls_of_not_isNews hnews c.tags).symm)
  · have hcalls : m.calls c.tags = [] :=
      Message.calls_of_not_isNews
        (Bool.eq_false_iff.mpr fun hnews => htraffic (Message.isTraffic_of_isNews hnews)) c.tags
    have hnoted : Settled c (c.note (.handled m)) := .noted rfl hcalls
    exact hnoted.trans (.of_upkeep (handle_upkeep htraffic hnext))

theorem Routine.settled (h : Routine w c d) (hidle : c.Idle) : Settled c d := by
  obtain ⟨m, hnext, rfl⟩ | hupkeep := h.heard_or_upkeep
  · exact handle_settled hpatience hidle hnext
  · exact .of_upkeep hupkeep

/-- A request that is no command leaves the books as they are, and calls those whom messages
call for. -/
theorem execute_settled (hidle : c.Idle) {request : Request ι}
    (h : ∀ command, request ≠ .command command) : Settled c ((execute w request).after c) :=
  Walks.keeps (execute_routine h c)
    (fun _ _ hbefore hmove =>
      hbefore.trans (hmove.settled hpatience (hbefore.books.idle hidle))) (.refl c)

/-! ## Emitting -/

/-- An event that is accepted is told to the program's own subscribers. -/
theorem emit_answered (hidle : c.Idle) {name text : String} {data : Bytes} (hname : name ≠ "")
    (hdata : Utf8.decode data = .ok text) :
    ∃ d, emit (runner w) name data c = .ok () d ∧ Answered (.emitted (emitMessage name data))
      ((c.tags (.event name)).map (.event · data)) c d := by
  have hbooks : SameBooks c ((enqueue (emitMessage name data)).after c) := by
    have hnoted : SameBooks c (c.note (.emitted (emitMessage name data))) := .of_eq rfl rfl rfl
    show SameBooks c (if c.phase = .connected then _ else _)
    split
    · exact hnoted.trans (.post _ _)
    · exact ⟨rfl, rfl, rfl, fun _ => id, rfl⟩
  obtain ⟨d, hrun, hcalled⟩ :=
    notifySubscribers_calls hpatience (w := w) ((hbooks.idle hidle).subscribers name) data
  rw [hbooks.tags] at hcalled
  rw [emit_eq hname hdata]
  exact ⟨d, hrun, .of_called hbooks (enqueue_history _) hcalled⟩

/-- Emitting leaves the books as they are, whether the event is accepted or not. -/
theorem emit_settled (hidle : c.Idle) (name : String) (data : Bytes) :
    Settled c ((emit (runner w) name data).after c) := by
  by_cases hname : name = ""
  · subst hname
    exact .refl c
  cases hdata : Utf8.decode data with
  | error fault =>
    unfold emit
    rw [if_neg hname, hdata]
    exact .refl c
  | ok text =>
    obtain ⟨d, hrun, hanswered⟩ := emit_answered hpatience hidle hname hdata
    have hcalls := Message.calls_emitMessage name data c.tags
    rw [after_of_ok hrun]
    refine .of_answered hanswered rfl ?_
    rw [← hcalls, Message.calls_filter]
    rfl

theorem perform_settled (hidle : c.Idle) {command : Command ι} {m : Message}
    (hm : command.event? = some m) :
    Settled c ((perform w.transport (runner w) command).after c) := by
  obtain ⟨name, data, -, hperform⟩ := perform_of_event w.transport (runner w) hm
  rw [hperform, after_answer]
  exact emit_settled hpatience hidle name data

/-- Whatever a program asks for, the news is told to those whom messages call for. -/
theorem execute_told (hidle : c.Idle) (request : Request ι) :
    ∃ whats, ((execute w request).after c).history = c.history ++ whats ∧
      news whats = whats.flatMap (·.calls c.tags) := by
  by_cases hcommand : ∃ command, request = .command command
  · obtain ⟨command, rfl⟩ := hcommand
    cases hm : command.event? with
    | none =>
      have hsilent : ((execute w (.command command)).after c).history = c.history :=
        history_eq_of_journal (perform_silent hm)
      exact ⟨[], by rw [hsilent, List.append_nil], rfl⟩
    | some m => exact (perform_settled hpatience hidle hm).told
  · exact (execute_settled hpatience hidle fun command h => hcommand ⟨command, h⟩).told

end Client

end Realtime
