import Mathlib.Logic.Function.Basic
import Realtime.Proofs.Client.Conservation

/-!
# What a client wants to be told of

A client tells its server of which events it wants to be told, for which patterns
it listens, and whether it follows presence. Each such message takes a stance on one
subject, and what the server was told last of a subject counts.

A connected client keeps what it wants and what it has to tell in step: whenever the
one changes, the other gains a message that says so.

Results:
1. `inform_of_mentioned`, `inform_of_not_mentioned`: the last word on a subject counts,
   and where there is none, nothing changes.
2. `inform_replay`: a replay tells a server that knows nothing all that a client wants.
3. `Act.tracks`: what a connected client wants changes as it says.
-/

namespace Realtime

variable {σ ι : Type}

/-! ## Stances -/

/-- Something that a client may want to be told of. -/
inductive Subject where
  | event (name : Bytes)
  | pattern (pattern : Bytes)
  | presence
  deriving DecidableEq, Repr

/-- What a message says of a subject: that its sender wants to be told of it from now on,
or no longer. -/
def Message.stance? (m : Message) : Option (Subject × Bool) :=
  match m.header, m.arguments with
  | ⟨.event, .subscribe, false⟩, [name] => some (.event name, true)
  | ⟨.event, .unsubscribe, false⟩, [name] => some (.event name, false)
  | ⟨.event, .listen, false⟩, [pattern] => some (.pattern pattern, true)
  | ⟨.event, .unlisten, false⟩, [pattern] => some (.pattern pattern, false)
  | ⟨.presence, .subscribe, false⟩, [] => some (.presence, true)
  | ⟨.presence, .unsubscribe, false⟩, [] => some (.presence, false)
  | _, _ => none

/-- The stances of some messages, in order. -/
def stances (ms : List Message) : List (Subject × Bool) :=
  ms.filterMap Message.stance?

theorem stances_append (front back : List Message) :
    stances (front ++ back) = stances front ++ stances back :=
  List.filterMap_append

theorem stances_singleton_of_none {m : Message} (h : m.stance? = none) : stances [m] = [] :=
  List.filterMap_cons_none h

theorem stances_singleton_of_some {m : Message} {stance : Subject × Bool}
    (h : m.stance? = some stance) : stances [m] = [stance] :=
  List.filterMap_cons_some h

/-- Only messages about events and presence take a stance. -/
theorem Message.stance?_of_not_isTraffic {m : Message} (h : ¬ m.isTraffic) : m.stance? = none := by
  unfold stance?
  split <;> first | rfl | (next hheader _ => rw [isTraffic, hheader] at h; exact absurd rfl h)

/-! ## The list of a server -/

/-- What a server knows of the subjects that a client wants to be told of. -/
abbrev Roll := Subject → Bool

/-- A server that was told nothing. -/
def Roll.empty : Roll :=
  fun _ => false

/-- What a server knows after it was told some stances. -/
def inform (roll : Roll) (told : List (Subject × Bool)) : Roll :=
  told.foldl (fun roll stance => Function.update roll stance.1 stance.2) roll

theorem inform_append (roll : Roll) (front back : List (Subject × Bool)) :
    inform roll (front ++ back) = inform (inform roll front) back :=
  List.foldl_append

/-- What was not mentioned is as it was. -/
theorem inform_of_not_mentioned {roll : Roll} {told : List (Subject × Bool)} {s : Subject}
    (h : s ∉ told.map Prod.fst) : inform roll told s = roll s := by
  induction told generalizing roll with
  | nil => rfl
  | cons stance rest ih =>
    rw [List.map_cons, List.mem_cons, not_or] at h
    exact (ih h.2).trans (Function.update_of_ne h.1 _ _)

/-- The last word on a subject counts, whatever was known before. -/
theorem inform_of_mentioned {roll other : Roll} {told : List (Subject × Bool)} {s : Subject}
    (h : s ∈ told.map Prod.fst) : inform roll told s = inform other told s := by
  induction told generalizing roll other with
  | nil => cases h
  | cons stance rest ih =>
    by_cases hrest : s ∈ rest.map Prod.fst
    · exact ih hrest
    · -- This is the last word on the subject.
      have hlast : s = stance.1 := (List.mem_cons.mp h).resolve_right hrest
      show inform (Function.update roll stance.1 stance.2) rest s =
        inform (Function.update other stance.1 stance.2) rest s
      rw [inform_of_not_mentioned hrest, inform_of_not_mentioned hrest, hlast,
        Function.update_self, Function.update_self]

/-- A server that was only told what a client wants knows that, and what it knew. -/
theorem inform_of_wanted {roll : Roll} {told : List (Subject × Bool)}
    (h : ∀ stance ∈ told, stance.2 = true) (s : Subject) :
    inform roll told s = (roll s || decide (s ∈ told.map Prod.fst)) := by
  induction told generalizing roll with
  | nil => simp [inform]
  | cons stance rest ih =>
    obtain ⟨t, wanted⟩ := stance
    have hfirst : wanted = true := h (t, wanted) List.mem_cons_self
    refine (ih fun other hother => h other (List.mem_cons_of_mem _ hother)).trans ?_
    by_cases hs : s = t
    · simp [hs, hfirst]
    · simp [hs]

/-! ## What a client wants -/

namespace NameMap

variable {α : Type}

/-- Whether the table lists a name with these bytes. -/
def lists (t : NameMap α) (bytes : Bytes) : Bool :=
  t.names.any fun name => Utf8.encode name = bytes

theorem lists_iff {t : NameMap α} {bytes : Bytes} :
    t.lists bytes ↔ ∃ name, t.contains name ∧ Utf8.encode name = bytes := by
  simp only [lists, List.any_eq_true, decide_eq_true_eq, contains, Option.isSome_iff_ne_none,
    ne_eq, find?_eq_none_iff, Decidable.not_not]

theorem lists_encode {t : NameMap α} {name : String} :
    t.lists (Utf8.encode name) = t.contains name := by
  rw [Bool.eq_iff_iff, lists_iff]
  constructor
  · rintro ⟨other, hother, hsame⟩
    exact Utf8.encode_injective hsame ▸ hother
  · intro h
    exact ⟨name, h, rfl⟩

theorem contains_insert (t : NameMap α) (name other : String) (value : α) :
    (t.insert name value).contains other = (decide (other = name) || t.contains other) := by
  unfold contains
  rw [find?_insert]
  split <;> simp_all

theorem contains_erase (t : NameMap α) (name other : String) :
    (t.erase name).contains other = (!decide (other = name) && t.contains other) := by
  unfold contains
  rw [find?_erase]
  split <;> simp_all

theorem lists_insert (t : NameMap α) (name : String) (value : α) :
    (t.insert name value).lists = Function.update t.lists (Utf8.encode name) true := by
  funext bytes
  by_cases hbytes : bytes = Utf8.encode name
  · rw [hbytes, Function.update_self, lists_encode, contains_insert]
    simp
  · rw [Function.update_of_ne hbytes, Bool.eq_iff_iff, lists_iff, lists_iff]
    refine exists_congr fun other => and_congr_left fun hsame => ?_
    have hother : other ≠ name := fun heq => hbytes (hsame ▸ congrArg Utf8.encode heq)
    simp [contains_insert, hother]

theorem lists_erase (t : NameMap α) (name : String) :
    (t.erase name).lists = Function.update t.lists (Utf8.encode name) false := by
  funext bytes
  by_cases hbytes : bytes = Utf8.encode name
  · rw [hbytes, Function.update_self, lists_encode, contains_erase]
    simp
  · rw [Function.update_of_ne hbytes, Bool.eq_iff_iff, lists_iff, lists_iff]
    refine exists_congr fun other => and_congr_left fun hsame => ?_
    have hother : other ≠ name := fun heq => hbytes (hsame ▸ congrArg Utf8.encode heq)
    simp [contains_erase, hother]

end NameMap

namespace Client

/-- What a client wants to be told of: the events that its program subscribes to, the
patterns that it listens for, and presence if someone follows it. -/
def wants (c : Client σ ι) : Roll
  | .event name => c.events.subscriptions.lists name
  | .pattern pattern => c.events.listeners.lists pattern
  | .presence => !c.presence.subscriptions.isEmpty

variable {w : Surroundings σ ι} {c d : Client σ ι}

theorem wants_eq (hevents : d.events.subscriptions = c.events.subscriptions)
    (hlisteners : d.events.listeners = c.events.listeners)
    (hpresence : d.presence.subscriptions = c.presence.subscriptions) : d.wants = c.wants := by
  funext s
  cases s with
  | event name => exact congrArg (NameMap.lists · name) hevents
  | pattern pattern => exact congrArg (NameMap.lists · pattern) hlisteners
  | presence => exact congrArg (fun subscriptions => !subscriptions.isEmpty) hpresence

theorem wants_withSubscriptions {subscriptions : NameMap (List (Subscription ι Bytes))}
    {name : String} {wanted : Bool} (h : subscriptions.lists =
      Function.update c.events.subscriptions.lists (Utf8.encode name) wanted) :
    (c.withSubscriptions subscriptions).wants =
      Function.update c.wants (.event (Utf8.encode name)) wanted := by
  funext s
  cases s with
  | event other =>
    show subscriptions.lists other = _
    simp [h, Function.update_apply, wants]
  | pattern _ => rfl
  | presence => rfl

theorem wants_withListeners {listeners : NameMap (Listener ι)} {pattern : String}
    {wanted : Bool} (h : listeners.lists =
      Function.update c.events.listeners.lists (Utf8.encode pattern) wanted) :
    (c.withListeners listeners).wants =
      Function.update c.wants (.pattern (Utf8.encode pattern)) wanted := by
  funext s
  cases s with
  | event _ => rfl
  | pattern other =>
    show listeners.lists other = _
    simp [h, Function.update_apply, wants]
  | presence => rfl

theorem wants_withFollowers (followers : List (Subscription ι (String × Bool))) :
    (c.withFollowers followers).wants =
      Function.update c.wants .presence (!followers.isEmpty) := by
  funext s
  cases s <;> rfl

/-- It makes no difference how many follow presence, if someone does. -/
theorem wants_withFollowers_of_same {followers : List (Subscription ι (String × Bool))}
    (h : followers.isEmpty = c.presence.subscriptions.isEmpty) :
    (c.withFollowers followers).wants = c.wants := by
  rw [wants_withFollowers, Function.update_eq_self_iff, h]
  rfl

/-! ## Keeping in step -/

/-- What a client has come to want is what it has come to have to say. -/
def Tracks (c d : Client σ ι) : Prop :=
  ∃ told, d.outbox = c.outbox ++ told ∧ d.wants = inform c.wants (stances told)

namespace Tracks

theorem silent (houtbox : d.outbox = c.outbox) (hwants : d.wants = c.wants) : Tracks c d :=
  ⟨[], houtbox.trans (List.append_nil _).symm, hwants⟩

/-- A change that is announced. -/
theorem announced {m : Message} {s : Subject} {wanted : Bool} (hin : d.phase = .connected)
    (houtbox : d.outbox = c.outbox) (hm : m.stance? = some (s, wanted))
    (hwants : d.wants = Function.update c.wants s wanted) : Tracks c (d.post m) := by
  rw [post_of_connected d hin]
  refine ⟨[m], congrArg (· ++ [m]) houtbox, ?_⟩
  rw [stances_singleton_of_some hm]
  exact hwants

/-- A message that takes no stance. -/
theorem neutral {m : Message} (hin : d.phase = .connected) (houtbox : d.outbox = c.outbox)
    (hm : m.stance? = none) (hwants : d.wants = c.wants) : Tracks c (d.post m) := by
  rw [post_of_connected d hin]
  refine ⟨[m], congrArg (· ++ [m]) houtbox, ?_⟩
  rw [stances_singleton_of_none hm]
  exact hwants

end Tracks

theorem unsubscribe_tracks (hin : c.phase = .connected) (name : String) :
    Tracks c ((Session.unsubscribe name).after c) := by
  rw [Session.unsubscribe_after]
  split
  · exact .announced hin rfl rfl (wants_withSubscriptions (NameMap.lists_erase _ name))
  · exact .silent rfl rfl

/-- Subscriptions and listeners under names that are listed already make no difference. -/
theorem wants_insert_of_contains {name : String} {value : List (Subscription ι Bytes)}
    (h : c.events.subscriptions.contains name) :
    (c.withSubscriptions (c.events.subscriptions.insert name value)).wants = c.wants := by
  rw [wants_withSubscriptions (NameMap.lists_insert _ name value), Function.update_eq_self_iff]
  exact (NameMap.lists_encode.trans h).symm

theorem unsubscribeId_tracks (hin : c.phase = .connected) (name : String) (id : SubscriptionId) :
    Tracks c ((Session.unsubscribeId name id).after c) := by
  rw [Session.unsubscribeId_after]
  split
  · exact .silent rfl rfl
  · next subscriptions hfound =>
    split
    · dsimp only
      split
      · exact unsubscribe_tracks hin name
      · refine .silent rfl (wants_insert_of_contains ?_)
        rw [NameMap.contains, hfound]
        rfl
    · exact .silent rfl rfl

theorem subscribe_tracks (hin : c.phase = .connected) {name : String} (hname : name ≠ "")
    (tag : String) (react : Nat → Bytes → List (Command ι)) :
    Tracks c ((Session.subscribe name tag react).after c) := by
  rw [Session.subscribe_after c hname]
  dsimp only
  split
  · exact .announced hin rfl rfl (wants_withSubscriptions (NameMap.lists_insert _ name _))
  · next hbefore =>
    -- Someone has subscribed to the event before, so the server was told already.
    refine .silent rfl (wants_insert_of_contains (c := c.withTicket) ?_)
    show (c.events.subscriptions.find? name).isSome
    cases hfound : c.events.subscriptions.find? name with
    | none =>
      rw [hfound] at hbefore
      exact absurd rfl hbefore
    | some _ => rfl

theorem listen_tracks (hin : c.phase = .connected) {pattern : String} (hpattern : pattern ≠ "")
    (tag : String) (accepts : Nat → String → Bool → Bool)
    (react : Nat → String → Bool → List (Command ι)) :
    Tracks c ((Session.listen pattern tag accepts react).after c) := by
  rw [Session.listen_after c hpattern]
  split
  · exact .silent rfl rfl
  · exact .announced hin rfl rfl (wants_withListeners (NameMap.lists_insert _ pattern _))

theorem unlisten_tracks (hin : c.phase = .connected) (pattern : String) :
    Tracks c ((Session.unlisten pattern).after c) := by
  rw [Session.unlisten_after]
  split
  · exact .announced hin rfl rfl (wants_withListeners (NameMap.lists_erase _ pattern))
  · exact .silent rfl rfl

theorem followPresence_tracks (hin : c.phase = .connected) (tag : String)
    (react : Nat → String → Bool → List (Command ι)) :
    Tracks c ((Session.followPresence tag react).after c) := by
  rw [Session.followPresence_after]
  dsimp only
  split
  · refine .announced hin rfl rfl ((wants_withFollowers _).trans ?_)
    exact congrArg (Function.update c.wants .presence) (by simp)
  · next hbefore =>
    refine .silent rfl (wants_withFollowers_of_same (c := c.withTicket) ?_)
    show _ = c.presence.subscriptions.isEmpty
    rw [Bool.eq_false_iff.mpr hbefore]
    simp

theorem unfollowPresence_tracks (hin : c.phase = .connected) (id : SubscriptionId) :
    Tracks c ((Session.unfollowPresence id).after c) := by
  rw [Session.unfollowPresence_after]
  split
  · next hfound =>
    dsimp only
    split
    · next hnone =>
      refine .announced hin rfl rfl ((wants_withFollowers _).trans ?_)
      rw [hnone]
      rfl
    · next hsome =>
      refine .silent rfl (wants_withFollowers_of_same ?_)
      rw [Bool.eq_false_iff.mpr hsome]
      cases hsubscriptions : c.presence.subscriptions with
      | nil =>
        rw [hsubscriptions] at hfound
        cases hfound
      | cons => rfl
  · exact .silent rfl rfl

theorem queryPresence_tracks (hin : c.phase = .connected) (tag : String)
    (react : List String → List (Command ι)) :
    Tracks c ((Session.queryPresence tag react).after c) := by
  rw [Session.queryPresence_after]
  dsimp only
  split
  · exact .neutral hin rfl rfl (wants_eq rfl rfl rfl)
  · exact .silent rfl (wants_eq rfl rfl rfl)

theorem Bookkeeping.tracks (h : Bookkeeping c d) (hin : c.phase = .connected) : Tracks c d := by
  cases h with
  | subscribed tag react hname => exact subscribe_tracks hin hname tag react
  | unsubscribed name => exact unsubscribe_tracks hin name
  | unsubscribedOne name id => exact unsubscribeId_tracks hin name id
  | listened tag accepts react hpattern => exact listen_tracks hin hpattern tag accepts react
  | unlistened pattern => exact unlisten_tracks hin pattern
  | followed tag react => exact followPresence_tracks hin tag react
  | unfollowed id => exact unfollowPresence_tracks hin id
  | unfollowedAll => exact .announced hin rfl rfl (wants_withFollowers [])
  | queried tag react => exact queryPresence_tracks hin tag react
  | answered => exact .silent rfl (wants_eq rfl rfl rfl)
  | decided accepted pattern name =>
    cases accepted <;> exact .neutral hin rfl rfl rfl
  | counted slot => exact .silent rfl (wants_eq rfl rfl rfl)

/-- Whatever a program does with a connected client, the client has to tell its server what
has changed. -/
theorem Act.tracks (h : Act w c d) (hin : c.phase = .connected) : Tracks c d := by
  cases h with
  | kept hkept => exact hkept.tracks hin
  | @emitted name _ data _ _ _ =>
    refine ⟨[Session.emitMessage name data], rfl, ?_⟩
    rw [stances_singleton_of_none rfl]
    exact wants_eq rfl rfl rfl
  | queued _ _ hout => exact absurd hin hout
  | invoked _ => exact .silent rfl rfl
  | performed _ _ => exact .silent rfl rfl
  | stimulated _ => exact .silent rfl rfl

/-- Without a connection, nothing is said. -/
theorem Act.outbox (h : Act w c d) (hout : c.phase ≠ .connected) : d.outbox = c.outbox := by
  cases h with
  | kept hkept =>
    obtain ⟨told, houtbox, -, hnone⟩ := hkept.clerical.outbox
    rw [houtbox, hnone hout, List.append_nil]
  | emitted _ _ hin => exact absurd hin hout
  | queued _ _ _ => rfl
  | invoked _ => rfl
  | performed _ _ => rfl
  | stimulated _ => rfl

/-! ## Saying it all again -/

theorem stances_map_eventMessage {action : Action} {subject : Bytes → Subject} {wanted : Bool}
    (h : ∀ name, (eventMessage action name).stance? = some (subject (Utf8.encode name), wanted))
    (names : List String) : stances (names.map (eventMessage action)) =
      names.map fun name => (subject (Utf8.encode name), wanted) := by
  rw [stances, List.filterMap_map, ← List.filterMap_eq_map]
  exact congrArg (List.filterMap · names) (funext h)

theorem stances_of_emits {ms : List Message} (h : ∀ m ∈ ms, m.isEmit) : stances ms = [] := by
  refine List.filterMap_eq_nil_iff.mpr fun m hm => ?_
  have hheader : m.header = ⟨.event, .event, false⟩ := of_decide_eq_true (h m hm)
  unfold Message.stance?
  rw [hheader]

/-- What a replay tells the server. -/
theorem stances_replay (h : ∀ m ∈ c.events.sendQueue, m.isEmit) :
    stances c.replayMessages =
      (c.events.subscriptions.names.map fun name => (Subject.event (Utf8.encode name), true)) ++
      (c.events.listeners.names.map fun name => (Subject.pattern (Utf8.encode name), true)) ++
      (if c.presence.subscriptions = [] then [] else [(Subject.presence, true)]) := by
  have hsubscribed (names : List String) : stances (names.map (eventMessage .subscribe)) =
      names.map fun name => (Subject.event (Utf8.encode name), true) :=
    stances_map_eventMessage (fun _ => rfl) names
  have hlistening (names : List String) : stances (names.map (eventMessage .listen)) =
      names.map fun name => (Subject.pattern (Utf8.encode name), true) :=
    stances_map_eventMessage (fun _ => rfl) names
  have hpresence : stances (if c.presence.subscriptions = [] then []
      else [presenceMessage .subscribe]) =
      if c.presence.subscriptions = [] then [] else [(Subject.presence, true)] := by
    split <;> rfl
  have hquery : stances (if c.presence.querents = [] then [] else [queryMessage]) = [] := by
    split <;> rfl
  rw [replayMessages, stances_append, stances_append, stances_append, stances_append,
    hsubscribed, hlistening, stances_of_emits h, hpresence, hquery, List.append_nil,
    List.append_nil]

/-- A replay tells a server that knows nothing what the client wants. -/
theorem inform_replay (h : ∀ m ∈ c.events.sendQueue, m.isEmit) :
    inform .empty (stances c.replayMessages) = c.wants := by
  funext s
  rw [stances_replay h, inform_of_wanted]
  · rw [Bool.eq_iff_iff]
    cases s with
    | event name => simp [Roll.empty, wants, NameMap.lists]
    | pattern pattern => simp [Roll.empty, wants, NameMap.lists]
    | presence => simp [Roll.empty, wants]
  · intro stance hstance
    simp only [List.mem_append, List.mem_map] at hstance
    obtain (⟨_, -, rfl⟩ | ⟨_, -, rfl⟩) | hpresence := hstance
    · rfl
    · rfl
    · split at hpresence
      · cases hpresence
      · rw [List.mem_singleton.mp hpresence]

end Client

end Realtime
