import Mathlib.Data.List.Chain
import Mathlib.Data.List.Nodup
import Realtime.Proofs.Client.Agreement
import Realtime.Proofs.Client.Errands
import Realtime.Proofs.Client.Replay

/-!
# Saying a thing once

While a client is connected, it announces a subject when the first one comes to be interested in
it, and again when the last one ceases to be. It says neither twice in a row: a name is listed as
long as there are subscriptions to it, and no longer. So what a client says of a name or a pattern
in the course of a session goes back and forth, from the replay on, and ends with what the client
wants. Of presence it may say more than once that it is no longer interested, because a program may
drop all subscriptions when there are none.

Results:
1. `Reached.populated`: no name is listed without subscriptions.
2. `Act.sways`: what one act says of each subject.
3. `busied_sways`, `welcomed_swings`: what errands say of them, and what the replay does.
4. `interests_alternate`: what a session says of names and patterns.
-/

namespace Realtime

variable {σ ι : Type}

/-! ## Words that go back and forth -/

/-- The word leads from one state to another: each letter is the state from then on, and may come
after the one before. -/
structure Swings (R : Bool → Bool → Prop) (before : Bool) (word : List Bool) (after : Bool) :
    Prop where
  chain : (before :: word).IsChain R
  last : word.getLast?.getD before = after

namespace Swings

variable {R : Bool → Bool → Prop} {a b c : Bool} {u v : List Bool}

theorem still (R : Bool → Bool → Prop) (a : Bool) : Swings R a [] a :=
  ⟨.singleton a, rfl⟩

theorem single (h : R a b) : Swings R a [b] b :=
  ⟨.cons_cons h (.singleton b), rfl⟩

theorem append (hfirst : Swings R a u b) (hsecond : Swings R b v c) : Swings R a (u ++ v) c := by
  induction u generalizing a with
  | nil =>
    obtain rfl : a = b := hfirst.last
    exact hsecond
  | cons x rest ih =>
    obtain ⟨hx, hchain⟩ := List.isChain_cons_cons.mp hfirst.chain
    have hlast : rest.getLast?.getD x = b := by
      rw [← hfirst.last, List.getLast?_cons]
      rfl
    have hrest := ih ⟨hchain, hlast⟩
    refine ⟨.cons_cons hx hrest.chain, ?_⟩
    rw [← hrest.last, List.cons_append, List.getLast?_cons]
    rfl

/-- From `false`, the last letter says where a word has led to. -/
theorem getLast?_eq_iff (h : Swings R false u b) : u.getLast? = some true ↔ b = true := by
  rw [← h.last]
  cases u.getLast? with
  | none => simp
  | some x => simp

end Swings

/-! ## What is said of a subject -/

/-- What some messages say of a subject, one after the other: that their sender is interested in
it, or no longer. -/
def sayings (s : Subject) (ms : List Message) : List Bool :=
  (stances ms).filterMap fun stance => if stance.1 = s then some stance.2 else none

theorem sayings_append (s : Subject) (front back : List Message) :
    sayings s (front ++ back) = sayings s front ++ sayings s back := by
  rw [sayings, stances_append, List.filterMap_append]
  rfl

theorem sayings_singleton (s : Subject) (m : Message) :
    sayings s [m] =
      (m.stance?.bind fun stance => if stance.1 = s then some stance.2 else none).toList := by
  cases hstance : m.stance? with
  | none => rw [sayings, stances_singleton_of_none hstance]; rfl
  | some stance =>
    rw [sayings, stances_singleton_of_some hstance, List.filterMap_cons, Option.bind_some]
    split <;> simp_all

/-- What may be said of a subject next. That there is no more interest in presence may be said
again, and nothing else. -/
def Subject.Next (s : Subject) (before said : Bool) : Prop :=
  said ≠ before ∨ s = .presence ∧ said = false

namespace Client

variable {w : Surroundings σ ι} {c d : Client σ ι}

/-! ### No name without subscriptions -/

/-- Every name that is listed has subscriptions. -/
def Populated (c : Client σ ι) : Prop :=
  ∀ name subscriptions, c.events.subscriptions.find? name = some subscriptions →
    subscriptions ≠ []

namespace Populated

theorem of_eq (h : Populated c) (hsame : d.events.subscriptions = c.events.subscriptions) :
    Populated d :=
  fun name subscriptions hfound => h name subscriptions (hsame ▸ hfound)

theorem posted {m : Message} (h : Populated c)
    (hsame : d.events.subscriptions = c.events.subscriptions) : Populated (d.post m) :=
  h.of_eq ((SameBooks.post d m).subscriptions.trans hsame)

/-- A name that is not listed has no subscriptions, and the other way round. -/
theorem contains_eq (h : Populated c) (name : String) :
    c.events.subscriptions.contains name = !(c.subscribers name).isEmpty := by
  rw [NameMap.contains, subscribers]
  cases hfound : c.events.subscriptions.find? name with
  | none => rfl
  | some subscriptions =>
    cases hlist : subscriptions with
    | nil => exact absurd hlist (h name subscriptions hfound)
    | cons => rfl

theorem subscribe (h : Populated c) {name : String} (hname : name ≠ "") (tag : String)
    (react : Nat → Bytes → List (Command ι)) :
    Populated ((Session.subscribe name tag react).after c) := by
  have henrolled (subscriptions : List (Subscription ι Bytes)) (s : Subscription ι Bytes) :
      Populated (c.withTicket.withSubscriptions
        (c.events.subscriptions.insert name (subscriptions ++ [s]))) :=
    NameMap.forall_insert h (by simp)
  rw [Session.subscribe_after c hname]
  dsimp only
  split
  · exact (henrolled _ _).posted rfl
  · exact henrolled _ _

theorem unsubscribe (h : Populated c) (name : String) :
    Populated ((Session.unsubscribe name).after c) := by
  rw [Session.unsubscribe_after]
  split
  · have herased : Populated (c.withSubscriptions (c.events.subscriptions.erase name)) :=
      NameMap.forall_erase h
    exact herased.posted rfl
  · exact h

theorem unsubscribeId (h : Populated c) (name : String) (id : SubscriptionId) :
    Populated ((Session.unsubscribeId name id).after c) := by
  rw [Session.unsubscribeId_after]
  split
  · exact h
  · split
    · dsimp only
      split
      · exact h.unsubscribe name
      · next hleft =>
        exact NameMap.forall_insert h fun hempty => hleft (List.isEmpty_iff.mpr hempty)
    · exact h

end Populated

theorem listen_subscriptions {pattern : String} (hpattern : pattern ≠ "") (tag : String)
    (accepts : Nat → String → Bool → Bool) (react : Nat → String → Bool → List (Command ι)) :
    ((Session.listen pattern tag accepts react).after c).events.subscriptions =
      c.events.subscriptions := by
  rw [Session.listen_after c hpattern]
  split
  · rfl
  · exact (SameBooks.post ..).subscriptions

theorem unlisten_subscriptions (pattern : String) :
    ((Session.unlisten pattern).after c).events.subscriptions = c.events.subscriptions := by
  rw [Session.unlisten_after]
  split
  · exact (SameBooks.post ..).subscriptions
  · rfl

theorem followPresence_subscriptions (tag : String)
    (react : Nat → String → Bool → List (Command ι)) :
    ((Session.followPresence tag react).after c).events.subscriptions =
      c.events.subscriptions := by
  rw [Session.followPresence_after]
  dsimp only
  split
  · exact (SameBooks.post ..).subscriptions
  · rfl

theorem unfollowPresence_subscriptions (id : SubscriptionId) :
    ((Session.unfollowPresence id).after c).events.subscriptions = c.events.subscriptions := by
  rw [Session.unfollowPresence_after]
  split
  · dsimp only
    split
    · exact (SameBooks.post ..).subscriptions
    · rfl
  · rfl

theorem queryPresence_subscriptions (tag : String) (react : List String → List (Command ι)) :
    ((Session.queryPresence tag react).after c).events.subscriptions =
      c.events.subscriptions := by
  rw [Session.queryPresence_after]
  dsimp only
  split
  · exact (SameBooks.post ..).subscriptions
  · rfl

theorem Bookkeeping.populated (hkept : Bookkeeping c d) (h : Populated c) : Populated d := by
  cases hkept with
  | subscribed tag react hname => exact h.subscribe hname tag react
  | unsubscribed name => exact h.unsubscribe name
  | unsubscribedOne name id => exact h.unsubscribeId name id
  | listened tag accepts react hpattern =>
    exact h.of_eq (listen_subscriptions hpattern tag accepts react)
  | unlistened pattern => exact h.of_eq (unlisten_subscriptions pattern)
  | followed tag react => exact h.of_eq (followPresence_subscriptions tag react)
  | unfollowed id => exact h.of_eq (unfollowPresence_subscriptions id)
  | queried tag react => exact h.of_eq (queryPresence_subscriptions tag react)
  | unfollowedAll | decided => exact h.posted rfl
  | answered | counted => exact h

theorem Act.populated (hact : Act w c d) (h : Populated c) : Populated d := by
  cases hact with
  | kept hkept => exact hkept.populated h
  | emitted | queued | invoked | performed | stimulated => exact h

theorem Sending.events {m : Message} (h : Sending w.transport c m d) : d.events = c.events := by
  cases h <;> rfl

theorem Reached.populated {start : Nat} (h : Reached w start c) : Populated c := by
  refine h.invariant (P := fun _ => Populated) (fun _ _ _ _ hmade => ?_) (fun _ c hold => ?_)
    fun _ c d hold hmove => ?_
  · obtain ⟨link, rfl⟩ := create_ok hmade
    exact nofun
  · exact hold.of_eq (by rw [restart_eq]; rfl)
  · cases hmove with
    | negotiated hnegotiated =>
      cases hnegotiated.kind with
      | act hact => exact hact.populated hold
      | idle hidle => exact hold.of_eq (congrArg _ hidle.events)
      | admission _ hd =>
        subst hd
        exact hold
      | speech hsent _ _ => exact hold.of_eq (congrArg _ hsent.events)
    | @flushed m rest _ _ hsent => exact hold.of_eq (congrArg _ hsent.events)
    | dropped _ _ => exact hold

/-! ### Acts -/

/-- Between two states, at most one message has come to the outbox, and what it says of its subject
may be said there. -/
def Posts (c d : Client σ ι) : Prop :=
  d.outbox = c.outbox ∨ ∃ m : Message, d.outbox = c.outbox ++ [m] ∧
    ∀ s said, m.stance? = some (s, said) → s.Next (c.wants s) said

namespace Posts

theorem announced {m : Message} {s : Subject} {said : Bool} (hin : d.phase = .connected)
    (houtbox : d.outbox = c.outbox) (hm : m.stance? = some (s, said))
    (hnext : s.Next (c.wants s) said) : Posts c (d.post m) := by
  refine .inr ⟨m, ?_, fun t other hother => ?_⟩
  · rw [post_of_connected d hin, ← houtbox]
  · obtain ⟨rfl, rfl⟩ := Prod.mk.inj (Option.some.inj (hm.symm.trans hother))
    exact hnext

theorem neutral {m : Message} (hin : d.phase = .connected) (houtbox : d.outbox = c.outbox)
    (hm : m.stance? = none) : Posts c (d.post m) := by
  refine .inr ⟨m, ?_, fun t other hother => ?_⟩
  · rw [post_of_connected d hin, ← houtbox]
  · rw [hm] at hother
    cases hother

end Posts

theorem unsubscribe_posts (hin : c.phase = .connected) (name : String) :
    Posts c ((Session.unsubscribe name).after c) := by
  rw [Session.unsubscribe_after]
  split
  · next hlisted =>
    have hwanted : c.wants (.event (Utf8.encode name)) = true := NameMap.lists_encode.trans hlisted
    exact .announced hin rfl rfl (.inl (hwanted ▸ nofun))
  · exact .inl rfl

theorem subscribe_posts (hin : c.phase = .connected) (h : Populated c) {name : String}
    (hname : name ≠ "") (tag : String) (react : Nat → Bytes → List (Command ι)) :
    Posts c ((Session.subscribe name tag react).after c) := by
  rw [Session.subscribe_after c hname]
  dsimp only
  split
  · next hfirst =>
    have hunwanted : c.wants (.event (Utf8.encode name)) = false := by
      show c.events.subscriptions.lists (Utf8.encode name) = false
      rw [NameMap.lists_encode, h.contains_eq]
      exact congrArg (!·) hfirst
    exact .announced hin rfl rfl (.inl (hunwanted ▸ nofun))
  · exact .inl rfl

theorem unsubscribeId_posts (hin : c.phase = .connected) (name : String) (id : SubscriptionId) :
    Posts c ((Session.unsubscribeId name id).after c) := by
  rw [Session.unsubscribeId_after]
  split
  · exact .inl rfl
  · split
    · dsimp only
      split
      · exact unsubscribe_posts hin name
      · exact .inl rfl
    · exact .inl rfl

theorem listen_posts (hin : c.phase = .connected) {pattern : String} (hpattern : pattern ≠ "")
    (tag : String) (accepts : Nat → String → Bool → Bool)
    (react : Nat → String → Bool → List (Command ι)) :
    Posts c ((Session.listen pattern tag accepts react).after c) := by
  rw [Session.listen_after c hpattern]
  split
  · exact .inl rfl
  · next hnew =>
    have hunwanted : c.wants (.pattern (Utf8.encode pattern)) = false :=
      NameMap.lists_encode.trans (Bool.eq_false_iff.mpr hnew)
    exact .announced hin rfl rfl (.inl (hunwanted ▸ nofun))

theorem unlisten_posts (hin : c.phase = .connected) (pattern : String) :
    Posts c ((Session.unlisten pattern).after c) := by
  rw [Session.unlisten_after]
  split
  · next hlisted =>
    have hwanted : c.wants (.pattern (Utf8.encode pattern)) = true :=
      NameMap.lists_encode.trans hlisted
    exact .announced hin rfl rfl (.inl (hwanted ▸ nofun))
  · exact .inl rfl

theorem followPresence_posts (hin : c.phase = .connected) (tag : String)
    (react : Nat → String → Bool → List (Command ι)) :
    Posts c ((Session.followPresence tag react).after c) := by
  rw [Session.followPresence_after]
  dsimp only
  split
  · next hfirst =>
    have hunwanted : c.wants .presence = false := congrArg (!·) hfirst
    exact .announced hin rfl rfl (.inl (hunwanted ▸ nofun))
  · exact .inl rfl

theorem unfollowPresence_posts (hin : c.phase = .connected) (id : SubscriptionId) :
    Posts c ((Session.unfollowPresence id).after c) := by
  rw [Session.unfollowPresence_after]
  split
  · dsimp only
    split
    · exact .announced hin rfl rfl (.inr ⟨rfl, rfl⟩)
    · exact .inl rfl
  · exact .inl rfl

theorem queryPresence_posts (hin : c.phase = .connected) (tag : String)
    (react : List String → List (Command ι)) :
    Posts c ((Session.queryPresence tag react).after c) := by
  rw [Session.queryPresence_after]
  dsimp only
  split
  · exact .neutral hin rfl rfl
  · exact .inl rfl

theorem Bookkeeping.posts (hkept : Bookkeeping c d) (hin : c.phase = .connected)
    (h : Populated c) : Posts c d := by
  cases hkept with
  | subscribed tag react hname => exact subscribe_posts hin h hname tag react
  | unsubscribed name => exact unsubscribe_posts hin name
  | unsubscribedOne name id => exact unsubscribeId_posts hin name id
  | listened tag accepts react hpattern => exact listen_posts hin hpattern tag accepts react
  | unlistened pattern => exact unlisten_posts hin pattern
  | followed tag react => exact followPresence_posts hin tag react
  | unfollowed id => exact unfollowPresence_posts hin id
  | unfollowedAll => exact .announced hin rfl rfl (.inr ⟨rfl, rfl⟩)
  | queried tag react => exact queryPresence_posts hin tag react
  | answered => exact .inl rfl
  | decided accepted pattern name => cases accepted <;> exact .neutral hin rfl rfl
  | counted slot => exact .inl rfl

theorem Act.posts (hact : Act w c d) (hin : c.phase = .connected) (h : Populated c) :
    Posts c d := by
  cases hact with
  | kept hkept => exact hkept.posts hin h
  | emitted _ _ _ => exact .inr ⟨_, rfl, nofun⟩
  | queued _ _ hout => exact absurd hin hout
  | invoked _ => exact .inl rfl
  | performed _ _ => exact .inl rfl
  | stimulated _ => exact .inl rfl

/-- Between two states of a connected client, what was said of each subject leads from what was
wanted of it before to what is wanted now. -/
def Sways (c d : Client σ ι) : Prop :=
  ∃ told, d.outbox = c.outbox ++ told ∧
    ∀ s : Subject, Swings s.Next (c.wants s) (sayings s told) (d.wants s)

namespace Sways

variable {e : Client σ ι}

theorem silent (houtbox : d.outbox = c.outbox) (hwants : d.wants = c.wants) : Sways c d :=
  ⟨[], houtbox.trans (List.append_nil _).symm, fun _ => hwants ▸ .still _ _⟩

theorem trans (hfirst : Sways c d) (hsecond : Sways d e) : Sways c e := by
  obtain ⟨early, hearly, hfront⟩ := hfirst
  obtain ⟨late, hlate, hback⟩ := hsecond
  refine ⟨early ++ late, by rw [hlate, hearly, List.append_assoc], fun s => ?_⟩
  rw [sayings_append]
  exact (hfront s).append (hback s)

end Sways

theorem Act.sways (hact : Act w c d) (hin : c.phase = .connected) (h : Populated c) :
    Sways c d := by
  obtain ⟨told, houtbox, hwants⟩ := hact.tracks hin
  obtain hsilent | ⟨m, hposted, hnext⟩ := hact.posts hin h
  · have hnone : told = [] := by
      rw [houtbox] at hsilent
      exact List.append_right_eq_self.mp hsilent
    subst hnone
    exact .silent hsilent hwants
  · have hone : told = [m] := List.append_cancel_left (houtbox.symm.trans hposted)
    subst hone
    refine ⟨[m], houtbox, fun s => ?_⟩
    rw [hwants, sayings_singleton]
    cases hstance : m.stance? with
    | none =>
      rw [stances_singleton_of_none hstance]
      exact .still _ _
    | some stance =>
      obtain ⟨t, said⟩ := stance
      rw [stances_singleton_of_some hstance]
      show Swings s.Next (c.wants s) (if t = s then some said else none).toList
        (Function.update c.wants t said s)
      by_cases hs : t = s
      · subst hs
        rw [if_pos rfl, Function.update_self]
        exact .single (hnext t said hstance)
      · rw [if_neg hs, Function.update_of_ne (Ne.symm hs)]
        exact .still _ _

/-! ### A session -/

/-- The subjects that a client wants to be told of, as it announces them in a replay. -/
def subjects (c : Client σ ι) : List Subject :=
  c.events.subscriptions.names.map (fun name => .event (Utf8.encode name)) ++
    c.events.listeners.names.map (fun pattern => .pattern (Utf8.encode pattern)) ++
    if c.presence.subscriptions = [] then [] else [.presence]

theorem stances_replayMessages (hemits : ∀ m ∈ c.events.sendQueue, m.isEmit) :
    stances c.replayMessages = c.subjects.map (·, true) := by
  rw [stances_replay hemits, subjects]
  simp only [List.map_append, List.map_map]
  split <;> rfl

/-- No subject is announced twice. -/
theorem nodup_subjects (c : Client σ ι) : c.subjects.Nodup := by
  have hnames {α : Type} (t : NameMap α) {subject : Bytes → Subject}
      (hinjective : Function.Injective subject) :
      (t.names.map fun name => subject (Utf8.encode name)).Nodup := by
    have hnodup : t.names.Nodup :=
      t.names_ascending.imp fun {a b} (hlt : a < b) (hsame : a = b) =>
        String.lt_irrefl b (hsame ▸ hlt)
    exact hnodup.map fun _ _ hsame => Utf8.encode_injective (hinjective hsame)
  refine List.nodup_append.mpr ⟨List.nodup_append.mpr ⟨hnames _ fun _ _ => Subject.event.inj,
    hnames _ fun _ _ => Subject.pattern.inj, ?_⟩, ?_, ?_⟩
  · simp
  · split <;> simp
  · intro s hs t ht hsame
    split at ht
    · cases ht
    · rw [hsame, List.mem_singleton.mp ht] at hs
      simp at hs

theorem mem_subjects_iff (hemits : ∀ m ∈ c.events.sendQueue, m.isEmit) (s : Subject) :
    s ∈ c.subjects ↔ c.wants s = true := by
  have hwants := congrFun (inform_replay hemits) s
  rw [stances_replayMessages hemits, inform_of_wanted (by simp), List.map_map] at hwants
  rw [← hwants]
  simp [Roll.empty, Function.comp_def]

/-- Of what a client wants to be told of, it says so once in a replay; and of nothing else. -/
theorem sayings_replayMessages (hemits : ∀ m ∈ c.events.sendQueue, m.isEmit) (s : Subject) :
    sayings s c.replayMessages = if c.wants s then [true] else [] := by
  have honce {l : List Subject} (hl : l.Nodup) :
      (l.map (·, true)).filterMap (fun stance => if stance.1 = s then some stance.2 else none) =
        if s ∈ l then [true] else [] := by
    induction l with
    | nil => rfl
    | cons t rest ih =>
      obtain ⟨hnew, hrest⟩ := List.nodup_cons.mp hl
      rw [List.map_cons, List.filterMap_cons, ih hrest]
      by_cases hs : t = s
      · subst hs
        simp [hnew]
      · simp [hs, Ne.symm hs]
  rw [sayings, stances_replayMessages hemits, honce c.nodup_subjects]
  simp only [mem_subjects_iff hemits s]

/-- What the replay says leads from nothing to what is wanted. -/
theorem welcomed_swings (hemits : ∀ m ∈ c.events.sendQueue, m.isEmit) (s : Subject) :
    Swings s.Next false (sayings s c.replayMessages) (c.welcomed.wants s) := by
  have hsame : c.welcomed.wants s = c.wants s := congrFun (wants_eq rfl rfl rfl) s
  rw [hsame, sayings_replayMessages hemits]
  cases c.wants s with
  | false => exact .still _ _
  | true => exact .single (.inl nofun)

/-- What a client says of a subject while it is connected leads from what it wanted to what it
wants. -/
theorem busied_sways (hin : c.phase = .connected) (h : Populated c) (errands : List (Errand ι)) :
    Populated (c.busied w errands) ∧ Sways c (c.busied w errands) := by
  induction errands generalizing c with
  | nil => exact ⟨h, .silent rfl rfl⟩
  | cons errand rest ih =>
    obtain ⟨d, himmaterial, hacts⟩ := Session.attend_acts (w := w) hin errand
    obtain ⟨link, journal, rfl⟩ := himmaterial
    let early : Client σ ι := { c with link := link, journal := journal }
    have hearly : Sways c early := .silent rfl (wants_eq rfl rfl rfl)
    obtain ⟨-, hpopulated, hattended⟩ := Session.Walks.keeps
      (P := fun e => e.phase = .connected ∧ Populated e ∧ Sways c e) hacts
      (fun _ _ ⟨he, hfull, hsways⟩ hact =>
        ⟨hact.phase.trans he, hact.populated hfull, hsways.trans (hact.sways he hfull)⟩)
      ⟨hin, h, hearly⟩
    obtain ⟨hlater, hrest⟩ := ih (phase_attend hin errand) hpopulated
    exact ⟨hlater, hattended.trans hrest⟩

/-- What a session says of a subject, from the replay on. -/
theorem session_swings {start : Nat} (h : Reached w start c) (errands : List (Errand ι)) :
    ∃ told, (c.welcomed.busied w errands).outbox = c.outbox ++ told ∧ ∀ s : Subject,
      Swings s.Next false (sayings s told) ((c.welcomed.busied w errands).wants s) := by
  have hemits := h.conserved.emits
  obtain ⟨told, houtbox, hswings⟩ :=
    (busied_sways (w := w) (c := c.welcomed) rfl h.populated errands).2
  refine ⟨c.replayMessages ++ told, ?_, fun s => ?_⟩
  · rw [houtbox, ← List.append_assoc]
    rfl
  · rw [sayings_append]
    exact (welcomed_swings hemits s).append (hswings s)

/-- The letters go back and forth, beginning with `true`. -/
def Alternates (word : List Bool) : Prop :=
  (false :: word).IsChain (· ≠ ·)

theorem alternates_of_swings {s : Subject} {word : List Bool} {after : Bool}
    (h : Swings s.Next false word after) (hs : s ≠ .presence) : Alternates word :=
  h.chain.imp fun _ _ hnext => (hnext.resolve_right fun hpresence => hs hpresence.1).symm

/-- However the callbacks react: what a client puts in its outbox from the moment it is connected
on, while it attends to whatever commands and messages, says of every name in turn that it
subscribes and that it unsubscribes, beginning with a subscription; and the last word on a name is
that it subscribes if and only if the name is listed then. Of every pattern it says likewise that
it listens and that it no longer does. -/
theorem interests_alternate {start : Nat} (h : Reached w start c) (errands : List (Errand ι)) :
    let d := c.welcomed.busied w errands
    d.phase = .connected ∧ ∃ told, d.outbox = c.outbox ++ told ∧
      (∀ name, Alternates (sayings (.event (Utf8.encode name)) told) ∧
        ((sayings (.event (Utf8.encode name)) told).getLast? = some true ↔
          name ∈ d.events.subscriptions.names)) ∧
      ∀ pattern, Alternates (sayings (.pattern (Utf8.encode pattern)) told) ∧
        ((sayings (.pattern (Utf8.encode pattern)) told).getLast? = some true ↔
          d.events.listeners.contains pattern) := by
  intro d
  obtain ⟨told, houtbox, hswings⟩ := session_swings h errands
  refine ⟨phase_busied (c := c.welcomed) rfl, told, houtbox, fun name => ?_, fun pattern => ?_⟩
  · have hname := hswings (.event (Utf8.encode name))
    refine ⟨alternates_of_swings hname nofun, hname.getLast?_eq_iff.trans ?_⟩
    rw [NameMap.mem_names_iff_contains, ← NameMap.lists_encode]
    rfl
  · have hpattern := hswings (.pattern (Utf8.encode pattern))
    refine ⟨alternates_of_swings hpattern nofun, hpattern.getLast?_eq_iff.trans ?_⟩
    rw [← NameMap.lists_encode]
    rfl

/-- The guest prepares for a session. -/
def prepared : Client Script Script.Stimulus :=
  guestAfter
    [ .command (.subscribe "news" "first" fun _ _ => []),
      .command (.listen "w.*" "provider" (fun _ _ _ => true) fun _ _ _ => []) ]

/-- What the guest has to attend to then. The callback that it registers first unsubscribes when it
is called; an identifier that was never given out changes nothing. -/
def bustle : List (Errand Script.Stimulus) :=
  [ .command (.subscribe "news" "second" fun _ _ => [.unsubscribe "news"]),
    .message (Session.emitMessage "news" (Utf8.encode "1")),
    .command (.subscribe "news" "third" fun _ _ => []),
    .command (.unsubscribeId "news" 7),
    .command (.unlisten "w.*"),
    .command (.unlisten "w.*") ]

theorem interests_alternate_bustle :
    let d := prepared.welcomed.busied hospitable bustle
    (∃ start, Reached hospitable start prepared) ∧ ∃ told, d.outbox = prepared.outbox ++ told ∧
      sayings (.event (Utf8.encode "news")) told = [true, false, true] ∧
      Alternates (sayings (.event (Utf8.encode "news")) told) ∧
      "news" ∈ d.events.subscriptions.names ∧
      sayings (.pattern (Utf8.encode "w.*")) told = [true, false] ∧
      Alternates (sayings (.pattern (Utf8.encode "w.*")) told) ∧
      ¬ d.events.listeners.contains "w.*" := by
  intro d
  obtain ⟨start, hreached⟩ : ∃ start, Reached hospitable start prepared :=
    (Reached.created create_guest).of_allReturn (by decide +kernel)
  obtain ⟨-, told, houtbox, hevents, hpatterns⟩ := interests_alternate hreached bustle
  have hnone : prepared.outbox = [] := by decide +kernel
  have htold : told = d.outbox := by rw [houtbox, hnone, List.nil_append]
  have hnews : sayings (.event (Utf8.encode "news")) told = [true, false, true] := by
    rw [htold]
    decide +kernel
  have hpattern : sayings (.pattern (Utf8.encode "w.*")) told = [true, false] := by
    rw [htold]
    decide +kernel
  obtain ⟨hfirst, hlisted⟩ := hevents "news"
  obtain ⟨hsecond, hlistening⟩ := hpatterns "w.*"
  rw [hnews] at hlisted
  rw [hpattern] at hlistening
  exact ⟨⟨start, hreached⟩, told, houtbox, hnews, hfirst, hlisted.mp rfl, hpattern, hsecond,
    fun hcontains => absurd (hlistening.mpr hcontains) (by decide)⟩

end Client

end Realtime
