import Realtime.Proofs.Client.Moves

/-!
# The books of a client

The commands that change who is to be told of what, each with the state that it
leaves: a change of the boards, and an announcement of it to the server where the
server has to know. Little of a client is touched by that. `Clerical` says what is
not, so that whoever is interested in the rest need not look at the commands.

Results:
1. `subscribe_after`, ..., `queryPresence_after`: what each command leaves.
2. `Bookkeeping.clerical`: bookkeeping is clerical.
3. `Act.phase`, `Act.uri`, `Act.journal`: what acts leave alone and write down.
-/

namespace Realtime

variable {σ ι : Type}

/-! ## What the commands leave -/

namespace Client

/-- The client with other subscriptions to events. -/
def withSubscriptions (subscriptions : NameMap (List (Subscription ι Bytes)))
    (c : Client σ ι) : Client σ ι :=
  { c with events := { c.events with subscriptions := subscriptions } }

/-- The client with other listeners. -/
def withListeners (listeners : NameMap (Listener ι)) (c : Client σ ι) : Client σ ι :=
  { c with events := { c.events with listeners := listeners } }

/-- The client with others who follow presence. -/
def withFollowers (subscriptions : List (Subscription ι (String × Bool)))
    (c : Client σ ι) : Client σ ι :=
  { c with presence := { c.presence with subscriptions := subscriptions } }

/-- The client with others who wait for a list of users. -/
def withQuerents (querents : List (Querent ι)) (c : Client σ ι) : Client σ ι :=
  { c with presence := { c.presence with querents := querents } }

/-- The client after it gave a new callback a place to count its calls. -/
def withSlot (c : Client σ ι) : Client σ ι :=
  c.newSlot.2

/-- The client after it gave a new subscription an identifier and a slot. -/
def withTicket (c : Client σ ι) : Client σ ι :=
  c.newId.2.newSlot.2

end Client

namespace Session

open Client

variable (c : Client σ ι)

theorem subscribe_after {name : String} (hname : name ≠ "") (tag : String)
    (react : Nat → Bytes → List (Command ι)) :
    (subscribe name tag react).after c =
      let before := (c.events.subscriptions.find? name).getD []
      let enrolled := c.withTicket.withSubscriptions (c.events.subscriptions.insert name
        (before ++ [⟨c.nextId, c.calls.length, tag, react⟩]))
      if before.isEmpty then enrolled.post (eventMessage .subscribe name) else enrolled := by
  unfold subscribe
  rw [if_neg hname]
  exact after_ite ..

theorem unsubscribe_after (name : String) :
    (unsubscribe name).after c =
      if c.events.subscriptions.contains name then
        (c.withSubscriptions (c.events.subscriptions.erase name)).post
          (eventMessage .unsubscribe name)
      else c :=
  after_ite ..

theorem unsubscribeId_after (name : String) (id : SubscriptionId) :
    (unsubscribeId name id).after c =
      match c.events.subscriptions.find? name with
      | none => c
      | some subscriptions =>
        if subscriptions.any (·.id = id) then
          let rest := subscriptions.eraseP (·.id = id)
          if rest.isEmpty then (unsubscribe name).after c
          else c.withSubscriptions (c.events.subscriptions.insert name rest)
        else c := by
  unfold unsubscribeId
  show Session.after (match c.events.subscriptions.find? name with
    | none => _
    | some subscriptions => _) c = _
  cases c.events.subscriptions.find? name with
  | none => rfl
  | some subscriptions =>
    refine (after_ite ..).trans ?_
    dsimp only
    rw [after_ite]
    rfl

theorem listen_after {pattern : String} (hpattern : pattern ≠ "") (tag : String)
    (accepts : Nat → String → Bool → Bool) (react : Nat → String → Bool → List (Command ι)) :
    (listen pattern tag accepts react).after c =
      if c.events.listeners.contains pattern then c
      else
        (c.withSlot.withListeners (c.events.listeners.insert pattern
          ⟨⟨c.calls.length, tag, fun before told => react before told.1 told.2⟩, accepts⟩)).post
            (eventMessage .listen pattern) := by
  unfold listen
  rw [if_neg hpattern]
  show Session.after (if !c.events.listeners.contains pattern then _ else _) c = _
  cases c.events.listeners.contains pattern <;> rfl

theorem unlisten_after (pattern : String) :
    (unlisten pattern).after c =
      if c.events.listeners.contains pattern then
        (c.withListeners (c.events.listeners.erase pattern)).post (eventMessage .unlisten pattern)
      else c :=
  after_ite ..

theorem followPresence_after (tag : String) (react : Nat → String → Bool → List (Command ι)) :
    (followPresence tag react).after c =
      let enrolled := c.withTicket.withFollowers (c.presence.subscriptions ++
        [⟨c.nextId, c.calls.length, tag, fun before told => react before told.1 told.2⟩])
      if c.presence.subscriptions.isEmpty then enrolled.post (presenceMessage .subscribe)
      else enrolled :=
  after_ite ..

theorem unfollowPresence_after (id : SubscriptionId) :
    (unfollowPresence id).after c =
      if c.presence.subscriptions.any (·.id = id) then
        let rest := c.presence.subscriptions.eraseP (·.id = id)
        if rest.isEmpty then (c.withFollowers rest).post (presenceMessage .unsubscribe)
        else c.withFollowers rest
      else c := by
  refine (after_ite ..).trans ?_
  split
  · exact after_ite ..
  · rfl

theorem unfollowAllPresence_after :
    unfollowAllPresence.after c = (c.withFollowers []).post (presenceMessage .unsubscribe) := rfl

theorem queryPresence_after (tag : String) (react : List String → List (Command ι)) :
    (queryPresence tag react).after c =
      let asked := c.withQuerents (c.presence.querents ++ [⟨tag, react⟩])
      if c.presence.querents.isEmpty then asked.post queryMessage else asked :=
  after_ite ..

end Session

/-! ## What bookkeeping leaves alone -/

namespace Client

variable {w : Surroundings σ ι} {c d : Client σ ι}

/-- Between two states, nothing was written down, and nothing changed that concerns the
connection. The outbox has gained announcements, and that only if there is a
connection. -/
structure Clerical (c d : Client σ ι) : Prop where
  phase : d.phase = c.phase
  journal : d.journal = c.journal
  uri : d.uri = c.uri
  link : d.link = c.link
  pending : d.pending = c.pending
  sendQueue : d.events.sendQueue = c.events.sendQueue
  outbox : ∃ told, d.outbox = c.outbox ++ told ∧ (∀ m ∈ told, Announcement m) ∧
    (c.phase ≠ .connected → told = [])

namespace Clerical

theorem refl (c : Client σ ι) : Clerical c c where
  phase := rfl
  journal := rfl
  uri := rfl
  link := rfl
  pending := rfl
  sendQueue := rfl
  outbox := ⟨[], (List.append_nil _).symm, fun _ h => absurd h List.not_mem_nil, fun _ => rfl⟩

theorem withSubscriptions (h : Clerical c d)
    (subscriptions : NameMap (List (Subscription ι Bytes))) :
    Clerical c (d.withSubscriptions subscriptions) :=
  ⟨h.phase, h.journal, h.uri, h.link, h.pending, h.sendQueue, h.outbox⟩

theorem withListeners (h : Clerical c d) (listeners : NameMap (Listener ι)) :
    Clerical c (d.withListeners listeners) :=
  ⟨h.phase, h.journal, h.uri, h.link, h.pending, h.sendQueue, h.outbox⟩

theorem withFollowers (h : Clerical c d)
    (subscriptions : List (Subscription ι (String × Bool))) :
    Clerical c (d.withFollowers subscriptions) :=
  ⟨h.phase, h.journal, h.uri, h.link, h.pending, h.sendQueue, h.outbox⟩

theorem withQuerents (h : Clerical c d) (querents : List (Querent ι)) :
    Clerical c (d.withQuerents querents) :=
  ⟨h.phase, h.journal, h.uri, h.link, h.pending, h.sendQueue, h.outbox⟩

theorem withSlot (h : Clerical c d) : Clerical c d.withSlot :=
  ⟨h.phase, h.journal, h.uri, h.link, h.pending, h.sendQueue, h.outbox⟩

theorem withTicket (h : Clerical c d) : Clerical c d.withTicket :=
  ⟨h.phase, h.journal, h.uri, h.link, h.pending, h.sendQueue, h.outbox⟩

theorem counted (h : Clerical c d) (slot : Nat) : Clerical c (d.countCall slot).2 :=
  ⟨h.phase, h.journal, h.uri, h.link, h.pending, h.sendQueue, h.outbox⟩

theorem post (h : Clerical c d) {m : Message} (hm : Announcement m) : Clerical c (d.post m) := by
  by_cases hphase : d.phase = .connected
  · rw [post_of_connected d hphase]
    obtain ⟨told, houtbox, htold, -⟩ := h.outbox
    refine ⟨h.phase, h.journal, h.uri, h.link, h.pending, h.sendQueue, told ++ [m], ?_, ?_, ?_⟩
    · show d.outbox ++ [m] = _
      rw [houtbox, List.append_assoc]
    · intro other hother
      obtain hold | hnew := List.mem_append.mp hother
      · exact htold other hold
      · rw [List.mem_singleton.mp hnew]
        exact hm
    · intro hout
      exact absurd (h.phase.symm.trans hphase) hout
  · rw [post_of_not_connected d hphase]
    exact h

end Clerical

theorem subscribe_clerical {name : String} (hname : name ≠ "") (tag : String)
    (react : Nat → Bytes → List (Command ι)) :
    Clerical c ((Session.subscribe name tag react).after c) := by
  have henrolled := (Clerical.refl c).withTicket.withSubscriptions
  rw [Session.subscribe_after c hname]
  dsimp only
  split
  · exact (henrolled _).post (.subscribe name)
  · exact henrolled _

theorem unsubscribe_clerical (name : String) :
    Clerical c ((Session.unsubscribe name).after c) := by
  rw [Session.unsubscribe_after]
  split
  · exact ((Clerical.refl c).withSubscriptions _).post (.unsubscribe name)
  · exact Clerical.refl c

theorem unsubscribeId_clerical (name : String) (id : SubscriptionId) :
    Clerical c ((Session.unsubscribeId name id).after c) := by
  rw [Session.unsubscribeId_after]
  split
  · exact Clerical.refl c
  · split
    · dsimp only
      split
      · exact unsubscribe_clerical name
      · exact (Clerical.refl c).withSubscriptions _
    · exact Clerical.refl c

theorem listen_clerical {pattern : String} (hpattern : pattern ≠ "") (tag : String)
    (accepts : Nat → String → Bool → Bool) (react : Nat → String → Bool → List (Command ι)) :
    Clerical c ((Session.listen pattern tag accepts react).after c) := by
  rw [Session.listen_after c hpattern]
  split
  · exact Clerical.refl c
  · exact ((Clerical.refl c).withSlot.withListeners _).post (.listen pattern)

theorem unlisten_clerical (pattern : String) :
    Clerical c ((Session.unlisten pattern).after c) := by
  rw [Session.unlisten_after]
  split
  · exact ((Clerical.refl c).withListeners _).post (.unlisten pattern)
  · exact Clerical.refl c

theorem followPresence_clerical (tag : String) (react : Nat → String → Bool → List (Command ι)) :
    Clerical c ((Session.followPresence tag react).after c) := by
  have henrolled := (Clerical.refl c).withTicket.withFollowers
  rw [Session.followPresence_after]
  dsimp only
  split
  · exact (henrolled _).post .follow
  · exact henrolled _

theorem unfollowPresence_clerical (id : SubscriptionId) :
    Clerical c ((Session.unfollowPresence id).after c) := by
  rw [Session.unfollowPresence_after]
  split
  · dsimp only
    split
    · exact ((Clerical.refl c).withFollowers _).post .unfollow
    · exact (Clerical.refl c).withFollowers _
  · exact Clerical.refl c

theorem unfollowAllPresence_clerical : Clerical c (Session.unfollowAllPresence.after c) := by
  rw [Session.unfollowAllPresence_after]
  exact ((Clerical.refl c).withFollowers []).post .unfollow

theorem queryPresence_clerical (tag : String) (react : List String → List (Command ι)) :
    Clerical c ((Session.queryPresence tag react).after c) := by
  have hasked := (Clerical.refl c).withQuerents
  rw [Session.queryPresence_after]
  dsimp only
  split
  · exact (hasked _).post .query
  · exact hasked _

theorem Bookkeeping.clerical (h : Bookkeeping c d) : Clerical c d := by
  have hsame := Clerical.refl c
  cases h with
  | subscribed tag react hname => exact subscribe_clerical hname tag react
  | unsubscribed name => exact unsubscribe_clerical name
  | unsubscribedOne name id => exact unsubscribeId_clerical name id
  | listened tag accepts react hpattern => exact listen_clerical hpattern tag accepts react
  | unlistened pattern => exact unlisten_clerical pattern
  | followed tag react => exact followPresence_clerical tag react
  | unfollowed id => exact unfollowPresence_clerical id
  | unfollowedAll => exact unfollowAllPresence_clerical
  | queried tag react => exact queryPresence_clerical tag react
  | answered => exact hsame.withQuerents []
  | decided accepted pattern name =>
    cases accepted with
    | true => exact hsame.post (.accept pattern name)
    | false => exact hsame.post (.reject pattern name)
  | counted slot => exact hsame.counted slot

/-! ## What acts write down -/

/-- What acts write in the journal. -/
inductive OwnDoing : Occurrence ι → Prop
  | emitted (m : Message) : OwnDoing (.emitted m)
  | invoked (i : Invocation) : OwnDoing (.invoked i)
  | performed (command : Command ι) (result : Except Error Answer) :
      OwnDoing (.performed command result)

theorem Act.phase (h : Act w c d) : d.phase = c.phase := by
  cases h with
  | kept hkept => exact hkept.clerical.phase
  | emitted _ _ _ => rfl
  | queued _ _ _ => rfl
  | invoked _ => rfl
  | performed _ _ => rfl
  | stimulated _ => rfl

theorem Act.uri (h : Act w c d) : d.uri = c.uri := by
  cases h with
  | kept hkept => exact hkept.clerical.uri
  | emitted _ _ _ => rfl
  | queued _ _ _ => rfl
  | invoked _ => rfl
  | performed _ _ => rfl
  | stimulated _ => rfl

/-- What waits to be sent after an act has waited before, or is an announcement or an
event of a program, of which the data are text. -/
theorem Act.waiting (h : Act w c d) {m : Message} (hm : m ∈ d.outbox ++ d.events.sendQueue) :
    m ∈ c.outbox ++ c.events.sendQueue ∨ Announcement m ∨
      ∃ name data text, Utf8.decode data = .ok text ∧ m = Session.emitMessage name data := by
  cases h with
  | kept hkept =>
    obtain ⟨told, houtbox, htold, -⟩ := hkept.clerical.outbox
    rw [houtbox, hkept.clerical.sendQueue, List.append_assoc] at hm
    simp only [List.mem_append] at hm ⊢
    obtain hold | hnew | hqueued := hm
    · exact .inl (.inl hold)
    · exact .inr (.inl (htold m hnew))
    · exact .inl (.inr hqueued)
  | @emitted name text data _ hdata _ =>
    simp only [List.mem_append, List.mem_singleton, note_events] at hm ⊢
    obtain (hold | hnew) | hqueued := hm
    · exact .inl (.inl hold)
    · exact .inr (.inr ⟨name, data, text, hdata, hnew⟩)
    · exact .inl (.inr hqueued)
  | @queued name text data _ hdata _ =>
    simp only [List.mem_append, List.mem_singleton, note_outbox] at hm ⊢
    obtain hold | hqueued | hnew := hm
    · exact .inl (.inl hold)
    · exact .inl (.inr hqueued)
    · exact .inr (.inr ⟨name, data, text, hdata, hnew⟩)
  | invoked _ => exact .inl hm
  | performed _ _ => exact .inl hm
  | stimulated _ => exact .inl hm

/-- What is replayed is an announcement, or an event that was waiting for this. -/
theorem mem_replayMessages {m : Message} (hm : m ∈ c.replayMessages) :
    Announcement m ∨ m ∈ c.events.sendQueue := by
  simp only [replayMessages, List.mem_append, List.mem_map] at hm
  obtain (((⟨name, -, rfl⟩ | ⟨pattern, -, rfl⟩) | hqueued) | hfollow) | hquery := hm
  · exact .inl (.subscribe name)
  · exact .inl (.listen pattern)
  · exact .inr hqueued
  · split at hfollow
    · cases hfollow
    · rw [List.mem_singleton.mp hfollow]
      exact .inl .follow
  · split at hquery
    · cases hquery
    · rw [List.mem_singleton.mp hquery]
      exact .inl .query

theorem Act.journal (h : Act w c d) :
    d.journal = c.journal ∨ ∃ what, OwnDoing what ∧ d.journal = (c.note what).journal := by
  cases h with
  | kept hkept => exact .inl hkept.clerical.journal
  | emitted _ _ _ => exact .inr ⟨_, .emitted _, rfl⟩
  | queued _ _ _ => exact .inr ⟨_, .emitted _, rfl⟩
  | invoked i => exact .inr ⟨_, .invoked i, rfl⟩
  | performed command result => exact .inr ⟨_, .performed command result, rfl⟩
  | stimulated _ => exact .inl rfl

end Client

end Realtime
