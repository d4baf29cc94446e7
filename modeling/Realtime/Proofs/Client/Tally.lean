import Realtime.Proofs.Client.Intake

/-!
# Who counts where

A client counts how often it calls each callback, and a callback is told how often it was called
before. The counts lie in a list, and a callback that is registered is given the next place in it.
As callbacks come and go, no place is given out twice. So the count of a listener is that of its own
calls: it goes up when the listener is asked about a name, and otherwise it stays.

Results:
1. `Bookkeeping.apart`, `Reached.apart`: no listener shares its place with another callback.
2. `callsAt_notified`: when a listener is called.
3. `Unasked.callsAt`: who calls no one but subscribers of an event calls no listener.
-/

namespace Realtime

/-- The notice is for the listener for the pattern, if there is one. -/
def Notice.concerns (pattern : String) : Notice → Bool
  | .listened other _ _ => other = pattern
  | _ => false

namespace Client

open Session

variable {σ ι : Type} {w : Surroundings σ ι} {c d e : Client σ ι}

/-! ## Places -/

/-- A callback of the client counts its calls in this slot: the listener for a pattern, or someone
who subscribes to an event or follows presence. -/
inductive Occupies (c : Client σ ι) : Option String → Nat → Prop
  | listener {pattern : String} {listener : Listener ι} :
      c.events.listeners.find? pattern = some listener →
      Occupies c (some pattern) listener.callback.slot
  | subscriber {name : String} {s : Subscription ι Bytes} : s ∈ c.subscribers name →
      Occupies c none s.callback.slot
  | follower {s : Subscription ι (String × Bool)} : s ∈ c.presence.subscriptions →
      Occupies c none s.callback.slot

/-- Every callback counts its calls in a slot that was given out, and a listener does so alone. -/
structure Apart (c : Client σ ι) : Prop where
  given {owner : Option String} {slot : Nat} : Occupies c owner slot → slot < c.calls.length
  alone {pattern : String} {owner : Option String} {slot : Nat} :
    Occupies c (some pattern) slot → Occupies c owner slot → owner = some pattern

theorem Occupies.of_eq {owner : Option String} {slot : Nat} (h : Occupies d owner slot)
    (hsubscriptions : d.events.subscriptions = c.events.subscriptions)
    (hlisteners : d.events.listeners = c.events.listeners)
    (hfollowers : d.presence.subscriptions = c.presence.subscriptions) :
    Occupies c owner slot := by
  cases h with
  | listener hfound => exact .listener (hlisteners ▸ hfound)
  | subscriber hs =>
    rw [subscribers, hsubscriptions] at hs
    exact .subscriber hs
  | follower hs => exact .follower (hfollowers ▸ hs)

namespace Apart

theorem ne (h : Apart c) {pattern : String} {owner : Option String} {slot other : Nat}
    (hlistener : Occupies c (some pattern) slot) (hother : Occupies c owner other)
    (howner : owner ≠ some pattern) : other ≠ slot :=
  fun hsame => howner (h.alone hlistener (hsame ▸ hother))

/-- Callbacks that have gone leave their slots to no one. -/
theorem of_fewer (h : Apart c)
    (hfewer : ∀ owner slot, Occupies d owner slot → Occupies c owner slot)
    (hcalls : d.calls.length = c.calls.length) : Apart d where
  given hslot := hcalls ▸ h.given (hfewer _ _ hslot)
  alone hlistener hslot := h.alone (hfewer _ _ hlistener) (hfewer _ _ hslot)

/-- A new callback is given a slot of its own. -/
theorem of_fresh (h : Apart c) (owner : Option String)
    (hfewer : ∀ other slot, Occupies d other slot →
      Occupies c other slot ∨ other = owner ∧ slot = c.calls.length)
    (hcalls : d.calls.length = c.calls.length + 1) : Apart d where
  given hslot := by
    rw [hcalls]
    obtain hold | ⟨-, rfl⟩ := hfewer _ _ hslot
    · exact Nat.lt_succ_of_lt (h.given hold)
    · exact Nat.lt_succ_self _
  alone hlistener hslot := by
    obtain hold | ⟨howner, rfl⟩ := hfewer _ _ hlistener
    · obtain hother | ⟨-, rfl⟩ := hfewer _ _ hslot
      · exact h.alone hold hother
      · exact absurd (h.given hold) (Nat.lt_irrefl _)
    · obtain hother | ⟨hsame, -⟩ := hfewer _ _ hslot
      · exact absurd (h.given hother) (Nat.lt_irrefl _)
      · exact hsame.trans howner.symm

/-- Who waits for a list of users, and what is said, is of no concern. -/
theorem of_eq (h : Apart c) (hsubscriptions : d.events.subscriptions = c.events.subscriptions)
    (hlisteners : d.events.listeners = c.events.listeners)
    (hfollowers : d.presence.subscriptions = c.presence.subscriptions)
    (hcalls : d.calls.length = c.calls.length) : Apart d :=
  h.of_fewer (fun _ _ hslot => hslot.of_eq hsubscriptions hlisteners hfollowers) hcalls

theorem post (h : Apart c) (m : Message) : Apart (c.post m) := by
  unfold Client.post
  split
  · exact h.of_eq rfl rfl rfl rfl
  · exact h

theorem counted (h : Apart c) (slots : List Nat) : Apart (c.counted slots) :=
  h.of_eq rfl rfl rfl (length_calls_counted c slots)

/-! ### Commands -/

/-- Some of the subscriptions to events are left. -/
theorem withSubscriptions (h : Apart c) {table : NameMap (List (Subscription ι Bytes))}
    (htable : ∀ name, (table.find? name).getD [] ⊆ c.subscribers name) :
    Apart (c.withSubscriptions table) := by
  refine h.of_fewer (fun _ _ hslot => ?_) rfl
  cases hslot with
  | listener hfound => exact .listener hfound
  | subscriber hs => exact .subscriber (htable _ hs)
  | follower hs => exact .follower hs

/-- Some of those who follow presence are left. -/
theorem withFollowers (h : Apart c) {followers : List (Subscription ι (String × Bool))}
    (hfollowers : followers ⊆ c.presence.subscriptions) : Apart (c.withFollowers followers) := by
  refine h.of_fewer (fun _ _ hslot => ?_) rfl
  cases hslot with
  | listener hfound => exact .listener hfound
  | subscriber hs => exact .subscriber hs
  | follower hs => exact .follower (hfollowers hs)

theorem subscribe (h : Apart c) {name : String} (hname : name ≠ "") (tag : String)
    (react : Nat → Bytes → List (Command ι)) : Apart ((subscribe name tag react).after c) := by
  have henrolled : Apart (c.withTicket.withSubscriptions (c.events.subscriptions.insert name
      (c.subscribers name ++ [⟨c.nextId, c.calls.length, tag, react⟩]))) := by
    refine h.of_fresh none (fun _ _ hslot => ?_) List.length_append
    cases hslot with
    | listener hfound => exact .inl (.listener hfound)
    | follower hs => exact .inl (.follower hs)
    | @subscriber other s hs =>
      change s ∈ ((c.events.subscriptions.insert name _).find? other).getD [] at hs
      rw [NameMap.find?_insert] at hs
      split at hs
      · obtain hold | hnew := List.mem_append.mp hs
        · exact .inl (.subscriber hold)
        · rw [List.mem_singleton.mp hnew]
          exact .inr ⟨rfl, rfl⟩
      · exact .inl (.subscriber hs)
  rw [subscribe_after c hname]
  dsimp only
  split
  · exact henrolled.post _
  · exact henrolled

theorem unsubscribe (h : Apart c) (name : String) : Apart ((unsubscribe name).after c) := by
  rw [unsubscribe_after]
  split
  · refine (h.withSubscriptions fun other => ?_).post _
    rw [NameMap.find?_erase]
    split
    · exact List.nil_subset _
    · exact List.Subset.refl _
  · exact h

theorem unsubscribeId (h : Apart c) (name : String) (id : SubscriptionId) :
    Apart ((unsubscribeId name id).after c) := by
  rw [unsubscribeId_after]
  cases hfound : c.events.subscriptions.find? name with
  | none => exact h
  | some subscriptions =>
    dsimp only
    split
    · split
      · exact h.unsubscribe name
      · refine h.withSubscriptions fun other => ?_
        rw [NameMap.find?_insert]
        split
        · next hother =>
          rw [hother, subscribers_of_find? hfound]
          exact List.eraseP_subset
        · exact List.Subset.refl _
    · exact h

theorem listen (h : Apart c) {pattern : String} (hpattern : pattern ≠ "") (tag : String)
    (accepts : Nat → String → Bool → Bool) (react : Nat → String → Bool → List (Command ι)) :
    Apart ((listen pattern tag accepts react).after c) := by
  rw [listen_after c hpattern]
  split
  · exact h
  · refine Apart.post (h.of_fresh (some pattern) (fun _ _ hslot => ?_) List.length_append) _
    cases hslot with
    | follower hs => exact .inl (.follower hs)
    | subscriber hs => exact .inl (.subscriber hs)
    | @listener other listener hfound =>
      change (c.events.listeners.insert pattern _).find? other = some listener at hfound
      rw [NameMap.find?_insert] at hfound
      split at hfound
      · next hother =>
        cases hfound
        exact .inr ⟨congrArg some hother, rfl⟩
      · exact .inl (.listener hfound)

theorem unlisten (h : Apart c) (pattern : String) : Apart ((unlisten pattern).after c) := by
  have hdone : Apart (c.withListeners (c.events.listeners.erase pattern)) := by
    refine h.of_fewer (fun _ _ hslot => ?_) rfl
    cases hslot with
    | follower hs => exact .follower hs
    | subscriber hs => exact .subscriber hs
    | @listener other listener hfound =>
      change (c.events.listeners.erase pattern).find? other = some listener at hfound
      rw [NameMap.find?_erase] at hfound
      split at hfound
      · cases hfound
      · exact .listener hfound
  rw [unlisten_after]
  split
  · exact hdone.post _
  · exact h

theorem followPresence (h : Apart c) (tag : String)
    (react : Nat → String → Bool → List (Command ι)) :
    Apart ((followPresence tag react).after c) := by
  have henrolled : Apart (c.withTicket.withFollowers (c.presence.subscriptions ++
      [⟨c.nextId, c.calls.length, tag, fun before told => react before told.1 told.2⟩])) := by
    refine h.of_fresh none (fun _ _ hslot => ?_) List.length_append
    cases hslot with
    | listener hfound => exact .inl (.listener hfound)
    | subscriber hs => exact .inl (.subscriber hs)
    | follower hs =>
      obtain hold | hnew := List.mem_append.mp hs
      · exact .inl (.follower hold)
      · rw [List.mem_singleton.mp hnew]
        exact .inr ⟨rfl, rfl⟩
  rw [followPresence_after]
  dsimp only
  split
  · exact henrolled.post _
  · exact henrolled

theorem unfollowPresence (h : Apart c) (id : SubscriptionId) :
    Apart ((unfollowPresence id).after c) := by
  have hleft : Apart (c.withFollowers (c.presence.subscriptions.eraseP (·.id = id))) :=
    h.withFollowers List.eraseP_subset
  rw [unfollowPresence_after]
  split
  · dsimp only
    split
    · exact hleft.post _
    · exact hleft
  · exact h

theorem queryPresence (h : Apart c) (tag : String) (react : List String → List (Command ι)) :
    Apart ((queryPresence tag react).after c) := by
  have hasked : Apart (c.withQuerents (c.presence.querents ++ [⟨tag, react⟩])) :=
    h.of_eq rfl rfl rfl rfl
  rw [queryPresence_after]
  dsimp only
  split
  · exact hasked.post _
  · exact hasked

end Apart

theorem Bookkeeping.apart (hkept : Bookkeeping c d) (h : Apart c) : Apart d := by
  cases hkept with
  | subscribed tag react hname => exact h.subscribe hname tag react
  | unsubscribed name => exact h.unsubscribe name
  | unsubscribedOne name id => exact h.unsubscribeId name id
  | listened tag accepts react hpattern => exact h.listen hpattern tag accepts react
  | unlistened pattern => exact h.unlisten pattern
  | followed tag react => exact h.followPresence tag react
  | unfollowed id => exact h.unfollowPresence id
  | unfollowedAll =>
    rw [unfollowAllPresence_after]
    exact (h.withFollowers (List.nil_subset _)).post _
  | queried tag react => exact h.queryPresence tag react
  | answered => exact h.of_eq rfl rfl rfl rfl
  | decided accepted pattern name => exact h.post _
  | counted slot => exact h.counted [slot]

theorem Act.apart (hact : Act w c d) (h : Apart c) : Apart d := by
  cases hact with
  | kept hkept => exact hkept.apart h
  | emitted | queued | invoked | performed | stimulated => exact h.of_eq rfl rfl rfl rfl

theorem Apart.restart (h : Apart c) : Apart c.restart := by
  rw [restart_eq]
  exact h.of_eq rfl rfl rfl rfl

/-- Whatever has happened to a client, its listeners count their calls apart. -/
theorem Reached.apart {start : Nat} (h : Reached w start c) : Apart c := by
  refine h.invariant (P := fun _ => Apart) (fun _ _ _ _ hmade => ?_) (fun _ _ hold => hold.restart)
    fun _ c d hold hmove => ?_
  · obtain ⟨link, rfl⟩ := create_ok hmade
    exact ⟨nofun, nofun⟩
  · cases hmove with
    | negotiated hnegotiated =>
      cases hnegotiated.kind with
      | act hact => exact hact.apart hold
      | idle hidle =>
        exact hold.of_eq (by rw [hidle.events]) (by rw [hidle.events]) (by rw [hidle.presence])
          (by rw [hidle.calls])
      | admission _ hd =>
        subst hd
        exact hold.of_eq rfl rfl rfl rfl
      | speech hsent _ _ => cases hsent <;> exact hold.of_eq rfl rfl rfl rfl
    | flushed _ hsent => cases hsent <;> exact hold.of_eq rfl rfl rfl rfl
    | dropped _ _ => exact hold.of_eq rfl rfl rfl rfl

/-! ## Calls -/

section Listening

variable {pattern : String} {listener : Listener ι}

/-- Of the callbacks that a notice calls, a listener is one if the notice is for it, and then only
once. -/
theorem count_slotsCalled (h : Apart c)
    (hfound : c.events.listeners.find? pattern = some listener) (notice : Notice) :
    (c.slotsCalled notice).count listener.callback.slot =
      if notice.concerns pattern then 1 else 0 := by
  have hplace := Occupies.listener hfound
  cases notice with
  | event name data =>
    refine List.count_eq_zero.mpr fun hmem => ?_
    obtain ⟨s, hs, hslot⟩ := List.mem_map.mp hmem
    exact h.ne hplace (.subscriber hs) nofun hslot
  | presence user joined =>
    refine List.count_eq_zero.mpr fun hmem => ?_
    obtain ⟨s, hs, hslot⟩ := List.mem_map.mp hmem
    exact h.ne hplace (.follower hs) nofun hslot
  | users list => rfl
  | listened other name subscribed =>
    by_cases hsame : other = pattern
    · subst hsame
      simp [slotsCalled, hfound, Notice.concerns]
    · rw [Notice.concerns, decide_eq_false hsame, if_neg Bool.false_ne_true]
      refine List.count_eq_zero.mpr fun hmem => ?_
      obtain ⟨another, hanother, hslot⟩ := List.mem_map.mp hmem
      exact h.ne hplace (.listener (Option.mem_toList.mp hanother)) (by simpa using hsame) hslot

/-- A listener is called when a notice is for it, and not otherwise. -/
theorem callsAt_notified (h : Apart c)
    (hfound : c.events.listeners.find? pattern = some listener) (notice : Notice) :
    (c.notified notice).callsAt listener.callback.slot =
      c.callsAt listener.callback.slot + if notice.concerns pattern then 1 else 0 := by
  have hcalls : (c.notified notice).calls = (c.counted (c.slotsCalled notice)).calls := by
    cases notice with
    | listened other name subscribed => cases subscribed <;> rfl
    | _ => rfl
  rw [callsAt, hcalls, ← count_slotsCalled h hfound]
  exact callsAt_counted (h.given (.listener hfound)) _

end Listening

/-- Between two states, callbacks may have been registered, but no one was called except subscribers
of an event. -/
structure Unasked (c d : Client σ ι) : Prop where
  given : c.calls.length ≤ d.calls.length
  counts : ∀ slot < c.calls.length, (∀ name, ∀ s ∈ c.subscribers name, s.callback.slot ≠ slot) →
    d.callsAt slot = c.callsAt slot

namespace Unasked

/-- Only the counts matter. -/
theorem of_eq (h : Unasked c d) (hcalls : e.calls = d.calls) : Unasked c e where
  given := hcalls ▸ h.given
  counts slot hslot hnone := by
    rw [← h.counts slot hslot hnone, Client.callsAt, hcalls]
    rfl

theorem of_calls (h : d.calls = c.calls) : Unasked c d :=
  of_eq ⟨Nat.le_refl _, fun _ _ _ => rfl⟩ h

/-- A slot was given out. -/
theorem of_slot (h : d.calls = c.calls ++ [0]) : Unasked c d where
  given := by
    rw [h, List.length_append]
    exact Nat.le_add_right ..
  counts slot hslot _ := by
    simp only [callsAt, h, List.getD_eq_getElem?_getD, List.getElem?_append_left hslot]

theorem counted (h : Unasked c d) {slots : List Nat}
    (hslots : ∀ slot ∈ slots, ∃ name, ∃ s ∈ c.subscribers name, s.callback.slot = slot) :
    Unasked c (d.counted slots) where
  given := by
    rw [length_calls_counted]
    exact h.given
  counts slot hslot hnone := by
    have hcount : slots.count slot = 0 := List.count_eq_zero.mpr fun hmem => by
      obtain ⟨name, s, hs, hsame⟩ := hslots slot hmem
      exact hnone name s hs hsame
    rw [callsAt_counted (Nat.lt_of_lt_of_le hslot h.given), hcount, Nat.add_zero,
      h.counts slot hslot hnone]

/-- A listener was not called. -/
theorem callsAt (h : Unasked c d) (hapart : Apart c) {pattern : String} {listener : Listener ι}
    (hfound : c.events.listeners.find? pattern = some listener) :
    d.callsAt listener.callback.slot = c.callsAt listener.callback.slot := by
  have hplace := Occupies.listener hfound
  exact h.counts _ (hapart.given hplace) fun name s hs => hapart.ne hplace (.subscriber hs) nofun

end Unasked

end Client

end Realtime
