import Mathlib.Data.List.Induction
import Mathlib.Data.List.Nodup
import Mathlib.Logic.Function.Basic
import Realtime.Proofs.Client.Subscriptions

/-!
# Identifiers apart from callbacks

A client keeps each subscription together with its callback. They may also be kept apart: in one
table the identifiers of those who are interested in something, and in another the callback of each
identifier. Then two tables have to be changed whenever one subscription is made or ended, and
someone is called only if both know of them. This module shows that the tables stay in step
whatever a program asks for, so that they call the same people as the client does.

Results:
1. `Registry.Holds.enroll`, `Registry.Holds.clear`, `Registry.Holds.drop`: the tables stay in step.
2. `registry_holds`: what they hold is what the history says.
3. `registry_agrees`: they list and call those whom the client lists and calls.
-/

namespace Realtime

variable {ι : Type}

/-- Two tables: the identifiers for everything that someone is interested in, and a callback for
each identifier. As an identifier never belongs to an event and to presence, one table of
callbacks serves both. -/
structure Registry where
  ids : Interest → Option (List SubscriptionId)
  callbacks : SubscriptionId → Option String

namespace Registry

/-- Nothing is listed. -/
def empty : Registry where
  ids _ := none
  callbacks _ := none

/-- Adds a subscription at the end. -/
def enroll (r : Registry) (t : Ticket) : Registry where
  ids := Function.update r.ids t.interest (some ((r.ids t.interest).getD [] ++ [t.id]))
  callbacks := Function.update r.callbacks t.id (some t.tag)

/-- Removes everyone who is interested in something, and their callbacks. -/
def clear (r : Registry) (interest : Interest) : Registry :=
  match r.ids interest with
  | none => r
  | some list =>
    { ids := Function.update r.ids interest none
      callbacks := fun id => if id ∈ list then none else r.callbacks id }

/-- Removes one subscription, if it is listed there. When the last one goes, the entry is cleared
like any other. -/
def drop (r : Registry) (interest : Interest) (id : SubscriptionId) : Registry :=
  match r.ids interest with
  | none => r
  | some list =>
    if id ∈ list then
      let left : Registry :=
        { ids := Function.update r.ids interest (some (list.erase id))
          callbacks := Function.update r.callbacks id none }
      if list.erase id = [] then left.clear interest else left
    else r

/-- What a request with this result makes of the tables. -/
def after (r : Registry) (request : Request ι) (result : Except Error Answer) : Registry :=
  match request with
  | .command (.unsubscribe name) => r.clear (.event name)
  | .command (.unsubscribeId name id) => r.drop (.event name) id
  | .command (.unfollowPresence id) => r.drop .presence id
  | .command .unfollowAllPresence => r.clear .presence
  | _ => (request.ticket? result).elim r r.enroll

/-- Who is called: everyone who is listed and has a callback. -/
def called (r : Registry) (interest : Interest) : List String :=
  ((r.ids interest).getD []).filterMap r.callbacks

variable {r : Registry} {interest : Interest} {id : SubscriptionId}

theorem drop_of_not_mem (h : id ∉ (r.ids interest).getD []) : r.drop interest id = r := by
  unfold drop
  cases hlist : r.ids interest with
  | none => rfl
  | some list => exact if_neg (by simpa [hlist] using h)

/-- Whether or not the last one goes, no empty entry remains. -/
theorem drop_of_mem (h : id ∈ (r.ids interest).getD []) :
    ∃ rest : Option (List SubscriptionId),
      rest.getD [] = ((r.ids interest).getD []).erase id ∧ rest ≠ some [] ∧
      r.drop interest id =
        ⟨Function.update r.ids interest rest, Function.update r.callbacks id none⟩ := by
  unfold drop
  cases hlist : r.ids interest with
  | none =>
    rw [hlist] at h
    cases h
  | some list =>
    rw [hlist, Option.getD_some] at h
    simp only [if_pos h, Option.getD_some]
    split
    · next hempty =>
      refine ⟨none, hempty.symm, nofun, ?_⟩
      simp [clear, hempty]
    · next hsome => exact ⟨some (list.erase id), rfl, by simpa using hsome, rfl⟩

/-- The tables hold exactly these subscriptions. -/
structure Holds (r : Registry) (ts : List Ticket) : Prop where
  ids : ∀ interest,
    (r.ids interest).getD [] = (ts.filter (·.interest = interest)).map (·.id)
  listed : ∀ interest, r.ids interest ≠ some []
  callbacks : ∀ id tag, r.callbacks id = some tag ↔ ∃ t ∈ ts, t.id = id ∧ t.tag = tag

namespace Holds

variable {ts : List Ticket}

theorem empty : Holds .empty [] :=
  ⟨fun _ => rfl, fun _ => nofun, fun _ _ => by simp [Registry.empty]⟩

/-- Everyone who is listed has a callback. -/
theorem called (h : Holds r ts) (interest : Interest) :
    r.called interest = (ts.filter (·.interest = interest)).map (·.tag) := by
  unfold Registry.called
  rw [h.ids, List.filterMap_map, ← List.filterMap_eq_map]
  refine List.filterMap_congr fun t ht => ?_
  exact (h.callbacks t.id t.tag).mpr ⟨t, (List.mem_filter.mp ht).1, rfl, rfl⟩

theorem mem_ids (h : Holds r ts) (interest : Interest) (id : SubscriptionId) :
    id ∈ (r.ids interest).getD [] ↔ ∃ t ∈ ts, t.interest = interest ∧ t.id = id := by
  simp [h.ids, and_assoc]

/-- Something is in the first table if someone is interested in it. -/
theorem isSome_ids (h : Holds r ts) (interest : Interest) :
    (r.ids interest).isSome ↔ ∃ t ∈ ts, t.interest = interest := by
  have hmem := h.mem_ids interest
  cases hlist : r.ids interest with
  | none =>
    rw [hlist] at hmem
    exact ⟨nofun, fun ⟨t, ht, hinterest⟩ => absurd ((hmem t.id).mpr ⟨t, ht, hinterest, rfl⟩) nofun⟩
  | some list =>
    rw [hlist] at hmem
    obtain ⟨id, hid⟩ := List.exists_mem_of_ne_nil list fun hnil =>
      h.listed interest (hlist.trans (congrArg some hnil))
    obtain ⟨t, ht, hinterest, -⟩ := (hmem id).mp hid
    exact ⟨fun _ => ⟨t, ht, hinterest⟩, fun _ => rfl⟩

/-- No one is listed twice. -/
theorem nodup_ids (h : Holds r ts) (hnodup : (ts.map (·.id)).Nodup) (interest : Interest) :
    ((r.ids interest).getD []).Nodup := by
  rw [h.ids]
  exact (List.filter_sublist.map _).nodup hnodup

theorem enroll (h : Holds r ts) {t : Ticket} (hfresh : ∀ other ∈ ts, other.id ≠ t.id) :
    Holds (r.enroll t) (ts ++ [t]) where
  ids interest := by
    unfold Registry.enroll
    by_cases hsame : t.interest = interest
    · subst hsame
      simp [h.ids, List.filter_append]
    · simp [Function.update_of_ne (Ne.symm hsame), h.ids, List.filter_append, hsame]
  listed interest := by
    unfold Registry.enroll
    by_cases hsame : interest = t.interest
    · simp [hsame]
    · simpa [Function.update_of_ne hsame] using h.listed interest
  callbacks id tag := by
    unfold Registry.enroll
    by_cases hsame : id = t.id
    · subst hsame
      have hnone : ¬ ∃ other ∈ ts, other.id = t.id ∧ other.tag = tag :=
        fun ⟨other, hother, hid, _⟩ => hfresh other hother hid
      simp [or_and_right, exists_or, hnone]
    · simp [Function.update_of_ne hsame, h.callbacks, or_and_right, exists_or, Ne.symm hsame]

/-- Nothing changes where no one goes. -/
theorem stay (h : Holds r ts) (gone : Ticket → Bool) (hnone : ∀ t ∈ ts, gone t = false) :
    Holds r (ts.filter (!gone ·)) := by
  rwa [List.filter_eq_self.mpr fun t ht => by simp [hnone t ht]]

/-- Both tables forget the same subscriptions, all of which are to one thing. -/
theorem forget (h : Holds r ts) (hnodup : (ts.map (·.id)).Nodup) (gone : Ticket → Bool)
    {interest : Interest} (honly : ∀ t, gone t → t.interest = interest)
    {rest : Option (List SubscriptionId)} {callbacks : SubscriptionId → Option String}
    (hrest : rest.getD [] = (ts.filter fun t => t.interest = interest && !gone t).map (·.id))
    (hlisted : rest ≠ some [])
    (hgone : ∀ t ∈ ts, gone t → callbacks t.id = none)
    (hkept : ∀ id, (∀ t ∈ ts, t.id = id → gone t = false) → callbacks id = r.callbacks id) :
    Holds ⟨Function.update r.ids interest rest, callbacks⟩ (ts.filter (!gone ·)) where
  ids other := by
    dsimp only
    rw [List.filter_filter]
    by_cases hother : other = interest
    · rw [hother, Function.update_self, hrest]
    · rw [Function.update_of_ne hother, h.ids]
      refine congrArg _ (List.filter_congr fun t _ => ?_)
      by_cases hsame : t.interest = other
      · have hstays : gone t = false := Bool.eq_false_iff.mpr fun hgoes =>
          hother (hsame ▸ honly t hgoes)
        simp [hstays]
      · simp [hsame]
  listed other := by
    by_cases hother : other = interest
    · simpa [hother] using hlisted
    · simpa [Function.update_of_ne hother] using h.listed other
  callbacks id tag := by
    dsimp only
    by_cases hsome : ∃ u ∈ ts, u.id = id ∧ gone u
    · obtain ⟨u, hu, rfl, hgoes⟩ := hsome
      rw [hgone u hu hgoes]
      refine ⟨nofun, fun ⟨t, ht, hid, _⟩ => ?_⟩
      obtain ⟨ht, hstays⟩ := List.mem_filter.mp ht
      rw [List.inj_on_of_nodup_map hnodup ht hu hid, hgoes] at hstays
      cases hstays
    · have hstays : ∀ t ∈ ts, t.id = id → gone t = false := fun t ht hid =>
        Bool.eq_false_iff.mpr fun hgoes => hsome ⟨t, ht, hid, hgoes⟩
      rw [hkept id hstays, h.callbacks]
      refine exists_congr fun t => ⟨fun ⟨ht, hid, htag⟩ => ?_, fun ⟨ht, htold⟩ => ?_⟩
      · exact ⟨List.mem_filter.mpr ⟨ht, by simp [hstays t ht hid]⟩, hid, htag⟩
      · exact ⟨(List.mem_filter.mp ht).1, htold⟩

theorem clear (h : Holds r ts) (hnodup : (ts.map (·.id)).Nodup) (interest : Interest) :
    Holds (r.clear interest) (ts.filter fun t => !decide (t.interest = interest)) := by
  let gone (t : Ticket) : Bool := decide (t.interest = interest)
  have hmem (t : Ticket) (ht : t ∈ ts) (hgoes : gone t) : t.id ∈ (r.ids interest).getD [] :=
    (h.mem_ids _ _).mpr ⟨t, ht, of_decide_eq_true hgoes, rfl⟩
  unfold Registry.clear
  cases hlist : r.ids interest with
  | none =>
    rw [hlist] at hmem
    exact h.stay gone fun t ht => Bool.eq_false_iff.mpr fun hgoes =>
      List.not_mem_nil (hmem t ht hgoes)
  | some list =>
    rw [hlist, Option.getD_some] at hmem
    refine h.forget hnodup gone (fun t => of_decide_eq_true) ?_ nofun
      (fun t ht hgoes => if_pos (hmem t ht hgoes)) fun id hstays => if_neg fun hid => ?_
    · simp [gone]
    · obtain ⟨t, ht, hsame, rfl⟩ := (h.mem_ids _ _).mp (by rwa [hlist])
      exact of_decide_eq_false (hstays t ht rfl) hsame

theorem drop (h : Holds r ts) (hnodup : (ts.map (·.id)).Nodup) (interest : Interest)
    (id : SubscriptionId) : Holds (r.drop interest id)
      (ts.filter fun t => !(decide (t.interest = interest) && decide (t.id = id))) := by
  let gone (t : Ticket) : Bool := decide (t.interest = interest) && decide (t.id = id)
  have hgone {t : Ticket} : gone t ↔ t.interest = interest ∧ t.id = id := by simp [gone]
  by_cases hlisted : id ∈ (r.ids interest).getD []
  · obtain ⟨rest, hrest, hsome, hdrop⟩ := Registry.drop_of_mem hlisted
    rw [hdrop]
    refine h.forget hnodup gone (fun t hgoes => (hgone.mp hgoes).1) ?_ hsome
      (fun t ht hgoes => ?_) fun other hstays => Function.update_of_ne (fun hother => ?_) _ _
    · rw [hrest, (h.nodup_ids hnodup interest).erase_eq_filter, h.ids, List.filter_map,
        List.filter_filter]
      refine congrArg _ (List.filter_congr fun t _ => ?_)
      by_cases hsame : t.interest = interest
      · by_cases hid : t.id = id <;> simp [gone, hsame, hid]
      · simp [hsame]
    · rw [(hgone.mp hgoes).2, Function.update_self]
    · obtain ⟨t, ht, htold⟩ := (h.mem_ids _ _).mp hlisted
      exact Bool.eq_false_iff.mp (hstays t ht (htold.2.trans hother.symm)) (hgone.mpr htold)
  · rw [Registry.drop_of_not_mem hlisted]
    exact h.stay gone fun t ht => Bool.eq_false_iff.mpr fun hgoes =>
      hlisted ((h.mem_ids _ _).mpr ⟨t, ht, hgone.mp hgoes⟩)

/-- A request changes the tables as it changes the subscriptions. -/
theorem after (h : Holds r ts) (hnodup : (ts.map (·.id)).Nodup) (request : Request ι)
    (result : Except Error Answer)
    (hfresh : ∀ t ∈ request.ticket? result, ∀ other ∈ ts, other.id ≠ t.id) :
    Holds (r.after request result)
      (ts.filter (!request.ends ·) ++ (request.ticket? result).toList) := by
  unfold Registry.after
  split
  · exact (List.append_nil _).symm ▸ h.clear hnodup _
  · exact (List.append_nil _).symm ▸ h.drop hnodup _ _
  · exact (List.append_nil _).symm ▸ h.drop hnodup _ _
  · exact (List.append_nil _).symm ▸ h.clear hnodup _
  · have hends : ∀ t, request.ends t = false := fun t => by
      unfold Request.ends
      split <;> simp_all
    have hstays := h.stay request.ends fun t _ => hends t
    cases hticket : request.ticket? result with
    | none => exact (List.append_nil _).symm ▸ hstays
    | some t =>
      exact hstays.enroll fun other hother =>
        hfresh t hticket other (List.mem_filter.mp hother).1

end Holds

end Registry

namespace Client

/-- The tables of a program with this history. -/
def registry (log : Log ι) : Registry :=
  log.foldl (fun r turn => r.after turn.1 turn.2) .empty

/-- The tables hold what the history says. -/
theorem registry_holds {log : Log ι} (hnodup : ((tickets log).map (·.id)).Nodup) :
    (registry log).Holds (live log) := by
  induction log using List.reverseRecOn with
  | nil => exact .empty
  | append_singleton earlier turn ih =>
    obtain ⟨request, result⟩ := turn
    rw [tickets_concat, List.map_append, List.nodup_append] at hnodup
    obtain ⟨hearlier, -, hfresh⟩ := hnodup
    have hsub := (live_sublist earlier).map Ticket.id
    rw [live_concat, registry, List.foldl_concat]
    refine (ih hearlier).after (hsub.nodup hearlier) request result fun t ht other hother => ?_
    exact hfresh other.id (hsub.mem (List.mem_map_of_mem hother)) t.id
      (List.mem_map_of_mem (Option.mem_toList.mpr ht))

variable {σ : Type} {w : Surroundings σ ι} {c : Client σ ι} {log : Log ι}

/-- The tables list the same names as the client and, for whatever someone is interested in, the
same people in the same order. And they call whom the client calls. -/
theorem registry_agrees (hpatience : 0 < w.patience) (h : Logged w log c)
    (hidle : ∀ turn ∈ log, turn.1.IsIdle) (hfew : (tickets log).length < UInt64.size) :
    (∀ name, ((registry log).ids (.event name)).isSome ↔ name ∈ c.events.subscriptions.names) ∧
    ∀ interest,
      ((registry log).ids interest).getD [] = (c.enrolled interest).map (·.id) ∧
      (registry log).called interest = c.tags interest := by
  have henrolled := h.enrolled hpatience hidle hfew
  have hstep := registry_holds (henrolled.nodup hfew)
  refine ⟨fun name => (hstep.isSome_ids _).trans (henrolled.mem_names_iff name).symm,
    fun interest => ?_⟩
  rw [hstep.ids, hstep.called, tags_eq_map_enrolled, henrolled.enrolled]
  exact ⟨rfl, rfl⟩

end Client

end Realtime
