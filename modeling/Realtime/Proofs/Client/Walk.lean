import Mathlib.Logic.Relation
import Realtime.Client.Run

/-!
# Steps as walks

A step of a client goes through states of which only the last one shows. To say
something about all of them, a step is read as a walk: from the state it starts
in to the state it leaves, one move of a relation after the other. Which moves
there are is left open here.

What matters is sometimes only how a step ends, with a value or without one.

Results:
1. `Walks.of_bind`, `Walks.of_attempt`, `Walks.of_forM`: a step walks if its
   parts do.
2. `Walks.mono`: a walk is one in any relation with more moves.
3. `Walks.keeps`: what every move keeps, a walk keeps.
4. `Ends.of_bind`: how a step ends, by how its parts do.
-/

namespace Realtime.Session

variable {σ ι α β : Type}

/-- The state that a step leaves, whether it ends with a value or not. -/
def after (step : Session σ ι α) (c : Client σ ι) : Client σ ι :=
  match step c with
  | .ok _ d => d
  | .error _ d => d

theorem after_of_ok {step : Session σ ι α} {a : α} {c d : Client σ ι} (h : step c = .ok a d) :
    step.after c = d := by
  unfold after
  rw [h]

theorem after_of_error {step : Session σ ι α} {stop : Stop} {c d : Client σ ι}
    (h : step c = .error stop d) : step.after c = d := by
  unfold after
  rw [h]

theorem after_ite {p : Prop} [Decidable p] (yes no : Session σ ι α) (c : Client σ ι) :
    (if p then yes else no : Session σ ι α).after c = if p then yes.after c else no.after c := by
  split <;> rfl

/-- Answering changes nothing. -/
theorem after_answer (step : Session σ ι α) (answer : α → β) (c : Client σ ι) :
    (step >>= fun a => pure (answer a) : Session σ ι β).after c = step.after c := by
  show (match EStateM.bind step (fun a => pure (answer a)) c with
    | .ok _ d => d
    | .error _ d => d) = step.after c
  unfold EStateM.bind after
  cases step c <;> rfl

/-- An attempt leaves what the step leaves. -/
theorem eq_after_of_attempt {step : Session σ ι α} {result : Except Error α} {c d : Client σ ι}
    (h : attempt step c = .ok result d) : d = step.after c := by
  unfold attempt at h
  unfold after
  cases hrun : step c with
  | ok a e =>
    rw [hrun] at h
    cases h
    rfl
  | error stop e =>
    rw [hrun] at h
    cases stop <;> cases h
    rfl

/-- The step ends, with a value or with an error. -/
def returns (step : Session σ ι α) (c : Client σ ι) : Bool :=
  match step c with
  | .error .exhausted _ => false
  | _ => true

theorem returns_answer (step : Session σ ι α) (answer : α → β) (c : Client σ ι) :
    (step >>= fun a => pure (answer a) : Session σ ι β).returns c = step.returns c := by
  unfold returns
  show (match (EStateM.bind step (fun a => pure (answer a)) c :
      EStateM.Result Stop (Client σ ι) β) with
    | .error .exhausted _ => false
    | _ => true) = _
  unfold EStateM.bind
  cases step c with
  | ok a d => rfl
  | error stop d => cases stop <;> rfl

/-- The step ends with a value. -/
def succeeds (step : Session σ ι α) (c : Client σ ι) : Bool :=
  match step c with
  | .ok _ _ => true
  | _ => false

theorem eq_ok_of_succeeds {step : Session σ ι α} {c : Client σ ι} (h : step.succeeds c) :
    ∃ a, step c = .ok a (step.after c) := by
  unfold succeeds at h
  unfold after
  cases hrun : step c with
  | ok a d => exact ⟨a, rfl⟩
  | error stop d =>
    rw [hrun] at h
    cases h

theorem returns_of_succeeds {step : Session σ ι α} {c : Client σ ι} (h : step.succeeds c) :
    step.returns c := by
  obtain ⟨a, hrun⟩ := eq_ok_of_succeeds h
  unfold returns
  rw [hrun]

/-- A step that ends without a value ends with an error. -/
theorem eq_failed_of_returns {step : Session σ ι α} {c : Client σ ι} (h : step.returns c)
    (hfails : step.succeeds c = false) : ∃ x, step c = .error (.failed x) (step.after c) := by
  unfold returns at h
  unfold succeeds at hfails
  unfold after
  cases hrun : step c with
  | ok a d =>
    rw [hrun] at hfails
    cases hfails
  | error stop d =>
    cases stop with
    | failed x => exact ⟨x, rfl⟩
    | exhausted =>
      rw [hrun] at h
      cases h

/-- The error that a step ends with, if it does. -/
def failure? (step : Session σ ι α) (c : Client σ ι) : Option Error :=
  match step c with
  | .error (.failed x) _ => some x
  | _ => none

theorem eq_failed_of_failure? {step : Session σ ι α} {c : Client σ ι} {x : Error}
    (h : step.failure? c = some x) : step c = .error (.failed x) (step.after c) := by
  unfold failure? at h
  unfold after
  cases hrun : step c with
  | ok a d =>
    rw [hrun] at h
    cases h
  | error stop d =>
    rw [hrun] at h
    cases stop <;> cases h
    rfl

/-- From `c` on, the step makes moves of `R` only. -/
def Walks (R : Client σ ι → Client σ ι → Prop) (step : Session σ ι α) (c : Client σ ι) : Prop :=
  Relation.ReflTransGen R c (step.after c)

namespace Walks

variable {R : Client σ ι → Client σ ι → Prop} {c : Client σ ι}

theorem of_pure (a : α) : Walks R (pure a) c :=
  Relation.ReflTransGen.refl

theorem of_fail (e : Error) : Walks R (fail e : Session σ ι α) c :=
  Relation.ReflTransGen.refl

theorem of_exhausted : Walks R (throw .exhausted : Session σ ι α) c :=
  Relation.ReflTransGen.refl

/-- What comes after a failure does not run. -/
theorem of_fail_bind {next : α → Session σ ι β} (e : Error) : Walks R (fail e >>= next) c :=
  Relation.ReflTransGen.refl

theorem of_bind {step : Session σ ι α} {next : α → Session σ ι β} (hstep : Walks R step c)
    (hnext : ∀ a d, step c = .ok a d → Walks R (next a) d) : Walks R (step >>= next) c := by
  unfold Walks after at hstep ⊢
  show Relation.ReflTransGen R c (match EStateM.bind step next c with
    | .ok _ d => d
    | .error _ d => d)
  unfold EStateM.bind
  cases hrun : step c with
  | ok a d =>
    rw [hrun] at hstep
    exact hstep.trans (hnext a d hrun)
  -- A first part that fails is all that runs.
  | error e d =>
    rw [hrun] at hstep
    exact hstep

/-- Answering makes no move. -/
theorem of_answer {step : Session σ ι α} {answer : α → β} (h : Walks R step c) :
    Walks R (step >>= fun a => pure (answer a)) c :=
  of_bind h fun _ _ _ => of_pure _

/-- A check that fails keeps the rest from running. -/
theorem of_guard {p : Prop} [Decidable p] {e : Error} {next : α → Session σ ι β} {a : α}
    (h : ¬ p → Walks R (next a) c) : Walks R (if p then fail e >>= next else next a) c := by
  split
  · exact of_fail_bind e
  · next hp => exact h hp

theorem of_get_bind {next : Client σ ι → Session σ ι β} (h : Walks R (next c) c) :
    Walks R (get >>= next) c :=
  h

theorem of_modify {change : Client σ ι → Client σ ι} (h : R c (change c)) :
    Walks R (modify change : Session σ ι PUnit) c :=
  Relation.ReflTransGen.single h

theorem of_modify_bind {change : Client σ ι → Client σ ι} {next : PUnit → Session σ ι β}
    (h : R c (change c)) (hnext : Walks R (next ⟨⟩) (change c)) :
    Walks R (modify change >>= next) c :=
  Relation.ReflTransGen.head h hnext

theorem of_modifyGet_bind {change : Client σ ι → α × Client σ ι} {next : α → Session σ ι β}
    (h : R c (change c).2) (hnext : Walks R (next (change c).1) (change c).2) :
    Walks R (modifyGet change >>= next) c :=
  Relation.ReflTransGen.head h hnext

theorem of_attempt {step : Session σ ι α} (h : Walks R step c) : Walks R step.attempt c := by
  unfold Walks after at h ⊢
  unfold attempt
  cases hrun : step c with
  | ok a d => rw [hrun] at h; exact h
  | error e d =>
    rw [hrun] at h
    cases e <;> exact h

theorem of_forM {list : List β} {step : β → Session σ ι PUnit}
    (h : ∀ b ∈ list, ∀ d, Walks R (step b) d) : Walks R (list.forM step) c := by
  induction list generalizing c with
  | nil => exact of_pure _
  | cons b rest ih =>
    refine of_bind (h b List.mem_cons_self c) fun _ d _ => ?_
    exact ih fun other hother => h other (List.mem_cons_of_mem _ hother)

/-- A walk that makes moves of some kinds is one that may make more. -/
theorem mono {S : Client σ ι → Client σ ι → Prop} {step : Session σ ι α}
    (h : Walks R step c) (hmore : ∀ d e, R d e → S d e) : Walks S step c :=
  Relation.ReflTransGen.mono hmore _ _ h

/-- A step that ends with a value walks to the state that it ends in. -/
theorem to_ok {step : Session σ ι α} {a : α} {d : Client σ ι} (h : Walks R step c)
    (hrun : step c = .ok a d) : Relation.ReflTransGen R c d :=
  after_of_ok hrun ▸ h

/-- A step that fails walks to the state that it fails in. -/
theorem to_error {step : Session σ ι α} {stop : Stop} {d : Client σ ι} (h : Walks R step c)
    (hrun : step c = .error stop d) : Relation.ReflTransGen R c d :=
  after_of_error hrun ▸ h

/-- What every move keeps, a walk keeps. -/
theorem keeps {P : Client σ ι → Prop} {last : Client σ ι} (h : Relation.ReflTransGen R c last)
    (hmove : ∀ d e, P d → R d e → P e) (hc : P c) : P last := by
  induction h with
  | refl => exact hc
  | tail _ hlast ih => exact hmove _ _ ih hlast

end Walks

/-- The step ends with a value as in `good`, or without one as in `bad`. -/
def Ends (good : α → Client σ ι → Prop) (bad : Stop → Client σ ι → Prop)
    (step : Session σ ι α) (c : Client σ ι) : Prop :=
  match step c with
  | .ok a d => good a d
  | .error stop d => bad stop d

namespace Ends

variable {good : α → Client σ ι → Prop} {bad : Stop → Client σ ι → Prop}
  {step : Session σ ι α} {c d : Client σ ι}

theorem intro (hgood : ∀ a d, step c = .ok a d → good a d)
    (hbad : ∀ stop d, step c = .error stop d → bad stop d) : Ends good bad step c := by
  unfold Ends
  cases hrun : step c with
  | ok a d => exact hgood a d hrun
  | error stop d => exact hbad stop d hrun

theorem ok {a : α} (h : Ends good bad step c) (hrun : step c = .ok a d) : good a d := by
  unfold Ends at h
  rw [hrun] at h
  exact h

theorem error {stop : Stop} (h : Ends good bad step c) (hrun : step c = .error stop d) :
    bad stop d := by
  unfold Ends at h
  rw [hrun] at h
  exact h

theorem of_ok {a : α} (hrun : step c = .ok a d) (h : good a d) : Ends good bad step c := by
  unfold Ends
  rw [hrun]
  exact h

/-- What comes next begins where the first part has ended well. -/
theorem of_bind {better : β → Client σ ι → Prop} {worse : Stop → Client σ ι → Prop}
    {next : α → Session σ ι β} (h : Ends good bad step c)
    (hnext : ∀ a d, good a d → Ends better worse (next a) d)
    (hbad : ∀ stop d, bad stop d → worse stop d) : Ends better worse (step >>= next) c := by
  unfold Ends
  show match EStateM.bind step next c with
    | .ok b e => better b e
    | .error stop e => worse stop e
  unfold EStateM.bind
  cases hrun : step c with
  | ok a d => exact hnext a d (h.ok hrun)
  | error stop d => exact hbad stop d (h.error hrun)

theorem mono {better : α → Client σ ι → Prop} {worse : Stop → Client σ ι → Prop}
    (h : Ends good bad step c) (hgood : ∀ a d, good a d → better a d)
    (hbad : ∀ stop d, bad stop d → worse stop d) : Ends better worse step c :=
  intro (fun a d hrun => hgood a d (h.ok hrun)) fun stop d hrun => hbad stop d (h.error hrun)

/-- A good end, and the run that has led to it. -/
theorem run (h : Ends good bad step c) :
    Ends (fun a d => step c = .ok a d ∧ good a d) bad step c :=
  intro (fun _ _ hrun => ⟨hrun, h.ok hrun⟩) fun _ _ hrun => h.error hrun

end Ends

end Realtime.Session
