import Realtime.Proofs.Client.Crossing
import Realtime.Proofs.Client.Verdicts

/-!
# Requests that come at the wrong time

A client that connects looks at its phase before it begins, after it has been challenged, and after
its answer has been answered; one that logs in looks before it begins, and after it has been
answered. Only before it begins can it find a phase that it cannot go on from. Whatever the server
says, what a client hears while it waits leads to a phase that it knows what to do in.

So unless its transport says it, a client says that it is in the wrong state only if it was so from
the beginning, and then it has done nothing.

Results:
1. `connect_invalidState_iff`, `login_invalidState_iff`: when a client says so.
2. `invalidState_only_at_entry`: both together.
-/

namespace Realtime

variable {σ ι : Type}

/-- No call of the transport ends with the error that a client is in the wrong state. -/
def Transport.Discreet (t : Transport σ ι) : Prop :=
  ∀ operation p, ¬ t.Returns (.invalidState operation p)

namespace Client

open Session

variable {w : Surroundings σ ι} {c d : Client σ ι} {operation : Operation} {p : Phase}

theorem connect_invalidState_iff (hdiscreet : w.transport.Discreet) :
    connect w c = .error (.failed (.invalidState operation p)) d ↔
      c.phase ≠ .awaitConnection ∧ c.phase ≠ .disconnected ∧ operation = .connect ∧
        p = c.phase ∧ d = c := by
  constructor
  · intro h
    by_cases hphase : c.phase = .awaitConnection ∨ c.phase = .disconnected
    · obtain ⟨e, hmiscarries, -⟩ := connect_miscarries hphase h
      obtain hcourse | hreturns := hmiscarries.source
      · cases hcourse
      · exact absurd hreturns (hdiscreet _ _)
    · obtain ⟨hawaits, hgone⟩ := not_or.mp hphase
      have hstart := startSession_eq (c := c)
      split at hstart
      · next hsame => exact absurd hsame hawaits
      · next hsame => exact absurd hsame hgone
      · rw [connect, bind_of_error hstart] at h
        cases h
        exact ⟨hawaits, hgone, rfl, rfl, rfl⟩
  · rintro ⟨hawaits, hgone, rfl, rfl, rfl⟩
    refine bind_of_error ?_
    rw [startSession_eq]
    split
    · next hsame => exact absurd hsame hawaits
    · next hsame => exact absurd hsame hgone
    · rfl

theorem login_invalidState_iff (hdiscreet : w.transport.Discreet) (auth : String) :
    login w auth c = .error (.failed (.invalidState operation p)) d ↔
      c.phase ≠ .awaitAuthentication ∧ operation = .login ∧ p = c.phase ∧ d = c := by
  by_cases hphase : c.phase = .awaitAuthentication
  · refine ⟨fun h => ?_, fun h => absurd hphase h.1⟩
    have hends := authenticate_concludes (w := w) hphase auth
    rw [login_eq hphase] at h
    cases hauth : authenticate w auth c with
    | ok data e =>
      rw [hauth] at h
      cases h
    | error stop e =>
      have hdenied := hends.error hauth
      rw [hauth] at h
      cases stop with
      | exhausted => cases h
      | failed x =>
        cases h
        obtain hcourse | hreturns | ⟨reason, hreason⟩ := hdenied.source
        · cases hcourse
        · exact absurd hreturns (hdiscreet _ _)
        · cases hreason
  · have hrefused : login w auth c = .error (.failed (.invalidState .login c.phase)) c := by
      unfold login
      rw [get_bind_apply]
      simp only [hphase, ne_eq, not_false_eq_true, if_true]
      rfl
    rw [hrefused]
    constructor
    · intro h
      cases h
      exact ⟨hphase, rfl, rfl, rfl⟩
    · rintro ⟨-, rfl, rfl, rfl⟩
      rfl

/-- Whatever a client has done before and whatever the server does, if its transport does not say
that a client is in the wrong state, then it says so itself only if it is asked to connect in a
phase other than the first and the last, or to log in in another phase than the one before a login;
and then it leaves everything as it is. -/
theorem invalidState_only_at_entry (hdiscreet : w.transport.Discreet) :
    (∀ operation p d, connect w c = .error (.failed (.invalidState operation p)) d ↔
      c.phase ≠ .awaitConnection ∧ c.phase ≠ .disconnected ∧ operation = .connect ∧
        p = c.phase ∧ d = c) ∧
    ∀ auth operation p d, login w auth c = .error (.failed (.invalidState operation p)) d ↔
      c.phase ≠ .awaitAuthentication ∧ operation = .login ∧ p = c.phase ∧ d = c :=
  ⟨fun _ _ _ => connect_invalidState_iff hdiscreet,
    fun auth _ _ _ => login_invalidState_iff hdiscreet auth⟩

/-! ### Requests to a client that is not ready for them -/

theorem courier_discreet : courier.Discreet := by
  rintro operation p ⟨uri, call, s, hreturned⟩
  simp only [courier] at hreturned
  split at hreturned
  · cases hreturned
  · split at hreturned <;> cases hreturned
  · cases hreturned

/-- A client that has connected already cannot connect, and one that has not cannot log in. -/
theorem invalidState_only_at_entry_caller :
    let c := (connect couriered).after caller
    courier.Discreet ∧
      connect couriered c = .error (.failed (.invalidState .connect .awaitAuthentication)) c ∧
      login couriered "auth" caller =
        .error (.failed (.invalidState .login .awaitConnection)) caller := by
  intro c
  have hphase : c.phase = .awaitAuthentication := by decide +kernel
  have hentry {c : Client Unit Unit} := invalidState_only_at_entry (w := couriered) (c := c)
    courier_discreet
  refine ⟨courier_discreet, (hentry.1 _ _ _).mpr ?_, (hentry.2 _ _ _ _).mpr ?_⟩
  · exact ⟨hphase ▸ nofun, hphase ▸ nofun, rfl, hphase.symm, rfl⟩
  · exact ⟨nofun, rfl, rfl, rfl⟩

end Client

end Realtime
