import Mathlib.Data.List.Forall2
import Realtime.Proofs.Client.Congruence
import Realtime.Proofs.Client.Refinement

/-!
# Frame boundaries

How the server groups its messages into frames makes no difference to a client. Two
clients that differ in nothing but how what has come in is grouped do the same, whatever
they are asked for and whatever their transport brings meanwhile, and differ in nothing
else afterwards.

Results:
1. `AlikeSince.congruence`: no single thing that a client does tells the two apart.
2. `regrouping_unobservable`: so no sequence of requests does.
-/

namespace Realtime

/-! ## Clients that are alike -/

namespace Client

variable {σ ι : Type}

/-- The clients differ at most in how what has come in is grouped, and in what they wrote
down. -/
structure Alike (c d : Client σ ι) : Prop where
  config : d.config = c.config
  uri : d.uri = c.uri
  target : d.link.uri = c.link.uri
  state : d.link.state = c.link.state
  isOpen : d.link.channel.isOpen = c.link.channel.isOpen
  phase : d.phase = c.phase
  desk : d.desk = c.desk
  inbox : Inbox.Regrouped c.inbox d.inbox

/-- What a client wrote down after so many entries, without the circumstances. -/
def since (start : Nat) (c : Client σ ι) : List (Occurrence ι) :=
  (c.journal.drop start).map Entry.what

/-- The clients are alike, and have done the same since they had written so much. -/
structure AlikeSince (start other : Nat) (c d : Client σ ι) : Prop where
  alike : Alike c d
  start_le : start ≤ c.journal.length
  other_le : other ≤ d.journal.length
  since : d.since other = c.since start

theorem since_note {start : Nat} {c : Client σ ι} (h : start ≤ c.journal.length)
    (what : Occurrence ι) : (c.note what).since start = c.since start ++ [what] := by
  rw [since, since, note, List.drop_append_of_le_length h, List.map_append]
  rfl

namespace Alike

variable {c d : Client σ ι}

theorem since_start (h : Alike c d) : AlikeSince c.journal.length d.journal.length c d := by
  refine ⟨h, Nat.le_refl _, Nat.le_refl _, ?_⟩
  rw [since, since, List.drop_length, List.drop_length]

theorem note (h : Alike c d) (what : Occurrence ι) : Alike (c.note what) (d.note what) :=
  ⟨h.config, h.uri, h.target, h.state, h.isOpen, h.phase, h.desk, h.inbox⟩

/-- Clients that are alike are so after the same answer of their transport. -/
theorem absorb (h : Alike c d) (r : Reply σ) :
    Alike { c with link := c.link.absorb r } { d with link := d.link.absorb r } := by
  have hdrained : d.link.channel.drained = c.link.channel.drained :=
    congrArg (Channel.mk []) h.isOpen
  refine ⟨h.config, h.uri, h.target, rfl, ?_, h.phase, h.desk, ?_⟩
  · show (d.link.channel.putAll r.signals).isOpen = (c.link.channel.putAll r.signals).isOpen
    rw [Channel.isOpen_putAll, hdrained, ← Channel.isOpen_putAll]
  · rw [inbox_absorb, inbox_absorb, hdrained, Inbox.regrouped_iff, Inbox.items_more,
      Inbox.items_more, Inbox.regrouped_iff.mp h.inbox]

/-- Clients that are alike hear the same, and are alike with what they have left. -/
theorem received (h : Alike c d) (gone : Bool) :
    (d.inbox.next gone).1 = (c.inbox.next gone).1 ∧
      Alike (c.withInbox (c.inbox.next gone).2) (d.withInbox (d.inbox.next gone).2) := by
  obtain ⟨hfound, hleft⟩ := Inbox.next_congr (Inbox.regrouped_iff.mp h.inbox) gone
  exact ⟨hfound.symm, h.config, h.uri, h.target, h.state, h.isOpen, h.phase, h.desk,
    Inbox.regrouped_iff.mpr hleft⟩

end Alike

/-! ## What they do -/

/-- A program that may do anything, and a server that may. -/
def anyManners (ι : Type) : Manners ι where
  fit _ := True
  say _ := True
  decent _ := True
  leads _ _ := trivial
  voices _ _ := trivial
  pong := trivial
  follow := trivial
  query := trivial
  decides _ _ _ := trivial

theorem tidy_anyManners (desk : Desk ι) : Tidy (anyManners ι) desk where
  outbox _ _ := trivial
  sendQueue _ _ := trivial
  subscriptions _ _ _ := ⟨trivial, fun _ _ _ _ _ _ => trivial⟩
  listeners _ _ _ := ⟨trivial, fun _ _ _ _ => trivial⟩
  followers _ _ _ _ _ _ := trivial
  querents _ _ _ _ _ := trivial

theorem anyManners_allows (request : Request ι) : (anyManners ι).Allows request := by
  cases request <;> trivial

namespace AlikeSince

variable {start other : Nat} {c d : Client σ ι}

/-- A change that writes nothing down. -/
theorem silently (h : AlikeSince start other c d) {c' d' : Client σ ι} (halike : Alike c' d')
    (hc : c'.journal = c.journal) (hd : d'.journal = d.journal) :
    AlikeSince start other c' d' := by
  refine ⟨halike, hc ▸ h.start_le, hd ▸ h.other_le, ?_⟩
  rw [Client.since, Client.since, hc, hd]
  exact h.since

theorem note (h : AlikeSince start other c d) (what : Occurrence ι) :
    AlikeSince start other (c.note what) (d.note what) := by
  have hgrown (e : Client σ ι) : e.journal.length ≤ (e.note what).journal.length := by
    rw [Client.note, List.length_append]
    exact Nat.le_add_right _ _
  refine ⟨h.alike.note what, Nat.le_trans h.start_le (hgrown c),
    Nat.le_trans h.other_le (hgrown d), ?_⟩
  rw [since_note h.start_le, since_note h.other_le, h.since]

/-- Nothing that a client does tells clients that are alike apart. -/
theorem congruence (w : Surroundings σ ι) (start other : Nat) :
    Session.Congruence w (anyManners ι) (AlikeSince start other) where
  config h := h.alike.config
  uri h := h.alike.uri
  target h := h.alike.target
  phase h := h.alike.phase
  desk h := h.alike.desk
  tidy _ := tidy_anyManners _
  response _ := trivial
  noted h _ := h.note _
  kept h _ := h.silently { h.alike with desk := rfl } rfl rfl
  moved h _ := h.silently { h.alike with phase := rfl } rfl rfl
  used {c d call what} h _ := by
    have hreply : w.transport.call d.link.uri call d.link.state =
        w.transport.call c.link.uri call c.link.state := by
      rw [h.alike.target, h.alike.state]
    have hnoted := h.note (what (w.transport.call c.link.uri call c.link.state).outcome)
    unfold use Link.call
    rw [hreply]
    exact ⟨rfl, hnoted.silently (hnoted.alike.absorb _) rfl rfl⟩
  discarded h := h.silently
    { h.alike with isOpen := h.alike.isOpen, inbox := .refl _ } rfl rfl
  retargeted {c d reply} h _ := by
    have hnoted := h.note (.targeted (Session.redirectTarget reply))
    exact hnoted.silently { hnoted.alike with uri := rfl, target := rfl } rfl rfl
  stimulated {c d} h i := by
    have hreply : w.transport.stimulate i d.link.state = w.transport.stimulate i c.link.state := by
      rw [h.alike.state]
    unfold Link.stimulate
    rw [hreply]
    exact h.silently (h.alike.absorb _) rfl rfl
  isOpen h := h.alike.isOpen
  received h gone :=
    ⟨(h.alike.received gone).1, fun _ _ => trivial, h.silently (h.alike.received gone).2 rfl rfl⟩

end AlikeSince

/-- What can be seen of a turn is the same: the result, what happened, and what the client is
like before and after. -/
structure SameTurn (s t : Turn σ ι) : Prop where
  result : t.result = s.result
  occurrences : t.occurrences = s.occurrences
  before : Alike s.before t.before
  after : Alike s.after t.after

theorem execute_alike (w : Surroundings σ ι) {c d : Client σ ι} (h : Alike c d)
    (request : Request ι) :
    Session.Agree (AlikeSince c.journal.length d.journal.length) Session.Whatever
      (execute w request c) (execute w request d) :=
  (AlikeSince.congruence w _ _).execute_respects (anyManners_allows request) _ _ h.since_start

theorem run_same (w : Surroundings σ ι) {c d : Client σ ι} (h : Alike c d)
    (requests : List (Request ι)) :
    List.Forall₂ SameTurn (run w c requests) (run w d requests) := by
  induction requests generalizing c d with
  | nil => exact .nil
  | cons request rest ih =>
    have hfirst := execute_alike w h request
    rw [run, run]
    cases hc : execute w request c with
    | ok answer e =>
      cases hd : execute w request d with
      | ok other f =>
        rw [hc, hd] at hfirst
        obtain ⟨rfl, -, hsince⟩ := hfirst
        exact .cons ⟨rfl, hsince.since, h, hsince.alike⟩ (ih hsince.alike)
      | error => rw [hc, hd] at hfirst; exact hfirst.elim
    | error stop e =>
      cases hd : execute w request d with
      | ok => rw [hc, hd] at hfirst; exact hfirst.elim
      | error other f =>
        rw [hc, hd] at hfirst
        obtain ⟨rfl, hsince⟩ := hfirst
        cases stop with
        | failed x => exact .cons ⟨rfl, hsince.since, h, hsince.alike⟩ (ih hsince.alike)
        | exhausted => exact .nil

/-- However what has come in is grouped, every request ends in the same way after the same
calls of the transport and of callbacks and the same reports, and leaves clients that are
alike; and so does every sequence of requests. -/
theorem regrouping_unobservable (w : Surroundings σ ι) {c d : Client σ ι} (h : Alike c d) :
    (∀ request : Request ι,
      Session.Agree (AlikeSince c.journal.length d.journal.length) Session.Whatever
        (execute w request c) (execute w request d)) ∧
      ∀ requests : List (Request ι),
        List.Forall₂ SameTurn (run w c requests) (run w d requests) :=
  ⟨execute_alike w h, run_same w h⟩

/-- The guest has subscribed and logged in, and then two events come and the connection
breaks off. They come in one frame, or the first was taken over when a reply was awaited. -/
theorem regrouping_unobservable_guest :
    let base := guestAfter [.command (.subscribe "news" "reader" fun _ _ => []), .connect,
      .login "auth"]
    let first := Session.emitMessage "news" (Utf8.encode "1")
    let second := Session.emitMessage "news" (Utf8.encode "2")
    let c := base.withInbox ⟨[], [.frame (first.encode ++ second.encode), .closed]⟩
    let d := base.withInbox ⟨[first], [.opened, .frame second.encode, .frame [], .closed]⟩
    Alike c d ∧ c.phase = .connected ∧
      List.Forall₂ SameTurn (run hospitable c [.process, .connect])
        (run hospitable d [.process, .connect]) ∧
      (run hospitable d [.process, .connect]).map (fun turn => (turn.result, turn.after.calls)) =
        [(.error .suddenDisconnect, [2]), (.ok .nothing, [2])] := by
  intro base first second c d
  have halike : Alike c d :=
    { config := rfl, uri := rfl, target := rfl, state := rfl, isOpen := rfl, phase := rfl,
      desk := rfl, inbox := Inbox.regrouped_iff.mpr (by decide +kernel) }
  exact ⟨halike, by decide +kernel, (regrouping_unobservable hospitable halike).2 _,
    by decide +kernel⟩

end Client

end Realtime
