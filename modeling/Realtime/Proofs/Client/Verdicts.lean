import Realtime.Proofs.Client.Endings

/-!
# The verdict on a login

The server answers a login with one message: it lets the client in, refuses the credentials, or
shuts the client out. Without an answer the login fails as anything can fail while the transport is
open. What becomes of the connection is decided by the error that a login has failed with: it is
given up, unless the error says that the credentials were refused. So an error that says so spares
the connection even if it is the transport that has returned it, and not the server that has
refused anything.

Results:
1. `authenticate_concludes`: the ways in which a login goes, before the connection is given up.
2. `login_verdict`: how a login ends, by what the server has answered.
-/

namespace Realtime

variable {σ ι : Type}

/-! ## Answers -/

/-- The server does not let a client in. -/
def Header.isDenial : Header → Bool
  | ⟨.auth, .invalidAuthData, false⟩ => true
  | ⟨.auth, .invalidAuthMessage, false⟩ => true
  | ⟨.auth, .tooManyAuthAttempts, false⟩ => true
  | _ => false

/-- A message of the server that took effect and is no heartbeat. -/
def Occurrence.answer? : Occurrence ι → Option Message
  | .handled m => if m.isPing then none else some m
  | _ => none

/-- The messages of the server that took effect, but for heartbeats. -/
def answers (whats : List (Occurrence ι)) : List Message :=
  whats.filterMap Occurrence.answer?

namespace Client

variable {w : Surroundings σ ι} {c d e : Client σ ι} {x : Error} {reply : Message}
  {front back : List Message}

/-- What a client has done since it was in the state `c`. -/
def doneSince (c d : Client σ ι) : List (Occurrence ι) :=
  d.history.drop c.history.length

theorem doneSince_eq {whats : List (Occurrence ι)} (h : d.history = c.history ++ whats) :
    doneSince c d = whats := by
  unfold doneSince
  rw [h, List.drop_left]

/-- Between two states, the client was given these answers. -/
def Gathers (replies : List Message) (c d : Client σ ι) : Prop :=
  ∃ whats, d.history = c.history ++ whats ∧ answers whats = replies

theorem Gathers.answers (h : Gathers front c d) : answers (doneSince c d) = front := by
  obtain ⟨whats, hhistory, hanswers⟩ := h
  rw [doneSince_eq hhistory, hanswers]

theorem Gathers.history (h : Gathers front c d) : d.history = c.history ++ doneSince c d := by
  obtain ⟨whats, hhistory, -⟩ := h
  rw [doneSince_eq hhistory, hhistory]

theorem Gathers.trans (hfirst : Gathers front c d) (hsecond : Gathers back d e) :
    Gathers (front ++ back) c e := by
  obtain ⟨before, hbefore, hfront⟩ := hfirst
  obtain ⟨later, hlater, hback⟩ := hsecond
  refine ⟨before ++ later, by rw [hlater, hbefore, List.append_assoc], ?_⟩
  unfold Realtime.answers at hfront hback ⊢
  rw [List.filterMap_append, hfront, hback]

/-- Whatever is done after the answers makes no difference to them. -/
theorem Gathers.quietly {whats : List (Occurrence ι)} (h : Gathers front c d)
    (hhistory : e.history = d.history ++ whats) (hwhats : Realtime.answers whats = []) :
    Gathers front c e :=
  List.append_nil front ▸ h.trans ⟨whats, hhistory, hwhats⟩

/-- Nothing is answered while a client waits. -/
theorem Waits.gathers (h : Waits c d) : Gathers [] c d := by
  obtain ⟨whats, hhistory, hwaiting⟩ := history_of_entries (P := (·.isWaiting)) h
  refine ⟨whats, hhistory, List.filterMap_eq_nil_iff.mpr fun what hwhat => ?_⟩
  have hwaits := hwaiting what hwhat
  cases what with
  | handled m => exact if_pos hwaits
  | _ => rfl

/-- A message is the answer that a client has waited for. -/
theorem Waits.handled (h : Waits c d) (hreply : reply.isPing = false)
    (hhandled : e.journal = (d.note (.handled reply)).journal) : Gathers [reply] c e := by
  refine h.gathers.trans ⟨[.handled reply], history_eq_of_noted hhandled, ?_⟩
  simp [Realtime.answers, Occurrence.answer?, hreply]

/-- Nothing is answered while a client closes its connection. -/
theorem Closes.gathers (h : Closes c d) : Gathers [] c d := by
  obtain ⟨outcome, told, hhistory, htold⟩ := h.history
  refine ⟨_, hhistory, List.filterMap_eq_nil_iff.mpr fun what hwhat => ?_⟩
  obtain rfl | hreported := List.mem_cons.mp hwhat
  · rfl
  · obtain ⟨x, rfl⟩ := htold what hreported
    rfl

theorem Loses.gathers (h : Loses c d) : Gathers [] c d := by
  refine ⟨[.reported .suddenDisconnect], ?_, rfl⟩
  rw [h.state, note_history, history_eq_of_journal (enter_journal ..)]
  rfl

theorem answers_flushing (ms : List Message) :
    Realtime.answers (ms.flatMap flushing : List (Occurrence ι)) = [] := by
  refine List.filterMap_eq_nil_iff.mpr fun what hwhat => ?_
  obtain ⟨m, -, hm⟩ := List.mem_flatMap.mp hwhat
  obtain rfl | hsent := List.mem_cons.mp hm
  · rfl
  · rw [List.mem_singleton.mp hsent]
    rfl

/-! ## What the server answers to a login -/

/-- What an answer has led to that a client has waited for since it asked to be let in. -/
inductive Judged (c : Client σ ι) (reply : Message) (d : Client σ ι) : Prop
  | admitted : Gathers [reply] c d → reply.header = ⟨.auth, .request, true⟩ →
      d.phase = .connected → Judged c reply d
  | refused : Gathers [reply] c d → reply.header = ⟨.auth, .invalidAuthData, false⟩ →
      d.phase = .awaitAuthentication → Judged c reply d
  | shutOut {e : Client σ ι} : Gathers [reply] c e → Closes e d →
      reply.header = ⟨.auth, .invalidAuthMessage, false⟩ ∨
        reply.header = ⟨.auth, .tooManyAuthAttempts, false⟩ → Judged c reply d

theorem Hears.judged (h : Hears c reply d) (hreply : reply.isPing = false)
    (hphase : c.phase = .authenticating) : Judged c reply d := by
  cases h with
  | onward hwaits hhandled hallows hopen =>
    have hgathers := hwaits.handled hreply hhandled
    have hadmitted := Judged.admitted hgathers
    have hrefused := Judged.refused hgathers
    unfold Message.isPing at hreply
    rw [hphase] at hallows
    generalize reply.header = header at hreply hallows hadmitted hrefused
    generalize d.phase = q at hopen hallows hadmitted hrefused
    cases hallows with
    | admitted => exact hadmitted rfl rfl
    | refused => exact hrefused rfl rfl
    | lockedOut | misunderstood => exact absurd rfl hopen
    | pinged => cases hreply
  | ended hwaits hhandled hallows hcloses =>
    have hshutOut := Judged.shutOut (hwaits.handled hreply hhandled) hcloses
    rw [hphase] at hallows
    generalize reply.header = header at hallows hshutOut
    cases hallows with
    | lockedOut => exact hshutOut (.inr rfl)
    | misunderstood => exact hshutOut (.inl rfl)

theorem Judged.of_waits (hbefore : Waits c d) (h : Judged d reply e) : Judged c reply e := by
  have hgathers {f : Client σ ι} (hrest : Gathers [reply] d f) : Gathers [reply] c f :=
    hbefore.gathers.trans hrest
  cases h with
  | admitted hrest hheader hphase => exact .admitted (hgathers hrest) hheader hphase
  | refused hrest hheader hphase => exact .refused (hgathers hrest) hheader hphase
  | shutOut hrest hcloses hheader => exact .shutOut (hgathers hrest) hcloses hheader

/-- How a login stops without a value, before the connection is given up. -/
inductive Denied (t : Transport σ ι) (c : Client σ ι) : Stop → Client σ ι → Prop
  | unanswered {stop : Stop} {d : Client σ ι} : Aftermath t c stop d → Denied t c stop d
  | refused {reply : Message} {d : Client σ ι} : Gathers [reply] c d →
      reply.header = ⟨.auth, .invalidAuthData, false⟩ → d.phase = .awaitAuthentication →
      Denied t c (.failed (.authenticationFailed (Session.refusalReason reply))) d
  | shutOut {reply : Message} {d e : Client σ ι} : Gathers [reply] c d → Closes d e →
      reply.header = ⟨.auth, .invalidAuthMessage, false⟩ ∨
        reply.header = ⟨.auth, .tooManyAuthAttempts, false⟩ →
      Denied t c (.failed (.authenticationFailed (Session.refusalReason reply))) e
  /-- The client is let in, but the transport does not take all that is to be said then. -/
  | stuck {reply : Message} {x : Error} {d : Client σ ι} : Gathers [reply] c d →
      reply.header = ⟨.auth, .request, true⟩ → d.phase = .connected →
      (∃ m, .sent m (.error x) ∈ doneSince c d) → t.Returns x → Denied t c (.failed x) d

/-- A client that is denied its login fails with an error of its own, with one that its transport
returns, or for the reason that the server gives. -/
theorem Denied.source {t : Transport σ ι} (h : Denied t c (.failed x) d) :
    x.isOfCourse ∨ t.Returns x ∨ ∃ reason, x = .authenticationFailed reason := by
  cases h with
  | unanswered hrest => exact hrest.source.imp_right .inl
  | refused | shutOut => exact .inr (.inr ⟨_, rfl⟩)
  | stuck _ _ _ _ hx => exact .inr (.inl hx)

end Client

namespace Session

open Client

variable {w : Surroundings σ ι} {c d : Client σ ι} {x : Error}

/-- A connected client stays so while it flushes its outbox, even if it gets stuck. -/
theorem flushAll_concludes {t : Transport σ ι} (ms : List Message) (hin : c.phase = .connected) :
    Ends (fun _ d => d.phase = .connected)
      (fun stop d => ∃ x, stop = .failed x ∧ d.phase = .connected ∧ t.Returns x)
      (flushAll t ms) c := by
  induction ms generalizing c with
  | nil => exact hin
  | cons m rest ih =>
    have hnext : c.phase.next .client m = .connected := by rw [hin, Phase.next_connected]
    unfold Ends
    rw [flushAll_cons, if_neg (by rw [hnext]; exact nofun)]
    cases hcall : (c.link.call t (.send m.encode)).1 with
    | ok _ => exact ih (c := (c.drawn m rest).delivered t m) hnext
    | error e => exact ⟨e, rfl, hin, _, _, _, hcall⟩

/-- A client that is let in flushes its outbox, or gets stuck. -/
theorem flush_concludes {reply : Message} (hadmitted : Gathers [reply] c d)
    (hheader : reply.header = ⟨.auth, .request, true⟩) (hin : d.phase = .connected) :
    Ends (fun _ e => Gathers [reply] c e ∧ e.phase = .connected)
      (Denied w.transport c) (flush w.transport) d := by
  have hsaid {whats : List (Occurrence ι)} {e : Client σ ι} (he : e.history = d.history ++ whats) :
      whats ⊆ doneSince c e := by
    have hboth : e.history = c.history ++ (doneSince c d ++ whats) := by
      rw [he, ← List.append_assoc, ← hadmitted.history]
    rw [doneSince_eq hboth]
    exact List.subset_append_right ..
  have hstays := flushAll_concludes (t := w.transport) d.outbox hin
  refine Ends.intro (fun _ e hflushed => ?_) fun stop e hfailed => ?_
  · have hemptied := flush_ok hflushed
    exact ⟨hadmitted.quietly hemptied.history (answers_flushing _), hstays.ok hflushed⟩
  · obtain ⟨x, rfl, hstill, hx⟩ := hstays.error hfailed
    cases flush_failed hfailed with
    | disallowed _ _ _ hout _ => exact absurd hin hout
    | @refused front back m _ _ hhistory =>
      rw [List.append_assoc] at hhistory
      have hnone : answers (front.flatMap flushing ++
          [.flushed m, .sent m (.error x), .reported x] : List (Occurrence ι)) = [] := by
        unfold answers
        rw [List.filterMap_append]
        exact List.append_eq_nil_iff.mpr ⟨answers_flushing front, rfl⟩
      exact .stuck (hadmitted.quietly hhistory hnone) hheader hstill
        ⟨m, hsaid hhistory (by simp)⟩ hx

/-- What a login does with an answer. -/
theorem concludeLogin_concludes {reply : Message} (h : Judged c reply d) :
    Ends (fun data e => Gathers [reply] c e ∧ reply.header = ⟨.auth, .request, true⟩ ∧
        e.phase = .connected ∧ data = reply.arguments.head?)
      (Denied w.transport c) (concludeLogin w reply d.phase) d := by
  cases h with
  | admitted hgathers hheader hin =>
    rw [hin]
    refine (flush_concludes hgathers hheader hin).of_bind (fun _ e he => ?_) fun _ _ => id
    exact ⟨he.1, hheader, he.2, rfl⟩
  | refused hgathers hheader hphase =>
    rw [hphase]
    show Denied w.transport c _ _
    exact .refused (hgathers.quietly (note_history ..) rfl) hheader hphase
  | shutOut hgathers hcloses hheader =>
    rw [hcloses.phase]
    show Denied w.transport c _ _
    exact .shutOut hgathers (hcloses.report _) hheader

/-- A login is let in, or denied. -/
theorem authenticate_concludes (hphase : c.phase = .awaitAuthentication) (auth : String) :
    Ends (fun data d => ∃ reply, Gathers [reply] c d ∧ reply.header = ⟨.auth, .request, true⟩ ∧
        d.phase = .connected ∧ data = reply.arguments.head?)
      (Denied w.transport c) (authenticate w auth) c := by
  have hnext : c.phase.next .client (loginMessage auth) = .authenticating := by
    rw [hphase]
    rfl
  rw [authenticate_eq]
  refine (send_concludes (by rw [hnext]; exact nofun)).of_bind (fun _ d hd => ?_)
    fun _ _ => .unanswered
  obtain ⟨hwaits, happlied⟩ := hd
  rw [hnext] at happlied
  refine (awaitReply_concludes w.patience (happlied ▸ nofun) (happlied ▸ nofun)).of_bind
    (fun reply e he => ?_) fun _ _ he => .unanswered (he.of_waits hwaits)
  obtain ⟨hreply, hheard⟩ := he
  have hjudged := (hheard.judged hreply happlied).of_waits hwaits
  exact (concludeLogin_concludes hjudged).mono (fun _ _ hf => ⟨reply, hf⟩) fun _ _ => id

/-- What becomes of the connection after a login is decided by the error that it fails with. -/
theorem login_eq (hphase : c.phase = .awaitAuthentication) (auth : String) :
    login w auth c = match authenticate w auth c with
      | .ok data d => .ok data d
      | .error (.failed x) d =>
        .error (.failed x) (if isRefusal x then d else (abandon w).after d)
      | .error .exhausted d => .error .exhausted d := by
  unfold login
  rw [get_bind_apply]
  simp only [hphase, ne_eq, not_true_eq_false, if_false]
  cases hauth : authenticate w auth c with
  | ok data d => exact bind_of_ok (attempt_of_ok hauth)
  | error stop d =>
    cases stop with
    | exhausted => exact bind_of_error (attempt_of_exhausted hauth)
    | failed x =>
      rw [bind_of_ok (attempt_of_failed hauth)]
      show (if !isRefusal x then abandon w >>= fun _ => fail x
        else fail x : Session σ ι (Option Bytes)) d =
          .error (.failed x) (if isRefusal x then d else (abandon w).after d)
      cases isRefusal x with
      | true => rfl
      | false =>
        show (abandon w >>= fun _ => fail x : Session σ ι (Option Bytes)) d =
          .error (.failed x) ((abandon w).after d)
        rw [bind_of_ok abandon_eq, after_of_ok abandon_eq]
        rfl

end Session

/-! ## How a login ends -/

namespace Client

open Session

variable {w : Surroundings σ ι} {c d e : Client σ ι} {x : Error} {auth : String}

/-- How a login ends that leaves the client in the state `d`, by what the server has answered. -/
structure Verdict (w : Surroundings σ ι) (auth : String) (c d : Client σ ι) : Prop where
  history : d.history = c.history ++ doneSince c d
  /-- A client that is logged in is connected, and was let in. -/
  admitted {data : Option Bytes} : login w auth c = .ok data d →
    d.phase = .connected ∧ ∃ reply, answers (doneSince c d) = [reply] ∧
      reply.header = ⟨.auth, .request, true⟩ ∧ data = reply.arguments.head?
  /-- A client whose credentials are refused may try others. -/
  refused {reply : Message} : reply ∈ answers (doneSince c d) →
    reply.header = ⟨.auth, .invalidAuthData, false⟩ →
    login w auth c = .error (.failed (.authenticationFailed (refusalReason reply))) d ∧
      d.phase = .awaitAuthentication
  /-- A client that is shut out has closed its transport after that. -/
  shutOut {reply : Message} : reply ∈ answers (doneSince c d) →
    reply.header = ⟨.auth, .invalidAuthMessage, false⟩ ∨
      reply.header = ⟨.auth, .tooManyAuthAttempts, false⟩ →
    login w auth c = .error (.failed (.authenticationFailed (refusalReason reply))) d ∧
      d.phase = .disconnected ∧ ∃ e, Gathers [reply] c e ∧ Closes e d
  /-- A login that fails without being denied ends the connection, unless the transport has refused
  a message with an error that says that the credentials were refused. -/
  failed {x : Error} : login w auth c = .error (.failed x) d →
    (∀ reply ∈ answers (doneSince c d), reply.header.isDenial = false) →
    (d.phase = .disconnected ↔ isRefusal x = false) ∧
      (isRefusal x = true → ∃ m, .sent m (.error x) ∈ doneSince c d)

theorem isRefusal_of_isOfCourse (h : x.isOfCourse) : isRefusal x = false := by
  cases x with
  | authenticationFailed => cases h
  | _ => rfl

section Verdict

variable {reply : Message} {replies : List Message}

/-- The verdict on a login that the server has denied. -/
theorem Verdict.of_denied (hgathers : Gathers [reply] c d)
    (hlogin : login w auth c = .error (.failed (.authenticationFailed (refusalReason reply))) d)
    (hdenial : reply.header.isDenial = true)
    (hrefused : reply.header = ⟨.auth, .invalidAuthData, false⟩ → d.phase = .awaitAuthentication)
    (hshutOut : reply.header = ⟨.auth, .invalidAuthMessage, false⟩ ∨
        reply.header = ⟨.auth, .tooManyAuthAttempts, false⟩ →
      d.phase = .disconnected ∧ ∃ e, Gathers [reply] c e ∧ Closes e d) :
    Verdict w auth c d where
  history := hgathers.history
  admitted h := by
    rw [hlogin] at h
    cases h
  refused h hheader := by
    rw [hgathers.answers, List.mem_singleton] at h
    subst h
    exact ⟨hlogin, hrefused hheader⟩
  shutOut h hheader := by
    rw [hgathers.answers, List.mem_singleton] at h
    subst h
    exact ⟨hlogin, hshutOut hheader⟩
  failed _ hnone := by
    have hreply := hnone reply (hgathers.answers ▸ List.mem_singleton_self reply)
    rw [hdenial] at hreply
    cases hreply

/-- The verdict on a login that the server has not denied. -/
theorem Verdict.of_undenied (hgathers : Gathers replies c d)
    (hreplies : ∀ reply ∈ replies, reply.header.isDenial = false)
    (hadmitted : ∀ data, login w auth c = .ok data d → d.phase = .connected ∧
      ∃ reply, replies = [reply] ∧ reply.header = ⟨.auth, .request, true⟩ ∧
        data = reply.arguments.head?)
    (hfailed : ∀ x, login w auth c = .error (.failed x) d →
      (d.phase = .disconnected ↔ isRefusal x = false) ∧
        (isRefusal x = true → ∃ m, .sent m (.error x) ∈ doneSince c d)) :
    Verdict w auth c d where
  history := hgathers.history
  admitted h := by
    rw [hgathers.answers]
    exact hadmitted _ h
  refused h hheader := by
    have hnone := hreplies _ (hgathers.answers ▸ h)
    rw [hheader] at hnone
    cases hnone
  shutOut h hheader := by
    have hnone := hreplies _ (hgathers.answers ▸ h)
    obtain hheader | hheader := hheader <;>
    · rw [hheader] at hnone
      cases hnone
  failed h _ := hfailed _ h

end Verdict

/-- Only the transport can make a client that is not answered believe that it was refused. -/
theorem Aftermath.refused_of_isRefusal {t : Transport σ ι} (h : Aftermath t c (.failed x) d)
    (hx : isRefusal x = true) :
    ∃ e m, Waits c e ∧ e.phase ≠ .disconnected ∧ d = e.undelivered t m x := by
  have hnot (hcourse : x.isOfCourse) : False :=
    Bool.false_ne_true ((isRefusal_of_isOfCourse hcourse).symm.trans hx)
  cases h with
  | refused hwaits hopen _ => exact ⟨_, _, hwaits, hopen, rfl⟩
  | dismayed _ _ hcourse => exact (hnot hcourse).elim
  | closed _ _ hcourse => exact (hnot hcourse).elim
  | lost => exact (hnot rfl).elim

/-- The client when it has decided what becomes of the connection. -/
def decided (w : Surroundings σ ι) (x : Error) (c : Client σ ι) : Client σ ι :=
  if isRefusal x then c else (abandon w).after c

theorem decided_of_unanswered (h : Aftermath w.transport c (.failed x) d) :
    Gathers [] c (d.decided w x) ∧ ((d.decided w x).phase = .disconnected ↔ isRefusal x = false) ∧
      (isRefusal x = true → ∃ m, .sent m (.error x) ∈ doneSince c (d.decided w x)) := by
  unfold decided
  cases hx : isRefusal x with
  | true =>
    obtain ⟨e, m, hwaits, hopen, rfl⟩ := h.refused_of_isRefusal hx
    have hgathers : Gathers [] c (e.undelivered w.transport m x) :=
      hwaits.gathers.quietly (undelivered_history ..) rfl
    refine ⟨hgathers, ⟨fun hgone => absurd hgone hopen, nofun⟩, fun _ => ⟨m, ?_⟩⟩
    have hboth := undelivered_history w.transport e m x
    rw [hwaits.gathers.history, List.append_assoc] at hboth
    rw [if_pos rfl, doneSince_eq hboth]
    simp
  | false =>
    refine ⟨?_, ⟨fun _ => rfl, fun _ => abandon_phase⟩, nofun⟩
    obtain ⟨e, hwaits, hcloses | ⟨-, hloses⟩⟩ := h.abandoned
    · exact hwaits.gathers.trans hcloses.gathers
    · exact hwaits.gathers.trans hloses.gathers

theorem decided_of_stuck {replies : List Message} (hgathers : Gathers replies c d)
    (hin : d.phase = .connected) (hsent : ∃ m, .sent m (.error x) ∈ doneSince c d) :
    Gathers replies c (d.decided w x) ∧
      ((d.decided w x).phase = .disconnected ↔ isRefusal x = false) ∧
      (isRefusal x = true → ∃ m, .sent m (.error x) ∈ doneSince c (d.decided w x)) := by
  have hopen : d.phase ≠ .disconnected := hin ▸ nofun
  unfold decided
  cases isRefusal x with
  | true => exact ⟨hgathers, ⟨fun hgone => absurd hgone hopen, nofun⟩, fun _ => hsent⟩
  | false =>
    refine ⟨?_, ⟨fun _ => rfl, fun _ => abandon_phase⟩, nofun⟩
    exact List.append_nil replies ▸ hgathers.trans (Closes.of_abandon hopen).gathers

/-- The verdict on a login that fails. -/
theorem verdict_of_failed (hdenied : Denied w.transport c (.failed x) d)
    (hlogin : login w auth c = .error (.failed x) (d.decided w x)) :
    Verdict w auth c (d.decided w x) := by
  have hnovalue (data : Option Bytes) : login w auth c ≠ .ok data (d.decided w x) := by
    rw [hlogin]
    exact nofun
  have hfailed {y : Error} (h : login w auth c = .error (.failed y) (d.decided w x)) : y = x := by
    rw [hlogin] at h
    cases h
    rfl
  cases hdenied with
  | unanswered haftermath =>
    obtain ⟨hgathers, hend⟩ := decided_of_unanswered haftermath
    refine .of_undenied hgathers (List.forall_mem_nil _) (fun data h => absurd h (hnovalue data))
      fun y h => ?_
    rw [hfailed h]
    exact hend
  | stuck hgathers hheader hin hsent _ =>
    obtain ⟨hgathers, hend⟩ := decided_of_stuck (w := w) hgathers hin hsent
    refine .of_undenied hgathers (fun other hother => ?_)
      (fun data h => absurd h (hnovalue data)) fun y h => ?_
    · rw [List.mem_singleton.mp hother, hheader]
      rfl
    · rw [hfailed h]
      exact hend
  -- A client that was denied its login leaves the connection as the answer has left it.
  | refused hgathers hheader hphase =>
    refine .of_denied hgathers hlogin (by rw [hheader]; rfl) (fun _ => hphase) fun hother => ?_
    rw [hheader] at hother
    obtain hother | hother := hother <;> cases hother
  | shutOut hgathers hcloses hheader =>
    refine .of_denied (hgathers.trans hcloses.gathers) hlogin ?_ (fun hother => ?_)
      fun _ => ⟨hcloses.phase, _, hgathers, hcloses⟩
    · obtain hheader | hheader := hheader <;> rw [hheader] <;> rfl
    · rw [hother] at hheader
      obtain hheader | hheader := hheader <;> cases hheader

/-- Whatever the transport and the server do, a login that succeeds was let in, one that is refused
may be tried again, and one that is shut out has closed the transport. Any other failure leaves the
client disconnected exactly if its error does not say that the credentials were refused; and if it
does, it is the transport that has returned it for a message that it did not take. -/
theorem login_verdict (hphase : c.phase = .awaitAuthentication) (auth : String) :
    Verdict w auth c ((login w auth).after c) := by
  have hends := authenticate_concludes (w := w) hphase auth
  have hlogin := login_eq (w := w) hphase auth
  cases hauth : authenticate w auth c with
  | ok data d =>
    obtain ⟨reply, hgathers, hheader, hin, hdata⟩ := hends.ok hauth
    rw [hauth] at hlogin
    rw [after_of_ok hlogin]
    refine .of_undenied hgathers (fun other hother => ?_) (fun data' h => ?_) fun x h => ?_
    · rw [List.mem_singleton.mp hother, hheader]
      rfl
    · rw [hlogin] at h
      cases h
      exact ⟨hin, reply, rfl, hheader, hdata⟩
    · rw [hlogin] at h
      cases h
  | error stop d =>
    have hdenied := hends.error hauth
    rw [hauth] at hlogin
    cases stop with
    | failed x =>
      have hfailed : login w auth c = .error (.failed x) (d.decided w x) := hlogin
      rw [after_of_error hfailed]
      exact verdict_of_failed hdenied hfailed
    | exhausted =>
      have htired : login w auth c = .error .exhausted d := hlogin
      rw [after_of_error htired]
      -- A client that is still waiting was not answered.
      cases hdenied with
      | unanswered haftermath =>
        cases haftermath with
        | tired hwaits =>
          refine .of_undenied hwaits.gathers (List.forall_mem_nil _) (fun _ h => ?_) fun _ h => ?_
          · rw [htired] at h
            cases h
          · rw [htired] at h
            cases h

/-! ### A client that believes it was refused -/

/-- The client of a server that would let it in, over a transport that does not take its
credentials and says that they were refused. It is connected, but not logged in. -/
def misled : Client Script Script.Stimulus :=
  (connect hospitable).after
    { guest with link := { guest.link with state := { rules :=
        { on := "A|REQ|", failure := some (.authenticationFailed "denied") } :: Script.welcome } } }

theorem login_verdict_misled :
    misled.phase = .awaitAuthentication ∧
      Verdict hospitable "auth" misled ((login hospitable "auth").after misled) := by
  have hphase : misled.phase = .awaitAuthentication := by decide +kernel
  exact ⟨hphase, login_verdict hphase "auth"⟩

/-- The server has answered nothing, the transport has not taken the credentials, and still the
client is not disconnected: it goes on waiting for a login. -/
theorem failed_request_keeps_connection :
    let d := (login hospitable "auth").after misled
    misled.phase = .awaitAuthentication ∧
      login hospitable "auth" misled = .error (.failed (.authenticationFailed "denied")) d ∧
      answers (doneSince misled d) = [] ∧ d.phase ≠ .disconnected ∧
      d.phase = .awaitAuthentication ∧ d.link.state.log = misled.link.state.log ++
        [.sent (loginMessage "auth").encode] := by
  intro d
  refine ⟨by decide +kernel, eq_failed_of_failure? (by decide +kernel), ?_⟩
  decide +kernel

end Client

end Realtime
