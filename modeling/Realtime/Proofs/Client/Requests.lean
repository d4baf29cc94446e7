import Realtime.Proofs.Client.Books

/-!
# Requests as walks

Connecting, logging in, processing and closing are made of moves, and so is
every request to a client. There is one exception: a client that is asked to
connect after its connection has ended first begins a new session.

Only processing and a login that was let in send what stands in the outbox, and
they do so last. All other requests are negotiations.

Results:
1. `execute_walks`: a request makes moves only, from where it begins.
2. `execute_negotiation`: connecting, closing and commands are negotiations.
3. `Reached.invariant`, `stations_invariant`: what moves and new sessions keep
   holds of every client that requests lead to.
-/

namespace Realtime

variable {σ ι : Type}

namespace Client

/-- The client at the start of a new session. -/
def restart (c : Client σ ι) : Client σ ι :=
  (c.discardIncoming.note .restarted).enter .awaitConnection

theorem restart_eq (c : Client σ ι) : c.restart =
    { c.discardIncoming.note .restarted with phase := .awaitConnection } :=
  enter_eq _ Phase.noConfusion

@[simp] theorem restart_phase (c : Client σ ι) : c.restart.phase = .awaitConnection :=
  enter_phase _ _

@[simp] theorem restart_journal (c : Client σ ι) : c.restart.journal =
    c.journal ++ [⟨c.phase, c.discardIncoming.isIdle, .restarted⟩] := by
  rw [restart_eq]
  rfl

variable {w : Surroundings σ ι} {c d : Client σ ι}

/-! ## What was said since the transport was opened -/

theorem sayMore_of_ownDoing {what : Occurrence ι} (h : OwnDoing what)
    (said : Option (List Message)) : sayMore said what = said := by
  cases h <;> rfl

theorem Act.saidSinceOpened (h : Act w c d) :
    saidSinceOpened d.journal = saidSinceOpened c.journal := by
  obtain hsame | ⟨what, hwhat, hjournal⟩ := h.journal
  · rw [hsame]
  · rw [hjournal, note_journal, saidSinceOpened_concat, sayMore_of_ownDoing hwhat]

/-- A message that the transport is handed, and that answers no challenge, leaves the
challenge unanswered. -/
theorem Sending.unanswered {m : Message} (h : Sending w.transport c m d)
    (hm : m.header ≠ responseHeader) (hc : Unanswered c.journal) : Unanswered d.journal := by
  obtain ⟨said, hsaid, hnone⟩ := hc
  cases h with
  | taken _ _ =>
    refine ⟨said ++ [m], ?_, ?_⟩
    · rw [delivered_journal, saidSinceOpened_concat, hsaid]
      rfl
    · intro other hother
      obtain hold | hnew := List.mem_append.mp hother
      · exact hnone other hold
      · rw [List.mem_singleton.mp hnew]
        exact hm
  | refused _ _ =>
    refine ⟨said, ?_, hnone⟩
    rw [undelivered_journal, saidSinceOpened_concat, hsaid]
    rfl

theorem Sending.next_ne_error {m : Message} (h : Sending w.transport c m d) :
    c.phase.next .client m ≠ .error := by
  cases h with
  | taken hnext _ => exact hnext
  | refused hnext _ => exact hnext

theorem Sending.phase_ne_disconnected {m : Message} (h : Sending w.transport c m d) :
    c.phase ≠ .disconnected := by
  have hnext := h.next_ne_error
  intro hgone
  rw [hgone] at hnext
  exact hnext rfl

/-- While a client hears its server out, the transport stays open and the challenge
unanswered, or the connection ends. -/
theorem Reception.unanswered (h : Reception w c d)
    (hc : c.phase = .disconnected ∨ Unanswered c.journal) :
    d.phase = .disconnected ∨ Unanswered d.journal := by
  -- An entry that is no call of the transport leaves everything as it was.
  have hnote (what : Occurrence ι) (hwhat : ∀ said, sayMore said what = said)
      (hopen : Unanswered c.journal) : Unanswered (c.note what).journal := by
    obtain ⟨said, hsaid, hnone⟩ := hopen
    exact ⟨said, by rw [note_journal, saidSinceOpened_concat, hwhat, hsaid], hnone⟩
  cases h with
  | acted hact =>
    rw [hact.phase]
    refine hc.imp_right fun ⟨said, hsaid, hnone⟩ => ⟨said, ?_, hnone⟩
    rw [hact.saidSinceOpened, hsaid]
  | received _ => exact hc
  | parsed _ => exact hc
  | taken _ => exact hc
  | @handled m hnext _ =>
    refine .inr (hnote (.handled m) (fun _ => rfl) (hc.resolve_left fun hgone => ?_))
    rw [hgone] at hnext
    exact hnext rfl
  | @admitted m hin _ =>
    refine .inr (hnote (.handled m) (fun _ => rfl) (hc.resolve_left fun hgone => ?_))
    rw [hgone] at hin
    cases hin
  | ponged hsent =>
    refine .inr (hsent.unanswered (by decide) (hc.resolve_left hsent.phase_ne_disconnected))
  | lost _ => exact .inl rfl
  | closed hgone => exact .inl hgone
  | shut => exact .inl rfl
  | reported e => exact hc.imp_right (hnote (.reported e) fun _ => rfl)

end Client

namespace Session

open Client

variable {w : Surroundings σ ι} {c : Client σ ι}

/-! ## Messages of the server -/

theorem refuse_walks (phase : Phase) (m : Message) : Walks (Reception w) (refuse w phase m) c :=
  Walks.of_bind shut_walks fun _ _ _ => failReported_walks _

theorem dispatch_walks (m : Message) : Walks (Reception w) (dispatch w m) c := by
  unfold dispatch
  split
  · split
    · exact send_walks fun _ => .ponged
    · exact Walks.of_pure _
  · exact (notifyEvent_walks runner_tame m).acted
  · exact (notifyPresence_walks runner_tame m).acted
  · exact Walks.of_pure _

theorem handle_of_error {m : Message} (hnext : c.phase.next .server m = .error) :
    handle w m c = refuse w c.phase m c := by
  rw [handle, get_bind_apply, if_pos hnext]

/-- A message that is allowed takes effect, and is passed on while the connection lives. -/
theorem handle_eq {m : Message} (hnext : c.phase.next .server m ≠ .error) :
    handle w m c = (if c.phase.next .server m = .disconnected then
      modify (Client.closeLink w.transport) else dispatch w m : Session σ ι Unit)
        ((c.note (.handled m)).enter (c.phase.next .server m)) := by
  rw [handle, get_bind_apply, if_neg hnext]
  rfl

theorem handle_walks (m : Message) : Walks (Reception w) (handle w m) c := by
  refine Walks.of_get_bind ?_
  dsimp only
  split
  · exact refuse_walks _ _
  · next hnext =>
    refine Walks.of_modify_bind (handled_reception hnext) ?_
    split
    · next hgone => exact Walks.of_modify (.closed ((enter_phase _ _).trans hgone))
    · exact dispatch_walks m

section Rounds

variable {R : Client σ ι → Client σ ι → Prop}
  (hhandle : ∀ m c, Walks R (handle w m) c)
include hhandle

/-- Waiting for a reply is asking for messages and handling them, round by round. -/
theorem awaitReply_walks_of (hnext : ∀ c, Walks R (nextMessage w.transport true) c)
    (rounds : Nat) : Walks R (awaitReply w rounds) c := by
  induction rounds generalizing c with
  | zero => exact Walks.of_exhausted
  | succ rounds ih =>
    refine Walks.of_bind (hnext c) fun found d _ => ?_
    cases found with
    | none => exact Walks.of_fail _
    | some m =>
      refine Walks.of_bind (hhandle m d) fun _ e _ => ?_
      split
      · exact ih
      · exact Walks.of_pure _

theorem drain_walks_of (hnext : ∀ c, Walks R (nextMessage w.transport false) c)
    (rounds : Nat) : Walks R (drain w rounds) c := by
  induction rounds generalizing c with
  | zero => exact Walks.of_exhausted
  | succ rounds ih =>
    refine Walks.of_bind (hnext c) fun found d _ => ?_
    cases found with
    | none => exact Walks.of_pure _
    | some m => exact Walks.of_bind (hhandle m d) fun _ _ _ => ih

end Rounds

theorem awaitReply_walks (rounds : Nat) : Walks (Reception w) (awaitReply w rounds) c :=
  awaitReply_walks_of (fun m _ => handle_walks m) (fun _ => nextMessage_walks true) rounds

theorem drain_walks (rounds : Nat) : Walks (Reception w) (drain w rounds) c :=
  drain_walks_of (fun m _ => handle_walks m) (fun _ => nextMessage_walks false) rounds

theorem giveUp_walks {α : Type} (operation : Operation) :
    Walks (Reception w) (giveUp w operation : Session σ ι α) c :=
  Walks.of_get_bind (Walks.of_bind shut_walks fun _ _ _ => failReported_walks _)

theorem abandon_walks : Walks (Reception w) (abandon w) c := by
  refine Walks.of_get_bind ?_
  split
  · exact shut_walks
  · exact Walks.of_pure _

/-! ## Connecting -/

theorem refuseRedirect_walks : Walks (Reception w) (refuseRedirect w) c :=
  Walks.of_bind shut_walks fun _ _ _ => Walks.of_get_bind (failReported_walks _)

/-- A redirection is followed if its address is one that a client may be sent to. -/
theorem followRedirect_eq (reply : Message) : followRedirect w reply c =
    match w.checkUri (redirectTarget reply) with
    | .error fault => .error (.failed (.url fault)) c
    | .ok () => .ok () ((c.closeLink w.transport).retarget (redirectTarget reply)) := by
  simp only [followRedirect]
  cases w.checkUri (redirectTarget reply) <;> rfl

/-- Whoever follows a redirection has left for the address that it names. -/
theorem followRedirect_ok {reply : Message} {d : Client σ ι}
    (h : followRedirect w reply c = .ok () d) :
    w.checkUri (redirectTarget reply) = .ok () ∧
      d = (c.closeLink w.transport).retarget (redirectTarget reply) := by
  rw [followRedirect_eq] at h
  split at h
  · cases h
  · next hcheck =>
    cases h
    exact ⟨hcheck, rfl⟩

section Relations

variable {R : Client σ ι → Client σ ι → Prop}

theorem followRedirect_walks {reply : Message}
    (hredirected : w.checkUri (redirectTarget reply) = .ok () →
      R c ((c.closeLink w.transport).retarget (redirectTarget reply))) :
    Walks R (followRedirect w reply) c := by
  unfold followRedirect
  dsimp only
  split
  · exact Walks.of_fail _
  · next htarget => exact Walks.of_modify (hredirected htarget)

variable (hheard : ∀ c d, Reception w c d → R c d)
include hheard

theorem openAndAwaitChallenge_walks
    (hopened : R c (c.use w.transport .openLink (.opened c.link.uri)).2) :
    Walks R (openAndAwaitChallenge w) c := by
  refine Walks.of_get_bind (Walks.of_modifyGet_bind hopened ?_)
  refine Walks.mono ?_ hheard
  refine Walks.of_bind ?_ fun _ d _ => ?_
  · cases (c.use w.transport .openLink (.opened c.link.uri)).1 with
    | ok _ => exact Walks.of_pure _
    | error e => exact Walks.of_fail e
  · refine Walks.of_bind (awaitReply_walks _) fun _ e _ => Walks.of_get_bind ?_
    split
    · exact giveUp_walks _
    · exact Walks.of_pure _

end Relations

/-- Whoever opens the transport and is challenged has not answered yet. -/
theorem openAndAwaitChallenge_ok {d : Client σ ι}
    (h : openAndAwaitChallenge w c = .ok () d) :
    d.phase = .challenging ∧ Unanswered d.journal := by
  have hopened : ∃ a e, (ofOutcome (c.link.call w.transport .openLink).1 : Session σ ι Unit)
      (c.use w.transport .openLink (.opened c.link.uri)).2 = .ok a e ∧
      (awaitReply w w.patience >>= fun _ => get >>= fun e : Client σ ι =>
        if e.phase ≠ .challenging then giveUp w .connect else pure ()) e = .ok () d :=
    bind_eq_ok h
  obtain ⟨_, e, houtcome, hrest⟩ := hopened
  obtain ⟨reply, f, hreply, hchecked⟩ := bind_eq_ok hrest
  -- The transport was opened: otherwise nothing would have been awaited.
  have hstart : Unanswered e.journal := by
    cases hcall : (c.link.call w.transport .openLink).1 with
    | error _ =>
      rw [hcall] at houtcome
      cases houtcome
    | ok _ =>
      rw [hcall] at houtcome
      cases houtcome
      refine ⟨[], ?_, fun _ h => absurd h List.not_mem_nil⟩
      rw [use_journal, saidSinceOpened_concat, hcall]
      rfl
  have hwaited : f.phase = .disconnected ∨ Unanswered f.journal :=
    Walks.keeps ((awaitReply_walks w.patience).to_ok hreply)
      (fun _ _ hbefore hmove => Reception.unanswered hmove hbefore) (.inr hstart)
  change (if f.phase ≠ .challenging then giveUp w .connect else pure () : Session σ ι Unit) f =
    .ok () d at hchecked
  split at hchecked
  · obtain ⟨_, _, _, hgaveUp⟩ := bind_eq_ok hchecked
    obtain ⟨_, _, _, hgaveUp⟩ := bind_eq_ok hgaveUp
    obtain ⟨_, _, _, hgaveUp⟩ := bind_eq_ok hgaveUp
    cases hgaveUp
  · next hphase =>
    have hchallenging : f.phase = .challenging := Decidable.not_not.mp hphase
    cases hchecked
    refine ⟨hchallenging, hwaited.resolve_left fun hgone => ?_⟩
    rw [hchallenging] at hgone
    cases hgone

/-- What a client does once it has a reply to its answer, by the phase that this has led to. -/
def concludeHop (w : Surroundings σ ι) (reply : Message) (hops : Nat) :
    Phase → Session σ ι Unit
  | .awaitAuthentication => pure ()
  | .awaitConnection =>
    match hops with
    | 0 => refuseRedirect w
    | fewer + 1 => do
      followRedirect w reply
      handshake w fewer
  | .disconnected => failReported .rejected
  | _ => giveUp w .connect

/-- One hop of a handshake: the transport is opened, a challenge answered, and a reply heard. -/
def hop (w : Surroundings σ ι) : Session σ ι Message := do
  openAndAwaitChallenge w
  send w.transport (challengeResponse (← get).uri)
  awaitReply w w.patience

theorem handshake_eq (hops : Nat) :
    handshake w hops = (do
      let reply ← hop w
      concludeHop w reply hops (← get).phase) := by
  have hconclude (reply : Message) (c : Client σ ι) : (match c.phase with
      | .awaitAuthentication => pure ()
      | .awaitConnection =>
        match hops with
        | 0 => refuseRedirect w
        | fewer + 1 => do
          followRedirect w reply
          handshake w fewer
      | .disconnected => failReported .rejected
      | _ => giveUp w .connect : Session σ ι Unit) = concludeHop w reply hops c.phase := by
    cases c.phase <;> rfl
  unfold hop
  simp only [bind_assoc]
  cases hops with
  | zero | succ =>
    unfold handshake
    exact bind_congr fun _ => bind_congr fun _ => bind_congr fun _ => bind_congr fun reply =>
      bind_congr (hconclude reply)

theorem handshake_of_hop {hops : Nat} {reply : Message} {d : Client σ ι}
    (h : hop w c = .ok reply d) :
    handshake w hops c = concludeHop w reply hops d.phase d := by
  rw [handshake_eq]
  exact bind_of_ok h

theorem hop_of_handshake {hops : Nat} {d : Client σ ι} (h : handshake w hops c = .ok () d) :
    ∃ reply e, hop w c = .ok reply e ∧ concludeHop w reply hops e.phase e = .ok () d := by
  rw [handshake_eq] at h
  exact bind_eq_ok h

section Relations

variable {R : Client σ ι → Client σ ι → Prop} (hheard : ∀ c d, Reception w c d → R c d)
  (hresponded : ∀ c d, c.phase = .challenging → Unanswered c.journal →
    Sending w.transport c (challengeResponse c.uri) d → R c d)
include hheard hresponded

theorem hop_walks (hopened : R c (c.use w.transport .openLink (.opened c.link.uri)).2) :
    Walks R (hop w) c := by
  refine Walks.of_bind (openAndAwaitChallenge_walks hheard hopened) fun _ d hchallenged => ?_
  obtain ⟨hchallenging, hunanswered⟩ := openAndAwaitChallenge_ok hchallenged
  refine Walks.of_get_bind (Walks.of_bind (send_walks fun _ => ?_) fun _ e _ => ?_)
  · exact hresponded _ _ hchallenging hunanswered
  · exact (awaitReply_walks _).mono hheard

/-- A handshake is made of what each hop is made of, if a redirection leads to where the
next hop may begin. -/
theorem handshake_walks {Ready : Client σ ι → Prop}
    (hopened : ∀ c, Ready c → R c (c.use w.transport .openLink (.opened c.link.uri)).2)
    (hredirected : ∀ c uri, c.phase = .awaitConnection → w.checkUri uri = .ok () →
      R c ((c.closeLink w.transport).retarget uri) ∧
        Ready ((c.closeLink w.transport).retarget uri))
    (hc : Ready c) (hops : Nat) : Walks R (handshake w hops) c := by
  have hends {step : Session σ ι Unit} {c : Client σ ι} (h : Walks (Reception w) step c) :
      Walks R step c := h.mono hheard
  induction hops using Nat.strongRecOn generalizing c with
  | ind hops ih =>
    rw [handshake_eq]
    refine Walks.of_bind (hop_walks hheard hresponded (hopened c hc)) fun reply d _ =>
      Walks.of_get_bind ?_
    cases hback : d.phase with
    | awaitAuthentication => exact Walks.of_pure _
    | awaitConnection =>
      cases hops with
      | zero => exact hends refuseRedirect_walks
      | succ fewer =>
        -- The next hop opens a link again, which the redirection has made way for.
        refine Walks.of_bind (followRedirect_walks fun htarget => ?_) fun _ e hfollow =>
          ih fewer fewer.lt_succ_self ?_
        · exact (hredirected d _ hback htarget).1
        · obtain ⟨htarget, rfl⟩ := followRedirect_ok hfollow
          exact (hredirected d _ hback htarget).2
    | disconnected => exact hends (failReported_walks _)
    | _ => exact hends (giveUp_walks _)

end Relations

theorem handshake_negotiation (hphase : c.phase = .awaitConnection) (hops : Nat) :
    Walks (Negotiation w) (handshake w hops) c :=
  handshake_walks (fun _ _ => .heard) (fun _ _ => .responded) (fun _ => .opened)
    (fun _ _ hback htarget => ⟨.redirected hback htarget, hback⟩) hphase hops

/-! ## Sessions -/

theorem startSession_eq : (startSession : Session σ ι Unit) c =
    match c.phase with
    | .awaitConnection => .ok () c
    | .disconnected => .ok () c.restart
    | phase => .error (.failed (.invalidState .connect phase)) c := by
  rw [startSession, get_bind_apply]
  cases c.phase <;> rfl

theorem startSession_phase {d : Client σ ι}
    (h : (startSession : Session σ ι Unit) c = .ok () d) : d.phase = .awaitConnection := by
  rw [startSession_eq] at h
  split at h
  · next hphase =>
    cases h
    exact hphase
  · cases h
    exact restart_phase c
  · cases h

/-- Unless its connection has ended, a client is left as it is. -/
theorem startSession_walks (hphase : c.phase ≠ .disconnected) :
    Walks (Negotiation w) (startSession : Session σ ι Unit) c := by
  have hsame : (startSession : Session σ ι Unit).after c = c := by
    rw [after, startSession_eq]
    cases h : c.phase with
    | disconnected => exact absurd h hphase
    | _ => rfl
  rw [Walks, hsame]

theorem connect_walks (hphase : c.phase ≠ .disconnected) :
    Walks (Negotiation w) (connect w) c := by
  refine Walks.of_bind (startSession_walks hphase) fun _ d hstart => Walks.of_get_bind ?_
  have hand := handshake_negotiation (w := w) (startSession_phase hstart)
  refine Walks.of_bind (Walks.of_attempt (hand _)) fun result e _ => ?_
  cases result with
  | ok _ => exact Walks.of_pure _
  | error e =>
    exact Walks.of_bind abandon_walks.heard fun _ _ _ => Walks.of_fail _

/-- Whoever abandons a connection ends it, unless it has ended already. -/
theorem abandon_eq : abandon w c =
    .ok () (if c.phase = .disconnected then c else c.shut w.transport) := by
  unfold abandon
  rw [get_bind_apply]
  by_cases hphase : c.phase = .disconnected
  · rw [if_neg fun hopen => hopen hphase, if_pos hphase]
    rfl
  · rw [if_pos hphase, if_neg hphase]
    rfl

theorem abandon_phase : ((abandon w).after c).phase = .disconnected := by
  rw [after_of_ok abandon_eq]
  split
  · assumption
  · exact enter_phase _ _

theorem failReported_ne_ok {α : Type} {e : Error} {a : α} {d : Client σ ι} :
    (failReported e : Session σ ι α) c ≠ .ok a d := by
  intro h
  obtain ⟨_, _, _, hfail⟩ := bind_eq_ok h
  cases hfail

theorem giveUp_ne_ok {α : Type} {operation : Operation} {a : α} {d : Client σ ι} :
    (giveUp w operation : Session σ ι α) c ≠ .ok a d := by
  intro h
  obtain ⟨_, _, _, h⟩ := bind_eq_ok h
  obtain ⟨_, _, _, h⟩ := bind_eq_ok h
  exact failReported_ne_ok h

/-- Only an acceptance ends a handshake well, now or after a redirection. -/
theorem concludeHop_ok {reply : Message} {hops : Nat} {phase : Phase} {d : Client σ ι}
    (h : concludeHop w reply hops phase c = .ok () d) :
    phase = .awaitAuthentication ∧ d = c ∨
      phase = .awaitConnection ∧ ∃ fewer e, hops = fewer + 1 ∧
        followRedirect w reply c = .ok () e ∧ handshake w fewer e = .ok () d := by
  cases phase with
  | awaitAuthentication =>
    cases h
    exact .inl ⟨rfl, rfl⟩
  | awaitConnection =>
    cases hops with
    | zero =>
      obtain ⟨_, _, _, h⟩ := bind_eq_ok h
      exact absurd h failReported_ne_ok
    | succ fewer =>
      obtain ⟨_, e, hfollow, hrest⟩ := bind_eq_ok h
      exact .inr ⟨rfl, fewer, e, rfl, hfollow, hrest⟩
  | disconnected => exact absurd h failReported_ne_ok
  | _ => exact absurd h giveUp_ne_ok

/-- A handshake that succeeds has come as far as a login. -/
theorem handshake_ok {hops : Nat} {d : Client σ ι} (h : handshake w hops c = .ok () d) :
    d.phase = .awaitAuthentication := by
  induction hops generalizing c with
  | zero =>
    obtain ⟨reply, e, -, hconcluded⟩ := hop_of_handshake h
    obtain ⟨hphase, rfl⟩ | ⟨-, _, -, hnone, -⟩ := concludeHop_ok hconcluded
    · exact hphase
    · cases hnone
  | succ fewer ih =>
    obtain ⟨reply, e, -, hconcluded⟩ := hop_of_handshake h
    obtain ⟨hphase, rfl⟩ | ⟨-, _, f, hfewer, -, hrest⟩ := concludeHop_ok hconcluded
    · exact hphase
    · cases hfewer
      exact ih hrest

/-- How connecting ends, once the session has started. -/
theorem connect_eq {d : Client σ ι} (h : (startSession : Session σ ι Unit) c = .ok () d) :
    connect w c = match handshake w (d.config.maxRedirections.toNat - 1) d with
      | .ok () e => .ok () e
      | .error (.failed x) e => .error (.failed x) ((abandon w).after e)
      | .error .exhausted e => .error .exhausted e := by
  unfold connect
  rw [bind_of_ok h, get_bind_apply]
  cases hhand : handshake w (d.config.maxRedirections.toNat - 1) d with
  | ok _ e =>
    rw [bind_of_ok (attempt_of_ok hhand)]
    rfl
  | error stop e =>
    cases stop with
    | failed x =>
      rw [bind_of_ok (attempt_of_failed hhand)]
      show (abandon w >>= fun _ => fail x : Session σ ι Unit) e =
        .error (.failed x) ((abandon w).after e)
      rw [after_of_ok abandon_eq]
      exact bind_of_ok abandon_eq
    | exhausted => exact bind_of_error (attempt_of_exhausted hhand)

/-- A client that has tried to connect has come as far as a login, or its connection has
ended; or else it could not begin, and is as it was. -/
theorem connect_phase (hreturns : (connect w).returns c = true) :
    (connect w).after c = c ∨ ((connect w).after c).phase = .awaitAuthentication ∨
      ((connect w).after c).phase = .disconnected := by
  cases hstart : (startSession : Session σ ι Unit) c with
  | error stop d =>
    have hfailed : connect w c = .error stop d := bind_of_error hstart
    rw [startSession_eq] at hstart
    split at hstart <;> cases hstart
    exact .inl (after_of_error hfailed)
  | ok _ d =>
    refine .inr ?_
    have hconnect := connect_eq (w := w) hstart
    unfold returns at hreturns
    unfold after
    rw [hconnect] at hreturns ⊢
    cases hhand : handshake w (d.config.maxRedirections.toNat - 1) d with
    | ok _ e => exact .inl (handshake_ok hhand)
    | error stop e =>
      rw [hhand] at hreturns
      cases stop with
      | failed x => exact .inr abandon_phase
      | exhausted => cases hreturns

/-- Connecting after a connection has ended is connecting in a new session. -/
theorem connect_of_disconnected (hphase : c.phase = .disconnected) :
    connect w c = connect w c.restart := by
  have hstart : (startSession : Session σ ι Unit) c = startSession c.restart := by
    rw [startSession_eq, startSession_eq, hphase, restart_phase]
  exact bind_congr_state hstart _

/-! ## Logging in, processing and closing -/

/-- What a login does once it has a reply, by the phase that this has led to. -/
def concludeLogin (w : Surroundings σ ι) (reply : Message) : Phase → Session σ ι (Option Bytes)
  | .connected => do
    flush w.transport
    pure reply.arguments.head?
  | .awaitAuthentication => failReported (.authenticationFailed (refusalReason reply))
  | .disconnected => failReported (.authenticationFailed (refusalReason reply))
  | _ => giveUp w .login

theorem authenticate_eq (auth : String) :
    authenticate w auth = (do
      send w.transport (loginMessage auth)
      let reply ← awaitReply w w.patience
      concludeLogin w reply (← get).phase) := rfl

/-- Unless it has let the client in, a reply ends the login. -/
theorem concludeLogin_walks {reply : Message} {phase : Phase} (hphase : phase ≠ .connected) :
    Walks (Reception w) (concludeLogin w reply phase) c := by
  cases phase with
  | connected => exact absurd rfl hphase
  | awaitAuthentication | disconnected => exact failReported_walks _
  | _ => exact giveUp_walks _

theorem concludeLogin_ok {reply : Message} {phase : Phase} {data : Option Bytes}
    {d : Client σ ι} (h : concludeLogin w reply phase c = .ok data d) :
    phase = .connected ∧ flush w.transport c = .ok () d := by
  cases phase with
  | connected =>
    obtain ⟨_, e, hflush, hlast⟩ := bind_eq_ok h
    cases hlast
    exact ⟨rfl, hflush⟩
  | awaitAuthentication | disconnected =>
    obtain ⟨_, _, _, hfailed⟩ := bind_eq_ok h
    cases hfailed
  | _ =>
    obtain ⟨_, _, _, hgaveUp⟩ := bind_eq_ok h
    obtain ⟨_, _, _, hgaveUp⟩ := bind_eq_ok hgaveUp
    obtain ⟨_, _, _, hfailed⟩ := bind_eq_ok hgaveUp
    cases hfailed

/-- A login that succeeds has sent its credentials, had a reply that let the client in,
and flushed the outbox. -/
theorem authenticate_ok {auth : String} {data : Option Bytes} {d : Client σ ι}
    (h : authenticate w auth c = .ok data d) :
    ∃ sent reply e, send w.transport (loginMessage auth) c = .ok () sent ∧
      awaitReply w w.patience sent = .ok reply e ∧ e.phase = .connected ∧
      flush w.transport e = .ok () d := by
  obtain ⟨_, sent, hsent, hrest⟩ := bind_eq_ok h
  obtain ⟨reply, e, hreply, hconcluded⟩ := bind_eq_ok hrest
  exact ⟨sent, reply, e, hsent, hreply, concludeLogin_ok hconcluded⟩

/-- A login that fails is a negotiation, unless it fails to flush the outbox. -/
theorem authenticate_failed {auth : String} {x : Error} {d : Client σ ι}
    (hphase : c.phase = .awaitAuthentication)
    (h : authenticate w auth c = .error (.failed x) d) :
    Relation.ReflTransGen (Negotiation w) c d ∨
      ∃ e, Relation.ReflTransGen (Negotiation w) c e ∧ e.phase = .connected ∧
        flush w.transport e = .error (.failed x) d := by
  have hsend : Walks (Negotiation w) (send w.transport (loginMessage auth)) c :=
    send_walks fun _ => .applied hphase
  obtain hfailed | ⟨_, sent, hsent, hrest⟩ := bind_eq_error h
  · exact .inl (hsend.to_error hfailed)
  have hto := hsend.to_ok hsent
  have hwait : Walks (Negotiation w) (awaitReply w w.patience) sent := (awaitReply_walks _).heard
  obtain hfailed | ⟨reply, e, hreply, hconcluded⟩ := bind_eq_error hrest
  · exact .inl (hto.trans (hwait.to_error hfailed))
  have hon := hto.trans (hwait.to_ok hreply)
  change concludeLogin w reply e.phase e = _ at hconcluded
  by_cases hin : e.phase = .connected
  · rw [hin] at hconcluded
    obtain hstuck | ⟨_, _, _, hlast⟩ := bind_eq_error hconcluded
    · exact .inr ⟨e, hon, hin, hstuck⟩
    · cases hlast
  · have hend : Walks (Negotiation w) (concludeLogin w reply e.phase) e :=
      (concludeLogin_walks hin).heard
    exact .inl (hon.trans (hend.to_error hconcluded))

theorem authenticate_walks (auth : String) (hphase : c.phase = .awaitAuthentication) :
    Walks (Conversation w) (authenticate w auth) c := by
  rw [authenticate_eq]
  refine Walks.of_bind (send_walks fun _ => .applied hphase) fun _ sent _ => ?_
  refine Walks.of_bind (awaitReply_walks _).conversed fun reply e _ => ?_
  refine Walks.of_get_bind ?_
  by_cases hin : e.phase = .connected
  · rw [hin]
    exact Walks.of_bind flush_walks fun _ _ _ => Walks.of_pure _
  · exact (concludeLogin_walks hin).conversed

theorem login_ok {auth : String} {data : Option Bytes} {d : Client σ ι}
    (h : login w auth c = .ok data d) :
    c.phase = .awaitAuthentication ∧ authenticate w auth c = .ok data d := by
  unfold login at h
  rw [get_bind_apply] at h
  dsimp only at h
  split at h
  · cases h
  · next hphase =>
    refine ⟨Decidable.not_not.mp hphase, ?_⟩
    obtain ⟨result, e, hattempt, hlast⟩ := bind_eq_ok h
    cases result with
    | ok data' =>
      cases hlast
      exact attempt_eq_ok hattempt
    | error x =>
      dsimp only at hlast
      split at hlast
      · obtain ⟨_, _, _, hfailed⟩ := bind_eq_ok hlast
        cases hfailed
      · cases hlast

/-- A login that fails was refused at once, or has tried and then given the connection
up if need be. -/
theorem login_failed {auth : String} {x : Error} {d : Client σ ι}
    (h : login w auth c = .error (.failed x) d) :
    d = c ∨ c.phase = .awaitAuthentication ∧
      ∃ e, authenticate w auth c = .error (.failed x) e ∧
        Relation.ReflTransGen (Negotiation w) e d := by
  unfold login at h
  rw [get_bind_apply] at h
  dsimp only at h
  split at h
  · cases h
    exact .inl rfl
  · next hphase =>
    refine .inr ⟨Decidable.not_not.mp hphase, ?_⟩
    obtain hfailed | ⟨result, e, hattempt, hlast⟩ := bind_eq_error h
    · exact absurd hfailed attempt_ne_failed
    cases result with
    | ok data => cases hlast
    | error y =>
      dsimp only at hlast
      have hafter : Walks (Reception w) (if !isRefusal y then abandon w >>= fun _ => fail y
          else fail y : Session σ ι (Option Bytes)) e := by
        split
        · exact Walks.of_bind abandon_walks fun _ _ _ => Walks.of_fail _
        · exact Walks.of_fail _
      have hwalk := hafter.heard.to_error hlast
      -- Giving the connection up does not fail, so the error is that of the attempt.
      have hsame : y = x := by
        split at hlast
        · obtain habandon | ⟨_, _, _, hfail⟩ := bind_eq_error hlast
          · unfold abandon at habandon
            rw [get_bind_apply] at habandon
            split at habandon <;> cases habandon
          · cases hfail
            rfl
        · cases hlast
          rfl
      rw [hsame] at hattempt
      exact ⟨e, attempt_eq_error hattempt, hwalk⟩

theorem login_walks (auth : String) : Walks (Conversation w) (login w auth) c := by
  refine Walks.of_get_bind ?_
  dsimp only
  split
  · exact Walks.of_fail_bind _
  · next hphase =>
    have hphase := Decidable.not_not.mp hphase
    refine Walks.of_bind (Walks.of_attempt (authenticate_walks auth hphase)) fun result d _ => ?_
    cases result with
    | ok data => exact Walks.of_pure _
    | error e =>
      dsimp only
      split
      · exact Walks.of_bind abandon_walks.conversed fun _ _ _ => Walks.of_fail _
      · exact Walks.of_fail _

theorem process_walks : Walks (Conversation w) (process w) c :=
  Walks.of_bind (drain_walks _).conversed fun _ _ _ => flush_walks

/-- Whether the transport manages to close or not, the connection has ended. -/
theorem close_after : (close w).after c = c.shut w.transport := by
  have hdropped : (close w).after c =
      ((c.use w.transport .closeLink .closed).2.enter .disconnected).discardIncoming := by
    show (((ofOutcome (c.link.call w.transport .closeLink).1 : Session σ ι Unit).after
      ((c.use w.transport .closeLink .closed).2.enter .disconnected).discardIncoming)) = _
    cases (c.link.call w.transport .closeLink).1 <;> rfl
  rw [hdropped, enter_disconnected, shut_eq]
  rfl

theorem close_walks : Walks (Reception w) (close w) c := by
  rw [Walks, close_after, shut_eq]
  exact Relation.ReflTransGen.single .shut

end Session

/-! ## Requests -/

/-- Whether a request begins a new session. -/
def Request.startsSession (request : Request ι) (c : Client σ ι) : Bool :=
  match request with
  | .connect => c.phase = .disconnected
  | _ => false

/-- Where the journal of the session begins that a request belongs to, if that of
the session before it began at `start`. -/
def Request.sessionStart (request : Request ι) (c : Client σ ι) (start : Nat) : Nat :=
  if request.startsSession c then c.journal.length else start

/-- Whether a request does not flush the outbox. -/
def Request.isNegotiation : Request ι → Bool
  | .login _ => false
  | .process => false
  | _ => true

namespace Client

variable {w : Surroundings σ ι} {c : Client σ ι}

/-- The state in which a request begins. -/
def ready (c : Client σ ι) (request : Request ι) : Client σ ι :=
  if request.startsSession c then c.restart else c

/-- What new sessions keep holds where a request begins. -/
theorem ready_keeps {P : Client σ ι → Prop} (hrestart : ∀ c, P c → P c.restart) (hc : P c)
    (request : Request ι) : P (c.ready request) := by
  unfold ready
  split
  · exact hrestart c hc
  · exact hc

theorem execute_negotiation {request : Request ι} (h : request.isNegotiation) :
    Relation.ReflTransGen (Negotiation w) (c.ready request) ((execute w request).after c) := by
  cases request with
  | connect =>
    by_cases hphase : c.phase = .disconnected
    · have hready : c.ready .connect = c.restart := if_pos (decide_eq_true hphase)
      have hsame : execute w .connect c = execute w .connect c.restart :=
        Session.bind_congr_state (Session.connect_of_disconnected hphase) _
      rw [hready, Session.after, hsame]
      have hnew : c.restart.phase ≠ .disconnected := by simp
      exact Session.Walks.of_answer (Session.connect_walks hnew)
    · have hready : c.ready .connect = c := if_neg (by simpa [Request.startsSession] using hphase)
      rw [hready]
      exact Session.Walks.of_answer (Session.connect_walks hphase)
  | login auth => cases h
  | process => cases h
  | close => exact Session.Walks.of_answer Session.close_walks.heard
  | command command =>
    have hacts : Session.Walks (Act w) (execute w (.command command)) c :=
      Session.perform_walks Session.runner_tame command
    exact hacts.acted.heard

/-- Only who connects makes a connection. -/
theorem execute_conversation {request : Request ι} (h : request ≠ .connect) :
    Relation.ReflTransGen (Conversation w) c ((execute w request).after c) := by
  cases request with
  | connect => exact absurd rfl h
  | login auth => exact Session.Walks.of_answer (Session.login_walks auth)
  | process => exact Session.Walks.of_answer Session.process_walks
  | close => exact Session.Walks.of_answer Session.close_walks.conversed
  | command command =>
    have hacts : Session.Walks (Act w) (execute w (.command command)) c :=
      Session.perform_walks Session.runner_tame command
    exact hacts.acted.conversed

/-- However a request ends, it is made of moves, once its session has begun. -/
theorem execute_walks (request : Request ι) :
    Relation.ReflTransGen (Move w) (c.ready request) ((execute w request).after c) := by
  cases request with
  | login | process =>
    exact Relation.ReflTransGen.mono (fun _ _ => Conversation.move) _ _ (execute_conversation nofun)
  | connect | close | command =>
    exact Relation.ReflTransGen.mono (fun _ _ => .negotiated) _ _ (execute_negotiation rfl)

/-- A new client knows its settings and its address, and nothing else. -/
theorem create_ok {uri : String} {config : Config} {state : σ}
    (h : create w uri config state = .ok c) :
    ∃ link, c = { config := config, uri := uri, link := link } := by
  unfold create at h
  split at h
  · cases h
  · split at h
    · cases h
    · cases h
      exact ⟨_, rfl⟩

/-- Requests that were carried out one after the other have led to the client, and
the journal of its present session begins at `start`. -/
inductive Reached (w : Surroundings σ ι) : Nat → Client σ ι → Prop
  | created {uri : String} {config : Config} {state : σ} {c : Client σ ι} :
      create w uri config state = .ok c → Reached w 0 c
  | executed {start : Nat} {c : Client σ ι} (request : Request ι) :
      Reached w start c → (execute w request).returns c = true →
      Reached w (request.sessionStart c start) ((execute w request).after c)

/-- What the requests that return keep, a run of requests keeps. -/
theorem mem_run_invariant {P : Client σ ι → Prop}
    (hrequest : ∀ c (request : Request ι), P c → (execute w request).returns c = true →
      P ((execute w request).after c))
    (hc : P c) {requests : List (Request ι)} {turn : Turn σ ι} (hturn : turn ∈ run w c requests) :
    P turn.after := by
  induction requests generalizing c with
  | nil => cases hturn
  | cons request rest ih =>
    have hnext := hrequest c request hc
    unfold Session.returns Session.after at hnext
    rw [run] at hturn
    cases hrun : execute w request c with
    | ok answer d =>
      simp only [hrun, List.mem_cons, forall_const] at hturn hnext
      obtain rfl | hrest := hturn
      · exact hnext
      · exact ih hnext hrest
    | error stop d =>
      cases stop with
      | failed e =>
        simp only [hrun, List.mem_cons, forall_const] at hturn hnext
        obtain rfl | hrest := hturn
        · exact hnext
        · exact ih hnext hrest
      | exhausted =>
        simp only [hrun] at hturn
        cases hturn

/-- Whatever a run of requests passes through is reached. -/
theorem Reached.of_mem_run {start : Nat} (h : Reached w start c) {requests : List (Request ι)}
    {turn : Turn σ ι} (hturn : turn ∈ run w c requests) :
    ∃ start, Reached w start turn.after :=
  mem_run_invariant (P := fun c => ∃ start, Reached w start c)
    (fun _ request ⟨_, hbefore⟩ hreturns => ⟨_, hbefore.executed request hreturns⟩) ⟨start, h⟩ hturn

/-- Requests that all return, carried out one after the other. -/
def allReturn (w : Surroundings σ ι) (c : Client σ ι) : List (Request ι) → Bool
  | [] => true
  | request :: rest =>
    (execute w request).returns c && allReturn w ((execute w request).after c) rest

theorem Reached.of_allReturn {start : Nat} (h : Reached w start c) {requests : List (Request ι)}
    (hreturn : allReturn w c requests) : ∃ start, Reached w start
      (requests.foldl (fun c request => (execute w request).after c) c) := by
  induction requests generalizing c start with
  | nil => exact ⟨start, h⟩
  | cons request rest ih =>
    obtain ⟨hfirst, hrest⟩ := Bool.and_eq_true_iff.mp hreturn
    exact ih (h.executed request hfirst) hrest

/-- The client as it was made, and as each request of a run left it. -/
def stations (w : Surroundings σ ι) (c : Client σ ι) (requests : List (Request ι)) :
    List (Client σ ι) :=
  c :: (run w c requests).map Turn.after

/-- Where the requests after the first lead is on the way of all of them, if the first
returns. -/
theorem stations_cons {request : Request ι} {rest : List (Request ι)} {d : Client σ ι}
    (hreturns : (execute w request).returns c = true)
    (hd : d ∈ ((execute w request).after c).stations w rest) :
    d ∈ c.stations w (request :: rest) := by
  refine List.mem_cons_of_mem _ ?_
  unfold Session.returns at hreturns
  unfold Session.after at hd
  rw [run]
  cases hrun : execute w request c with
  | ok answer e => simpa [hrun, stations] using hd
  | error stop e =>
    cases stop with
    | failed x => simpa [hrun, stations] using hd
    | exhausted =>
      rw [hrun] at hreturns
      cases hreturns

section Invariant

variable {P : Nat → Client σ ι → Prop}

/-- What new sessions and moves keep, a request keeps. -/
theorem execute_invariant {start : Nat} (request : Request ι)
    (hrestart : ∀ start c, P start c → P c.journal.length c.restart)
    (hmove : ∀ start c d, P start c → Move w c d → P start d) (hc : P start c) :
    P (request.sessionStart c start) ((execute w request).after c) := by
  have hready : P (request.sessionStart c start) (c.ready request) := by
    unfold Request.sessionStart ready
    split
    · exact hrestart start c hc
    · exact hc
  exact Session.Walks.keeps (execute_walks request) (hmove _) hready

/-- What holds of new clients and is kept by new sessions and moves holds of every
client that requests lead to. -/
theorem Reached.invariant {start : Nat}
    (hcreate : ∀ uri config state c, create w uri config state = .ok c → P 0 c)
    (hrestart : ∀ start c, P start c → P c.journal.length c.restart)
    (hmove : ∀ start c d, P start c → Move w c d → P start d) (h : Reached w start c) :
    P start c := by
  induction h with
  | created hmade => exact hcreate _ _ _ _ hmade
  | executed request _ _ ih => exact execute_invariant request hrestart hmove ih

variable {Q : Client σ ι → Prop}

/-- What holds of a client and is kept by new sessions and moves holds wherever requests
leave the client, and wherever one more request gets. -/
theorem stations_invariant (hrestart : ∀ c, Q c → Q c.restart)
    (hmove : ∀ c d, Q c → Move w c d → Q d) (hc : Q c) {requests : List (Request ι)}
    {d : Client σ ι} (hd : d ∈ c.stations w requests) :
    Q d ∧ ∀ request : Request ι, Q ((execute w request).after d) := by
  have hrequest (c : Client σ ι) (request : Request ι) (h : Q c) :
      Q ((execute w request).after c) :=
    Session.Walks.keeps (execute_walks request) hmove (ready_keeps hrestart h request)
  have hd : Q d := by
    obtain rfl | hlater := List.mem_cons.mp hd
    · exact hc
    · obtain ⟨turn, hturn, rfl⟩ := List.mem_map.mp hlater
      exact mem_run_invariant (fun c request h _ => hrequest c request h) hc hturn
  exact ⟨hd, fun request => hrequest d request hd⟩

end Invariant

end Client

end Realtime
