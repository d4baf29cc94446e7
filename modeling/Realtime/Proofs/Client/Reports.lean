import Realtime.Proofs.Client.Flushing
import Realtime.Proofs.Client.Hearing

/-!
# What the error handler is told

A client has two ways to say that something went wrong: a request fails, and the error
handler is told. This module shows that the two agree. A request that succeeds has told
the error handler nothing. One that fails has told it nothing either, or its own error, once;
only of a malformed frame it has told everything that is wrong with it, of which its error is
the first. That frame is the one that the request came upon: what it did before succeeded, and
what it did then is where it ended.

That can be said of each step that a request is made of: a step that succeeds has told
nothing, so that what a sequence has told is what its last step has told. Cleaning up after a
failure tells nothing, and after a malformed frame there is nothing to clean up.

Results:
1. `Truthful.of_bind`, `Truthful.of_headway`, `Truthful.of_attempt`: a step is truthful if its parts
   are.
2. `awaitReply_truthful`, `flushAll_truthful`, `handshake_truthful`: the loops are.
3. `reports_match`: a request is.
-/

namespace Realtime

variable {σ ι : Type}

/-- The error that was reported, if one was. -/
def Occurrence.reported? : Occurrence ι → Option Error
  | .reported e => some e
  | _ => none

namespace Client

/-- The errors that the error handler of a client was told of. -/
def reports (c : Client σ ι) : List Error :=
  c.history.filterMap Occurrence.reported?

/-- What a request makes a client do, with success, before it looks for a message of the server. -/
inductive Headway (w : Surroundings σ ι) (c d : Client σ ι) : Prop
  | started : Session.startSession c = .ok () d → Headway w c d
  | opened : c.use w.transport .openLink (.opened c.link.uri) = (.ok (), d) → Headway w c d
  | sent {m : Message} : Session.send w.transport m c = .ok () d → Headway w c d
  | found {wait : Bool} {m : Message} :
      Session.nextMessage w.transport wait c = .ok (some m) d → Headway w c d
  | handled {m : Message} : Session.handle w m c = .ok () d → Headway w c d
  | redirected {reply : Message} : Session.followRedirect w reply c = .ok () d → Headway w c d

/-- From one state to another, a client received this frame, which is malformed: after some headway
it looks for a message and comes upon the frame, and that is where it ends. -/
def Receives (w : Surroundings σ ι) (c d : Client σ ι) (frame : Bytes) : Prop :=
  ∃ e wait x, Relation.ReflTransGen (Headway w) c e ∧
    (e.inbox.next (e.phase = .disconnected)).1 = some (.malformed frame) ∧
    Session.nextMessage w.transport wait e = .error (.failed x) d

/-- What the error handler may be told of when a step fails with an error: nothing, or that
error, or all that is wrong with a frame, of which the error is the first. -/
inductive Reporting (P : Bytes → Prop) : Error → List Error → Prop
  | nothing (x : Error) : Reporting P x []
  | itself (x : Error) : Reporting P x [x]
  | faults {frame : Bytes} {first : Frame.Fault} {others : List Frame.Fault} : P frame →
      (Frame.read frame).faults = first :: others →
      Reporting P (.frame first) ((first :: others).map .frame)

theorem Reporting.mono {P Q : Bytes → Prop} {x : Error} {told : List Error}
    (h : Reporting P x told) (hPQ : ∀ frame, P frame → Q frame) : Reporting Q x told := by
  cases h with
  | nothing => exact .nothing x
  | itself => exact .itself x
  | faults hframe hfaults => exact .faults (hPQ _ hframe) hfaults

/-- Between two states, the error handler was told nothing. -/
def Hush (c d : Client σ ι) : Prop :=
  d.reports = c.reports

variable {w : Surroundings σ ι} {c d e : Client σ ι}

theorem reports_note (c : Client σ ι) (what : Occurrence ι) :
    (c.note what).reports = c.reports ++ what.reported?.toList :=
  filterMap_history_note ..

theorem reports_complaining (faults : List Frame.Fault) (c : Client σ ι) :
    (c.complaining faults).reports = c.reports ++ faults.map .frame := by
  induction faults generalizing c with
  | nil => exact (List.append_nil _).symm
  | cons fault rest ih =>
    show ((c.note (.reported (.frame fault))).complaining rest).reports = _
    rw [ih, reports_note, List.append_assoc]
    rfl

namespace Hush

theorem refl (c : Client σ ι) : Hush c c :=
  rfl

theorem trans (hfirst : Hush c d) (hsecond : Hush d e) : Hush c e :=
  Eq.trans hsecond hfirst

theorem of_journal_eq (h : d.journal = c.journal) : Hush c d :=
  congrArg (List.filterMap Occurrence.reported?) (history_eq_of_journal h)

/-- What was written down is no report. -/
theorem of_noted (what : Occurrence ι) (hwhat : what.reported? = none)
    (h : d.journal = (c.note what).journal) : Hush c d :=
  filterMap_history_of_noted hwhat h

theorem use {call : Call} {what : Except Error Unit → Occurrence ι}
    (hwhat : ∀ outcome, (what outcome).reported? = none) :
    Hush c (c.use w.transport call what).2 :=
  of_noted _ (hwhat _) (use_journal ..)

theorem enter (next : Phase) : Hush c (c.enter next) :=
  .of_journal_eq (enter_journal c next)

theorem closeLink : Hush c (c.closeLink w.transport) :=
  of_noted _ rfl (closeLink_journal ..)

theorem shut : Hush c (c.shut w.transport) :=
  closeLink.trans (enter _)

end Hush

theorem Act.hush (h : Act w c d) : Hush c d := by
  cases h with
  | kept hkept => exact .of_journal_eq hkept.clerical.journal
  | emitted _ _ _ | queued _ _ _ | invoked _ | performed _ _ =>
    exact .of_noted _ rfl (note_journal ..)
  | stimulated i => exact .refl _

theorem Sending.hush {m : Message} (h : Sending w.transport c m d) : Hush c d := by
  cases h with
  | taken _ _ => exact .of_noted _ rfl (delivered_journal ..)
  | refused _ _ => exact .of_noted _ rfl (undelivered_journal ..)

namespace Receives

variable {frame : Bytes}

/-- What is received after some headway. -/
theorem after (h : Receives w d e frame) (hheadway : Relation.ReflTransGen (Headway w) c d) :
    Receives w c e frame := by
  obtain ⟨f, wait, x, hlater, hfound, hlooked⟩ := h
  exact ⟨f, wait, x, hheadway.trans hlater, hfound, hlooked⟩

/-- A client that has received a malformed frame has closed its connection. -/
theorem phase (h : Receives w c d frame) : d.phase = .disconnected := by
  obtain ⟨e, wait, x, -, hfound, hlooked⟩ := h
  obtain ⟨first, others, hfaults⟩ := List.exists_cons_of_ne_nil
    (Inbox.faults_of_mem_items (Inbox.mem_items_of_next (.inl hfound)))
  rw [Session.nextMessage_eq, hfound, Session.heed_malformed _ _ hfaults] at hlooked
  cases hlooked
  exact enter_phase ..

end Receives

end Client

namespace Session

open Client

variable {α β : Type} {w : Surroundings σ ι} {c d e : Client σ ι}
  {P : Client σ ι → Client σ ι → Bytes → Prop}

/-! ## Steps that tell the truth -/

/-- What was told since a state goes with the failure. If that is what is wrong with a frame, the
frame is as said, given where the failure was met. -/
def Discloses (P : Client σ ι → Bytes → Prop) (c : Client σ ι) : Stop → Client σ ι → Prop
  | .failed x, d => ∃ told, d.reports = c.reports ++ told ∧ Reporting (P d) x told
  | .exhausted, _ => True

/-- From a state, the error handler is told nothing by the step if it ends with a value, and if it
fails, what goes with its failure. -/
def Tells (P : Client σ ι → Bytes → Prop) (step : Session σ ι α) (c : Client σ ι) : Prop :=
  Ends (fun _ d => Hush c d) (Discloses P c) step c

/-- So it is from every state. Which frames may have been received depends on the state. -/
def Truthful (P : Client σ ι → Client σ ι → Bytes → Prop) (step : Session σ ι α) : Prop :=
  ∀ c, Tells (P c) step c

/-- No frame is received. -/
def never (_ _ : Client σ ι) (_ : Bytes) : Prop :=
  False

/-- The step fails with the error, and tells nothing. If there is no connection, it does nothing
else. -/
def Passes (x : Error) (step : Session σ ι α) : Prop :=
  ∀ c, ∃ d, step c = .error (.failed x) d ∧ Hush c d ∧ (c.phase = .disconnected → d = c)

theorem Discloses.mono {P Q : Client σ ι → Bytes → Prop} {stop : Stop} (h : Discloses P c stop d)
    (hPQ : ∀ frame, P d frame → Q d frame) : Discloses Q c stop d := by
  cases stop with
  | failed x =>
    obtain ⟨told, htold, hfits⟩ := h
    exact ⟨told, htold, hfits.mono hPQ⟩
  | exhausted => exact h

/-- If nothing was told up to a state, what was told since then is all that was told. -/
theorem Discloses.since {P : Client σ ι → Bytes → Prop} {stop : Stop} (h : Discloses P d stop e)
    (hhush : Hush c d) : Discloses P c stop e := by
  cases stop with
  | failed x =>
    unfold Discloses
    rw [← (hhush : d.reports = c.reports)]
    exact h
  | exhausted => exact h

namespace Tells

variable {P Q : Client σ ι → Bytes → Prop} {step : Session σ ι α}

theorem mono (h : Tells P step c) (hPQ : ∀ d frame, P d frame → Q d frame) : Tells Q step c :=
  Ends.mono h (fun _ _ => id) fun _ _ hdiscloses => hdiscloses.mono (hPQ _)

theorem since (h : Tells P step d) (hhush : Hush c d) :
    Ends (fun _ e => Hush c e) (Discloses P c) step d :=
  Ends.mono h (fun _ _ => hhush.trans) fun _ _ hdiscloses => hdiscloses.since hhush

theorem bind {next : α → Session σ ι β} (hstep : Tells P step c)
    (hnext : ∀ a d, step c = .ok a d → Tells P (next a) d) : Tells P (step >>= next) c :=
  (Ends.run hstep).of_bind (fun a d ⟨hrun, hhush⟩ => (hnext a d hrun).since hhush) fun _ _ => id

end Tells

namespace Truthful

variable {step : Session σ ι α}

/-- A step that tells nothing, however it ends. -/
theorem of_hush (h : ∀ c, Hush c (step.after c)) : Truthful P step := by
  intro c
  refine Ends.intro (fun a d hrun => after_of_ok hrun ▸ h c) fun stop d hrun => ?_
  have hhush : Hush c d := after_of_error hrun ▸ h c
  cases stop with
  | failed x => exact ⟨[], Eq.trans hhush (List.append_nil _).symm, .nothing x⟩
  | exhausted => trivial

/-- A step that makes no move but such as tell nothing. -/
theorem of_walks (h : ∀ c, Walks Hush step c) : Truthful P step :=
  of_hush fun c => Walks.keeps (h c) (fun _ _ hbefore hhush => hbefore.trans hhush) (.refl c)

theorem of_pure (a : α) : Truthful P (pure a : Session σ ι α) :=
  of_hush fun c => .refl c

theorem of_fail (x : Error) : Truthful P (fail x : Session σ ι α) :=
  of_hush fun c => .refl c

theorem of_exhausted : Truthful P (throw .exhausted : Session σ ι α) :=
  of_hush fun c => .refl c

theorem of_modify {change : Client σ ι → Client σ ι} (h : ∀ c, Hush c (change c)) :
    Truthful P (modify change : Session σ ι PUnit) :=
  of_hush h

/-- After the first step nothing is received. -/
theorem of_bind {next : α → Session σ ι β} (hstep : Truthful P step)
    (hnext : ∀ a, Truthful never (next a)) : Truthful P (step >>= next) :=
  fun c => (hstep c).bind fun a d _ => (hnext a d).mono fun _ _ => False.elim

/-- The first step leads, with some headway, to where more may be received. -/
theorem of_headway {next : α → Session σ ι β} (hstep : Truthful (Receives w) step)
    (hheadway : ∀ {c a d}, step c = .ok a d → Relation.ReflTransGen (Headway w) c d)
    (hnext : ∀ a, Truthful (Receives w) (next a)) : Truthful (Receives w) (step >>= next) :=
  fun c => (hstep c).bind fun a d hrun =>
    (hnext a d).mono fun _ _ hreceived => hreceived.after (hheadway hrun)

/-- A look at the state. -/
theorem of_get_bind {next : Client σ ι → Session σ ι β} (h : ∀ c, Truthful P (next c)) :
    Truthful P (get >>= next) :=
  fun c => h c c

theorem of_ite {p : Prop} [Decidable p] {yes no : Session σ ι α} (hyes : Truthful P yes)
    (hno : Truthful P no) : Truthful P (if p then yes else no) := by
  split
  · exact hyes
  · exact hno

/-- A step whose failure is caught, and passed on after some cleaning up. -/
theorem of_attempt {next : Except Error α → Session σ ι β} (hstep : Truthful (Receives w) step)
    (hok : ∀ a, Truthful never (next (.ok a))) (hfailed : ∀ x, Passes x (next (.error x))) :
    Truthful (Receives w) (attempt step >>= next) := by
  intro c
  cases hrun : step c with
  | ok a d =>
    have hhush := (hstep c).ok hrun
    rw [Tells, Ends, bind_of_ok (attempt_of_ok hrun)]
    exact ((hok a d).mono fun _ _ => False.elim).since hhush
  | error stop d =>
    have hdiscloses := (hstep c).error hrun
    rw [Tells, Ends]
    cases stop with
    | failed x =>
      obtain ⟨told, htold, hfits⟩ := hdiscloses
      obtain ⟨e, hcleaned, hhush, hstays⟩ := hfailed x d
      rw [bind_of_ok (attempt_of_failed hrun), hcleaned]
      refine ⟨told, Eq.trans hhush htold, hfits.mono fun frame hreceived => ?_⟩
      -- The frame has ended the connection, so there was nothing to clean up.
      rwa [hstays hreceived.phase]
    | exhausted =>
      rw [bind_of_error (attempt_of_exhausted hrun)]
      trivial

end Truthful

/-- Telling the error handler of the error that a step fails with. -/
theorem failReported_truthful (x : Error) : Truthful P (failReported x : Session σ ι α) :=
  fun c => ⟨[x], reports_note c (.reported x), .itself x⟩

/-! ## Steps that receive nothing -/

theorem shut_truthful : Truthful P (shut w.transport) :=
  .of_modify fun _ => .shut

theorem acts_truthful {step : Session σ ι α} (h : ∀ c, Walks (Act w) step c) : Truthful P step :=
  .of_walks fun c => (h c).mono fun _ _ => Act.hush

theorem use_truthful {call : Call} {what : Except Error Unit → Occurrence ι}
    (hwhat : ∀ outcome, (what outcome).reported? = none) :
    Truthful P (use w.transport call what) :=
  .of_hush fun _ => .use hwhat

theorem send_hushes (m : Message) (c : Client σ ι) : Walks Hush (send w.transport m) c :=
  send_walks fun _ => Sending.hush

theorem send_truthful (m : Message) : Truthful P (send w.transport m) :=
  .of_walks (send_hushes m)

theorem ofOutcome_truthful (outcome : Except Error α) :
    Truthful P (ofOutcome outcome : Session σ ι α) := by
  cases outcome with
  | ok a => exact .of_pure a
  | error x => exact .of_fail x

theorem dispatch_truthful (m : Message) : Truthful P (dispatch w m) := by
  unfold dispatch
  split
  · exact .of_ite (send_truthful _) (.of_pure _)
  · exact acts_truthful fun _ => notifyEvent_walks runner_tame m
  · exact acts_truthful fun _ => notifyPresence_walks runner_tame m
  · exact .of_pure _

theorem handle_truthful (m : Message) : Truthful P (handle w m) := by
  refine .of_get_bind fun c => .of_ite ?_ ?_
  · exact .of_bind shut_truthful fun _ => failReported_truthful _
  · refine .of_bind (.of_modify fun d => ?_) fun _ => .of_ite ?_ (dispatch_truthful m)
    · exact (Hush.of_noted (.handled m) rfl rfl).trans (.enter _)
    · exact .of_modify fun _ => .closeLink

theorem giveUp_truthful (operation : Operation) :
    Truthful P (giveUp w operation : Session σ ι α) :=
  .of_get_bind fun _ => .of_bind shut_truthful fun _ => failReported_truthful _

/-- Giving a connection up tells nothing, and the error that led to it is passed on. -/
theorem abandon_passes (x : Error) :
    Passes x (do abandon w; fail x : Session σ ι α) := by
  intro c
  show ∃ d, ((if c.phase ≠ .disconnected then shut w.transport else pure () : Session σ ι Unit) >>=
    fun _ => fail x : Session σ ι α) c = _ ∧ _
  split
  · next hopen => exact ⟨_, rfl, .shut, fun hgone => absurd hgone hopen⟩
  · exact ⟨_, rfl, .refl c, fun _ => rfl⟩

/-- That a message cannot be sent is told once, when the flush fails. -/
theorem flushAll_truthful (ms : List Message) : Truthful P (flushAll w.transport ms) := by
  induction ms generalizing P with
  | nil => exact .of_pure _
  | cons m rest ih =>
    have hdrawn : Truthful P (modify fun c => c.drawn m rest : Session σ ι PUnit) :=
      .of_modify fun c => .of_noted (.flushed m) rfl rfl
    have hsend : Truthful never (attempt (send w.transport m)) :=
      .of_walks fun c => .of_attempt (send_hushes m c)
    refine .of_bind hdrawn fun _ => .of_bind hsend fun outcome => ?_
    cases outcome with
    | ok _ => exact ih
    | error x => exact failReported_truthful x

theorem flush_truthful : Truthful P (flush w.transport) :=
  .of_get_bind fun _ => flushAll_truthful _

theorem startSession_truthful : Truthful P (startSession : Session σ ι Unit) := by
  refine .of_hush fun c => ?_
  unfold after
  rw [startSession_eq]
  cases c.phase with
  | disconnected =>
    rw [restart_eq]
    exact Hush.trans (.of_journal_eq rfl : Hush c c.discardIncoming) (.of_noted .restarted rfl rfl)
  | _ => exact .refl c

theorem followRedirect_truthful (reply : Message) : Truthful P (followRedirect w reply) := by
  unfold followRedirect
  dsimp only
  split
  · exact .of_fail _
  · exact .of_modify fun c => Hush.closeLink.trans (.of_noted _ rfl (retarget_journal ..))

theorem refuseRedirect_truthful : Truthful P (refuseRedirect w) :=
  .of_bind shut_truthful fun _ => .of_get_bind fun _ => failReported_truthful _

theorem close_truthful : Truthful P (close w) := by
  refine .of_bind (use_truthful fun _ => rfl) fun outcome => ?_
  refine .of_bind (.of_modify fun c => ?_) fun _ => ofOutcome_truthful outcome
  exact (Hush.enter _).trans (.of_journal_eq rfl)

/-! ## Looking for a message -/

/-- Apart from a malformed frame, no item makes a client tell more than its error. -/
theorem heed_truthful {wait : Bool} {item : Option Item}
    (h : ∀ frame, item ≠ some (.malformed frame)) : Truthful P (heed w.transport wait item) := by
  cases item with
  | none => exact .of_get_bind fun _ => .of_ite (failReported_truthful _) (.of_pure _)
  | some item =>
    cases item with
    | message m => exact .of_pure _
    | malformed frame => exact absurd rfl (h frame)
    | failed reason => exact failReported_truthful _
    | closed => exact .of_bind (.of_modify fun _ => .enter _) fun _ => failReported_truthful _

/-- All that is wrong with a frame is told, and its first fault is the error. -/
theorem nextMessage_truthful (wait : Bool) :
    Truthful (Receives w) (nextMessage w.transport wait) := by
  intro c
  unfold Tells Ends
  rw [nextMessage_eq]
  by_cases hmalformed :
      ∃ frame, (c.inbox.next (c.phase = .disconnected)).1 = some (.malformed frame)
  · obtain ⟨frame, hfound⟩ := hmalformed
    obtain ⟨first, others, hfaults⟩ := List.exists_cons_of_ne_nil
      (Inbox.faults_of_mem_items (Inbox.mem_items_of_next (.inl hfound)))
    have hlooked := nextMessage_eq w.transport wait c
    rw [hfound, heed_malformed _ _ hfaults] at hlooked
    rw [hfound, heed_malformed _ _ hfaults]
    refine ⟨(first :: others).map .frame, ?_, .faults ⟨c, wait, _, .refl, hfound, hlooked⟩ hfaults⟩
    exact Eq.trans Hush.shut (reports_complaining ..)
  · exact heed_truthful (P := fun _ => Receives w c) (not_exists.mp hmalformed) (c.withInbox _)

/-- A client that finds a message goes on from there. -/
theorem nextMessage_bind_truthful {wait : Bool} {next : Option Message → Session σ ι α}
    (hnone : Truthful never (next none)) (hsome : ∀ m, Truthful (Receives w) (next (some m))) :
    Truthful (Receives w) (nextMessage w.transport wait >>= next) := by
  refine fun c => (nextMessage_truthful wait c).bind fun found d hfound => ?_
  cases found with
  | none => exact (hnone d).mono fun _ _ => False.elim
  | some m => exact (hsome m d).mono fun _ _ hlater => hlater.after (.single (.found hfound))

theorem awaitReply_truthful (rounds : Nat) : Truthful (Receives w) (awaitReply w rounds) := by
  induction rounds with
  | zero => exact .of_exhausted
  | succ rounds ih =>
    refine nextMessage_bind_truthful (.of_fail _) fun m => ?_
    exact .of_headway (handle_truthful m) (fun hhandled => .single (.handled hhandled)) fun _ =>
      .of_ite ih (.of_pure _)

theorem drain_truthful (rounds : Nat) : Truthful (Receives w) (drain w rounds) := by
  induction rounds with
  | zero => exact .of_exhausted
  | succ rounds ih =>
    refine nextMessage_bind_truthful (.of_pure _) fun m => ?_
    exact .of_headway (handle_truthful m) (fun hhandled => .single (.handled hhandled)) fun _ => ih

theorem process_truthful : Truthful (Receives w) (process w) :=
  .of_bind (drain_truthful _) fun _ => flush_truthful

/-! ## Where success leads -/

/-- A call of the transport always ends with its outcome. -/
theorem eq_of_use {t : Transport σ ι} {call : Call} {what : Except Error Unit → Occurrence ι}
    {outcome : Except Error Unit} (h : use t call what c = .ok outcome d) :
    c.use t call what = (outcome, d) := by
  injection h with houtcome hd
  exact Prod.ext houtcome hd

/-- A client that has waited for a reply has heard it, and the heartbeats before it. -/
theorem awaitReply_headway {rounds : Nat} {m : Message} (h : awaitReply w rounds c = .ok m d) :
    Relation.ReflTransGen (Headway w) c d := by
  induction rounds generalizing c with
  | zero => cases h
  | succ rounds ih =>
    obtain ⟨found, between, hfound, hrest⟩ := bind_eq_ok h
    cases found with
    | none => cases hrest
    | some m =>
      obtain ⟨_, heard, hhandled, hrest⟩ := bind_eq_ok hrest
      refine .head (.found hfound) (.head (.handled hhandled) ?_)
      split at hrest
      · exact ih hrest
      · cases hrest
        exact .refl

theorem openAndAwaitChallenge_headway (h : openAndAwaitChallenge w c = .ok () d) :
    Relation.ReflTransGen (Headway w) c d := by
  rw [openAndAwaitChallenge, get_bind_apply] at h
  obtain ⟨outcome, opened, hused, hrest⟩ := bind_eq_ok h
  obtain ⟨_, _, houtcome, hrest⟩ := bind_eq_ok hrest
  obtain ⟨_, replied, hreply, hchecked⟩ := bind_eq_ok hrest
  cases outcome with
  | error x => cases houtcome
  | ok _ =>
    cases houtcome
    refine .head (.opened (eq_of_use hused)) ?_
    rw [get_bind_apply] at hchecked
    split at hchecked
    · exact absurd hchecked giveUp_ne_ok
    · cases hchecked
      exact awaitReply_headway hreply

theorem hop_headway {reply : Message} (h : hop w c = .ok reply d) :
    Relation.ReflTransGen (Headway w) c d := by
  obtain ⟨_, challenged, hchallenged, hrest⟩ := bind_eq_ok h
  rw [get_bind_apply] at hrest
  obtain ⟨_, answered, hsent, hreply⟩ := bind_eq_ok hrest
  refine (openAndAwaitChallenge_headway hchallenged).trans (.head (.sent hsent) ?_)
  exact awaitReply_headway hreply

/-! ## Connecting -/

theorem openAndAwaitChallenge_truthful : Truthful (Receives w) (openAndAwaitChallenge w) := by
  have hrest : Truthful (Receives w) (awaitReply w w.patience >>= fun _ => get >>=
      fun e : Client σ ι => if e.phase ≠ .challenging then giveUp w .connect else pure ()) :=
    .of_bind (awaitReply_truthful _) fun _ => .of_get_bind fun _ =>
      .of_ite (giveUp_truthful _) (.of_pure _)
  intro c
  show Tells _ (use w.transport .openLink (.opened c.link.uri) >>= fun outcome =>
    ofOutcome outcome >>= fun _ => _) c
  refine (use_truthful (fun _ => rfl) c).bind fun outcome d hused => ?_
  cases outcome with
  | error x => exact Truthful.of_fail (P := fun _ => Receives w c) x d
  | ok _ =>
    have hopened : Headway w c d := .opened (eq_of_use hused)
    exact (hrest d).mono fun _ _ hlater => hlater.after (.single hopened)

theorem hop_truthful : Truthful (Receives w) (hop w) := by
  refine .of_headway openAndAwaitChallenge_truthful openAndAwaitChallenge_headway fun _ =>
    .of_get_bind fun c => ?_
  exact .of_headway (send_truthful _) (fun hsent => .single (.sent hsent)) fun _ =>
    awaitReply_truthful _

theorem concludeHop_truthful (reply : Message) {hops : Nat} {phase : Phase}
    (hgoes : ∀ fewer < hops, Truthful (Receives w) (handshake w fewer)) :
    Truthful (Receives w) (concludeHop w reply hops phase) := by
  cases phase with
  | awaitAuthentication => exact .of_pure _
  | awaitConnection =>
    cases hops with
    | zero => exact refuseRedirect_truthful
    | succ fewer =>
      exact .of_headway (followRedirect_truthful reply) (fun hgone => .single (.redirected hgone))
        fun _ => hgoes fewer fewer.lt_succ_self
  | disconnected => exact failReported_truthful _
  | _ => exact giveUp_truthful _

theorem handshake_truthful (hops : Nat) : Truthful (Receives w) (handshake w hops) := by
  induction hops using Nat.strongRecOn with
  | ind hops ih =>
    rw [handshake_eq]
    exact .of_headway hop_truthful hop_headway fun reply => .of_get_bind fun c =>
      concludeHop_truthful reply ih

theorem connect_truthful : Truthful (Receives w) (connect w) := by
  refine .of_headway startSession_truthful (fun hstarted => .single (.started hstarted))
    fun _ => .of_get_bind fun c => ?_
  exact .of_attempt (handshake_truthful _) (fun _ => .of_pure _) fun x => abandon_passes x

/-! ## Logging in -/

theorem authenticate_truthful (auth : String) :
    Truthful (Receives w) (authenticate w auth) := by
  refine .of_headway (send_truthful _) (fun hsent => .single (.sent hsent)) fun _ => ?_
  refine .of_bind (awaitReply_truthful _) fun reply => .of_get_bind fun c => ?_
  show Truthful never (concludeLogin w reply c.phase)
  cases c.phase with
  | connected => exact .of_bind flush_truthful fun _ => .of_pure _
  | awaitAuthentication | disconnected => exact failReported_truthful _
  | _ => exact giveUp_truthful _

theorem login_truthful (auth : String) : Truthful (Receives w) (login w auth) := by
  refine .of_get_bind fun c => ?_
  dsimp only
  split
  · exact .of_hush fun c => .refl c
  · refine .of_attempt (authenticate_truthful auth) (fun _ => .of_pure _) fun x => ?_
    dsimp only
    split
    · exact abandon_passes x
    · exact fun d => ⟨d, rfl, .refl d, fun _ => rfl⟩

end Session

namespace Client

variable {w : Surroundings σ ι} {c : Client σ ι}

theorem execute_truthful (request : Request ι) :
    Session.Truthful (Receives w) (execute w request) := by
  cases request with
  | connect => exact .of_bind Session.connect_truthful fun _ => .of_pure _
  | login auth => exact .of_bind (Session.login_truthful auth) fun _ => .of_pure _
  | process => exact .of_bind Session.process_truthful fun _ => .of_pure _
  | close => exact .of_bind Session.close_truthful fun _ => .of_pure _
  | command command =>
    exact Session.acts_truthful fun _ => Session.perform_walks Session.runner_tame command

/-- Whatever the transport does and whatever state a client is in, the error handler is told what
the results say. A request that succeeds tells it of no error. One that fails tells it of no error
either, or once of its own, or of everything that is wrong with a malformed frame that the client
has come upon by then, of which its error is the first. -/
theorem reports_match (w : Surroundings σ ι) (c : Client σ ι) (request : Request ι) :
    (∀ answer d, execute w request c = .ok answer d → d.reports = c.reports) ∧
      ∀ x d, execute w request c = .error (.failed x) d →
        ∃ told, d.reports = c.reports ++ told ∧ Reporting (Receives w c d) x told := by
  have htruthful := execute_truthful (w := w) request c
  exact ⟨fun _ _ => htruthful.ok, fun _ _ => htruthful.error⟩

/-- Two records of a frame that has come in are no messages. The guest is told of both, and
processing fails with the first of the two errors. -/
theorem reports_match_malformed :
    let c := guestAfter [.connect, .login "auth",
      .command (.stimulate (.deliver [Script.frame "?+C|PI+!+"]))]
    ∃ x d told, execute hospitable .process c = .error (.failed x) d ∧
      d.reports = c.reports ++ told ∧ Reporting (Receives hospitable c d) x told ∧
      told.length = 2 := by
  intro c
  have hreports : c.reports.length = 0 := by decide +kernel
  have htwo : ((execute hospitable .process).after c).reports.length = 2 := by decide +kernel
  obtain ⟨x, hrun⟩ : ∃ x, execute hospitable .process c =
      .error (.failed x) ((execute hospitable .process).after c) :=
    Session.eq_failed_of_returns (by decide +kernel) (by decide +kernel)
  obtain ⟨told, htold, hfits⟩ := (reports_match hospitable c .process).2 _ _ hrun
  refine ⟨x, _, told, hrun, htold, hfits, ?_⟩
  rw [htold, List.length_append, hreports, Nat.zero_add] at htwo
  exact htwo

end Client

end Realtime
