import Realtime.Proofs.Client.Handshake

/-!
# Who speaks, and when

A client says much of its own accord, but of events and presence it speaks only
when it flushes its outbox. Everything else that it does during a request is quiet.
So what a request that returns has told the server of events and presence can be
read off the outbox at the time of the flush.

Results:
1. `Negotiation.kind`, `Negotiation.quietly`: what negotiations are, and that they are
   quiet.
2. `flush_ok`, `flush_failed`: what flushing writes down, and what it leaves in the
   outbox.
3. `execute_ok`, `execute_failed`: a request that returns was quiet, except that it
   may have flushed the outbox.
-/

namespace Realtime

variable {σ ι : Type}

/-! ## What was done -/

/-- The occurrence takes nothing from the outbox, and hands over no message about events
or presence. -/
def Occurrence.IsQuiet (what : Occurrence ι) : Prop :=
  (∀ m, what ≠ .flushed m) ∧ ∀ m outcome, what = .sent m outcome → ¬ m.isTraffic

/-- The occurrence tells neither of a message on its way to the server nor of anything that
a program does. -/
def Occurrence.isStill : Occurrence ι → Bool
  | .restarted | .opened _ _ | .closed _ | .targeted _ | .handled _ | .reported _ => true
  | _ => false

/-- The transport has refused a message. -/
def Occurrence.isRefusal : Occurrence ι → Bool
  | .sent _ (.error _) => true
  | _ => false

theorem Occurrence.isQuiet_of_isStill {what : Occurrence ι} (h : what.isStill) :
    what.IsQuiet := by
  cases what with
  | sent m outcome => cases h
  | flushed m => cases h
  | _ => exact ⟨fun _ => nofun, fun _ _ => nofun⟩

namespace Client

/-- What a client did, without how things stood. -/
def history (c : Client σ ι) : List (Occurrence ι) :=
  c.journal.map Entry.what

theorem history_eq_of_journal {c d : Client σ ι} (h : d.journal = c.journal) :
    d.history = c.history :=
  congrArg (List.map Entry.what) h

theorem history_eq_of_noted {c d : Client σ ι} {what : Occurrence ι}
    (h : d.journal = (c.note what).journal) : d.history = c.history ++ [what] := by
  unfold history
  rw [h, note_journal, List.map_append]
  rfl

/-- What the new entries of a journal tell of. -/
theorem history_of_entries {c d : Client σ ι} {P : Occurrence ι → Prop}
    (h : ∃ entries, d.journal = c.journal ++ entries ∧ ∀ entry ∈ entries, P entry.what) :
    ∃ whats, d.history = c.history ++ whats ∧ ∀ what ∈ whats, P what := by
  obtain ⟨entries, hjournal, hall⟩ := h
  refine ⟨entries.map Entry.what, ?_, fun what hmem => ?_⟩
  · unfold history
    rw [hjournal, List.map_append]
  · obtain ⟨entry, hentry, rfl⟩ := List.mem_map.mp hmem
    exact hall entry hentry

/-- If the transport has refused nothing in the end, it had refused nothing before. -/
theorem unrefused_of_history {c d : Client σ ι} {whats : List (Occurrence ι)}
    (h : d.history = c.history ++ whats) (hunrefused : ∀ what ∈ d.history, what.isRefusal = false) :
    ∀ what ∈ c.history, what.isRefusal = false :=
  fun what hwhat => hunrefused what (h ▸ List.mem_append_left _ hwhat)

theorem note_history (c : Client σ ι) (what : Occurrence ι) :
    (c.note what).history = c.history ++ [what] :=
  history_eq_of_noted rfl

/-- One more entry is one more to be looked at. -/
theorem filterMap_history_note {α : Type} (f : Occurrence ι → Option α) (c : Client σ ι)
    (what : Occurrence ι) :
    (c.note what).history.filterMap f = c.history.filterMap f ++ (f what).toList := by
  rw [note_history, List.filterMap_append]
  cases hwhat : f what <;> simp [hwhat]

/-- An entry that is passed over makes no difference. -/
theorem filterMap_history_of_noted {α : Type} {f : Occurrence ι → Option α} {c d : Client σ ι}
    {what : Occurrence ι} (hwhat : f what = none) (h : d.journal = (c.note what).journal) :
    d.history.filterMap f = c.history.filterMap f := by
  rw [history_eq_of_journal h, filterMap_history_note, hwhat]
  exact List.append_nil _

/-- Between two states, only such entries were written. -/
def Writes (P : Entry ι → Prop) (c d : Client σ ι) : Prop :=
  ∃ entries, d.journal = c.journal ++ entries ∧ ∀ entry ∈ entries, P entry

/-- Between two states, nothing was done but what is quiet. -/
def Quietly (c d : Client σ ι) : Prop :=
  ∃ entries, d.journal = c.journal ++ entries ∧ ∀ entry ∈ entries, entry.what.IsQuiet

variable {w : Surroundings σ ι} {c d e : Client σ ι}

namespace Writes

variable {P : Entry ι → Prop}

theorem of_journal_eq (h : d.journal = c.journal) : Writes P c d :=
  ⟨[], h.trans (List.append_nil _).symm, fun _ hmem => absurd hmem List.not_mem_nil⟩

theorem of_entry {entry : Entry ι} (h : d.journal = c.journal ++ [entry]) (hentry : P entry) :
    Writes P c d := by
  refine ⟨[entry], h, fun other hmem => ?_⟩
  rw [List.mem_singleton.mp hmem]
  exact hentry

theorem of_noted {what : Occurrence ι} (h : d.journal = (c.note what).journal)
    (hwhat : P ⟨c.phase, c.isIdle, what⟩) : Writes P c d :=
  of_entry h hwhat

theorem refl (c : Client σ ι) : Writes P c c :=
  of_journal_eq rfl

theorem trans (hfirst : Writes P c d) (hsecond : Writes P d e) : Writes P c e := by
  obtain ⟨front, hfront, hwritten⟩ := hfirst
  obtain ⟨back, hback, hadded⟩ := hsecond
  refine ⟨front ++ back, by rw [hback, hfront, List.append_assoc], fun entry hmem => ?_⟩
  exact (List.mem_append.mp hmem).elim (hwritten entry) (hadded entry)

/-- What each step of a walk writes, the walk writes. -/
theorem of_walk {R : Client σ ι → Client σ ι → Prop} (h : Relation.ReflTransGen R c d)
    (hstep : ∀ c d, R c d → Writes P c d) : Writes P c d :=
  Session.Walks.keeps h (fun _ _ hbefore hmove => hbefore.trans (hstep _ _ hmove)) (.refl c)

end Writes

namespace Quietly

theorem of_journal_eq (h : d.journal = c.journal) : Quietly c d :=
  Writes.of_journal_eq h

theorem of_noted {what : Occurrence ι} (h : d.journal = (c.note what).journal)
    (hwhat : what.IsQuiet) : Quietly c d :=
  Writes.of_noted h hwhat

theorem refl (c : Client σ ι) : Quietly c c :=
  Writes.refl c

theorem trans (hfirst : Quietly c d) (hsecond : Quietly d e) : Quietly c e :=
  Writes.trans hfirst hsecond

theorem history (h : Quietly c d) :
    ∃ whats, d.history = c.history ++ whats ∧ ∀ what ∈ whats, what.IsQuiet :=
  history_of_entries h

theorem unrefused (h : Quietly c d) (hunrefused : ∀ what ∈ d.history, what.isRefusal = false) :
    ∀ what ∈ c.history, what.isRefusal = false := by
  obtain ⟨whats, hhistory, -⟩ := h.history
  exact unrefused_of_history hhistory hunrefused

end Quietly

theorem Act.quietly (h : Act w c d) : Quietly c d := by
  obtain hsame | ⟨what, hwhat, hjournal⟩ := h.journal
  · exact .of_journal_eq hsame
  · refine .of_noted hjournal ?_
    cases hwhat <;> exact ⟨fun _ => nofun, fun _ _ => nofun⟩

theorem Sending.writes {P : Entry ι → Prop} {m : Message} (h : Sending w.transport c m d)
    (hsent : ∀ outcome, P ⟨c.phase, c.isIdle, .sent m outcome⟩) : Writes P c d := by
  cases h with
  | taken => exact .of_entry (delivered_journal ..) (hsent _)
  | refused => exact .of_entry (undelivered_journal ..) (hsent _)

theorem Sending.quietly {m : Message} (h : Sending w.transport c m d) (hm : ¬ m.isTraffic) :
    Quietly c d :=
  h.writes fun _ => ⟨fun _ => nofun, fun _ _ hsame => by cases hsame; exact hm⟩

/-! ### The kinds of negotiations -/

/-- Nothing was said and nothing asked for, no one was called, and no one is to be told of anything
else than before. The phase is as it was, or what a message of the server has made of it, or the
connection has ended. -/
structure Idles (c d : Client σ ι) : Prop where
  journal : ∃ entries, d.journal = c.journal ++ entries ∧ ∀ entry ∈ entries, entry.what.isStill
  outbox : d.outbox = c.outbox
  events : d.events = c.events
  presence : d.presence = c.presence
  calls : d.calls = c.calls
  phase : d.phase = c.phase ∨ d.phase = .disconnected ∨
    ∃ m, d.phase = c.phase.next .server m ∧ d.phase ≠ .error ∧
      (d.phase = .connected → c.phase = .connected)

/-- What a negotiation may be. -/
inductive Negotiation.Kind (w : Surroundings σ ι) (c d : Client σ ι) : Prop
  | act : Act w c d → Negotiation.Kind w c d
  | idle : Idles c d → Negotiation.Kind w c d
  /-- The server lets the client in. -/
  | admission {m : Message} : c.phase = .authenticating →
      d = replay { c.note (.handled m) with phase := .connected } → Negotiation.Kind w c d
  /-- Something is said that is not about events or presence. -/
  | speech {m : Message} : Sending w.transport c m d → ¬ m.isTraffic →
      (m.header = requestHeader → c.phase = .awaitAuthentication) → Negotiation.Kind w c d

namespace Idles

theorem of_journal_eq (h : d.journal = c.journal) (houtbox : d.outbox = c.outbox)
    (hevents : d.events = c.events) (hpresence : d.presence = c.presence)
    (hcalls : d.calls = c.calls) (hphase : d.phase = c.phase ∨ d.phase = .disconnected) :
    Idles c d where
  journal := ⟨[], h.trans (List.append_nil _).symm, fun _ hmem => absurd hmem List.not_mem_nil⟩
  outbox := houtbox
  events := hevents
  presence := hpresence
  calls := hcalls
  phase := hphase.imp_right .inl

theorem of_noted {what : Occurrence ι} (h : d.journal = (c.note what).journal)
    (hwhat : what.isStill) (houtbox : d.outbox = c.outbox) (hevents : d.events = c.events)
    (hpresence : d.presence = c.presence) (hcalls : d.calls = c.calls)
    (hphase : d.phase = c.phase ∨ d.phase = .disconnected ∨
      ∃ m, d.phase = c.phase.next .server m ∧ d.phase ≠ .error ∧
        (d.phase = .connected → c.phase = .connected)) : Idles c d where
  journal := ⟨_, h, fun entry hmem => by rw [List.mem_singleton.mp hmem]; exact hwhat⟩
  outbox := houtbox
  events := hevents
  presence := hpresence
  calls := hcalls
  phase := hphase

theorem connected (h : Idles c d) (hd : d.phase = .connected) : c.phase = .connected := by
  obtain hsame | hgone | ⟨m, -, -, hstays⟩ := h.phase
  · rw [← hsame, hd]
  · rw [hd] at hgone
    cases hgone
  · exact hstays hd

theorem authenticating (h : Idles c d) (hd : d.phase = .authenticating) :
    c.phase = .authenticating := by
  obtain hsame | hgone | ⟨m, hnext, -, -⟩ := h.phase
  · rw [← hsame, hd]
  · rw [hd] at hgone
    cases hgone
  · exact Phase.next_server_eq_authenticating (hnext.symm.trans hd)

theorem of_connected (h : Idles c d) (hc : c.phase = .connected) :
    d.phase = .connected ∨ d.phase = .disconnected := by
  obtain hsame | hgone | ⟨m, hnext, -, -⟩ := h.phase
  · exact .inl (hsame.trans hc)
  · exact .inr hgone
  · rw [hc, Phase.next_connected] at hnext
    exact .inl hnext

theorem of_disconnected (h : Idles c d) (hc : c.phase = .disconnected) :
    d.phase = .disconnected := by
  obtain hsame | hgone | ⟨m, hnext, hsound, -⟩ := h.phase
  · exact hsame.trans hc
  · exact hgone
  · rw [hc, Phase.next_disconnected] at hnext
    exact absurd hnext hsound

theorem history (h : Idles c d) :
    ∃ whats, d.history = c.history ++ whats ∧ ∀ what ∈ whats, what.isStill :=
  history_of_entries h.journal

theorem quietly (h : Idles c d) : Quietly c d := by
  obtain ⟨entries, hjournal, hstill⟩ := h.journal
  exact ⟨entries, hjournal, fun entry hentry => Occurrence.isQuiet_of_isStill (hstill entry hentry)⟩

end Idles

theorem Reception.kind (h : Reception w c d) : Negotiation.Kind w c d := by
  cases h with
  | acted hact => exact .act hact
  | received _ | parsed _ | taken _ => exact .idle (.of_journal_eq rfl rfl rfl rfl rfl (.inl rfl))
  | @handled m hnext hstays =>
    exact .idle (.of_noted (note_journal ..) rfl rfl rfl rfl rfl
      (.inr (.inr ⟨m, rfl, hnext, hstays⟩)))
  | @admitted m hin hout =>
    exact .admission ((Phase.next_server_eq_connected hin).resolve_left hout) rfl
  | ponged hsent => exact .speech hsent nofun nofun
  | lost _ => exact .idle (.of_journal_eq rfl rfl rfl rfl rfl (.inr rfl))
  | closed _ =>
    exact .idle (.of_noted (closeLink_journal ..) rfl rfl rfl rfl rfl (.inl rfl))
  | shut => exact .idle (.of_noted (closeLink_journal ..) rfl rfl rfl rfl rfl (.inr (.inl rfl)))
  | reported e => exact .idle (.of_noted (note_journal ..) rfl rfl rfl rfl rfl (.inl rfl))

/-- Negotiations are acts, speak of no events or presence, are idle, or let the client in. -/
theorem Negotiation.kind (h : Negotiation w c d) : Negotiation.Kind w c d := by
  cases h with
  | heard hheard => exact hheard.kind
  | opened _ => exact .idle (.of_noted (use_journal ..) rfl rfl rfl rfl rfl (.inl rfl))
  | @redirected uri _ _ =>
    refine .idle ⟨⟨[⟨c.phase, c.isIdle, .closed (c.link.call w.transport .closeLink).1⟩,
      ⟨c.phase, (c.closeLink w.transport).isIdle, .targeted uri⟩], ?_, ?_⟩, rfl, rfl, rfl, rfl,
      .inl rfl⟩
    · rw [retarget_journal, closeLink_journal, List.append_assoc]
      rfl
    · simp [Occurrence.isStill]
  | responded _ _ hsent => exact .speech hsent nofun nofun
  | applied hphase hsent => exact .speech hsent nofun fun _ => hphase

theorem Negotiation.quietly (h : Negotiation w c d) : Quietly c d := by
  cases h.kind with
  | act hact => exact hact.quietly
  | idle hidle => exact hidle.quietly
  | @admission m _ hd =>
    subst hd
    exact .of_noted (note_journal ..) ⟨fun _ => nofun, fun _ _ => nofun⟩
  | speech hsent hm _ => exact hsent.quietly hm

theorem quietly_of_negotiations (h : Relation.ReflTransGen (Negotiation w) c d) :
    Quietly c d :=
  Writes.of_walk h fun _ _ => Negotiation.quietly

theorem quietly_ready (request : Request ι) : Quietly c (c.ready request) := by
  unfold ready
  split
  · exact Writes.of_entry (restart_journal c) ⟨fun _ => nofun, fun _ _ => nofun⟩
  · exact .refl c

/-! ## Flushing -/

/-- What flushing a message that the transport takes writes down. -/
def flushing (m : Message) : List (Occurrence ι) :=
  [.flushed m, .sent m (.ok ())]

/-- Between two states, everything that stood in the outbox was handed over and taken. -/
structure Emptied (c d : Client σ ι) : Prop where
  history : d.history = c.history ++ c.outbox.flatMap flushing
  outbox : d.outbox = []
  events : d.events = c.events
  presence : d.presence = c.presence
  connected : d.phase = .connected → c.phase = .connected

/-- Between two states, a flush got stuck with the error `x` on a message, which it had taken
from the outbox. The messages before it were handed over, and those after it stay. -/
inductive Stuck (x : Error) (c d : Client σ ι) : Prop
  /-- The protocol does not allow the message. -/
  | disallowed {front back : List Message} {m : Message} : c.outbox = front ++ m :: back →
      d.outbox = back →
      d.history = c.history ++ front.flatMap flushing ++ [.flushed m, .reported x] →
      c.phase ≠ .connected → d.phase ≠ .connected → Stuck x c d
  /-- The transport refuses the message. -/
  | refused {front back : List Message} {m : Message} : c.outbox = front ++ m :: back →
      d.outbox = back →
      d.history = c.history ++ front.flatMap flushing ++
        [.flushed m, .sent m (.error x), .reported x] → Stuck x c d

theorem drawn_history (c : Client σ ι) (m : Message) (rest : List Message) :
    (c.drawn m rest).history = c.history ++ [.flushed m] :=
  history_eq_of_noted (drawn_journal ..)

theorem delivered_history (t : Transport σ ι) (c : Client σ ι) (m : Message) :
    (c.delivered t m).history = c.history ++ [.sent m (.ok ())] :=
  history_eq_of_noted (delivered_journal ..)

theorem undelivered_history (t : Transport σ ι) (c : Client σ ι) (m : Message) (x : Error) :
    (c.undelivered t m x).history = c.history ++ [.sent m (.error x)] :=
  history_eq_of_noted (undelivered_journal ..)

end Client

namespace Session

open Client

variable {w : Surroundings σ ι} {c d : Client σ ι}

theorem flushAll_ok {t : Transport σ ι} {ms : List Message} (hms : c.outbox = ms)
    (h : flushAll t ms c = .ok () d) : Emptied c d := by
  induction ms generalizing c with
  | nil =>
    cases h
    refine ⟨?_, hms, rfl, rfl, id⟩
    rw [hms]
    exact (List.append_nil _).symm
  | cons m rest ih =>
    rw [flushAll_cons] at h
    split at h
    · cases h
    · split at h
      · -- The induction goes on from the state in which the transport has taken `m`.
        have hrest : Emptied ((c.drawn m rest).delivered t m) d := ih rfl h
        refine ⟨?_, hrest.outbox, hrest.events, hrest.presence, fun hd =>
          Phase.next_client_eq_connected (hrest.connected hd)⟩
        rw [hrest.history, delivered_history, drawn_history, hms, List.flatMap_cons, flushing]
        simp only [delivered_outbox, drawn_outbox, List.append_assoc, List.cons_append,
          List.nil_append]
      · cases h

/-- What gets stuck on the way has got stuck from the beginning. -/
theorem stuck_of_rest {t : Transport σ ι} {m : Message} {rest : List Message} {x : Error}
    (houtbox : c.outbox = m :: rest) (h : Stuck x ((c.drawn m rest).delivered t m) d) :
    Stuck x c d := by
  have hfront (front back : List Message) (stuck : Message) (hrest : rest = front ++ stuck :: back) :
      c.outbox = (m :: front) ++ stuck :: back := by
    rw [houtbox, hrest, List.cons_append]
  cases h with
  | disallowed hrest hback hhistory hout hend =>
    refine .disallowed (hfront _ _ _ hrest) hback ?_ (fun hin => hout ?_) hend
    · rw [hhistory, delivered_history, drawn_history]
      simp [flushing]
    · rw [delivered_phase, drawn_phase, hin, Phase.next_connected]
  | refused hrest hback hhistory =>
    refine .refused (hfront _ _ _ hrest) hback ?_
    rw [hhistory, delivered_history, drawn_history]
    simp [flushing]

theorem flushAll_failed {t : Transport σ ι} {ms : List Message} {x : Error} (hms : c.outbox = ms)
    (h : flushAll t ms c = .error (.failed x) d) : Stuck x c d := by
  induction ms generalizing c with
  | nil => cases h
  | cons m rest ih =>
    rw [flushAll_cons] at h
    split at h
    · next hnext =>
      have hout : c.phase ≠ .connected := Phase.ne_connected_of_next_eq_error hnext
      cases h
      refine .disallowed (hms.trans (List.nil_append _).symm) rfl ?_ hout hout
      rw [note_history, drawn_history]
      simp
    · split at h
      · exact stuck_of_rest hms (ih rfl h)
      · cases h
        refine .refused (hms.trans (List.nil_append _).symm) rfl ?_
        rw [note_history, undelivered_history, drawn_history]
        simp

/-- If the transport refuses nothing, only a client that is not connected gets stuck. -/
theorem not_connected_of_stuck {x : Error} (h : Stuck x c d)
    (hunrefused : ∀ what ∈ d.history, what.isRefusal = false) :
    c.phase ≠ .connected ∧ d.phase ≠ .connected := by
  cases h with
  | disallowed _ _ _ hout hend => exact ⟨hout, hend⟩
  | @refused front back m _ _ hhistory =>
    have hrefused : Occurrence.sent m (.error x) ∈ d.history := by
      rw [hhistory]
      simp
    cases hunrefused _ hrefused

/-- A flush that succeeds has emptied the outbox. -/
theorem flush_ok (h : flush w.transport c = .ok () d) : Emptied c d :=
  flushAll_ok rfl h

/-- A flush that fails has got stuck. -/
theorem flush_failed {x : Error} (h : flush w.transport c = .error (.failed x) d) :
    Stuck x c d :=
  flushAll_failed rfl h

/-- Processing that succeeds is hearing the server out and flushing the outbox. -/
theorem process_ok (h : process w c = .ok () d) :
    ∃ e, Relation.ReflTransGen (Negotiation w) c e ∧ flush w.transport e = .ok () d := by
  obtain ⟨_, e, hdrain, hflush⟩ := bind_eq_ok h
  exact ⟨e, (drain_walks w.patience).heard.to_ok hdrain, hflush⟩

theorem process_failed {x : Error} (h : process w c = .error (.failed x) d) :
    Relation.ReflTransGen (Negotiation w) c d ∨
      ∃ e, Relation.ReflTransGen (Negotiation w) c e ∧
        flush w.transport e = .error (.failed x) d := by
  obtain hdrain | ⟨_, e, hdrain, hflush⟩ := bind_eq_error h
  · exact .inl ((drain_walks w.patience).heard.to_error hdrain)
  · exact .inr ⟨e, (drain_walks w.patience).heard.to_ok hdrain, hflush⟩

/-- A login that succeeds is being let in and flushing the outbox. -/
theorem login_negotiated {auth : String} {data : Option Bytes} (h : login w auth c = .ok data d) :
    ∃ e, Relation.ReflTransGen (Negotiation w) c e ∧ e.phase = .connected ∧
      flush w.transport e = .ok () d := by
  obtain ⟨hphase, hauthenticated⟩ := login_ok h
  obtain ⟨sent, reply, e, hsent, hreply, hin, hflush⟩ := authenticate_ok hauthenticated
  have hsend : Walks (Negotiation w) (send w.transport (loginMessage auth)) c :=
    send_walks fun _ => .applied hphase
  have hwait : Walks (Negotiation w) (awaitReply w w.patience) sent := (awaitReply_walks _).heard
  exact ⟨e, (hsend.to_ok hsent).trans (hwait.to_ok hreply), hin, hflush⟩

end Session

/-! ## The course of a request -/

namespace Client

open Session

variable {w : Surroundings σ ι} {c d : Client σ ι}

theorem quietly_of_negotiation {request : Request ι} (h : request.isNegotiation) :
    Quietly c ((execute w request).after c) :=
  (quietly_ready request).trans (quietly_of_negotiations (execute_negotiation h))

/-- Logging in and processing that succeed end by flushing the outbox. -/
theorem execute_flushed {request : Request ι} {answer : Answer}
    (hrequest : request.isNegotiation = false) (h : execute w request c = .ok answer d) :
    ∃ e, Relation.ReflTransGen (Negotiation w) c e ∧ flush w.transport e = .ok () d := by
  cases request with
  | login auth =>
    obtain ⟨data, hlogin⟩ := answer_eq_ok h
    obtain ⟨e, hbefore, -, hflush⟩ := login_negotiated hlogin
    exact ⟨e, hbefore, hflush⟩
  | process =>
    obtain ⟨_, hprocess⟩ := answer_eq_ok h
    exact process_ok hprocess
  | connect | close | command => cases hrequest

/-- A request that succeeds is quiet, unless it ends by flushing the outbox. -/
theorem execute_ok {request : Request ι} {answer : Answer}
    (h : execute w request c = .ok answer d) :
    ∃ e, Quietly c e ∧ (d = e ∨ flush w.transport e = .ok () d) := by
  cases hrequest : request.isNegotiation with
  | true => exact ⟨d, after_of_ok h ▸ quietly_of_negotiation hrequest, .inl rfl⟩
  | false =>
    obtain ⟨e, hbefore, hflush⟩ := execute_flushed hrequest h
    exact ⟨e, quietly_of_negotiations hbefore, .inr hflush⟩

/-- A request that fails is quiet, unless it has failed to flush the outbox. -/
theorem execute_failed {request : Request ι} {x : Error}
    (h : execute w request c = .error (.failed x) d) :
    ∃ e, Quietly c e ∧
      (d = e ∨ ∃ f, flush w.transport e = .error (.failed x) f ∧ Quietly f d) := by
  cases request with
  | login auth =>
    obtain rfl | ⟨hphase, e, hauthenticated, hafter⟩ := login_failed (answer_eq_error h)
    · exact ⟨d, .refl d, .inl rfl⟩
    · have hend := quietly_of_negotiations hafter
      obtain hnegotiated | ⟨f, hbefore, -, hflush⟩ := authenticate_failed hphase hauthenticated
      · exact ⟨d, (quietly_of_negotiations hnegotiated).trans hend, .inl rfl⟩
      · exact ⟨f, quietly_of_negotiations hbefore, .inr ⟨e, hflush, hend⟩⟩
  | process =>
    obtain hdrained | ⟨e, hbefore, hflush⟩ := process_failed (answer_eq_error h)
    · exact ⟨d, quietly_of_negotiations hdrained, .inl rfl⟩
    · exact ⟨e, quietly_of_negotiations hbefore, .inr ⟨d, hflush, .refl d⟩⟩
  | connect | close | command =>
    exact ⟨d, after_of_error h ▸ quietly_of_negotiation rfl, .inl rfl⟩

/-- A request that fails and leaves the client connected is a negotiation, if the transport
refused nothing. -/
theorem execute_failed_connected {request : Request ι} {x : Error}
    (h : execute w request c = .error (.failed x) d) (hin : d.phase = .connected)
    (hunrefused : ∀ what ∈ d.history, what.isRefusal = false) :
    Relation.ReflTransGen (Negotiation w) (c.ready request) d := by
  cases request with
  | login auth =>
    obtain rfl | ⟨hphase, e, hauthenticated, hafter⟩ := login_failed (answer_eq_error h)
    · exact .refl
    · obtain hnegotiated | ⟨f, -, hconnected, hflush⟩ := authenticate_failed hphase hauthenticated
      · exact hnegotiated.trans hafter
      · have hstart := (quietly_of_negotiations hafter).unrefused hunrefused
        exact absurd hconnected (not_connected_of_stuck (flush_failed hflush) hstart).1
  | process =>
    obtain hdrained | ⟨e, -, hflush⟩ := process_failed (answer_eq_error h)
    · exact hdrained
    · exact absurd hin (not_connected_of_stuck (flush_failed hflush) hunrefused).2
  | connect | close | command => exact after_of_error h ▸ execute_negotiation rfl

/-- A request that leaves the client connected is a negotiation, after which the outbox may
have been emptied, if the transport refused nothing. -/
theorem execute_connected {request : Request ι} (hreturns : (execute w request).returns c)
    (hin : ((execute w request).after c).phase = .connected)
    (hunrefused : ∀ what ∈ ((execute w request).after c).history, what.isRefusal = false) :
    ∃ e, Relation.ReflTransGen (Negotiation w) (c.ready request) e ∧
      ((execute w request).after c = e ∨ Emptied e ((execute w request).after c)) := by
  cases hrun : execute w request c with
  | ok answer d =>
    rw [after_of_ok hrun]
    cases hnegotiation : request.isNegotiation with
    | true => exact ⟨d, after_of_ok hrun ▸ execute_negotiation hnegotiation, .inl rfl⟩
    | false =>
      have hready : c.ready request = c := by cases request <;> first | rfl | cases hnegotiation
      obtain ⟨e, hbefore, hflush⟩ := execute_flushed hnegotiation hrun
      exact ⟨e, hready.symm ▸ hbefore, .inr (flush_ok hflush)⟩
  | error stop d =>
    cases stop with
    | exhausted =>
      unfold returns at hreturns
      rw [hrun] at hreturns
      cases hreturns
    | failed x =>
      rw [after_of_error hrun] at hin hunrefused ⊢
      exact ⟨d, execute_failed_connected hrun hin hunrefused, .inl rfl⟩

end Client

end Realtime
