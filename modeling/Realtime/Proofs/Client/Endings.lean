import Realtime.Proofs.Client.Hop

/-!
# How a connection fails to come about

Much can go wrong while a client connects: the transport may fail to open, or not take what the
client says, and the server may be silent, or say something wrong, or be gone. Whatever it is, how
the connection is left tells one of four things. It may still be open, with nothing done about what
went wrong; it may be open after the transport has not taken a message; the client may have closed
it; or the client has been told that it is closed.

So whatever goes wrong, a client that fails to connect is disconnected. Unless it has been told that
the connection is closed, it has closed the transport once since it was opened last, and nothing
waits to be handled.

Results:
1. `awaitReply_concludes`: waiting for a reply, and the four ways in which it fails.
2. `handshake_concludes`: the same of several hops.
3. `connect_failed`: how a client is left that fails to connect.
-/

namespace Realtime

variable {σ ι : Type}

/-! ## Errors and where they come from -/

/-- Some call of the transport ends with the error. -/
def Transport.Returns (t : Transport σ ι) (x : Error) : Prop :=
  ∃ uri call s, (t.call uri call s).outcome = .error x

/-- An error that a client comes to of its own accord while a connection is being made. -/
def Error.isOfCourse : Error → Bool
  | .timeout | .frame _ | .transport _ | .suddenDisconnect | .invalidTransition _ _ => true
  | .url _ | .tooManyRedirections _ | .rejected => true
  | _ => false

namespace Occurrence

/-- What a client writes down while its transport is neither opened nor closed nor sent elsewhere:
messages of both sides, and errors. -/
def isTalk : Occurrence ι → Bool
  | .sent _ _ | .handled _ | .reported _ => true
  | _ => false

/-- What a client writes down while it waits for a message. A heartbeat is not what it waits
for. -/
def isWaiting : Occurrence ι → Bool
  | .sent _ _ | .reported _ => true
  | .handled m => m.isPing
  | _ => false

theorem isTalk_of_isWaiting {what : Occurrence ι} (h : what.isWaiting) : what.isTalk := by
  cases what with
  | sent | handled | reported => rfl
  | _ => cases h

end Occurrence

namespace Client

variable {t : Transport σ ι} {w : Surroundings σ ι} {c d e : Client σ ι} {x : Error} {m : Message}

/-- Between two states there was nothing but talk. -/
def Talks (c d : Client σ ι) : Prop :=
  Writes (·.what.isTalk) c d

/-- Between two states the client has only waited. -/
def Waits (c d : Client σ ι) : Prop :=
  Writes (·.what.isWaiting) c d

theorem Waits.talks (h : Waits c d) : Talks c d := by
  obtain ⟨entries, hjournal, hwaiting⟩ := h
  refine ⟨entries, hjournal, fun entry hentry => ?_⟩
  exact Occurrence.isTalk_of_isWaiting (hwaiting entry hentry)

theorem Waits.complaining (faults : List Frame.Fault) (c : Client σ ι) :
    Waits c (c.complaining faults) := by
  induction faults generalizing c with
  | nil => exact Writes.refl c
  | cons fault rest ih => exact Writes.trans (Writes.of_noted rfl rfl) (ih _)

/-! ## Closed, lost, or neither -/

/-- Between two states, the client has closed its transport and has dropped what had come in by
then, and has only reported errors after that. -/
structure Closes (c d : Client σ ι) : Prop where
  history : ∃ outcome told, d.history = c.history ++ .closed outcome :: told ∧
    ∀ what ∈ told, ∃ x, what = .reported x
  phase : d.phase = .disconnected
  pending : d.pending = []
  queue : d.link.channel.queue = []

/-- The client is told that its connection is closed before it is told anything else, and reports
that. -/
structure Loses (c d : Client σ ι) : Prop where
  closed : (c.inbox.next false).1 = some .closed
  state : d = ((c.withInbox (c.inbox.next false).2).enter .disconnected).note
    (.reported .suddenDisconnect)

theorem Closes.of_closeLink (h : c.phase = .disconnected) : Closes c (c.closeLink t) where
  history := ⟨_, [], history_eq_of_noted (closeLink_journal ..), List.forall_mem_nil _⟩
  phase := h
  pending := rfl
  queue := rfl

theorem Closes.of_shut (t : Transport σ ι) (c : Client σ ι) : Closes c (c.shut t) := by
  have hjournal : (c.shut t).journal = (c.closeLink t).journal := enter_journal ..
  rw [closeLink_journal] at hjournal
  refine ⟨⟨_, [], history_eq_of_noted hjournal, List.forall_mem_nil _⟩, enter_phase .., ?_, ?_⟩ <;>
  · rw [shut_eq]
    rfl

/-- What the client reports after it has closed its transport makes no difference. -/
theorem Closes.report (h : Closes c d) (x : Error) : Closes c (d.note (.reported x)) := by
  obtain ⟨outcome, told, hhistory, htold⟩ := h.history
  refine ⟨⟨outcome, told ++ [.reported x], ?_, ?_⟩, h.phase, h.pending, h.queue⟩
  · rw [note_history, hhistory, List.append_assoc, List.cons_append]
  · exact List.forall_mem_append.mpr ⟨htold, List.forall_mem_singleton.mpr ⟨x, rfl⟩⟩

theorem Loses.phase (h : Loses c d) : d.phase = .disconnected := by
  rw [h.state, note_phase, enter_phase]

/-- How a client that waits on an open transport stops without having heard anything. -/
inductive Aftermath (t : Transport σ ι) (c : Client σ ι) : Stop → Client σ ι → Prop
  /-- The server has had nothing but heartbeats for it. -/
  | tired {d : Client σ ι} : Waits c d → Aftermath t c .exhausted d
  /-- What came was wrong, or nothing came, and that is all. -/
  | dismayed {x : Error} {d : Client σ ι} : Waits c d → d.phase ≠ .disconnected → x.isOfCourse →
      Aftermath t c (.failed x) d
  /-- The transport has not taken a message. -/
  | refused {x : Error} {d : Client σ ι} {m : Message} : Waits c d → d.phase ≠ .disconnected →
      (d.link.call t (.send m.encode)).1 = .error x →
      Aftermath t c (.failed x) (d.undelivered t m x)
  | closed {x : Error} {d e : Client σ ι} : Waits c d → Closes d e → x.isOfCourse →
      Aftermath t c (.failed x) e
  | lost {d e : Client σ ι} : Waits c d → Loses d e → Aftermath t c (.failed .suddenDisconnect) e

/-- Having waited before makes no difference to how a client fails. -/
theorem Aftermath.of_waits {stop : Stop} (hbefore : Waits c d) (h : Aftermath t d stop e) :
    Aftermath t c stop e := by
  cases h with
  | tired hwaits => exact .tired (hbefore.trans hwaits)
  | dismayed hwaits hopen hx => exact .dismayed (hbefore.trans hwaits) hopen hx
  | refused hwaits hopen hcall => exact .refused (hbefore.trans hwaits) hopen hcall
  | closed hwaits hcloses hx => exact .closed (hbefore.trans hwaits) hcloses hx
  | lost hwaits hloses => exact .lost (hbefore.trans hwaits) hloses

/-- A client fails with an error of its own, or with one that its transport returns. -/
theorem Aftermath.source (h : Aftermath t c (.failed x) d) : x.isOfCourse ∨ t.Returns x := by
  cases h with
  | dismayed _ _ hx => exact .inl hx
  | refused _ _ hcall => exact .inr ⟨_, _, _, hcall⟩
  | closed _ _ hx => exact .inl hx
  | lost => exact .inl rfl

/-- A client that is not connected hears a message that is no heartbeat, and goes on as the
protocol says, or has closed its connection if it says so. -/
inductive Hears (c : Client σ ι) (m : Message) (d : Client σ ι) : Prop
  | onward {e : Client σ ι} : Waits c e → d.journal = (e.note (.handled m)).journal →
      c.phase.Allows .server m.header d.phase → d.phase ≠ .disconnected → Hears c m d
  | ended {e f : Client σ ι} : Waits c e → f.journal = (e.note (.handled m)).journal →
      c.phase.Allows .server m.header .disconnected → Closes f d → Hears c m d

theorem Hears.of_waits (hbefore : Waits c d) (hphase : d.phase = c.phase) (h : Hears d m e) :
    Hears c m e := by
  cases h with
  | onward hwaits hhandled hallows hopen =>
    exact .onward (hbefore.trans hwaits) hhandled (hphase ▸ hallows) hopen
  | ended hwaits hhandled hallows hcloses =>
    exact .ended (hbefore.trans hwaits) hhandled (hphase ▸ hallows) hcloses

/-- Whoever waits for a challenge hears nothing else. -/
theorem Hears.challenged (h : Hears c m d) (hreply : m.isPing = false)
    (hphase : c.phase = .awaitConnection) : Talks c d ∧ d.phase = .challenging := by
  unfold Message.isPing at hreply
  cases h with
  | onward hwaits hhandled hallows hopen =>
    refine ⟨hwaits.talks.trans (.of_noted hhandled rfl), ?_⟩
    rw [hphase] at hallows
    generalize m.header = header at hreply hallows
    generalize d.phase = q at hallows ⊢
    cases hallows with
    | challenged => rfl
    | pinged => cases hreply
  | ended hwaits hhandled hallows hcloses =>
    rw [hphase] at hallows
    generalize m.header = header at hallows
    cases hallows

/-- Whoever waits for what becomes of an answer is accepted, sent on, or turned away. -/
theorem Hears.answered (h : Hears c m d) (hreply : m.isPing = false)
    (hphase : c.phase = .challengingWait) :
    Talks c d ∧ (d.phase = .awaitAuthentication ∨ d.phase = .awaitConnection) ∨
      ∃ e, Talks c e ∧ Closes e d := by
  unfold Message.isPing at hreply
  cases h with
  | onward hwaits hhandled hallows hopen =>
    refine .inl ⟨hwaits.talks.trans (.of_noted hhandled rfl), ?_⟩
    rw [hphase] at hallows
    generalize m.header = header at hreply hallows
    generalize d.phase = q at hopen hallows ⊢
    cases hallows with
    | accepted => exact .inl rfl
    | redirected => exact .inr rfl
    | rejected => exact absurd rfl hopen
    | pinged => cases hreply
  | ended hwaits hhandled _ hcloses =>
    exact .inr ⟨_, hwaits.talks.trans (.of_noted hhandled rfl), hcloses⟩

end Client

/-! ## Waiting for a reply -/

/-- The answer to a heartbeat is allowed wherever a message of the server is. -/
theorem Phase.next_pong_of_server {p : Phase} {m : Message} (h : p.next .server m ≠ .error) :
    p.next .client (.plain .connection .pong) = p := by
  cases p with
  | error | disconnected => exact absurd rfl h
  | _ => rfl

/-- What is no heartbeat and is said before a client is connected is about the connection or a
login. -/
theorem Phase.Allows.isFormal {p q : Phase} {m : Message} (h : p.Allows .server m.header q)
    (hout : p ≠ .connected) (hreply : m.isPing = false) : m.header.IsFormal := by
  unfold Message.isPing at hreply
  generalize m.header = header at h hreply ⊢
  cases h with
  | pinged => cases hreply
  | exchanged => exact absurd rfl hout
  | challenged | accepted | redirected | rejected => exact .inr ⟨rfl, nofun⟩
  | admitted | lockedOut | misunderstood | refused => exact .inl rfl

namespace Session

open Client

variable {w : Surroundings σ ι} {c d : Client σ ι} {m : Message}

/-- Asking for a message changes only what is still to come. -/
theorem nextMessage_concludes (hopen : c.phase ≠ .disconnected) :
    Ends (fun _ d => Waits c d ∧ d.phase = c.phase) (Aftermath w.transport c)
      (nextMessage w.transport true) c := by
  have hfaults (frame : Bytes) (hfound : (c.inbox.next false).1 = some (.malformed frame)) :
      (Frame.read frame).faults ≠ [] :=
    Inbox.faults_of_mem_items (Inbox.mem_items_of_next (.inl hfound))
  have hlost : (c.inbox.next false).1 = some .closed → Loses c _ := fun hfound => ⟨hfound, rfl⟩
  have htaken : Waits c (c.withInbox (c.inbox.next false).2) := .of_journal_eq rfl
  have hreported (x : Error) :
      Waits c ((c.withInbox (c.inbox.next false).2).note (.reported x)) :=
    htaken.trans (.of_noted rfl rfl)
  unfold Ends
  rw [nextMessage_of_open w.transport true hopen]
  cases hfound : (c.inbox.next false).1 with
  | none =>
    rw [heed, get_bind_apply]
    cases (c.withInbox (c.inbox.next false).2).link.channel.isOpen with
    | true => exact .dismayed (hreported .timeout) hopen rfl
    | false => exact ⟨htaken, rfl⟩
  | some item =>
    cases item with
    | message m => exact ⟨htaken, rfl⟩
    | failed reason => exact .dismayed (hreported (.transport reason)) hopen rfl
    | closed => exact .lost (.refl c) (hlost hfound)
    | malformed frame =>
      obtain ⟨first, others, hfirst⟩ := List.exists_cons_of_ne_nil (hfaults frame hfound)
      rw [heed_malformed w.transport true hfirst]
      exact .closed (Writes.trans htaken (Waits.complaining (first :: others) _)) (.of_shut ..) rfl

/-- Whatever the protocol allows is said, or the transport does not take it. -/
theorem send_concludes (hallowed : c.phase.next .client m ≠ .error) :
    Ends (fun _ d => Waits c d ∧ d.phase = c.phase.next .client m)
      (Aftermath w.transport c) (send w.transport m) c := by
  have hopen : c.phase ≠ .disconnected := fun hgone => hallowed (hgone ▸ rfl)
  unfold Ends
  rw [send_eq, if_neg hallowed]
  cases hcall : (c.link.call w.transport (.send m.encode)).1 with
  | ok _ => exact ⟨.of_noted (delivered_journal ..) rfl, rfl⟩
  | error e => exact .refused (.refl c) hopen hcall

/-- A message that is not allowed has the connection closed. -/
theorem handle_disallowed {good : Unit → Client σ ι → Prop}
    (hnext : c.phase.next .server m = .error) :
    Ends good (Aftermath w.transport c) (handle w m) c := by
  unfold Ends
  rw [handle_of_error hnext]
  exact .closed (.refl c) ((Closes.of_shut w.transport c).report _) rfl

/-- A heartbeat is answered, and that is all. -/
theorem handle_concludes_ping (hping : m.isPing) (hout : c.phase ≠ .connected) :
    Ends (fun _ d => Waits c d ∧ d.phase = c.phase) (Aftermath w.transport c)
      (handle w m) c := by
  by_cases hnext : c.phase.next .server m = .error
  · exact handle_disallowed hnext
  have hpong := Phase.next_pong_of_server hnext
  have hallowed : c.phase.next .client (.plain .connection .pong) ≠ .error := by
    rw [hpong]
    intro herror
    rw [herror] at hnext
    exact hnext rfl
  have hnoted : Waits c (c.note (.handled m)) := .of_noted rfl hping
  unfold Ends
  rw [handle_heartbeat hping hout hnext]
  refine (send_concludes (c := c.note (.handled m)) hallowed).mono (fun _ d hd => ?_)
    fun _ d hd => ?_
  · exact ⟨hnoted.trans hd.1, hd.2.trans hpong⟩
  · exact hd.of_waits hnoted

theorem handle_concludes (hreply : m.isPing = false) (hout : c.phase ≠ .connected) :
    Ends (fun _ d => Hears c m d) (Aftermath w.transport c) (handle w m) c := by
  by_cases hnext : c.phase.next .server m = .error
  · exact handle_disallowed hnext
  have hallows := Phase.allows_of_next rfl hnext
  have hentered : ((c.note (.handled m)).enter (c.phase.next .server m)).journal =
      (c.note (.handled m)).journal :=
    enter_journal ..
  have hphase := enter_phase (c.note (.handled m)) (c.phase.next .server m)
  by_cases hgone : c.phase.next .server m = .disconnected
  · have hended : handle w m c = .ok () (((c.note (.handled m)).enter
        (c.phase.next .server m)).closeLink w.transport) := by
      rw [handle_eq hnext, if_pos hgone]
      rfl
    refine Ends.of_ok hended (.ended (.refl c) hentered (hgone ▸ hallows) ?_)
    exact .of_closeLink (hphase.trans hgone)
  · exact Ends.of_ok (handle_formal (hallows.isFormal hout hreply) hnext hgone)
      (.onward (.refl c) hentered (hphase.symm ▸ hallows) (hphase.symm ▸ hgone))

/-- However many heartbeats come first, a client that is not connected hears a message, or
fails. -/
theorem awaitReply_concludes (rounds : Nat) (hout : c.phase ≠ .connected)
    (hopen : c.phase ≠ .disconnected) :
    Ends (fun reply d => reply.isPing = false ∧ Hears c reply d)
      (Aftermath w.transport c) (awaitReply w rounds) c := by
  induction rounds generalizing c with
  | zero => exact .tired (.refl c)
  | succ rounds ih =>
    refine (nextMessage_concludes hopen).of_bind (fun found d hd => ?_) fun _ _ => id
    obtain ⟨hasked, hsame⟩ := hd
    cases found with
    | none => exact .dismayed hasked (hsame ▸ hopen) rfl
    | some m =>
      cases hping : m.isPing with
      | true =>
        -- The message is heard by a client that has answered, and has not moved.
        refine (handle_concludes_ping hping (hsame ▸ hout)).of_bind (fun _ e he => ?_)
          fun _ _ => .of_waits hasked
        obtain ⟨hanswered, hstill⟩ := he
        have hstays : e.phase = c.phase := hstill.trans hsame
        rw [if_pos hping]
        refine (ih (hstays ▸ hout) (hstays ▸ hopen)).mono (fun reply f hf => ?_) fun _ f hf => ?_
        · exact ⟨hf.1, hf.2.of_waits (hasked.trans hanswered) hstays⟩
        · exact hf.of_waits (hasked.trans hanswered)
      | false =>
        refine (handle_concludes hping (hsame ▸ hout)).of_bind (fun _ e he => ?_)
          fun _ _ => .of_waits hasked
        rw [if_neg (Bool.eq_false_iff.mp hping)]
        exact ⟨hping, he.of_waits hasked hsame⟩

end Session

/-! ## Several hops -/

namespace Client

variable {t : Transport σ ι} {w : Surroundings σ ι} {c d e : Client σ ι} {x : Error}

/-- Between two states the client has opened its transport, and after the last time there was
nothing but talk. -/
def Dials (c d : Client σ ι) : Prop :=
  ∃ before uri outcome since, c.history <+: before ∧
    d.history = before ++ .opened uri outcome :: since ∧ ∀ what ∈ since, what.isTalk

theorem Dials.of_opened {uri : Option String} {outcome : Except Error Unit}
    (h : d.history = c.history ++ [.opened uri outcome]) : Dials c d :=
  ⟨c.history, uri, outcome, [], List.prefix_refl _, h, List.forall_mem_nil _⟩

theorem Dials.talks (h : Dials c d) (htalks : Talks d e) : Dials c e := by
  obtain ⟨before, uri, outcome, since, hgrows, hhistory, hsince⟩ := h
  obtain ⟨more, hmore, htalk⟩ := history_of_entries (P := (·.isTalk)) htalks
  refine ⟨before, uri, outcome, since ++ more, hgrows, ?_,
    List.forall_mem_append.mpr ⟨hsince, htalk⟩⟩
  rw [hmore, hhistory, List.append_assoc, List.cons_append]

theorem Dials.of_earlier (hgrows : c.history <+: d.history) (h : Dials d e) : Dials c e := by
  obtain ⟨before, uri, outcome, since, hbefore, hrest⟩ := h
  exact ⟨before, uri, outcome, since, hgrows.trans hbefore, hrest⟩

theorem Dials.grows (h : Dials c d) : c.history <+: d.history := by
  obtain ⟨before, uri, outcome, since, hgrows, hhistory, -⟩ := h
  exact hgrows.trans ⟨_, hhistory.symm⟩

/-- How a handshake fails: the transport cannot be opened, or something is wrong after it was
opened. -/
inductive Miscarries (t : Transport σ ι) (c : Client σ ι) : Stop → Client σ ι → Prop
  | unopened {x : Error} {d : Client σ ι} : Dials c d → d.phase ≠ .disconnected → t.Returns x →
      Miscarries t c (.failed x) d
  | opened {stop : Stop} {d e : Client σ ι} : Dials c d → Aftermath t d stop e →
      Miscarries t c stop e

theorem Miscarries.of_earlier {stop : Stop} (hgrows : c.history <+: d.history)
    (h : Miscarries t d stop e) : Miscarries t c stop e := by
  cases h with
  | unopened hdials hopen hx => exact .unopened (hdials.of_earlier hgrows) hopen hx
  | opened hdials hrest => exact .opened (hdials.of_earlier hgrows) hrest

theorem history_redirected (t : Transport σ ι) (uri : String) (c : Client σ ι) :
    c.history <+: ((c.closeLink t).retarget uri).history := by
  rw [history_eq_of_noted (retarget_journal ..), history_eq_of_noted (closeLink_journal ..),
    List.append_assoc]
  exact List.prefix_append _ _

theorem Miscarries.source (h : Miscarries t c (.failed x) d) : x.isOfCourse ∨ t.Returns x := by
  cases h with
  | unopened _ _ hx => exact .inr hx
  | opened _ hrest => exact hrest.source

end Client

namespace Session

open Client

variable {w : Surroundings σ ι} {c d e : Client σ ι}

theorem openAndAwaitChallenge_concludes (hphase : c.phase = .awaitConnection) :
    Ends (fun _ d => Dials c d ∧ d.phase = .challenging) (Miscarries w.transport c)
      (openAndAwaitChallenge w) c := by
  have hopened : Dials c (c.use w.transport .openLink (.opened c.link.uri)).2 :=
    .of_opened (history_eq_of_noted (use_journal ..))
  have hopen : c.phase ≠ .disconnected := hphase ▸ nofun
  show Ends _ _ (ofOutcome (c.link.call w.transport .openLink).1 >>= fun _ =>
      awaitReply w w.patience >>= fun _ => get >>= fun e : Client σ ι =>
        if e.phase ≠ .challenging then giveUp w .connect else pure () : Session σ ι Unit)
      (c.use w.transport .openLink (.opened c.link.uri)).2
  cases hcall : (c.link.call w.transport .openLink).1 with
  | error x => exact .unopened hopened hopen ⟨_, _, _, hcall⟩
  | ok _ =>
    have hwaited := awaitReply_concludes (w := w)
      (c := (c.use w.transport .openLink (.opened c.link.uri)).2) w.patience (hphase ▸ nofun) hopen
    refine hwaited.of_bind (fun reply d hd => ?_) fun _ _ => .opened hopened
    obtain ⟨hreply, hheard⟩ := hd
    obtain ⟨htalks, hchallenging⟩ := hheard.challenged hreply hphase
    refine Ends.of_ok (a := ()) ?_ ⟨hopened.talks htalks, hchallenging⟩
    rw [get_bind_apply, if_neg fun hnot => hnot hchallenging]
    rfl

/-- A hop opens the transport and answers a challenge, and then a reply is heard; or it fails
before that. -/
theorem hop_concludes (hphase : c.phase = .awaitConnection) :
    Ends (fun reply d => reply.isPing = false ∧
        ∃ e, Dials c e ∧ e.phase = .challengingWait ∧ Hears e reply d)
      (Miscarries w.transport c) (hop w) c := by
  refine (openAndAwaitChallenge_concludes hphase).of_bind (fun _ d hd => ?_) fun _ _ => id
  obtain ⟨hdials, hchallenging⟩ := hd
  have hnext : d.phase.next .client (challengeResponse d.uri) = .challengingWait := by
    rw [hchallenging]
    rfl
  show Ends _ _ (send w.transport (challengeResponse d.uri) >>= fun _ =>
    awaitReply w w.patience : Session σ ι Message) d
  refine (send_concludes (by rw [hnext]; exact nofun)).of_bind (fun _ e he => ?_)
    fun _ _ => .opened hdials
  obtain ⟨hsaid, hwaiting⟩ := he
  have hresponded : Dials c e := hdials.talks hsaid.talks
  rw [hnext] at hwaiting
  refine (awaitReply_concludes w.patience (hwaiting ▸ nofun) (hwaiting ▸ nofun)).mono
    (fun reply f hf => ?_) fun _ _ => .opened hresponded
  exact ⟨hf.1, e, hresponded, hwaiting, hf.2⟩

/-- What a client does with a reply that ends a hop, if it can go on where it is sent. -/
theorem concludeHop_concludes {hops : Nat} {reply : Message}
    (hgoes : ∀ fewer < hops, ∀ c : Client σ ι, c.phase = .awaitConnection →
      Ends (fun _ d => d.phase = .awaitAuthentication) (Miscarries w.transport c)
        (handshake w fewer) c)
    (hdials : Dials c e) (hwaiting : e.phase = .challengingWait) (hreply : reply.isPing = false)
    (hheard : Hears e reply d) :
    Ends (fun _ d => d.phase = .awaitAuthentication) (Miscarries w.transport c)
      (concludeHop w reply hops d.phase) d := by
  obtain ⟨htalks, hphase | hphase⟩ | ⟨f, htalks, hcloses⟩ := hheard.answered hreply hwaiting
  · rw [hphase]
    exact hphase
  · rw [hphase]
    cases hops with
    | zero =>
      show Miscarries w.transport c _ _
      exact .opened (hdials.talks htalks)
        (.closed (.refl d) ((Closes.of_shut w.transport d).report _) rfl)
    | succ fewer =>
      have hfollowed := followRedirect_eq (w := w) (c := d) reply
      show Ends _ _ (followRedirect w reply >>= fun _ => handshake w fewer) d
      unfold Ends
      cases hcheck : w.checkUri (redirectTarget reply) with
      | error fault =>
        rw [hcheck] at hfollowed
        rw [bind_of_error hfollowed]
        exact .opened (hdials.talks htalks) (.dismayed (.refl d) (hphase ▸ nofun) rfl)
      | ok _ =>
        rw [hcheck] at hfollowed
        rw [bind_of_ok hfollowed]
        -- The next hop opens the transport again, and knows all that was done before.
        have hgrows := (hdials.talks htalks).grows.trans
          (history_redirected w.transport (redirectTarget reply) d)
        have hnext := hgoes fewer fewer.lt_succ_self
          ((d.closeLink w.transport).retarget (redirectTarget reply)) hphase
        exact hnext.mono (fun _ _ => id) fun _ _ => .of_earlier hgrows
  · rw [hcloses.phase]
    show Miscarries w.transport c _ _
    exact .opened (hdials.talks htalks) (.closed (.refl f) (hcloses.report _) rfl)

/-- A handshake ends with a client that may log in, or miscarries on one of its hops. -/
theorem handshake_concludes (hphase : c.phase = .awaitConnection) (hops : Nat) :
    Ends (fun _ d => d.phase = .awaitAuthentication) (Miscarries w.transport c)
      (handshake w hops) c := by
  induction hops using Nat.strongRecOn generalizing c with
  | ind hops ih =>
    rw [handshake_eq]
    refine (hop_concludes hphase).of_bind (fun reply d hd => ?_) fun _ _ => id
    obtain ⟨hreply, e, hdials, hwaiting, hheard⟩ := hd
    exact concludeHop_concludes (fun fewer hfewer _ => ih fewer hfewer) hdials hwaiting hreply
      hheard

end Session

/-! ## Connecting -/

namespace Client

open Session

variable {t : Transport σ ι} {w : Surroundings σ ι} {c d e : Client σ ι} {x : Error}

/-- Whoever abandons a connection that has not ended closes it. -/
theorem Closes.of_abandon (hopen : d.phase ≠ .disconnected) : Closes d ((abandon w).after d) := by
  rw [after_of_ok abandon_eq, if_neg hopen]
  exact .of_shut ..

/-- A connection that has ended cannot be abandoned. -/
theorem after_abandon_of_ended (hgone : d.phase = .disconnected) : (abandon w).after d = d := by
  rw [after_of_ok abandon_eq, if_pos hgone]

theorem Aftermath.abandoned (h : Aftermath w.transport c (.failed x) d) :
    ∃ e, Waits c e ∧ (Closes e ((abandon w).after d) ∨
      x = .suddenDisconnect ∧ Loses e ((abandon w).after d)) := by
  cases h with
  | dismayed hwaits hopen _ => exact ⟨d, hwaits, .inl (.of_abandon hopen)⟩
  | @refused _ e m hwaits hopen _ =>
    have hsent : Waits e (e.undelivered w.transport m x) :=
      .of_noted (undelivered_journal ..) rfl
    exact ⟨_, hwaits.trans hsent, .inl (.of_abandon hopen)⟩
  | closed hwaits hcloses _ =>
    rw [after_abandon_of_ended hcloses.phase]
    exact ⟨_, hwaits, .inl hcloses⟩
  | lost hwaits hloses =>
    rw [after_abandon_of_ended hloses.phase]
    exact ⟨_, hwaits, .inr ⟨rfl, hloses⟩⟩

/-- However a handshake miscarries, the client is left closed, or lost. -/
theorem Miscarries.abandoned (h : Miscarries w.transport c (.failed x) d) :
    ∃ e, Dials c e ∧ (Closes e ((abandon w).after d) ∨
      x = .suddenDisconnect ∧ Loses e ((abandon w).after d)) := by
  cases h with
  | unopened hdials hopen _ => exact ⟨d, hdials, .inl (.of_abandon hopen)⟩
  | opened hdials hrest =>
    obtain ⟨e, hwaits, hend⟩ := hrest.abandoned
    exact ⟨e, hdials.talks hwaits.talks, hend⟩

/-- A client that may start a session does so, and knows what it has done before. -/
theorem startSession_starts (hphase : c.phase = .awaitConnection ∨ c.phase = .disconnected) :
    ∃ d, (startSession : Session σ ι Unit) c = .ok () d ∧ d.phase = .awaitConnection ∧
      c.history <+: d.history := by
  obtain hphase | hphase := hphase
  · exact ⟨c, by rw [startSession_eq, hphase], hphase, List.prefix_refl _⟩
  · refine ⟨c.restart, by rw [startSession_eq, hphase], restart_phase c, ?_⟩
    unfold history
    rw [restart_journal, List.map_append]
    exact List.prefix_append _ _

/-- How connecting ends without a value, if it may begin. -/
theorem connect_miscarries (hphase : c.phase = .awaitConnection ∨ c.phase = .disconnected)
    (h : connect w c = .error (.failed x) d) :
    ∃ e, Miscarries w.transport c (.failed x) e ∧ d = (abandon w).after e := by
  obtain ⟨started, hstarted, hawaits, hgrows⟩ := startSession_starts hphase
  have hends := handshake_concludes (w := w) hawaits (started.config.maxRedirections.toNat - 1)
  rw [connect_eq hstarted] at h
  cases hhand : handshake w (started.config.maxRedirections.toNat - 1) started with
  | ok _ e =>
    rw [hhand] at h
    cases h
  | error stop e =>
    rw [hhand] at h
    cases stop with
    | exhausted => cases h
    | failed y =>
      cases h
      have hmiscarries : Miscarries w.transport started (.failed x) e := hends.error hhand
      exact ⟨e, hmiscarries.of_earlier hgrows, rfl⟩

/-- Whatever the transport and the server do, a client that fails to connect is disconnected.
Since it opened its transport last it has done nothing but talk, and then it has closed its
transport, once, and nothing is left of what came in, whatever closing has led to; or else it has
been told that its connection is closed. -/
theorem connect_failed (hphase : c.phase = .awaitConnection ∨ c.phase = .disconnected)
    (h : connect w c = .error (.failed x) d) :
    d.phase = .disconnected ∧
      ∃ e, Dials c e ∧ (Closes e d ∨ x = .suddenDisconnect ∧ Loses e d) := by
  obtain ⟨e, hmiscarries, rfl⟩ := connect_miscarries hphase h
  obtain ⟨f, hdials, hend⟩ := hmiscarries.abandoned
  exact ⟨abandon_phase, f, hdials, hend⟩

/-! ### A client that gets nowhere -/

/-- A server that sends a client on to another one, which cannot be answered. When the connection
to that is closed, an event comes, and closing fails. -/
def forbidding : List Script.Rule :=
  [ { on := "open", replies := [Script.frame "C|CH+"] },
    { on := "C|CHR|", uses := some 1, replies := [Script.frame "C|RED|ws://other+"] },
    { on := "C|CHR|", failure := some (.send "no route") },
    { on := "close", uri := some "ws://other", replies := [Script.frame "E|EVT|news|S1+"],
      failure := some (.transport "busy") } ]

/-- A new client of that server. -/
def rebuffed : Client Script Script.Stimulus where
  config := .standard
  uri := "ws://server"
  link :=
    { uri := some "ws://server"
      channel := { isOpen := true }
      state := { rules := forbidding } }

/-- The client has closed both connections, and nothing of what came in is left. -/
theorem connect_failed_rebuffed :
    let c := rebuffed
    let d := (connect hospitable).after c
    (c.phase = .awaitConnection ∨ c.phase = .disconnected) ∧
      connect hospitable c = .error (.failed (.send "no route")) d ∧
      (d.phase = .disconnected ∧ ∃ e, Dials c e ∧
        (Closes e d ∨ Error.send "no route" = .suddenDisconnect ∧ Loses e d)) ∧
      stages d.history =
        [.opened (some "ws://server"), .said (challengeResponse "ws://server"),
          .redirected (.plain .connection .redirect [Utf8.encode "ws://other"]), .closed,
          .opened (some "ws://other"), .said (challengeResponse "ws://other"), .closed] ∧
      d.isIdle = true := by
  intro c d
  have hphase : c.phase = .awaitConnection ∨ c.phase = .disconnected := .inl rfl
  have hfailed : connect hospitable c = .error (.failed (.send "no route")) d :=
    eq_failed_of_failure? (by decide +kernel)
  exact ⟨hphase, hfailed, connect_failed hphase hfailed, by decide +kernel, by decide +kernel⟩

end Client

end Realtime
