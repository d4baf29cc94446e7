import Realtime.Client.Run

/-!
# What the single steps of a client change

Each step of a client changes few things. This module says what the steps that
cannot fail do to the phase, the journal and the outbox, and gives the outcome
of those that can fail as an equation.

Results:
1. `allows_of_next`: what the protocol allows, as a list, from which
   `next_client_eq_connected` and its like are read off.
2. `send_eq`, `takePending_eq`, `receiveFrame_ok`: the outcomes.
-/

namespace Realtime

/-! ## Phases -/

namespace Phase

/-- What the protocol allows to be said in a phase, and where it leads. -/
inductive Allows : Phase → Party → Header → Phase → Prop
  | pinged (p : Phase) : Allows p .server ⟨.connection, .ping, false⟩ p
  | ponged (p : Phase) : Allows p .client ⟨.connection, .pong, false⟩ p
  | challenged : Allows .awaitConnection .server ⟨.connection, .challenge, false⟩ .challenging
  | responded :
      Allows .challenging .client ⟨.connection, .challengeResponse, false⟩ .challengingWait
  | accepted :
      Allows .challengingWait .server ⟨.connection, .challengeResponse, true⟩ .awaitAuthentication
  | redirected :
      Allows .challengingWait .server ⟨.connection, .redirect, false⟩ .awaitConnection
  | rejected : Allows .challengingWait .server ⟨.connection, .reject, false⟩ .disconnected
  | applied : Allows .awaitAuthentication .client ⟨.auth, .request, false⟩ .authenticating
  | admitted : Allows .authenticating .server ⟨.auth, .request, true⟩ .connected
  | lockedOut :
      Allows .authenticating .server ⟨.auth, .tooManyAuthAttempts, false⟩ .disconnected
  | misunderstood :
      Allows .authenticating .server ⟨.auth, .invalidAuthMessage, false⟩ .disconnected
  | refused : Allows .authenticating .server ⟨.auth, .invalidAuthData, false⟩ .awaitAuthentication
  | exchanged (sender : Party) (h : Header) : Allows .connected sender h .connected

theorem allows_of_step {p q : Phase} {sender : Party} {h : Header}
    (hstep : p.step sender h = q) (hq : q ≠ .error) : Allows p sender h q := by
  subst hstep
  unfold step at hq ⊢
  split
  · exact .challenged
  · exact .responded
  · exact .accepted
  · exact .redirected
  · exact .rejected
  · exact .applied
  · exact .admitted
  · exact .lockedOut
  · exact .misunderstood
  · exact .refused
  · exact .exchanged _ _
  · simp_all

/-- A message that does not lead to an error is one that the protocol allows. -/
theorem allows_of_next {p q : Phase} {sender : Party} {m : Message}
    (hnext : p.next sender m = q) (hq : q ≠ .error) : Allows p sender m.header q := by
  unfold next at hnext
  split at hnext
  · exact absurd hnext.symm hq
  · split at hnext
    · next hbeat =>
      subst hnext
      unfold isHeartbeat at hbeat
      split at hbeat
      · next hheader => exact hheader ▸ .pinged p
      · next hheader => exact hheader ▸ .ponged p
      · cases hbeat
    · exact allows_of_step hnext hq

/-- No message of the client leads to a connection; only an answer of the server
does. -/
theorem next_client_eq_connected {p : Phase} {m : Message}
    (h : p.next .client m = .connected) : p = .connected := by
  have hallows := allows_of_next h nofun
  generalize m.header = header at hallows
  cases hallows <;> rfl

/-- A client logs in by sending its credentials. -/
theorem next_client_eq_authenticating {p : Phase} {m : Message}
    (h : p.next .client m = .authenticating) :
    p = .authenticating ∨ m.header = ⟨.auth, .request, false⟩ := by
  have hallows := allows_of_next h nofun
  generalize m.header = header at hallows ⊢
  cases hallows with
  | ponged => exact .inl rfl
  | applied => exact .inr rfl

/-- The server lets in only who has asked for it. -/
theorem next_server_eq_connected {p : Phase} {m : Message}
    (h : p.next .server m = .connected) : p = .connected ∨ p = .authenticating := by
  have hallows := allows_of_next h nofun
  generalize m.header = header at hallows
  cases hallows with
  | pinged | exchanged => exact .inl rfl
  | admitted => exact .inr rfl

theorem next_server_eq_authenticating {p : Phase} {m : Message}
    (h : p.next .server m = .authenticating) : p = .authenticating := by
  have hallows := allows_of_next h nofun
  generalize m.header = header at hallows
  cases hallows
  rfl

theorem next_disconnected (sender : Party) (m : Message) :
    Phase.disconnected.next sender m = .error :=
  rfl

/-- A client that is connected stays so, whatever is said. -/
theorem next_connected (sender : Party) (m : Message) :
    Phase.connected.next sender m = .connected := by
  unfold next
  split
  · next hterminal => cases hterminal
  · split <;> rfl

/-- Whoever may not say something is not connected. -/
theorem ne_connected_of_next_eq_error {p : Phase} {sender : Party} {m : Message}
    (h : p.next sender m = .error) : p ≠ .connected := by
  intro hin
  rw [hin, next_connected] at h
  cases h

theorem run_append (p : Phase) (front back : List (Party × Message)) :
    p.run (front ++ back) = (p.run front).run back :=
  List.foldl_append

end Phase

/-! ## Steps that cannot fail -/

namespace Client

variable {σ ι : Type} (t : Transport σ ι) (c : Client σ ι)

@[simp] theorem note_journal (what : Occurrence ι) :
    (c.note what).journal = c.journal ++ [⟨c.phase, c.isIdle, what⟩] := rfl

@[simp] theorem use_phase (call : Call) (what : Except Error Unit → Occurrence ι) :
    (c.use t call what).2.phase = c.phase := rfl

@[simp] theorem use_journal (call : Call) (what : Except Error Unit → Occurrence ι) :
    (c.use t call what).2.journal =
      c.journal ++ [⟨c.phase, c.isIdle, what (c.link.call t call).1⟩] := rfl

/-- Only who comes to be connected has something to replay. -/
theorem enter_eq {next : Phase} (h : next = .connected → c.phase = .connected) :
    c.enter next = { c with phase := next } := by
  unfold enter
  split
  · next hsame =>
    rw [← hsame]
  · next hne =>
    split
    · next hnext => exact absurd ((h hnext).trans hnext.symm) hne
    · rfl

theorem enter_connected (h : c.phase ≠ .connected) :
    c.enter .connected = replay { c with phase := .connected } := by
  unfold enter
  rw [if_neg h, if_pos rfl]

theorem enter_disconnected : c.enter .disconnected = { c with phase := .disconnected } :=
  enter_eq c Phase.noConfusion

@[simp] theorem enter_phase (next : Phase) : (c.enter next).phase = next := by
  unfold enter
  split
  · assumption
  · split <;> rfl

@[simp] theorem enter_journal (next : Phase) : (c.enter next).journal = c.journal := by
  unfold enter
  split
  · rfl
  · split <;> rfl

@[simp] theorem closeLink_phase : (c.closeLink t).phase = c.phase := rfl

@[simp] theorem closeLink_journal : (c.closeLink t).journal =
    c.journal ++ [⟨c.phase, c.isIdle, .closed (c.link.call t .closeLink).1⟩] := rfl

theorem shut_eq : c.shut t = { c.closeLink t with phase := .disconnected } :=
  enter_disconnected _

@[simp] theorem retarget_journal (uri : String) : (c.retarget uri).journal =
    c.journal ++ [⟨c.phase, c.isIdle, .targeted uri⟩] := rfl

theorem post_of_connected (h : c.phase = .connected) (m : Message) :
    c.post m = { c with outbox := c.outbox ++ [m] } :=
  if_pos h

theorem post_of_not_connected (h : c.phase ≠ .connected) (m : Message) : c.post m = c :=
  if_neg h

/-! ### Handing a message over -/

/-- The client after the transport has taken a message. -/
def delivered (m : Message) : Client σ ι :=
  { c.note (.sent m (.ok ())) with
    link := (c.link.call t (.send m.encode)).2
    phase := c.phase.next .client m }

/-- The client after the transport has refused a message. -/
def undelivered (m : Message) (e : Error) : Client σ ι :=
  { c.note (.sent m (.error e)) with link := (c.link.call t (.send m.encode)).2 }

/-- The client after a message was taken from the outbox. -/
def drawn (m : Message) (rest : List Message) : Client σ ι :=
  { c.note (.flushed m) with outbox := rest }

@[simp] theorem delivered_phase (m : Message) :
    (c.delivered t m).phase = c.phase.next .client m := rfl

@[simp] theorem delivered_journal (m : Message) :
    (c.delivered t m).journal = c.journal ++ [⟨c.phase, c.isIdle, .sent m (.ok ())⟩] := rfl

@[simp] theorem delivered_outbox (m : Message) : (c.delivered t m).outbox = c.outbox := rfl

@[simp] theorem delivered_uri (m : Message) : (c.delivered t m).uri = c.uri := rfl

@[simp] theorem undelivered_journal (m : Message) (e : Error) :
    (c.undelivered t m e).journal =
      c.journal ++ [⟨c.phase, c.isIdle, .sent m (.error e)⟩] := rfl

@[simp] theorem undelivered_uri (m : Message) (e : Error) :
    (c.undelivered t m e).uri = c.uri := rfl

@[simp] theorem drawn_phase (m : Message) (rest : List Message) :
    (c.drawn m rest).phase = c.phase := rfl

@[simp] theorem drawn_journal (m : Message) (rest : List Message) :
    (c.drawn m rest).journal = c.journal ++ [⟨c.phase, c.isIdle, .flushed m⟩] := rfl

@[simp] theorem drawn_outbox (m : Message) (rest : List Message) :
    (c.drawn m rest).outbox = rest := rfl

@[simp] theorem drawn_events (m : Message) (rest : List Message) :
    (c.drawn m rest).events = c.events := rfl

/-! ### Receiving -/

/-- The client when it has still to receive `rest`. -/
def left (rest : List Event) : Client σ ι :=
  { c with link := { c.link with channel := { c.link.channel with queue := rest } } }

/-- The client with messages still to be handled. -/
def withPending (ms : List Message) : Client σ ι :=
  { c with pending := ms }

/-- The client after it has reported what is wrong with a frame. -/
def complaining (faults : List Frame.Fault) : Client σ ι :=
  faults.foldl (fun c fault => c.note (.reported (.frame fault))) c

@[simp] theorem left_pending (rest : List Event) : (c.left rest).pending = c.pending := rfl

end Client

/-! ## Steps that can fail -/

namespace Session

variable {σ ι α β : Type}

theorem get_bind_apply (next : Client σ ι → Session σ ι β) (c : Client σ ι) :
    (get >>= next) c = next c c := rfl

/-- A sequence ends with a value only if its first part does. -/
theorem bind_eq_ok {step : Session σ ι α} {next : α → Session σ ι β} {b : β}
    {c e : Client σ ι} (h : (step >>= next) c = .ok b e) :
    ∃ a d, step c = .ok a d ∧ next a d = .ok b e := by
  change EStateM.bind step next c = .ok b e at h
  unfold EStateM.bind at h
  cases hrun : step c with
  | ok a d => rw [hrun] at h; exact ⟨a, d, rfl, h⟩
  | error stop d => rw [hrun] at h; cases h

/-- A sequence fails where its first part fails, or else where the rest does. -/
theorem bind_eq_error {step : Session σ ι α} {next : α → Session σ ι β} {stop : Stop}
    {c e : Client σ ι} (h : (step >>= next) c = .error stop e) :
    step c = .error stop e ∨ ∃ a d, step c = .ok a d ∧ next a d = .error stop e := by
  change EStateM.bind step next c = .error stop e at h
  unfold EStateM.bind at h
  cases hrun : step c with
  | ok a d => rw [hrun] at h; exact .inr ⟨a, d, rfl, h⟩
  | error stop' d => rw [hrun] at h; cases h; exact .inl rfl

/-- Steps that end alike, each from its own state, do so whatever comes after them. -/
theorem bind_congr_state {step other : Session σ ι α} {c d : Client σ ι} (h : step c = other d)
    (next : α → Session σ ι β) : (step >>= next) c = (other >>= next) d := by
  show EStateM.bind step next c = EStateM.bind other next d
  unfold EStateM.bind
  rw [h]

theorem bind_of_ok {step : Session σ ι α} {next : α → Session σ ι β} {a : α}
    {c d : Client σ ι} (h : step c = .ok a d) : (step >>= next) c = next a d := by
  show EStateM.bind step next c = _
  unfold EStateM.bind
  rw [h]

theorem bind_of_error {step : Session σ ι α} {next : α → Session σ ι β} {stop : Stop}
    {c d : Client σ ι} (h : step c = .error stop d) : (step >>= next) c = .error stop d := by
  show EStateM.bind step next c = _
  unfold EStateM.bind
  rw [h]

/-- What is made of an answer changes neither the state nor whether there is one. -/
theorem answer_eq_ok {step : Session σ ι α} {answer : α → β} {b : β} {c d : Client σ ι}
    (h : (step >>= fun a => pure (answer a) : Session σ ι β) c = .ok b d) :
    ∃ a, step c = .ok a d := by
  obtain ⟨a, e, hrun, hanswer⟩ := bind_eq_ok h
  cases hanswer
  exact ⟨a, hrun⟩

theorem answer_eq_error {step : Session σ ι α} {answer : α → β} {stop : Stop}
    {c d : Client σ ι}
    (h : (step >>= fun a => pure (answer a) : Session σ ι β) c = .error stop d) :
    step c = .error stop d := by
  obtain hrun | ⟨_, _, _, hanswer⟩ := bind_eq_error h
  · exact hrun
  · cases hanswer

theorem attempt_of_ok {step : Session σ ι α} {a : α} {c d : Client σ ι}
    (h : step c = .ok a d) : attempt step c = .ok (.ok a) d := by
  unfold attempt
  rw [h]

theorem attempt_of_failed {step : Session σ ι α} {e : Error} {c d : Client σ ι}
    (h : step c = .error (.failed e) d) : attempt step c = .ok (.error e) d := by
  unfold attempt
  rw [h]

theorem attempt_of_exhausted {step : Session σ ι α} {c d : Client σ ι}
    (h : step c = .error .exhausted d) : attempt step c = .error .exhausted d := by
  unfold attempt
  rw [h]

theorem attempt_eq_ok {step : Session σ ι α} {a : α} {c d : Client σ ι}
    (h : attempt step c = .ok (.ok a) d) : step c = .ok a d := by
  unfold attempt at h
  cases hrun : step c with
  | ok b e => rw [hrun] at h; cases h; rfl
  | error stop e => rw [hrun] at h; cases stop <;> cases h

theorem attempt_eq_error {step : Session σ ι α} {x : Error} {c d : Client σ ι}
    (h : attempt step c = .ok (.error x) d) : step c = .error (.failed x) d := by
  unfold attempt at h
  cases hrun : step c with
  | ok b e => rw [hrun] at h; cases h
  | error stop e => rw [hrun] at h; cases stop <;> cases h; rfl

/-- An attempt does not fail. -/
theorem attempt_ne_failed {step : Session σ ι α} {x : Error} {c d : Client σ ι} :
    attempt step c ≠ .error (.failed x) d := by
  intro h
  unfold attempt at h
  cases hrun : step c with
  | ok b e => rw [hrun] at h; cases h
  | error stop e => rw [hrun] at h; cases stop <;> cases h

variable (t : Transport σ ι) (c : Client σ ι)

/-- Sending fails if the protocol does not allow the message or the transport
does not take it, and otherwise ends in the next phase. -/
theorem send_eq (m : Message) :
    send t m c =
      if c.phase.next .client m = .error then
        .error (.failed (.invalidTransition c.phase m.header.text)) c
      else
        match (c.link.call t (.send m.encode)).1 with
        | .ok () => .ok () (c.delivered t m)
        | .error e => .error (.failed e) (c.undelivered t m e) := by
  rw [send, get_bind_apply]
  split
  · rfl
  · show ((ofOutcome (c.link.call t (.send m.encode)).1 >>= fun _ =>
      modify (·.enter (c.phase.next .client m)) : Session σ ι Unit)
      (c.use t (.send m.encode) (.sent m)).2) = _
    have hused : (c.use t (.send m.encode) (.sent m)).2 =
        { c.note (.sent m (c.link.call t (.send m.encode)).1) with
          link := (c.link.call t (.send m.encode)).2 } := rfl
    rw [hused]
    cases (c.link.call t (.send m.encode)).1 with
    | ok _ => exact congrArg _ (Client.enter_eq _ Phase.next_client_eq_connected)
    | error e => rfl

/-- Sending what stands in the outbox, one message at a time. What cannot be sent
is reported, and stops it. -/
theorem flushAll_cons (m : Message) (rest : List Message) :
    flushAll t (m :: rest) c =
      if c.phase.next .client m = .error then
        .error (.failed (.invalidTransition c.phase m.header.text))
          ((c.drawn m rest).note (.reported (.invalidTransition c.phase m.header.text)))
      else
        match (c.link.call t (.send m.encode)).1 with
        | .ok () => flushAll t rest ((c.drawn m rest).delivered t m)
        | .error e =>
          .error (.failed e) (((c.drawn m rest).undelivered t m e).note (.reported e)) := by
  have hstep : flushAll t (m :: rest) c =
      ((attempt (send t m) >>= fun outcome =>
        match outcome with
        | .ok () => flushAll t rest
        | .error e => failReported e : Session σ ι Unit)) (c.drawn m rest) := rfl
  have hsend : send t m (c.drawn m rest) = _ := send_eq t (c.drawn m rest) m
  rw [hstep]
  by_cases hnext : c.phase.next .client m = .error
  · rw [if_pos hnext]
    rw [if_pos (show (c.drawn m rest).phase.next .client m = .error from hnext)] at hsend
    rw [bind_of_ok (attempt_of_failed hsend)]
    rfl
  · rw [if_neg hnext]
    rw [if_neg (show ¬ (c.drawn m rest).phase.next .client m = .error from hnext)] at hsend
    change send t m (c.drawn m rest) = (match (c.link.call t (.send m.encode)).1 with
      | .ok () => .ok () ((c.drawn m rest).delivered t m)
      | .error e => .error (.failed e) ((c.drawn m rest).undelivered t m e)) at hsend
    cases hcall : (c.link.call t (.send m.encode)).1 with
    | ok _ =>
      rw [hcall] at hsend
      rw [bind_of_ok (attempt_of_ok hsend)]
    | error e =>
      rw [hcall] at hsend
      rw [bind_of_ok (attempt_of_failed hsend)]
      rfl

theorem takePending_eq :
    takePending c =
      match c.pending with
      | [] => .ok none c
      | m :: rest => .ok (some m) { c with pending := rest } := by
  rw [takePending, get_bind_apply]
  cases c.pending <;> rfl

theorem takePending_none {c d : Client σ ι} (h : takePending c = .ok none d) : d = c := by
  rw [takePending_eq] at h
  split at h <;> cases h
  rfl

theorem receiveFrame_of_faults_nil {frame : Bytes} (h : (Frame.read frame).faults = []) :
    (receiveFrame t frame : Session σ ι Unit) =
      modify fun c => { c with pending := c.pending ++ (Frame.read frame).messages } := by
  rw [receiveFrame]
  simp only [h]

theorem receiveFrame_of_faults_cons {frame : Bytes} {first : Frame.Fault}
    {others : List Frame.Fault} (h : (Frame.read frame).faults = first :: others) :
    (receiveFrame t frame : Session σ ι Unit) = (do
      (first :: others).forM fun fault => report (.frame fault)
      shut t
      fail (.frame first)) := by
  rw [receiveFrame]
  simp only [h]

/-- Only a frame without faults is taken over. -/
theorem receiveFrame_ok {frame : Bytes} {d : Client σ ι}
    (h : receiveFrame t frame c = .ok () d) :
    (Frame.read frame).faults = [] ∧
      d = { c with pending := c.pending ++ (Frame.read frame).messages } := by
  cases hfaults : (Frame.read frame).faults with
  | nil =>
    rw [receiveFrame_of_faults_nil t hfaults] at h
    cases h
    exact ⟨rfl, rfl⟩
  | cons first others =>
    rw [receiveFrame_of_faults_cons t hfaults] at h
    obtain ⟨_, _, _, h⟩ := bind_eq_ok h
    obtain ⟨_, _, _, h⟩ := bind_eq_ok h
    cases h

section Receiving

variable {c}
variable {wait : Bool} {rest : List Event}

theorem receiveFrom_closed : receiveFrom t wait (.closed :: rest) c =
    if c.phase = .disconnected then receiveFrom t wait rest (c.left rest)
    else .error (.failed .suddenDisconnect)
      (((c.left rest).enter .disconnected).note (.reported .suddenDisconnect)) := by
  show (if c.phase = .disconnected then receiveFrom t wait rest else _ :
    Session σ ι (Option Message)) (c.left rest) = _
  split <;> rfl

/-- A frame without faults and without messages is skipped. -/
theorem receiveFrom_empty {frame : Bytes} (hpending : c.pending = [])
    (h : Frame.read frame = ⟨[], []⟩) :
    receiveFrom t wait (.frame frame :: rest) c = receiveFrom t wait rest (c.left rest) := by
  have hreceived : receiveFrame t frame (c.left rest) = .ok () (c.left rest) := by
    rw [receiveFrame_of_faults_nil t (congrArg Frame.Reading.faults h), h]
    show EStateM.Result.ok () ((c.left rest).withPending (c.pending ++ [])) = _
    rw [List.append_nil]
    rfl
  have htaken : takePending (c.left rest) = .ok none (c.left rest) := by
    rw [takePending_eq, Client.left_pending, hpending]
  show (receiveFrame t frame >>= _ : Session σ ι (Option Message)) (c.left rest) = _
  exact (bind_of_ok hreceived).trans (bind_of_ok htaken)

/-- The first message of a frame without faults is found. -/
theorem receiveFrom_frame {frame : Bytes} {m : Message} {later : List Message}
    (hpending : c.pending = []) (h : Frame.read frame = ⟨m :: later, []⟩) :
    receiveFrom t wait (.frame frame :: rest) c =
      .ok (some m) ((c.left rest).withPending later) := by
  have hreceived : receiveFrame t frame (c.left rest) =
      .ok () ((c.left rest).withPending (m :: later)) := by
    rw [receiveFrame_of_faults_nil t (congrArg Frame.Reading.faults h), h]
    show EStateM.Result.ok () ((c.left rest).withPending (c.pending ++ m :: later)) = _
    rw [hpending]
    rfl
  have htaken : takePending ((c.left rest).withPending (m :: later)) =
      .ok (some m) ((c.left rest).withPending later) := rfl
  show (receiveFrame t frame >>= _ : Session σ ι (Option Message)) (c.left rest) = _
  exact (bind_of_ok hreceived).trans (bind_of_ok htaken)

theorem forM_report (faults : List Frame.Fault) :
    (faults.forM fun fault => report (.frame fault) : Session σ ι PUnit) c =
      .ok ⟨⟩ (c.complaining faults) := by
  induction faults generalizing c with
  | nil => rfl
  | cons fault rest ih => exact ih

/-- A frame with faults ends the connection. -/
theorem receiveFrom_malformed {frame : Bytes} {first : Frame.Fault} {others : List Frame.Fault}
    (h : (Frame.read frame).faults = first :: others) :
    receiveFrom t wait (.frame frame :: rest) c =
      .error (.failed (.frame first)) (((c.left rest).complaining (first :: others)).shut t) := by
  have hframe : receiveFrame t frame (c.left rest) =
      .error (.failed (.frame first)) (((c.left rest).complaining (first :: others)).shut t) := by
    rw [receiveFrame_of_faults_cons t h]
    exact bind_of_ok (forM_report _)
  show (receiveFrame t frame >>= _ : Session σ ι (Option Message)) (c.left rest) = _
  exact bind_of_error hframe

end Receiving

end Session

end Realtime
