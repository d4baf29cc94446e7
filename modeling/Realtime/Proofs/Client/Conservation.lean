import Realtime.Proofs.Client.Flushing

/-!
# Emitted events are conserved

An event that a program emits may travel through two queues, one for the time
without a connection and one for what is to be sent next, and both outlive the
connection. This module keeps the account. What was accepted is what was taken
from the outbox, then what stands in the outbox, then what waits for a connection,
in this order, because nothing waits for a connection that there is.

What was taken from the outbox was handed to the transport once and accepted, with
one exception for each flush that fails: the message on which it got stuck.

Results:
1. `Move.conserved`: every move keeps the account.
2. `perform_emits`: what the account counts as accepted are the calls that succeed.
3. `emits_conserved`: the account of every client that requests lead to.
-/

namespace Realtime

variable {σ ι : Type}

/-- An event that a program emits. -/
def Message.isEmit (m : Message) : Bool :=
  m.header = ⟨.event, .event, false⟩

theorem Message.isTraffic_of_isEmit {m : Message} (h : m.isEmit) : m.isTraffic := by
  have hheader : m.header = ⟨.event, .event, false⟩ := of_decide_eq_true h
  unfold Message.isTraffic
  rw [hheader]
  rfl

theorem isEmit_emitMessage (name : String) (data : Bytes) :
    (Session.emitMessage name data).isEmit :=
  rfl

/-- Nothing that a client announces is an emitted event. -/
theorem Announcement.not_isEmit {m : Message} (h : Announcement m) : ¬ m.isEmit := by
  cases h <;> exact nofun

/-! ## The account -/

namespace Occurrence

/-- The event that was accepted. -/
def accepted? : Occurrence ι → Option Message
  | .emitted m => some m
  | _ => none

/-- The event that was taken from the outbox. -/
def taken? : Occurrence ι → Option Message
  | .flushed m => if m.isEmit then some m else none
  | _ => none

/-- The event that was handed to the transport, and how that ended. -/
def handed? : Occurrence ι → Option (Message × Except Error Unit)
  | .sent m outcome => if m.isEmit then some (m, outcome) else none
  | _ => none

theorem accepted?_of_isStill {what : Occurrence ι} (h : what.isStill) :
    what.accepted? = none := by
  cases what with
  | emitted m => cases h
  | _ => rfl

theorem IsQuiet.taken? {what : Occurrence ι} (h : what.IsQuiet) : what.taken? = none := by
  cases what with
  | flushed m => exact absurd rfl (h.1 m)
  | _ => rfl

theorem IsQuiet.handed? {what : Occurrence ι} (h : what.IsQuiet) : what.handed? = none := by
  cases what with
  | sent m outcome => exact if_neg fun hm => h.2 m outcome rfl (Message.isTraffic_of_isEmit hm)
  | _ => rfl

end Occurrence

namespace Client

/-- The events that were accepted for sending. -/
def accepted (whats : List (Occurrence ι)) : List Message :=
  whats.filterMap Occurrence.accepted?

/-- The events that were taken from the outbox. -/
def taken (whats : List (Occurrence ι)) : List Message :=
  whats.filterMap Occurrence.taken?

/-- The events that were handed to the transport, and how that ended. -/
def handed (whats : List (Occurrence ι)) : List (Message × Except Error Unit) :=
  whats.filterMap Occurrence.handed?

theorem accepted_append (front back : List (Occurrence ι)) :
    accepted (front ++ back) = accepted front ++ accepted back :=
  List.filterMap_append

theorem taken_append (front back : List (Occurrence ι)) :
    taken (front ++ back) = taken front ++ taken back :=
  List.filterMap_append

theorem handed_append (front back : List (Occurrence ι)) :
    handed (front ++ back) = handed front ++ handed back :=
  List.filterMap_append

theorem accepted_concat (whats : List (Occurrence ι)) (what : Occurrence ι) :
    accepted (whats ++ [what]) = accepted whats ++ what.accepted?.toList := by
  rw [accepted_append, accepted, accepted, List.filterMap_cons]
  cases what.accepted? <;> rfl

theorem taken_concat (whats : List (Occurrence ι)) (what : Occurrence ι) :
    taken (whats ++ [what]) = taken whats ++ what.taken?.toList := by
  rw [taken_append, taken, taken, List.filterMap_cons]
  cases what.taken? <;> rfl

theorem taken_of_quiet {whats : List (Occurrence ι)} (h : ∀ what ∈ whats, what.IsQuiet) :
    taken whats = [] :=
  List.filterMap_eq_nil_iff.mpr fun what hwhat => (h what hwhat).taken?

theorem handed_of_quiet {whats : List (Occurrence ι)} (h : ∀ what ∈ whats, what.IsQuiet) :
    handed whats = [] :=
  List.filterMap_eq_nil_iff.mpr fun what hwhat => (h what hwhat).handed?

theorem taken_flushing (ms : List Message) :
    taken (ms.flatMap (flushing (ι := ι))) = ms.filter Message.isEmit := by
  induction ms with
  | nil => rfl
  | cons m rest ih =>
    rw [List.flatMap_cons, taken_append, ih]
    by_cases hm : m.isEmit <;> simp [taken, flushing, List.filterMap_cons, Occurrence.taken?, hm]

theorem handed_flushing (ms : List Message) :
    handed (ms.flatMap (flushing (ι := ι))) = (ms.filter Message.isEmit).map (·, .ok ()) := by
  induction ms with
  | nil => rfl
  | cons m rest ih =>
    rw [List.flatMap_cons, handed_append, ih]
    by_cases hm : m.isEmit <;> simp [handed, flushing, List.filterMap_cons, Occurrence.handed?, hm]

/-- The account of a client: every event that was accepted was taken from the outbox, or
stands in it, or waits for a connection, of which none is waited for while there is
one. -/
structure Conserved (c : Client σ ι) : Prop where
  account : accepted c.history =
    taken c.history ++ c.outbox.filter Message.isEmit ++ c.events.sendQueue
  emits : ∀ m ∈ c.events.sendQueue, m.isEmit
  calm : c.phase = .connected → c.events.sendQueue = []

variable {w : Surroundings σ ι} {c d : Client σ ι}

/-! ## Moves -/

namespace Conserved

/-- A move that neither accepts an event nor takes one from the outbox. -/
theorem aside (h : Conserved c)
    (hhistory : ∃ whats, d.history = c.history ++ whats ∧ accepted whats = [] ∧ taken whats = [])
    (houtbox : d.outbox.filter Message.isEmit = c.outbox.filter Message.isEmit)
    (hqueue : d.events.sendQueue = c.events.sendQueue)
    (hphase : d.phase = .connected → c.phase = .connected) : Conserved d := by
  obtain ⟨whats, hhistory, haccepted, htaken⟩ := hhistory
  refine ⟨?_, ?_, fun hd => ?_⟩
  · rw [hhistory, accepted_append, taken_append, haccepted, htaken, List.append_nil,
      List.append_nil, houtbox, hqueue]
    exact h.account
  · rw [hqueue]
    exact h.emits
  · rw [hqueue]
    exact h.calm (hphase hd)

theorem idle (h : Conserved c) (hidle : Idles c d) : Conserved d := by
  obtain ⟨whats, hhistory, hstill⟩ := hidle.history
  have haccepted : accepted whats = [] := List.filterMap_eq_nil_iff.mpr fun what hwhat =>
    Occurrence.accepted?_of_isStill (hstill what hwhat)
  have htaken : taken whats = [] := taken_of_quiet fun what hwhat =>
    Occurrence.isQuiet_of_isStill (hstill what hwhat)
  exact h.aside ⟨whats, hhistory, haccepted, htaken⟩ (by rw [hidle.outbox])
    (by rw [hidle.events]) hidle.connected

theorem sending {m : Message} (h : Conserved c) (hsent : Sending w.transport c m d) :
    Conserved d := by
  cases hsent with
  | taken _ _ =>
    exact h.aside ⟨_, history_eq_of_noted (delivered_journal ..), rfl, rfl⟩ rfl rfl
      Phase.next_client_eq_connected
  | refused _ _ =>
    exact h.aside ⟨_, history_eq_of_noted (undelivered_journal ..), rfl, rfl⟩ rfl rfl id

theorem drawn {m : Message} {rest : List Message} (h : Conserved c)
    (houtbox : c.outbox = m :: rest) : Conserved (c.drawn m rest) := by
  refine ⟨?_, h.emits, h.calm⟩
  have haccount := h.account
  rw [houtbox] at haccount
  rw [history_eq_of_noted (drawn_journal ..), accepted_concat, taken_concat, drawn_outbox,
    drawn_events, haccount]
  by_cases hm : m.isEmit <;> simp [Occurrence.accepted?, Occurrence.taken?, hm]

theorem restart (h : Conserved c) : Conserved c.restart := by
  refine h.aside ⟨[.restarted], ?_, rfl, rfl⟩ ?_ ?_ ?_
  · rw [history, restart_journal, List.map_append]
    rfl
  · rw [restart_eq]
    rfl
  · rw [restart_eq]
    rfl
  · rw [restart_phase]
    exact nofun

end Conserved

theorem Act.conserved (hact : Act w c d) (h : Conserved c) : Conserved d := by
  cases hact with
  | kept hkept =>
    have hclerical := hkept.clerical
    refine h.aside ⟨[], ?_, rfl, rfl⟩ ?_ hclerical.sendQueue (hclerical.phase ▸ id)
    · rw [history_eq_of_journal hclerical.journal, List.append_nil]
    obtain ⟨told, houtbox, htold, -⟩ := hclerical.outbox
    have hnone : told.filter Message.isEmit = [] :=
      List.filter_eq_nil_iff.mpr fun m hm => (htold m hm).not_isEmit
    rw [houtbox, List.filter_append, hnone, List.append_nil]
  | @emitted name _ data _ _ hphase =>
    -- Nothing waits for a connection that there is, so the event comes last in its turn.
    have hqueue := h.calm hphase
    refine ⟨?_, h.emits, h.calm⟩
    have haccount := h.account
    rw [hqueue, List.append_nil] at haccount
    show accepted (c.note (.emitted (Session.emitMessage name data))).history =
      taken (c.note (.emitted (Session.emitMessage name data))).history ++
        (c.outbox ++ [Session.emitMessage name data]).filter Message.isEmit ++ c.events.sendQueue
    rw [note_history, accepted_concat, taken_concat, haccount, List.filter_append, hqueue]
    simp [Occurrence.accepted?, Occurrence.taken?, List.filter_cons, isEmit_emitMessage]
  | @queued name _ data _ _ hphase =>
    refine ⟨?_, fun m hm => ?_, fun hd => absurd hd hphase⟩
    · show accepted (c.note (.emitted (Session.emitMessage name data))).history =
        taken (c.note (.emitted (Session.emitMessage name data))).history ++
          c.outbox.filter Message.isEmit ++
          (c.events.sendQueue ++ [Session.emitMessage name data])
      rw [note_history, accepted_concat, taken_concat, h.account]
      simp [Occurrence.accepted?, Occurrence.taken?]
    · obtain hold | hnew := List.mem_append.mp hm
      · exact h.emits m hold
      · rw [List.mem_singleton.mp hnew]
        exact isEmit_emitMessage name data
  | invoked i => exact h.aside ⟨_, note_history .., rfl, rfl⟩ rfl rfl id
  | performed command result => exact h.aside ⟨_, note_history .., rfl, rfl⟩ rfl rfl id
  | stimulated _ => exact h.aside ⟨[], (List.append_nil _).symm, rfl, rfl⟩ rfl rfl id

/-- Of what is replayed, the events are those that have waited for a connection. -/
theorem filter_replayMessages (h : ∀ m ∈ c.events.sendQueue, m.isEmit) :
    c.replayMessages.filter Message.isEmit = c.events.sendQueue := by
  have hnames (action : Action) (haction : action ≠ .event) (names : List String) :
      (names.map (eventMessage action)).filter Message.isEmit = [] := by
    refine List.filter_eq_nil_iff.mpr fun m hm => ?_
    obtain ⟨name, -, rfl⟩ := List.mem_map.mp hm
    simpa [Message.isEmit, eventMessage, Message.plain] using haction
  unfold replayMessages
  simp only [List.filter_append, hnames .subscribe nofun, hnames .listen nofun,
    List.filter_eq_self.mpr h, List.nil_append]
  split <;> split <;> exact (List.append_nil _).trans (List.append_nil _)

/-- With the connection, what has waited for one goes to the end of the outbox. -/
theorem Conserved.admission (h : Conserved c) (m : Message) :
    Conserved (replay { c.note (.handled m) with phase := .connected }) := by
  refine ⟨?_, fun _ hm => absurd hm List.not_mem_nil, fun _ => rfl⟩
  show accepted (c.note (.handled m)).history = taken (c.note (.handled m)).history ++
    (c.outbox ++ c.replayMessages).filter Message.isEmit ++ []
  rw [note_history, accepted_concat, taken_concat, List.filter_append,
    filter_replayMessages h.emits, h.account]
  simp [Occurrence.accepted?, Occurrence.taken?]

theorem Negotiation.conserved (hmove : Negotiation w c d) (h : Conserved c) : Conserved d := by
  cases hmove.kind with
  | act hact => exact hact.conserved h
  | idle hidle => exact h.idle hidle
  | admission _ hd => exact hd ▸ h.admission _
  | speech hsent _ _ => exact h.sending hsent

theorem Move.conserved (hmove : Move w c d) (h : Conserved c) : Conserved d := by
  cases hmove with
  | negotiated hnegotiated => exact hnegotiated.conserved h
  | flushed houtbox hsent => exact (h.drawn houtbox).sending hsent
  | dropped houtbox _ => exact h.drawn houtbox

theorem conserved_create {uri : String} {config : Config} {state : σ}
    (h : create w uri config state = .ok c) : Conserved c := by
  obtain ⟨link, rfl⟩ := create_ok h
  exact ⟨rfl, fun _ hm => absurd hm List.not_mem_nil, nofun⟩

theorem Reached.conserved {start : Nat} (h : Reached w start c) : Conserved c :=
  h.invariant (P := fun _ => Conserved) (fun _ _ _ _ hmade => conserved_create hmade)
    (fun _ _ hold => hold.restart) fun _ _ _ hold hmove => hmove.conserved hold

/-! ## What became of the events -/

/-- Every event that was taken from the outbox was handed to the transport, once and in
order, and the transport took it. No other event was handed over. -/
def Delivers (whats : List (Occurrence ι)) : Prop :=
  handed whats = (taken whats).map (·, .ok ())

/-- As before, but for the last event that was taken from the outbox: it was not handed to
the transport, or the transport has refused it with the error `x`. -/
def SticksAtLast (x : Error) (whats : List (Occurrence ι)) : Prop :=
  ∃ front m, taken whats = front ++ [m] ∧
    (handed whats = front.map (·, .ok ()) ∨
      handed whats = front.map (·, .ok ()) ++ [(m, .error x)])

theorem delivers_of_quiet {whats : List (Occurrence ι)} (h : ∀ what ∈ whats, what.IsQuiet) :
    Delivers whats := by
  unfold Delivers
  rw [handed_of_quiet h, taken_of_quiet h]
  rfl

theorem delivers_flush {e : Client σ ι} (hquiet : Quietly c e) (hemptied : Emptied e d) :
    ∃ whats, d.history = c.history ++ whats ∧ Delivers whats := by
  obtain ⟨before, hbefore, hsilent⟩ := hquiet.history
  refine ⟨before ++ e.outbox.flatMap flushing, ?_, ?_⟩
  · rw [hemptied.history, hbefore, List.append_assoc]
  · unfold Delivers
    rw [handed_append, taken_append, handed_of_quiet hsilent, taken_of_quiet hsilent,
      handed_flushing, taken_flushing]
    rfl

/-- A flush that fails has handed over the events before the message it got stuck on. If
that is no event, all events that were taken from the outbox were handed over. -/
theorem delivers_or_sticks {e f : Client σ ι} {x : Error} (hquiet : Quietly c e)
    (hstuck : Stuck x e f) (hend : Quietly f d) :
    ∃ whats, d.history = c.history ++ whats ∧ (Delivers whats ∨ SticksAtLast x whats) := by
  obtain ⟨before, hbefore, hsilent⟩ := hquiet.history
  obtain ⟨after, hafter, hstill⟩ := hend.history
  obtain ⟨front, m, last, hhistory, hlast⟩ : ∃ (front : List Message) (m : Message) (last : _),
      f.history = e.history ++ front.flatMap flushing ++ .flushed m :: last ∧
      (last = [.reported x] ∨ last = [.sent m (.error x), .reported x]) := by
    cases hstuck with
    | disallowed _ _ hhistory _ _ => exact ⟨_, _, _, hhistory, .inl rfl⟩
    | refused _ _ hhistory => exact ⟨_, _, _, hhistory, .inr rfl⟩
  refine ⟨before ++ front.flatMap flushing ++ .flushed m :: last ++ after, ?_, ?_⟩
  · rw [hafter, hhistory, hbefore]
    simp only [List.append_assoc]
  · -- Only the flush counts, and of the flush only what stands before the message it got
    -- stuck on was handed over for certain.
    unfold Delivers SticksAtLast
    simp only [handed_append, taken_append, handed_of_quiet hsilent, taken_of_quiet hsilent,
      handed_of_quiet hstill, taken_of_quiet hstill, handed_flushing, taken_flushing,
      List.nil_append, List.append_nil]
    by_cases hm : m.isEmit
    · refine .inr ⟨front.filter Message.isEmit, m, ?_, ?_⟩
      · obtain rfl | rfl := hlast <;> simp [taken, Occurrence.taken?, hm]
      · obtain rfl | rfl := hlast
        · exact .inl (by simp [handed, List.filterMap_cons, Occurrence.handed?])
        · exact .inr (by simp [handed, List.filterMap_cons, Occurrence.handed?, hm])
    · refine .inl ?_
      obtain rfl | rfl := hlast <;>
        simp [taken, handed, List.filterMap_cons, Occurrence.taken?, Occurrence.handed?, hm]

end Client

/-! ## The calls that emit -/

/-- The event that a command emits, if it is one that emits. -/
def Command.event? : Command ι → Option Message
  | .emit name data => some (Session.emitMessage name data)
  | .emitJson name text =>
    match Json.decode (Utf8.encode text) with
    | .ok v => some (Session.emitMessage name (Payload.encode v))
    | .error _ => none
  | _ => none

namespace Session

open Client

variable {w : Surroundings σ ι} {c d : Client σ ι}

/-- A step that ends with a value, if it ends. -/
def Unfailing {α : Type} (step : Session σ ι α) : Prop :=
  ∀ c x d, step c ≠ .error (.failed x) d

namespace Unfailing

variable {α β : Type} {step : Session σ ι α}

theorem of_pure (a : α) : Unfailing (pure a : Session σ ι α) :=
  fun _ _ _ => nofun

theorem of_modify (change : Client σ ι → Client σ ι) :
    Unfailing (modify change : Session σ ι PUnit) :=
  fun _ _ _ => nofun

theorem of_attempt : Unfailing step.attempt :=
  fun _ _ _ => attempt_ne_failed

theorem of_bind {next : α → Session σ ι β} (hstep : Unfailing step)
    (hnext : ∀ a, Unfailing (next a)) : Unfailing (step >>= next) := by
  intro c x d h
  obtain hfailed | ⟨a, e, -, hfailed⟩ := bind_eq_error h
  · exact hstep c x d hfailed
  · exact hnext a e x d hfailed

theorem of_forM {list : List β} {step : β → Session σ ι PUnit} (h : ∀ b, Unfailing (step b)) :
    Unfailing (list.forM step) := by
  induction list with
  | nil => exact of_pure _
  | cons b rest ih => exact of_bind (h b) fun _ => ih

end Unfailing

theorem runCommands_unfailing (t : Transport σ ι) (depth : Nat) (commands : List (Command ι)) :
    Unfailing (runCommands t depth commands) := by
  cases depth with
  | zero => cases commands <;> exact fun _ _ _ => nofun
  | succ depth =>
    cases commands with
    | nil => exact .of_pure _
    | cons => exact .of_forM fun _ => .of_bind .of_attempt fun _ => .of_modify _

theorem notifySubscribers_unfailing {run : Runner σ ι} (hrun : ∀ commands, Unfailing (run commands))
    (name : String) (data : Bytes) : Unfailing (notifySubscribers run name data) := by
  refine .of_bind (fun _ _ _ => nofun) fun c => ?_
  split
  · exact .of_pure _
  · exact .of_forM fun s => .of_bind (.of_modify _) fun _ => .of_bind (fun _ _ _ => nofun)
      fun _ => hrun _

theorem emit_eq {run : Runner σ ι} {name text : String} {data : Bytes} (hname : name ≠ "")
    (hdata : Utf8.decode data = .ok text) :
    emit run name data = (do
      enqueue (emitMessage name data)
      notifySubscribers run name data) := by
  unfold emit
  rw [if_neg hname, hdata]

theorem enqueue_history (m : Message) :
    ((enqueue m).after c).history = c.history ++ [.emitted m] := by
  refine history_eq_of_noted ?_
  show (if c.phase = .connected then _ else _ : Client σ ι).journal = _
  split
  · next hphase => rw [post_of_connected (c.note (.emitted m)) hphase]
  · rfl

/-- A call that emits and succeeds has first of all accepted its event. One that fails has
done nothing. -/
theorem emit_cases {run : Runner σ ι} (htame : Tame w run)
    (hrun : ∀ commands, Unfailing (run commands)) (name : String) (data : Bytes) :
    (∀ d, emit run name data c = .ok () d → ∃ later, d.history =
      c.history ++ .emitted (emitMessage name data) :: later) ∧
    ∀ x d, emit run name data c = .error (.failed x) d → d = c := by
  by_cases hname : name = ""
  · unfold emit
    rw [if_pos hname]
    exact ⟨fun _ => nofun, fun _ _ h => by cases h; rfl⟩
  cases hdata : Utf8.decode data with
  | error fault =>
    unfold emit
    rw [if_neg hname, hdata]
    exact ⟨fun _ => nofun, fun _ _ h => by cases h; rfl⟩
  | ok text =>
    rw [emit_eq hname hdata]
    constructor
    · intro d h
      obtain ⟨_, e, henqueue, hnotify⟩ := bind_eq_ok h
      have hnotified : Walks (Act w) (notifySubscribers run name data) e :=
        notifySubscribers_walks htame name data
      have hquiet := quietly_of_negotiations (hnotified.acted.heard.to_ok hnotify)
      obtain ⟨later, hlater, -⟩ := hquiet.history
      refine ⟨later, ?_⟩
      rw [hlater, ← after_of_ok henqueue, enqueue_history, List.append_assoc]
      rfl
    · intro x d h
      obtain hfailed | ⟨_, _, _, hfailed⟩ := bind_eq_error h
      · cases hfailed
      · exact absurd hfailed (notifySubscribers_unfailing hrun name data _ x d)

/-- A command that does not emit writes nothing down. -/
theorem perform_silent {run : Runner σ ι} {command : Command ι} (h : command.event? = none) :
    ((perform w.transport run command).after c).journal = c.journal := by
  have hkept {α : Type} {step : Session σ ι α} {answer : α → Answer}
      (hstep : Bookkeeping c (step.after c)) :
      ((step >>= fun a => pure (answer a) : Session σ ι Answer).after c).journal = c.journal := by
    rw [after_answer]
    exact hstep.clerical.journal
  cases command with
  | emit name data => cases h
  | emitJson name text =>
    cases htext : Json.decode (Utf8.encode text) with
    | error fault =>
      simp only [perform, htext]
      rfl
    | ok v => simp [Command.event?, htext] at h
  | subscribe name tag react =>
    by_cases hname : name = ""
    · subst hname
      rfl
    · exact hkept (.subscribed tag react hname)
  | unsubscribe name => exact hkept (.unsubscribed name)
  | unsubscribeId name id => exact hkept (.unsubscribedOne name id)
  | listen pattern tag accepts react =>
    by_cases hpattern : pattern = ""
    · subst hpattern
      rfl
    · exact hkept (.listened tag accepts react hpattern)
  | unlisten pattern => exact hkept (.unlistened pattern)
  | followPresence tag react => exact hkept (.followed tag react)
  | unfollowPresence id => exact hkept (.unfollowed id)
  | unfollowAllPresence => exact hkept .unfollowedAll
  | queryPresence tag react => exact hkept (.queried tag react)
  | stimulate i => rfl

/-- A command that emits and succeeds has first of all accepted its event. One that fails has
done nothing. -/
theorem perform_emits {run : Runner σ ι} (htame : Tame w run)
    (hrun : ∀ commands, Unfailing (run commands)) {command : Command ι} {m : Message}
    (hm : command.event? = some m) :
    (∀ answer d, perform w.transport run command c = .ok answer d → ∃ later, d.history =
      c.history ++ .emitted m :: later) ∧
    ∀ x d, perform w.transport run command c = .error (.failed x) d → d = c := by
  have hemits (name : String) (data : Bytes) := emit_cases (c := c) htame hrun name data
  cases command with
  | emit name data =>
    cases hm
    refine ⟨fun answer d h => ?_, fun x d h => (hemits name data).2 x d (answer_eq_error h)⟩
    obtain ⟨_, hrun⟩ := answer_eq_ok h
    exact (hemits name data).1 d hrun
  | emitJson name text =>
    cases htext : Json.decode (Utf8.encode text) with
    | error fault => simp [Command.event?, htext] at hm
    | ok v =>
      simp only [Command.event?, htext, Option.some.injEq] at hm
      cases hm
      simp only [perform, htext]
      refine ⟨fun answer d h => ?_, fun x d h =>
        (hemits name (Payload.encode v)).2 x d (answer_eq_error h)⟩
      obtain ⟨_, hrun⟩ := answer_eq_ok h
      exact (hemits name (Payload.encode v)).1 d hrun
  | _ => cases hm

end Session

/-! ## The account -/

namespace Client

open Session

variable {w : Surroundings σ ι} {c : Client σ ι}

/-- Whatever the transport does, and whatever requests were carried out: the events that
were accepted are those that were taken from the outbox, those that stand in it, and those
that wait for a connection, in this order. An event is accepted by each call that emits
and succeeds, at its very beginning, and by nothing else. And every request hands over
what it takes from the outbox, once and in order, and no other event, except that one
which fails may have got stuck on the last. -/
theorem emits_conserved {start : Nat} (h : Reached w start c) :
    accepted c.history =
      taken c.history ++ c.outbox.filter Message.isEmit ++ c.events.sendQueue ∧
    (∀ (depth : Nat) (command : Command ι) (b : Client σ ι),
      let step := perform w.transport (runCommands w.transport depth) command
      (∀ m, command.event? = some m →
        (∀ answer d, step b = .ok answer d →
          ∃ later, d.history = b.history ++ .emitted m :: later) ∧
        ∀ x d, step b = .error (.failed x) d → d = b) ∧
      (command.event? = none → (step.after b).history = b.history)) ∧
    ∀ request : Request ι,
      (∀ answer d, execute w request c = .ok answer d →
        ∃ whats, d.history = c.history ++ whats ∧ Delivers whats) ∧
      ∀ x d, execute w request c = .error (.failed x) d →
        ∃ whats, d.history = c.history ++ whats ∧ (Delivers whats ∨ SticksAtLast x whats) := by
  refine ⟨h.conserved.account, fun depth command b => ⟨fun m hm => ?_, fun hnone => ?_⟩,
    fun request => ⟨fun answer d hok => ?_, fun x d hfailed => ?_⟩⟩
  · exact perform_emits (runCommands_tame depth) (runCommands_unfailing w.transport depth) hm
  · exact history_eq_of_journal (perform_silent hnone)
  · obtain ⟨e, hquiet, rfl | hflush⟩ := execute_ok hok
    · obtain ⟨whats, hhistory, hsilent⟩ := hquiet.history
      exact ⟨whats, hhistory, delivers_of_quiet hsilent⟩
    · exact delivers_flush hquiet (flush_ok hflush)
  · obtain ⟨e, hquiet, rfl | ⟨f, hflush, hend⟩⟩ := execute_failed hfailed
    · obtain ⟨whats, hhistory, hsilent⟩ := hquiet.history
      exact ⟨whats, hhistory, .inl (delivers_of_quiet hsilent)⟩
    · exact delivers_or_sticks hquiet (flush_failed hflush) hend

/-- One event was emitted before there was a connection, and sent with the login. Another
was emitted since, and is to be sent next. -/
theorem emits_conserved_offline :
    let early := emitMessage "early" (Utf8.encode "1")
    let late := emitMessage "late" (Utf8.encode "2")
    let c := guestAfter [.command (.emit "early" (Utf8.encode "1")), .connect, .login "auth",
      .command (.emit "late" (Utf8.encode "2"))]
    Reached hospitable 0 c ∧ accepted c.history = [early, late] ∧ taken c.history = [early] ∧
      c.outbox = [late] ∧
      accepted c.history =
        taken c.history ++ c.outbox.filter Message.isEmit ++ c.events.sendQueue ∧
      ∀ d, execute hospitable .process c = .ok .nothing d →
        ∃ whats, d.history = c.history ++ whats ∧ Delivers whats := by
  intro early late c
  have hemitted := (Reached.created create_guest).executed
    (.command (.emit "early" (Utf8.encode "1"))) (by decide +kernel)
  have hlogged := (hemitted.executed .connect (by decide +kernel)).executed (.login "auth")
    (by decide +kernel)
  have hreached : Reached hospitable 0 c :=
    hlogged.executed (.command (.emit "late" (Utf8.encode "2"))) (by decide +kernel)
  obtain ⟨haccount, -, hrequests⟩ := emits_conserved hreached
  exact ⟨hreached, by decide +kernel, by decide +kernel, by decide +kernel, haccount,
    (hrequests .process).1 .nothing⟩

end Client

end Realtime
