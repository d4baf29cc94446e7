import Realtime.Proofs.Client.Buffers
import Realtime.Proofs.Client.Errands
import Realtime.Proofs.Client.Textual
import Realtime.Proofs.JsonText

/-!
# Typed events from one client to another

A typed event that a connected client emits leaves it as one frame, reads back from that
frame, and reaches every subscriber of the other side with a payload that says the same
value. Whatever the strings of the value hold, the frame holds no separator but its own,
because the text of a value has no control characters.

What callbacks ask for comes on top of that. On the side that emits they may have more to
say, which is sent after the event. On the side that receives they may emit events of their
own, which are told to its subscribers meanwhile. Callbacks that ask for nothing change
nothing.

Results:
1. `read_typed`: the frame of a typed event reads back.
2. `notifySubscribers_told`: every subscriber is told once, in order, and what happens in
   between is what they ask for.
3. `emitTyped_process`: what is sent if a client emits and then processes.
4. `typed_event_crosses`: from the value that is emitted to the value that is read.
-/

namespace Realtime

/-! ## The frame of a typed event -/

namespace Payload

theorem isText_letter (kind : Kind) : IsText [kind.letter] := by
  cases kind with
  | string => exact ⟨"S", by decide +kernel⟩
  | number => exact ⟨"N", by decide +kernel⟩
  | true => exact ⟨"T", by decide +kernel⟩
  | false => exact ⟨"F", by decide +kernel⟩
  | null => exact ⟨"L", by decide +kernel⟩
  | undefined => exact ⟨"U", by decide +kernel⟩
  | object => exact ⟨"O", by decide +kernel⟩

/-- The payload of a value is text. -/
theorem isText_encode (v : Json.Value) : IsText (encode v) := by
  have hbody : IsText (body v) := by
    cases v with
    | null | bool => exact Realtime.isText_encode ""
    | string s => exact Realtime.isText_encode s
    | number n => exact Realtime.isText_encode (Json.Value.number n).text
    | array items => exact Realtime.isText_encode (Json.Value.array items).text
    | object members => exact Realtime.isText_encode (Json.Value.object members).text
  exact (isText_letter (Kind.of v)).append hbody

/-- Only a string may put control characters into a payload. -/
theorem printable_encode {v : Json.Value} (h : v.Plain Json.depthLimit)
    (hkind : Kind.of v ≠ .string) : Json.Printable (encode v) := by
  have htext := Json.printable_encode h
  have hbody : Json.Printable (body v) := by
    cases h with
    | null | bool => exact Json.printable_nil
    | string => exact absurd rfl hkind
    | whole | array | object => exact htext
  refine hbody.cons ?_
  cases Kind.of v <;> decide

end Payload

theorem Wire.free_of_printable {bytes : Bytes} (h : Json.Printable bytes) : Wire.Free bytes :=
  ⟨fun hmem => absurd (h _ hmem) (by decide), fun hmem => absurd (h _ hmem) (by decide)⟩

/-- A name without the characters of the separators has no byte of theirs. -/
theorem Wire.free_encode {name : String} (h : '\x1E' ∉ name.toList ∧ '\x1F' ∉ name.toList) :
    Wire.Free (Utf8.encode name) := by
  -- A byte below the high half is a character of its own.
  have hown {b : UInt8} (hlow : b.toNat < 0x80) (hmem : b ∈ Utf8.encode name) :
      Char.ofNat b.toNat ∈ name.toList := by
    obtain ⟨c, hc, hbyte⟩ := List.mem_flatMap.mp hmem
    rcases Nat.lt_or_ge c.toNat 0x80 with hascii | hhigh
    · rw [Json.encodeChar_ascii hascii, List.mem_singleton] at hbyte
      have hsame : b.toNat = c.toNat := by
        rw [hbyte, UInt8.toNat_ofNat', Nat.mod_eq_of_lt (Nat.lt_trans hascii (by decide))]
      rwa [hsame, Char.ofNat_toNat]
    · exact absurd (Json.high_of_mem_encodeChar hhigh b hbyte) (Nat.not_le.mpr hlow)
  exact ⟨fun hmem => h.2 (hown (by decide) hmem), fun hmem => h.1 (hown (by decide) hmem)⟩

namespace Session

/-- The frame of a typed event reads back. -/
theorem read_typed {name : String} {v : Json.Value} (hname : Wire.Free (Utf8.encode name))
    (hplain : v.Plain Json.depthLimit) (hkind : Payload.Kind.of v ≠ .string) :
    Frame.read (emitMessage name (Payload.encode v)).encode =
      ⟨[emitMessage name (Payload.encode v)], []⟩ := by
  have hfree := Wire.free_of_printable (Payload.printable_encode hplain hkind)
  exact (admitted_emitMessage name _).read_encode_iff.mpr
    (Message.separatorFree_pair.mpr ⟨hname, hfree⟩)

end Session

/-! ## What a telling writes down -/

variable {σ ι : Type}

/-- What the commands of a callback lead to: each is written down once it was performed. One
that emits nothing writes down nothing else. -/
inductive Performs : List (Command ι) → List (Occurrence ι) → Prop
  | none : Performs [] []
  | next {command : Command ι} {commands : List (Command ι)} {inner whats : List (Occurrence ι)}
      (result : Except Error Answer) : (command.event? = none → inner = []) →
      Performs commands whats →
      Performs (command :: commands) (inner ++ .performed command result :: whats)

/-- What a telling writes down: each subscriber is called once, in order, and what its
commands lead to comes before the next one is called. -/
inductive Told (data : Bytes) : List (Subscription ι Bytes) → List (Occurrence ι) → Prop
  | none : Told data [] []
  | next {s : Subscription ι Bytes} {others : List (Subscription ι Bytes)}
      {more whats : List (Occurrence ι)} (before : Nat) :
      Performs (s.callback.react before data) more → Told data others whats →
      Told data (s :: others) (.invoked (.event s.callback.tag data) :: (more ++ whats))

/-- Commands that ask nothing of the client call no one, and say nothing. -/
theorem Performs.of_idle {commands : List (Command ι)} {whats : List (Occurrence ι)}
    (h : Performs commands whats) (hidle : ∀ command ∈ commands, command.isStimulus) :
    Client.invocations whats = [] ∧ ∀ m, ¬ Requested whats m := by
  induction h with
  | none => exact ⟨rfl, fun m ⟨_, _, hmem, _⟩ => nomatch hmem⟩
  | @next command commands inner whats result hinner _ ih =>
    obtain ⟨hfirst, hrest⟩ := List.forall_mem_cons.mp hidle
    obtain ⟨hcalls, hsilent⟩ := ih hrest
    cases command with
    | stimulate i =>
      rw [hinner rfl]
      refine ⟨hcalls, ?_⟩
      rintro m ⟨command, result, hmem, hwish⟩
      rcases List.mem_cons.mp hmem with hfirst | hmem
      · cases hfirst
        cases hwish
      · exact hsilent m ⟨command, result, hmem, hwish⟩
    | _ => cases hfirst

/-- If the subscribers ask nothing of the client, they are called and no one else is, and
nothing is said. -/
theorem Told.of_idle {data : Bytes} {list : List (Subscription ι Bytes)}
    {whats : List (Occurrence ι)} (h : Told data list whats)
    (hidle : ∀ s ∈ list, (idleManners ι).Approves s.callback) :
    Client.invocations whats = list.map (fun s => .event s.callback.tag data) ∧
      ∀ m, ¬ Requested whats m := by
  induction h with
  | none => exact ⟨rfl, fun m ⟨_, _, hmem, _⟩ => nomatch hmem⟩
  | @next s others more whats before hperforms _ ih =>
    obtain ⟨hfirst, hrest⟩ := List.forall_mem_cons.mp hidle
    obtain ⟨hmore, hunsaid⟩ := hperforms.of_idle (hfirst before data)
    obtain ⟨hcalls, hsilent⟩ := ih hrest
    constructor
    · show _ :: Client.invocations (more ++ whats) = _
      rw [Client.invocations_append, hmore, hcalls, List.nil_append, List.map_cons]
    · rintro m ⟨command, result, hmem, hwish⟩
      rcases List.mem_cons.mp hmem with hcall | hmem
      · cases hcall
      · rcases List.mem_append.mp hmem with hmem | hmem
        · exact hunsaid m ⟨command, result, hmem, hwish⟩
        · exact hsilent m ⟨command, result, hmem, hwish⟩

/-- The transport takes all that is said of events and presence, and does nothing of its own
accord. -/
structure Transport.Passive (t : Transport σ ι) : Prop where
  takes (uri : Option String) {m : Message} (s : σ) : m.isTraffic →
    (t.call uri (.send m.encode) s).outcome = .ok ()
  still (i : ι) (s : σ) : (t.stimulate i s).signals = []

namespace Client

variable {w : Surroundings σ ι} {c d : Client σ ι}

/-- What was written down stays. -/
theorem history_of_moves (h : Relation.ReflTransGen (Move w) c d) :
    ∃ whats, d.history = c.history ++ whats := by
  induction h with
  | refl => exact ⟨[], (List.append_nil _).symm⟩
  | tail _ hmove ih =>
    obtain ⟨whats, hwhats⟩ := ih
    obtain ⟨entries, hentries, -⟩ := hmove.advance.journal
    refine ⟨whats ++ entries.map Entry.what, ?_⟩
    rw [← List.append_assoc, ← hwhats, history, hentries, List.map_append]
    rfl

theorem history_of_acts (h : Relation.ReflTransGen (Act w) c d) :
    ∃ whats, d.history = c.history ++ whats :=
  history_of_moves (Relation.ReflTransGen.mono (fun _ _ hact => (Reception.acted hact).move) _ _ h)

/-- The client once it has accepted an event while it is connected. -/
def accepting (m : Message) (c : Client σ ι) : Client σ ι :=
  { c.note (.emitted m) with outbox := c.outbox ++ [m] }

/-- The client once an event is to be told that stood first in a frame. -/
def hearing (m : Message) (rest : List Event) (c : Client σ ι) : Client σ ι :=
  ((c.left rest).withPending []).note (.handled m)

theorem hearing_history (m : Message) (rest : List Event) :
    (c.hearing m rest).history = c.history ++ [.handled m] :=
  note_history ..

end Client

namespace Session

open Client

variable {w : Surroundings σ ι} {c d : Client σ ι} {run : Runner σ ι}

/-- The runner writes down what the commands lead to. -/
def Performing (run : Runner σ ι) : Prop :=
  ∀ commands c d, run commands c = .ok () d →
    ∃ whats, d.history = c.history ++ whats ∧ Performs commands whats

theorem forM_performs {step : Command ι → Session σ ι Answer}
    (hstep : ∀ command c, ∃ inner, ((step command).after c).history = c.history ++ inner ∧
      (command.event? = none → inner = []))
    {commands : List (Command ι)}
    (h : (commands.forM fun command => do
      let result ← attempt (step command)
      modify fun c => c.note (.performed command result) : Session σ ι Unit) c = .ok () d) :
    ∃ whats, d.history = c.history ++ whats ∧ Performs commands whats := by
  induction commands generalizing c with
  | nil =>
    cases h
    exact ⟨[], (List.append_nil _).symm, .none⟩
  | cons command commands ih =>
    obtain ⟨_, performed, hfirst, hrest⟩ := bind_eq_ok h
    obtain ⟨result, middle, hattempt, hnote⟩ := bind_eq_ok hfirst
    cases hnote
    obtain ⟨inner, hinner, hsilent⟩ := hstep command c
    rw [← eq_after_of_attempt hattempt] at hinner
    obtain ⟨whats, hwhats, hperforms⟩ := ih hrest
    refine ⟨inner ++ .performed command result :: whats, ?_, .next result hsilent hperforms⟩
    rw [hwhats, note_history, hinner]
    simp only [List.append_assoc, List.singleton_append]

/-- Whatever the commands lead to, each is written down once it was performed. -/
theorem runCommands_performs (depth : Nat) : Performing (runCommands (ι := ι) w.transport depth) := by
  intro commands c d h
  have hstep {depth : Nat} (command : Command ι) (c : Client σ ι) :
      ∃ inner, ((perform w.transport (runCommands w.transport depth) command).after c).history =
        c.history ++ inner ∧ (command.event? = none → inner = []) := by
    obtain ⟨inner, hinner⟩ :=
      history_of_acts (perform_walks (w := w) (runCommands_tame depth) command (c := c))
    refine ⟨inner, hinner, fun hnone => ?_⟩
    rw [history_eq_of_journal (perform_silent hnone)] at hinner
    exact List.append_right_eq_self.mp hinner.symm
  cases depth with
  | zero =>
    cases commands with
    | nil =>
      cases h
      exact ⟨[], (List.append_nil _).symm, .none⟩
    | cons => cases h
  | succ depth =>
    cases commands with
    | nil =>
      cases h
      exact ⟨[], (List.append_nil _).symm, .none⟩
    | cons => exact forM_performs hstep h

theorem runner_performs : Performing (runner w) :=
  runCommands_performs w.patience

/-- A subscriber is called, and then what its commands lead to is written down. -/
theorem invoke_performs (hrun : Performing run) {callback : Callback ι Bytes} {data : Bytes}
    {what : Invocation} (h : invoke run callback data what c = .ok () d) :
    ∃ before more, d.history = c.history ++ .invoked what :: more ∧
      Performs (callback.react before data) more := by
  let noted := c.note (.invoked what)
  have hrunning : run (callback.react (noted.countCall callback.slot).1 data)
      (noted.countCall callback.slot).2 = .ok () d := h
  obtain ⟨more, hmore, hperforms⟩ := hrun _ _ _ hrunning
  have hcounted : (noted.countCall callback.slot).2.history = noted.history := rfl
  refine ⟨_, more, ?_, hperforms⟩
  rw [hmore, hcounted, note_history, List.append_assoc]
  rfl

/-- All who were subscribed when the telling began are told, each once and in order. -/
theorem notifySubscribers_told (hrun : Performing run) {name : String} {data : Bytes}
    (h : notifySubscribers run name data c = .ok () d) :
    ∃ whats, d.history = c.history ++ whats ∧ Told data (c.subscribers name) whats := by
  have heach {list : List (Subscription ι Bytes)} {c : Client σ ι}
      (h : list.forM (fun s => invoke run s.callback data (.event s.callback.tag data)) c =
        .ok () d) : ∃ whats, d.history = c.history ++ whats ∧ Told data list whats := by
    induction list generalizing c with
    | nil =>
      cases h
      exact ⟨[], (List.append_nil _).symm, .none⟩
    | cons s others ih =>
      obtain ⟨_, e, hfirst, hrest⟩ := bind_eq_ok h
      obtain ⟨before, more, hmore, hperforms⟩ := invoke_performs hrun hfirst
      obtain ⟨whats, hwhats, htold⟩ := ih hrest
      refine ⟨_, ?_, .next before hperforms htold⟩
      rw [hwhats, hmore]
      simp only [List.append_assoc, List.cons_append]
  rw [notifySubscribers, get_bind_apply] at h
  unfold subscribers
  cases hfound : c.events.subscriptions.find? name with
  | none =>
    rw [hfound] at h
    cases h
    exact ⟨[], (List.append_nil _).symm, .none⟩
  | some list =>
    rw [hfound] at h
    exact heach h

theorem Unfailing.eq_ok {α : Type} {step : Session σ ι α} (h : Unfailing step)
    (hreturns : step.returns c = true) : ∃ a, step c = .ok a (step.after c) := by
  cases hsucceeds : step.succeeds c with
  | true => exact eq_ok_of_succeeds hsucceeds
  | false =>
    obtain ⟨x, hfailed⟩ := eq_failed_of_returns hreturns hsucceeds
    exact absurd hfailed (h c x _)

/-- If a connected client gets done with telling its subscribers, it has told them, and has
put in its outbox what they asked for. -/
theorem notifySubscribers_connected (hin : c.phase = .connected) {name : String} {data : Bytes}
    (hreturns : (notifySubscribers (runner w) name data).returns c = true) :
    ∃ d whats others, notifySubscribers (runner w) name data c = .ok () d ∧ d.phase = .connected ∧
      d.history = c.history ++ whats ∧ Told data (c.subscribers name) whats ∧
      (∀ what ∈ whats, OwnDoing what) ∧ d.outbox = c.outbox ++ others ∧
      ∀ m ∈ others, Requested whats m := by
  have hunfailing : Unfailing (notifySubscribers (runner w) name data) :=
    notifySubscribers_unfailing (runCommands_unfailing w.transport w.patience) name data
  obtain ⟨_, htelling⟩ := hunfailing.eq_ok hreturns
  have hexplains : Explains (fun _ => False) (notifySubscribers (runner w) name data) c :=
    notifySubscribers_explains runner_honest name data
  have hexplained := hexplains hin hreturns
  obtain ⟨whats, hhistory, htold⟩ := notifySubscribers_told runner_performs htelling
  obtain ⟨same, others, hsame, houtbox, hown, hrequested⟩ := hexplained.added
  obtain rfl : same = whats := List.append_cancel_left (hsame.symm.trans hhistory)
  exact ⟨_, same, others, htelling, hexplained.phase.trans hin, hhistory, htold, hown, houtbox,
    fun m hm => (hrequested m hm).resolve_left id⟩

/-! ## The side that emits -/

theorem utterances_of_ownDoing {whats : List (Occurrence ι)} (h : d.history = c.history ++ whats)
    (hown : ∀ what ∈ whats, OwnDoing what) : d.utterances = c.utterances := by
  have hnone : whats.filterMap Occurrence.uttered? = [] := by
    refine List.filterMap_eq_nil_iff.mpr fun what hwhat => ?_
    cases hown what hwhat <;> rfl
  rw [utterances, h, List.filterMap_append, hnone, List.append_nil]
  rfl

theorem isIdle_iff : c.isIdle = true ↔ c.pending = [] ∧ c.link.channel.queue = [] := by
  rw [isIdle, Bool.and_eq_true, List.isEmpty_iff, List.isEmpty_iff]

/-- If the transport does nothing of its own accord, what a program does brings nothing in. -/
theorem isIdle_of_act (hpassive : w.transport.Passive) (h : Act w c d) (hidle : c.isIdle = true) :
    d.isIdle = true := by
  rw [isIdle_iff] at hidle ⊢
  cases h with
  | kept hkept =>
    rw [hkept.clerical.pending, hkept.clerical.link]
    exact hidle
  | stimulated i =>
    refine ⟨hidle.1, ?_⟩
    show (c.link.channel.putAll (w.transport.stimulate i c.link.state).signals).queue = []
    rw [hpassive.still]
    exact hidle.2
  | _ => exact hidle

/-- If there is nothing to be received, nothing is. -/
theorem nextMessage_idle {t : Transport σ ι} (hidle : c.isIdle = true) :
    nextMessage t false c = .ok none c := by
  obtain ⟨hpending, hqueue⟩ := isIdle_iff.mp hidle
  have htaken : takePending c = .ok none c := by rw [takePending_eq, hpending]
  have hreceived : (do receiveFrom t false (← get).link.channel.queue) c = .ok none c := by
    rw [get_bind_apply, hqueue]
    rfl
  exact (bind_of_ok htaken).trans hreceived

theorem flushAll_passive (hpassive : w.transport.Passive) {ms : List Message}
    (hms : ∀ m ∈ ms, m.isTraffic) (hin : c.phase = .connected) :
    ∃ d, flushAll w.transport ms c = .ok () d := by
  induction ms generalizing c with
  | nil => exact ⟨c, rfl⟩
  | cons m rest ih =>
    obtain ⟨hm, hrest⟩ := List.forall_mem_cons.mp hms
    have hnext : c.phase.next .client m = .connected := by rw [hin, Phase.next_connected]
    have hcall : (c.link.call w.transport (.send m.encode)).1 = .ok () :=
      hpassive.takes c.link.uri c.link.state hm
    rw [flushAll_cons, if_neg (by rw [hnext]; exact nofun), hcall]
    exact ih hrest hnext

theorem uttered_flushing (ms : List Message) :
    (ms.flatMap (flushing (ι := ι))).filterMap Occurrence.uttered? = ms := by
  induction ms with
  | nil => rfl
  | cons m rest ih =>
    rw [List.flatMap_cons, List.filterMap_append, ih]
    rfl

/-- A connected client to which nothing has come sends what stands in its outbox. -/
theorem process_passive (hpatience : 0 < w.patience) (hpassive : w.transport.Passive)
    (hin : c.phase = .connected) (hidle : c.isIdle = true) (hms : ∀ m ∈ c.outbox, m.isTraffic) :
    ∃ d, process w c = .ok () d ∧ d.utterances = c.utterances ++ c.outbox := by
  obtain ⟨rounds, hrounds⟩ := Nat.exists_eq_succ_of_ne_zero (Nat.ne_of_gt hpatience)
  have hdrained : drain w w.patience c = .ok () c := by
    rw [hrounds, drain]
    exact bind_of_ok (nextMessage_idle hidle)
  obtain ⟨d, hflushed⟩ := flushAll_passive hpassive hms hin
  refine ⟨d, (bind_of_ok hdrained).trans hflushed, ?_⟩
  rw [utterances, (flushAll_ok rfl hflushed).history, List.filterMap_append, uttered_flushing]
  rfl

/-- What commands say is about events and presence. -/
theorem isTraffic_of_wish {command : Command ι} {m : Message} (h : command.wish? = some m) :
    m.isTraffic := by
  cases command with
  | emit name data =>
    cases h
    rfl
  | emitJson name text =>
    obtain ⟨data, rfl⟩ := Command.eq_emitMessage_of_wish? h
    rfl
  | stimulate i => cases h
  | _ =>
    cases h
    rfl

/-- A connected client puts a typed event that it emits in its outbox, and then tells its own
subscribers. -/
theorem emitTyped_connected {name : String} {v : Json.Value} (hname : name ≠ "")
    (hin : c.phase = .connected) :
    emitTyped run name v c = notifySubscribers run name (Payload.encode v)
      (c.accepting (emitMessage name (Payload.encode v))) := by
  obtain ⟨text, htext⟩ := Payload.isText_encode v
  have hdata : Utf8.decode (Payload.encode v) = .ok text := by rw [← htext, Utf8.decode_encode]
  unfold emitTyped
  generalize Payload.encode v = p at *
  have hqueued : enqueue (emitMessage name p) c = .ok () (c.accepting (emitMessage name p)) := by
    have hposted := post_of_connected (c.note (.emitted (emitMessage name p))) hin
      (emitMessage name p)
    show EStateM.Result.ok () (if c.phase = .connected then _ else _) = _
    rw [if_pos hin, hposted]
    rfl
  rw [emit_eq hname hdata]
  exact bind_of_ok hqueued

/-- If its own subscribers ask for nothing, a connected client gets done with emitting. -/
theorem emitTyped_returns (hpatience : 0 < w.patience) (hin : c.phase = .connected)
    {name : String} (hname : name ≠ "") (v : Json.Value)
    (hidle : ∀ s ∈ c.subscribers name, (idleManners ι).Approves s.callback) :
    (emitTyped (runner w) name v).returns c = true := by
  obtain ⟨d, htelling, -⟩ := notifySubscribers_calls hpatience
    (c := c.accepting (emitMessage name (Payload.encode v))) hidle (Payload.encode v)
  unfold returns
  rw [emitTyped_connected hname hin, htelling]

/-- A client that emits a typed event and then processes sends the event, and after it what
its own subscribers have asked for meanwhile. -/
theorem emitTyped_process (hpatience : 0 < w.patience) (hpassive : w.transport.Passive)
    (hin : c.phase = .connected) (houtbox : c.outbox = []) (hidle : c.isIdle = true)
    {name : String} {v : Json.Value} (hname : name ≠ "")
    (hreturns : (emitTyped (runner w) name v).returns c = true) :
    ∃ d e whats others, emitTyped (runner w) name v c = .ok () d ∧ process w d = .ok () e ∧
      e.utterances = c.utterances ++ emitMessage name (Payload.encode v) :: others ∧
      d.history = c.history ++ .emitted (emitMessage name (Payload.encode v)) :: whats ∧
      Told (Payload.encode v) (c.subscribers name) whats ∧ ∀ m ∈ others, Requested whats m := by
  have hrun : emitTyped (runner w) name v c = _ := emitTyped_connected hname hin
  generalize Payload.encode v = p at *
  have htells : (notifySubscribers (runner w) name p).returns
      (c.accepting (emitMessage name p)) = true := by
    unfold returns at hreturns ⊢
    rwa [hrun] at hreturns
  obtain ⟨d, whats, others, htelling, hphase, hhistory, htold, hown, hadded, hrequested⟩ :=
    notifySubscribers_connected (c := c.accepting (emitMessage name p)) hin htells
  have hwaiting : d.outbox = emitMessage name p :: others := by
    rw [hadded]
    show (c.outbox ++ [emitMessage name p]) ++ others = _
    rw [houtbox]
    rfl
  have htraffic : ∀ m ∈ d.outbox, m.isTraffic := by
    rw [hwaiting]
    refine List.forall_mem_cons.mpr ⟨rfl, fun m hm => ?_⟩
    obtain ⟨command, result, -, hwish⟩ := hrequested m hm
    exact isTraffic_of_wish hwish
  have hquiet : d.isIdle = true := by
    have hwalk := (notifySubscribers_walks runner_tame name p).to_ok htelling
    exact Walks.keeps hwalk (fun _ _ hbefore hact => isIdle_of_act hpassive hact hbefore) hidle
  obtain ⟨e, hprocessed, hsent⟩ := process_passive hpatience hpassive hphase hquiet htraffic
  have hsilent : d.utterances = c.utterances :=
    (utterances_of_ownDoing hhistory hown).trans (filterMap_history_of_noted rfl rfl)
  refine ⟨d, e, whats, others, hrun.trans htelling, hprocessed, ?_, ?_, htold, hrequested⟩
  · rw [hsent, hsilent, hwaiting]
  · rw [hhistory]
    show (c.note (.emitted (emitMessage name p))).history ++ whats = _
    rw [note_history, List.append_assoc]
    rfl

/-! ## The side that receives -/

section Receiving

variable {name : String} {p : Bytes} {rest : List Event} {rounds : Nat}

/-- A connected client that comes to the frame of an event tells its subscribers, and goes
on. -/
theorem drain_event (hin : c.phase = .connected) (hpending : c.pending = [])
    (hqueue : c.link.channel.queue = .frame (emitMessage name p).encode :: rest)
    (hread : Frame.read (emitMessage name p).encode = ⟨[emitMessage name p], []⟩) :
    drain w (rounds + 1) c = (do notifySubscribers (runner w) name p; drain w rounds)
      (c.hearing (emitMessage name p) rest) := by
  have htaken : takePending c = .ok none c := by rw [takePending_eq, hpending]
  have hfound : nextMessage w.transport false c =
      .ok (some (emitMessage name p)) ((c.left rest).withPending []) := by
    refine (bind_of_ok htaken).trans ?_
    show (do receiveFrom w.transport false (← get).link.channel.queue) c = _
    rw [get_bind_apply, hqueue]
    exact receiveFrom_frame w.transport hpending hread
  have hhandled : handle w (emitMessage name p) ((c.left rest).withPending []) =
      notifySubscribers (runner w) name p (c.hearing (emitMessage name p) rest) := by
    rw [handle_connected (c := (c.left rest).withPending []) hin]
    show notifySubscribers (runner w) (Utf8.lossy (Utf8.encode name)) p _ = _
    rw [Utf8.lossy_encode]
    rfl
  have hround : drain w (rounds + 1) c = (do handle w (emitMessage name p); drain w rounds)
      ((c.left rest).withPending []) := by
    rw [drain]
    exact bind_of_ok hfound
  exact hround.trans (bind_congr_state hhandled _)

/-- What is written down until the subscribers have been told comes first. -/
theorem drain_event_history (hin : c.phase = .connected) (hpending : c.pending = [])
    (hqueue : c.link.channel.queue = .frame (emitMessage name p).encode :: rest)
    (hread : Frame.read (emitMessage name p).encode = ⟨[emitMessage name p], []⟩)
    {whats : List (Occurrence ι)} (htelling : notifySubscribers (runner w) name p
      (c.hearing (emitMessage name p) rest) = .ok () d)
    (hhistory : d.history = (c.hearing (emitMessage name p) rest).history ++ whats) :
    ∃ later, ((drain w (rounds + 1)).after c).history =
      c.history ++ .handled (emitMessage name p) :: (whats ++ later) := by
  have hrest : (drain w (rounds + 1)).after c = (drain w rounds).after d := by
    unfold after
    rw [drain_event hin hpending hqueue hread, bind_of_ok htelling]
  obtain ⟨later, hlater⟩ := history_of_moves (drain_walks (w := w) rounds (c := d)).moved
  refine ⟨later, ?_⟩
  rw [hrest, hlater, hhistory, hearing_history, List.append_assoc, List.append_assoc]
  rfl

/-- A connected client that gets done with what has come in has told every subscriber of an
event whose frame was next. -/
theorem drain_told (hin : c.phase = .connected) (hpending : c.pending = [])
    (hqueue : c.link.channel.queue = .frame (emitMessage name p).encode :: rest)
    (hread : Frame.read (emitMessage name p).encode = ⟨[emitMessage name p], []⟩)
    (hreturns : (drain w (rounds + 1)).returns c = true) :
    ∃ whats later, ((drain w (rounds + 1)).after c).history =
        c.history ++ .handled (emitMessage name p) :: (whats ++ later) ∧
      Told p (c.subscribers name) whats := by
  have hround : drain w (rounds + 1) c = _ := drain_event hin hpending hqueue hread
  have htells : (notifySubscribers (runner w) name p).returns
      (c.hearing (emitMessage name p) rest) = true := by
    unfold returns at hreturns ⊢
    rw [hround] at hreturns
    cases htelling : notifySubscribers (runner w) name p (c.hearing (emitMessage name p) rest) with
    | ok => rfl
    | error stop d =>
      rw [bind_of_error htelling] at hreturns
      exact hreturns
  obtain ⟨d, whats, -, htelling, -, hhistory, htold, -⟩ :=
    notifySubscribers_connected (c := c.hearing (emitMessage name p) rest) hin htells
  obtain ⟨later, hlater⟩ := drain_event_history hin hpending hqueue hread htelling hhistory
  exact ⟨whats, later, hlater, htold⟩

/-- If the subscribers ask for nothing they are all told, and no one else is until that is
done. -/
theorem drain_calls (hpatience : 0 < w.patience) (hin : c.phase = .connected)
    (hpending : c.pending = [])
    (hqueue : c.link.channel.queue = .frame (emitMessage name p).encode :: rest)
    (hread : Frame.read (emitMessage name p).encode = ⟨[emitMessage name p], []⟩)
    (hidle : ∀ s ∈ c.subscribers name, (idleManners ι).Approves s.callback) :
    ∃ whats later, ((drain w (rounds + 1)).after c).history =
        c.history ++ .handled (emitMessage name p) :: (whats ++ later) ∧
      invocations whats = (c.subscribers name).map fun s => .event s.callback.tag p := by
  obtain ⟨d, htelling, -⟩ := notifySubscribers_calls (w := w) hpatience
    (c := c.hearing (emitMessage name p) rest) hidle p
  obtain ⟨whats, hhistory, htold⟩ := notifySubscribers_told runner_performs htelling
  obtain ⟨later, hlater⟩ := drain_event_history hin hpending hqueue hread htelling hhistory
  exact ⟨whats, later, hlater, (htold.of_idle hidle).1⟩

end Receiving

/-! ## From the value that is emitted to the value that is read -/

/-- A typed event that a connected client emits leaves it in a frame of its own, and reads
back from it; whoever comes to that frame while it is connected tells its subscribers of the
name, with a payload that says the value. What callbacks ask for comes on top: on the side
that emits it is said after the event, on the side that receives it happens between the
calls. If they ask for nothing, nothing else is sent, and no one else is called. -/
theorem typed_event_crosses {τ κ : Type} {here : Surroundings σ ι} {there : Surroundings τ κ}
    {emitter : Client σ ι} {receiver : Client τ κ} {name : String} {v : Json.Value}
    {rest : List Event} {rounds : Nat}
    (hname : name ≠ "") (hfree : '\x1E' ∉ name.toList ∧ '\x1F' ∉ name.toList)
    (hplain : v.Plain Json.depthLimit) (hkind : Payload.Kind.of v ≠ .string)
    (hpatience : 0 < here.patience) (hpassive : here.transport.Passive)
    (hemitter : emitter.phase = .connected) (houtbox : emitter.outbox = [])
    (hquiet : emitter.isIdle = true)
    (hstaying : 0 < there.patience) (hreceiver : receiver.phase = .connected)
    (hpending : receiver.pending = [])
    (hqueue : receiver.link.channel.queue =
      .frame (emitMessage name (Payload.encode v)).encode :: rest) :
    let p := Payload.encode v
    let m := emitMessage name p
    (m.header = ⟨.event, .event, false⟩ ∧ m.arguments = [Utf8.encode name, p] ∧
      Frame.read m.encode = ⟨[m], []⟩ ∧ Payload.decode p = .ok v) ∧
    ((emitTyped (runner here) name v).returns emitter = true →
      ∃ d e whats others, emitTyped (runner here) name v emitter = .ok () d ∧
        process here d = .ok () e ∧ e.utterances = emitter.utterances ++ m :: others ∧
        d.history = emitter.history ++ .emitted m :: whats ∧
        Told p (emitter.subscribers name) whats ∧ ∀ other ∈ others, Requested whats other) ∧
    ((∀ s ∈ emitter.subscribers name, (idleManners ι).Approves s.callback) →
      ∃ d e, emitTyped (runner here) name v emitter = .ok () d ∧ process here d = .ok () e ∧
        e.utterances = emitter.utterances ++ [m]) ∧
    ((drain there (rounds + 1)).returns receiver = true →
      ∃ whats later, ((drain there (rounds + 1)).after receiver).history =
          receiver.history ++ .handled m :: (whats ++ later) ∧
        Told p (receiver.subscribers name) whats) ∧
    ((∀ s ∈ receiver.subscribers name, (idleManners κ).Approves s.callback) →
      ∃ whats later, ((drain there (rounds + 1)).after receiver).history =
          receiver.history ++ .handled m :: (whats ++ later) ∧
        invocations whats = (receiver.subscribers name).map
          fun s => .event s.callback.tag p) := by
  intro p m
  have hread : Frame.read m.encode = ⟨[m], []⟩ := read_typed (Wire.free_encode hfree) hplain hkind
  have hdecode : Payload.decode p = .ok v :=
    (Payload.decode_letter _ _).trans (Payload.decodeBody_body hplain)
  refine ⟨⟨rfl, rfl, hread, hdecode⟩, ?_, ?_, ?_, ?_⟩
  · exact emitTyped_process hpatience hpassive hemitter houtbox hquiet hname
  · intro hidle
    obtain ⟨d, e, whats, others, hemitted, hprocessed, hsaid, -, htold, hrequested⟩ :=
      emitTyped_process hpatience hpassive hemitter houtbox hquiet hname
        (emitTyped_returns hpatience hemitter hname v hidle)
    have hnone : others = [] :=
      List.eq_nil_iff_forall_not_mem.mpr fun other hmem =>
        (htold.of_idle hidle).2 other (hrequested other hmem)
    rw [hnone] at hsaid
    exact ⟨d, e, hemitted, hprocessed, hsaid⟩
  · exact drain_told hreceiver hpending hqueue hread
  · exact drain_calls hstaying hreceiver hpending hqueue hread

/-! ### A courier -/

/-- A transport that gets a client connected, takes whatever else it says, and brings nothing. -/
def courier : Transport Unit Unit where
  call _ call _ :=
    match call with
    | .openLink => bringing (.plain .connection .challenge)
    | .send frame =>
      match frame.head? with
      | some 0x43 => bringing (.ack .connection .challengeResponse)
      | some 0x41 => bringing (.ack .auth .request)
      | _ => { state := () }
    | _ => { state := () }
  stimulate _ _ := { state := () }
where
  /-- Succeeds and brings a message. -/
  bringing (m : Message) : Reply Unit :=
    { state := (), signals := [.event (.frame m.encode)] }

theorem courier_passive : courier.Passive where
  takes uri m s _ := by
    simp only [courier]
    split <;> rfl
  still _ _ := rfl

def couriered : Surroundings Unit Unit where
  transport := courier
  checkUri _ := .ok ()
  patience := 5

/-- A new client of the courier. -/
def caller : Client Unit Unit where
  config := .standard
  uri := "ws://courier"
  link := { uri := some "ws://courier", channel := { isOpen := true }, state := () }

theorem create_caller : create couriered "ws://courier" .standard () = .ok caller := rfl

/-- Gets connected, subscribes to the news, and sends what there is to be sent. -/
def subscribing (tag : String) (react : Nat → Bytes → List (Command ι)) : List (Request ι) :=
  [.connect, .login "auth", .command (.subscribe "news" tag react), .process]

theorem approves_subscribing (hpatience : 0 < w.patience) (hnew : c.Idle) (tag name : String) :
    ∀ s ∈ ((subscribing tag fun _ _ => []).foldl (fun c request => (execute w request).after c)
      c).subscribers name, (idleManners ι).Approves s.callback := by
  have hidle : ∀ request ∈ subscribing (ι := ι) tag fun _ _ => [], request.IsIdle := by
    simp [subscribing, Request.isIdle_iff, Command.isIdle_iff]
  exact (idle_executed hpatience hnew hidle).subscribers name

/-- A client of the courier that has subscribed. -/
def calling (react : Nat → Bytes → List (Command Unit)) : Client Unit Unit :=
  (subscribing "writer" react).foldl (fun c request => (execute couriered request).after c) caller

/-- A client of the hospitable server that has subscribed, and to which an event has come. -/
def called (react : Nat → Bytes → List (Command Script.Stimulus)) (data : Bytes) :
    Client Script Script.Stimulus :=
  guestAfter (subscribing "reader" react ++
    [.command (.stimulate (.deliver [.event (.frame (emitMessage "news" data).encode)]))])

/-- A value with members of every kind crosses. -/
theorem typed_event_crosses_specimen :
    let p := Payload.encode Payload.specimen
    let m := emitMessage "news" p
    let emitter := calling fun _ _ => []
    let receiver := called (fun _ _ => []) p
    (emitter.subscribers "news").map (·.callback.tag) = ["writer"] ∧
      (receiver.subscribers "news").map (·.callback.tag) = ["reader"] ∧
      Payload.decode p = .ok Payload.specimen ∧
      (∃ d e, emitTyped (runner couriered) "news" Payload.specimen emitter = .ok () d ∧
        process couriered d = .ok () e ∧ e.utterances = emitter.utterances ++ [m]) ∧
      ∃ whats later, ((drain hospitable 5).after receiver).history =
          receiver.history ++ .handled m :: (whats ++ later) ∧
        invocations whats = (receiver.subscribers "news").map fun s => .event s.callback.tag p := by
  intro p m emitter receiver
  have hwriter := approves_subscribing (w := couriered) (by decide)
    (enrolled_create create_caller).idle "writer" "news"
  have hreader := approves_subscribing (w := hospitable) (by decide)
    (enrolled_create create_guest).idle "reader" "news"
  obtain ⟨⟨-, -, -, hdecode⟩, -, hsent, -, htold⟩ :=
    @typed_event_crosses _ _ _ _ couriered hospitable emitter receiver "news" Payload.specimen [] 4
      (by decide) (by decide) Payload.specimen_plain (by decide) (by decide) courier_passive
      (by decide +kernel) (by decide +kernel) (by decide +kernel) (by decide) (by decide +kernel)
      (by decide +kernel) (by decide +kernel)
  exact ⟨by decide +kernel, by decide +kernel, hdecode, hsent hwriter, htold hreader⟩

/-- Emits what it is told, the first time. -/
def echo (before : Nat) (data : Bytes) : List (Command ι) :=
  if before = 0 then [.emit "news" data] else []

/-- A subscriber that emits in turn makes its client send more than the event, and is called
again for it, on either side. -/
theorem echoing_subscriber :
    let p := Payload.encode .null
    let m := emitMessage "news" p
    let emitter := calling echo
    let receiver := called echo p
    let emitting : Session Unit Unit Unit := do
      emitTyped (runner couriered) "news" .null
      process couriered
    (courier.Passive ∧ emitter.phase = .connected ∧ emitter.outbox = [] ∧ emitter.isIdle = true ∧
      emitting.succeeds emitter = true ∧
      (emitting.after emitter).utterances = emitter.utterances ++ [m, m]) ∧
    receiver.phase = .connected ∧ receiver.pending = [] ∧
      receiver.link.channel.queue = [.frame m.encode] ∧
      (receiver.subscribers "news").map (·.callback.tag) = ["reader"] ∧
      invocations ((process hospitable).after receiver).history =
        invocations receiver.history ++ [.event "reader" p, .event "reader" p] := by
  refine ⟨⟨courier_passive, ?_, ?_, ?_, ?_, ?_⟩, ?_, ?_, ?_, ?_, ?_⟩ <;> decide +kernel

end Session

end Realtime
