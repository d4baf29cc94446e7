import Realtime.Proofs.Client.Causes
import Realtime.Proofs.Client.Intake
import Realtime.Proofs.Client.Reports

/-!
# What a client says before processing fails

`reports_match` leaves it open whether an error that a request fails with was told to the error
handler. Processing tells it every error but one: if the transport refuses the answer to a
heartbeat, processing fails with what the transport says, and nothing is told.

A step that ends with a value tells nothing, and one that fails writes its complaint down at the
very end. So which complaint it is can be read off how the journal ends.

Results:
1. `Complains.of_bind`: a step complains if its parts do.
2. `drain_complains`, `flush_complains`: hearing the server out and sending the outbox do.
3. `process_untold_iff`: which failures of processing the error handler is not told of.
4. `process_untold`: there is such a failure.
-/

namespace Realtime

variable {σ ι : Type}

namespace Client

variable {w : Surroundings σ ι} {c d e : Client σ ι} {x : Error}

/-- Between two states, the error handler was told nothing. -/
def Untold (c d : Client σ ι) : Prop :=
  ∃ whats, d.history = c.history ++ whats ∧ ∀ what ∈ whats, what.reported? = none

namespace Untold

theorem of_writes (h : Writes (fun entry => entry.what.reported? = none) c d) : Untold c d :=
  history_of_entries (P := fun what => what.reported? = none) h

theorem of_journal_eq (h : d.journal = c.journal) : Untold c d :=
  of_writes (.of_journal_eq h)

theorem of_noted {what : Occurrence ι} (h : d.journal = (c.note what).journal)
    (hwhat : what.reported? = none) : Untold c d :=
  of_writes (.of_noted h hwhat)

theorem refl (c : Client σ ι) : Untold c c :=
  of_journal_eq rfl

theorem trans (hfirst : Untold c d) (hsecond : Untold d e) : Untold c e := by
  obtain ⟨front, hfront, hsilent⟩ := hfirst
  obtain ⟨back, hback, hsilent'⟩ := hsecond
  exact ⟨front ++ back, by rw [hback, hfront, List.append_assoc],
    List.forall_mem_append.mpr ⟨hsilent, hsilent'⟩⟩

/-- What each move of a walk leaves untold, the walk does. -/
theorem of_walk (h : Relation.ReflTransGen (Act w) c d) : Untold c d := by
  refine of_writes (.of_walk h fun c d hact => ?_)
  obtain hsame | ⟨what, hwhat, hjournal⟩ := hact.journal
  · exact .of_journal_eq hsame
  · refine .of_noted hjournal ?_
    cases hwhat <;> rfl

end Untold

/-- What is written down last when processing fails with an error. -/
inductive Complaint (x : Error) : List (Occurrence ι) → Prop
  | told : Complaint x [.reported x]
  /-- All that is wrong with a frame is told, and the connection is closed. -/
  | malformed {first : Frame.Fault} {others : List Frame.Fault} {outcome : Except Error Unit} :
      x = .frame first →
      Complaint x ((first :: others).map (fun fault => .reported (.frame fault)) ++
        [.closed outcome])
  /-- The transport refuses the answer to a heartbeat. -/
  | rebuffed {m : Message} : m.isPing →
      Complaint x [.handled m, .sent (.plain .connection .pong) (.error x)]

/-- A complaint tells its error, and ends with something else than what was sent, unless it is about
the answer to a heartbeat. -/
theorem Complaint.told_or_rebuffed {back : List (Occurrence ι)} (h : Complaint x back) :
    (.reported x ∈ back ∧
      ∃ last, back.getLast? = some last ∧ ∀ m outcome, last ≠ .sent m outcome) ∨
    ∃ m : Message, m.isPing = true ∧
      back = [.handled m, .sent (.plain .connection .pong) (.error x)] := by
  cases h with
  | told => exact .inl ⟨List.mem_cons_self, _, rfl, fun _ _ => nofun⟩
  | malformed hx =>
    refine .inl ⟨?_, _, List.getLast?_concat, fun _ _ => nofun⟩
    rw [hx]
    exact List.mem_append_left _ List.mem_cons_self
  | @rebuffed m hping => exact .inr ⟨m, hping, rfl⟩

/-- Between two states, nothing was told before the complaint about an error. -/
def Complained (x : Error) (c d : Client σ ι) : Prop :=
  ∃ front back, d.history = c.history ++ (front ++ back) ∧
    (∀ what ∈ front, what.reported? = none) ∧ Complaint x back

namespace Complained

theorem of_history {back : List (Occurrence ι)} (h : d.history = c.history ++ back)
    (hback : Complaint x back) : Complained x c d :=
  ⟨[], back, h, fun _ => nofun, hback⟩

/-- What comes before a complaint tells nothing. -/
theorem after_untold (hfirst : Untold c d) (h : Complained x d e) : Complained x c e := by
  obtain ⟨before, hbefore, hsilent⟩ := hfirst
  obtain ⟨front, back, hhistory, hfront, hback⟩ := h
  refine ⟨before ++ front, back, ?_, ?_, hback⟩
  · rw [hhistory, hbefore, List.append_assoc, List.append_assoc]
  · exact List.forall_mem_append.mpr ⟨hsilent, hfront⟩

end Complained

theorem reported?_flushing (ms : List Message) :
    ∀ what ∈ (ms.flatMap flushing : List (Occurrence ι)), what.reported? = none := by
  intro what hwhat
  obtain ⟨m, -, hwhat⟩ := List.mem_flatMap.mp hwhat
  simp only [flushing, List.mem_cons, List.not_mem_nil, or_false] at hwhat
  obtain rfl | rfl := hwhat <;> rfl

/-- A flush that empties the outbox tells nothing. -/
theorem Emptied.untold (h : Emptied c d) : Untold c d :=
  ⟨_, h.history, reported?_flushing c.outbox⟩

/-- Whatever a flush gets stuck on, it is told at the end. -/
theorem Stuck.complained (h : Stuck x c d) : Complained x c d := by
  cases h with
  | @disallowed front back m _ _ hhistory =>
    refine ⟨front.flatMap flushing ++ [.flushed m], [.reported x], ?_, ?_, .told⟩
    · simp [hhistory]
    · exact List.forall_mem_append.mpr
        ⟨reported?_flushing front, List.forall_mem_singleton.mpr rfl⟩
  | @refused front back m _ _ hhistory =>
    refine ⟨front.flatMap flushing ++ [.flushed m, .sent m (.error x)], [.reported x], ?_, ?_,
      .told⟩
    · simp [hhistory]
    · refine List.forall_mem_append.mpr ⟨reported?_flushing front, fun what hwhat => ?_⟩
      simp only [List.mem_cons, List.not_mem_nil, or_false] at hwhat
      obtain rfl | rfl := hwhat <;> rfl

end Client

namespace Session

open Client

variable {α β : Type} {w : Surroundings σ ι} {c d : Client σ ι} {m : Message}

/-! ## Steps that complain -/

/-- The error handler is told nothing by the step if it ends with a value. If it fails, nothing
was told before its complaint. -/
def Complains (step : Session σ ι α) (c : Client σ ι) : Prop :=
  Ends (fun _ d => Untold c d) (fun stop d => ∀ x, stop = .failed x → Complained x c d) step c

namespace Complains

variable {step : Session σ ι α}

theorem of_bind {next : α → Session σ ι β} (hstep : Complains step c)
    (hnext : ∀ a d, step c = .ok a d → Complains (next a) d) : Complains (step >>= next) c := by
  refine Ends.intro (fun b e hrun => ?_) fun stop e hrun x hx => ?_
  · obtain ⟨a, d, hfirst, hlast⟩ := bind_eq_ok hrun
    exact (hstep.ok hfirst).trans ((hnext a d hfirst).ok hlast)
  · obtain hfailed | ⟨a, d, hfirst, hlast⟩ := bind_eq_error hrun
    · exact hstep.error hfailed x hx
    · exact .after_untold (hstep.ok hfirst) ((hnext a d hfirst).error hlast x hx)

theorem of_pure (a : α) : Complains (pure a : Session σ ι α) c :=
  Ends.of_ok rfl (.refl c)

theorem of_exhausted : Complains (throw .exhausted : Session σ ι α) c :=
  fun _ => nofun

theorem of_modify {change : Client σ ι → Client σ ι} (h : Untold c (change c)) :
    Complains (modify change : Session σ ι PUnit) c :=
  Ends.of_ok rfl h

/-- A step of the client's own that ends with a value, if it ends. -/
theorem of_acts (hunfailing : Unfailing step) (h : Walks (Act w) step c) : Complains step c :=
  Ends.intro (fun _ _ hrun => .of_walk (h.to_ok hrun))
    fun _ d hrun x hx => absurd (hx ▸ hrun) (hunfailing c x d)

end Complains

theorem failReported_complains (x : Error) : Complains (failReported x : Session σ ι α) c := by
  intro y hy
  cases hy
  exact .of_history (note_history ..) .told

theorem shut_untold (t : Transport σ ι) (c : Client σ ι) : Untold c (c.shut t) := by
  have hjournal : (c.shut t).journal =
      (c.note (.closed (c.link.call t .closeLink).1)).journal := by
    rw [shut_eq]
    rfl
  exact .of_noted hjournal rfl

/-! ## The next message -/

theorem heed_complains (wait : Bool) {item : Option Item}
    (hitem : ∀ frame, item = some (.malformed frame) → (Frame.read frame).faults ≠ []) :
    Complains (heed w.transport wait item) c := by
  cases item with
  | none =>
    have hread : Complains (get : Session σ ι (Client σ ι)) c := .of_pure c
    refine .of_bind hread fun _ d _ => ?_
    split
    · exact failReported_complains _
    · exact .of_pure _
  | some item =>
    cases item with
    | message m => exact .of_pure _
    | failed reason => exact failReported_complains _
    | closed =>
      refine .of_bind (.of_modify ?_) fun _ _ _ => failReported_complains _
      rw [enter_disconnected]
      exact .of_journal_eq rfl
    | malformed frame =>
      obtain ⟨first, others, hfaults⟩ := List.exists_cons_of_ne_nil (hitem frame rfl)
      obtain ⟨outcome, hshut⟩ := shut_history w.transport (c.complaining (first :: others))
      rw [complaining_history, List.append_assoc] at hshut
      unfold Complains Ends
      rw [heed_malformed w.transport wait hfaults]
      rintro _ ⟨⟩
      exact .of_history hshut (.malformed rfl)

theorem nextMessage_complains (wait : Bool) : Complains (nextMessage w.transport wait) c := by
  unfold Complains Ends
  rw [nextMessage_eq]
  exact heed_complains wait fun frame hframe =>
    Inbox.faults_of_mem_items (Inbox.mem_items_of_next (.inl hframe))

/-! ## Messages of the server -/

theorem invoke_unfailing (callback : Callback ι α) (told : α) (what : Invocation) :
    Unfailing (invoke (runner w) callback told what) :=
  .of_bind (.of_modify _) fun _ => .of_bind (fun _ _ _ => nofun) fun _ =>
    runCommands_unfailing w.transport w.patience _

/-- Whatever there is to tell a program, it can be told. -/
theorem tell_unfailing (notice : Notice) : Unfailing (tell (runner w) notice) := by
  have hlook {next : Client σ ι → Session σ ι Unit} (h : ∀ c, Unfailing (next c)) :
      Unfailing (get >>= next) :=
    .of_bind (fun _ _ _ => nofun) h
  cases notice with
  | event name data =>
    exact notifySubscribers_unfailing (runCommands_unfailing w.transport w.patience) name data
  | listened pattern name subscribed =>
    refine hlook fun c => ?_
    split
    · exact .of_pure _
    · refine .of_bind (invoke_unfailing _ _ _) fun _ => ?_
      split
      · exact .of_modify _
      · exact .of_pure _
  | users list =>
    exact hlook fun c => .of_bind (.of_modify _) fun _ => .of_forM fun q =>
      .of_bind (.of_modify _) fun _ => runCommands_unfailing w.transport w.patience _
  | presence user joined => exact hlook fun c => .of_forM fun s => invoke_unfailing _ _ _

/-- While the connection lives, the answer to a heartbeat is allowed, so that only the transport can
refuse it. -/
theorem pong_ends (hlives : c.phase.isTerminal = false) :
    Ends (fun _ d => Untold c d)
      (fun stop d => ∀ x, stop = .failed x →
        d.history = c.history ++ [.sent (.plain .connection .pong) (.error x)])
      (send w.transport (.plain .connection .pong)) c := by
  have hallowed : c.phase.next .client (.plain .connection .pong) = c.phase := by
    rw [Phase.next, hlives]
    rfl
  have hsound : c.phase ≠ .error := fun herror => by
    rw [herror] at hlives
    cases hlives
  unfold Ends
  rw [send_eq, hallowed, if_neg hsound]
  cases (c.link.call w.transport (.send (Message.plain .connection .pong).encode)).1 with
  | ok _ => exact .of_noted (delivered_journal ..) rfl
  | error y =>
    rintro _ ⟨⟩
    exact undelivered_history ..

/-- What a client does with a message that has just taken effect. -/
theorem dispatch_complains (hlives : d.phase.isTerminal = false)
    (hjournal : d.journal = (c.note (.handled m)).journal) :
    Ends (fun _ e => Untold c e) (fun stop e => ∀ x, stop = .failed x → Complained x c e)
      (dispatch w m) d := by
  have hhandled : Untold c d := .of_noted hjournal rfl
  rw [dispatch_eq]
  cases hping : m.isPing with
  | true =>
    refine (pong_ends hlives).mono (fun _ e => hhandled.trans) fun stop e hrefused x hx => ?_
    have hhistory := hrefused x hx
    rw [history_eq_of_noted hjournal, List.append_assoc] at hhistory
    exact .of_history hhistory (.rebuffed hping)
  | false =>
    cases m.notice? with
    | none => exact hhandled
    | some notice =>
      have htelling : Complains (tell (runner w) notice) d :=
        .of_acts (tell_unfailing notice) (tell_walks notice)
      exact htelling.mono (fun _ e => hhandled.trans)
        fun stop e hcomplained x hx => .after_untold hhandled (hcomplained x hx)

theorem handle_complains (m : Message) : Complains (handle w m) c := by
  unfold Complains Ends
  by_cases hnext : c.phase.next .server m = .error
  · rw [handle_of_error hnext]
    have hrefused : Complains (refuse w c.phase m) c :=
      .of_bind (.of_modify (shut_untold w.transport c)) fun _ _ _ => failReported_complains _
    exact hrefused
  · have hjournal : ((c.note (.handled m)).enter (c.phase.next .server m)).journal =
        (c.note (.handled m)).journal := enter_journal ..
    rw [handle_eq hnext]
    by_cases hgone : c.phase.next .server m = .disconnected
    · rw [if_pos hgone]
      have hhandled : Untold c ((c.note (.handled m)).enter (c.phase.next .server m)) :=
        .of_noted hjournal rfl
      exact hhandled.trans (.of_noted (closeLink_journal ..) rfl)
    · rw [if_neg hgone]
      have hlives : (c.phase.next .server m).isTerminal = false := by
        simp [Phase.isTerminal, hnext, hgone]
      exact dispatch_complains (by rw [enter_phase]; exact hlives) hjournal

theorem drain_complains (rounds : Nat) : Complains (drain w rounds) c := by
  induction rounds generalizing c with
  | zero => exact .of_exhausted
  | succ rounds ih =>
    refine .of_bind (nextMessage_complains false) fun found d _ => ?_
    cases found with
    | none => exact .of_pure _
    | some m => exact .of_bind (handle_complains m) fun _ _ _ => ih

theorem flush_complains : Complains (flush w.transport) c :=
  Ends.intro (fun _ _ hrun => (flush_ok hrun).untold)
    fun _ _ hrun _ hx => (flush_failed (hx ▸ hrun)).complained

theorem process_complains : Complains (process w) c :=
  .of_bind (drain_complains w.patience) fun _ _ _ => flush_complains

/-- Whatever the transport does and whatever state a client is in, the error handler is told of the
error that processing fails with, unless the client has just handled a heartbeat, and the
transport has refused the answer with that error. In that case it is told nothing at all. -/
theorem process_untold_iff {x : Error} (h : process w c = .error (.failed x) d) :
    ∃ whats, d.history = c.history ++ whats ∧
      (.reported x ∉ whats ↔ ∃ before m, m.isPing = true ∧
        whats = before ++ [.handled m, .sent (.plain .connection .pong) (.error x)]) ∧
      (.reported x ∉ whats → ∀ y, .reported y ∉ whats) := by
  obtain ⟨front, back, hhistory, hfront, hback⟩ := process_complains.error h x rfl
  refine ⟨front ++ back, hhistory, ?_⟩
  obtain ⟨htold, last, hlast, hother⟩ | ⟨m, hping, rfl⟩ := hback.told_or_rebuffed
  · have hmem : .reported x ∈ front ++ back := List.mem_append_right _ htold
    refine ⟨⟨fun huntold => absurd hmem huntold, ?_⟩, fun huntold => absurd hmem huntold⟩
    rintro ⟨before, m, -, hwhats⟩
    have hsame := congrArg List.getLast? hwhats
    rw [List.getLast?_append, hlast, List.getLast?_append] at hsame
    exact absurd (Option.some_inj.mp hsame) (hother _ _)
  · have huntold (y : Error) : .reported y ∉ front ++
        [.handled m, .sent (.plain .connection .pong) (.error x)] := by
      intro hy
      obtain hy | hy := List.mem_append.mp hy
      · cases hfront _ hy
      · simp at hy
    exact ⟨⟨fun _ => ⟨front, m, hping, rfl⟩, fun _ => huntold x⟩, fun _ => huntold⟩

/-! ### A heartbeat whose answer does not get through -/

/-- A server that lets every client in, behind a line that carries no answers to heartbeats. -/
def crackling : List Script.Rule :=
  { on := "C|PO", failure := some (.send "broken pipe") } :: Script.welcome

def crackled : Client Script Script.Stimulus :=
  { guest with link := { guest.link with state := { rules := crackling } } }

/-- The client has connected and logged in, and a heartbeat has come. -/
def crackledAfter : Client Script Script.Stimulus :=
  List.foldl (fun c request => (execute hospitable request).after c) crackled
    [.connect, .login "auth", .command (.stimulate (.deliver [Script.frame "C|PI+"]))]

theorem process_untold_iff_crackled :
    ∃ d whats, process hospitable crackledAfter = .error (.failed (.send "broken pipe")) d ∧
      d.history = crackledAfter.history ++ whats ∧
      ∃ before m, m.isPing = true ∧ whats = before ++
        [.handled m, .sent (.plain .connection .pong) (.error (.send "broken pipe"))] := by
  have hrun : process hospitable crackledAfter = .error (.failed (.send "broken pipe"))
      ((process hospitable).after crackledAfter) :=
    eq_failed_of_failure? (by decide +kernel)
  obtain ⟨whats, hhistory, hiff, -⟩ := process_untold_iff hrun
  refine ⟨_, whats, hrun, hhistory, hiff.mp fun htold => ?_⟩
  have hnone : ((process hospitable).after crackledAfter).reports = [] := by decide +kernel
  rw [reports, hhistory, List.filterMap_append, List.append_eq_nil_iff] at hnone
  exact absurd (List.filterMap_eq_nil_iff.mp hnone.2 _ htold) nofun

/-- A client that can be come to fails to process a heartbeat, and its error handler is told
nothing. -/
theorem process_untold :
    create hospitable "ws://server" .standard { rules := crackling } = .ok crackled ∧
      (∃ start, Reached hospitable start crackledAfter) ∧
      ∃ d, process hospitable crackledAfter = .error (.failed (.send "broken pipe")) d ∧
        d.reports = [] := by
  have hmade : create hospitable "ws://server" .standard { rules := crackling } = .ok crackled :=
    rfl
  refine ⟨hmade, (Reached.created hmade).of_allReturn (by decide +kernel), ?_⟩
  exact ⟨_, eq_failed_of_failure? (by decide +kernel), by decide +kernel⟩

end Session

end Realtime
