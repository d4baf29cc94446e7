import Realtime.Proofs.Client.Conservation

/-!
# Why a message is to be sent

While a client is connected, its outbox grows in two ways. A listener has decided about
an event, or a callback has given a command, and the journal names the command. So
whatever comes to the outbox has a cause, and nothing comes back to it by itself.

Results:
1. `perform_explains`, `runCommands_explains`: a command puts there what it says, and
   besides that what the callbacks it leads to have asked for.
2. `handle_connected`: how a connected client handles a message of the server.
-/

namespace Realtime

variable {σ ι : Type}

/-! ## Causes -/

/-- What a command says to the server, if it says anything. -/
def Command.wish? : Command ι → Option Message
  | .subscribe name _ _ => some (Client.eventMessage .subscribe name)
  | .unsubscribe name => some (Client.eventMessage .unsubscribe name)
  | .unsubscribeId name _ => some (Client.eventMessage .unsubscribe name)
  | .listen pattern _ _ _ => some (Client.eventMessage .listen pattern)
  | .unlisten pattern => some (Client.eventMessage .unlisten pattern)
  | .followPresence _ _ => some (Client.presenceMessage .subscribe)
  | .unfollowPresence _ => some (Client.presenceMessage .unsubscribe)
  | .unfollowAllPresence => some (Client.presenceMessage .unsubscribe)
  | .queryPresence _ _ => some Client.queryMessage
  | command => command.event?

/-- A command that emits JSON says an event, if it says anything. -/
theorem Command.eq_emitMessage_of_wish? {name text : String} {m : Message}
    (h : (emitJson name text : Command ι).wish? = some m) :
    ∃ data, m = Session.emitMessage name data := by
  simp only [wish?, event?] at h
  split at h
  · exact ⟨_, (Option.some.inj h).symm⟩
  · cases h

/-- The decision of a listener about an event. -/
def Message.isDecision (m : Message) : Bool :=
  m.header = ⟨.event, .listenAccept, false⟩ || m.header = ⟨.event, .listenReject, false⟩

/-- Among what was done, there is a reason to send the message. -/
def Caused (whats : List (Occurrence ι)) (m : Message) : Prop :=
  m.isDecision ∨ ∃ command result,
    Occurrence.performed command result ∈ whats ∧ command.wish? = some m

/-- Among what was done, there is a command of a callback that says the message. -/
def Requested (whats : List (Occurrence ι)) (m : Message) : Prop :=
  ∃ command result, Occurrence.performed command result ∈ whats ∧ command.wish? = some m

theorem Requested.mono {whats more : List (Occurrence ι)} {m : Message} (h : Requested whats m)
    (hmore : whats ⊆ more) : Requested more m := by
  obtain ⟨command, result, hperformed, hwish⟩ := h
  exact ⟨command, result, hmore hperformed, hwish⟩

namespace Client

variable {w : Surroundings σ ι} {c d e : Client σ ι} {due other : Message → Prop}

/-- Between two states of a client, nothing was sent, and what has come to the outbox is
due, or was requested by callbacks. -/
structure Explained (due : Message → Prop) (c d : Client σ ι) : Prop where
  phase : d.phase = c.phase
  sendQueue : d.events.sendQueue = c.events.sendQueue
  added : ∃ whats told, d.history = c.history ++ whats ∧ d.outbox = c.outbox ++ told ∧
    (∀ what ∈ whats, OwnDoing what) ∧ ∀ m ∈ told, due m ∨ Requested whats m

namespace Explained

theorem refl (c : Client σ ι) : Explained due c c where
  phase := rfl
  sendQueue := rfl
  added := ⟨[], [], by simp⟩

theorem trans (hfirst : Explained due c d) (hsecond : Explained due d e) : Explained due c e := by
  obtain ⟨front, early, hfront, hearly, hown, hcaused⟩ := hfirst.added
  obtain ⟨back, late, hback, hlate, hown', hcaused'⟩ := hsecond.added
  refine ⟨hsecond.phase.trans hfirst.phase, hsecond.sendQueue.trans hfirst.sendQueue,
    front ++ back, early ++ late, ?_, ?_, ?_, ?_⟩
  · rw [hback, hfront, List.append_assoc]
  · rw [hlate, hearly, List.append_assoc]
  · intro what hwhat
    exact (List.mem_append.mp hwhat).elim (hown what) (hown' what)
  · intro m hm
    rcases List.mem_append.mp hm with hm | hm
    · exact (hcaused m hm).imp_right (·.mono (List.subset_append_left _ _))
    · exact (hcaused' m hm).imp_right (·.mono (List.subset_append_right _ _))

theorem mono (h : Explained due c d) (hmore : ∀ m, due m → other m) : Explained other c d := by
  obtain ⟨whats, told, hhistory, houtbox, hown, hcaused⟩ := h.added
  exact ⟨h.phase, h.sendQueue, whats, told, hhistory, houtbox, hown,
    fun m hm => (hcaused m hm).imp_left (hmore m)⟩

theorem noted {what : Occurrence ι} (hwhat : OwnDoing what) : Explained due c (c.note what) where
  phase := rfl
  sendQueue := rfl
  added := ⟨[what], [], note_history .., (List.append_nil _).symm,
    fun _ hother => List.mem_singleton.mp hother ▸ hwhat,
    fun _ hm => absurd hm List.not_mem_nil⟩

/-- Bookkeeping of which the server is not told. -/
theorem silent (h : Clerical c d) (houtbox : d.outbox = c.outbox) : Explained due c d where
  phase := h.phase
  sendQueue := h.sendQueue
  added := ⟨[], [], by simp [history_eq_of_journal h.journal, houtbox]⟩

theorem posting {m : Message} (h : Clerical c d) (houtbox : d.outbox = c.outbox) (hm : due m) :
    Explained due c (d.post m) := by
  by_cases hin : d.phase = .connected
  · rw [post_of_connected d hin]
    refine ⟨h.phase, h.sendQueue, [], [m], ?_, ?_, fun _ hwhat => absurd hwhat List.not_mem_nil,
      fun other hother => .inl (List.mem_singleton.mp hother ▸ hm)⟩
    · rw [List.append_nil]
      exact history_eq_of_journal h.journal
    · exact congrArg (· ++ [m]) houtbox
  · rw [post_of_not_connected d hin]
    exact silent h houtbox

/-- Once it is written down that a command was performed, what it says has its cause. -/
theorem performed {command : Command ι} (h : Explained (command.wish? = some ·) c d)
    (result : Except Error Answer) : Explained due c (d.note (.performed command result)) := by
  obtain ⟨whats, told, hhistory, houtbox, hown, hcaused⟩ := h.added
  refine ⟨h.phase, h.sendQueue, whats ++ [.performed command result], told, ?_, houtbox, ?_, ?_⟩
  · rw [note_history, hhistory, List.append_assoc]
  · intro what hwhat
    rcases List.mem_append.mp hwhat with hold | hnew
    · exact hown what hold
    · exact List.mem_singleton.mp hnew ▸ .performed command result
  · intro m hm
    refine .inr ?_
    rcases hcaused m hm with hdue | hcaused
    · exact ⟨command, result, List.mem_append_right _ (.head _), hdue⟩
    · exact hcaused.mono (List.subset_append_left _ _)

end Explained

end Client

namespace Session

open Client

variable {w : Surroundings σ ι} {c d : Client σ ι} {due other : Message → Prop} {α β : Type}

/-- If the step returns, what it has put in the outbox of a connected client is due, or has
its cause in what was done. -/
def Explains (due : Message → Prop) (step : Session σ ι α) (c : Client σ ι) : Prop :=
  c.phase = .connected → step.returns c = true → Explained due c (step.after c)

namespace Explains

theorem of_pure (a : α) : Explains due (pure a) c :=
  fun _ _ => .refl c

theorem of_fail (x : Error) : Explains due (fail x : Session σ ι α) c :=
  fun _ _ => .refl c

theorem of_modify {change : Client σ ι → Client σ ι} (h : c.phase = .connected →
    Explained due c (change c)) : Explains due (modify change : Session σ ι PUnit) c :=
  fun hin _ => h hin

theorem of_modifyGet {change : Client σ ι → α × Client σ ι} (h : Explained due c (change c).2) :
    Explains due (modifyGet change) c :=
  fun _ _ => h

theorem of_get_bind {next : Client σ ι → Session σ ι β} (h : Explains due (next c) c) :
    Explains due (get >>= next) c :=
  h

theorem of_bind {step : Session σ ι α} {next : α → Session σ ι β} (hstep : Explains due step c)
    (hnext : ∀ a d, Explains due (next a) d) : Explains due (step >>= next) c := by
  intro hin hreturns
  have hfirst := hstep hin
  unfold returns after at hfirst
  unfold returns at hreturns
  unfold after
  cases hrun : step c with
  | ok a d =>
    rw [hrun] at hfirst
    rw [bind_of_ok hrun] at hreturns ⊢
    have hbefore : Explained due c d := hfirst rfl
    exact hbefore.trans (hnext a d (hbefore.phase.trans hin) hreturns)
  | error stop d =>
    rw [hrun] at hfirst
    rw [bind_of_error hrun] at hreturns ⊢
    cases stop with
    | failed x => exact hfirst rfl
    | exhausted => cases hreturns

theorem of_answer {step : Session σ ι α} {answer : α → β} (h : Explains due step c) :
    Explains due (step >>= fun a => pure (answer a)) c :=
  of_bind h fun _ _ => of_pure _

theorem of_forM {list : List β} {step : β → Session σ ι PUnit}
    (h : ∀ b d, Explains due (step b) d) : Explains due (list.forM step) c := by
  induction list generalizing c with
  | nil => exact of_pure _
  | cons b rest ih => exact of_bind (h b c) fun _ _ => ih

/-- An attempt at a command, which is then written down. -/
theorem of_attempt {command : Command ι} {step : Session σ ι Answer}
    (h : Explains (command.wish? = some ·) step c) :
    Explains due (do
      let result ← attempt step
      modify fun c => c.note (.performed command result)) c := by
  intro hin hreturns
  have hstep := h hin
  unfold returns after at hstep
  unfold returns at hreturns
  unfold after
  cases hrun : step c with
  | ok a d =>
    rw [hrun] at hstep
    rw [bind_of_ok (attempt_of_ok hrun)]
    exact (hstep rfl).performed _
  | error stop d =>
    rw [hrun] at hstep
    cases stop with
    | failed x =>
      rw [bind_of_ok (attempt_of_failed hrun)]
      exact (hstep rfl).performed _
    | exhausted =>
      rw [bind_of_error (attempt_of_exhausted hrun)] at hreturns
      cases hreturns

theorem mono {step : Session σ ι α} (h : Explains due step c) (hmore : ∀ m, due m → other m) :
    Explains other step c :=
  fun hin hreturns => (h hin hreturns).mono hmore

/-- A step of bookkeeping, by what it leaves. -/
theorem of_kept {step : Session σ ι α} (h : Explained due c (step.after c)) :
    Explains due step c :=
  fun _ _ => h

end Explains

/-! ## Callbacks -/

/-- Whatever commands a runner is given, what it puts in the outbox has its cause. -/
def Honest (run : Runner σ ι) : Prop :=
  ∀ commands c, Explains (fun _ => False) (run commands) c

variable {run : Runner σ ι}

theorem Honest.explains (hrun : Honest run) (commands : List (Command ι)) :
    Explains due (run commands) c :=
  (hrun commands c).mono fun _ => False.elim

theorem invoke_explains (hrun : Honest run) (callback : Callback ι α) (told : α)
    (what : Invocation) : Explains due (invoke run callback told what) c := by
  refine .of_bind (.of_modify fun _ => .noted (.invoked what)) fun _ d => ?_
  refine .of_bind (.of_modifyGet (.silent ((Clerical.refl d).counted _) rfl)) fun _ _ => ?_
  exact hrun.explains _

theorem notifySubscribers_explains (hrun : Honest run) (name : String) (data : Bytes) :
    Explains due (notifySubscribers run name data) c := by
  refine .of_get_bind ?_
  split
  · exact .of_pure _
  · exact .of_forM fun _ _ => invoke_explains hrun _ _ _

theorem notifyListener_explains (hrun : Honest run) (pattern name : String) (subscribed : Bool) :
    Explains (·.isDecision) (notifyListener run pattern name subscribed) c := by
  refine .of_get_bind ?_
  split
  · exact .of_pure _
  · next listener _ =>
    refine .of_bind (invoke_explains hrun _ _ _) fun _ d => ?_
    split
    · refine .of_modify fun _ => .posting (.refl d) rfl ?_
      split <;> rfl
    · exact .of_pure _

theorem notifyPresenceSubscribers_explains (hrun : Honest run) (user : String) (joined : Bool) :
    Explains due (notifyPresenceSubscribers run user joined) c :=
  .of_get_bind (.of_forM fun _ _ => invoke_explains hrun _ _ _)

theorem answerQuerents_explains (hrun : Honest run) (users : List String) :
    Explains due (answerQuerents run users) c := by
  refine .of_get_bind (.of_bind ?_ fun _ _ => .of_forM fun q d => ?_)
  · exact .of_modify fun _ => .silent ((Clerical.refl c).withQuerents []) rfl
  · exact .of_bind (.of_modify fun _ => .noted (.invoked _)) fun _ _ => hrun.explains _

theorem notifyEvent_explains (hrun : Honest run) (m : Message) :
    Explains (·.isDecision) (notifyEvent run m) c := by
  unfold notifyEvent
  split
  · exact notifySubscribers_explains hrun _ _
  · exact notifyListener_explains hrun _ _ _
  · exact notifyListener_explains hrun _ _ _
  · exact .of_pure _

theorem notifyPresence_explains (hrun : Honest run) (m : Message) :
    Explains due (notifyPresence run m) c := by
  unfold notifyPresence
  split
  · exact answerQuerents_explains hrun _
  · exact notifyPresenceSubscribers_explains hrun _ _
  · exact notifyPresenceSubscribers_explains hrun _ _
  · exact .of_pure _

/-! ## Commands -/

theorem enqueue_explains (m : Message) : Explains (m = ·) (enqueue m) c := by
  refine .of_modify fun hin => ?_
  show Explained (m = ·) c (if c.phase = .connected then (c.note (.emitted m)).post m else _)
  rw [if_pos hin]
  exact (Explained.noted (.emitted m)).trans (.posting (.refl _) rfl rfl)

theorem emit_explains (hrun : Honest run) (name : String) (data : Bytes) :
    Explains (emitMessage name data = ·) (emit run name data) c := by
  by_cases hname : name = ""
  · subst hname
    exact fun _ _ => .refl c
  cases hdata : Utf8.decode data with
  | error fault =>
    unfold emit
    rw [if_neg hname, hdata]
    exact .of_fail _
  | ok text =>
    rw [emit_eq hname hdata]
    exact .of_bind (enqueue_explains _) fun _ _ => notifySubscribers_explains hrun name data

theorem unsubscribe_explained (name : String) :
    Explained (some (eventMessage .unsubscribe name) = some ·) c ((unsubscribe name).after c) := by
  rw [unsubscribe_after]
  split
  · exact .posting ((Clerical.refl c).withSubscriptions _) rfl rfl
  · exact .refl c

theorem unsubscribeId_explained (name : String) (id : SubscriptionId) :
    Explained (some (eventMessage .unsubscribe name) = some ·) c
      ((unsubscribeId name id).after c) := by
  rw [unsubscribeId_after]
  split
  · exact .refl c
  · split
    · dsimp only
      split
      · exact unsubscribe_explained name
      · exact .silent ((Clerical.refl c).withSubscriptions _) rfl
    · exact .refl c

theorem subscribe_explained {name : String} (hname : name ≠ "") (tag : String)
    (react : Nat → Bytes → List (Command ι)) :
    Explained (some (eventMessage .subscribe name) = some ·) c
      ((subscribe name tag react).after c) := by
  have henrolled (table : NameMap (List (Subscription ι Bytes))) :=
    (Clerical.refl c).withTicket.withSubscriptions table
  rw [subscribe_after c hname]
  dsimp only
  split
  · exact .posting (henrolled _) rfl rfl
  · exact .silent (henrolled _) rfl

theorem listen_explained {pattern : String} (hpattern : pattern ≠ "") (tag : String)
    (accepts : Nat → String → Bool → Bool) (react : Nat → String → Bool → List (Command ι)) :
    Explained (some (eventMessage .listen pattern) = some ·) c
      ((listen pattern tag accepts react).after c) := by
  rw [listen_after c hpattern]
  split
  · exact .refl c
  · exact .posting ((Clerical.refl c).withSlot.withListeners _) rfl rfl

theorem unlisten_explained (pattern : String) :
    Explained (some (eventMessage .unlisten pattern) = some ·) c ((unlisten pattern).after c) := by
  rw [unlisten_after]
  split
  · exact .posting ((Clerical.refl c).withListeners _) rfl rfl
  · exact .refl c

theorem followPresence_explained (tag : String)
    (react : Nat → String → Bool → List (Command ι)) :
    Explained (some (presenceMessage .subscribe) = some ·) c
      ((followPresence tag react).after c) := by
  have henrolled (followers : List (Subscription ι (String × Bool))) :=
    (Clerical.refl c).withTicket.withFollowers followers
  rw [followPresence_after]
  dsimp only
  split
  · exact .posting (henrolled _) rfl rfl
  · exact .silent (henrolled _) rfl

theorem unfollowPresence_explained (id : SubscriptionId) :
    Explained (some (presenceMessage .unsubscribe) = some ·) c
      ((unfollowPresence id).after c) := by
  rw [unfollowPresence_after]
  split
  · dsimp only
    split
    · exact .posting ((Clerical.refl c).withFollowers _) rfl rfl
    · exact .silent ((Clerical.refl c).withFollowers _) rfl
  · exact .refl c

theorem queryPresence_explained (tag : String) (react : List String → List (Command ι)) :
    Explained (some queryMessage = some ·) c ((queryPresence tag react).after c) := by
  rw [queryPresence_after]
  dsimp only
  split
  · exact .posting ((Clerical.refl c).withQuerents _) rfl rfl
  · exact .silent ((Clerical.refl c).withQuerents _) rfl

/-- A command puts in the outbox what it says to the server. The rest is due to the
callbacks that it leads to. -/
theorem perform_explains (hrun : Honest run) (command : Command ι) :
    Explains (command.wish? = some ·) (perform w.transport run command) c := by
  cases command with
  | emit name data =>
    exact .of_answer ((emit_explains hrun name data).mono fun _ => congrArg some)
  | emitJson name text =>
    rw [perform]
    split
    · exact .of_fail _
    · next v htext =>
      refine .of_answer ((emit_explains hrun name (Payload.encode v)).mono fun m hm => ?_)
      simp only [Command.wish?, Command.event?, htext]
      exact congrArg some hm
  | subscribe name tag react =>
    by_cases hname : name = ""
    · subst hname
      exact fun _ _ => .refl c
    · exact .of_answer (.of_kept (subscribe_explained hname tag react))
  | unsubscribe name => exact .of_answer (.of_kept (unsubscribe_explained name))
  | unsubscribeId name id => exact .of_answer (.of_kept (unsubscribeId_explained name id))
  | listen pattern tag accepts react =>
    by_cases hpattern : pattern = ""
    · subst hpattern
      exact fun _ _ => .refl c
    · exact .of_answer (.of_kept (listen_explained hpattern tag accepts react))
  | unlisten pattern => exact .of_answer (.of_kept (unlisten_explained pattern))
  | followPresence tag react => exact .of_answer (.of_kept (followPresence_explained tag react))
  | unfollowPresence id => exact .of_answer (.of_kept (unfollowPresence_explained id))
  | unfollowAllPresence =>
    exact .of_answer (.of_kept (.posting ((Clerical.refl c).withFollowers []) rfl rfl))
  | queryPresence tag react => exact .of_answer (.of_kept (queryPresence_explained tag react))
  | stimulate i =>
    refine .of_bind (.of_modify fun _ => ?_) fun _ _ => .of_pure _
    exact ⟨rfl, rfl, [], [], by simp [history]⟩

/-- However deep the commands of callbacks lead, each of them is written down once it was
performed. -/
theorem runCommands_explains (depth : Nat) : Honest (runCommands w.transport depth) := by
  induction depth with
  | zero =>
    intro commands c
    cases commands with
    | nil => exact .of_pure _
    | cons => exact fun _ => nofun
  | succ depth ih =>
    intro commands c
    cases commands with
    | nil => exact .of_pure _
    | cons => exact .of_forM fun command _ => .of_attempt (perform_explains ih command)

theorem runner_honest : Honest (runner w) :=
  runCommands_explains w.patience

/-! ## Messages of the server -/

/-- What a connected client handles makes it say nothing but the answer to a heartbeat,
and brings nothing to its outbox without a cause. -/
structure Handled (m : Message) (c d : Client σ ι) : Prop where
  phase : d.phase = .connected
  sendQueue : d.events.sendQueue = c.events.sendQueue
  added : ∃ whats told, d.history = c.history ++ .handled m :: whats ∧
    d.outbox = c.outbox ++ told ∧ (∀ x ∈ told, Caused whats x) ∧
    ∀ x outcome, .sent x outcome ∈ whats → m.isPing ∧ x = .plain .connection .pong

/-- A connected client stays so, and passes every message on. -/
theorem handle_connected (hin : c.phase = .connected) (m : Message) :
    handle w m c = dispatch w m (c.note (.handled m)) := by
  have hnext : c.phase.next .server m = .connected := by
    rw [hin, Phase.next_connected]
  have hentered : (c.note (.handled m)).enter .connected = c.note (.handled m) := if_pos hin
  rw [handle_eq (by rw [hnext]; exact nofun), hnext, hentered]
  rfl

theorem handled_of_explained {m : Message} (hin : c.phase = .connected)
    (h : Explained (·.isDecision) (c.note (.handled m)) d) : Handled m c d := by
  obtain ⟨whats, told, hhistory, houtbox, hown, hcaused⟩ := h.added
  refine ⟨h.phase.trans hin, h.sendQueue, whats, told, ?_, houtbox, fun x hx => ?_, ?_⟩
  · rw [hhistory, note_history, List.append_assoc]
    rfl
  · exact hcaused x hx
  · intro x outcome hsent
    cases hown _ hsent

theorem handled_of_sent {m : Message} {outcome : Except Error Unit} (hin : d.phase = .connected)
    (hping : m.isPing) (hevents : d.events = c.events) (houtbox : d.outbox = c.outbox)
    (hhistory : d.history =
      (c.note (.handled m)).history ++ [.sent (.plain .connection .pong) outcome]) :
    Handled m c d := by
  refine ⟨hin, congrArg _ hevents, [.sent (.plain .connection .pong) outcome], [], ?_, ?_,
    fun _ hx => absurd hx List.not_mem_nil, ?_⟩
  · rw [hhistory, note_history, List.append_assoc]
    rfl
  · rw [houtbox, List.append_nil]
  · intro x outcome' hsent
    cases List.mem_singleton.mp hsent
    exact ⟨hping, rfl⟩

theorem handle_handled (hin : c.phase = .connected) {m : Message}
    (hreturns : (handle w m).returns c = true) : Handled m c ((handle w m).after c) := by
  have hnoted : (c.note (.handled m)).phase = .connected := hin
  unfold returns at hreturns
  unfold after
  rw [handle_connected hin] at hreturns ⊢
  change (dispatch w m).returns (c.note (.handled m)) = true at hreturns
  show Handled m c ((dispatch w m).after (c.note (.handled m)))
  unfold dispatch at hreturns ⊢
  split at hreturns
  · next htopic =>
    rw [after_ite]
    split
    · next haction =>
      have hping : m.isPing := by simp [Message.isPing, htopic, haction]
      unfold after
      rw [send_eq, hnoted, Phase.next_connected, if_neg nofun]
      split
      · next hsent =>
        split at hsent
        · cases hsent
          refine handled_of_sent ?_ hping rfl rfl (delivered_history ..)
          rw [delivered_phase, hnoted, Phase.next_connected]
        · cases hsent
      · next hsent =>
        split at hsent
        · cases hsent
        · cases hsent
          exact handled_of_sent hin hping rfl rfl (undelivered_history ..)
    · exact handled_of_explained hin (.refl _)
  · exact handled_of_explained hin (notifyEvent_explains runner_honest m hnoted hreturns)
  · exact handled_of_explained hin (notifyPresence_explains runner_honest m hnoted hreturns)
  · exact handled_of_explained hin (.refl _)

end Session

end Realtime
