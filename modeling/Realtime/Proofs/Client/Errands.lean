import Realtime.Proofs.Client.Subscriptions
import Realtime.Proofs.Client.Tally

/-!
# What keeps a connected client busy

While a client is connected, its program gives it commands, and its server sends it messages. Each
of them is an errand, which the client attends to before it turns to the next one. Attending to an
errand is made of acts, but for a heartbeat, which concerns neither the books nor the outbox.

If callbacks ask for nothing, it can be said outright what an errand leads to. A command changes
what it is about, tells the server of that at most, and calls subscribers of an event at most. A
message calls those whom its notice calls for, and changes nothing besides.

Results:
1. `attend_acts`: attending to an errand is made of acts.
2. `perform_obeys`: what a command does, if callbacks ask for nothing.
3. `handle_heeds`: what a message does.
4. `phase_busied`, `idle_busied`: errands one after the other.
5. `idle_executed`: whatever a program asks for, callbacks go on asking for nothing.
-/

namespace Realtime

variable {σ ι : Type}

/-- What a connected client has to attend to. -/
inductive Errand (ι : Type) where
  /-- The program gives a command. -/
  | command (c : Command ι)
  /-- The server has sent a message. -/
  | message (m : Message)

/-- No callback that the errand registers asks anything of the client. -/
def Errand.IsIdle (errand : Errand ι) : Prop :=
  ∀ command other, errand = .command command → command.Leads other → other.isStimulus

theorem Errand.isIdle_iff (errand : Errand ι) : errand.IsIdle ↔
    ∀ command, errand = .command command → command.IsIdle :=
  ⟨fun h command hsame other => h command other hsame,
    fun h command other hsame => h command hsame other⟩

/-- Attends to an errand. -/
def Session.attend (w : Surroundings σ ι) : Errand ι → Session σ ι Unit
  | .command c => do
    let _ ← perform w.transport (runner w) c
    pure ()
  | .message m => handle w m

namespace Client

/-- The client as it comes to be connected: it has put in its outbox what the server has to be
told. -/
def welcomed (c : Client σ ι) : Client σ ι :=
  replay { c with phase := .connected }

/-- The client after it has attended to some errands. -/
def busied (w : Surroundings σ ι) (c : Client σ ι) (errands : List (Errand ι)) : Client σ ι :=
  errands.foldl (fun c errand => (Session.attend w errand).after c) c

variable {w : Surroundings σ ι} {c d e : Client σ ι} {m : Message}

theorem busied_append (front back : List (Errand ι)) :
    c.busied w (front ++ back) = (c.busied w front).busied w back :=
  List.foldl_append

theorem busied_concat (front : List (Errand ι)) (errand : Errand ι) :
    c.busied w (front ++ [errand]) = (Session.attend w errand).after (c.busied w front) :=
  busied_append front [errand]

end Client

namespace Session

open Client

variable {w : Surroundings σ ι} {c d : Client σ ι} {m : Message}

/-- To send the answer to a heartbeat, whether the transport takes it or not, leaves a connected
client as it is. -/
theorem pong_immaterial (hin : c.phase = .connected) :
    Immaterial c ((send w.transport (.plain .connection .pong)).after c) ∧
      ∃ outcome, ((send w.transport (.plain .connection .pong)).after c).history =
        c.history ++ [.sent (.plain .connection .pong) outcome] := by
  have hsame : c.phase.next .client (.plain .connection .pong) = c.phase := by
    rw [hin, Phase.next_connected]
  have hsound : c.phase ≠ .error := hin ▸ nofun
  unfold after
  rw [send_eq, hsame, if_neg hsound]
  cases (c.link.call w.transport (.send (Message.plain .connection .pong).encode)).1 with
  | ok _ =>
    refine ⟨?_, _, delivered_history ..⟩
    rw [delivered, hsame]
    exact ⟨_, _, rfl⟩
  | error x => exact ⟨⟨_, _, rfl⟩, _, undelivered_history ..⟩

/-- However the callbacks react, attending to an errand is made of acts, except that a message is
written down first, and that a heartbeat is answered. -/
theorem attend_acts (hin : c.phase = .connected) (errand : Errand ι) :
    ∃ d, Immaterial c d ∧ Relation.ReflTransGen (Act w) d ((attend w errand).after c) := by
  cases errand with
  | command command =>
    exact ⟨c, .refl c, Walks.of_answer (perform_walks runner_tame command)⟩
  | message m =>
    have hnoted : Immaterial c (c.note (.handled m)) := .noted c _
    show ∃ d, _ ∧ Relation.ReflTransGen (Act w) d ((handle w m).after c)
    unfold after
    rw [handle_connected hin, dispatch_eq]
    change ∃ d, _ ∧ Relation.ReflTransGen (Act w) d
      (Session.after _ (c.note (.handled m)))
    split
    · exact ⟨_, hnoted.trans (pong_immaterial (c := c.note (.handled m)) hin).1, .refl⟩
    · cases m.notice? with
      | none => exact ⟨_, hnoted, .refl⟩
      | some notice => exact ⟨_, hnoted, tell_walks notice⟩

end Session

/-! ## Commands -/

/-- The command asks for everyone who is logged in. -/
def Command.isQuery : Command ι → Bool
  | .queryPresence _ _ => true
  | _ => false

/-- The pattern for which the command begins or ceases to listen. -/
def Command.pattern? : Command ι → Option String
  | .listen pattern _ _ _ | .unlisten pattern => some pattern
  | _ => none

theorem Command.wish?_of_event? {command : Command ι} {m : Message} (h : command.event? = some m) :
    command.wish? = some m := by
  cases command with
  | emit | emitJson => exact h
  | _ => cases h

namespace Client

variable {w : Surroundings σ ι} {c d e : Client σ ι} {command : Command ι} {m : Message}

theorem Immaterial.idle (h : Immaterial c d) (hidle : c.Idle) : d.Idle := by
  obtain ⟨link, journal, rfl⟩ := h
  exact hidle

/-- Between two states, a command was obeyed, and callbacks asked for nothing: the listeners have
changed only if it is about a pattern, and the querents only if it is a query. The server is to be
told what the command says, if anything, and no one was called but subscribers of an event, nor was
a call of anyone else counted. -/
structure Obeys (command : Command ι) (c d : Client σ ι) : Prop where
  phase : d.phase = c.phase
  idle : d.Idle
  listeners : command.pattern? = none → d.events.listeners = c.events.listeners
  querents : command.isQuery = false → d.presence.querents = c.presence.querents
  told : ∃ told, d.outbox = c.outbox ++ told ∧ ∀ m ∈ told, command.wish? = some m
  history : ∃ whats, d.history = c.history ++ whats ∧ (∀ what ∈ whats, OwnDoing what) ∧
    ∀ i ∈ invocations whats, i.isNews
  unasked : Unasked c d

namespace Obeys

/-- Nothing was written down or told, and the books are kept. -/
theorem kept (hclerical : Clerical c d) (houtbox : d.outbox = c.outbox) (hidle : d.Idle)
    (hlisteners : command.pattern? = none → d.events.listeners = c.events.listeners)
    (hquerents : command.isQuery = false → d.presence.querents = c.presence.querents)
    (hunasked : Unasked c d) : Obeys command c d where
  phase := hclerical.phase
  idle := hidle
  listeners := hlisteners
  querents := hquerents
  told := ⟨[], houtbox.trans (List.append_nil _).symm, List.forall_mem_nil _⟩
  history := ⟨[], (history_eq_of_journal hclerical.journal).trans (List.append_nil _).symm,
    List.forall_mem_nil _, List.forall_mem_nil _⟩
  unasked := hunasked

theorem refl (hidle : c.Idle) : Obeys command c c :=
  kept (.refl c) rfl hidle (fun _ => rfl) (fun _ => rfl) (.of_calls rfl)

theorem post (h : Obeys command c d) (hm : command.wish? = some m) :
    Obeys command c (d.post m) := by
  by_cases hin : d.phase = .connected
  · rw [post_of_connected d hin]
    obtain ⟨told, houtbox, hwish⟩ := h.told
    refine { h with
      idle := h.idle.withOutbox fun _ _ => trivial
      told := ⟨told ++ [m], ?_, ?_⟩
      unasked := h.unasked.of_eq rfl }
    · rw [← List.append_assoc, ← houtbox]
    · exact List.forall_mem_append.mpr ⟨hwish, List.forall_mem_singleton.mpr hm⟩
  · rw [post_of_not_connected d hin]
    exact h

/-- What callbacks do that ask for nothing makes no difference, if those that are called are
subscribers of an event. -/
theorem called {list : List Invocation} {slots : List Nat} (h : Obeys command c d)
    (himmaterial : Immaterial (d.counted slots) e) (hcalled : Called list d e)
    (hlist : ∀ i ∈ list, i.isNews)
    (hslots : ∀ slot ∈ slots, ∃ name, ∃ s ∈ c.subscribers name, s.callback.slot = slot) :
    Obeys command c e := by
  obtain ⟨early, hearly, hown, hnews⟩ := h.history
  obtain ⟨late, hlate, hreactions, rfl⟩ := hcalled.reactions
  have hhistory : e.history = c.history ++ (early ++ late) := by
    rw [hlate, hearly, List.append_assoc]
  have hidle := himmaterial.idle (h.idle.numbered d.nextId _)
  obtain ⟨link, journal, rfl⟩ := himmaterial
  refine ⟨h.phase, hidle, h.listeners, h.querents, h.told, ⟨_, hhistory, ?_, ?_⟩, ?_⟩
  · refine List.forall_mem_append.mpr ⟨hown, fun what hwhat => ?_⟩
    have hreaction := hreactions what hwhat
    unfold Occurrence.isReaction at hreaction
    split at hreaction
    · exact .invoked _
    · exact .performed _ _
    · cases hreaction
  · rw [invocations_append]
    exact List.forall_mem_append.mpr ⟨hnews, hlist⟩
  · exact (h.unasked.counted hslots).of_eq rfl

end Obeys

end Client

namespace Session

open Client

variable {w : Surroundings σ ι} {c d : Client σ ι} {command : Command ι}

theorem enqueue_obeys (hidle : c.Idle) {m : Message} (hm : command.event? = some m) :
    Obeys command c ((enqueue m).after c) := by
  have hnoted : Obeys command c (c.note (.emitted m)) := by
    refine ⟨rfl, hidle, fun _ => rfl, fun _ => rfl, ⟨[], (List.append_nil _).symm,
      List.forall_mem_nil _⟩, ⟨[.emitted m], note_history .., ?_, List.forall_mem_nil _⟩,
      .of_calls rfl⟩
    exact List.forall_mem_singleton.mpr (.emitted m)
  show Obeys command c (if c.phase = .connected then (c.note (.emitted m)).post m else _)
  split
  · exact hnoted.post (Command.wish?_of_event? hm)
  · exact { hnoted with idle := hidle.queued trivial, unasked := .of_calls rfl }

theorem subscribers_enqueue (m : Message) (name : String) :
    ((enqueue m).after c).subscribers name = c.subscribers name := by
  show (if c.phase = .connected then (c.note (.emitted m)).post m else _ :
    Client σ ι).subscribers name = _
  split
  · next hin => rw [post_of_connected (c.note (.emitted m)) hin]; rfl
  · rfl

theorem subscribe_obeys (hidle : c.Idle) {name tag : String}
    {react : Nat → Bytes → List (Command ι)}
    (hreact : ∀ before data, ∀ other ∈ react before data, other.isStimulus) :
    Obeys (.subscribe name tag react) c ((subscribe name tag react).after c) := by
  by_cases hname : name = ""
  · subst hname
    exact .refl hidle
  have henrolled : Obeys (.subscribe name tag react) c (c.withTicket.withSubscriptions
      (c.events.subscriptions.insert name ((c.events.subscriptions.find? name).getD [] ++
        [⟨c.nextId, c.calls.length, tag, react⟩]))) := by
    refine .kept ((Clerical.refl c).withTicket.withSubscriptions _) rfl ?_ (fun _ => rfl)
      (fun _ => rfl) (.of_slot rfl)
    exact (hidle.numbered _ _).subscribed trivial (List.forall_mem_append.mpr
      ⟨hidle.subscribers name, List.forall_mem_singleton.mpr hreact⟩)
  rw [subscribe_after c hname]
  dsimp only
  split
  · exact henrolled.post rfl
  · exact henrolled

theorem unsubscribe_obeys (hidle : c.Idle) {name : String}
    (hm : command.wish? = some (eventMessage .unsubscribe name)) :
    Obeys command c ((unsubscribe name).after c) := by
  have hended : Obeys command c (c.withSubscriptions (c.events.subscriptions.erase name)) :=
    .kept ((Clerical.refl c).withSubscriptions _) rfl (hidle.unsubscribed name) (fun _ => rfl)
      (fun _ => rfl) (.of_calls rfl)
  rw [unsubscribe_after]
  split
  · exact hended.post hm
  · exact .refl hidle

theorem unsubscribeId_obeys (hidle : c.Idle) (name : String) (id : SubscriptionId) :
    Obeys (.unsubscribeId name id) c ((unsubscribeId name id).after c) := by
  rw [unsubscribeId_after]
  cases hfound : c.events.subscriptions.find? name with
  | none => exact .refl hidle
  | some subscriptions =>
    dsimp only
    split
    · split
      · exact unsubscribe_obeys hidle rfl
      · refine .kept ((Clerical.refl c).withSubscriptions _) rfl ?_ (fun _ => rfl) (fun _ => rfl)
          (.of_calls rfl)
        exact hidle.subscribed trivial fun s hs =>
          (hidle.subscriptions name subscriptions hfound).2 s (List.eraseP_subset hs)
    · exact .refl hidle

theorem listen_obeys (hidle : c.Idle) {pattern tag : String}
    {accepts : Nat → String → Bool → Bool} {react : Nat → String → Bool → List (Command ι)}
    (hreact : ∀ before name subscribed, ∀ other ∈ react before name subscribed,
      other.isStimulus) :
    Obeys (.listen pattern tag accepts react) c ((listen pattern tag accepts react).after c) := by
  by_cases hpattern : pattern = ""
  · subst hpattern
    exact .refl hidle
  rw [listen_after c hpattern]
  split
  · exact .refl hidle
  · refine Obeys.post (.kept ((Clerical.refl c).withSlot.withListeners _) rfl ?_ nofun
      (fun _ => rfl) (.of_slot rfl)) rfl
    exact (hidle.numbered _ _).listened trivial fun before told => hreact before told.1 told.2

theorem unlisten_obeys (hidle : c.Idle) (pattern : String) :
    Obeys (.unlisten pattern) c ((unlisten pattern).after c) := by
  rw [unlisten_after]
  split
  · exact Obeys.post (.kept ((Clerical.refl c).withListeners _) rfl (hidle.unlistened pattern)
      nofun (fun _ => rfl) (.of_calls rfl)) rfl
  · exact .refl hidle

theorem followPresence_obeys (hidle : c.Idle) {tag : String}
    {react : Nat → String → Bool → List (Command ι)}
    (hreact : ∀ before user joined, ∀ other ∈ react before user joined, other.isStimulus) :
    Obeys (.followPresence tag react) c ((followPresence tag react).after c) := by
  have henrolled : Obeys (.followPresence tag react) c (c.withTicket.withFollowers
      (c.presence.subscriptions ++ [⟨c.nextId, c.calls.length, tag,
        fun before told => react before told.1 told.2⟩])) := by
    refine .kept ((Clerical.refl c).withTicket.withFollowers _) rfl ?_ (fun _ => rfl)
      (fun _ => rfl) (.of_slot rfl)
    exact (hidle.numbered _ _).withFollowers (List.forall_mem_append.mpr ⟨hidle.followers,
      List.forall_mem_singleton.mpr fun before told => hreact before told.1 told.2⟩)
  rw [followPresence_after]
  dsimp only
  split
  · exact henrolled.post rfl
  · exact henrolled

theorem unfollowPresence_obeys (hidle : c.Idle) (id : SubscriptionId) :
    Obeys (.unfollowPresence id) c ((unfollowPresence id).after c) := by
  have hleft : Obeys (.unfollowPresence id) c
      (c.withFollowers (c.presence.subscriptions.eraseP (·.id = id))) :=
    .kept ((Clerical.refl c).withFollowers _) rfl (hidle.withFollowers fun s hs =>
      hidle.followers s (List.eraseP_subset hs)) (fun _ => rfl) (fun _ => rfl) (.of_calls rfl)
  rw [unfollowPresence_after]
  split
  · dsimp only
    split
    · exact hleft.post rfl
    · exact hleft
  · exact .refl hidle

theorem unfollowAllPresence_obeys (hidle : c.Idle) :
    Obeys .unfollowAllPresence c (unfollowAllPresence.after c) := by
  rw [unfollowAllPresence_after]
  exact (Obeys.kept ((Clerical.refl c).withFollowers []) rfl
    (hidle.withFollowers (List.forall_mem_nil _)) (fun _ => rfl) (fun _ => rfl)
    (.of_calls rfl)).post rfl

theorem queryPresence_obeys (hidle : c.Idle) {tag : String}
    {react : List String → List (Command ι)}
    (hreact : ∀ users, ∀ other ∈ react users, other.isStimulus) :
    Obeys (.queryPresence tag react) c ((queryPresence tag react).after c) := by
  have hasked : Obeys (.queryPresence tag react) c
      (c.withQuerents (c.presence.querents ++ [⟨tag, react⟩])) := by
    refine .kept ((Clerical.refl c).withQuerents _) rfl ?_ (fun _ => rfl) nofun (.of_calls rfl)
    exact hidle.withQuerents (List.forall_mem_append.mpr ⟨hidle.querents,
      List.forall_mem_singleton.mpr hreact⟩)
  rw [queryPresence_after]
  dsimp only
  split
  · exact hasked.post rfl
  · exact hasked

/-- The transport may do what it likes. -/
theorem stimulated_obeys (hidle : c.Idle) (i : ι) :
    Obeys (.stimulate i) c { c with link := c.link.stimulate w.transport i } where
  phase := rfl
  idle := hidle
  listeners _ := rfl
  querents _ := rfl
  told := ⟨[], (List.append_nil _).symm, List.forall_mem_nil _⟩
  history := ⟨[], (List.append_nil _).symm, List.forall_mem_nil _, List.forall_mem_nil _⟩
  unasked := .of_calls rfl

variable (hpatience : 0 < w.patience)
include hpatience

theorem emit_obeys (hidle : c.Idle) {name : String} {data : Bytes}
    (hm : command.event? = some (emitMessage name data)) :
    Obeys command c ((emit (runner w) name data).after c) := by
  by_cases hname : name = ""
  · subst hname
    exact .refl hidle
  cases hdata : Utf8.decode data with
  | error fault =>
    unfold emit
    rw [if_neg hname, hdata]
    exact .refl hidle
  | ok text =>
    have henqueued := enqueue_obeys hidle hm
    obtain ⟨d, hrun, hcalled, himmaterial⟩ := notifySubscribers_leaves hpatience
      (idle_leaves w.transport) henqueued.idle name data
    rw [emit_eq hname hdata, after_of_ok (hrun : (do
      enqueue (emitMessage name data)
      notifySubscribers (runner w) name data) c = .ok ⟨⟩ d)]
    refine henqueued.called himmaterial hcalled (fun i hi => ?_) fun slot hslot => ?_
    · obtain ⟨_, _, rfl⟩ := List.mem_map.mp hi
      rfl
    · obtain ⟨s, hs, hsame⟩ := List.mem_map.mp hslot
      rw [subscribers_enqueue] at hs
      exact ⟨name, s, hs, hsame⟩

theorem emitJson_obeys (hidle : c.Idle) (name text : String) :
    Obeys (.emitJson name text) c
      ((perform w.transport (runner w) (.emitJson name text)).after c) := by
  cases htext : Json.decode (Utf8.encode text) with
  | error fault =>
    simp only [perform, htext]
    exact .refl hidle
  | ok v =>
    simp only [perform, htext]
    rw [after_answer]
    exact emit_obeys hpatience hidle (by simp only [Command.event?, htext])

/-- What a command does, if neither the callbacks of a client nor those that the command registers
ask for anything. -/
theorem perform_obeys (hidle : c.Idle) (hcommand : command.IsIdle) :
    Obeys command c ((perform w.transport (runner w) command).after c) := by
  cases command with
  | emitJson name text => exact emitJson_obeys hpatience hidle name text
  | emit name data =>
    rw [perform, after_answer]
    exact emit_obeys hpatience hidle rfl
  | subscribe name tag react =>
    rw [perform, after_answer]
    exact subscribe_obeys hidle fun _ _ other hother => hcommand other (.subscribe hother)
  | unsubscribe name =>
    rw [perform, after_answer]
    exact unsubscribe_obeys hidle rfl
  | unsubscribeId name id =>
    rw [perform, after_answer]
    exact unsubscribeId_obeys hidle name id
  | listen pattern tag accepts react =>
    rw [perform, after_answer]
    exact listen_obeys hidle fun _ _ _ other hother => hcommand other (.listen hother)
  | unlisten pattern =>
    rw [perform, after_answer]
    exact unlisten_obeys hidle pattern
  | followPresence tag react =>
    rw [perform, after_answer]
    exact followPresence_obeys hidle fun _ _ _ other hother =>
      hcommand other (.followPresence hother)
  | unfollowPresence id =>
    rw [perform, after_answer]
    exact unfollowPresence_obeys hidle id
  | unfollowAllPresence =>
    rw [perform, after_answer]
    exact unfollowAllPresence_obeys hidle
  | queryPresence tag react =>
    rw [perform, after_answer]
    exact queryPresence_obeys hidle fun _ other hother => hcommand other (.queryPresence hother)
  | stimulate i => exact stimulated_obeys hidle i

end Session

/-! ## Messages -/

namespace Client

variable {w : Surroundings σ ι} {c d : Client σ ι} {m : Message}

/-- Between two states of a connected client, a message took effect, and callbacks asked for
nothing: those were called whom its notice calls for, and no one else. -/
structure Heeds (m : Message) (c d : Client σ ι) : Prop where
  history : ∃ whats, d.history = c.history ++ .handled m :: whats ∧
    whats.filterMap Occurrence.handled? = [] ∧
    invocations whats = (m.notice?.map c.calledBy).getD []
  state : Immaterial ((m.notice?.map c.notified).getD c) d

theorem phase_notified (notice : Notice) : (c.notified notice).phase = c.phase := by
  cases notice with
  | listened pattern name subscribed => cases subscribed <;> rfl
  | _ => rfl

theorem Heeds.phase (h : Heeds m c d) : d.phase = c.phase := by
  obtain ⟨link, journal, hd⟩ := h.state
  rw [hd]
  cases m.notice? with
  | none => rfl
  | some notice => exact phase_notified notice

theorem Heeds.idle (h : Heeds m c d) (hidle : c.Idle) : d.Idle := by
  refine h.state.idle ?_
  cases m.notice? with
  | none => exact hidle
  | some notice => exact tidy_notified hidle (fun _ => trivial) notice

end Client

namespace Session

open Client

variable {w : Surroundings σ ι} {c d : Client σ ι} {m : Message}

/-- What a connected client does about a message. -/
theorem handle_heeds (hpatience : 0 < w.patience) (hin : c.phase = .connected) (hidle : c.Idle)
    (m : Message) : Heeds m c ((handle w m).after c) := by
  have hhandled : (handle w m).after c = (dispatch w m).after (c.note (.handled m)) := by
    unfold after
    rw [handle_connected hin]
  have hnoted : Immaterial c (c.note (.handled m)) := .noted c _
  have hhistory := note_history c (.handled m)
  rw [hhandled, dispatch_eq]
  cases hping : m.isPing with
  | true =>
    obtain ⟨himmaterial, outcome, hsent⟩ :=
      pong_immaterial (w := w) (c := c.note (.handled m)) hin
    rw [hhistory, List.append_assoc] at hsent
    have hnone := notice?_of_isPing hping
    refine ⟨⟨_, hsent, rfl, ?_⟩, ?_⟩
    · rw [hnone]
      rfl
    · rw [hnone]
      exact hnoted.trans himmaterial
  | false =>
    cases hnotice : m.notice? with
    | none =>
      refine ⟨⟨[], hhistory, rfl, ?_⟩, ?_⟩
      · rw [hnotice]
        rfl
      · rw [hnotice]
        exact hnoted
    | some notice =>
      obtain ⟨d, hrun, hcalled, himmaterial⟩ := tell_leaves (c := c.note (.handled m)) hpatience
        (idle_leaves w.transport) hidle hin notice
      obtain ⟨whats, hlater, hreactions, hcalls⟩ := hcalled.reactions
      have htold : (tell (runner w) notice).after (c.note (.handled m)) = d := after_of_ok hrun
      rw [hhistory, List.append_assoc] at hlater
      rw [notified_note] at himmaterial
      show Heeds m c ((tell (runner w) notice).after (c.note (.handled m)))
      rw [htold]
      refine ⟨⟨whats, hlater, handled_of_reactions hreactions, ?_⟩, ?_⟩
      · rw [hnotice, hcalls, calledBy_note]
        rfl
      · rw [hnotice]
        exact (Immaterial.noted (c.notified notice) _).trans himmaterial

end Session

/-! ## One errand after the other -/

namespace Client

open Session

variable {w : Surroundings σ ι} {c : Client σ ι} {errands : List (Errand ι)}

theorem phase_attend (hin : c.phase = .connected) (errand : Errand ι) :
    ((attend w errand).after c).phase = .connected := by
  obtain ⟨d, himmaterial, hacts⟩ := attend_acts (w := w) hin errand
  obtain ⟨link, journal, rfl⟩ := himmaterial
  exact Walks.keeps (P := fun e => e.phase = .connected) hacts
    (fun _ _ he hact => hact.phase.trans he) hin

/-- A client stays connected, whatever it attends to. -/
theorem phase_busied (hin : c.phase = .connected) : (c.busied w errands).phase = .connected := by
  induction errands generalizing c with
  | nil => exact hin
  | cons errand rest ih => exact ih (phase_attend hin errand)

theorem apart_attend (hin : c.phase = .connected) (hapart : Apart c) (errand : Errand ι) :
    Apart ((attend w errand).after c) := by
  obtain ⟨d, himmaterial, hacts⟩ := attend_acts (w := w) hin errand
  obtain ⟨link, journal, rfl⟩ := himmaterial
  exact Walks.keeps (P := Apart) hacts (fun _ _ he hact => hact.apart he)
    (hapart.of_eq rfl rfl rfl rfl)

/-- Listeners go on counting their calls apart. -/
theorem apart_busied (hin : c.phase = .connected) (hapart : Apart c) :
    Apart (c.busied w errands) := by
  induction errands generalizing c with
  | nil => exact hapart
  | cons errand rest ih => exact ih (phase_attend hin errand) (apart_attend hin hapart errand)

theorem idle_attend (hpatience : 0 < w.patience) (hin : c.phase = .connected) (hidle : c.Idle)
    {errand : Errand ι} (herrand : errand.IsIdle) : ((attend w errand).after c).Idle := by
  cases errand with
  | command command =>
    rw [attend, after_answer]
    exact (perform_obeys hpatience hidle (herrand command · rfl)).idle
  | message m => exact (handle_heeds hpatience hin hidle m).idle hidle

/-- Callbacks that ask for nothing go on asking for nothing. -/
theorem idle_busied (hpatience : 0 < w.patience) (hin : c.phase = .connected) (hidle : c.Idle)
    (herrands : ∀ errand ∈ errands, errand.IsIdle) : (c.busied w errands).Idle := by
  induction errands generalizing c with
  | nil => exact hidle
  | cons errand rest ih =>
    obtain ⟨hfirst, hrest⟩ := List.forall_mem_cons.mp herrands
    exact ih (phase_attend hin errand) (idle_attend hpatience hin hidle hfirst) hrest

/-! ## Requests -/

theorem idle_execute (hpatience : 0 < w.patience) (hidle : c.Idle) {request : Request ι}
    (hrequest : request.IsIdle) : ((execute w request).after c).Idle := by
  by_cases hcommand : ∃ command, request = .command command
  · obtain ⟨command, rfl⟩ := hcommand
    exact (perform_obeys hpatience hidle (hrequest command · rfl)).idle
  · exact (execute_settled hpatience hidle
      fun command hsame => hcommand ⟨command, hsame⟩).books.idle hidle

/-- In whatever phase: callbacks that ask for nothing go on asking for nothing. -/
theorem idle_executed (hpatience : 0 < w.patience) (hidle : c.Idle) {requests : List (Request ι)}
    (hrequests : ∀ request ∈ requests, request.IsIdle) :
    (requests.foldl (fun c request => (execute w request).after c) c).Idle := by
  induction requests generalizing c with
  | nil => exact hidle
  | cons request rest ih =>
    obtain ⟨hfirst, hrest⟩ := List.forall_mem_cons.mp hrequests
    exact ih (idle_execute hpatience hidle hfirst) hrest

theorem idle_guestAfter {requests : List (Request Script.Stimulus)}
    (h : ∀ request ∈ requests, request.IsIdle) : (guestAfter requests).Idle := by
  have hguest : guest.Idle := ⟨nofun, nofun, nofun, nofun, nofun, nofun⟩
  exact idle_executed (by decide) hguest h

end Client

end Realtime
