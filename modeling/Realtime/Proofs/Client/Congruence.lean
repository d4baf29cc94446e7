import Realtime.Proofs.Client.Hearing
import Realtime.Proofs.Client.Manners

/-!
# Clients that cannot be told apart

To say that two clients behave alike, it is enough to look at the few things that a
client does at a time: writing in its journal, changing its desk or its phase, using its
transport, and taking the next message. A relation that these keep is kept by whole
requests, and what comes out of a request is the same for both clients. The same holds
of a relation between a client and itself, which is an invariant.

Results:
1. `Respects.of_bind`, `Respects.of_forM`: a step respects a relation if its parts do.
2. `Congruence.execute_respects`: every request does, if the single things do.
-/

namespace Realtime

variable {σ ι : Type}

namespace Session

open Client

variable {α β : Type} {R : Client σ ι → Client σ ι → Prop} {good : α → Prop} {fine : β → Prop}

/-! ## Steps that respect a relation -/

/-- Two steps have ended alike: with the same value, which is good, or with the same
failure, and in states that are related. -/
def Agree (R : Client σ ι → Client σ ι → Prop) (good : α → Prop) :
    EStateM.Result Stop (Client σ ι) α → EStateM.Result Stop (Client σ ι) α → Prop
  | .ok a c, .ok b d => a = b ∧ good a ∧ R c d
  | .error stop c, .error other d => stop = other ∧ R c d
  | _, _ => False

/-- From related states, the step ends alike. -/
def Respects (R : Client σ ι → Client σ ι → Prop) (good : α → Prop) (step : Session σ ι α) :
    Prop :=
  ∀ c d, R c d → Agree R good (step c) (step d)

/-- Any value will do. -/
def Whatever (_ : α) : Prop :=
  True

namespace Respects

theorem apply {step : Session σ ι α} {c d : Client σ ι} (hstep : Respects R good step)
    (h : R c d) : Agree R good (step c) (step d) :=
  hstep c d h

theorem of_pure {a : α} (ha : good a) : Respects R good (pure a) :=
  fun _ _ h => ⟨rfl, ha, h⟩

theorem of_done : Respects R Whatever (pure ⟨⟩ : Session σ ι PUnit) :=
  of_pure trivial

theorem of_fail (x : Error) : Respects R good (fail x) :=
  fun _ _ h => ⟨rfl, h⟩

theorem of_exhausted : Respects R good (throw .exhausted : Session σ ι α) :=
  fun _ _ h => ⟨rfl, h⟩

theorem of_bind {step : Session σ ι α} {next : α → Session σ ι β} (hstep : Respects R good step)
    (hnext : ∀ a, good a → Respects R fine (next a)) : Respects R fine (step >>= next) := by
  intro c d h
  have hfirst := hstep c d h
  cases hc : step c with
  | ok a e =>
    cases hd : step d with
    | ok b f =>
      rw [hc, hd] at hfirst
      obtain ⟨rfl, ha, hef⟩ := hfirst
      rw [bind_of_ok hc, bind_of_ok hd]
      exact hnext a ha e f hef
    | error => rw [hc, hd] at hfirst; exact hfirst.elim
  | error stop e =>
    cases hd : step d with
    | ok => rw [hc, hd] at hfirst; exact hfirst.elim
    | error other f =>
      rw [hc, hd] at hfirst
      rw [bind_of_error hc, bind_of_error hd]
      exact hfirst

theorem of_get_bind {next : Client σ ι → Session σ ι β}
    (h : ∀ c d, R c d → Agree R fine (next c c) (next d d)) : Respects R fine (get >>= next) :=
  h

theorem of_modify {change : Client σ ι → Client σ ι} (h : ∀ c d, R c d → R (change c) (change d)) :
    Respects R Whatever (modify change : Session σ ι PUnit) :=
  fun c d hcd => ⟨rfl, trivial, h c d hcd⟩

theorem of_modifyGet {change : Client σ ι → α × Client σ ι}
    (h : ∀ c d, R c d → (change c).1 = (change d).1 ∧ R (change c).2 (change d).2) :
    Respects R Whatever (modifyGet change) :=
  fun c d hcd => ⟨(h c d hcd).1, trivial, (h c d hcd).2⟩

theorem of_attempt {step : Session σ ι α} (h : Respects R good step) :
    Respects R Whatever step.attempt := by
  intro c d hcd
  have hstep := h c d hcd
  unfold attempt
  cases hc : step c with
  | ok a e =>
    cases hd : step d with
    | ok b f =>
      rw [hc, hd] at hstep
      obtain ⟨rfl, -, hef⟩ := hstep
      exact ⟨rfl, trivial, hef⟩
    | error => rw [hc, hd] at hstep; exact hstep.elim
  | error stop e =>
    cases hd : step d with
    | ok => rw [hc, hd] at hstep; exact hstep.elim
    | error other f =>
      rw [hc, hd] at hstep
      obtain ⟨rfl, hef⟩ := hstep
      cases stop with
      | failed x => exact ⟨rfl, trivial, hef⟩
      | exhausted => exact ⟨rfl, hef⟩

theorem of_forM {list : List β} {step : β → Session σ ι PUnit}
    (h : ∀ b ∈ list, Respects R Whatever (step b)) : Respects R Whatever (list.forM step) := by
  induction list with
  | nil => exact of_done
  | cons b rest ih =>
    exact of_bind (h b (.head _)) fun _ _ => ih fun other hother => h other (.tail _ hother)

theorem of_answer {step : Session σ ι α} {answer : α → β} (h : Respects R good step) :
    Respects R Whatever (step >>= fun a => pure (answer a)) :=
  of_bind h fun _ _ => of_pure trivial

/-- What comes after a failure does not run. -/
theorem of_fail_bind {next : α → Session σ ι β} (x : Error) :
    Respects R fine (fail x >>= next) :=
  fun _ _ h => ⟨rfl, h⟩

end Respects

/-! ## Congruences -/

/-- A relation between clients that they cannot be told apart by, as long as nothing
unexpected happens: related clients show the same, and stay related when they do the
same. -/
structure Congruence (w : Surroundings σ ι) (M : Manners ι)
    (R : Client σ ι → Client σ ι → Prop) : Prop where
  config {c d} : R c d → d.config = c.config
  uri {c d} : R c d → d.uri = c.uri
  target {c d} : R c d → d.link.uri = c.link.uri
  phase {c d} : R c d → d.phase = c.phase
  desk {c d} : R c d → d.desk = c.desk
  tidy {c d} : R c d → Tidy M c.desk
  response {c d} : R c d → M.say (challengeResponse c.uri)
  noted {c d what} : R c d → what.isCall = false → R (c.note what) (d.note what)
  kept {c d desk} : R c d → Tidy M desk → R (c.withDesk desk) (d.withDesk desk)
  moved {c d} : R c d → ∀ phase, R { c with phase := phase } { d with phase := phase }
  used {c d call what} : R c d → Usage M call what →
    (c.use w.transport call what).1 = (d.use w.transport call what).1 ∧
      R (c.use w.transport call what).2 (d.use w.transport call what).2
  discarded {c d} : R c d → R c.discardIncoming d.discardIncoming
  retargeted {c d reply} : R c d → M.decent reply →
    R (c.retarget (redirectTarget reply)) (d.retarget (redirectTarget reply))
  stimulated {c d} : R c d → ∀ i, R { c with link := c.link.stimulate w.transport i }
    { d with link := d.link.stimulate w.transport i }
  isOpen {c d} : R c d → d.link.channel.isOpen = c.link.channel.isOpen
  received {c d} : R c d → ∀ gone, (d.inbox.next gone).1 = (c.inbox.next gone).1 ∧
    (∀ m, (c.inbox.next gone).1 = some (.message m) → M.decent m) ∧
      R (c.withInbox (c.inbox.next gone).2) (d.withInbox (d.inbox.next gone).2)

namespace Congruence

variable {w : Surroundings σ ι} {M : Manners ι} {run : Runner σ ι} (C : Congruence w M R)
include C

/-! ## Single things -/

theorem note {what : Occurrence ι} (hwhat : what.isCall = false) :
    Respects R Whatever (modify (·.note what) : Session σ ι PUnit) :=
  .of_modify fun _ _ h => C.noted h hwhat

theorem report_respects (x : Error) : Respects R Whatever (report x) :=
  C.note rfl

theorem failReported_respects (x : Error) : Respects R good (failReported x) :=
  .of_bind (C.report_respects x) fun _ _ => .of_fail x

omit C in
theorem ofOutcome_respects (outcome : Except Error PUnit) :
    Respects R Whatever (ofOutcome outcome) := by
  cases outcome with
  | ok => exact .of_done
  | error x => exact .of_fail x

theorem use_respects {call : Call} {what : Except Error Unit → Occurrence ι}
    (h : Usage M call what) : Respects R Whatever (use w.transport call what) :=
  .of_modifyGet fun _ _ hcd => C.used hcd h

/-! ### The desk -/

theorem outbox {c d : Client σ ι} (h : R c d) : d.outbox = c.outbox :=
  congrArg Desk.outbox (C.desk h)

theorem events {c d : Client σ ι} (h : R c d) : d.events = c.events :=
  congrArg Desk.events (C.desk h)

theorem presence {c d : Client σ ι} (h : R c d) : d.presence = c.presence :=
  congrArg Desk.presence (C.desk h)

theorem calls {c d : Client σ ι} (h : R c d) : d.calls = c.calls :=
  congrArg Desk.calls (C.desk h)

theorem callsAt {c d : Client σ ι} (h : R c d) (slot : Nat) : d.callsAt slot = c.callsAt slot :=
  congrArg (·.getD slot 0) (C.calls h)

/-- A change that concerns nothing but the desk. -/
theorem tidied (change : Desk ι → Desk ι) {c d : Client σ ι} (h : R c d)
    (htidy : Tidy M (change c.desk)) :
    R (c.withDesk (change c.desk)) (d.withDesk (change d.desk)) := by
  rw [C.desk h]
  exact C.kept h htidy

theorem change_respects (change : Desk ι → Desk ι)
    (h : ∀ desk, Tidy M desk → Tidy M (change desk)) :
    Respects R Whatever (modify fun c => c.withDesk (change c.desk) : Session σ ι PUnit) :=
  .of_modify fun _ _ hcd => C.tidied change hcd (h _ (C.tidy hcd))

theorem modifyEvents_respects {change : EventBoard ι → EventBoard ι}
    (h : ∀ desk, Tidy M desk → Tidy M { desk with events := change desk.events }) :
    Respects R Whatever (modifyEvents change : Session σ ι PUnit) :=
  C.change_respects _ h

theorem modifyPresence_respects {change : PresenceBoard ι → PresenceBoard ι}
    (h : ∀ desk, Tidy M desk → Tidy M { desk with presence := change desk.presence }) :
    Respects R Whatever (modifyPresence change : Session σ ι PUnit) :=
  C.change_respects _ h

theorem posted {c d : Client σ ι} (h : R c d) {m : Message} (hm : M.say m) :
    R (c.post m) (d.post m) := by
  by_cases hin : c.phase = .connected
  · rw [post_of_connected c hin, post_of_connected d ((C.phase h).trans hin)]
    exact C.tidied (fun desk => { desk with outbox := desk.outbox ++ [m] }) h
      ((C.tidy h).posted hm)
  · have hout : d.phase ≠ .connected := fun hd => hin ((C.phase h).symm.trans hd)
    rw [post_of_not_connected c hin, post_of_not_connected d hout]
    exact h

theorem post_respects {m : Message} (hm : M.say m) : Respects R Whatever (post m) :=
  .of_modify fun _ _ h => C.posted h hm

/-- What is said when a client is connected is to be expected. -/
theorem say_of_mem_replayMessages {c d : Client σ ι} (h : R c d) {m : Message}
    (hm : m ∈ c.replayMessages) : M.say m := by
  have htidy := C.tidy h
  simp only [replayMessages, List.mem_append, List.mem_map] at hm
  rcases hm with ((((⟨name, hname, rfl⟩ | ⟨pattern, hpattern, rfl⟩) | hqueued) | hfollow) | hquery)
  · obtain ⟨subscriptions, hfound⟩ := NameMap.mem_names_iff.mp hname
    exact (htidy.subscriptions name subscriptions hfound).1
  · obtain ⟨listener, hfound⟩ := NameMap.mem_names_iff.mp hpattern
    exact (htidy.listeners pattern listener hfound).1
  · exact htidy.sendQueue m hqueued
  · split at hfollow
    · cases hfollow
    · exact List.mem_singleton.mp hfollow ▸ M.follow
  · split at hquery
    · cases hquery
    · exact List.mem_singleton.mp hquery ▸ M.query

theorem replayed {c d : Client σ ι} (h : R c d) : R c.replay d.replay := by
  have htidy := C.tidy h
  have hsame : d.replayMessages = c.replayMessages := by
    unfold replayMessages
    rw [C.events h, C.presence h]
  have hkept := C.tidied (fun desk =>
    { desk with
      outbox := desk.outbox ++ c.replayMessages
      events := { desk.events with sendQueue := [] } }) h
    ⟨List.forall_mem_append.mpr ⟨htidy.outbox, fun _ hm => C.say_of_mem_replayMessages h hm⟩,
      List.forall_mem_nil _, htidy.subscriptions, htidy.listeners, htidy.followers,
      htidy.querents⟩
  rw [replay, replay, hsame]
  exact hkept

theorem entered {c d : Client σ ι} (h : R c d) (phase : Phase) :
    R (c.enter phase) (d.enter phase) := by
  unfold enter
  rw [C.phase h]
  split
  · exact h
  · split
    · exact C.replayed (C.moved h phase)
    · exact C.moved h phase

theorem enter_respects (phase : Phase) :
    Respects R Whatever (modify (·.enter phase) : Session σ ι PUnit) :=
  .of_modify fun _ _ h => C.entered h phase

theorem closedLink {c d : Client σ ι} (h : R c d) :
    R (c.closeLink w.transport) (d.closeLink w.transport) :=
  C.discarded (C.used h .closing).2

theorem closeLink_respects :
    Respects R Whatever (modify (Client.closeLink w.transport) : Session σ ι PUnit) :=
  .of_modify fun _ _ h => C.closedLink h

theorem shut_respects : Respects R Whatever (shut w.transport) :=
  .of_modify fun _ _ h => C.entered (C.closedLink h) .disconnected

/-! ## Sending -/

theorem send_respects {m : Message} (hm : M.say m) : Respects R Whatever (send w.transport m) := by
  refine .of_get_bind fun c d h => ?_
  rw [C.phase h]
  refine Respects.apply ?_ h
  split
  · exact .of_fail _
  · refine .of_bind (C.use_respects (.sending hm)) fun outcome _ => ?_
    exact .of_bind (ofOutcome_respects outcome) fun _ _ => C.enter_respects _

theorem flushAll_respects {ms : List Message} (h : ∀ m ∈ ms, M.say m) :
    Respects R Whatever (flushAll w.transport ms) := by
  induction ms with
  | nil => exact .of_done
  | cons m rest ih =>
    obtain ⟨hm, hrest⟩ := List.forall_mem_cons.mp h
    refine .of_bind (.of_modify fun c d hcd => ?_) fun _ _ => ?_
    · exact C.tidied (fun desk => { desk with outbox := rest }) (C.noted hcd rfl)
        ((C.tidy (C.noted hcd rfl)).withOutbox hrest)
    · refine .of_bind (.of_attempt (C.send_respects hm)) fun outcome _ => ?_
      cases outcome with
      | ok => exact ih hrest
      | error x => exact C.failReported_respects x

theorem flush_respects : Respects R Whatever (flush w.transport) := by
  refine .of_get_bind fun c d h => ?_
  rw [C.outbox h]
  exact (C.flushAll_respects (C.tidy h).outbox).apply h

/-! ## Receiving -/

theorem heed_respects (wait : Bool) {item : Option Item}
    (h : ∀ m, item = some (.message m) → M.decent m) :
    Respects R (fun found => ∀ m ∈ found, M.decent m) (heed w.transport wait item) := by
  cases item with
  | none =>
    refine .of_get_bind fun c d hcd => ?_
    rw [C.isOpen hcd]
    refine Respects.apply ?_ hcd
    split
    · exact C.failReported_respects _
    · exact .of_pure nofun
  | some item =>
    cases item with
    | message m => exact .of_pure fun _ hother => Option.some.inj hother ▸ h m rfl
    | malformed frame =>
      refine .of_bind (.of_forM fun fault _ => C.report_respects _) fun _ _ => ?_
      refine .of_bind C.shut_respects fun _ _ => ?_
      split
      · exact .of_pure nofun
      · exact .of_fail _
    | failed reason => exact C.failReported_respects _
    | closed => exact .of_bind (C.enter_respects _) fun _ _ => C.failReported_respects _

theorem nextMessage_respects (wait : Bool) :
    Respects R (fun found => ∀ m ∈ found, M.decent m) (nextMessage w.transport wait) := by
  intro c d h
  obtain ⟨hsame, hdecent, hleft⟩ := C.received h (c.phase = .disconnected)
  rw [nextMessage_eq, nextMessage_eq, C.phase h, hsame]
  exact (C.heed_respects wait hdecent).apply hleft

/-! ## Callbacks -/

/-- A runner respects the relation, whatever commands it is given that are to be
expected. -/
def Courteous (R : Client σ ι → Client σ ι → Prop) (M : Manners ι) (run : Runner σ ι) : Prop :=
  ∀ commands, (∀ command ∈ commands, M.fit command) → Respects R Whatever (run commands)

theorem invoke_respects (hrun : Courteous R M run) {callback : Callback ι α}
    (hcallback : M.Approves callback) (told : α) (what : Invocation) :
    Respects R Whatever (invoke run callback told what) := by
  refine .of_bind (C.note rfl) fun _ _ => .of_bind (.of_modifyGet fun c d h => ?_) fun before _ =>
    hrun _ (hcallback before told)
  exact ⟨(C.callsAt h callback.slot).symm,
    C.tidied (fun desk => { desk with calls := desk.calls.modify callback.slot (· + 1) })
      h ((C.tidy h).numbered _ _)⟩

theorem notifySubscribers_respects (hrun : Courteous R M run) (name : String) (data : Bytes) :
    Respects R Whatever (notifySubscribers run name data) := by
  refine .of_get_bind fun c d h => ?_
  rw [C.events h]
  refine Respects.apply ?_ h
  split
  · exact .of_done
  · next subscriptions hfound =>
    have happroved := ((C.tidy h).subscriptions name subscriptions hfound).2
    exact .of_forM fun s hs => C.invoke_respects hrun (happroved s hs) _ _

theorem notifyListener_respects (hrun : Courteous R M run) {m : Message} {pattern name : Bytes}
    {others : List Bytes} (hm : M.decent m) (harguments : m.arguments = pattern :: name :: others)
    (subscribed : Bool) : Respects R Whatever
      (notifyListener run (Utf8.lossy pattern) (Utf8.lossy name) subscribed) := by
  refine .of_get_bind fun c d h => ?_
  simp only [C.events h, C.callsAt h]
  refine Respects.apply ?_ h
  split
  · exact .of_done
  · next listener hfound =>
    have happroved := ((C.tidy h).listeners _ listener hfound).2
    refine .of_bind (C.invoke_respects hrun happroved _ _) fun _ _ => ?_
    split
    · exact C.post_respects (M.decides _ hm harguments)
    · exact .of_done

theorem notifyPresenceSubscribers_respects (hrun : Courteous R M run) (user : String)
    (joined : Bool) : Respects R Whatever (notifyPresenceSubscribers run user joined) := by
  refine .of_get_bind fun c d h => ?_
  rw [C.presence h]
  refine Respects.apply ?_ h
  exact .of_forM fun s hs => C.invoke_respects hrun ((C.tidy h).followers s hs) _ _

theorem answerQuerents_respects (hrun : Courteous R M run) (users : List String) :
    Respects R Whatever (answerQuerents run users) := by
  refine .of_get_bind fun c d h => ?_
  rw [C.presence h]
  refine Respects.apply ?_ h
  have hquerents := (C.tidy h).querents
  refine .of_bind (C.change_respects
    (fun desk => { desk with presence := { desk.presence with querents := [] } })
    fun _ htidy => htidy.withQuerents (List.forall_mem_nil _)) fun _ _ => ?_
  exact .of_forM fun q hq => .of_bind (C.note rfl) fun _ _ => hrun _ (hquerents q hq users)

theorem notifyEvent_respects (hrun : Courteous R M run) {m : Message} (hm : M.decent m) :
    Respects R Whatever (notifyEvent run m) := by
  unfold notifyEvent
  split
  · exact C.notifySubscribers_respects hrun _ _
  · next harguments => exact C.notifyListener_respects hrun hm harguments true
  · next harguments => exact C.notifyListener_respects hrun hm harguments false
  · exact .of_done

theorem notifyPresence_respects (hrun : Courteous R M run) (m : Message) :
    Respects R Whatever (notifyPresence run m) := by
  unfold notifyPresence
  split
  · exact C.answerQuerents_respects hrun _
  · exact C.notifyPresenceSubscribers_respects hrun _ _
  · exact C.notifyPresenceSubscribers_respects hrun _ _
  · exact .of_done

/-! ## Commands -/

theorem enqueue_respects {m : Message} (hm : M.say m) : Respects R Whatever (enqueue m) := by
  refine .of_modify fun c d h => ?_
  have hnoted : R (c.note (.emitted m)) (d.note (.emitted m)) := C.noted h rfl
  by_cases hin : c.phase = .connected
  · have hd : d.phase = .connected := (C.phase h).trans hin
    dsimp only
    rw [if_pos (show (c.note (.emitted m)).phase = .connected from hin),
      if_pos (show (d.note (.emitted m)).phase = .connected from hd)]
    exact C.posted hnoted hm
  · have hd : d.phase ≠ .connected := fun hd => hin ((C.phase h).symm.trans hd)
    dsimp only
    rw [if_neg (show (c.note (.emitted m)).phase ≠ .connected from hin),
      if_neg (show (d.note (.emitted m)).phase ≠ .connected from hd)]
    exact C.tidied (fun desk => { desk with
      events := { desk.events with sendQueue := desk.events.sendQueue ++ [m] } }) hnoted
      ((C.tidy hnoted).queued hm)

theorem emit_respects (hrun : Courteous R M run) {name : String} {data : Bytes}
    (hm : M.say (emitMessage name data)) : Respects R Whatever (emit run name data) := by
  by_cases hname : name = ""
  · subst hname
    exact .of_fail_bind _
  cases hdata : Utf8.decode data with
  | error fault =>
    unfold emit
    rw [if_neg hname, hdata]
    exact .of_fail _
  | ok text =>
    rw [emit_eq hname hdata]
    exact .of_bind (C.enqueue_respects hm) fun _ _ => C.notifySubscribers_respects hrun name data

theorem newId_respects : Respects R Whatever (modifyGet Client.newId : Session σ ι _) := by
  refine .of_modifyGet fun c d h => ?_
  have hid : d.nextId = c.nextId := congrArg Desk.nextId (C.desk h)
  exact ⟨hid.symm, C.tidied (fun desk => { desk with nextId := desk.nextId + 1 }) h
    ((C.tidy h).numbered _ _)⟩

theorem newSlot_respects : Respects R Whatever (modifyGet Client.newSlot : Session σ ι _) := by
  refine .of_modifyGet fun c d h => ?_
  refine ⟨?_, C.tidied (fun desk => { desk with calls := desk.calls ++ [0] }) h
    ((C.tidy h).numbered _ _)⟩
  rw [newSlot, newSlot, C.calls h]

theorem subscribe_respects {name tag : String} {react : Nat → Bytes → List (Command ι)}
    (hfit : M.fit (.subscribe name tag react)) :
    Respects R Whatever (subscribe name tag react) := by
  by_cases hname : name = ""
  · subst hname
    exact .of_fail_bind _
  unfold subscribe
  rw [if_neg hname]
  refine .of_bind C.newId_respects fun id _ => .of_bind C.newSlot_respects fun slot _ => ?_
  refine .of_get_bind fun c d h => ?_
  rw [C.events h]
  refine Respects.apply ?_ h
  have hsay : M.say (eventMessage .subscribe name) := M.voices hfit rfl
  have hbefore : ∀ s ∈ (c.events.subscriptions.find? name).getD [], M.Approves s.callback := by
    intro s hs
    cases hfound : c.events.subscriptions.find? name with
    | none => rw [hfound] at hs; cases hs
    | some subscriptions =>
      rw [hfound] at hs
      exact ((C.tidy h).subscriptions name subscriptions hfound).2 s hs
  have hnew : M.Approves (⟨slot, tag, react⟩ : Callback ι Bytes) :=
    fun _ _ command hcommand => M.leads hfit (.subscribe hcommand)
  refine .of_bind (C.modifyEvents_respects fun _ htidy => htidy.subscribed hsay
    (List.forall_mem_append.mpr ⟨hbefore, List.forall_mem_singleton.mpr hnew⟩)) fun _ _ => ?_
  dsimp only
  split
  · exact .of_answer (C.post_respects hsay)
  · exact .of_pure trivial

theorem unsubscribe_respects {name : String}
    (hsay : M.say (eventMessage .unsubscribe name)) : Respects R Whatever (unsubscribe name) := by
  refine .of_get_bind fun c d h => ?_
  rw [C.events h]
  refine Respects.apply ?_ h
  split
  · exact .of_bind (C.modifyEvents_respects fun _ htidy => htidy.unsubscribed name) fun _ _ =>
      C.post_respects hsay
  · exact .of_done

theorem unsubscribeId_respects {name : String} (hsay : M.say (eventMessage .unsubscribe name))
    (id : SubscriptionId) : Respects R Whatever (unsubscribeId name id) := by
  refine .of_get_bind fun c d h => ?_
  rw [C.events h]
  refine Respects.apply ?_ h
  split
  · exact .of_done
  · next subscriptions hfound =>
    obtain ⟨hname, happroved⟩ := (C.tidy h).subscriptions name subscriptions hfound
    split
    · dsimp only
      split
      · exact C.unsubscribe_respects hsay
      · refine C.modifyEvents_respects fun _ htidy => htidy.subscribed hname fun s hs => ?_
        exact happroved s (List.mem_of_mem_eraseP hs)
    · exact .of_done

theorem listen_respects {pattern tag : String} {accepts : Nat → String → Bool → Bool}
    {react : Nat → String → Bool → List (Command ι)}
    (hfit : M.fit (.listen pattern tag accepts react)) :
    Respects R Whatever (listen pattern tag accepts react) := by
  by_cases hpattern : pattern = ""
  · subst hpattern
    exact .of_fail_bind _
  unfold listen
  rw [if_neg hpattern]
  refine .of_get_bind fun c d h => ?_
  rw [C.events h]
  refine Respects.apply ?_ h
  split
  · refine .of_bind C.newSlot_respects fun slot _ => ?_
    have hsay : M.say (eventMessage .listen pattern) := M.voices hfit rfl
    refine .of_bind (C.modifyEvents_respects fun _ htidy => htidy.listened hsay ?_) fun _ _ =>
      C.post_respects hsay
    exact fun _ _ command hcommand => M.leads hfit (.listen hcommand)
  · exact .of_done

theorem unlisten_respects {pattern : String} (hsay : M.say (eventMessage .unlisten pattern)) :
    Respects R Whatever (unlisten pattern) := by
  refine .of_get_bind fun c d h => ?_
  rw [C.events h]
  refine Respects.apply ?_ h
  split
  · exact .of_bind (C.modifyEvents_respects fun _ htidy => htidy.unlistened pattern) fun _ _ =>
      C.post_respects hsay
  · exact .of_done

theorem followPresence_respects {tag : String} {react : Nat → String → Bool → List (Command ι)}
    (hfit : M.fit (.followPresence tag react)) :
    Respects R Whatever (followPresence tag react) := by
  refine .of_bind C.newId_respects fun id _ => .of_bind C.newSlot_respects fun slot _ => ?_
  refine .of_get_bind fun c d h => ?_
  rw [C.presence h]
  refine Respects.apply ?_ h
  have happroved : ∀ s ∈ c.presence.subscriptions ++
      [⟨id, slot, tag, fun before told => react before told.1 told.2⟩], M.Approves s.callback := by
    refine List.forall_mem_append.mpr ⟨(C.tidy h).followers, List.forall_mem_singleton.mpr ?_⟩
    exact fun _ _ command hcommand => M.leads hfit (.followPresence hcommand)
  refine .of_bind (C.modifyPresence_respects fun _ htidy => htidy.withFollowers happroved)
    fun _ _ => ?_
  dsimp only
  split
  · exact .of_answer (C.post_respects M.follow)
  · exact .of_pure trivial

theorem unfollowPresence_respects (hsay : M.say (presenceMessage .unsubscribe))
    (id : SubscriptionId) : Respects R Whatever (unfollowPresence id) := by
  refine .of_get_bind fun c d h => ?_
  rw [C.presence h]
  refine Respects.apply ?_ h
  dsimp only
  split
  · refine .of_bind (C.modifyPresence_respects fun _ htidy => htidy.withFollowers fun s hs =>
      (C.tidy h).followers s (List.mem_of_mem_eraseP hs)) fun _ _ => ?_
    split
    · exact C.post_respects hsay
    · exact .of_done
  · exact .of_done

theorem unfollowAllPresence_respects (hsay : M.say (presenceMessage .unsubscribe)) :
    Respects R Whatever unfollowAllPresence :=
  .of_bind (C.modifyPresence_respects fun _ htidy => htidy.withFollowers (List.forall_mem_nil _))
    fun _ _ => C.post_respects hsay

theorem queryPresence_respects {tag : String} {react : List String → List (Command ι)}
    (hfit : M.fit (.queryPresence tag react)) : Respects R Whatever (queryPresence tag react) := by
  refine .of_get_bind fun c d h => ?_
  rw [C.presence h]
  refine Respects.apply ?_ h
  have hquerents := List.forall_mem_append.mpr ⟨(C.tidy h).querents, List.forall_mem_singleton.mpr
    (fun users command hcommand => M.leads hfit (.queryPresence hcommand) :
      ∀ users, ∀ command ∈ (⟨tag, react⟩ : Querent ι).react users, M.fit command)⟩
  refine .of_bind (C.modifyPresence_respects fun _ htidy => htidy.withQuerents hquerents)
    fun _ _ => ?_
  split
  · exact C.post_respects M.query
  · exact .of_done

theorem perform_respects (hrun : Courteous R M run) {command : Command ι}
    (hfit : M.fit command) : Respects R Whatever (perform w.transport run command) := by
  cases command with
  | emit name data => exact .of_answer (C.emit_respects hrun (M.voices hfit rfl))
  | emitJson name text =>
    rw [perform]
    split
    · exact .of_fail _
    · next v htext =>
      refine .of_answer (C.emit_respects hrun (M.voices hfit ?_))
      simp only [Command.wish?, Command.event?, htext]
  | subscribe name tag react => exact .of_answer (C.subscribe_respects hfit)
  | unsubscribe name => exact .of_answer (C.unsubscribe_respects (M.voices hfit rfl))
  | unsubscribeId name id => exact .of_answer (C.unsubscribeId_respects (M.voices hfit rfl) id)
  | listen pattern tag accepts react => exact .of_answer (C.listen_respects hfit)
  | unlisten pattern => exact .of_answer (C.unlisten_respects (M.voices hfit rfl))
  | followPresence tag react => exact .of_answer (C.followPresence_respects hfit)
  | unfollowPresence id => exact .of_answer (C.unfollowPresence_respects (M.voices hfit rfl) id)
  | unfollowAllPresence =>
    exact .of_answer (C.unfollowAllPresence_respects (M.voices hfit rfl))
  | queryPresence tag react => exact .of_answer (C.queryPresence_respects hfit)
  | stimulate i => exact .of_answer (.of_modify fun _ _ h => C.stimulated h i)

theorem runCommands_respects (depth : Nat) :
    Courteous R M (runCommands w.transport depth) := by
  induction depth with
  | zero =>
    intro commands _
    cases commands with
    | nil => exact .of_done
    | cons => exact .of_exhausted
  | succ depth ih =>
    intro commands hfit
    cases commands with
    | nil => exact .of_done
    | cons =>
      refine .of_forM fun command hcommand => ?_
      exact .of_bind (.of_attempt (C.perform_respects ih (hfit command hcommand))) fun _ _ =>
        C.note rfl

theorem runner_respects : Courteous R M (runner w) :=
  C.runCommands_respects w.patience

/-! ## Messages of the server -/

theorem refuse_respects (phase : Phase) (m : Message) : Respects R Whatever (refuse w phase m) :=
  .of_bind C.shut_respects fun _ _ => C.failReported_respects _

theorem dispatch_respects {m : Message} (hm : M.decent m) :
    Respects R Whatever (dispatch w m) := by
  unfold dispatch
  split
  · split
    · exact C.send_respects M.pong
    · exact .of_done
  · exact C.notifyEvent_respects C.runner_respects hm
  · exact C.notifyPresence_respects C.runner_respects m
  · exact .of_done

theorem handle_respects {m : Message} (hm : M.decent m) : Respects R Whatever (handle w m) := by
  refine .of_get_bind fun c d h => ?_
  rw [C.phase h]
  refine Respects.apply ?_ h
  split
  · exact C.refuse_respects _ m
  · refine .of_bind (.of_modify fun c d h => C.entered (C.noted h rfl) _) fun _ _ => ?_
    split
    · exact C.closeLink_respects
    · exact C.dispatch_respects hm

theorem awaitReply_respects (rounds : Nat) : Respects R M.decent (awaitReply w rounds) := by
  induction rounds with
  | zero => exact .of_exhausted
  | succ rounds ih =>
    refine .of_bind (C.nextMessage_respects true) fun found hfound => ?_
    cases found with
    | none => exact .of_fail _
    | some m =>
      have hm : M.decent m := hfound m rfl
      refine .of_bind (C.handle_respects hm) fun _ _ => ?_
      split
      · exact ih
      · exact .of_pure hm

theorem drain_respects (rounds : Nat) : Respects R Whatever (drain w rounds) := by
  induction rounds with
  | zero => exact .of_exhausted
  | succ rounds ih =>
    refine .of_bind (C.nextMessage_respects false) fun found hfound => ?_
    cases found with
    | none => exact .of_done
    | some m => exact .of_bind (C.handle_respects (hfound m rfl)) fun _ _ => ih

theorem giveUp_respects (operation : Operation) : Respects R good (giveUp w operation) := by
  refine .of_get_bind fun c d h => ?_
  rw [C.phase h]
  refine Respects.apply ?_ h
  exact .of_bind C.shut_respects fun _ _ => C.failReported_respects _

theorem abandon_respects : Respects R Whatever (abandon w) := by
  refine .of_get_bind fun c d h => ?_
  rw [C.phase h]
  refine Respects.apply ?_ h
  split
  · exact C.shut_respects
  · exact .of_done

/-! ## Connecting -/

theorem followRedirect_respects {reply : Message} (hreply : M.decent reply) :
    Respects R Whatever (followRedirect w reply) := by
  unfold followRedirect
  dsimp only
  split
  · exact .of_fail _
  · exact .of_modify fun _ _ h => C.retargeted (C.closedLink h) hreply

theorem refuseRedirect_respects : Respects R Whatever (refuseRedirect w) := by
  refine .of_bind C.shut_respects fun _ _ => .of_get_bind fun c d h => ?_
  rw [C.config h]
  exact (C.failReported_respects _).apply h

theorem openAndAwaitChallenge_respects : Respects R Whatever (openAndAwaitChallenge w) := by
  refine .of_get_bind fun c d h => ?_
  rw [C.target h]
  refine Respects.apply ?_ h
  refine .of_bind (C.use_respects (.opening _)) fun outcome _ => ?_
  refine .of_bind (ofOutcome_respects outcome) fun _ _ => ?_
  refine .of_bind (C.awaitReply_respects _) fun _ _ => .of_get_bind fun c d h => ?_
  rw [C.phase h]
  refine Respects.apply ?_ h
  split
  · exact C.giveUp_respects _
  · exact .of_done

theorem hop_respects : Respects R M.decent (hop w) := by
  refine .of_bind C.openAndAwaitChallenge_respects fun _ _ => .of_get_bind fun c d h => ?_
  rw [C.uri h]
  refine Respects.apply ?_ h
  exact .of_bind (C.send_respects (C.response h)) fun _ _ => C.awaitReply_respects _

theorem concludeHop_respects {reply : Message} (hreply : M.decent reply) {hops : Nat}
    {phase : Phase} (hgoes : ∀ fewer < hops, Respects R Whatever (handshake w fewer)) :
    Respects R Whatever (concludeHop w reply hops phase) := by
  cases phase with
  | awaitAuthentication => exact .of_done
  | awaitConnection =>
    cases hops with
    | zero => exact C.refuseRedirect_respects
    | succ fewer =>
      exact .of_bind (C.followRedirect_respects hreply) fun _ _ => hgoes fewer fewer.lt_succ_self
  | disconnected => exact C.failReported_respects _
  | _ => exact C.giveUp_respects _

theorem handshake_respects (hops : Nat) : Respects R Whatever (handshake w hops) := by
  induction hops using Nat.strongRecOn with
  | ind hops ih =>
    rw [handshake_eq]
    refine .of_bind C.hop_respects fun reply hreply => .of_get_bind fun c d h => ?_
    rw [C.phase h]
    exact (C.concludeHop_respects hreply ih).apply h

theorem startSession_respects : Respects R Whatever (startSession : Session σ ι PUnit) := by
  refine .of_get_bind fun c d h => ?_
  rw [C.phase h]
  refine Respects.apply ?_ h
  split
  · exact .of_done
  · exact .of_modify fun _ _ h => C.entered (C.noted (C.discarded h) rfl) _
  · exact .of_fail _

theorem connect_respects : Respects R Whatever (connect w) := by
  refine .of_bind C.startSession_respects fun _ _ => .of_get_bind fun c d h => ?_
  rw [C.config h]
  refine Respects.apply ?_ h
  refine .of_bind (.of_attempt (C.handshake_respects _)) fun outcome _ => ?_
  cases outcome with
  | ok => exact .of_done
  | error x => exact .of_bind C.abandon_respects fun _ _ => .of_fail x

/-! ## Logging in, processing and closing -/

theorem concludeLogin_respects (reply : Message) (phase : Phase) :
    Respects R Whatever (concludeLogin w reply phase) := by
  cases phase with
  | connected => exact .of_bind C.flush_respects fun _ _ => .of_pure trivial
  | awaitAuthentication | disconnected => exact C.failReported_respects _
  | _ => exact C.giveUp_respects _

theorem authenticate_respects {auth : String} (hauth : M.say (loginMessage auth)) :
    Respects R Whatever (authenticate w auth) := by
  rw [authenticate_eq]
  refine .of_bind (C.send_respects hauth) fun _ _ => ?_
  refine .of_bind (C.awaitReply_respects _) fun reply _ => .of_get_bind fun c d h => ?_
  rw [C.phase h]
  exact (C.concludeLogin_respects reply c.phase).apply h

theorem login_respects {auth : String} (hauth : M.say (loginMessage auth)) :
    Respects R Whatever (login w auth) := by
  refine .of_get_bind fun c d h => ?_
  rw [C.phase h]
  refine Respects.apply ?_ h
  dsimp only
  split
  · exact .of_fail_bind _
  · refine .of_bind (.of_attempt (C.authenticate_respects hauth)) fun outcome _ => ?_
    cases outcome with
    | ok data => exact .of_pure trivial
    | error x =>
      dsimp only
      split
      · exact .of_bind C.abandon_respects fun _ _ => .of_fail x
      · exact .of_fail x

theorem process_respects : Respects R Whatever (process w) :=
  .of_bind (C.drain_respects _) fun _ _ => C.flush_respects

theorem close_respects : Respects R Whatever (close w) := by
  refine .of_bind (C.use_respects .closing) fun outcome _ => ?_
  refine .of_bind (.of_modify fun _ _ h => C.discarded (C.entered h _)) fun _ _ => ?_
  exact ofOutcome_respects outcome

/-! ## Requests -/

/-- Every request respects what the single things respect. -/
theorem execute_respects {request : Request ι} (h : M.Allows request) :
    Respects R Whatever (execute w request) := by
  cases request with
  | connect => exact .of_answer C.connect_respects
  | login auth => exact .of_answer (C.login_respects h)
  | process => exact .of_answer C.process_respects
  | close => exact .of_answer C.close_respects
  | command command => exact C.perform_respects C.runner_respects h

end Congruence

end Session

end Realtime
