import Realtime.Proofs.Client.Hearing
import Realtime.Proofs.Client.Idle

/-!
# Hearing the server out

A connected client that processes what has come in handles one message after the other, until it
comes to something that is wrong or has come to the end. What stands before that is the good part of
its inbox; every message of it takes effect once, in order. A heartbeat is answered at once, before
everything that waits in the outbox; a message about events or presence calls those who are
concerned; and other messages change nothing. At the end the outbox is sent, with what the
callbacks' decisions have added to it. What is wrong ends the processing before that.

All this is said of callbacks that ask for nothing and of a transport that takes everything and
brings nothing when it is called.

Results:
1. `Inbox.next_of_goodPart`: what a client finds next in its inbox.
2. `handle_digests`: what one message leads to.
3. `drain_consumes`: what the good part of an inbox leads to, and what comes after it.
4. `process_finishes`: how processing ends.
-/

namespace Realtime

variable {σ ι : Type}

/-! ## The good part of an inbox -/

namespace Event

/-- The event does not keep a client from going on. -/
def isCalm : Event → Bool
  | .opened => true
  | .frame bytes => (Frame.read bytes).faults.isEmpty
  | .failed _ => false
  | .closed => false

/-- The messages that an event brings. -/
def messages : Event → List Message
  | .frame bytes => (Frame.read bytes).messages
  | _ => []

end Event

namespace Inbox

/-- The messages before the first event that keeps a client from going on. -/
def goodPart (inbox : Inbox) : List Message :=
  inbox.pending ++ (inbox.queue.takeWhile Event.isCalm).flatMap Event.messages

/-- The events from the first one on that keeps a client from going on. -/
def rest (inbox : Inbox) : List Event :=
  inbox.queue.dropWhile Event.isCalm

theorem not_isCalm_of_rest {inbox : Inbox} {event : Event} {later : List Event}
    (h : inbox.rest = event :: later) : event.isCalm = false := by
  have hfirst := List.head?_dropWhile_not Event.isCalm inbox.queue
  rw [show inbox.queue.dropWhile Event.isCalm = event :: later from h] at hfirst
  exact hfirst

/-- What a client finds that comes to an event which keeps it from going on, and what it leaves. -/
def halting : List Event → Option Item × Inbox
  | .failed reason :: later => (some (.failed reason), ⟨[], later⟩)
  | .closed :: later => (some .closed, ⟨[], later⟩)
  | .frame bytes :: later => (some (.malformed bytes), ⟨[], later⟩)
  | _ => (none, ⟨[], []⟩)

theorem nextEvent_of_goodPart (queue : List Event) :
    (∃ m left, nextEvent false queue = (some (.message m), left) ∧
        goodPart ⟨[], queue⟩ = m :: left.goodPart ∧ left.rest = rest ⟨[], queue⟩) ∨
      goodPart ⟨[], queue⟩ = [] ∧ nextEvent false queue = halting (rest ⟨[], queue⟩) := by
  induction queue with
  | nil => exact .inr ⟨rfl, rfl⟩
  | cons first later ih =>
    cases first with
    | opened => exact ih
    | failed reason | closed => exact .inr ⟨rfl, rfl⟩
    | frame bytes =>
      cases hread : Frame.read bytes with
      | mk messages faults =>
        cases faults with
        | cons fault others =>
          have hwrong : (Event.frame bytes).isCalm = false := by
            simp [Event.isCalm, hread]
          refine .inr ⟨?_, ?_⟩
          · simp [goodPart, hwrong]
          · simp [nextEvent_malformed false later hread, rest, hwrong, halting]
        | nil =>
          have hcalm : (Event.frame bytes).isCalm = true := by
            simp [Event.isCalm, hread]
          have hgood : goodPart ⟨[], .frame bytes :: later⟩ =
              messages ++ goodPart ⟨[], later⟩ := by
            simp [goodPart, hcalm, Event.messages, hread]
          have hrest : rest ⟨[], .frame bytes :: later⟩ = rest ⟨[], later⟩ := by
            simp [rest, hcalm]
          rw [hgood, hrest]
          cases messages with
          | nil =>
            rw [nextEvent_empty false later hread]
            exact ih
          | cons m others =>
            refine .inl ⟨m, _, nextEvent_frame false later hread, ?_, rfl⟩
            simp [goodPart]

/-- What a client finds next is the first message of the good part, or, if that is empty, what
keeps it from going on. -/
theorem next_of_goodPart (inbox : Inbox) :
    (∃ m left, inbox.next false = (some (.message m), left) ∧
        inbox.goodPart = m :: left.goodPart ∧ left.rest = inbox.rest) ∨
      inbox.goodPart = [] ∧ inbox.next false = halting inbox.rest := by
  obtain ⟨pending, queue⟩ := inbox
  cases pending with
  | nil => exact nextEvent_of_goodPart queue
  | cons m later => exact .inl ⟨m, ⟨later, queue⟩, rfl, rfl, rfl⟩

end Inbox

/-! ## Callbacks that ask for nothing -/

/-- With an answer, nothing comes in. At most the transport gives the channel up. -/
def Reply.IsSilent (r : Reply σ) : Prop :=
  ∀ signal ∈ r.signals, signal = .detach

/-- A silent answer leaves what is on a channel. -/
theorem Channel.putAll_silent {signals : List Signal} (h : ∀ signal ∈ signals, signal = .detach)
    (channel : Channel) : ∃ isOpen, channel.putAll signals = { channel with isOpen := isOpen } := by
  induction signals generalizing channel with
  | nil => exact ⟨channel.isOpen, rfl⟩
  | cons first later ih =>
    obtain ⟨rfl, hlater⟩ := List.forall_mem_cons.mp h
    exact ih hlater _

/-- The transport takes everything, and brings nothing while it does. -/
structure Transport.Docile (t : Transport σ ι) : Prop where
  takes (uri : Option String) (frame : Bytes) (s : σ) :
    (t.call uri (.send frame) s).outcome = .ok ()
  brings (uri : Option String) (frame : Bytes) (s : σ) : (t.call uri (.send frame) s).IsSilent

/-- No callback asks anything of the client. At most the transport acts meanwhile, and brings
nothing. -/
def undemanding (t : Transport σ ι) : Manners ι where
  fit command := ∃ i, command = .stimulate i ∧ ∀ s, (t.stimulate i s).IsSilent
  say _ := True
  decent _ := True
  leads := by
    rintro _ _ ⟨_, rfl, _⟩ hleads
    cases hleads
  voices _ _ := trivial
  pong := trivial
  follow := trivial
  query := trivial
  decides _ _ _ := trivial

/-- Callbacks of these manners at most let the transport act. Whatever they do, and whatever is
written down of it, leaves a client as the relation says; how often callbacks were called and what
comes to the outbox comes on top. -/
structure Manners.Leaves (M : Manners ι) (t : Transport σ ι)
    (R : Client σ ι → Client σ ι → Prop) : Prop where
  stimulus {command : Command ι} : M.fit command →
    ∃ i, command = .stimulate i ∧ ∀ c, R c { c with link := c.link.stimulate t i }
  refl (c : Client σ ι) : R c c
  trans {c d e : Client σ ι} : R c d → R d e → R c e
  noted (c : Client σ ι) (what : Occurrence ι) : R c (c.note what)
  counted {c d : Client σ ι} : R c d → ∀ slot, R (c.countCall slot).2 (d.countCall slot).2
  posted {c d : Client σ ι} : R c d → c.phase = .connected →
    ∀ m, R { c with outbox := c.outbox ++ [m] } (d.post m)

namespace Client

variable {t : Transport σ ι} {w : Surroundings σ ι} {c d e : Client σ ι}

/-- The client after calls of the callbacks with these slots, as far as they are counted. -/
def counted (c : Client σ ι) (slots : List Nat) : Client σ ι :=
  { c with calls := slots.foldl (fun calls slot => calls.modify slot (· + 1)) c.calls }

theorem counted_cons (c : Client σ ι) (slot : Nat) (rest : List Nat) :
    c.counted (slot :: rest) = (c.countCall slot).2.counted rest := rfl

theorem length_calls_counted (c : Client σ ι) (slots : List Nat) :
    (c.counted slots).calls.length = c.calls.length := by
  induction slots generalizing c with
  | nil => rfl
  | cons slot rest ih =>
    rw [counted_cons, ih]
    exact List.length_modify ..

/-- A slot that was given out counts the calls of its callback. -/
theorem callsAt_counted {c : Client σ ι} {slot : Nat} (hslot : slot < c.calls.length)
    (slots : List Nat) : (c.counted slots).callsAt slot = c.callsAt slot + slots.count slot := by
  induction slots generalizing c with
  | nil => rfl
  | cons first rest ih =>
    have hlength : slot < (c.countCall first).2.calls.length := by
      rwa [countCall, List.length_modify]
    rw [counted_cons, ih hlength, List.count_cons, Nat.add_comm (rest.count slot), ← Nat.add_assoc]
    congr 1
    simp only [countCall, callsAt, List.getD_eq_getElem?_getD, List.getElem?_modify,
      List.getElem?_eq_getElem hslot]
    by_cases hsame : first = slot <;> simp [hsame]

theorem Idle.of_leaves {M : Manners ι} {R : Client σ ι → Client σ ι → Prop} (h : M.Leaves t R)
    (htidy : Tidy M c.desk) : c.Idle := by
  refine htidy.mono (fun command hfit => ?_) fun _ _ => trivial
  obtain ⟨i, rfl, -⟩ := h.stimulus hfit
  rfl

/-- Between two states, nothing changed but the transport and what is written down. -/
def Immaterial (c d : Client σ ι) : Prop :=
  ∃ link journal, d = { c with link := link, journal := journal }

namespace Immaterial

theorem refl (c : Client σ ι) : Immaterial c c :=
  ⟨c.link, c.journal, rfl⟩

theorem trans (hfirst : Immaterial c d) (hsecond : Immaterial d e) : Immaterial c e := by
  obtain ⟨_, _, rfl⟩ := hfirst
  obtain ⟨link, journal, rfl⟩ := hsecond
  exact ⟨link, journal, rfl⟩

theorem noted (c : Client σ ι) (what : Occurrence ι) : Immaterial c (c.note what) :=
  ⟨c.link, _, rfl⟩

end Immaterial

theorem idle_leaves (t : Transport σ ι) :
    (idleManners ι).Leaves t (Immaterial (σ := σ) (ι := ι)) where
  stimulus {command} hfit := by
    cases command with
    | stimulate i => exact ⟨i, rfl, fun c => ⟨_, c.journal, rfl⟩⟩
    | _ => cases hfit
  refl := .refl
  trans := .trans
  noted := .noted
  counted h slot := by
    obtain ⟨link, journal, rfl⟩ := h
    exact ⟨link, journal, rfl⟩
  posted h hin m := by
    obtain ⟨link, journal, rfl⟩ := h
    exact ⟨link, journal, if_pos hin⟩

/-- Between two states, nothing changed but the transport's own state, whether it is still there,
and what is written down. -/
def Incidental (c d : Client σ ι) : Prop :=
  ∃ state isOpen journal, d = { c with
    link := { c.link with state := state, channel := { c.link.channel with isOpen := isOpen } }
    journal := journal }

theorem Incidental.refl (c : Client σ ι) : Incidental c c :=
  ⟨c.link.state, c.link.channel.isOpen, c.journal, rfl⟩

theorem Incidental.trans (hfirst : Incidental c d) (hsecond : Incidental d e) : Incidental c e := by
  obtain ⟨_, _, _, rfl⟩ := hfirst
  obtain ⟨state, isOpen, journal, rfl⟩ := hsecond
  exact ⟨state, isOpen, journal, rfl⟩

theorem Incidental.noted (c : Client σ ι) (what : Occurrence ι) : Incidental c (c.note what) :=
  ⟨c.link.state, c.link.channel.isOpen, _, rfl⟩

/-- How often callbacks were called makes no difference to the rest. -/
theorem Incidental.counted (h : Incidental c d) (slot : Nat) :
    Incidental (c.countCall slot).2 (d.countCall slot).2 := by
  obtain ⟨state, isOpen, journal, rfl⟩ := h
  exact ⟨state, isOpen, journal, rfl⟩

theorem Incidental.absorbed {r : Reply σ} (h : r.IsSilent) (c : Client σ ι) :
    Incidental c { c with link := c.link.absorb r } := by
  obtain ⟨isOpen, hchannel⟩ := Channel.putAll_silent h c.link.channel
  refine ⟨r.state, isOpen, c.journal, ?_⟩
  rw [Link.absorb, hchannel]

/-- What comes to the outbox comes on top. -/
theorem Incidental.posted (h : Incidental c d) (hin : c.phase = .connected) (m : Message) :
    Incidental { c with outbox := c.outbox ++ [m] } (d.post m) := by
  obtain ⟨state, isOpen, journal, rfl⟩ := h
  exact ⟨state, isOpen, journal, if_pos hin⟩

theorem undemanding_leaves (t : Transport σ ι) :
    (undemanding t).Leaves t (Incidental (σ := σ) (ι := ι)) where
  stimulus hfit := by
    obtain ⟨i, hstimulus, hsilent⟩ := hfit
    exact ⟨i, hstimulus, fun c => .absorbed (hsilent _) c⟩
  refl := .refl
  trans := .trans
  noted := .noted
  counted := .counted
  posted := .posted

/-- What is in the outbox makes no difference to the rest. -/
theorem Incidental.withOutbox (h : Incidental c d) (ms : List Message) :
    Incidental { c with outbox := ms } { d with outbox := ms } := by
  obtain ⟨state, isOpen, journal, rfl⟩ := h
  exact ⟨state, isOpen, journal, rfl⟩

/-- A docile transport takes a message, which leaves a connected client as it is. -/
theorem Incidental.delivered (hdocile : t.Docile) (hin : c.phase = .connected) (m : Message) :
    Incidental c (c.delivered t m) := by
  have hsame : c.phase.next .client m = c.phase := by rw [hin, Phase.next_connected]
  rw [Client.delivered, hsame]
  exact (Incidental.noted c _).trans (.absorbed (hdocile.brings _ _ _) _)

end Client

namespace Session

open Client

variable {α : Type} {w : Surroundings σ ι} {c : Client σ ι} {M : Manners ι}
  {R : Client σ ι → Client σ ι → Prop}

theorem runner_leaves (h : M.Leaves w.transport R) {commands : List (Command ι)}
    (hfit : ∀ command ∈ commands, M.fit command) : Walks R (runner w commands) c := by
  unfold runner
  generalize w.patience = depth
  cases commands with
  | nil => cases depth <;> exact .of_pure _
  | cons first others =>
    cases depth with
    | zero => exact .of_exhausted
    | succ depth =>
      refine .of_forM fun command hcommand d => ?_
      obtain ⟨i, rfl, hstirred⟩ := h.stimulus (hfit command hcommand)
      refine .of_bind (.of_attempt (.of_modify_bind (hstirred d) (.of_pure _))) fun _ e _ => ?_
      exact .of_modify (h.noted e _)

theorem counted_leaves (h : M.Leaves w.transport R) {c d : Client σ ι} (hcd : R c d)
    (slots : List Nat) : R (c.counted slots) (d.counted slots) := by
  induction slots generalizing c d with
  | nil => exact hcd
  | cons slot rest ih => exact ih (h.counted hcd slot)

/-- The step succeeds, and once the calls of the callbacks with these slots are counted, the client
is as the relation says. -/
def Tallies (R : Client σ ι → Client σ ι → Prop) (slots : List Nat) (step : Session σ ι PUnit)
    (c : Client σ ι) : Prop :=
  ∃ d, step c = .ok ⟨⟩ d ∧ R (c.counted slots) d

/-- Everyone is called once, one after the other. -/
theorem Tallies.of_forM_each {β : Type} (h : M.Leaves w.transport R) {items : List β}
    {step : β → Session σ ι PUnit} {slot : β → Nat}
    (hitems : ∀ b ∈ items, ∀ d, Tallies R [slot b] (step b) d) :
    Tallies R (items.map slot) (items.forM step) c := by
  induction items generalizing c with
  | nil => exact ⟨c, rfl, h.refl c⟩
  | cons b rest ih =>
    obtain ⟨hb, hrest⟩ := List.forall_mem_cons.mp hitems
    obtain ⟨d, hrun, hfirst⟩ := hb c
    obtain ⟨e, hlast, hlater⟩ := ih (c := d) hrest
    exact ⟨e, (bind_of_ok hrun).trans hlast,
      h.trans (counted_leaves h hfirst (rest.map slot)) hlater⟩

/-- A call is counted, and what the callback does then changes nothing that matters. -/
theorem invoke_tallies (hpatience : 0 < w.patience) (h : M.Leaves w.transport R)
    {callback : Callback ι α} (happroved : M.Approves callback) (told : α) (what : Invocation) :
    Tallies R [callback.slot] (invoke (runner w) callback told what) c := by
  let called : Client σ ι := ((c.note (.invoked what)).countCall callback.slot).2
  let commands := callback.react (c.callsAt callback.slot) told
  have hstimuli : ∀ command ∈ commands, command.isStimulus := fun command hcommand => by
    obtain ⟨i, rfl, -⟩ := h.stimulus (happroved _ told command hcommand)
    rfl
  obtain ⟨d, hrun, -⟩ := runner_calls (c := called) hpatience hstimuli
  have hwalks : Walks R (runner w commands) called := runner_leaves h (happroved _ told)
  exact ⟨d, hrun, h.trans (h.counted (h.noted c _) callback.slot)
    (Walks.keeps (hwalks.to_ok hrun) (fun _ _ => h.trans) (h.refl called))⟩

end Session

/-! ## What a message leads to -/

/-- The message that took effect. -/
def Occurrence.handled? : Occurrence ι → Option Message
  | .handled m => some m
  | _ => none

/-- What a message has to tell a program. -/
inductive Notice where
  | event (name : String) (data : Bytes)
  /-- Someone subscribes to a name that matches a pattern, or no longer does. -/
  | listened (pattern name : String) (subscribed : Bool)
  | users (list : List String)
  | presence (user : String) (joined : Bool)
  deriving DecidableEq, Repr

/-- What a message has to tell, if it has what it takes. Other messages tell a program nothing. -/
def Message.notice? (m : Message) : Option Notice :=
  match m.header, m.arguments with
  | ⟨.event, .event, false⟩, name :: data :: _ => some (.event (Utf8.lossy name) data)
  | ⟨.event, .patternFound, false⟩, pattern :: name :: _ =>
    some (.listened (Utf8.lossy pattern) (Utf8.lossy name) true)
  | ⟨.event, .patternRemoved, false⟩, pattern :: name :: _ =>
    some (.listened (Utf8.lossy pattern) (Utf8.lossy name) false)
  | ⟨.presence, .query, false⟩, users => some (.users (users.map Utf8.lossy))
  | ⟨.presence, .presenceJoin, false⟩, user :: _ => some (.presence (Utf8.lossy user) true)
  | ⟨.presence, .presenceLeave, false⟩, user :: _ => some (.presence (Utf8.lossy user) false)
  | _, _ => none

namespace Client

variable {w : Surroundings σ ι} {c d e : Client σ ι} {m : Message}

/-- The calls that a notice asks for. -/
def calledBy (c : Client σ ι) : Notice → List Invocation
  | .event name data => (c.subscribers name).map fun s => .event s.callback.tag data
  | .listened pattern name subscribed => (c.events.listeners.find? pattern).toList.map
      fun listener => .listener listener.callback.tag name subscribed
  | .users list => c.presence.querents.map fun q => .users q.tag list
  | .presence user joined =>
    c.presence.subscriptions.map fun s => .presence s.callback.tag user joined

/-- Where these calls are counted. Those who wait for a list of users are called only once. -/
def slotsCalled (c : Client σ ι) : Notice → List Nat
  | .event name _ => (c.subscribers name).map (·.callback.slot)
  | .listened pattern _ _ => (c.events.listeners.find? pattern).toList.map (·.callback.slot)
  | .users _ => []
  | .presence _ _ => c.presence.subscriptions.map (·.callback.slot)

/-- What the listener for a pattern has the server told when someone subscribes to a name: what it
decides then, after all calls that there were before. -/
def decision (c : Client σ ι) (pattern name : String) (listener : Listener ι) : Message :=
  let accepted := listener.accepts (c.callsAt listener.callback.slot) name true
  .plain .event (if accepted then .listenAccept else .listenReject)
    [Utf8.encode pattern, Utf8.encode name]

/-- A client after a notice, as far as this matters. The calls are counted. The decision of a
listener is to be passed on if someone subscribes, and whoever has waited for a list of users has it
now. -/
def notified (c : Client σ ι) (notice : Notice) : Client σ ι :=
  let called := c.counted (c.slotsCalled notice)
  match notice with
  | .listened pattern name true =>
    { called with outbox := c.outbox ++
      (c.events.listeners.find? pattern).toList.map (c.decision pattern name) }
  | .users _ => { called with presence := { c.presence with querents := [] } }
  | _ => called

theorem notified_unheard {pattern : String} (h : c.events.listeners.find? pattern = none)
    (name : String) (subscribed : Bool) : c.notified (.listened pattern name subscribed) = c := by
  cases subscribed with
  | false =>
    simp only [notified, slotsCalled, h]
    rfl
  | true =>
    simp only [notified, slotsCalled, h, Option.toList_none, List.map_nil, List.append_nil]
    rfl

theorem notified_heard {pattern : String} {listener : Listener ι}
    (h : c.events.listeners.find? pattern = some listener) (name : String) (subscribed : Bool) :
    c.notified (.listened pattern name subscribed) =
      { c.counted [listener.callback.slot] with outbox := c.outbox ++
        if subscribed then [c.decision pattern name listener] else [] } := by
  cases subscribed with
  | false =>
    simp only [notified, slotsCalled, h, Bool.false_eq_true, if_false, List.append_nil]
    rfl
  | true =>
    simp only [notified, slotsCalled, h]
    rfl

theorem notified_note (what : Occurrence ι) (notice : Notice) :
    (c.note what).notified notice = (c.notified notice).note what := by
  cases notice with
  | listened pattern name subscribed => cases subscribed <;> rfl
  | _ => rfl

theorem calledBy_note (what : Occurrence ι) (notice : Notice) :
    (c.note what).calledBy notice = c.calledBy notice := by
  cases notice <;> rfl

/-- A notice makes no callback ask for more than it does. -/
theorem tidy_notified {M : Manners ι} (h : Tidy M c.desk) (hsay : ∀ m, M.say m)
    (notice : Notice) : Tidy M (c.notified notice).desk := by
  have hcounted (slots : List Nat) : Tidy M (c.counted slots).desk := h.numbered c.nextId _
  cases notice with
  | listened pattern name subscribed =>
    cases subscribed with
    | false => exact hcounted _
    | true => exact (hcounted _).withOutbox fun m _ => hsay m
  | users list => exact (hcounted []).withQuerents (List.forall_mem_nil _)
  | event | presence => exact hcounted _

/-- The messages of the server that took effect, in their order. -/
def handledMessages (c : Client σ ι) : List Message :=
  c.history.filterMap Occurrence.handled?

theorem handledMessages_of_history {whats : List (Occurrence ι)}
    (h : d.history = c.history ++ whats) :
    d.handledMessages = c.handledMessages ++ whats.filterMap Occurrence.handled? := by
  unfold handledMessages
  rw [h, List.filterMap_append]

/-- What a client does about a message that takes effect: it answers a heartbeat, it makes the calls
that a notice asks for, and it ignores every other message. -/
inductive Response (c : Client σ ι) (m : Message) : List (Occurrence ι) → Prop
  | ponged : m.isPing → Response c m [.sent (.plain .connection .pong) (.ok ())]
  | told {notice : Notice} {whats : List (Occurrence ι)} : m.notice? = some notice →
      (∀ what ∈ whats, what.isReaction) → invocations whats = c.calledBy notice →
      Response c m whats
  | ignored : m.isPing = false → m.notice? = none → Response c m []

/-- Between two states of a connected client, a message took effect. Beside what is incidental, this
changes nothing but the outbox and who waits for a list of users. -/
structure Digests (m : Message) (c d : Client σ ι) : Prop where
  history : ∃ whats, d.history = c.history ++ .handled m :: whats ∧ Response c m whats
  state : Incidental ((m.notice?.map c.notified).getD c) d

/-- Reactions are no messages that take effect. -/
theorem handled_of_reactions {whats : List (Occurrence ι)}
    (h : ∀ what ∈ whats, what.isReaction) : whats.filterMap Occurrence.handled? = [] := by
  refine List.filterMap_eq_nil_iff.mpr fun what hwhat => ?_
  have hreaction := h what hwhat
  cases what with
  | handled m => cases hreaction
  | _ => rfl

/-- Nothing of what a client does about a message makes another message take effect. -/
theorem Response.unhandled {whats : List (Occurrence ι)} (h : Response c m whats) :
    whats.filterMap Occurrence.handled? = [] := by
  cases h with
  | ponged _ => rfl
  | told _ hreactions _ => exact handled_of_reactions hreactions
  | ignored => rfl

theorem Digests.handled (h : Digests m c d) : d.handledMessages = c.handledMessages ++ [m] := by
  obtain ⟨whats, hhistory, hresponse⟩ := h.history
  rw [handledMessages_of_history hhistory]
  show c.handledMessages ++ m :: whats.filterMap Occurrence.handled? = _
  rw [hresponse.unhandled]

end Client

namespace Session

open Client

variable {w : Surroundings σ ι} {c d : Client σ ι} {m : Message}

/-- Tells a program what there is to tell. -/
def tell (run : Runner σ ι) : Notice → Session σ ι Unit
  | .event name data => notifySubscribers run name data
  | .listened pattern name subscribed => notifyListener run pattern name subscribed
  | .users list => answerQuerents run list
  | .presence user joined => notifyPresenceSubscribers run user joined

/-- What a client does with a message: it answers a heartbeat, or tells its program what there is to
tell. -/
theorem dispatch_eq : dispatch w m =
    if m.isPing then send w.transport (.plain .connection .pong)
    else (m.notice?.map (tell (runner w))).getD (pure ()) := by
  obtain ⟨⟨topic, action, isAck⟩, arguments⟩ := m
  cases topic with
  | event | presence =>
    cases action <;> cases isAck <;> rcases arguments with _ | ⟨first, _ | ⟨second, others⟩⟩ <;> rfl
  | connection => cases action <;> rfl
  | _ => rfl

section Telling

variable {M : Manners ι} {R : Client σ ι → Client σ ι → Prop}

theorem Calls.leaves {list : List Invocation} {slots : List Nat} {step : Session σ ι PUnit}
    (hcalls : Calls list step c) (htallies : Tallies R slots step c) :
    ∃ d, step c = .ok ⟨⟩ d ∧ Called list c d ∧ R (c.counted slots) d := by
  obtain ⟨d, hrun, hcalled⟩ := hcalls
  obtain ⟨e, hsame, hleft⟩ := htallies
  cases hrun.symm.trans hsame
  exact ⟨d, hrun, hcalled, hleft⟩

variable (hpatience : 0 < w.patience) (h : M.Leaves w.transport R) (htidy : Tidy M c.desk)
include hpatience h htidy

theorem notifySubscribers_leaves (name : String) (data : Bytes) :
    ∃ d, notifySubscribers (runner w) name data c = .ok ⟨⟩ d ∧
      Called ((c.subscribers name).map fun s => .event s.callback.tag data) c d ∧
      R (c.counted ((c.subscribers name).map (·.callback.slot))) d := by
  have hidle : c.Idle := .of_leaves h htidy
  have hcalls := notifySubscribers_calls hpatience (hidle.subscribers name) data
  rw [tags, List.map_map] at hcalls
  refine hcalls.leaves ?_
  unfold Tallies notifySubscribers subscribers
  rw [get_bind_apply]
  cases hfound : c.events.subscriptions.find? name with
  | none => exact ⟨c, rfl, h.refl c⟩
  | some subscriptions =>
    have happroved := (htidy.subscriptions name subscriptions hfound).2
    exact Tallies.of_forM_each h fun s hs _ => invoke_tallies hpatience h (happroved s hs) data _

theorem notifyPresenceSubscribers_leaves (user : String) (joined : Bool) :
    ∃ d, notifyPresenceSubscribers (runner w) user joined c = .ok ⟨⟩ d ∧
      Called (c.presence.subscriptions.map fun s => .presence s.callback.tag user joined) c d ∧
      R (c.counted (c.presence.subscriptions.map (·.callback.slot))) d := by
  have hcalls := notifyPresenceSubscribers_calls hpatience (.of_leaves h htidy) user joined
  rw [tags, List.map_map] at hcalls
  refine hcalls.leaves (Tallies.of_forM_each h fun s hs _ => ?_)
  exact invoke_tallies hpatience h (htidy.followers s hs) (user, joined) _

/-- The querents no longer wait when they are called. -/
theorem answerQuerents_leaves (users : List String) :
    ∃ d, answerQuerents (runner w) users c = .ok ⟨⟩ d ∧
      Called (c.presence.querents.map fun q => .users q.tag users) c d ∧
      R { c with presence := { c.presence with querents := [] } } d := by
  obtain ⟨d, hrun, hcalled⟩ := answerQuerents_calls hpatience (.of_leaves h htidy) users
  -- The querents have left before the first of them is called.
  let served : Client σ ι := { c with presence := { c.presence with querents := [] } }
  have hwalks : Walks R (c.presence.querents.forM fun q => do
      modify fun c => c.note (.invoked (.users q.tag users))
      runner w (q.react users)) served :=
    .of_forM fun q hq e =>
      .of_modify_bind (h.noted e _) (runner_leaves h (htidy.querents q hq users))
  exact ⟨d, hrun, hcalled, Walks.keeps (hwalks.to_ok hrun) (fun _ _ => h.trans) (h.refl served)⟩

/-- The listener is called, and its decision is passed on if it is wanted. -/
theorem notifyListener_leaves (hin : c.phase = .connected) (pattern name : String)
    (subscribed : Bool) :
    ∃ d, notifyListener (runner w) pattern name subscribed c = .ok ⟨⟩ d ∧
      Called ((c.events.listeners.find? pattern).toList.map
        fun listener => .listener listener.callback.tag name subscribed) c d ∧
      R (c.notified (.listened pattern name subscribed)) d := by
  obtain ⟨d, hrun, hcalled⟩ :=
    notifyListener_calls hpatience (.of_leaves h htidy) pattern name subscribed
  refine ⟨d, hrun, hcalled, ?_⟩
  rw [notifyListener, get_bind_apply] at hrun
  cases hfound : c.events.listeners.find? pattern with
  | none =>
    rw [hfound] at hrun
    cases hrun
    rw [notified_unheard hfound]
    exact h.refl c
  | some listener =>
    rw [hfound] at hrun
    obtain ⟨⟨⟩, e, hinvoked, hrun⟩ := bind_eq_ok hrun
    have happroved := (htidy.listeners pattern listener hfound).2
    obtain ⟨f, hsame, hasked⟩ := invoke_tallies (c := c) hpatience h happroved (name, subscribed)
      (.listener listener.callback.tag name subscribed)
    cases hinvoked.symm.trans hsame
    rw [notified_heard hfound]
    cases subscribed with
    | false =>
      cases hrun
      rw [if_neg Bool.false_ne_true, List.append_nil]
      exact hasked
    | true =>
      cases hrun
      exact h.posted hasked hin (c.decision pattern name listener)

/-- Telling a program what there is to tell makes the calls that this asks for. -/
theorem tell_leaves (hin : c.phase = .connected) (notice : Notice) :
    ∃ d, tell (runner w) notice c = .ok ⟨⟩ d ∧ Called (c.calledBy notice) c d ∧
      R (c.notified notice) d := by
  cases notice with
  | event name data => exact notifySubscribers_leaves hpatience h htidy name data
  | presence user joined => exact notifyPresenceSubscribers_leaves hpatience h htidy user joined
  | users list => exact answerQuerents_leaves hpatience h htidy list
  | listened pattern name subscribed =>
    exact notifyListener_leaves hpatience h htidy hin pattern name subscribed

end Telling

/-- Telling a program what there is to tell is made of acts. -/
theorem tell_walks (notice : Notice) : Walks (Act w) (tell (runner w) notice) c := by
  cases notice with
  | event name data => exact notifySubscribers_walks runner_tame name data
  | listened pattern name subscribed => exact notifyListener_walks runner_tame _ _ _
  | users list => exact answerQuerents_walks runner_tame list
  | presence user joined => exact notifyPresenceSubscribers_walks runner_tame user joined

theorem notice?_of_isPing (h : m.isPing) : m.notice? = none := by
  obtain ⟨⟨topic, action, isAck⟩, arguments⟩ := m
  obtain rfl : topic = .connection := by simpa using (Bool.and_eq_true_iff.mp h).1
  rfl

/-- What a connected client does about a message. -/
theorem handle_digests (hpatience : 0 < w.patience) (hdocile : w.transport.Docile)
    (hin : c.phase = .connected) (hrestful : Tidy (undemanding w.transport) c.desk) (m : Message) :
    ∃ d, handle w m c = .ok ⟨⟩ d ∧ Digests m c d := by
  have hnoted : Incidental c (c.note (.handled m)) := .noted c _
  have hhistory := note_history c (.handled m)
  rw [handle_connected hin, dispatch_eq]
  cases hping : m.isPing with
  | true =>
    have hnone := notice?_of_isPing hping
    have htaken : ((c.note (.handled m)).link.call w.transport
        (.send (.plain .connection .pong : Message).encode)).1 = .ok () := hdocile.takes ..
    refine ⟨(c.note (.handled m)).delivered w.transport (.plain .connection .pong), ?_, ?_, ?_⟩
    · rw [if_pos rfl, send_eq, note_phase, hin, Phase.next_connected, if_neg nofun, htaken]
    · refine ⟨_, ?_, .ponged hping⟩
      rw [delivered_history, hhistory, List.append_assoc]
      rfl
    · rw [hnone]
      exact hnoted.trans (.delivered (c := c.note (.handled m)) hdocile hin _)
  | false =>
    cases hnotice : m.notice? with
    | none =>
      refine ⟨c.note (.handled m), rfl, ⟨[], hhistory, .ignored hping hnotice⟩, ?_⟩
      rw [hnotice]
      exact hnoted
    | some notice =>
      obtain ⟨d, hrun, hcalled, hrest⟩ :=
        tell_leaves (c := c.note (.handled m)) hpatience (undemanding_leaves _) hrestful hin notice
      obtain ⟨whats, hlater, hreactions, hcalls⟩ := hcalled.reactions
      refine ⟨d, hrun, ⟨whats, ?_, .told hnotice hreactions ?_⟩, ?_⟩
      · rw [hlater, hhistory, List.append_assoc]
        rfl
      · rw [hcalls, calledBy_note]
      · rw [hnotice]
        rw [notified_note] at hrest
        exact (Incidental.noted (c.notified notice) _).trans hrest

end Session

/-! ## The good part of an inbox, and what comes after it -/

namespace Client

variable {t : Transport σ ι} {w : Surroundings σ ι} {c d e : Client σ ι} {m : Message}
  {ms : List Message}

/-- Between two states of a connected client, messages were found in its inbox one after the other,
and each took effect before the client looked for the next one. -/
inductive Consumes : List Message → Client σ ι → Client σ ι → Prop
  | done (c : Client σ ι) : Consumes [] c (c.withInbox ⟨[], c.inbox.rest⟩)
  | next {m : Message} {ms : List Message} {left : Inbox} {c d e : Client σ ι} :
      c.inbox.next false = (some (.message m), left) → Digests m (c.withInbox left) d →
      Consumes ms d e → Consumes (m :: ms) c e

theorem Consumes.handled (h : Consumes ms c d) :
    d.handledMessages = c.handledMessages ++ ms := by
  induction h with
  | done c => exact (List.append_nil _).symm
  | next _ hdigests _ ih =>
    rw [ih, hdigests.handled, List.append_assoc]
    rfl

/-- What changes neither with what is incidental nor when a program is told something, does not
change when a message takes effect. -/
theorem Digests.keeps {P : Client σ ι → Prop} (h : Digests m c d) (hc : P c)
    (hincidental : ∀ c d, Incidental c d → P c → P d)
    (hnotified : ∀ c notice, P c → P (c.notified notice)) : P d := by
  refine hincidental _ _ h.state ?_
  cases m.notice? with
  | none => exact hc
  | some notice => exact hnotified c notice hc

theorem Digests.inbox (h : Digests m c d) : d.inbox = c.inbox := by
  refine h.keeps (P := fun e => e.inbox = c.inbox) rfl ?_ fun e notice he => ?_
  · rintro e f ⟨state, isOpen, journal, rfl⟩ he
    exact he
  · cases notice with
    | listened pattern name subscribed => cases subscribed <;> exact he
    | _ => exact he

theorem Digests.phase (h : Digests m c d) : d.phase = c.phase := by
  refine h.keeps (P := fun e => e.phase = c.phase) rfl ?_ fun e notice he => ?_
  · rintro e f ⟨state, isOpen, journal, rfl⟩ he
    exact he
  · cases notice with
    | listened pattern name subscribed => cases subscribed <;> exact he
    | _ => exact he

/-- Callbacks that ask for nothing go on asking for nothing. -/
theorem Digests.restful (h : Digests m c d) (hrestful : Tidy (undemanding t) c.desk) :
    Tidy (undemanding t) d.desk := by
  refine h.keeps (P := fun e => Tidy (undemanding t) e.desk) hrestful ?_ fun e notice he => ?_
  · rintro e f ⟨state, isOpen, journal, rfl⟩ he
    exact he
  · exact tidy_notified he (fun _ => trivial) notice

/-- What a client does about an event that keeps it from going on: the error that it ends with, and
its state then. -/
inductive Breaks (c : Client σ ι) : List Event → Error → Client σ ι → Prop
  /-- All that is wrong with a frame is reported, and the connection is closed. What came with the
  frame, and after it, is dropped. -/
  | malformed {bytes : Bytes} {first : Frame.Fault} {others : List Frame.Fault}
      {later : List Event} {outcome : Except Error Unit} {d : Client σ ι} :
      (Frame.read bytes).faults = first :: others →
      d.history = c.history ++ (first :: others).map (fun fault => .reported (.frame fault)) ++
        [.closed outcome] →
      Incidental { c.withInbox ⟨[], []⟩ with phase := .disconnected } d →
      Breaks c (.frame bytes :: later) (.frame first) d
  /-- What the transport says of its failure is reported. What came after it is left. -/
  | failed {reason : String} {later : List Event} {d : Client σ ι} :
      d.history = c.history ++ [.reported (.transport reason)] →
      Incidental (c.withInbox ⟨[], later⟩) d →
      Breaks c (.failed reason :: later) (.transport reason) d
  /-- The connection is gone, and need not be closed. What came after that is left. -/
  | closed {later : List Event} {d : Client σ ι} :
      d.history = c.history ++ [.reported .suddenDisconnect] →
      Incidental { c.withInbox ⟨[], later⟩ with phase := .disconnected } d →
      Breaks c (.closed :: later) .suddenDisconnect d

/-- How processing ends for a client that has handled the good part of its inbox, by the events that
come after that. -/
inductive Finishes (c : Client σ ι) :
    List Event → EStateM.Result Stop (Client σ ι) Unit → Prop
  /-- Nothing keeps the client from sending what is in its outbox, in this order. -/
  | through {d : Client σ ι} : d.history = c.history ++ c.outbox.flatMap flushing →
      Incidental { c with outbox := [] } d → Finishes c [] (.ok () d)
  | broken {events : List Event} {x : Error} {d : Client σ ι} : Breaks c events x d →
      Finishes c events (.error (.failed x) d)

/-- Nothing takes effect when an event keeps a client from going on. -/
theorem Breaks.handled {events : List Event} {x : Error} (h : Breaks c events x d) :
    d.handledMessages = c.handledMessages := by
  cases h with
  | malformed _ hhistory _ =>
    rw [List.append_assoc] at hhistory
    rw [handledMessages_of_history hhistory, List.filterMap_append, List.filterMap_map]
    simp [Function.comp_def, Occurrence.handled?]
  | failed hhistory _ | closed hhistory _ =>
    rw [handledMessages_of_history hhistory]
    exact List.append_nil _

theorem filterMap_handled_flushing (ms : List Message) :
    (ms.flatMap flushing : List (Occurrence ι)).filterMap Occurrence.handled? = [] := by
  induction ms with
  | nil => rfl
  | cons m rest ih => exact ih

theorem complaining_history (faults : List Frame.Fault) (c : Client σ ι) :
    (c.complaining faults).history =
      c.history ++ faults.map fun fault => .reported (.frame fault) := by
  induction faults generalizing c with
  | nil => exact (List.append_nil _).symm
  | cons fault others ih =>
    show ((c.note (.reported (.frame fault))).complaining others).history = _
    rw [ih, note_history, List.append_assoc]
    rfl

theorem Incidental.complaining (faults : List Frame.Fault) (c : Client σ ι) :
    Incidental c (c.complaining faults) := by
  induction faults generalizing c with
  | nil => exact .refl c
  | cons fault others ih => exact (Incidental.noted c _).trans (ih _)

theorem Incidental.shut (h : Incidental c d) (t : Transport σ ι) :
    Incidental { c.withInbox ⟨[], []⟩ with phase := .disconnected } (d.shut t) := by
  obtain ⟨state, isOpen, journal, rfl⟩ := h
  rw [shut_eq]
  exact ⟨_, _, _, rfl⟩

theorem shut_history (t : Transport σ ι) (c : Client σ ι) :
    ∃ outcome, (c.shut t).history = c.history ++ [.closed outcome] := by
  refine ⟨(c.link.call t .closeLink).1, history_eq_of_noted ?_⟩
  rw [shut_eq]
  rfl

end Client

namespace Session

open Client

variable {w : Surroundings σ ι} {c d : Client σ ι}

/-- With nothing good left in its inbox, a client has nothing more to do, or comes to an event that
keeps it from going on. -/
theorem drain_breaks {rounds : Nat} (hin : c.phase = .connected)
    (hnext : c.inbox.next false = Inbox.halting c.inbox.rest) :
    (c.inbox.rest = [] ∧ drain w (rounds + 1) c = .ok () (c.withInbox ⟨[], []⟩)) ∨
      ∃ x d, drain w (rounds + 1) c = .error (.failed x) d ∧
        Breaks (c.withInbox ⟨[], c.inbox.rest⟩) c.inbox.rest x d := by
  have hlooked := nextMessage_of_open w.transport false (hin ▸ nofun : c.phase ≠ .disconnected)
  rw [hnext] at hlooked
  -- The first event that is left is never a calm one.
  have hwrong := @Inbox.not_isCalm_of_rest c.inbox
  rw [drain]
  generalize c.inbox.rest = rest at hlooked hwrong ⊢
  cases rest with
  | nil =>
    have hnone : nextMessage w.transport false c = .ok none (c.withInbox ⟨[], []⟩) := hlooked
    exact .inl ⟨rfl, bind_of_ok hnone⟩
  | cons event later =>
    refine .inr ?_
    cases event with
    | opened => cases hwrong rfl
    | failed reason =>
      exact ⟨_, _, bind_of_error hlooked, .failed (note_history ..) (.noted _ _)⟩
    | closed =>
      let lost : Client σ ι := (c.withInbox ⟨[], later⟩).enter .disconnected
      have hlost : lost = { c.withInbox ⟨[], later⟩ with phase := .disconnected } :=
        enter_disconnected _
      refine ⟨_, lost.note (.reported .suddenDisconnect), bind_of_error hlooked, ?_⟩
      rw [hlost]
      exact .closed (note_history ..) (.noted _ _)
    | frame bytes =>
      cases hfaults : (Frame.read bytes).faults with
      | nil =>
        have hcalm : (Event.frame bytes).isCalm = true := by simp [Event.isCalm, hfaults]
        exact absurd hcalm (Bool.eq_false_iff.mp (hwrong rfl))
      | cons first others =>
        have hheeded := hlooked.trans (heed_malformed w.transport false hfaults _)
        obtain ⟨outcome, hshut⟩ := shut_history w.transport
          ((c.withInbox ⟨[], later⟩).complaining (first :: others))
        rw [complaining_history] at hshut
        exact ⟨_, _, bind_of_error hheeded,
          .malformed hfaults hshut ((Incidental.complaining _ _).shut w.transport)⟩

/-- A connected client handles the good part of its inbox, message by message, and then ends as
what comes after that says. -/
theorem drain_consumes (hpatience : 0 < w.patience) (hdocile : w.transport.Docile) {rounds : Nat}
    (hin : c.phase = .connected) (hrestful : Tidy (undemanding w.transport) c.desk)
    (hrounds : c.inbox.goodPart.length < rounds) :
    ∃ d, Consumes c.inbox.goodPart c d ∧ d.phase = .connected ∧ d.inbox = ⟨[], c.inbox.rest⟩ ∧
      ((c.inbox.rest = [] ∧ drain w rounds c = .ok () d) ∨
        ∃ x e, drain w rounds c = .error (.failed x) e ∧ Breaks d c.inbox.rest x e) := by
  -- A message that takes effect leaves the client connected and its callbacks undemanding, so that
  -- the rounds go on with a good part that is shorter by one.
  induction rounds generalizing c with
  | zero => cases hrounds
  | succ rounds ih =>
    obtain ⟨m, left, hnext, hgood, hrest⟩ | ⟨hgood, hnext⟩ := c.inbox.next_of_goodPart
    · have hlooked := nextMessage_of_open w.transport false (hin ▸ nofun : c.phase ≠ .disconnected)
      rw [hnext] at hlooked
      obtain ⟨d, hhandled, hdigests⟩ :=
        handle_digests (c := c.withInbox left) hpatience hdocile hin hrestful m
      have hinbox : d.inbox = left := hdigests.inbox
      have hlength : d.inbox.goodPart.length < rounds := by
        rw [hinbox]
        rw [hgood] at hrounds
        exact Nat.lt_of_succ_lt_succ hrounds
      obtain ⟨e, hconsumes, he, heInbox, hend⟩ :=
        ih (hdigests.phase.trans hin) (hdigests.restful hrestful) hlength
      have hround : drain w (rounds + 1) c = drain w rounds d := by
        rw [drain, bind_of_ok hlooked]
        exact bind_of_ok hhandled
      rw [hinbox, hrest] at heInbox hend
      rw [hinbox] at hconsumes
      rw [hgood, hround]
      exact ⟨e, .next hnext hdigests hconsumes, he, heInbox, hend⟩
    · rw [hgood]
      refine ⟨_, .done c, hin, rfl, ?_⟩
      obtain ⟨hnone, hdrained⟩ | hbroken := @drain_breaks _ _ w c rounds hin hnext
      · rw [hnone]
        exact .inl ⟨rfl, hdrained⟩
      · exact .inr hbroken

/-- A connected client empties its outbox into a docile transport. -/
theorem flushAll_incidental {t : Transport σ ι} {ms : List Message} (hdocile : t.Docile)
    (hin : c.phase = .connected) (hms : c.outbox = ms) :
    ∃ d, flushAll t ms c = .ok () d ∧ Incidental { c with outbox := [] } d := by
  induction ms generalizing c with
  | nil =>
    refine ⟨c, rfl, ?_⟩
    rw [← hms]
    exact .refl c
  | cons m rest ih =>
    have htaken : (c.link.call t (.send m.encode)).1 = .ok () := hdocile.takes ..
    have hsent : Incidental (c.drawn m rest) ((c.drawn m rest).delivered t m) :=
      .delivered (c := c.drawn m rest) hdocile hin m
    have hdrawn : Incidental { c with outbox := rest } (c.drawn m rest) := .noted _ _
    obtain ⟨d, hrun, hempty⟩ := ih (c := (c.drawn m rest).delivered t m)
      (by rw [delivered_phase, drawn_phase, hin, Phase.next_connected]) rfl
    refine ⟨d, ?_, ((hdrawn.trans hsent).withOutbox []).trans hempty⟩
    rw [flushAll_cons, hin, Phase.next_connected, if_neg nofun, htaken]
    exact hrun

/-- Processing takes the good part of an inbox, message by message and in order, and then ends as
what comes after that says. No other message takes effect. -/
theorem process_finishes (hdocile : w.transport.Docile) (hin : c.phase = .connected)
    (hrestful : Tidy (undemanding w.transport) c.desk)
    (hpatience : c.inbox.goodPart.length < w.patience) :
    ((process w).after c).handledMessages = c.handledMessages ++ c.inbox.goodPart ∧
      ∃ d, Consumes c.inbox.goodPart c d ∧ d.phase = .connected ∧ d.inbox = ⟨[], c.inbox.rest⟩ ∧
        Finishes d c.inbox.rest (process w c) := by
  obtain ⟨d, hconsumes, hd, hinbox, ⟨hrest, hdrained⟩ | ⟨x, e, hdrained, hbreaks⟩⟩ :=
    drain_consumes (Nat.zero_lt_of_lt hpatience) hdocile hin hrestful hpatience
  · obtain ⟨e, hflushed, hempty⟩ := flushAll_incidental hdocile hd rfl
    have hrun : process w c = .ok () e := (bind_of_ok hdrained).trans hflushed
    have hhistory := (flushAll_ok rfl hflushed).history
    rw [after_of_ok hrun, hrun, hrest, handledMessages_of_history hhistory,
      filterMap_handled_flushing, List.append_nil, hconsumes.handled]
    exact ⟨rfl, d, hconsumes, hd, hrest ▸ hinbox, .through hhistory hempty⟩
  · have hrun : process w c = .error (.failed x) e := bind_of_error hdrained
    rw [after_of_error hrun, hrun, hbreaks.handled, hconsumes.handled]
    exact ⟨rfl, d, hconsumes, hd, hinbox, .broken hbreaks⟩

/-! ### A client to which much has come -/

/-- A transport that takes everything. Only when it is closed does something come. -/
def placid : Transport Unit Unit where
  call _ call _ :=
    match call with
    | .closeLink => { state := (), signals := [.event (.failed "reset")] }
    | _ => { state := () }
  stimulate _ _ := { state := () }

theorem placid_docile : placid.Docile where
  takes _ _ _ := rfl
  brings _ _ _ := List.forall_mem_nil _

def unhurried : Surroundings Unit Unit where
  transport := placid
  patience := 5

/-- A client to which an event has come, and after it a heartbeat and someone who subscribes to
the weather. It has still to subscribe to something itself. -/
def besieged (later : List Event) : Client Unit Unit where
  config := .standard
  uri := "ws://server"
  link :=
    { uri := some "ws://server"
      channel :=
        { isOpen := true
          queue := .opened ::
            .frame ((Message.plain .connection .ping).encode ++ (Message.plain .event .patternFound
              [Utf8.encode "w.*", Utf8.encode "weather"]).encode) :: later }
      state := () }
  phase := .connected
  pending := [emitMessage "news" (Utf8.encode "S1")]
  outbox := [eventMessage .subscribe "news"]
  events :=
    { subscriptions := NameMap.empty.insert "news" [⟨0, ⟨0, "reader", fun _ _ => [.stimulate ()]⟩⟩]
      listeners := NameMap.empty.insert "w.*" ⟨⟨1, "provider", fun _ _ => []⟩, fun _ _ _ => true⟩ }
  nextId := 1
  calls := [0, 0]

theorem undemanding_stimulate (command : Command Unit) (h : command ∈ [Command.stimulate ()]) :
    (undemanding placid).fit command :=
  ⟨(), List.mem_singleton.mp h, fun _ => List.forall_mem_nil _⟩

theorem besieged_restful (later : List Event) :
    Tidy (undemanding placid) (besieged later).desk where
  outbox _ _ := trivial
  sendQueue := List.forall_mem_nil _
  subscriptions := NameMap.forall_insert nofun
    ⟨trivial, List.forall_mem_singleton.mpr fun _ _ => undemanding_stimulate⟩
  listeners := NameMap.forall_insert nofun ⟨trivial, fun _ _ => List.forall_mem_nil _⟩
  followers := List.forall_mem_nil _
  querents := List.forall_mem_nil _

/-- A frame with a message in it, and something that is none. -/
def garbled : Bytes :=
  (emitMessage "news" (Utf8.encode "S2")).encode ++ Utf8.encode "X\x1e"

/-- The client handles what is good, the same in either case. Then it sends what it has to say, or
else it closes the connection over what is wrong. -/
theorem process_finishes_besieged :
    let calm := besieged []
    let troubled := besieged [.frame garbled, .closed]
    let good : List Message :=
      [emitMessage "news" (Utf8.encode "S1"), .plain .connection .ping,
        .plain .event .patternFound [Utf8.encode "w.*", Utf8.encode "weather"]]
    ((process unhurried).after calm).handledMessages = good ∧
      (∃ d, Consumes good calm d ∧ d.phase = .connected ∧ d.inbox = ⟨[], []⟩ ∧
        Finishes d [] (process unhurried calm)) ∧
      ((process unhurried).after troubled).handledMessages = good ∧
      (∃ d, Consumes good troubled d ∧ d.phase = .connected ∧
        d.inbox = ⟨[], [.frame garbled, .closed]⟩ ∧
        Finishes d [.frame garbled, .closed] (process unhurried troubled)) ∧
      ((Frame.read garbled).messages.length = 1 ∧ (Frame.read garbled).faults.length = 1) ∧
      ((process unhurried).after troubled).isIdle = true := by
  intro calm troubled good
  have hcalm : calm.inbox.goodPart = good := by decide +kernel
  have hrest : calm.inbox.rest = [] := by decide +kernel
  have htroubled : troubled.inbox.goodPart = good := by decide +kernel
  have hwrong : troubled.inbox.rest = [.frame garbled, .closed] := by decide +kernel
  obtain ⟨hcalmed, hthrough⟩ := process_finishes (w := unhurried) (c := calm) placid_docile rfl
    (besieged_restful _) (by decide +kernel)
  obtain ⟨hhandled, hbroken⟩ := process_finishes (w := unhurried) (c := troubled) placid_docile rfl
    (besieged_restful _) (by decide +kernel)
  rw [hcalm] at hcalmed hthrough
  rw [hrest] at hthrough
  rw [htroubled] at hhandled hbroken
  rw [hwrong] at hbroken
  exact ⟨hcalmed, hthrough, hhandled, hbroken, by decide +kernel, by decide +kernel⟩

end Session

end Realtime
