import Realtime.Proofs.Client.Replay

/-!
# Starting over

Whatever has happened to a client, it can be used again. Closing its connection leaves
nothing behind that would be in the way of the next one: what has come in is dropped, and
what stands in the outbox is about events and presence, which a connected client may send.
So with a server that cooperates from then on, the client comes to be connected again and
has nothing left to send.

Results:
1. `awaitReply_answered`: waiting for a reply that has come in already.
2. `connect_obliged`, `login_obliged`: connecting and logging in with such a server.
3. `recovers`: closing, connecting and logging in, from wherever requests lead.
-/

namespace Realtime

variable {σ ι : Type}

/-! ## Servers that cooperate -/

/-- A message with this header is about the connection or a login, and is no heartbeat. -/
def Header.IsFormal (h : Header) : Prop :=
  h.topic = .auth ∨ h.topic = .connection ∧ h.action ≠ .ping

/-- What a signal brings. -/
def Signal.items : Signal → List Item
  | .event e => e.items
  | .detach => []

/-- The call has succeeded. It has left the transport as it should be, with its channel, and
has brought messages with these headers and nothing else. -/
structure Obliging (willing : σ → Prop) (headers : List Header) (r : Reply σ) : Prop where
  outcome : r.outcome = .ok ()
  willing : willing r.state
  attached : .detach ∉ r.signals
  brings : ∃ messages : List Message, r.signals.flatMap Signal.items = messages.map .message ∧
    messages.map Message.header = headers

/-- As long as the transport is as it should be, the server answers like this: it challenges
a client once the transport is open, accepts its answer, and lets it in when it asks for
that. What a client says of events and presence is taken without an answer. Closing may fail,
and may bring anything, as long as the channel stays. -/
structure Cooperative (t : Transport σ ι) (willing : σ → Prop) : Prop where
  closes {s : σ} (uri : Option String) : willing s →
    willing (t.call uri .closeLink s).state ∧ .detach ∉ (t.call uri .closeLink s).signals
  challenges {s : σ} (uri : Option String) : willing s →
    Obliging willing [⟨.connection, .challenge, false⟩] (t.call uri .openLink s)
  accepts {s : σ} (uri : Option String) {m : Message} : willing s →
    m.header = ⟨.connection, .challengeResponse, false⟩ →
    Obliging willing [⟨.connection, .challengeResponse, true⟩] (t.call uri (.send m.encode) s)
  admits {s : σ} (uri : Option String) {m : Message} : willing s →
    m.header = ⟨.auth, .request, false⟩ →
    Obliging willing [⟨.auth, .request, true⟩] (t.call uri (.send m.encode) s)
  takes {s : σ} (uri : Option String) {m : Message} : willing s → m.isTraffic →
    Obliging willing [] (t.call uri (.send m.encode) s)

namespace Channel

/-- Every event comes through on a channel that stays open. -/
theorem putAll_attached {signals : List Signal} (h : .detach ∉ signals) {channel : Channel}
    (hopen : channel.isOpen = true) :
    (channel.putAll signals).isOpen = true ∧
      (channel.putAll signals).queue.flatMap Event.items =
        channel.queue.flatMap Event.items ++ signals.flatMap Signal.items := by
  induction signals generalizing channel with
  | nil => exact ⟨hopen, (List.append_nil _).symm⟩
  | cons first rest ih =>
    obtain ⟨hfirst, hrest⟩ := not_or.mp (mt List.mem_cons.mpr h)
    cases first with
    | detach => exact absurd rfl hfirst
    | event e =>
      have hput : channel.put (.event e) = { channel with queue := channel.queue ++ [e] } :=
        if_pos hopen
      have hstill : (channel.put (.event e)).isOpen = true := hput ▸ hopen
      obtain ⟨hstays, hitems⟩ := ih hrest hstill
      refine ⟨hstays, hitems.trans ?_⟩
      rw [hput, List.flatMap_append, List.flatMap_singleton, List.flatMap_cons, List.append_assoc]
      rfl

end Channel

namespace Client

/-- The transport of the client is as it should be, with its channel, and this is what has
come in and is not yet handled. -/
structure Attended (willing : σ → Prop) (items : List Item) (c : Client σ ι) : Prop where
  willing : willing c.link.state
  attached : c.link.channel.isOpen = true
  inbox : c.inbox.items = items

/-- Between two states, nothing changed that concerns events and presence. -/
structure Undisturbed (c d : Client σ ι) : Prop where
  outbox : d.outbox = c.outbox
  events : d.events = c.events
  presence : d.presence = c.presence

variable {willing : σ → Prop} {t : Transport σ ι} {c d e : Client σ ι}

theorem Undisturbed.trans (hfirst : Undisturbed c d) (hsecond : Undisturbed d e) :
    Undisturbed c e where
  outbox := hsecond.outbox.trans hfirst.outbox
  events := hsecond.events.trans hfirst.events
  presence := hsecond.presence.trans hfirst.presence

/-- After a call that has succeeded, the client has its answer. -/
theorem Attended.use (h : Attended willing [] c) {call : Call} {headers : List Header}
    (hreply : Obliging willing headers (t.call c.link.uri call c.link.state))
    (what : Except Error Unit → Occurrence ι) :
    ∃ messages : List Message, messages.map Message.header = headers ∧
      Attended willing (messages.map .message) (c.use t call what).2 := by
  obtain ⟨messages, hsignals, hheaders⟩ := hreply.brings
  obtain ⟨hstays, hqueue⟩ := Channel.putAll_attached hreply.attached h.attached
  refine ⟨messages, hheaders, hreply.willing, hstays, ?_⟩
  show c.pending.map .message ++ (c.link.channel.putAll _).queue.flatMap Event.items = _
  rw [hqueue, ← List.append_assoc, hsignals]
  exact congrArg (· ++ messages.map .message) h.inbox

end Client

namespace Session

open Client

variable {w : Surroundings σ ι} {willing : σ → Prop} {c d : Client σ ι}

/-! ## Replies that have come in -/

/-- A message that has come in alone is found, and nothing is left. -/
theorem nextMessage_answered {m : Message} (wait : Bool) (h : Attended willing [.message m] c) :
    ∃ left : Inbox, Attended willing [] (c.withInbox left) ∧
      nextMessage w.transport wait c = .ok (some m) (c.withInbox left) := by
  have hheeded := nextMessage_eq w.transport wait c
  have hitems := Inbox.next_items (c.phase = .disconnected) c.inbox
  have hnone := @Inbox.items_of_next_none (c.phase = .disconnected) c.inbox
  rw [h.inbox, Inbox.news_of_ne_closed Item.noConfusion] at hitems
  generalize c.inbox.next (c.phase = .disconnected) = found at hitems hheeded hnone
  obtain ⟨found, left⟩ := found
  cases found with
  | none =>
    rw [hnone rfl] at hitems
    cases hitems
  | some item =>
    obtain ⟨rfl, hleft⟩ := List.cons_eq_cons.mp hitems
    exact ⟨left, ⟨h.willing, h.attached, hleft.symm⟩, hheeded⟩

/-- A message about nothing but the connection has no effect beyond the phase. -/
theorem dispatch_formal {m : Message} (h : m.header.IsFormal) : dispatch w m = pure () := by
  unfold dispatch
  obtain htopic | ⟨htopic, haction⟩ := h
  · rw [htopic]
  · rw [htopic]
    exact if_neg haction

theorem handle_formal {m : Message} (h : m.header.IsFormal)
    (hnext : c.phase.next .server m ≠ .error) (hlives : c.phase.next .server m ≠ .disconnected) :
    handle w m c = .ok () ((c.note (.handled m)).enter (c.phase.next .server m)) := by
  rw [handle_eq hnext, if_neg hlives, dispatch_formal h]
  rfl

theorem isPing_formal {m : Message} (h : m.header.IsFormal) : m.isPing = false := by
  unfold Message.isPing
  obtain htopic | ⟨-, haction⟩ := h
  · rw [htopic]
    rfl
  · rw [decide_eq_false haction, Bool.and_false]

/-- A client that waits for a reply which has come in already takes it up. -/
theorem awaitReply_answered {m : Message} (hpatience : 0 < w.patience)
    (h : Attended willing [.message m] c) (hformal : m.header.IsFormal)
    (hnext : c.phase.next .server m ≠ .error) (hlives : c.phase.next .server m ≠ .disconnected) :
    ∃ left : Inbox, Attended willing [] (c.withInbox left) ∧
      awaitReply w w.patience c =
        .ok m (((c.withInbox left).note (.handled m)).enter (c.phase.next .server m)) := by
  obtain ⟨left, hleft, hfound⟩ := nextMessage_answered (w := w) true h
  refine ⟨left, hleft, ?_⟩
  have hhandled : handle w m (c.withInbox left) =
      .ok () (((c.withInbox left).note (.handled m)).enter (c.phase.next .server m)) :=
    handle_formal hformal hnext hlives
  obtain ⟨rounds, hrounds⟩ := Nat.exists_eq_succ_of_ne_zero (Nat.ne_of_gt hpatience)
  rw [hrounds]
  show (nextMessage w.transport true >>= _ : Session σ ι Message) c = _
  rw [bind_of_ok hfound]
  show (handle w m >>= _ : Session σ ι Message) (c.withInbox left) = _
  rw [bind_of_ok hhandled, isPing_formal hformal]
  rfl

/-! ## Sending and being answered -/

/-- The transport takes a message, and what it brings is the answer. -/
theorem send_obliged {m : Message} {headers : List Header} (h : Attended willing [] c)
    (hallowed : c.phase.next .client m ≠ .error)
    (hreply : Obliging willing headers
      (w.transport.call c.link.uri (.send m.encode) c.link.state)) :
    ∃ messages : List Message, messages.map Message.header = headers ∧
      Attended willing (messages.map .message) (c.delivered w.transport m) ∧
      send w.transport m c = .ok () (c.delivered w.transport m) := by
  obtain ⟨messages, hheaders, hattended⟩ := h.use hreply (.sent m)
  refine ⟨messages, hheaders, ⟨hattended.willing, hattended.attached, hattended.inbox⟩, ?_⟩
  have htaken : (c.link.call w.transport (.send m.encode)).1 = .ok () := hreply.outcome
  rw [send_eq, if_neg hallowed, htaken]

/-- A client whose server has answered with one message takes up this message. -/
theorem awaitReply_obliged {messages : List Message} {header : Header} {q : Phase}
    (hpatience : 0 < w.patience) (h : Attended willing (messages.map .message) c)
    (hheaders : messages.map Message.header = [header]) (hformal : header.IsFormal)
    (hnext : ∀ m : Message, m.header = header → c.phase.next .server m = q) (hsound : q ≠ .error)
    (hlives : q ≠ .disconnected) :
    ∃ reply d, awaitReply w w.patience c = .ok reply (d.enter q) ∧ d.phase = c.phase ∧
      Undisturbed c d ∧ Attended willing [] d := by
  obtain ⟨reply, rfl, rfl⟩ := List.map_eq_singleton_iff.mp hheaders
  have hq := hnext reply rfl
  subst hq
  obtain ⟨left, hleft, hawaited⟩ := awaitReply_answered hpatience h hformal hsound hlives
  exact ⟨reply, _, hawaited, rfl, ⟨rfl, rfl, rfl⟩, hleft.willing, hleft.attached, hleft.inbox⟩

/-! ## Connecting, logging in, flushing -/

section Requests

variable (hserver : Cooperative w.transport willing) (hpatience : 0 < w.patience)
include hserver hpatience

theorem openAndAwaitChallenge_obliged (h : Attended willing [] c)
    (hphase : c.phase = .awaitConnection) :
    ∃ d, openAndAwaitChallenge w c = .ok () d ∧ d.phase = .challenging ∧ Undisturbed c d ∧
      Attended willing [] d := by
  have hreply := hserver.challenges c.link.uri h.willing
  obtain ⟨messages, hheaders, hopened⟩ := h.use hreply (.opened c.link.uri)
  have hnext (m : Message) (hm : m.header = ⟨.connection, .challenge, false⟩) :
      (c.use w.transport .openLink (.opened c.link.uri)).2.phase.next .server m =
        .challenging := by
    rw [use_phase, hphase, Phase.next, hm]
    rfl
  obtain ⟨reply, d, hawaited, -, hundisturbed, hattended⟩ := awaitReply_obliged hpatience hopened
    hheaders (.inr ⟨rfl, nofun⟩) hnext nofun nofun
  have hentered : d.enter .challenging = { d with phase := .challenging } :=
    enter_eq d Phase.noConfusion
  rw [hentered] at hawaited
  refine ⟨{ d with phase := .challenging }, ?_, rfl,
    ⟨hundisturbed.outbox, hundisturbed.events, hundisturbed.presence⟩,
    hattended.willing, hattended.attached, hattended.inbox⟩
  have hcall : (c.link.call w.transport .openLink).1 = .ok () := hreply.outcome
  show ((ofOutcome (c.link.call w.transport .openLink).1 >>= _ : Session σ ι Unit)
    (c.use w.transport .openLink (.opened c.link.uri)).2) = _
  rw [hcall]
  exact bind_of_ok hawaited

theorem handshake_obliged (h : Attended willing [] c) (hphase : c.phase = .awaitConnection)
    (hops : Nat) :
    ∃ d, handshake w hops c = .ok () d ∧ d.phase = .awaitAuthentication ∧ Undisturbed c d ∧
      Attended willing [] d := by
  obtain ⟨d, hchallenged, hd, hfirst, hattended⟩ :=
    openAndAwaitChallenge_obliged hserver hpatience h hphase
  have hallowed : d.phase.next .client (challengeResponse d.uri) = .challengingWait := by
    rw [hd]
    rfl
  obtain ⟨messages, hheaders, hanswered, hsent⟩ := send_obliged hattended
    (by rw [hallowed]; exact nofun)
    (hserver.accepts (m := challengeResponse d.uri) d.link.uri hattended.willing rfl)
  have hnext (m : Message) (hm : m.header = ⟨.connection, .challengeResponse, true⟩) :
      (d.delivered w.transport (challengeResponse d.uri)).phase.next .server m =
        .awaitAuthentication := by
    rw [delivered_phase, hallowed, Phase.next, hm]
    rfl
  obtain ⟨reply, e, hawaited, -, hsecond, hdone⟩ := awaitReply_obliged hpatience hanswered
    hheaders (.inr ⟨rfl, nofun⟩) hnext nofun nofun
  have hentered : e.enter .awaitAuthentication = { e with phase := .awaitAuthentication } :=
    enter_eq e Phase.noConfusion
  rw [hentered] at hawaited
  have hhop : hop w c = .ok reply { e with phase := .awaitAuthentication } := by
    unfold hop
    rw [bind_of_ok hchallenged, get_bind_apply, bind_of_ok hsent]
    exact hawaited
  exact ⟨{ e with phase := .awaitAuthentication }, handshake_of_hop hhop, rfl,
    hfirst.trans ⟨hsecond.outbox, hsecond.events, hsecond.presence⟩,
    hdone.willing, hdone.attached, hdone.inbox⟩

/-- Connecting succeeds. -/
theorem connect_obliged (h : Attended willing [] c) (hphase : c.phase = .awaitConnection) :
    ∃ d, connect w c = .ok () d ∧ d.phase = .awaitAuthentication ∧ Undisturbed c d ∧
      Attended willing [] d := by
  obtain ⟨d, hshaken, hd, hundisturbed, hattended⟩ :=
    handshake_obliged hserver hpatience h hphase (c.config.maxRedirections.toNat - 1)
  refine ⟨d, ?_, hd, hundisturbed, hattended⟩
  have hstarted : (startSession : Session σ ι Unit) c = .ok () c := by
    rw [startSession_eq, hphase]
  rw [connect_eq hstarted, hshaken]

omit hpatience in
/-- What stands in the outbox of a connected client is taken. -/
theorem flushAll_obliged {ms : List Message} (h : Attended willing [] c)
    (hphase : c.phase = .connected) (hms : ∀ m ∈ ms, m.isTraffic) :
    ∃ d, flushAll w.transport ms c = .ok () d ∧ d.phase = .connected := by
  induction ms generalizing c with
  | nil => exact ⟨c, rfl, hphase⟩
  | cons m rest ih =>
    obtain ⟨hm, hrest⟩ := List.forall_mem_cons.mp hms
    have hreply := hserver.takes c.link.uri h.willing hm
    obtain ⟨messages, hheaders, hattended⟩ := h.use hreply (.sent m)
    obtain rfl := List.map_eq_nil_iff.mp hheaders
    have hnext : c.phase.next .client m = .connected := by rw [hphase, Phase.next_connected]
    have hcall : (c.link.call w.transport (.send m.encode)).1 = .ok () := hreply.outcome
    rw [flushAll_cons, if_neg (by rw [hnext]; exact nofun), hcall]
    exact ih ⟨hattended.willing, hattended.attached, hattended.inbox⟩ hnext hrest

/-- Logging in succeeds, and sends what stands in the outbox and what the server has to be
told. -/
theorem login_obliged (h : Attended willing [] c) (hphase : c.phase = .awaitAuthentication)
    (htraffic : ∀ m ∈ c.outbox ++ c.events.sendQueue, m.isTraffic) (auth : String) :
    ∃ data d, login w auth c = .ok data d ∧ d.phase = .connected ∧ d.outbox = [] ∧
      d.events = { c.events with sendQueue := [] } ∧ d.presence = c.presence := by
  have hallowed : c.phase.next .client (loginMessage auth) = .authenticating := by
    rw [hphase]
    rfl
  obtain ⟨messages, hheaders, hanswered, hsent⟩ := send_obliged h (by rw [hallowed]; exact nofun)
    (hserver.admits (m := loginMessage auth) c.link.uri h.willing rfl)
  have hnext (m : Message) (hm : m.header = ⟨.auth, .request, true⟩) :
      (c.delivered w.transport (loginMessage auth)).phase.next .server m = .connected := by
    rw [delivered_phase, hallowed, Phase.next, hm]
    rfl
  obtain ⟨reply, e, hawaited, hwaiting, hundisturbed, hadmitted⟩ := awaitReply_obliged hpatience
    hanswered hheaders (.inl rfl) hnext nofun nofun
  have hout : e.phase ≠ .connected := by
    rw [hwaiting, delivered_phase, hallowed]
    exact nofun
  rw [enter_connected e hout] at hawaited
  -- What is to be sent now is traffic: it was, or it is replayed.
  have hreplayed (m : Message)
      (hm : m ∈ ({ e with phase := .connected } : Client σ ι).replay.outbox) : m.isTraffic := by
    obtain hold | hnew := List.mem_append.mp hm
    · exact htraffic m (List.mem_append_left _ (hundisturbed.outbox ▸ hold))
    · obtain hannounced | hqueued := mem_replayMessages hnew
      · exact hannounced.isTraffic
      · exact htraffic m (List.mem_append_right _ (hundisturbed.events ▸ hqueued))
  obtain ⟨d, hflushed, hd⟩ := flushAll_obliged hserver
    (c := ({ e with phase := .connected } : Client σ ι).replay)
    ⟨hadmitted.willing, hadmitted.attached, hadmitted.inbox⟩ rfl hreplayed
  have hemptied := flushAll_ok rfl hflushed
  refine ⟨reply.arguments.head?, d, ?_, hd, hemptied.outbox, ?_, ?_⟩
  · have hauthenticated : authenticate w auth c = .ok reply.arguments.head? d := by
      rw [authenticate_eq, bind_of_ok hsent, bind_of_ok hawaited, get_bind_apply]
      show (flush w.transport >>= _ : Session σ ι (Option Bytes)) _ = _
      exact bind_of_ok hflushed
    rw [login, get_bind_apply]
    simp only [hphase, ne_eq, not_true_eq_false, if_false]
    exact bind_of_ok (attempt_of_ok hauthenticated)
  · rw [hemptied.events]
    show { e.events with sendQueue := [] } = _
    rw [hundisturbed.events]
    rfl
  · rw [hemptied.presence]
    exact hundisturbed.presence

end Requests

end Session

/-! ## Starting over -/

/-- The first byte of a message tells its topic. -/
theorem Message.head?_encode (m : Message) :
    m.encode.head? = (Utf8.encode m.header.topic.code).head? := by
  have hlisted : ∀ s ∈ Header.signatures, s.fields.head? = some s.header.topic.code := by decide
  have hfirst : ∃ rest, m.header.fields = m.header.topic.code :: rest := by
    unfold Header.fields
    split
    · next s hs =>
      have hheader : s.header = m.header := by simpa using List.find?_some hs
      rw [← hheader]
      exact List.head?_eq_some_iff.mp (hlisted s (List.mem_of_find?_eq_some hs))
    · exact ⟨_, rfl⟩
  obtain ⟨rest, hfields⟩ := hfirst
  unfold Message.encode Message.fields
  rw [hfields, List.map_cons, List.cons_append]
  cases rest.map Utf8.encode ++ m.arguments <;> cases m.header.topic <;> rfl

namespace Client

variable {w : Surroundings σ ι} {willing : σ → Prop} {c : Client σ ι}

/-- What is to be said in the end is about events and presence. -/
theorem Reached.traffic {start : Nat} (h : Reached w start c) :
    ∀ m ∈ c.outbox ++ c.events.sendQueue, m.isTraffic :=
  h.grounded.elim fun _ hgrounded => hgrounded.traffic

/-- Whatever the transport has done and whatever requests a client has carried out, if the
transport has its channel still and the server cooperates from now on, then the client can
close its connection, connect again and log in. It is connected then, and neither its outbox
nor its emits wait for anything. Who is to be told of what has not changed. -/
theorem recovers {start : Nat} (h : Reached w start c) (hpatience : 0 < w.patience)
    (hattached : c.link.channel.isOpen = true) (hserver : Cooperative w.transport willing)
    (hwilling : willing c.link.state) (auth : String) :
    (execute w .close).returns c = true ∧
      ∃ connected data d,
        execute w .connect ((execute w .close).after c) = .ok .nothing connected ∧
        execute w (.login auth) connected = .ok (.userData data) d ∧
        d.phase = .connected ∧ d.outbox = [] ∧
        d.events = { c.events with sendQueue := [] } ∧ d.presence = c.presence := by
  have hclosed : (execute w .close).after c = c.shut w.transport :=
    (Session.after_answer ..).trans Session.close_after
  obtain ⟨hstays, hattends⟩ := hserver.closes c.link.uri hwilling
  have hgone : (c.shut w.transport).phase = .disconnected := enter_phase _ _
  have hfresh : Attended willing [] (c.shut w.transport).restart := by
    rw [restart_eq, shut_eq]
    exact ⟨hstays, (Channel.putAll_attached hattends hattached).1, rfl⟩
  obtain ⟨connected, hconnected, hphase, hundisturbed, hattended⟩ :=
    Session.connect_obliged hserver hpatience hfresh (restart_phase _)
  have hkept : Undisturbed c connected := by
    rw [restart_eq, shut_eq] at hundisturbed
    exact ⟨hundisturbed.outbox, hundisturbed.events, hundisturbed.presence⟩
  have htraffic : ∀ m ∈ connected.outbox ++ connected.events.sendQueue, m.isTraffic := by
    rw [hkept.outbox, hkept.events]
    exact h.traffic
  obtain ⟨data, d, hlogin, hin, hempty, hevents, hpresence⟩ :=
    Session.login_obliged hserver hpatience hattended hphase htraffic auth
  refine ⟨?_, connected, data, d, ?_, ?_, hin, hempty, ?_, hpresence.trans hkept.presence⟩
  · -- Closing returns, whether the transport manages to or not.
    show Session.returns
      (Session.ofOutcome (c.link.call w.transport .closeLink).1 >>= fun _ => pure Answer.nothing)
      (((c.use w.transport .closeLink .closed).2.enter .disconnected).discardIncoming) = true
    cases (c.link.call w.transport .closeLink).1 <;> rfl
  · rw [hclosed]
    exact Session.bind_of_ok ((Session.connect_of_disconnected hgone).trans hconnected)
  · exact Session.bind_of_ok hlogin
  · rw [hevents, hkept.events]

/-! ### A client that was refused -/

/-- Takes a call and answers with a message. -/
def answering (mood : Bool) (m : Message) : Reply Bool :=
  { state := mood, signals := [.event (.frame m.encode)] }

/-- A server that lets every client in. Its mood decides whether it takes what they say then,
and changes with each stimulus, with some noise. It never closes without noise either. -/
def moody : Transport Bool Unit where
  call _ call mood :=
    match call with
    | .openLink => answering mood (.plain .connection .challenge)
    | .closeLink =>
      { state := mood, outcome := .error (.transport "noise")
        signals := [.event .closed, .event (.frame [0x3F])] }
    | .shutdown => { state := mood }
    | .send frame =>
      match frame.head? with
      | some 0x43 => answering mood (.ack .connection .challengeResponse)
      | some 0x41 => answering mood (.ack .auth .request)
      | _ => { state := mood, outcome := if mood then .ok () else .error (.send "refused") }
  stimulate _ mood :=
    { state := !mood, signals := [.event (.frame [0x3F]), .event (.failed "noise")] }

theorem answering_obliging {m : Message} (hm : m.WellFormed) :
    Obliging (· = true) [m.header] (answering true m) := by
  refine ⟨rfl, rfl, nofun, [m], ?_, rfl⟩
  have hread := hm.read_encode
  show (Event.frame m.encode).items ++ [] = [.message m]
  rw [Event.items_frame (congrArg Frame.Reading.faults hread), hread]
  rfl

/-- In its good mood the server cooperates. -/
theorem moody_cooperative : Cooperative moody (· = true) := by
  -- The first byte of a frame decides what the server answers.
  have hsend (uri : Option String) (m : Message) : moody.call uri (.send m.encode) true =
      match m.header.topic with
      | .connection => answering true (.ack .connection .challengeResponse)
      | .auth => answering true (.ack .auth .request)
      | _ => { state := true } := by
    have hfirst := m.head?_encode
    simp only [moody, hfirst]
    cases m.header.topic <;> rfl
  refine ⟨?_, ?_, ?_, ?_, ?_⟩
  · rintro s uri rfl
    exact ⟨rfl, nofun⟩
  · rintro s uri rfl
    exact answering_obliging (m := .plain .connection .challenge) (by decide)
  · rintro s uri m rfl hm
    rw [hsend, hm]
    exact answering_obliging (m := .ack .connection .challengeResponse) (by decide)
  · rintro s uri m rfl hm
    rw [hsend, hm]
    exact answering_obliging (m := .ack .auth .request) (by decide)
  · rintro s uri m rfl hm
    have hquiet : moody.call uri (.send m.encode) true = { state := true } := by
      rw [hsend]
      unfold Message.isTraffic at hm
      cases htopic : m.header.topic <;> rw [htopic] at hm <;> first | rfl | cases hm
    rw [hquiet]
    exact ⟨rfl, rfl, nofun, [], rfl, rfl⟩

def moodySurroundings : Surroundings Bool Unit where
  transport := moody
  checkUri _ := .ok ()
  patience := 5

/-- A new client of that server. -/
def visitor : Client Bool Unit where
  config := .standard
  uri := "ws://moody"
  link := { uri := some "ws://moody", channel := { isOpen := true }, state := false }

/-- What a client does that is connected, but then not listened to. -/
def rebuff : List (Request Unit) :=
  [.connect, .login "auth", .command (.subscribe "news" "reader" fun _ _ => []),
    .command (.emit "news" (Utf8.encode "first")), .process, .command (.stimulate ())]

/-- A client that has something left to say and noise to receive starts over. -/
theorem recovers_rebuffed :
    let c := rebuff.foldl (fun c request => (execute moodySurroundings request).after c) visitor
    c.phase = .connected ∧ c.outbox.length = 1 ∧ c.link.channel.queue.length = 2 ∧
      (execute moodySurroundings .close).returns c = true ∧
      ∃ connected data d,
        execute moodySurroundings .connect ((execute moodySurroundings .close).after c) =
          .ok .nothing connected ∧
        execute moodySurroundings (.login "again") connected = .ok (.userData data) d ∧
        d.phase = .connected ∧ d.outbox = [] ∧
        d.events = { c.events with sendQueue := [] } ∧ d.presence = c.presence := by
  intro c
  have hmade : create moodySurroundings "ws://moody" .standard false = .ok visitor := rfl
  have hreturn : allReturn moodySurroundings visitor rebuff := by decide +kernel
  obtain ⟨start, hreached⟩ := (Reached.created hmade).of_allReturn hreturn
  refine ⟨by decide +kernel, by decide +kernel, by decide +kernel, ?_⟩
  exact recovers hreached (by decide) (by decide +kernel) moody_cooperative (by decide +kernel)
    "again"

end Client

end Realtime
