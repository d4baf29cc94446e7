import Realtime.Proofs.Client.Causes
import Realtime.Proofs.Client.Hearing

/-!
# What a login tells the server

A client that is let in puts what the server has to know in its outbox, and sends it
before the login returns. So a login that succeeds has said certain things in a certain
order, which depend on the registries of the client only. While the client waits for
the reply it answers heartbeats and does nothing else.

Results:
1. `awaitReply_admitted`: waiting to be let in.
2. `login_admitted`: what a login that succeeds has done.
3. `login_replays`: the same, as a transcript in which every name is in its place.
-/

namespace Realtime

variable {σ ι : Type} {w : Surroundings σ ι}

/-- What the client does about a heartbeat. -/
def Occurrence.answering (ping : Message) : List (Occurrence ι) :=
  [.handled ping, .sent (.plain .connection .pong) (.ok ())]

namespace Session

open Client

variable {c d : Client σ ι}

/-! ## Waiting -/

/-- Handling a message that the protocol allows, from the phase that it leads to. -/
theorem handle_ok {m : Message} (h : handle w m c = .ok () d) :
    c.phase.next .server m ≠ .error ∧
      (if c.phase.next .server m = .disconnected then modify (Client.closeLink w.transport)
        else dispatch w m : Session σ ι Unit)
        ((c.note (.handled m)).enter (c.phase.next .server m)) = .ok () d := by
  by_cases hnext : c.phase.next .server m = .error
  · rw [handle_of_error hnext] at h
    obtain ⟨_, _, _, h⟩ := bind_eq_ok h
    cases h
  · rw [handle_eq hnext] at h
    exact ⟨hnext, h⟩

theorem send_ok {m : Message} (h : send w.transport m c = .ok () d) :
    d = c.delivered w.transport m := by
  rw [send_eq] at h
  split at h
  · cases h
  · split at h <;> cases h
    rfl

/-- A client that waits to be let in and handles a message has answered a heartbeat, or is
let in, or is not let in for now. -/
theorem handle_authenticating {m : Message} (h : handle w m c = .ok () d)
    (hphase : c.phase = .authenticating) :
    (m.header = ⟨.connection, .ping, false⟩ ∧
      d = (c.note (.handled m)).delivered w.transport (.plain .connection .pong)) ∨
    (m.header = ⟨.auth, .request, true⟩ ∧
      d = replay { c.note (.handled m) with phase := .connected }) ∨
    (m.isPing = false ∧ d.phase ≠ .connected) := by
  obtain ⟨hnext, h⟩ := handle_ok h
  have hallows := Phase.allows_of_next rfl hnext
  obtain ⟨header, arguments⟩ := m
  generalize c.phase.next .server ⟨header, arguments⟩ = next at h hallows
  rw [hphase] at hallows
  cases hallows with
  | pinged =>
    have hentered : (c.note (.handled ⟨⟨.connection, .ping, false⟩, arguments⟩)).enter
        .authenticating = c.note (.handled ⟨⟨.connection, .ping, false⟩, arguments⟩) :=
      if_pos hphase
    rw [hentered] at h
    exact .inl ⟨rfl, send_ok h⟩
  | admitted =>
    have hout : c.phase ≠ .connected := by
      rw [hphase]
      exact nofun
    rw [enter_connected (c.note _) hout] at h
    cases h
    exact .inr (.inl ⟨rfl, rfl⟩)
  | refused | lockedOut | misunderstood =>
    cases h
    exact .inr (.inr ⟨rfl, by simp⟩)

theorem awaitReply_admitted {rounds : Nat} {reply : Message}
    (h : awaitReply w rounds c = .ok reply d) (hphase : c.phase = .authenticating)
    (hin : d.phase = .connected) :
    ∃ pings : List Message, (∀ ping ∈ pings, ping.header = ⟨.connection, .ping, false⟩) ∧
      reply.header = ⟨.auth, .request, true⟩ ∧
      d.history = c.history ++ pings.flatMap Occurrence.answering ++ [.handled reply] ∧
      d.outbox = c.outbox ++ c.replayMessages ∧
      d.events = { c.events with sendQueue := [] } ∧ d.presence = c.presence := by
  induction rounds generalizing c with
  | zero => cases h
  | succ rounds ih =>
    obtain ⟨found, e, hfound, h⟩ := bind_eq_ok h
    obtain ⟨pending, link, rfl⟩ := nextMessage_ok w.transport true hfound
    cases found with
    | none => cases h
    | some m =>
      obtain ⟨_, f, hhandled, h⟩ := bind_eq_ok h
      rcases handle_authenticating hhandled hphase with
        ⟨hping, rfl⟩ | ⟨hreply, rfl⟩ | ⟨hother, hout⟩
      · have hisPing : m.isPing := by simp [Message.isPing, hping]
        rw [if_pos hisPing] at h
        obtain ⟨pings, hpings, hreply, hhistory, houtbox, hevents, hpresence⟩ :=
          ih h (by rw [delivered_phase, note_phase, hphase]; rfl)
        refine ⟨m :: pings, List.forall_mem_cons.mpr ⟨hping, hpings⟩, hreply, ?_, houtbox, hevents,
          hpresence⟩
        rw [hhistory, delivered_history, note_history, List.flatMap_cons, Occurrence.answering]
        simp only [List.append_assoc, List.cons_append, List.nil_append]
        rfl
      · have hisPing : ¬ m.isPing := by simp [Message.isPing, hreply]
        rw [if_neg hisPing] at h
        cases h
        refine ⟨[], List.forall_mem_nil _, hreply, ?_, rfl, rfl, rfl⟩
        rw [List.flatMap_nil, List.append_nil]
        exact note_history ..
      · rw [hother] at h
        cases h
        exact absurd hin hout

/-! ## Logging in -/

theorem flushAll_connected {ms : List Message} (h : flushAll w.transport ms c = .ok () d)
    (hin : c.phase = .connected) : d.phase = .connected := by
  induction ms generalizing c with
  | nil =>
    cases h
    exact hin
  | cons m rest ih =>
    rw [flushAll_cons] at h
    split at h
    · cases h
    · split at h
      · refine ih h ?_
        rw [delivered_phase, drawn_phase, hin, Phase.next_connected]
      · cases h

/-- What a login that succeeds has done: it has asked, answered heartbeats, was let in, and
has sent what the client then had to say. -/
theorem login_admitted {auth : String} {data : Option Bytes} (houtbox : c.outbox = [])
    (h : login w auth c = .ok data d) :
    ∃ (pings : List Message) (reply : Message),
      (∀ ping ∈ pings, ping.header = ⟨.connection, .ping, false⟩) ∧
      reply.header = ⟨.auth, .request, true⟩ ∧ data = reply.arguments.head? ∧
      d.history = c.history ++ [.sent (loginMessage auth) (.ok ())] ++
        pings.flatMap Occurrence.answering ++ [.handled reply] ++
        c.replayMessages.flatMap flushing ∧
      d.outbox = [] ∧ d.events = { c.events with sendQueue := [] } ∧ d.presence = c.presence ∧
      d.phase = .connected := by
  obtain ⟨hphase, h⟩ := login_ok h
  obtain ⟨_, sent, hsent, h⟩ := bind_eq_ok h
  obtain ⟨reply, e, hreply, h⟩ := bind_eq_ok h
  change concludeLogin w reply e.phase e = .ok data d at h
  obtain ⟨hin, hflush⟩ := concludeLogin_ok h
  have hdata : data = reply.arguments.head? := by
    rw [hin] at h
    obtain ⟨_, _, _, hlast⟩ := bind_eq_ok h
    cases hlast
    rfl
  have hdelivered := send_ok hsent
  subst hdelivered
  have hwaiting : (c.delivered w.transport (loginMessage auth)).phase = .authenticating := by
    rw [delivered_phase, hphase]
    rfl
  obtain ⟨pings, hpings, hheader, hhistory, hwaits, hevents, hpresence⟩ :=
    awaitReply_admitted hreply hwaiting hin
  have hemptied := flush_ok hflush
  refine ⟨pings, reply, hpings, hheader, hdata, ?_, hemptied.outbox,
    hemptied.events.trans hevents, hemptied.presence.trans hpresence,
    flushAll_connected hflush hin⟩
  have hreplay : e.outbox = c.replayMessages := by
    rw [hwaits, delivered_outbox, houtbox, List.nil_append]
    rfl
  rw [hemptied.history, hhistory, hreplay, delivered_history]

end Session

/-! ## The transcript -/

namespace NameMap

/-- The bytes of the names are in ascending order. -/
theorem names_ascending_bytes {α : Type} (t : NameMap α) :
    (t.names.map Utf8.encode).Pairwise (· < ·) :=
  List.pairwise_map.mpr (t.names_ascending.imp Utf8.encode_lt_encode)

theorem mem_names_iff_contains {α : Type} {t : NameMap α} {name : String} :
    name ∈ t.names ↔ t.contains name :=
  mem_names_iff.trans Option.isSome_iff_exists.symm

end NameMap

namespace Client

open Session

variable {c d : Client σ ι}

/-- Whatever the transport does, and whatever the registries hold: a login that succeeds,
with nothing left to send from before, has said exactly this. First it asked to be let in,
then it answered the heartbeats before the reply. Then it told the server each name that is
subscribed to, once and in ascending order of the bytes, each pattern that is listened for
likewise, the events that were emitted meanwhile in their order, that someone follows
presence, and that someone waits for a list of users. After that nothing waits to be sent,
and the registries are as before. No message that is handled later, with the client
connected, says any of this again: what it brings to the outbox has a cause of its own, and
what is about neither events nor presence brings nothing. -/
theorem login_replays {start : Nat} {auth : String} {data : Option Bytes}
    (h : Reached w start c) (houtbox : c.outbox = []) (hlogin : login w auth c = .ok data d) :
    (∃ (pings : List Message) (reply : Message) (names patterns : List String),
      (∀ ping ∈ pings, ping.header = ⟨.connection, .ping, false⟩) ∧
      reply.header = ⟨.auth, .request, true⟩ ∧ data = reply.arguments.head? ∧
      (names.map Utf8.encode).Pairwise (· < ·) ∧
      (∀ name, name ∈ names ↔ c.events.subscriptions.contains name) ∧
      (patterns.map Utf8.encode).Pairwise (· < ·) ∧
      (∀ pattern, pattern ∈ patterns ↔ c.events.listeners.contains pattern) ∧
      accepted c.history = taken c.history ++ c.events.sendQueue ∧
      d.history = c.history ++ [.sent (loginMessage auth) (.ok ())] ++
        pings.flatMap Occurrence.answering ++ [.handled reply] ++
        (names.map (eventMessage .subscribe) ++ patterns.map (eventMessage .listen) ++
          c.events.sendQueue ++
          (if c.presence.subscriptions = [] then [] else [presenceMessage .subscribe]) ++
          (if c.presence.querents = [] then [] else [queryMessage])).flatMap flushing) ∧
    d.outbox = [] ∧ d.events = { c.events with sendQueue := [] } ∧ d.presence = c.presence ∧
    d.phase = .connected ∧
    ∀ (e : Client σ ι) (m : Message), e.phase = .connected →
      ((handle w m).returns e = true → Handled m e ((handle w m).after e)) ∧
      (m.header.topic ∉ [.connection, .event, .presence] →
        handle w m e = .ok () (e.note (.handled m))) := by
  obtain ⟨pings, reply, hpings, hreply, hdata, hhistory, hempty, hevents, hpresence, hin⟩ :=
    login_admitted houtbox hlogin
  have haccount := h.conserved.account
  rw [houtbox, List.filter_nil, List.append_nil] at haccount
  refine ⟨⟨pings, reply, c.events.subscriptions.names, c.events.listeners.names, hpings, hreply,
    hdata, c.events.subscriptions.names_ascending_bytes, fun _ => NameMap.mem_names_iff_contains,
    c.events.listeners.names_ascending_bytes, fun _ => NameMap.mem_names_iff_contains, haccount,
    hhistory⟩, hempty, hevents, hpresence, hin, fun e m he => ⟨handle_handled he, fun htopic => ?_⟩⟩
  have hignored : dispatch w m = pure () := by
    unfold dispatch
    split <;> simp_all
  rw [handle_connected he, hignored]
  rfl

/-- The guest subscribes to two events, listens for a pattern, emits an event, follows
presence and asks who is there, all before it connects. The server sends a heartbeat before
it lets the guest in. -/
def preparations : List (Request Script.Stimulus) :=
  [ .command (.subscribe "weather" "reader" fun _ _ => []),
    .command (.subscribe "news" "reader" fun _ _ => []),
    .command (.listen "news.*" "provider" (fun _ _ _ => true) fun _ _ _ => []),
    .command (.emit "early" (Utf8.encode "1")),
    .command (.followPresence "follower" fun _ _ _ => []),
    .command (.queryPresence "asker" fun _ => []),
    .connect,
    .command (.stimulate (.deliver [Script.frame "C|PI+"])) ]

theorem login_replays_preparations :
    let c := guestAfter preparations
    let d := (login hospitable "auth").after c
    (∃ start, Reached hospitable start c) ∧ c.outbox = [] ∧
      exchange (d.journal.drop c.journal.length) =
        [ (.client, loginMessage "auth"), (.server, .plain .connection .ping),
          (.client, .plain .connection .pong), (.server, .ack .auth .request),
          (.client, eventMessage .subscribe "news"), (.client, eventMessage .subscribe "weather"),
          (.client, eventMessage .listen "news.*"),
          (.client, emitMessage "early" (Utf8.encode "1")),
          (.client, presenceMessage .subscribe), (.client, queryMessage) ] ∧
      d.outbox = [] ∧ d.events = { c.events with sendQueue := [] } ∧
      handle hospitable (.ack .auth .request) d =
        .ok () (d.note (.handled (.ack .auth .request))) := by
  intro c d
  obtain ⟨start, hreached⟩ : ∃ start, Reached hospitable start c :=
    (Reached.created create_guest).of_allReturn (by decide +kernel)
  obtain ⟨data, hlogin⟩ : ∃ data, login hospitable "auth" c = .ok data d :=
    eq_ok_of_succeeds (by decide +kernel)
  have houtbox : c.outbox = [] := by decide +kernel
  obtain ⟨-, hempty, hevents, -, hin, hlater⟩ := login_replays hreached houtbox hlogin
  exact ⟨⟨start, hreached⟩, houtbox, by decide +kernel, hempty, hevents,
    (hlater d (.ack .auth .request) hin).2 (by decide)⟩

end Client

end Realtime
