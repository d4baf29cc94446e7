import Realtime.Proofs.Client.Refinement

/-!
# Nothing is said before its time

A connection comes about in steps: the transport is opened, the server challenges
the client, the client answers with its address, and is let in after it has shown
its credentials. Only then may it speak of events and presence. This module shows
that the phase of a client vouches for these steps. As long as a connection is
under way, the transport is open, one challenge was answered since it was opened,
with the address the client has now, and whoever is logging in or connected has
applied since.

Results:
1. `Grounded.move`: every move keeps what the phase vouches for.
2. `speaks_after_handshake`: it holds wherever requests leave a client and
   whenever a message is handed to the transport.
-/

namespace Realtime

variable {σ ι : Type}

/-! ## What a phase vouches for -/

/-- The challenge of the server was answered, and the connection has not ended. -/
def Phase.isUnderWay : Phase → Bool
  | .challengingWait => true
  | .awaitAuthentication => true
  | .authenticating => true
  | .connected => true
  | _ => false

/-- The client has asked to be let in. -/
def Phase.hasApplied : Phase → Bool
  | .authenticating => true
  | .connected => true
  | _ => false

/-- A message of a program, or one that the client sends on behalf of a program. -/
def Message.isTraffic (m : Message) : Bool :=
  m.header.topic = .event || m.header.topic = .presence

namespace Client

/-- The header of credentials. -/
def requestHeader : Header :=
  ⟨.auth, .request, false⟩

/-- The address of a client that began with `origin`, according to its journal. -/
def addressIn (origin : String) (journal : List (Entry ι)) : String :=
  journal.foldl (fun uri entry =>
    match entry.what with
    | .targeted target => target
    | _ => uri) origin

/-- The transport is open, and since it was opened it has taken one answer to a
challenge, which names the address `uri`. If the phase is that of a client which has
applied, it has taken credentials after that answer. -/
def HandshakeBehind (phase : Phase) (uri : String) (journal : List (Entry ι)) : Prop :=
  ∃ early late, saidSinceOpened journal =
      some (early ++ Session.challengeResponse uri :: late) ∧
    (∀ m ∈ early ++ late, m.header ≠ responseHeader) ∧
    (phase.hasApplied → ∃ m ∈ late, m.header = requestHeader)

/-- What an entry of a journal says of the time at which it was written: who hands over
traffic is connected, and whatever is done while a connection is under way, the handshake
is behind it. -/
def Timely (origin : String) (before : List (Entry ι)) (entry : Entry ι) : Prop :=
  (∀ m outcome, entry.what = .sent m outcome → m.isTraffic → entry.phase = .connected) ∧
    (entry.phase.isUnderWay → HandshakeBehind entry.phase (addressIn origin before) before)

/-- Every entry of a journal is timely. -/
def AllTimely (origin : String) (journal : List (Entry ι)) : Prop :=
  ∀ front entry back, journal = front ++ entry :: back → Timely origin front entry

/-- What is known of a client that began with the address `origin`. -/
structure Grounded (origin : String) (c : Client σ ι) : Prop where
  address : c.uri = addressIn origin c.journal
  traffic : ∀ m ∈ c.outbox ++ c.events.sendQueue, m.isTraffic
  behind : c.phase.isUnderWay → HandshakeBehind c.phase c.uri c.journal
  timely : AllTimely origin c.journal

end Client

/-! ## The protocol -/

namespace Phase

/-- The protocol allows traffic only while the client is connected. -/
theorem eq_connected_of_traffic {p : Phase} {sender : Party} {m : Message} (hm : m.isTraffic)
    (hnext : p.next sender m ≠ .error) : p = .connected := by
  have hallows := allows_of_next rfl hnext
  unfold Message.isTraffic at hm
  generalize m.header = header at hm hallows
  generalize p.next sender m = q at hallows
  cases hallows with
  | exchanged => rfl
  | _ => cases hm

/-- No message of the server brings a connection under way, and none puts credentials in
a client's mouth. -/
theorem underWay_of_next_server {p : Phase} {m : Message} :
    ((p.next .server m).isUnderWay → p.isUnderWay) ∧
      ((p.next .server m).hasApplied → p.hasApplied) := by
  by_cases hnext : p.next .server m = .error
  · rw [hnext]
    exact ⟨nofun, nofun⟩
  · have hallows := allows_of_next rfl hnext
    generalize m.header = header at hallows
    generalize p.next .server m = q at hallows
    cases hallows with
    | pinged | exchanged => exact ⟨id, id⟩
    | _ => decide

/-- The answer to a heartbeat leaves the phase as it is, where it is allowed. -/
theorem next_pong {p : Phase} (h : p.next .client (.plain .connection .pong) ≠ .error) :
    p.next .client (.plain .connection .pong) = p := by
  revert h
  cases p <;> decide

end Phase

/-- What a client announces is traffic. -/
theorem Announcement.isTraffic {m : Message} (h : Announcement m) : m.isTraffic := by
  cases h <;> rfl

namespace Client

variable {w : Surroundings σ ι} {origin : String} {c d : Client σ ι}

/-! ## Entries of a journal -/

theorem addressIn_concat (journal : List (Entry ι)) (entry : Entry ι) :
    addressIn origin (journal ++ [entry]) =
      match entry.what with
      | .targeted target => target
      | _ => addressIn origin journal :=
  List.foldl_append

/-- What is said of each entry and those before it is said of the last one, too. -/
theorem forall_entry_concat {P : List (Entry ι) → Entry ι → Prop} {journal : List (Entry ι)}
    {entry : Entry ι} :
    (∀ front other back, journal ++ [entry] = front ++ other :: back → P front other) ↔
      (∀ front other back, journal = front ++ other :: back → P front other) ∧
        P journal entry := by
  constructor
  · intro h
    refine ⟨fun front other back hsplit => ?_, h journal entry [] rfl⟩
    refine h front other (back ++ [entry]) ?_
    rw [hsplit, List.append_assoc, List.cons_append]
  · rintro ⟨hall, hlast⟩ front other back hsplit
    obtain rfl | ⟨back', last, rfl⟩ := List.eq_nil_or_concat back
    · obtain ⟨rfl, hentry⟩ := List.append_inj' hsplit rfl
      cases hentry
      exact hlast
    · have hfront : journal ++ [entry] = (front ++ other :: back') ++ [last] := by
        simpa using hsplit
      obtain ⟨hjournal, -⟩ := List.append_inj' hfront rfl
      exact hall front other back' hjournal

theorem allTimely_concat {journal : List (Entry ι)} {entry : Entry ι} :
    AllTimely origin (journal ++ [entry]) ↔
      AllTimely origin journal ∧ Timely origin journal entry :=
  forall_entry_concat

/-- An entry that tells of no call of the transport and of no other address. -/
inductive Aside : Occurrence ι → Prop
  | restarted : Aside .restarted
  | flushed (m : Message) : Aside (.flushed m)
  | handled (m : Message) : Aside (.handled m)
  | reported (e : Error) : Aside (.reported e)
  | own {what : Occurrence ι} : OwnDoing what → Aside what

theorem Aside.sayMore {what : Occurrence ι} (h : Aside what) (said : Option (List Message)) :
    sayMore said what = said := by
  cases h with
  | own hown => exact sayMore_of_ownDoing hown said
  | _ => rfl

theorem Aside.addressIn {what : Occurrence ι} (h : Aside what) {journal : List (Entry ι)}
    {phase : Phase} {idle : Bool} :
    addressIn origin (journal ++ [⟨phase, idle, what⟩]) = addressIn origin journal := by
  rw [addressIn_concat]
  cases h with
  | own hown => cases hown <;> rfl
  | _ => rfl

theorem Aside.ne_sent {what : Occurrence ι} (h : Aside what) (m : Message)
    (outcome : Except Error Unit) : what ≠ .sent m outcome := by
  cases h with
  | own hown => cases hown <;> exact nofun
  | _ => exact nofun

/-! ## Moves -/

/-- The transport has taken one more message, which answers no challenge. -/
theorem HandshakeBehind.say {p q phase : Phase} {uri : String} {journal : List (Entry ι)}
    {idle : Bool} {m : Message} (h : HandshakeBehind p uri journal)
    (hm : m.header ≠ responseHeader)
    (hq : q.hasApplied → p.hasApplied ∨ m.header = requestHeader) :
    HandshakeBehind q uri (journal ++ [⟨phase, idle, .sent m (.ok ())⟩]) := by
  obtain ⟨early, late, hsaid, hone, happlied⟩ := h
  refine ⟨early, late ++ [m], ?_, ?_, fun hphase => ?_⟩
  · rw [saidSinceOpened_concat, hsaid]
    show some (early ++ Session.challengeResponse uri :: late ++ [m]) = _
    rw [List.append_assoc, List.cons_append]
  · intro other hother
    rw [← List.append_assoc] at hother
    obtain hold | hnew := List.mem_append.mp hother
    · exact hone other hold
    · rw [List.mem_singleton.mp hnew]
      exact hm
  · obtain hbefore | hnow := hq hphase
    · obtain ⟨credentials, hmem, hheader⟩ := happlied hbefore
      exact ⟨credentials, List.mem_append_left _ hmem, hheader⟩
    · exact ⟨m, List.mem_append_right _ (List.mem_singleton_self m), hnow⟩

namespace Grounded

/-- Whatever a grounded client writes down is timely, unless it hands over traffic. -/
theorem noted (h : Grounded origin c) {what : Occurrence ι}
    (hwhat : ∀ m outcome, what = .sent m outcome → m.isTraffic → c.phase = .connected) :
    AllTimely origin (c.note what).journal := by
  refine allTimely_concat.mpr ⟨h.timely, hwhat, fun hphase => ?_⟩
  rw [← h.address]
  exact h.behind hphase

/-- A move that makes no call of the transport. -/
theorem aside (h : Grounded origin c)
    (hjournal : d.journal = c.journal ∨ ∃ what, Aside what ∧ d.journal = (c.note what).journal)
    (huri : d.uri = c.uri) (htraffic : ∀ m ∈ d.outbox ++ d.events.sendQueue, m.isTraffic)
    (hway : (d.phase.isUnderWay → c.phase.isUnderWay) ∧
      (d.phase.hasApplied → c.phase.hasApplied)) : Grounded origin d := by
  have hsaid : saidSinceOpened d.journal = saidSinceOpened c.journal := by
    obtain hsame | ⟨what, hwhat, hnoted⟩ := hjournal
    · rw [hsame]
    · rw [hnoted, note_journal, saidSinceOpened_concat, hwhat.sayMore]
  have haddress : addressIn origin d.journal = addressIn origin c.journal := by
    obtain hsame | ⟨what, hwhat, hnoted⟩ := hjournal
    · rw [hsame]
    · rw [hnoted, note_journal, hwhat.addressIn]
  refine ⟨by rw [huri, haddress, h.address], htraffic, fun hd => ?_, ?_⟩
  · obtain ⟨early, late, hearly, hone, happlied⟩ := h.behind (hway.1 hd)
    refine ⟨early, late, ?_, hone, fun hphase => happlied (hway.2 hphase)⟩
    rw [hsaid, hearly, huri]
  · obtain hsame | ⟨what, hwhat, hnoted⟩ := hjournal
    · rw [hsame]
      exact h.timely
    · rw [hnoted]
      exact h.noted fun m outcome hsent => absurd hsent (hwhat.ne_sent m outcome)

/-- A move that hands nothing over and leaves no connection under way. -/
theorem outside {what : Occurrence ι} (h : Grounded origin c)
    (hjournal : d.journal = (c.note what).journal) (hwhat : ∀ m outcome, what ≠ .sent m outcome)
    (huri : d.uri = addressIn origin d.journal) (houtbox : d.outbox = c.outbox)
    (hevents : d.events = c.events) (hout : d.phase.isUnderWay = false) :
    Grounded origin d := by
  refine ⟨huri, ?_, fun hd => ?_, ?_⟩
  · rw [houtbox, hevents]
    exact h.traffic
  · rw [hout] at hd
    cases hd
  · rw [hjournal]
    exact h.noted fun m outcome hsent => absurd hsent (hwhat m outcome)

/-- The transport is closed, and no connection is under way after that. -/
theorem closing (h : Grounded origin c) (hout : d.phase.isUnderWay = false)
    (hclosed : d = { c.closeLink w.transport with phase := d.phase }) : Grounded origin d := by
  rw [hclosed]
  refine h.outside (closeLink_journal ..) (fun _ _ => nofun) ?_ rfl rfl hout
  show c.uri = addressIn origin (c.closeLink w.transport).journal
  rw [closeLink_journal, addressIn_concat]
  exact h.address

/-- A message is handed over. If the transport takes it, the phase it leads to has to be
vouched for. -/
theorem sending {m : Message} (h : Grounded origin c) (hsent : Sending w.transport c m d)
    (hm : m.isTraffic → c.phase = .connected)
    (hbehind : (c.phase.next .client m).isUnderWay → HandshakeBehind (c.phase.next .client m)
      c.uri (c.delivered w.transport m).journal) : Grounded origin d := by
  have htimely {outcome : Except Error Unit} :
      AllTimely origin (c.note (.sent m outcome)).journal :=
    h.noted fun _ _ hsame => by
      cases hsame
      exact hm
  cases hsent with
  | taken _ _ =>
    refine ⟨?_, h.traffic, hbehind, htimely⟩
    rw [delivered_uri, delivered_journal, addressIn_concat]
    exact h.address
  | refused _ _ =>
    refine ⟨?_, h.traffic, fun hd => ?_, htimely⟩
    · rw [undelivered_uri, undelivered_journal, addressIn_concat]
      exact h.address
    · obtain ⟨early, late, hsaid, hone, happlied⟩ := h.behind hd
      refine ⟨early, late, ?_, hone, happlied⟩
      rw [undelivered_journal, saidSinceOpened_concat]
      exact hsaid

end Grounded

theorem Act.grounded (hact : Act w c d) (h : Grounded origin c) : Grounded origin d := by
  have hway : (d.phase.isUnderWay → c.phase.isUnderWay) ∧
      (d.phase.hasApplied → c.phase.hasApplied) := by
    rw [hact.phase]
    exact ⟨id, id⟩
  refine h.aside ?_ hact.uri (fun m hm => ?_) hway
  · exact hact.journal.imp_right fun ⟨what, hwhat, hjournal⟩ => ⟨what, .own hwhat, hjournal⟩
  · obtain hold | hnew | ⟨name, data, text, -, rfl⟩ := hact.waiting hm
    · exact h.traffic m hold
    · exact hnew.isTraffic
    · rfl

theorem Reception.grounded (hmove : Reception w c d) (h : Grounded origin c) :
    Grounded origin d := by
  cases hmove with
  | acted hact => exact hact.grounded h
  | received _ | parsed _ | taken _ => exact h.aside (.inl rfl) rfl h.traffic ⟨id, id⟩
  | @handled m _ _ =>
    exact h.aside (.inr ⟨_, .handled m, rfl⟩) rfl h.traffic Phase.underWay_of_next_server
  | @admitted m hin _ =>
    have hway := Phase.underWay_of_next_server (p := c.phase) (m := m)
    rw [hin] at hway
    refine h.aside (.inr ⟨_, .handled m, rfl⟩) rfl (fun other hother => ?_) hway
    -- What is replayed is announced or was emitted, and the send queue is empty now.
    obtain hold | hreplayed := List.mem_append.mp (List.append_nil _ ▸ hother)
    · exact h.traffic other (List.mem_append_left _ hold)
    · obtain hnew | hqueued := mem_replayMessages hreplayed
      · exact hnew.isTraffic
      · exact h.traffic other (List.mem_append_right _ hqueued)
  | ponged hsent =>
    refine h.sending hsent nofun fun hway => ?_
    have hsame := Phase.next_pong (p := c.phase) (by
      intro herror
      rw [herror] at hway
      cases hway)
    rw [hsame] at hway ⊢
    exact (h.behind hway).say (by decide) .inl
  | lost _ =>
    exact h.aside (.inl rfl) rfl h.traffic ⟨nofun, nofun⟩
  | closed hgone => exact h.closing (by rw [closeLink_phase, hgone]; rfl) rfl
  | shut => exact h.closing (w := w) rfl rfl
  | reported e => exact h.aside (.inr ⟨_, .reported e, rfl⟩) rfl h.traffic ⟨id, id⟩

theorem Negotiation.grounded (hmove : Negotiation w c d) (h : Grounded origin c) :
    Grounded origin d := by
  cases hmove with
  | heard hheard => exact hheard.grounded h
  | opened hphase =>
    refine h.outside (use_journal ..) (fun _ _ => nofun) ?_ rfl rfl ?_
    · rw [use_journal, addressIn_concat]
      exact h.address
    · rw [use_phase, hphase]
      rfl
  | @redirected target hphase _ =>
    have hout : (c.closeLink w.transport).phase.isUnderWay = false := by
      rw [closeLink_phase, hphase]
      rfl
    refine (h.closing hout rfl).outside (retarget_journal ..)
      (fun _ _ => nofun) ?_ rfl rfl hout
    rw [retarget_journal, addressIn_concat]
    rfl
  | responded hphase hopen hsent =>
    refine h.sending hsent nofun fun _ => ?_
    obtain ⟨early, hsaid, hnone⟩ := hopen
    refine ⟨early, [], ?_, ?_, ?_⟩
    · rw [delivered_journal, saidSinceOpened_concat, hsaid]
      rfl
    · rw [List.append_nil]
      exact hnone
    · rw [hphase]
      exact nofun
  | applied hphase hsent =>
    refine h.sending hsent nofun fun _ => ?_
    have hway : c.phase.isUnderWay := by
      rw [hphase]
      rfl
    exact (h.behind hway).say nofun fun _ => .inr rfl

theorem Move.grounded (hmove : Move w c d) (h : Grounded origin c) : Grounded origin d := by
  have hdrawn {m : Message} {rest : List Message} (houtbox : c.outbox = m :: rest) :
      Grounded origin (c.drawn m rest) :=
    h.aside (.inr ⟨_, .flushed m, rfl⟩) rfl
      (fun other hother => h.traffic other (by simp_all)) ⟨id, id⟩
  cases hmove with
  | negotiated hnegotiated => exact hnegotiated.grounded h
  | @flushed m rest d houtbox hsent =>
    have hm : m.isTraffic := h.traffic m (by simp [houtbox])
    have hphase : c.phase = .connected := Phase.eq_connected_of_traffic hm hsent.next_ne_error
    refine (hdrawn houtbox).sending hsent (fun _ => hphase) fun _ => ?_
    have hway : c.phase.isUnderWay := by
      rw [hphase]
      rfl
    refine ((hdrawn houtbox).behind hway).say ?_ fun _ => .inl ?_
    · intro hheader
      unfold Message.isTraffic at hm
      rw [hheader] at hm
      cases hm
    · rw [drawn_phase, hphase]
      rfl
  | dropped houtbox _ => exact hdrawn houtbox

theorem Grounded.restart (h : Grounded origin c) : Grounded origin c.restart := by
  have hdropped : Grounded origin c.discardIncoming := h.aside (.inl rfl) rfl h.traffic ⟨id, id⟩
  refine hdropped.outside (restart_journal c) (fun _ _ => nofun) ?_ ?_ ?_ ?_
  · rw [restart_journal, addressIn_concat, restart_eq]
    exact h.address
  · rw [restart_eq]
    rfl
  · rw [restart_eq]
    rfl
  · rw [restart_phase]
    rfl

theorem grounded_create {uri : String} {config : Config} {state : σ}
    (h : create w uri config state = .ok c) : Grounded uri c := by
  obtain ⟨link, rfl⟩ := create_ok h
  exact
    { address := rfl
      traffic := fun _ hm => absurd hm List.not_mem_nil
      behind := nofun
      timely := fun front _ _ hsplit => absurd hsplit.symm (by simp) }

theorem Reached.grounded {start : Nat} (h : Reached w start c) : ∃ origin, Grounded origin c :=
  h.invariant (P := fun _ c => ∃ origin, Grounded origin c)
    (fun _ _ _ _ hmade => ⟨_, grounded_create hmade⟩) (fun _ _ ⟨origin, h⟩ => ⟨origin, h.restart⟩)
    fun _ _ _ ⟨origin, h⟩ hmove => ⟨origin, hmove.grounded h⟩

/-- Whatever the transport does, and whatever requests a client carries out. Wherever a
request leaves the client with a connection under way, the transport is open, and since
it was opened it has taken one answer to a challenge, which names the address of the
client; if the client is logging in or connected, it has taken credentials after that.
The same goes for everything the client does during a request while a connection is
under way, and only a connected client hands over messages about events and presence. -/
theorem speaks_after_handshake {uri : String} {config : Config} {state : σ}
    {made : Client σ ι} (hmade : create w uri config state = .ok made)
    {requests : List (Request ι)} (hc : c ∈ made.stations w requests) :
    c.uri = addressIn uri c.journal ∧
    (c.phase.isUnderWay → HandshakeBehind c.phase c.uri c.journal) ∧
    ∀ request : Request ι, AllTimely uri ((execute w request).after c).journal := by
  obtain ⟨hgrounded, hafter⟩ := stations_invariant (Q := Grounded uri)
    (fun _ => Grounded.restart) (fun _ _ h hmove => hmove.grounded h) (grounded_create hmade) hc
  exact ⟨hgrounded.address, hgrounded.behind, fun request => (hafter request).timely⟩

/-- The guest of a hospitable server has shown its credentials after the answer to the
only challenge, and whatever it is asked to do next keeps to that. -/
theorem speaks_after_handshake_welcome :
    let c := guestAfter [.connect, .login "auth"]
    c ∈ guest.stations hospitable [.connect, .login "auth"] ∧ c.phase = .connected ∧
      HandshakeBehind .connected "ws://server" c.journal ∧
      ∀ request, AllTimely "ws://server" ((execute hospitable request).after c).journal := by
  intro c
  have hmem : c ∈ guest.stations hospitable [.connect, .login "auth"] :=
    stations_cons (by decide +kernel) (stations_cons (by decide +kernel) List.mem_cons_self)
  obtain ⟨-, hbehind, htimely⟩ := speaks_after_handshake create_guest hmem
  have hphase : c.phase = .connected := by decide +kernel
  have huri : c.uri = "ws://server" := by decide +kernel
  rw [hphase, huri] at hbehind
  exact ⟨hmem, hphase, hbehind rfl, htimely⟩

end Client

end Realtime
