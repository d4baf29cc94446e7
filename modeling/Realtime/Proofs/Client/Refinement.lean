import Realtime.Proofs.Client.Requests
import Realtime.Transport.Script

/-!
# The phase of a client is that of its exchange

The protocol is a table of phases. A client keeps a phase of its own, which it
writes in many places: when it sends, when it handles what the server says, and
whenever it gives a connection up. This module shows that the two agree. As long
as its connection lives, the phase of a client is the one that the protocol
gives for what it has sent and handled in its session.

Results:
1. `Move.advance`: what a move writes in the journal fits the phase it leads to.
2. `follows_protocol`: a client that requests have led to is disconnected or in
   the phase of its exchange, and is never in the phase `error`.
-/

namespace Realtime

variable {σ ι : Type}

/-! ## The exchange in a journal -/

/-- What one party said to the other: messages that the transport took, and
messages of the server that took effect. -/
def Occurrence.turn? : Occurrence ι → Option (Party × Message)
  | .sent m (.ok ()) => some (.client, m)
  | .handled m => some (.server, m)
  | _ => none

/-- What the parties said, according to a journal. -/
def exchange (journal : List (Entry ι)) : List (Party × Message) :=
  journal.filterMap fun entry => entry.what.turn?

theorem exchange_append (front back : List (Entry ι)) :
    exchange (front ++ back) = exchange front ++ exchange back :=
  List.filterMap_append

theorem exchange_singleton_of_none {entry : Entry ι} (h : entry.what.turn? = none) :
    exchange [entry] = [] :=
  List.filterMap_cons_none h

theorem exchange_singleton_of_some {entry : Entry ι} {turn : Party × Message}
    (h : entry.what.turn? = some turn) : exchange [entry] = [turn] :=
  List.filterMap_cons_some h

namespace Client

variable {w : Surroundings σ ι} {c d : Client σ ι}

/-! ## What a move writes -/

/-- How a client gets from one state to another: it says nothing, and stays in its
phase or is disconnected, or one message is said, and the protocol gives the
next phase. Either way it writes in the phase it was in. -/
inductive Advance (c d : Client σ ι) : Prop
  | silent {entries : List (Entry ι)} : d.journal = c.journal ++ entries →
      (∀ entry ∈ entries, entry.phase = c.phase) → exchange entries = [] →
      d.phase = c.phase ∨ d.phase = .disconnected → Advance c d
  | spoken {entries : List (Entry ι)} {turn : Party × Message} :
      d.journal = c.journal ++ entries → (∀ entry ∈ entries, entry.phase = c.phase) →
      exchange entries = [turn] → d.phase = c.phase.next turn.1 turn.2 → d.phase ≠ .error →
      Advance c d

theorem Advance.of_journal_eq (hjournal : d.journal = c.journal)
    (hphase : d.phase = c.phase ∨ d.phase = .disconnected) : Advance c d :=
  .silent (hjournal.trans (List.append_nil _).symm) (fun _ h => absurd h List.not_mem_nil) rfl
    hphase

theorem Advance.of_noted {what : Occurrence ι} (hwhat : what.turn? = none)
    (hjournal : d.journal = (c.note what).journal)
    (hphase : d.phase = c.phase ∨ d.phase = .disconnected) : Advance c d := by
  refine .silent (hjournal.trans (note_journal _ _)) (fun entry hentry => ?_)
    (exchange_singleton_of_none hwhat) hphase
  rw [List.mem_singleton.mp hentry]

theorem Advance.of_spoken {what : Occurrence ι} {turn : Party × Message}
    (hwhat : what.turn? = some turn) (hjournal : d.journal = (c.note what).journal)
    (hphase : d.phase = c.phase.next turn.1 turn.2) (hnext : c.phase.next turn.1 turn.2 ≠ .error) :
    Advance c d := by
  refine .spoken (hjournal.trans (note_journal _ _)) (fun entry hentry => ?_)
    (exchange_singleton_of_some hwhat) hphase (hphase ▸ hnext)
  rw [List.mem_singleton.mp hentry]

theorem Act.advance (h : Act w c d) : Advance c d := by
  obtain hsame | ⟨what, hwhat, hjournal⟩ := h.journal
  · exact .of_journal_eq hsame (.inl h.phase)
  · have hsilent : what.turn? = none := by cases hwhat <;> rfl
    exact .of_noted hsilent hjournal (.inl h.phase)

theorem Sending.advance {m : Message} (h : Sending w.transport c m d) : Advance c d := by
  cases h with
  | taken hnext _ =>
    have hwhat : (Occurrence.sent m (.ok ()) : Occurrence ι).turn? = some (.client, m) := rfl
    exact .of_spoken hwhat (delivered_journal ..) rfl hnext
  | refused _ _ => exact .of_noted rfl (undelivered_journal ..) (.inl rfl)

/-- What is silent before an advance belongs to it. -/
theorem Advance.of_drawn {m : Message} {rest : List Message} (h : Advance (c.drawn m rest) d) :
    Advance c d := by
  have hdrawn : ∀ entries : List (Entry ι), (c.drawn m rest).journal ++ entries =
      c.journal ++ ⟨c.phase, c.isIdle, .flushed m⟩ :: entries := fun entries => by
    rw [drawn_journal, List.append_assoc, List.singleton_append]
  have hphases {entries : List (Entry ι)} (hentries : ∀ entry ∈ entries, entry.phase = c.phase) :
      ∀ entry ∈ (⟨c.phase, c.isIdle, .flushed m⟩ : Entry ι) :: entries,
        entry.phase = c.phase := by
    intro entry hentry
    obtain rfl | hrest := List.mem_cons.mp hentry
    · rfl
    · exact hentries entry hrest
  cases h with
  | silent hjournal hentries hsilent hphase =>
    exact .silent (hjournal.trans (hdrawn _)) (hphases hentries) hsilent hphase
  | spoken hjournal hentries hturn hphase hsound =>
    exact .spoken (hjournal.trans (hdrawn _)) (hphases hentries) hturn hphase hsound

theorem Reception.advance (h : Reception w c d) : Advance c d := by
  have hspoken (m : Message) : (Occurrence.handled m : Occurrence ι).turn? = some (.server, m) :=
    rfl
  cases h with
  | acted hact => exact hact.advance
  | received _ => exact .of_journal_eq rfl (.inl rfl)
  | parsed _ => exact .of_journal_eq rfl (.inl rfl)
  | taken _ => exact .of_journal_eq rfl (.inl rfl)
  | @handled m hnext _ => exact .of_spoken (hspoken m) rfl rfl hnext
  | @admitted m hin _ =>
    refine .of_spoken (hspoken m) rfl hin.symm ?_
    rw [hin]
    exact Phase.noConfusion
  | ponged hsent => exact hsent.advance
  | lost _ => exact .of_journal_eq rfl (.inr rfl)
  | closed _ => exact .of_noted rfl (closeLink_journal _ _) (.inl rfl)
  | shut => exact .of_noted rfl (closeLink_journal _ _) (.inr rfl)
  | reported _ => exact .of_noted rfl rfl (.inl rfl)

theorem Negotiation.advance (h : Negotiation w c d) : Advance c d := by
  cases h with
  | heard hheard => exact hheard.advance
  | opened _ => exact .of_noted rfl (use_journal ..) (.inl rfl)
  | redirected _ _ =>
    -- This one move is written down in two entries.
    refine .silent (by rw [retarget_journal, closeLink_journal, List.append_assoc]) ?_ rfl
      (.inl rfl)
    intro entry hentry
    obtain rfl | hlast := List.mem_cons.mp hentry
    · rfl
    · rw [List.mem_singleton.mp hlast]
      rfl
  | responded _ _ hsent => exact hsent.advance
  | applied _ hsent => exact hsent.advance

/-- Every move is an advance. -/
theorem Move.advance (h : Move w c d) : Advance c d := by
  cases h with
  | negotiated hnegotiated => exact hnegotiated.advance
  | flushed _ hsent => exact hsent.advance.of_drawn
  | dropped _ _ => exact .of_noted rfl (drawn_journal ..) (.inl rfl)

/-- What is written during an advance is written in the phase it starts in. -/
theorem Advance.journal (h : Advance c d) :
    ∃ entries, d.journal = c.journal ++ entries ∧ ∀ entry ∈ entries, entry.phase = c.phase := by
  cases h with
  | silent hjournal hentries _ _ => exact ⟨_, hjournal, hentries⟩
  | spoken hjournal hentries _ _ _ => exact ⟨_, hjournal, hentries⟩

theorem Advance.phase_ne_error (h : Advance c d) (hc : c.phase ≠ .error) : d.phase ≠ .error := by
  cases h with
  | silent _ _ _ hphase =>
    obtain hsame | hgone := hphase
    · rwa [hsame]
    · rw [hgone]
      exact Phase.noConfusion
  | spoken _ _ _ _ hsound => exact hsound

/-! ## The phase and the exchange -/

/-- The phase of a client is that of what was said since `start`, if its connection
lives, and it has never been in the phase `error`. -/
structure Faithful (start : Nat) (c : Client σ ι) : Prop where
  started : start ≤ c.journal.length
  follows : c.phase = .disconnected ∨
    c.phase = Phase.run .awaitConnection (exchange (c.journal.drop start))
  sound : c.phase ≠ .error
  recorded : ∀ entry ∈ c.journal, entry.phase ≠ .error

theorem faithful_create {uri : String} {config : Config} {state : σ}
    (h : create w uri config state = .ok c) : Faithful 0 c := by
  obtain ⟨link, rfl⟩ := create_ok h
  exact
    { started := Nat.le_refl _
      follows := .inr rfl
      sound := Phase.noConfusion
      recorded := fun _ hentry => absurd hentry List.not_mem_nil }

/-- A new session begins with nothing said. -/
theorem Faithful.restart {start : Nat} (h : Faithful start c) :
    Faithful c.journal.length c.restart where
  started := by
    rw [restart_journal, List.length_append]
    exact Nat.le_add_right _ _
  follows := by
    rw [restart_phase, restart_journal, List.drop_left]
    exact .inr rfl
  sound := by
    rw [restart_phase]
    exact Phase.noConfusion
  recorded := by
    intro entry hentry
    rw [restart_journal] at hentry
    obtain hold | hnew := List.mem_append.mp hentry
    · exact h.recorded entry hold
    · rw [List.mem_singleton.mp hnew]
      exact h.sound

theorem Faithful.follows_advance {start : Nat} (h : Faithful start c)
    (hadvance : Advance c d) :
    d.phase = .disconnected ∨
      d.phase = Phase.run .awaitConnection (exchange (d.journal.drop start)) := by
  have hexchange {entries : List (Entry ι)} (hjournal : d.journal = c.journal ++ entries) :
      exchange (d.journal.drop start) =
        exchange (c.journal.drop start) ++ exchange entries := by
    rw [hjournal, List.drop_append_of_le_length h.started, exchange_append]
  cases hadvance with
  | silent hjournal _ hsilent hphase =>
    obtain hsame | hgone := hphase
    · rw [hsame, hexchange hjournal, hsilent, List.append_nil]
      exact h.follows
    · exact .inl hgone
  | spoken hjournal _ hturn hphase hsound =>
    -- Nothing is said without a connection: the protocol calls it an error.
    have hlives : c.phase ≠ .disconnected := by
      intro hgone
      rw [hphase, hgone, Phase.next_disconnected] at hsound
      exact hsound rfl
    have hbefore := h.follows.resolve_left hlives
    refine .inr ?_
    rw [hexchange hjournal, hturn, Phase.run_append, ← hbefore]
    exact hphase

theorem Faithful.advance {start : Nat} (h : Faithful start c) (hadvance : Advance c d) :
    Faithful start d := by
  obtain ⟨entries, hjournal, hentries⟩ := hadvance.journal
  refine ⟨?_, h.follows_advance hadvance, hadvance.phase_ne_error h.sound, ?_⟩
  · rw [hjournal, List.length_append]
    exact Nat.le_add_right_of_le h.started
  · intro entry hentry
    rw [hjournal] at hentry
    obtain hold | hnew := List.mem_append.mp hentry
    · exact h.recorded entry hold
    · rw [hentries entry hnew]
      exact h.sound

theorem Reached.faithful {start : Nat} (h : Reached w start c) : Faithful start c :=
  h.invariant (fun _ _ _ _ hmade => faithful_create hmade) (fun _ _ hold => hold.restart)
    fun _ _ _ hold hmove => hold.advance hmove.advance

/-- Whatever the transport does, and whatever requests were carried out: a client
is disconnected or in the phase that the protocol gives for what was said in its
session. It is never in the phase `error`, neither after a request nor while one
is carried out. -/
theorem follows_protocol {start : Nat} (h : Reached w start c) :
    (c.phase = .disconnected ∨
      c.phase = Phase.run .awaitConnection (exchange (c.journal.drop start))) ∧
    c.phase ≠ .error ∧
    ∀ request : Request ι, ((execute w request).after c).phase ≠ .error ∧
      ∀ entry ∈ ((execute w request).after c).journal, entry.phase ≠ .error := by
  refine ⟨h.faithful.follows, h.faithful.sound, fun request => ?_⟩
  have hafter : Faithful (request.sessionStart c start) ((execute w request).after c) :=
    execute_invariant request (fun _ _ hold => hold.restart)
      (fun _ _ _ hold hmove => hold.advance hmove.advance) h.faithful
  exact ⟨hafter.sound, hafter.recorded⟩

/-! ## A client that comes back -/

/-- A server that lets every client in. -/
def hospitable : Surroundings Script Script.Stimulus where
  transport := Script.transport true
  checkUri _ := .ok ()
  patience := 5

/-- A new client of that server. -/
def guest : Client Script Script.Stimulus where
  config := .standard
  uri := "ws://server"
  link :=
    { uri := some "ws://server"
      channel := { isOpen := true }
      state := { rules := Script.welcome } }

theorem create_guest :
    create hospitable "ws://server" .standard { rules := Script.welcome } = .ok guest := rfl

/-- The client after some requests. -/
def guestAfter : List (Request Script.Stimulus) → Client Script Script.Stimulus :=
  List.foldl (fun c request => (execute hospitable request).after c) guest

/-- The second session of a client begins after the seven entries of the first, and
has got as far as what was said since then. -/
theorem follows_protocol_reconnect :
    let c := guestAfter [.connect, .login "auth", .close, .connect]
    Reached hospitable 7 c ∧ c.phase = .awaitAuthentication ∧
      (exchange (c.journal.drop 7)).length = 3 ∧
      c.phase = Phase.run .awaitConnection (exchange (c.journal.drop 7)) ∧ c.phase ≠ .error ∧
      ∀ request, ((execute hospitable request).after c).phase ≠ .error := by
  intro c
  have hcreate : create hospitable "ws://server" .standard { rules := Script.welcome } =
      .ok (guestAfter []) := rfl
  have hmade := Reached.created hcreate
  have hfirst := (hmade.executed .connect (by decide +kernel)).executed (.login "auth")
    (by decide +kernel)
  have hclosed := hfirst.executed .close (by decide +kernel)
  have hstart :
      Request.connect.sessionStart (guestAfter [.connect, .login "auth", .close]) 0 = 7 := by
    decide +kernel
  have hback : Reached hospitable 7 c :=
    hstart ▸ hclosed.executed .connect (by decide +kernel)
  obtain ⟨hfollows, hsound, hrequests⟩ := follows_protocol hback
  refine ⟨hback, by decide +kernel, by decide +kernel, hfollows.resolve_left (by decide +kernel),
    hsound, fun request => (hrequests request).1⟩

end Client

end Realtime
