import Realtime.Proofs.Client.Causes
import Realtime.Proofs.Client.Idle

/-!
# Sessions do not leak into each other

What a server says late belongs to the session it was said in. Messages that wait behind a
redirection, events that the transport brings while it closes, whatever comes while there is
no connection: none of it may be taken for the word of the next server. So each time the
transport is opened again, nothing of what has come in before is left. And as long as the
client is not connected, no message of a server makes it call anyone.

The first of these needs that a client which has opened its transport does not rest before
it has come as far as a login, or has ended the connection.

Results:
1. `handshake_secluded`: whoever begins with nothing left over opens with nothing left over.
2. `Rested.executed`: what is known of a client between two requests.
3. `Routine.callsConnected`: only a connected client calls anyone because of its server.
4. `sessions_apart`: both, for every request of every client.
-/

namespace Realtime

variable {σ ι : Type}

/-- The transport was asked to open. -/
def Occurrence.isOpening : Occurrence ι → Bool
  | .opened _ _ => true
  | _ => false

/-- Where a client rests that has opened its transport. -/
def Phase.isResting : Phase → Bool
  | .awaitAuthentication | .authenticating | .connected | .disconnected => true
  | _ => false

/-- Nothing that is said leads away from there. -/
theorem Phase.isResting_next {p : Phase} {sender : Party} {m : Message} (h : p.isResting)
    (hnext : p.next sender m ≠ .error) : (p.next sender m).isResting := by
  have hallows := allows_of_next rfl hnext
  generalize m.header = header at hallows
  generalize p.next sender m = q at hallows
  cases hallows with
  | pinged | ponged | exchanged => exact h
  | accepted | rejected | applied | admitted | lockedOut | misunderstood | refused => rfl
  | _ => cases h

namespace Client

/-- The transport was asked to open at some time. -/
def Opened (journal : List (Entry ι)) : Prop :=
  ∃ entry ∈ journal, entry.what.isOpening

/-- Each time the transport was asked to open, but for the first, nothing was waiting to be
handled or received. -/
def Secluded (journal : List (Entry ι)) : Prop :=
  ∀ front entry back, journal = front ++ entry :: back →
    entry.what.isOpening → Opened front → entry.idle

/-- The transport was not opened yet, or nothing is waiting to be handled or received. -/
def Fresh (c : Client σ ι) : Prop :=
  Opened c.journal → c.isIdle

/-- What is known of a client between two requests. -/
structure Rested (c : Client σ ι) : Prop where
  secluded : Secluded c.journal
  resting : Opened c.journal → c.phase.isResting

theorem secluded_concat {journal : List (Entry ι)} {entry : Entry ι} :
    Secluded (journal ++ [entry]) ↔
      Secluded journal ∧ (entry.what.isOpening → Opened journal → entry.idle) :=
  forall_entry_concat

theorem secluded_append {journal entries : List (Entry ι)} (h : Secluded journal)
    (hentries : ∀ entry ∈ entries, entry.what.isOpening = false) :
    Secluded (journal ++ entries) := by
  induction entries generalizing journal with
  | nil => rwa [List.append_nil]
  | cons first rest ih =>
    obtain ⟨hfirst, hrest⟩ := List.forall_mem_cons.mp hentries
    rw [List.append_cons]
    refine ih (secluded_concat.mpr ⟨h, fun hopening => ?_⟩) hrest
    rw [hfirst] at hopening
    cases hopening

theorem opened_append {journal entries : List (Entry ι)}
    (hentries : ∀ entry ∈ entries, entry.what.isOpening = false) :
    Opened (journal ++ entries) ↔ Opened journal := by
  constructor
  · rintro ⟨entry, hentry, hopening⟩
    obtain hbefore | hlater := List.mem_append.mp hentry
    · exact ⟨entry, hbefore, hopening⟩
    · rw [hentries entry hlater] at hopening
      cases hopening
  · rintro ⟨entry, hentry, hopening⟩
    exact ⟨entry, List.mem_append_left _ hentry, hopening⟩

/-! ## Moves that do not open the transport -/

/-- Between two states, the transport was not asked to open. -/
abbrev KeepsShut (c d : Client σ ι) : Prop :=
  Writes (fun entry => entry.what.isOpening = false) c d

variable {w : Surroundings σ ι} {c d : Client σ ι}

theorem KeepsShut.opened_iff (h : KeepsShut c d) : Opened d.journal ↔ Opened c.journal := by
  obtain ⟨entries, hjournal, hentries⟩ := h
  rw [hjournal, opened_append hentries]

theorem KeepsShut.secluded (h : KeepsShut c d) (hc : Secluded c.journal) :
    Secluded d.journal := by
  obtain ⟨entries, hjournal, hentries⟩ := h
  rw [hjournal]
  exact secluded_append hc hentries

theorem Sending.keepsShut {m : Message} (h : Sending w.transport c m d) : KeepsShut c d :=
  h.writes fun _ => rfl

theorem Reception.keepsShut (h : Reception w c d) : KeepsShut c d := by
  cases h with
  | acted hact =>
    obtain hsame | ⟨what, hwhat, hjournal⟩ := hact.journal
    · exact .of_journal_eq hsame
    · exact .of_noted hjournal (by cases hwhat <;> rfl)
  | received | parsed | taken | lost => exact .of_journal_eq rfl
  | handled | admitted => exact .of_noted (note_journal ..) rfl
  | ponged hsent => exact hsent.keepsShut
  | closed | shut => exact .of_noted (closeLink_journal ..) rfl
  | reported => exact .of_noted (note_journal ..) rfl

theorem Conversation.keepsShut (h : Conversation w c d) : KeepsShut c d := by
  have hdrawn (m : Message) (rest : List Message) : KeepsShut c (c.drawn m rest) :=
    .of_noted (drawn_journal ..) rfl
  cases h with
  | heard hheard => exact hheard.keepsShut
  | applied _ hsent => exact hsent.keepsShut
  | flushed _ hsent => exact (hdrawn _ _).trans hsent.keepsShut
  | dropped => exact hdrawn _ _

/-- Whoever rests goes on to where one may rest. -/
theorem Move.isResting (h : Move w c d) (hc : c.phase.isResting) : d.phase.isResting := by
  cases h.advance with
  | silent _ _ _ hphase =>
    obtain hsame | hgone := hphase
    · rwa [hsame]
    · rw [hgone]
      rfl
  | spoken _ _ _ hphase hsound =>
    rw [hphase] at hsound ⊢
    exact Phase.isResting_next hc hsound

end Client

namespace Session

open Client

variable {w : Surroundings σ ι} {c d : Client σ ι}

/-! ## Making a connection -/

/-- Between two states, seclusion is kept. -/
def Secludes (c d : Client σ ι) : Prop :=
  Secluded c.journal → Secluded d.journal

/-- A session starts with nothing left over. -/
theorem startSession_fresh (h : c.Rested) (hstart : (startSession : Session σ ι Unit) c = .ok () d) :
    d.Fresh := by
  rw [startSession_eq] at hstart
  split at hstart
  · next hphase =>
    cases hstart
    intro hopened
    have hresting := h.resting hopened
    rw [hphase] at hresting
    cases hresting
  · cases hstart
    intro _
    rw [restart_eq]
    rfl
  · cases hstart

/-- Who begins with nothing left over opens the transport with nothing left over, however
often it is redirected. -/
theorem handshake_secluded (hfresh : c.Fresh) (hops : Nat) :
    Walks Secludes (handshake w hops) c := by
  refine handshake_walks (fun _ _ hheard => hheard.keepsShut.secluded)
    (fun _ _ _ _ hsent => hsent.keepsShut.secluded) (fun c hready hc => ?_)
    (fun c uri _ _ => ⟨?_, fun _ => rfl⟩) hfresh hops
  · rw [use_journal]
    exact secluded_concat.mpr ⟨hc, fun _ => hready⟩
  · have hclosed : KeepsShut c (c.closeLink w.transport) := .of_noted (closeLink_journal ..) rfl
    have hleft : KeepsShut (c.closeLink w.transport) ((c.closeLink w.transport).retarget uri) :=
      .of_noted (retarget_journal ..) rfl
    exact fun hc => hleft.secluded (hclosed.secluded hc)

/-- Whatever comes of it, connecting keeps sessions apart. -/
theorem connect_secluded (h : c.Rested) : Walks Secludes (connect w) c := by
  refine Walks.of_bind ?_ fun _ d hstart => Walks.of_get_bind ?_
  · unfold Walks after
    rw [startSession_eq]
    cases c.phase with
    | disconnected =>
      have hkept : KeepsShut c c.restart := .of_entry (restart_journal c) rfl
      exact Relation.ReflTransGen.single hkept.secluded
    | _ => exact Relation.ReflTransGen.refl
  · have hhand : Walks Secludes (handshake w (d.config.maxRedirections.toNat - 1)) d :=
      handshake_secluded (startSession_fresh h hstart) _
    refine Walks.of_bind (Walks.of_attempt hhand) fun result e _ => ?_
    cases result with
    | ok _ => exact Walks.of_pure _
    | error x =>
      have hgone : Walks Secludes (abandon w) e :=
        Walks.mono abandon_walks fun _ _ hheard => hheard.keepsShut.secluded
      exact Walks.of_bind hgone fun _ _ _ => Walks.of_fail x

end Session

namespace Client

variable {w : Surroundings σ ι} {c d : Client σ ι}

theorem Rested.connect (h : Rested c) : Secluded ((Session.connect w).after c).journal :=
  Session.Walks.keeps (P := fun d => Secluded d.journal) (Session.connect_secluded h)
    (fun _ _ hbefore hmove => hmove hbefore) h.secluded

theorem Rested.secluded_after (h : Rested c) (request : Request ι) :
    Secluded ((execute w request).after c).journal := by
  by_cases hconnect : request = .connect
  · subst hconnect
    have hsame : (execute w .connect).after c = (Session.connect w).after c :=
      Session.after_answer _ _ c
    rw [hsame]
    exact h.connect
  · have hkept : KeepsShut c ((execute w request).after c) :=
      .of_walk (execute_conversation hconnect) fun _ _ => Conversation.keepsShut
    exact hkept.secluded h.secluded

/-- Between two requests, what is known of a client stays true. -/
theorem Rested.executed (h : Rested c) (request : Request ι)
    (hreturns : (execute w request).returns c = true) : Rested ((execute w request).after c) := by
  refine ⟨h.secluded_after request, ?_⟩
  by_cases hconnect : request = .connect
  · subst hconnect
    have hsame : (execute w .connect).after c = (Session.connect w).after c :=
      Session.after_answer _ _ c
    rw [hsame]
    have hreturns : (Session.connect w).returns c = true :=
      (Session.returns_answer _ _ c).symm.trans hreturns
    obtain hunchanged | hphase | hphase := Session.connect_phase hreturns
    · rw [hunchanged]
      exact h.resting
    · rw [hphase]
      exact fun _ => rfl
    · rw [hphase]
      exact fun _ => rfl
  · have hwalk := execute_conversation (w := w) (c := c) hconnect
    have hkept : KeepsShut c ((execute w request).after c) :=
      .of_walk hwalk fun _ _ => Conversation.keepsShut
    rw [hkept.opened_iff]
    intro hopened
    exact Session.Walks.keeps (P := fun d => d.phase.isResting) hwalk
      (fun _ _ hbefore hmove => hmove.move.isResting hbefore) (h.resting hopened)

theorem Reached.rested {start : Nat} (h : Reached w start c) : Rested c := by
  induction h with
  | created hmade =>
    obtain ⟨link, rfl⟩ := create_ok hmade
    exact ⟨fun front entry back hsplit => by simp at hsplit, fun ⟨_, hmem, _⟩ => nomatch hmem⟩
  | executed request _ hreturns ih => exact ih.executed request hreturns

/-! ## Who is called because of the server -/

/-- Whoever is called is called by a connected client. -/
abbrev CallsConnected (entry : Entry ι) : Prop :=
  ∀ i, entry.what = .invoked i → entry.phase = .connected

/-- What commands and callbacks make a connected client do, a connected client does. -/
theorem callsConnected_of_acts (h : Relation.ReflTransGen (Act w) c d)
    (hin : c.phase = .connected) : Writes CallsConnected c d := by
  have hboth : d.phase = .connected ∧ Writes CallsConnected c d := by
    refine Session.Walks.keeps (P := fun d => d.phase = .connected ∧ Writes CallsConnected c d) h
      (fun d e hbefore hact => ?_) ⟨hin, .refl c⟩
    obtain ⟨hphase, hwritten⟩ := hbefore
    obtain ⟨entries, hjournal, hentries⟩ := hact.advance.journal
    refine ⟨hact.phase.trans hphase, hwritten.trans ⟨entries, hjournal, ?_⟩⟩
    exact fun entry hentry _ _ => (hentries entry hentry).trans hphase
  exact hboth.2

/-- What serves the connection calls no one. -/
theorem Upkeep.callsConnected (h : Upkeep c d) : Writes CallsConnected c d := by
  obtain ⟨entries, hjournal, hupkeep⟩ := h.writes
  refine ⟨entries, hjournal, fun entry hentry i hcall => ?_⟩
  have hwhat : entry.what.isUpkeep := hupkeep entry hentry
  rw [hcall] at hwhat
  cases hwhat

/-- A message of the server that takes effect makes only a connected client call anyone. -/
theorem handle_callsConnected {m : Message} (hnext : c.phase.next .server m ≠ .error) :
    Writes CallsConnected c ((Session.handle w m).after c) := by
  have hnoted : Writes CallsConnected c (c.note (.handled m)) := .of_noted rfl nofun
  by_cases htraffic : m.isTraffic
  · have hin : c.phase = .connected := Phase.eq_connected_of_traffic htraffic hnext
    have hsame : (Session.handle w m).after c =
        (Session.dispatch w m).after (c.note (.handled m)) := by
      unfold Session.after
      rw [Session.handle_connected hin]
    have hacts : Session.Walks (Act w) (Session.dispatch w m) (c.note (.handled m)) := by
      unfold Session.dispatch
      split
      · next htopic => simp [Message.isTraffic, htopic] at htraffic
      · exact Session.notifyEvent_walks Session.runner_tame m
      · exact Session.notifyPresence_walks Session.runner_tame m
      · exact Session.Walks.of_pure _
    rw [hsame]
    exact hnoted.trans (callsConnected_of_acts hacts hin)
  · exact hnoted.trans (handle_upkeep htraffic hnext).callsConnected

theorem Routine.callsConnected (h : Routine w c d) : Writes CallsConnected c d := by
  obtain ⟨m, hnext, rfl⟩ | hupkeep := h.heard_or_upkeep
  · exact handle_callsConnected hnext
  · exact hupkeep.callsConnected

/-- What a request does keeps sessions apart. Whenever it opens the transport again, nothing
that has come in before is left. Whoever it calls, unless it is a command, is called by a
connected client; and a command lets no message of the server take effect. -/
theorem sessions_apart {start : Nat} (h : Reached w start c) (request : Request ι) :
    Secluded ((execute w request).after c).journal ∧
      ∃ entries, ((execute w request).after c).journal = c.journal ++ entries ∧
        ((∀ command, request ≠ .command command) → ∀ entry ∈ entries, CallsConnected entry) ∧
        ∀ command, request = .command command → ∀ entry ∈ entries, ∀ m, entry.what ≠ .handled m := by
  refine ⟨h.rested.secluded_after request, ?_⟩
  by_cases hcommand : ∃ command, request = .command command
  · obtain ⟨command, rfl⟩ := hcommand
    have hacts : Relation.ReflTransGen (Act w) c ((execute w (.command command)).after c) :=
      Session.perform_walks Session.runner_tame command
    have hwritten : Writes (fun entry => ∀ m, entry.what ≠ .handled m) c
        ((execute w (.command command)).after c) := by
      refine .of_walk hacts fun c d hact => ?_
      obtain hsame | ⟨what, hwhat, hjournal⟩ := hact.journal
      · exact .of_journal_eq hsame
      · exact .of_noted hjournal (by cases hwhat <;> exact nofun)
    obtain ⟨entries, hjournal, hentries⟩ := hwritten
    exact ⟨entries, hjournal, fun hnone => absurd rfl (hnone command), fun _ _ => hentries⟩
  · have hnone : ∀ command, request ≠ .command command := fun command hsame =>
      hcommand ⟨command, hsame⟩
    obtain ⟨entries, hjournal, hentries⟩ :=
      Writes.of_walk (execute_routine hnone c) fun _ _ => Routine.callsConnected
    exact ⟨entries, hjournal, fun _ => hentries, fun command hsame => absurd hsame (hnone command)⟩

/-! ### A client that is sent away -/

/-- A server that sends a client on to another address, with an event right behind that. -/
def sendingOn : List Script.Rule :=
  { on := "C|CHR|", uses := some 1,
    replies := [Script.frame "C|RED|ws://other+E|EVT|news|S1+", .event .closed] } :: Script.welcome

/-- A new client of that server. -/
def stranger : Client Script Script.Stimulus where
  config := .standard
  uri := "ws://server"
  link :=
    { uri := some "ws://server"
      channel := { isOpen := true }
      state := { rules := sendingOn } }

/-- The client is sent away, connects and logs in elsewhere, and is told news. After it has
closed the connection more news come. -/
def wandering : List (Request Script.Stimulus) :=
  [.connect, .login "auth", .command (.subscribe "news" "reader" fun _ _ => []),
    .command (.stimulate (.deliver [Script.frame "E|EVT|news|S2+"])), .process, .close,
    .command (.stimulate (.deliver [Script.frame "E|EVT|news|S3+"]))]

/-- The client connects again, which is the third time that it opens its transport. -/
theorem sessions_apart_wandering :
    let c := wandering.foldl (fun c request => (execute hospitable request).after c) stranger
    let d := (execute hospitable .connect).after c
    (∃ start, Reached hospitable start c) ∧ c.isIdle = false ∧
      (d.journal.filter (·.what.isOpening)).length = 3 ∧ Secluded d.journal := by
  intro c d
  have hmade : create hospitable "ws://server" .standard { rules := sendingOn } = .ok stranger := rfl
  have hreturn : allReturn hospitable stranger wandering := by decide +kernel
  obtain ⟨start, hreached⟩ := (Reached.created hmade).of_allReturn hreturn
  exact ⟨⟨start, hreached⟩, by decide +kernel, by decide +kernel,
    (sessions_apart hreached .connect).1⟩

end Client

end Realtime
