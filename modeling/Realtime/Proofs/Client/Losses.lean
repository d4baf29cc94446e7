import Realtime.Proofs.Client.Conservation

/-!
# What is lost without a connection

The outbox outlives a connection, so that what was accepted reaches the server
sooner or later. But a flush takes a message from the outbox before it finds out
whether there is a connection, and when there is none the message is gone. A
program runs into this if it processes messages after its connection has ended
while an event still stands in the outbox.

Results:
1. `Move.handsOver`: an event that is taken from the outbox is handed to the
   transport if and only if the client is connected.
2. `all_sent_iff`: a login or processing that leaves the client connected has
   caught up with the accepted events, unless one was taken without a connection.
3. `processing_offline_loses`: an event that is lost in this way.
-/

namespace Realtime

variable {σ ι : Type}

namespace Client

/-- The events that were taken from the outbox of a connected client. -/
def takenConnected (journal : List (Entry ι)) : List Message :=
  journal.filterMap fun entry => if entry.phase = .connected then entry.what.taken? else none

/-- The events that were handed to the transport are those that were taken from the outbox
of a connected client. -/
def HandsOver (journal : List (Entry ι)) : Prop :=
  (handed (journal.map Entry.what)).map Prod.fst = takenConnected journal

theorem HandsOver.append {front back : List (Entry ι)} (hfront : HandsOver front)
    (hback : HandsOver back) : HandsOver (front ++ back) := by
  unfold HandsOver takenConnected at hfront hback ⊢
  rw [List.map_append, handed_append, List.map_append, hfront, hback, List.filterMap_append]

theorem handsOver_of_quiet {entries : List (Entry ι)}
    (h : ∀ entry ∈ entries, entry.what.IsQuiet) : HandsOver entries := by
  have hhanded : handed (entries.map Entry.what) = [] := handed_of_quiet fun what hwhat => by
    obtain ⟨entry, hentry, rfl⟩ := List.mem_map.mp hwhat
    exact h entry hentry
  have htaken : takenConnected entries = [] := List.filterMap_eq_nil_iff.mpr fun entry hentry => by
    rw [(h entry hentry).taken?, ite_self]
  rw [HandsOver, hhanded, htaken]
  rfl

variable {w : Surroundings σ ι} {c d : Client σ ι}

/-- Whatever a move writes down, events that it takes from the outbox are handed over if
and only if the client is connected. -/
theorem Move.handsOver (hmove : Move w c d) :
    ∃ entries, d.journal = c.journal ++ entries ∧ HandsOver entries := by
  cases hmove with
  | negotiated hnegotiated =>
    obtain ⟨entries, hjournal, hquiet⟩ := hnegotiated.quietly
    exact ⟨entries, hjournal, handsOver_of_quiet hquiet⟩
  | @flushed m rest d _ hsent =>
    have hjournal : ∃ idle outcome, d.journal =
        c.journal ++ [⟨c.phase, c.isIdle, .flushed m⟩, ⟨c.phase, idle, .sent m outcome⟩] := by
      cases hsent with
      | taken _ _ => exact ⟨_, .ok (), List.append_assoc ..⟩
      | refused _ _ => exact ⟨_, .error _, List.append_assoc ..⟩
    obtain ⟨idle, outcome, hjournal⟩ := hjournal
    refine ⟨_, hjournal, ?_⟩
    by_cases hm : m.isEmit
    · have hphase : c.phase = .connected :=
        Phase.eq_connected_of_traffic (Message.isTraffic_of_isEmit hm) hsent.next_ne_error
      simp [HandsOver, takenConnected, handed, List.filterMap_cons, Occurrence.handed?,
        Occurrence.taken?, hm, hphase]
    · simp [HandsOver, takenConnected, handed, List.filterMap_cons, Occurrence.handed?,
        Occurrence.taken?, hm]
  | @dropped m rest _ hnext =>
    have hphase : c.phase ≠ .connected := Phase.ne_connected_of_next_eq_error hnext
    refine ⟨_, drawn_journal .., ?_⟩
    simp [HandsOver, takenConnected, handed, List.filterMap_cons, Occurrence.handed?, hphase]

theorem Reached.handsOver {start : Nat} (h : Reached w start c) : HandsOver c.journal := by
  refine h.invariant (P := fun _ c => HandsOver c.journal) (fun _ _ _ _ hmade => ?_)
    (fun _ c hold => ?_) fun _ c d hold hmove => ?_
  · obtain ⟨link, rfl⟩ := create_ok hmade
    exact handsOver_of_quiet fun _ hentry => absurd hentry List.not_mem_nil
  · rw [restart_journal]
    refine hold.append (handsOver_of_quiet fun entry hentry => ?_)
    rw [List.mem_singleton.mp hentry]
    exact ⟨fun _ => nofun, fun _ _ => nofun⟩
  · obtain ⟨entries, hjournal, hnew⟩ := hmove.handsOver
    rw [hjournal]
    exact hold.append hnew

theorem takenConnected_length_le (journal : List (Entry ι)) :
    (takenConnected journal).length ≤ (taken (journal.map Entry.what)).length := by
  induction journal with
  | nil => exact Nat.le_refl _
  | cons entry rest ih =>
    rw [takenConnected, taken, List.map_cons, List.filterMap_cons, List.filterMap_cons]
    cases entry.what.taken? with
    | none =>
      rw [ite_self]
      exact ih
    | some m =>
      split
      · exact Nat.le_succ_of_le ih
      · exact Nat.succ_le_succ ih

/-- All events were taken from the outbox of a connected client if and only if each was. -/
theorem takenConnected_eq_taken_iff {journal : List (Entry ι)} :
    takenConnected journal = taken (journal.map Entry.what) ↔
      ∀ entry ∈ journal, entry.what.taken?.isSome → entry.phase = .connected := by
  induction journal with
  | nil => exact ⟨fun _ _ hmem => absurd hmem List.not_mem_nil, fun _ => rfl⟩
  | cons entry rest ih =>
    have hless := takenConnected_length_le rest
    rw [List.forall_mem_cons, ← ih]
    unfold takenConnected taken at hless ⊢
    rw [List.map_cons, List.filterMap_cons, List.filterMap_cons]
    cases entry.what.taken? with
    | none => simp
    | some m =>
      by_cases hphase : entry.phase = .connected
      · simp [hphase]
      · simp only [hphase, if_false, Option.isSome_some, forall_const, false_and, iff_false]
        intro hsame
        rw [hsame, List.length_cons] at hless
        exact absurd hless (Nat.not_succ_le_self _)

/-- If the transport has refused nothing, it has taken what it was handed. -/
theorem handed_of_unrefused {whats : List (Occurrence ι)}
    (h : ∀ what ∈ whats, what.isRefusal = false) :
    handed whats = ((handed whats).map Prod.fst).map (·, .ok ()) := by
  have htaken : ∀ turn ∈ handed whats, (turn.1, Except.ok ()) = turn := by
    intro ⟨m, outcome⟩ hturn
    obtain ⟨what, hwhat, hhanded⟩ := List.mem_filterMap.mp hturn
    have hnone := h what hwhat
    cases what with
    | sent other result =>
      cases result with
      | ok _ =>
        obtain ⟨-, hsame⟩ := Option.ite_none_right_eq_some.mp hhanded
        cases hsame
        rfl
      | error x => cases hnone
    | _ => cases hhanded
  rw [List.map_map]
  exact (List.map_id _).symm.trans (List.map_congr_left fun turn hturn => (htaken turn hturn).symm)

/-- On a transport that has taken every message so far, whenever a login or processing
succeeds and leaves the client connected: the server was sent the events that were accepted,
all of them and in order, if and only if each event that was taken from the outbox was taken
while the client was connected. -/
theorem all_sent_iff {start : Nat} (h : Reached w start c) {request : Request ι}
    (hrequest : request.isNegotiation = false) (hok : (execute w request).succeeds c)
    (hin : ((execute w request).after c).phase = .connected)
    (hunrefused : ∀ what ∈ ((execute w request).after c).history, what.isRefusal = false) :
    let d := (execute w request).after c
    handed d.history = (accepted d.history).map (·, .ok ()) ↔
      ∀ entry ∈ d.journal, entry.what.taken?.isSome → entry.phase = .connected := by
  intro d
  obtain ⟨answer, hrun⟩ := Session.eq_ok_of_succeeds hok
  have hreached : Reached w (request.sessionStart c start) d :=
    h.executed request (Session.returns_of_succeeds hok)
  -- Nothing waits any more, so what was accepted is what was taken from the outbox.
  have haccepted : accepted d.history = taken d.history := by
    obtain ⟨e, -, hflush⟩ := execute_flushed hrequest hrun
    rw [hreached.conserved.account, (Session.flush_ok hflush).outbox, hreached.conserved.calm hin]
    simp
  have hhanded : (handed d.history).map Prod.fst = takenConnected d.journal := hreached.handsOver
  rw [handed_of_unrefused hunrefused, hhanded, haccepted, ← takenConnected_eq_taken_iff]
  exact List.map_inj_right fun _ _ hsame => (Prod.ext_iff.mp hsame).1

/-- An event that still stands in the outbox when the connection is closed is sent with the
next login, if nothing is processed meanwhile. -/
theorem all_sent_iff_reconnect :
    let c := guestAfter [.connect, .login "auth", .command (.emit "news" (Utf8.encode "1")),
      .close, .connect]
    let d := (execute hospitable (.login "auth")).after c
    (∃ start, Reached hospitable start c) ∧ d.phase = .connected ∧
      accepted d.history = [Session.emitMessage "news" (Utf8.encode "1")] ∧
      handed d.history = (accepted d.history).map (·, .ok ()) := by
  intro c d
  obtain ⟨start, hreached⟩ : ∃ start, Reached hospitable start c :=
    (Reached.created create_guest).of_allReturn (by decide +kernel)
  have hlogin : (Request.login "auth" : Request Script.Stimulus).isNegotiation = false := rfl
  have hcaughtUp := all_sent_iff hreached hlogin (by decide +kernel) (by decide +kernel)
    (by decide +kernel)
  exact ⟨⟨start, hreached⟩, by decide +kernel, by decide +kernel,
    hcaughtUp.mpr (by decide +kernel)⟩

/-- If messages are processed before the client has connected again, the event is lost: the
flush has taken it from the outbox, and no message has been refused by the transport. -/
theorem processing_offline_loses :
    let c := guestAfter [.connect, .login "auth", .command (.emit "news" (Utf8.encode "1")),
      .close, .process, .connect]
    let d := (execute hospitable (.login "auth")).after c
    (∃ start, Reached hospitable start c) ∧ (execute hospitable (.login "auth")).succeeds c ∧
      d.phase = .connected ∧ (∀ what ∈ d.history, what.isRefusal = false) ∧
      accepted d.history = [Session.emitMessage "news" (Utf8.encode "1")] ∧
      handed d.history = [] := by
  intro c d
  exact ⟨(Reached.created create_guest).of_allReturn (by decide +kernel), by decide +kernel,
    by decide +kernel, by decide +kernel, by decide +kernel, by decide +kernel⟩

end Client

end Realtime
