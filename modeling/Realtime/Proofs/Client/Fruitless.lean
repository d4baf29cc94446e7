import Realtime.Proofs.Client.Buffers
import Realtime.Proofs.Client.Routine

/-!
# Sessions that come to nothing

Connecting and logging in may fail in many ways: the transport fails, the server is silent, sends
the client elsewhere, rejects it or refuses its credentials, speaks of events before its time or
says what makes no sense. What a program has left with the client is touched by none of it. The
protocol allows no talk of events or presence before the client is let in, and only a client that
was let in empties its outbox or tells the server anew what it has to know.

Results:
1. `Move.admits_iff`: a client becomes connected where its journal says that it was let in.
2. `handle_spares`: a message of the server lets the client in, or spares its program.
3. `execute_spares`: connecting, logging in and closing do so from every state.
4. `fruitless_sessions`: if the client is never let in, its program notices nothing.
-/

namespace Realtime

variable {σ ι : Type}

/-! ## Being let in -/

/-- The server lets the client in. -/
def Entry.admits (entry : Entry ι) : Bool :=
  match entry.what with
  | .handled m => entry.phase ≠ .connected && entry.phase.next .server m = .connected
  | _ => false

theorem Entry.admits_iff {entry : Entry ι} : entry.admits = true ↔
    ∃ m, entry.what = .handled m ∧ entry.phase ≠ .connected ∧
      entry.phase.next .server m = .connected := by
  obtain ⟨phase, idle, what⟩ := entry
  cases what <;> simp [admits]

theorem Occurrence.turn?_eq_server {what : Occurrence ι} {m : Message} :
    what.turn? = some (.server, m) ↔ what = .handled m := by
  cases what with
  | sent other outcome => cases outcome <;> simp [turn?]
  | _ => simp [turn?]

theorem mem_exchange_server {entries : List (Entry ι)} {m : Message} :
    (.server, m) ∈ exchange entries ↔ ∃ entry ∈ entries, entry.what = .handled m := by
  simp only [exchange, List.mem_filterMap, Occurrence.turn?_eq_server]

/-- Asks for a connection, for a login, or for the end of both. Besides, the transport may act on
its own. -/
def Request.servesConnection : Request ι → Bool
  | .connect => true
  | .login _ => true
  | .close => true
  | .command (.stimulate _) => true
  | _ => false

/-- A callback was called. -/
def Occurrence.isInvocation : Occurrence ι → Bool
  | .invoked _ => true
  | _ => false

namespace Client

variable {w : Surroundings σ ι} {c d e : Client σ ι}

/-- A client that is let in during an advance, which is written in one phase, was told so. -/
theorem exists_admits_iff {entries : List (Entry ι)} {p : Phase}
    (hentries : ∀ entry ∈ entries, entry.phase = p) :
    (∃ entry ∈ entries, entry.admits = true) ↔
      p ≠ .connected ∧ ∃ m, (.server, m) ∈ exchange entries ∧ p.next .server m = .connected := by
  constructor
  · rintro ⟨entry, hentry, hadmits⟩
    obtain ⟨m, hwhat, hout, hin⟩ := Entry.admits_iff.mp hadmits
    rw [hentries entry hentry] at hout hin
    exact ⟨hout, m, mem_exchange_server.mpr ⟨entry, hentry, hwhat⟩, hin⟩
  · rintro ⟨hout, m, hsaid, hin⟩
    obtain ⟨entry, hentry, hwhat⟩ := mem_exchange_server.mp hsaid
    rw [← hentries entry hentry] at hout hin
    exact ⟨entry, hentry, Entry.admits_iff.mpr ⟨m, hwhat, hout, hin⟩⟩

/-- A client becomes connected where its journal says that it was let in, and nowhere else. -/
theorem Move.admits_iff (h : Move w c d) :
    ∃ entries, d.journal = c.journal ++ entries ∧
      ((∃ entry ∈ entries, entry.admits = true) ↔ c.phase ≠ .connected ∧ d.phase = .connected) := by
  cases h.advance with
  | silent hjournal hentries hsilent hphase =>
    refine ⟨_, hjournal, (exists_admits_iff hentries).trans (and_congr_right fun hout => ?_)⟩
    rw [hsilent]
    refine iff_of_false (fun ⟨m, hsaid, _⟩ => nomatch hsaid) fun hin => ?_
    rw [hin] at hphase
    exact hphase.elim (fun hsame => hout hsame.symm) nofun
  | @spoken _ turn hjournal hentries hturn hphase _ =>
    refine ⟨_, hjournal, (exists_admits_iff hentries).trans (and_congr_right fun hout => ?_)⟩
    obtain ⟨sender, m⟩ := turn
    rw [hturn, hphase]
    cases sender with
    | client =>
      refine iff_of_false ?_ fun hin => hout (Phase.next_client_eq_connected hin)
      rintro ⟨other, hsaid, -⟩
      cases List.mem_singleton.mp hsaid
    | server => simp

/-! ## A program that is spared -/

/-- Between two states the server has let the client in, or its program was spared: what is on the
desk is the same, no one was called, and the client is connected only if it was. -/
inductive Spares (c d : Client σ ι) : Prop
  | admitted {entries : List (Entry ι)} : d.journal = c.journal ++ entries →
      (∃ entry ∈ entries, entry.admits = true) → Spares c d
  | spared : Writes (·.what.isInvocation = false) c d → d.desk = c.desk →
      (d.phase = .connected → c.phase = .connected) → Spares c d

namespace Spares

theorem refl (c : Client σ ι) : Spares c c :=
  .spared (.refl c) rfl id

theorem of_journal_eq (hjournal : d.journal = c.journal) (hdesk : d.desk = c.desk)
    (hphase : d.phase = .connected → c.phase = .connected) : Spares c d :=
  .spared (.of_journal_eq hjournal) hdesk hphase

theorem of_entry {entry : Entry ι} (hjournal : d.journal = c.journal ++ [entry])
    (hentry : entry.what.isInvocation = false) (hdesk : d.desk = c.desk)
    (hphase : d.phase = .connected → c.phase = .connected) : Spares c d :=
  .spared (.of_entry hjournal hentry) hdesk hphase

theorem grows (h : Spares c d) : c.journal <+: d.journal := by
  cases h with
  | admitted hjournal _ => exact ⟨_, hjournal.symm⟩
  | spared hwrites _ _ =>
    obtain ⟨entries, hjournal, -⟩ := hwrites
    exact ⟨entries, hjournal.symm⟩

/-- Once a client was let in, it does not matter what comes next. -/
theorem admitted_before {entries : List (Entry ι)} (hjournal : d.journal = c.journal ++ entries)
    (hadmits : ∃ entry ∈ entries, entry.admits = true) (hgrows : d.journal <+: e.journal) :
    Spares c e := by
  obtain ⟨later, hlater⟩ := hgrows
  obtain ⟨entry, hentry, hadmits⟩ := hadmits
  rw [hjournal, List.append_assoc] at hlater
  exact .admitted hlater.symm ⟨entry, List.mem_append_left _ hentry, hadmits⟩

theorem trans (hfirst : Spares c d) (hsecond : Spares d e) : Spares c e := by
  cases hfirst with
  | admitted hjournal hadmits => exact admitted_before hjournal hadmits hsecond.grows
  | spared hwrites hdesk hphase =>
    cases hsecond with
    | @admitted entries hjournal hadmits =>
      obtain ⟨front, hfront, -⟩ := hwrites
      obtain ⟨entry, hentry, hadmits⟩ := hadmits
      rw [hfront, List.append_assoc] at hjournal
      exact .admitted hjournal ⟨entry, List.mem_append_right _ hentry, hadmits⟩
    | spared hlater hsame hstays =>
      exact .spared (hwrites.trans hlater) (hsame.trans hdesk) fun hin => hphase (hstays hin)

theorem of_walk (h : Relation.ReflTransGen Spares c d) : Spares c d := by
  induction h with
  | refl => exact .refl c
  | tail _ hlast ih => exact ih.trans hlast

theorem sending {m : Message} (h : Sending w.transport c m d) : Spares c d := by
  cases h with
  | taken _ _ => exact .of_entry (delivered_journal ..) rfl rfl Phase.next_client_eq_connected
  | refused _ _ => exact .of_entry (undelivered_journal ..) rfl rfl id

theorem closeLink (c : Client σ ι) : Spares c (c.closeLink w.transport) :=
  .of_entry (closeLink_journal ..) rfl rfl id

theorem shut (c : Client σ ι) : Spares c (c.shut w.transport) := by
  rw [shut_eq]
  exact .of_entry (closeLink_journal ..) rfl rfl nofun

end Spares

/-! ## Messages of the server -/

/-- Moves add to the journal. -/
theorem grows_of_moves (h : Relation.ReflTransGen (Move w) c d) : c.journal <+: d.journal := by
  refine Session.Walks.keeps (P := fun d => c.journal <+: d.journal) h (fun _ _ hbefore hmove => ?_)
    List.prefix_rfl
  obtain ⟨entries, hjournal, -⟩ := hmove.advance.journal
  exact hbefore.trans ⟨entries, hjournal.symm⟩

/-- A message of the server that takes effect before the client is connected lets it in, or spares
its program. -/
theorem handle_spares {m : Message} (hout : c.phase ≠ .connected)
    (hnext : c.phase.next .server m ≠ .error) : Spares c ((Session.handle w m).after c) := by
  -- Only a connected client may be told of events and presence.
  have hm : ¬ m.isTraffic := fun hm => hout (Phase.eq_connected_of_traffic hm hnext)
  have hrest : Spares ((c.note (.handled m)).enter (c.phase.next .server m))
      ((Session.handle w m).after c) :=
    .of_walk (Session.handle_walks_of hm hnext Spares.closeLink fun _ _ => .sending)
  have hjournal : ((c.note (.handled m)).enter (c.phase.next .server m)).journal =
      c.journal ++ [⟨c.phase, c.isIdle, .handled m⟩] := enter_journal _ _
  by_cases hin : c.phase.next .server m = .connected
  · refine Spares.admitted_before hjournal ⟨_, List.mem_singleton_self _, ?_⟩ hrest.grows
    exact Entry.admits_iff.mpr ⟨m, rfl, hout, hin⟩
  · have hentered : (c.note (.handled m)).enter (c.phase.next .server m) =
        { c.note (.handled m) with phase := c.phase.next .server m } :=
      enter_eq _ fun h => absurd h hin
    refine Spares.trans (.of_entry hjournal rfl ?_ fun h => absurd h ?_) hrest
    · rw [hentered]
      rfl
    · rw [enter_phase]
      exact hin

/-! ## Requests -/

/-- Between two states the journal grows, and unless the client was connected, it was let in or its
program was spared. -/
structure Careful (c d : Client σ ι) : Prop where
  grows : c.journal <+: d.journal
  spares : c.phase ≠ .connected → Spares c d

namespace Careful

theorem of_spares (h : Spares c d) : Careful c d :=
  ⟨h.grows, fun _ => h⟩

theorem trans (hfirst : Careful c d) (hsecond : Careful d e) : Careful c e where
  grows := hfirst.grows.trans hsecond.grows
  spares hout := by
    cases hfirst.spares hout with
    | admitted hjournal hadmits => exact .admitted_before hjournal hadmits hsecond.grows
    | spared hwrites hdesk hphase =>
      have hstill : d.phase ≠ .connected := fun hin => hout (hphase hin)
      exact (Spares.spared hwrites hdesk hphase).trans (hsecond.spares hstill)

theorem of_walk (h : Relation.ReflTransGen Careful c d) : Careful c d := by
  induction h with
  | refl => exact .of_spares (.refl c)
  | tail _ hlast ih => exact ih.trans hlast

/-- What a client does when it is not given a command is done with care. -/
theorem suits (w : Surroundings σ ι) : Suits w (Careful (σ := σ) (ι := ι)) where
  received _ _ := .of_spares (.of_journal_eq rfl rfl id)
  heard hnext :=
    ⟨grows_of_moves (Session.handle_walks _).moved, fun hout => handle_spares hout hnext⟩
  reported _ _ := .of_spares (.of_entry (note_journal ..) rfl rfl id)
  lost _ := .of_spares (.of_journal_eq rfl rfl nofun)
  shut c := .of_spares (.shut c)
  restarted _ := by
    refine .of_spares (.of_entry (restart_journal _) rfl ?_ fun h => ?_)
    · rw [restart_eq]
      rfl
    · rw [restart_phase] at h
      cases h
  opened _ := .of_spares (.of_entry (use_journal ..) rfl rfl id)
  redirected c uri := by
    have htargeted : Spares (c.closeLink w.transport) ((c.closeLink w.transport).retarget uri) :=
      .of_entry (retarget_journal ..) rfl rfl id
    exact .of_spares ((Spares.closeLink c).trans htargeted)
  said _ hsent := .of_spares (.sending hsent)

/-- A client that empties its outbox was let in. -/
theorem flush (hin : c.phase = .connected) :
    Session.Walks Careful (Session.flush w.transport) c :=
  Relation.ReflTransGen.single
    ⟨grows_of_moves (Session.flush_walks.mono fun _ _ => Conversation.move),
      fun hout => absurd hin hout⟩

end Careful

/-- A connected client is not connected once more. -/
theorem connect_after_connected (hin : c.phase = .connected) : (Session.connect w).after c = c := by
  have hstart : (Session.startSession : Session σ ι Unit) c =
      .error (.failed (.invalidState .connect .connected)) c := by
    rw [Session.startSession_eq, hin]
  exact Session.after_of_error (Session.bind_of_error hstart)

/-- A connected client does not log in once more. -/
theorem login_after_connected (hin : c.phase = .connected) (auth : String) :
    (Session.login w auth).after c = c := by
  unfold Session.login Session.after
  rw [Session.get_bind_apply]
  dsimp only
  rw [hin]
  rfl

/-- Whatever the state it begins in, connecting, logging in or closing lets the client in, or
spares its program. -/
theorem execute_spares {request : Request ι} (h : request.servesConnection = true)
    (c : Client σ ι) : Spares c ((execute w request).after c) := by
  have hwalk {α : Type} {step : Session σ ι α} (hstep : Session.Walks Careful step c)
      (hconnected : c.phase = .connected → step.after c = c) : Spares c (step.after c) := by
    by_cases hin : c.phase = .connected
    · rw [hconnected hin]
      exact .refl c
    · exact (Careful.of_walk hstep).spares hin
  cases request with
  | connect =>
    exact (Session.after_answer _ _ c).symm ▸
      hwalk (Session.connect_suited (Careful.suits w)) connect_after_connected
  | login auth =>
    exact (Session.after_answer _ _ c).symm ▸
      hwalk (Session.login_suited (Careful.suits w) (fun _ => Careful.flush) auth)
        (login_after_connected · auth)
  | close =>
    refine (Session.after_answer _ _ c).symm ▸ ?_
    rw [Session.close_after]
    exact .shut c
  | process => cases h
  | command command =>
    cases command with
    | stimulate i => exact .of_journal_eq rfl rfl id
    | _ => cases h

theorem afterAll_spares {requests : List (Request ι)}
    (h : ∀ request ∈ requests, request.servesConnection = true) (c : Client σ ι) :
    Spares c (c.afterAll w requests) := by
  induction requests generalizing c with
  | nil => exact .refl c
  | cons request rest ih =>
    obtain ⟨hfirst, hrest⟩ := List.forall_mem_cons.mp h
    exact (execute_spares hfirst c).trans (ih hrest _)

/-- Whatever the transport does, whatever state a client is in and however often it connects, logs
in and closes: unless the server lets it in meanwhile, everything that it keeps for its program is
exactly what it was, subscriptions with their callbacks and listeners, what was emitted, those who
follow presence or wait for the users, what stands in the outbox and the next identifier; and no
callback was called. -/
theorem fruitless_sessions (c : Client σ ι) {requests : List (Request ι)}
    (hrequests : ∀ request ∈ requests, request.servesConnection = true)
    (hnever : ∀ entry ∈ (c.afterAll w requests).journal.drop c.journal.length,
      entry.admits = false) :
    (c.afterAll w requests).desk = c.desk ∧
      ∀ entry ∈ (c.afterAll w requests).journal.drop c.journal.length,
        entry.what.isInvocation = false := by
  cases afterAll_spares hrequests c with
  | admitted hjournal hadmits =>
    obtain ⟨entry, hentry, hadmits⟩ := hadmits
    rw [hjournal, List.drop_left] at hnever
    exact absurd hadmits (Bool.eq_false_iff.mp (hnever entry hentry))
  | spared hwrites hdesk _ =>
    obtain ⟨entries, hjournal, hentries⟩ := hwrites
    rw [hjournal, List.drop_left]
    exact ⟨hdesk, hentries⟩

/-! ### A guest that is turned away -/

/-- A server that refuses credentials, then speaks of news before its time, then rejects whoever
comes. -/
def unfriendly : List Script.Rule :=
  [ { on := "open", replies := [Script.frame "C|CH+"] },
    { on := "C|CHR|", uses := some 1, replies := [Script.frame "C|A+"] },
    { on := "C|CHR|", replies := [Script.frame "C|REJ+"] },
    { on := "A|REQ|", uses := some 1, replies := [Script.frame "A|E|INVALID_AUTH_DATA|Swrong+"] },
    { on := "A|REQ|", replies := [Script.frame "E|EVT|news|S1+A|A+"] } ]

/-- A guest leaves something of every kind with its client, some of it after it has closed the
connection. -/
def leaving : List (Request Script.Stimulus) :=
  [.connect, .login "auth", .command (.subscribe "news" "reader" fun _ _ => []),
    .command (.listen "n.*" "provider" (fun _ _ _ => true) fun _ _ _ => []),
    .command (.followPresence "door" fun _ _ _ => []),
    .command (.queryPresence "list" fun _ => []), .command (.emit "news" [0x54]), .close,
    .command (.emit "news" [0x46])]

/-- The server becomes unfriendly, and the guest tries to come back. -/
def comingBack : List (Request Script.Stimulus) :=
  [.command (.stimulate (.replace unfriendly)), .connect, .login "wrong", .login "auth", .close,
    .connect]

/-- The guest cannot come back, and all that it has left is still there. -/
theorem fruitless_sessions_unfriendly :
    let c := guestAfter leaving
    let d := c.afterAll hospitable comingBack
    (∃ start, Reached hospitable start c) ∧ c.outbox.length = 5 ∧ c.events.sendQueue.length = 1 ∧
      c.presence.querents.length = 1 ∧
      (run hospitable c comingBack).map (·.result.isOk) =
        [true, true, false, false, true, false] ∧
      (∀ entry ∈ d.journal.drop c.journal.length, entry.admits = false) ∧
      d.desk = c.desk ∧
      ∀ entry ∈ d.journal.drop c.journal.length, entry.what.isInvocation = false := by
  intro c d
  have hreached : ∃ start, Reached hospitable start c :=
    (Reached.created create_guest).of_allReturn (by decide +kernel)
  have hnever : ∀ entry ∈ d.journal.drop c.journal.length, entry.admits = false := by
    decide +kernel
  exact ⟨hreached, by decide +kernel, by decide +kernel, by decide +kernel, by decide +kernel,
    hnever, fruitless_sessions c (by decide +kernel) hnever⟩

end Client

end Realtime
