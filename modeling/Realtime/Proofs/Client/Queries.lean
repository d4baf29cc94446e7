import Realtime.Proofs.Client.Alternation
import Realtime.Proofs.Client.Waiting

/-!
# Asking who is there

A client asks its server for everyone who is logged in on behalf of the first who wants to know, and
again only after the server has answered. If someone waits when it comes to be connected, it asks
then. So within a session it never asks twice without an answer in between, and as long as anyone is
waiting, it has asked since the session began and since the last answer.

Results:
1. `Heeds.inquires`, `Obeys.inquires`, `queried_inquires`: what messages, commands and queries have
   a client say of the users.
2. `attend_inquires`, `minutes_inquire`: what errands do.
3. `inquiries_replayMessages`: what the replay says of them.
4. `queries_answered`: who is called when, and when the server is asked.
-/

namespace Realtime

variable {σ ι : Type}

/-! ## What is said of the users -/

/-- What is `true` is not said twice in a row. -/
def Once (before said : Bool) : Prop :=
  ¬ (before = true ∧ said = true)

/-- The client asks for the users, or the server answers. -/
def inquiry? : Party × Message → Option Bool
  | (.client, m) => if m = Client.queryMessage then some true else none
  | (.server, m) => m.users?.map fun _ => false

/-- What the server says. -/
def Errand.heard : Errand ι → List (Party × Message)
  | .message m => [(.server, m)]
  | .command _ => []

/-- What is said about the users: that they are asked for, or who they are. -/
def inquiries (lines : List (Party × Message)) : List Bool :=
  lines.filterMap inquiry?

/-- What the client says. -/
def spoken (lines : List (Party × Message)) : List Message :=
  lines.filterMap fun (party, m) => if party = .client then some m else none

theorem inquiries_append (front back : List (Party × Message)) :
    inquiries (front ++ back) = inquiries front ++ inquiries back :=
  List.filterMap_append

theorem spoken_append (front back : List (Party × Message)) :
    spoken (front ++ back) = spoken front ++ spoken back :=
  List.filterMap_append

theorem spoken_client (told : List Message) : spoken (told.map (.client, ·)) = told := by
  rw [spoken, List.filterMap_map]
  exact List.filterMap_some

theorem spoken_heard (errand : Errand ι) : spoken errand.heard = [] := by
  cases errand <;> rfl

/-- Where no one is asked for the users, nothing is said about it. -/
theorem inquiries_client {told : List Message} (h : Client.queryMessage ∉ told) :
    inquiries (told.map (.client, ·)) = [] := by
  rw [inquiries, List.filterMap_map]
  refine List.filterMap_eq_nil_iff.mpr fun m hm => if_neg ?_
  rintro rfl
  exact h hm

theorem Command.isQuery_of_wish? {command : Command ι}
    (h : command.wish? = some Client.queryMessage) : command.isQuery = true := by
  cases command with
  | queryPresence => rfl
  | stimulate => cases h
  | emitJson name text =>
    obtain ⟨data, hdata⟩ := eq_emitMessage_of_wish? h
    cases hdata
  | _ => cases h

namespace Client

open Session

variable {w : Surroundings σ ι} {c d : Client σ ι} {m : Message}

/-- Someone waits for a list of users. -/
def expectant (c : Client σ ι) : Bool :=
  !c.presence.querents.isEmpty

/-- What a message has a connected client say is a decision. -/
theorem Heeds.told (h : Heeds m c d) :
    ∃ told, d.outbox = c.outbox ++ told ∧ ∀ other ∈ told, other.isDecision := by
  have hsilent : c.outbox = c.outbox ++ [] := (List.append_nil _).symm
  obtain ⟨link, journal, hd⟩ := h.state
  rw [hd]
  cases m.notice? with
  | none => exact ⟨[], hsilent, List.forall_mem_nil _⟩
  | some notice =>
    cases notice with
    | event | users | presence => exact ⟨[], hsilent, List.forall_mem_nil _⟩
    | listened pattern name subscribed =>
      cases subscribed with
      | false => exact ⟨[], hsilent, List.forall_mem_nil _⟩
      | true =>
        refine ⟨_, rfl, fun other hother => ?_⟩
        obtain ⟨listener, -, rfl⟩ := List.mem_map.mp hother
        dsimp only [decision]
        split <;> rfl

/-- What is said while a client attends to some errands: what the server says in messages, and what
the client puts in its outbox. -/
def minutes (w : Surroundings σ ι) (c : Client σ ι) : List (Errand ι) → List (Party × Message)
  | [] => []
  | errand :: later =>
    let d := (attend w errand).after c
    errand.heard ++ (d.outbox.drop c.outbox.length).map (.client, ·) ++ d.minutes w later

/-- Between two states of a connected client, these lines were said, and the server was asked as
soon as someone was waiting for it to answer, and not twice. -/
structure Inquires (c : Client σ ι) (lines : List (Party × Message)) (d : Client σ ι) : Prop where
  outbox : d.outbox = c.outbox ++ spoken lines
  swings : Swings Once c.expectant (inquiries lines) d.expectant

theorem Inquires.trans {e : Client σ ι} {front back : List (Party × Message)}
    (hfirst : Inquires c front d) (hsecond : Inquires d back e) : Inquires c (front ++ back) e where
  outbox := by rw [hsecond.outbox, hfirst.outbox, spoken_append, List.append_assoc]
  swings := by
    rw [inquiries_append]
    exact hfirst.swings.append hsecond.swings

/-- It is enough to know what has come to the outbox. -/
theorem Inquires.of_told {errand : Errand ι} {told : List Message}
    (houtbox : d.outbox = c.outbox ++ told)
    (hswings : Swings Once c.expectant
      (inquiries errand.heard ++ inquiries (told.map (.client, ·))) d.expectant) :
    Inquires c (errand.heard ++ (d.outbox.drop c.outbox.length).map (.client, ·)) d where
  outbox := by
    rw [spoken_append, spoken_heard, spoken_client, List.nil_append, houtbox, List.drop_left]
  swings := by
    rw [inquiries_append, houtbox, List.drop_left]
    exact hswings

/-- If the server answers, no one waits any more. Other messages make no difference. -/
theorem Heeds.inquires (h : Heeds m c d) :
    Inquires c ((Errand.message m : Errand ι).heard ++
      (d.outbox.drop c.outbox.length).map (.client, ·)) d := by
  obtain ⟨told, houtbox, hdecisions⟩ := h.told
  have hquery : queryMessage ∉ told := fun hmem => by cases hdecisions _ hmem
  have hexpectant : d.expectant = if m.users?.isSome then false else c.expectant := by
    rw [expectant, h.querents]
    split <;> rfl
  refine .of_told houtbox ?_
  rw [inquiries_client hquery, List.append_nil, hexpectant]
  cases husers : m.users? with
  | none =>
    have hnothing : inquiries (Errand.message m : Errand ι).heard = [] := by
      simp [inquiries, Errand.heard, inquiry?, husers]
    rw [hnothing]
    exact .still _ _
  | some users =>
    have hanswered : inquiries (Errand.message m : Errand ι).heard = [false] := by
      simp [inquiries, Errand.heard, inquiry?, husers]
    rw [hanswered]
    exact .single fun htwice => nomatch htwice.2

/-- Who asks has the server asked, unless someone waits already. -/
theorem queried_inquires (t : Transport σ ι) (run : Runner σ ι) (hin : c.phase = .connected)
    (tag : String) (react : List String → List (Command ι)) :
    let d := (perform t run (.queryPresence tag react)).after c
    ∃ told, d.outbox = c.outbox ++ told ∧
      Swings Once c.expectant (inquiries (told.map (.client, ·))) d.expectant := by
  intro d
  have hwaits : d.expectant = true := by
    rw [expectant, queried_querents]
    simp
  refine ⟨_, queried_outbox t run hin tag react, ?_⟩
  rw [hwaits]
  cases hempty : c.presence.querents.isEmpty with
  | true =>
    have hnobody : c.expectant = false := congrArg (!·) hempty
    rw [hnobody]
    exact .single fun htwice => nomatch htwice.1
  | false =>
    have hothers : c.expectant = true := congrArg (!·) hempty
    rw [hothers]
    exact .still _ _

/-- Other commands have nothing to do with it. -/
theorem Obeys.inquires {command : Command ι} (h : Obeys command c d)
    (hother : command.isQuery = false) :
    ∃ told, d.outbox = c.outbox ++ told ∧
      Swings Once c.expectant (inquiries (told.map (.client, ·))) d.expectant := by
  obtain ⟨told, houtbox, hwish⟩ := h.told
  have hnone : queryMessage ∉ told := fun hmem => by
    rw [Command.isQuery_of_wish? (hwish _ hmem)] at hother
    cases hother
  have hsame : d.expectant = c.expectant := by
    rw [expectant, h.querents hother]
    rfl
  refine ⟨told, houtbox, ?_⟩
  rw [inquiries_client hnone, hsame]
  exact .still _ _

/-- What an errand has a client say about the users. -/
theorem attend_inquires (hpatience : 0 < w.patience) (hin : c.phase = .connected) (hidle : c.Idle)
    {errand : Errand ι} (herrand : errand.IsIdle) :
    let d := (attend w errand).after c
    Inquires c (errand.heard ++ (d.outbox.drop c.outbox.length).map (.client, ·)) d := by
  intro d
  cases errand with
  | message m => exact (handle_heeds hpatience hin hidle m).inquires
  | command command =>
    have hattended : d = (perform w.transport (runner w) command).after c := after_answer _ _ _
    have hsaid : ∃ told, d.outbox = c.outbox ++ told ∧
        Swings Once c.expectant (inquiries (told.map (.client, ·))) d.expectant := by
      rw [hattended]
      cases hquery : command.isQuery with
      | false =>
        exact (perform_obeys hpatience hidle (herrand command · rfl)).inquires hquery
      | true =>
        cases command with
        | queryPresence tag react => exact queried_inquires w.transport (runner w) hin tag react
        | _ => cases hquery
    obtain ⟨told, houtbox, hswings⟩ := hsaid
    exact .of_told houtbox hswings

/-- Some errands one after the other. -/
theorem minutes_inquire (hpatience : 0 < w.patience) (hin : c.phase = .connected) (hidle : c.Idle)
    {errands : List (Errand ι)} (herrands : ∀ errand ∈ errands, errand.IsIdle) :
    Inquires c (c.minutes w errands) (c.busied w errands) := by
  induction errands generalizing c with
  | nil => exact ⟨(List.append_nil _).symm, .still _ _⟩
  | cons errand rest ih =>
    obtain ⟨hfirst, hrest⟩ := List.forall_mem_cons.mp herrands
    exact (attend_inquires hpatience hin hidle hfirst).trans
      (ih (phase_attend hin errand) (idle_attend hpatience hin hidle hfirst) hrest)

/-- A client that comes to be connected asks for the users if someone waits for them, and once. -/
theorem inquiries_replayMessages (hemits : ∀ m ∈ c.events.sendQueue, m.isEmit) :
    inquiries (c.replayMessages.map (.client, ·)) = if c.expectant then [true] else [] := by
  have hothers : queryMessage ∉ c.events.subscriptions.names.map (eventMessage .subscribe) ++
      c.events.listeners.names.map (eventMessage .listen) ++ c.events.sendQueue ++
      (if c.presence.subscriptions = [] then [] else [presenceMessage .subscribe]) := by
    intro hmem
    simp only [List.mem_append, List.mem_map] at hmem
    obtain ((⟨name, -, hname⟩ | ⟨pattern, -, hpattern⟩) | hqueued) | hfollow := hmem
    · cases hname
    · cases hpattern
    · cases hemits _ hqueued
    · split at hfollow
      · cases hfollow
      · cases List.mem_singleton.mp hfollow
  rw [replayMessages, List.map_append, inquiries_append, inquiries_client hothers, expectant]
  cases c.presence.querents <;> rfl

/-- What a session says about the users, from the replay on. -/
theorem session_inquires {start : Nat} (hpatience : 0 < w.patience) (h : Reached w start c)
    (hidle : c.Idle) {errands : List (Errand ι)} (herrands : ∀ errand ∈ errands, errand.IsIdle) :
    let d := c.welcomed.busied w errands
    let lines := c.replayMessages.map (.client, ·) ++ c.welcomed.minutes w errands
    d.outbox = c.outbox ++ spoken lines ∧
      Swings Once false (inquiries lines) d.expectant := by
  intro d lines
  have hbooks : SameBooks c c.welcomed := ⟨rfl, rfl, rfl, fun _ => id, rfl⟩
  have hwelcomed := hbooks.idle hidle
  have hlater := minutes_inquire hpatience (c := c.welcomed) rfl hwelcomed herrands
  have hfirst : Swings Once false (inquiries (c.replayMessages.map (.client, ·)))
      c.welcomed.expectant := by
    rw [inquiries_replayMessages h.conserved.emits]
    show Swings _ false (if c.expectant then [true] else []) c.expectant
    cases c.expectant with
    | false => exact .still _ _
    | true => exact .single fun htwice => nomatch htwice.1
  refine ⟨?_, ?_⟩
  · rw [spoken_append, spoken_client, ← List.append_assoc]
    exact hlater.outbox
  · rw [inquiries_append]
    exact hfirst.append hlater.swings

/-- What becomes of those who ask for the users, if callbacks ask for nothing.

Whatever a program asks of a client, and whatever its server and its transport do: those who wait
already and those who ask are called once each with the first list that comes from then on, in the
order in which they have asked; who gets none is waiting in the end; and when a list comes, those
who wait for it are called right then.

In a session of a client, from the replay on and while it attends to whatever commands and
messages: it does not ask the server twice without an answer in between, and if anyone is waiting
in the end, it has asked since the session began and since the last answer. It does not subscribe
to presence twice without unsubscribing in between, and the last that it said of presence is that
it subscribes if and only if someone follows presence. -/
theorem queries_answered (hpatience : 0 < w.patience) :
    (∀ (c : Client σ ι) (requests : List (Request ι)), c.Idle →
      (∀ request ∈ requests, request.IsIdle) →
      let d := requests.foldl (fun c request => (execute w request).after c) c
      let record := c.waiting.map Moment.asked ++ c.chronicle w requests
      record.filterMap Moment.called? = Moment.answered record ∧
      d.waiting = Moment.unanswered record ∧
      ∀ front users back, record = front ++ Moment.heard users :: back →
        (Moment.unanswered front).map (Moment.called · users) <+: back) ∧
    ∀ (c : Client σ ι) (start : Nat) (errands : List (Errand ι)), Reached w start c → c.Idle →
      (∀ errand ∈ errands, errand.IsIdle) →
      let d := c.welcomed.busied w errands
      let lines := c.replayMessages.map (.client, ·) ++ c.welcomed.minutes w errands
      d.outbox = c.outbox ++ spoken lines ∧
      (inquiries lines).IsChain Once ∧
      (d.presence.querents ≠ [] → (inquiries lines).getLast? = some true) ∧
      (sayings .presence (spoken lines)).IsChain Once ∧
      ((sayings .presence (spoken lines)).getLast? = some true ↔
        d.presence.subscriptions ≠ []) := by
  constructor
  · intro c requests hidle hrequests d record
    have hanswers := chronicle_answers hpatience hidle hrequests
    exact ⟨hanswers.calls, hanswers.left_eq, fun front users back => hanswers.prompt⟩
  · intro c start errands hreached hidle herrands d lines
    obtain ⟨houtbox, hinquiries⟩ := session_inquires hpatience hreached hidle herrands
    obtain ⟨told, htold, hsayings⟩ := session_swings hreached errands
    obtain rfl : told = spoken lines := List.append_cancel_left (htold.symm.trans houtbox)
    have hpresence := hsayings .presence
    have honce {before said : Bool} (h : Subject.presence.Next before said) :
        Once before said := by
      rintro ⟨rfl, rfl⟩
      simp [Subject.Next] at h
    refine ⟨houtbox, hinquiries.chain.tail, fun hwaiting => ?_,
      (hpresence.chain.imp fun _ _ => honce).tail, hpresence.getLast?_eq_iff.trans ?_⟩
    · refine hinquiries.getLast?_eq_iff.mpr ?_
      rw [expectant]
      simpa using hwaiting
    · show (!d.presence.subscriptions.isEmpty) = true ↔ _
      simp

/-- Two ask before there is a connection. The server sends a list, and one more asks. -/
def asking : List (Request Script.Stimulus) :=
  [ .command (.queryPresence "first" fun _ => []),
    .command (.queryPresence "second" fun _ => []),
    .connect, .login "auth",
    .command (.stimulate (.deliver [Script.frame "U|Q|alice|bob+"])), .process,
    .command (.queryPresence "third" fun _ => []) ]

theorem idle_asking : ∀ request ∈ asking, request.IsIdle := by
  simp [asking, Request.isIdle_iff, Command.isIdle_iff]

/-- One asks and one follows presence before there is a connection. -/
def curious : Client Script Script.Stimulus :=
  guestAfter
    [ .command (.queryPresence "first" fun _ => []),
      .command (.followPresence "watcher" fun _ _ _ => []) ]

/-- While there is one, another asks, and the server answers. The program ceases to follow presence,
and says so again. Then two ask once more, and someone follows presence anew. -/
def curiosities : List (Errand Script.Stimulus) :=
  [ .command (.queryPresence "second" fun _ => []),
    .message (.plain .presence .query [Utf8.encode "alice"]),
    .command .unfollowAllPresence,
    .command .unfollowAllPresence,
    .command (.queryPresence "third" fun _ => []),
    .command (.queryPresence "fourth" fun _ => []),
    .command (.followPresence "other" fun _ _ _ => []) ]

theorem idle_curious : curious.Idle :=
  idle_guestAfter (by simp [Request.isIdle_iff, Command.isIdle_iff])

theorem idle_curiosities : ∀ errand ∈ curiosities, errand.IsIdle := by
  simp [curiosities, Errand.isIdle_iff, Command.isIdle_iff]

theorem queries_answered_asking :
    let record := guest.waiting.map Moment.asked ++ guest.chronicle hospitable asking
    let d := curious.welcomed.busied hospitable curiosities
    let lines := curious.replayMessages.map (.client, ·) ++
      curious.welcomed.minutes hospitable curiosities
    (guestAfter asking).waiting = ["third"] ∧
      record.filterMap Moment.called? =
        [("first", ["alice", "bob"]), ("second", ["alice", "bob"])] ∧
      (∃ front back, record = front ++ Moment.heard ["alice", "bob"] :: back ∧
        [ Moment.called "first" ["alice", "bob"],
          Moment.called "second" ["alice", "bob"] ] <+: back) ∧
      (∃ start, Reached hospitable start curious) ∧ curious.Idle ∧
      d.presence.querents ≠ [] ∧ inquiries lines = [true, false, true] ∧
      (inquiries lines).IsChain Once ∧ (inquiries lines).getLast? = some true ∧
      sayings .presence (spoken lines) = [true, false, false, true] ∧
      (sayings .presence (spoken lines)).IsChain Once ∧ d.presence.subscriptions ≠ [] := by
  intro record d lines
  have hguest : (guestAfter []).Idle := idle_guestAfter (List.forall_mem_nil _)
  obtain ⟨start, hreached⟩ : ∃ start, Reached hospitable start curious :=
    (Reached.created create_guest).of_allReturn (by decide +kernel)
  obtain ⟨hrequests, hsession⟩ :=
    queries_answered (σ := Script) (w := hospitable) (by decide)
  obtain ⟨hcalled, hleft, hprompt⟩ := hrequests guest asking hguest idle_asking
  obtain ⟨-, hinquiries, hexpectant, hsayings, hfollowed⟩ :=
    hsession curious start curiosities hreached idle_curious idle_curiosities
  have hrecord : record = [.asked "first", .asked "second"] ++ .heard ["alice", "bob"] ::
      [.called "first" ["alice", "bob"], .called "second" ["alice", "bob"], .asked "third"] := by
    decide +kernel
  have hanswered : Moment.answered record =
      [("first", ["alice", "bob"]), ("second", ["alice", "bob"])] := by
    rw [hrecord]
    rfl
  have hunanswered : Moment.unanswered record = ["third"] := by
    rw [hrecord]
    rfl
  have hquerents : d.presence.querents ≠ [] := by
    have hnonempty : d.presence.querents.isEmpty = false := by decide +kernel
    rwa [ne_eq, ← List.isEmpty_iff, Bool.not_eq_true]
  have hpresence : sayings .presence (spoken lines) = [true, false, false, true] := by
    decide +kernel
  refine ⟨hleft.trans hunanswered, hcalled.trans hanswered, ⟨_, _, hrecord, hprompt _ _ _ hrecord⟩,
    ⟨start, hreached⟩, idle_curious, hquerents, by decide +kernel, hinquiries,
    hexpectant hquerents, hpresence, hsayings, hfollowed.mp ?_⟩
  rw [hpresence]
  rfl

end Client

end Realtime
