import Mathlib.Data.List.Basic
import Realtime.Proofs.Client.Errands

/-!
# Waiting for a list of users

Whoever asks a client for everyone who is logged in waits, across sessions, until the server sends a
list. All who wait are called then, in the order in which they have asked, and no longer wait.

This is said of a record that does not tell what the client holds: who asks, which lists come, and
who is called, in the order in which it happens. Whoever asks gets the first list that comes from
then on, and the record has to agree with that: `Answers` reads it from the front, and keeps count
of those who wait.

Results:
1. `Answers.calls`, `Answers.left_eq`, `Answers.prompt`: what a record says of those who ask.
2. `Routine.serves`: what is routine does for those who wait.
3. `perform_answers`, `execute_answers`, `chronicle_answers`: the record of a command, of any request,
   and of some requests.
-/

namespace Realtime

variable {σ ι : Type}

/-! ## Records -/

/-- What happens to those who ask for the users. -/
inductive Moment where
  | asked (tag : String)
  /-- The server sends a list of users. -/
  | heard (users : List String)
  | called (tag : String) (users : List String)
  deriving DecidableEq, Repr

namespace Moment

def heard? : Moment → Option (List String)
  | .heard users => some users
  | _ => none

def called? : Moment → Option (String × List String)
  | .called tag users => some (tag, users)
  | _ => none

/-- Everyone who asks, with the first list that comes from then on, if there is one. -/
def replies : List Moment → List (String × Option (List String))
  | [] => []
  | .asked tag :: later => (tag, later.findSome? heard?) :: replies later
  | .heard _ :: later | .called _ _ :: later => replies later

/-- The lists that those get who ask. -/
def answered (moments : List Moment) : List (String × List String) :=
  (replies moments).filterMap fun (tag, reply) => reply.map (tag, ·)

/-- Those who ask and get no list. -/
def unanswered (moments : List Moment) : List String :=
  (replies moments).filterMap fun (tag, reply) => if reply.isNone then some tag else none

/-- Those who ask after one another all get the list that comes next. -/
theorem replies_asked (tags : List String) (later : List Moment) :
    replies (tags.map asked ++ later) = tags.map (·, later.findSome? heard?) ++ replies later := by
  induction tags with
  | nil => rfl
  | cons tag rest ih =>
    have hskipped : (rest.map asked ++ later).findSome? heard? = later.findSome? heard? := by
      rw [List.findSome?_append, List.findSome?_eq_none_iff.mpr, Option.none_or]
      intro moment hmoment
      obtain ⟨_, _, rfl⟩ := List.mem_map.mp hmoment
      rfl
    rw [List.map_cons, List.cons_append, replies, ih, hskipped]
    rfl

/-- A list goes to all who are waiting when it comes. -/
theorem replies_heard (tags users : List String) (later : List Moment) :
    replies (tags.map asked ++ (heard users :: tags.map (called · users) ++ later)) =
      tags.map (·, some users) ++ replies later := by
  have hcalled (others : List String) :
      replies (others.map (called · users) ++ later) = replies later := by
    induction others with
    | nil => rfl
    | cons _ _ ih => exact ih
  rw [replies_asked, List.cons_append, replies, hcalled]
  rfl

/-- As long as no list comes, everyone waits. -/
theorem answered_asked (tags : List String) : answered (tags.map asked) = [] := by
  have hreplies := replies_asked tags []
  rw [List.append_nil] at hreplies
  rw [answered, hreplies]
  simp [replies]

theorem unanswered_asked (tags : List String) : unanswered (tags.map asked) = tags := by
  have hreplies := replies_asked tags []
  rw [List.append_nil] at hreplies
  rw [unanswered, hreplies]
  simp [replies, List.filterMap_map]

theorem answered_heard (tags users : List String) (later : List Moment) :
    answered (tags.map asked ++ (heard users :: tags.map (called · users) ++ later)) =
      tags.map (·, users) ++ answered later := by
  rw [answered, replies_heard, List.filterMap_append]
  simp [answered, List.filterMap_map]

theorem unanswered_heard (tags users : List String) (later : List Moment) :
    unanswered (tags.map asked ++ (heard users :: tags.map (called · users) ++ later)) =
      unanswered later := by
  rw [unanswered, replies_heard, List.filterMap_append]
  simp [unanswered, List.filterMap_map]

theorem calls_asked (tags : List String) : (tags.map asked).filterMap called? = [] := by
  rw [List.filterMap_map]
  exact List.filterMap_eq_nil_iff.mpr fun _ _ => rfl

theorem calls_called (tags users : List String) :
    (tags.map (called · users)).filterMap called? = tags.map (·, users) := by
  rw [List.filterMap_map]
  exact congrFun List.filterMap_eq_map tags

/-- No list comes while people ask and are called. -/
theorem eq_append_of_heard {quiet front back rest : List Moment} {users : List String}
    (hquiet : ∀ moment ∈ quiet, moment.heard? = none)
    (h : quiet ++ rest = front ++ heard users :: back) :
    ∃ middle, front = quiet ++ middle ∧ rest = middle ++ heard users :: back := by
  obtain ⟨middle, hfront, hrest⟩ | ⟨middle, hsplit, hback⟩ := List.append_eq_append_iff.mp h
  · exact ⟨middle, hfront, hrest⟩
  · cases middle with
    | nil => exact ⟨[], by rw [hsplit, List.append_nil, List.append_nil], hback.symm⟩
    | cons moment others =>
      obtain ⟨rfl, -⟩ := List.cons.inj hback
      have hmem : heard users ∈ quiet :=
        hsplit ▸ List.mem_append_right _ List.mem_cons_self
      cases hquiet _ hmem

end Moment

/-- From those who are waiting, through what happens, to those who are waiting then: a list that
comes is given to all who wait for it, at once and in their order. -/
inductive Answers : List String → List Moment → List String → Prop
  | done (waiting : List String) : Answers waiting [] waiting
  | asked {waiting left : List String} {tag : String} {later : List Moment} :
      Answers (waiting ++ [tag]) later left → Answers waiting (.asked tag :: later) left
  | heard {waiting left users : List String} {later : List Moment} :
      Answers [] later left →
      Answers waiting (.heard users :: waiting.map (.called · users) ++ later) left

namespace Answers

open Moment

variable {waiting middle left : List String} {moments others : List Moment}

theorem trans (hfirst : Answers waiting moments middle) (hsecond : Answers middle others left) :
    Answers waiting (moments ++ others) left := by
  induction hfirst with
  | done => exact hsecond
  | asked _ ih => exact .asked (ih hsecond)
  | heard _ ih =>
    rw [List.append_assoc]
    exact .heard (ih hsecond)

/-- The calls are those that are owed, in the order in which people have asked. -/
theorem calls (h : Answers waiting moments left) :
    (waiting.map Moment.asked ++ moments).filterMap called? =
      answered (waiting.map Moment.asked ++ moments) := by
  induction h with
  | done waiting => rw [List.append_nil, answered_asked, calls_asked]
  | asked _ ih => simpa using ih
  | @heard waiting left users later _ ih =>
    have hlater : later.filterMap called? = answered later := ih
    rw [answered_heard, List.filterMap_append, calls_asked, List.cons_append,
      List.filterMap_cons_none rfl, List.filterMap_append, calls_called, hlater]
    rfl

/-- Those are left who have asked since the last list came. -/
theorem left_eq (h : Answers waiting moments left) :
    left = unanswered (waiting.map Moment.asked ++ moments) := by
  induction h with
  | done waiting => rw [List.append_nil, unanswered_asked]
  | asked _ ih => simpa using ih
  | heard _ ih => rw [unanswered_heard, ih]; rfl

/-- When a list comes, those who are waiting for it are called with it right then. -/
theorem prompt (h : Answers waiting moments left) {front back : List Moment} {users : List String}
    (hsplit : waiting.map Moment.asked ++ moments = front ++ Moment.heard users :: back) :
    (unanswered front).map (called · users) <+: back := by
  have hasked (tags : List String) : ∀ moment ∈ tags.map Moment.asked, moment.heard? = none := by
    intro moment hmoment
    obtain ⟨_, _, rfl⟩ := List.mem_map.mp hmoment
    rfl
  have hcalled (tags list : List String) :
      ∀ moment ∈ tags.map (called · list), moment.heard? = none := by
    intro moment hmoment
    obtain ⟨_, _, rfl⟩ := List.mem_map.mp hmoment
    rfl
  induction h generalizing front with
  | done waiting =>
    obtain ⟨middle, -, hnone⟩ := eq_append_of_heard (hasked waiting) hsplit
    simp at hnone
  | asked _ ih => exact ih (by simpa using hsplit)
  | @heard waiting left list later _ ih =>
    obtain ⟨middle, rfl, hrest⟩ := eq_append_of_heard (hasked waiting) hsplit
    cases middle with
    | nil =>
      -- It is the list that comes first.
      obtain ⟨hsame, rfl⟩ := List.cons.inj hrest
      cases hsame
      rw [List.append_nil, unanswered_asked]
      exact List.prefix_append _ _
    | cons moment middle =>
      obtain ⟨rfl, hlater⟩ := List.cons.inj hrest
      obtain ⟨rest, rfl, hlast⟩ := eq_append_of_heard (hcalled waiting list) hlater
      rw [← List.cons_append, unanswered_heard]
      exact ih hlast

end Answers

/-! ## The record of a client -/

namespace Message

/-- The list of users that a message of the server brings. -/
def users? (m : Message) : Option (List String) :=
  if m.header = ⟨.presence, .query, false⟩ then some (m.arguments.map Utf8.lossy) else none

theorem users?_eq_some {m : Message} {users : List String} (h : m.users? = some users) :
    m.isTraffic ∧ m.notice? = some (.users users) := by
  obtain ⟨header, arguments⟩ := m
  unfold users? at h
  split at h
  · next hheader =>
    obtain rfl : header = _ := hheader
    cases h
    exact ⟨rfl, rfl⟩
  · cases h

theorem notice?_of_users?_none {m : Message} (h : m.users? = none) (users : List String) :
    m.notice? ≠ some (.users users) := by
  intro hnotice
  have hheader : m.header ≠ ⟨.presence, .query, false⟩ := by
    intro hsame
    rw [users?, if_pos hsame] at h
    cases h
  unfold notice? at hnotice
  split at hnotice
  · cases hnotice
  · cases hnotice
  · cases hnotice
  · next hsame => exact hheader hsame
  · cases hnotice
  · cases hnotice
  · cases hnotice

end Message

def Invocation.moment? : Invocation → Option Moment
  | .users tag list => some (.called tag list)
  | _ => none

def Occurrence.moment? : Occurrence ι → Option Moment
  | .handled m => m.users?.map .heard
  | .invoked i => i.moment?
  | _ => none

/-- Who asks for the users, in so many words. -/
def Request.questions : Request ι → List Moment
  | .command (.queryPresence tag _) => [.asked tag]
  | _ => []

namespace Client

/-- What was done for those who ask. -/
def moments (whats : List (Occurrence ι)) : List Moment :=
  whats.filterMap Occurrence.moment?

/-- Those who wait for a list of users. -/
def waiting (c : Client σ ι) : List String :=
  c.presence.querents.map (·.tag)

/-- The record of some requests: who asks, and what is done meanwhile for those who ask. -/
def chronicle (w : Surroundings σ ι) (c : Client σ ι) : List (Request ι) → List Moment
  | [] => []
  | request :: later =>
    let d := (execute w request).after c
    request.questions ++ moments (d.history.drop c.history.length) ++ d.chronicle w later

variable {w : Surroundings σ ι} {c d e : Client σ ι} {m : Message}

theorem waiting_eq (h : d.presence.querents = c.presence.querents) : d.waiting = c.waiting :=
  congrArg (List.map Querent.tag) h

theorem moments_append (front back : List (Occurrence ι)) :
    moments (front ++ back) = moments front ++ moments back :=
  List.filterMap_append

/-- Where no message takes effect, there are but calls. -/
theorem moments_of_unhandled {whats : List (Occurrence ι)}
    (h : whats.filterMap Occurrence.handled? = []) :
    moments whats = (invocations whats).filterMap Invocation.moment? := by
  rw [invocations, List.filterMap_filterMap]
  refine List.filterMap_congr fun what hwhat => ?_
  cases what with
  | handled m => cases List.filterMap_eq_nil_iff.mp h _ hwhat
  | _ => rfl

theorem moments_of_news {list : List Invocation} (h : ∀ i ∈ list, i.isNews) :
    list.filterMap Invocation.moment? = [] := by
  refine List.filterMap_eq_nil_iff.mpr fun i hi => ?_
  cases i with
  | users => cases h _ hi
  | _ => rfl

/-- A list of users calls everyone who waits for one. -/
theorem moments_calledBy_users (users : List String) :
    (c.calledBy (.users users)).filterMap Invocation.moment? = c.waiting.map (.called · users) := by
  rw [calledBy, waiting, List.filterMap_map, List.map_map]
  exact congrFun (List.filterMap_eq_map (f := fun q : Querent ι => Moment.called q.tag users)) _

/-- Nothing else does. -/
theorem moments_calledBy_other {notice : Notice} (h : ∀ users, notice ≠ .users users) :
    (c.calledBy notice).filterMap Invocation.moment? = [] := by
  refine List.filterMap_eq_nil_iff.mpr fun i hi => ?_
  cases notice with
  | users users => exact absurd rfl (h users)
  | event | listened | presence =>
    obtain ⟨_, -, rfl⟩ := List.mem_map.mp hi
    rfl

/-- Who asks waits, behind those who wait already. -/
theorem queried_querents (t : Transport σ ι) (run : Session.Runner σ ι) (c : Client σ ι)
    (tag : String) (react : List String → List (Command ι)) :
    ((Session.perform t run (.queryPresence tag react)).after c).presence.querents =
      c.presence.querents ++ [⟨tag, react⟩] := by
  rw [Session.perform, Session.after_answer, Session.queryPresence_after]
  dsimp only
  split
  · unfold post
    split <;> rfl
  · rfl

/-- The server is asked on behalf of the first. -/
theorem queried_outbox (t : Transport σ ι) (run : Session.Runner σ ι)
    (hin : c.phase = .connected) (tag : String) (react : List String → List (Command ι)) :
    ((Session.perform t run (.queryPresence tag react)).after c).outbox =
      c.outbox ++ if c.presence.querents.isEmpty then [queryMessage] else [] := by
  rw [Session.perform, Session.after_answer, Session.queryPresence_after]
  dsimp only
  split
  · have hstill : (c.withQuerents (c.presence.querents ++ [⟨tag, react⟩])).phase = .connected := hin
    rw [post_of_connected _ hstill]
    rfl
  · exact (List.append_nil _).symm

/-- Between two states, everyone was answered who was due. -/
def Serves (c d : Client σ ι) : Prop :=
  ∃ whats, d.history = c.history ++ whats ∧ Answers c.waiting (moments whats) d.waiting

namespace Serves

/-- Nothing was done for those who ask. -/
theorem silent {whats : List (Occurrence ι)} (hhistory : d.history = c.history ++ whats)
    (hnone : moments whats = []) (hquerents : d.presence.querents = c.presence.querents) :
    Serves c d := by
  refine ⟨whats, hhistory, ?_⟩
  rw [hnone, waiting_eq hquerents]
  exact .done _

theorem refl (c : Client σ ι) : Serves c c :=
  silent (List.append_nil _).symm rfl rfl

theorem trans (hfirst : Serves c d) (hsecond : Serves d e) : Serves c e := by
  obtain ⟨early, hearly, hfront⟩ := hfirst
  obtain ⟨late, hlate, hback⟩ := hsecond
  refine ⟨early ++ late, by rw [hlate, hearly, List.append_assoc], ?_⟩
  rw [moments_append]
  exact hfront.trans hback

end Serves

theorem Heeds.querents (h : Heeds m c d) :
    d.presence.querents = if m.users?.isSome then [] else c.presence.querents := by
  obtain ⟨link, journal, hd⟩ := h.state
  rw [hd]
  cases husers : m.users? with
  | some users =>
    rw [(Message.users?_eq_some husers).2]
    rfl
  | none =>
    cases hnotice : m.notice? with
    | none => rfl
    | some notice =>
      cases notice with
      | users users => exact absurd hnotice (Message.notice?_of_users?_none husers users)
      | listened pattern name subscribed => cases subscribed <;> rfl
      | event | presence => rfl

/-- A message that brings a list has everyone called who waits for one. -/
theorem Heeds.serves (h : Heeds m c d) : Serves c d := by
  obtain ⟨whats, hhistory, hunhandled, hcalls⟩ := h.history
  have hquerents := h.querents
  have hmoments : moments (.handled m :: whats) = (m.users?.map Moment.heard).toList ++
      (invocations whats).filterMap Invocation.moment? := by
    rw [← moments_of_unhandled hunhandled]
    cases husers : m.users? with
    | none => simp [moments, Occurrence.moment?, husers]
    | some users => simp [moments, Occurrence.moment?, husers]
  refine ⟨_, hhistory, ?_⟩
  rw [hmoments, hcalls]
  cases husers : m.users? with
  | some users =>
    rw [husers] at hquerents
    have hnobody : d.waiting = [] := congrArg (List.map Querent.tag) hquerents
    have hheard : Answers c.waiting (.heard users :: c.waiting.map (.called · users) ++ []) [] :=
      .heard (.done [])
    rw [(Message.users?_eq_some husers).2, hnobody]
    show Answers _ (.heard users :: (c.calledBy (.users users)).filterMap Invocation.moment?) []
    rwa [moments_calledBy_users, ← List.append_nil (_ :: _)]
  | none =>
    have hnone : ((m.notice?.map c.calledBy).getD []).filterMap Invocation.moment? = [] := by
      cases hnotice : m.notice? with
      | none => rfl
      | some notice =>
        refine moments_calledBy_other fun users hsame => ?_
        exact Message.notice?_of_users?_none husers users (hsame ▸ hnotice)
    rw [husers] at hquerents
    rw [hnone, waiting_eq hquerents]
    exact .done _

theorem Upkeep.serves (h : Upkeep c d) : Serves c d := by
  obtain ⟨whats, hhistory, hupkeep⟩ := h.history
  refine .silent hhistory (List.filterMap_eq_nil_iff.mpr fun what hwhat => ?_) h.querents
  have hwhat := hupkeep what hwhat
  cases what with
  | handled | invoked => cases hwhat
  | _ => rfl

section Serving

variable (hpatience : 0 < w.patience)
include hpatience

theorem Routine.serves (h : Routine w c d) (hidle : c.Idle) : Serves c d := by
  obtain ⟨m, hnext, rfl⟩ | hupkeep := h.heard_or_upkeep
  · by_cases hin : c.phase = .connected
    · exact (Session.handle_heeds hpatience hin hidle m).serves
    · have htraffic : ¬ m.isTraffic := fun htraffic =>
        hin (Phase.eq_connected_of_traffic htraffic hnext)
      have hnone : m.users? = none := Option.eq_none_iff_forall_ne_some.mpr fun users husers =>
        htraffic (Message.users?_eq_some husers).1
      have hnoted : Serves c (c.note (.handled m)) :=
        .silent (note_history ..) (by simp [moments, Occurrence.moment?, hnone]) rfl
      exact hnoted.trans (handle_upkeep htraffic hnext).serves
  · exact hupkeep.serves

/-- A command answers no one. Whoever asks waits then, behind the others. -/
theorem perform_answers (hidle : c.Idle) {command : Command ι} (hcommand : command.IsIdle) :
    let d := (Session.perform w.transport (Session.runner w) command).after c
    Answers c.waiting ((Request.command command).questions ++
      moments (d.history.drop c.history.length)) d.waiting := by
  intro d
  have hobeys : Obeys command c d := Session.perform_obeys hpatience hidle hcommand
  obtain ⟨whats, hhistory, hown, hnews⟩ := hobeys.history
  have hunhandled : whats.filterMap Occurrence.handled? = [] := by
    refine List.filterMap_eq_nil_iff.mpr fun what hwhat => ?_
    cases hown what hwhat <;> rfl
  rw [hhistory, List.drop_left, moments_of_unhandled hunhandled, moments_of_news hnews,
    List.append_nil]
  cases command with
  | queryPresence tag react =>
    have hqueried : d.presence.querents = c.presence.querents ++ [⟨tag, react⟩] :=
      queried_querents w.transport (Session.runner w) c tag react
    have hasked : d.waiting = c.waiting ++ [tag] :=
      (congrArg (List.map Querent.tag) hqueried).trans List.map_append
    rw [hasked]
    exact .asked (.done _)
  | _ =>
    rw [waiting_eq (hobeys.querents rfl)]
    exact .done _

/-- What a request leads to for those who ask. -/
theorem execute_answers (hidle : c.Idle) {request : Request ι} (hrequest : request.IsIdle) :
    let d := (execute w request).after c
    Answers c.waiting (request.questions ++ moments (d.history.drop c.history.length))
      d.waiting := by
  intro d
  by_cases hcommand : ∃ command, request = .command command
  · obtain ⟨command, rfl⟩ := hcommand
    exact perform_answers hpatience hidle (hrequest command · rfl)
  · have hwalk := execute_routine (w := w) (fun command hsame => hcommand ⟨command, hsame⟩) c
    obtain ⟨-, whats, hhistory, hanswers⟩ : d.Idle ∧ Serves c d :=
      Session.Walks.keeps (P := fun e => e.Idle ∧ Serves c e) hwalk
        (fun _ _ ⟨hstill, hserves⟩ hmove => ⟨(hmove.settled hpatience hstill).books.idle hstill,
          hserves.trans (hmove.serves hpatience hstill)⟩) ⟨hidle, .refl c⟩
    have hnone : request.questions = [] := by
      cases request with
      | command command => exact absurd ⟨command, rfl⟩ hcommand
      | _ => rfl
    rw [hnone, hhistory, List.drop_left]
    exact hanswers

/-- Some requests one after the other. -/
theorem chronicle_answers (hidle : c.Idle) {requests : List (Request ι)}
    (hrequests : ∀ request ∈ requests, request.IsIdle) :
    Answers c.waiting (c.chronicle w requests)
      (requests.foldl (fun c request => (execute w request).after c) c).waiting := by
  induction requests generalizing c with
  | nil => exact .done _
  | cons request rest ih =>
    obtain ⟨hfirst, hrest⟩ := List.forall_mem_cons.mp hrequests
    exact (execute_answers hpatience hidle hfirst).trans
      (ih (idle_execute hpatience hidle hfirst) hrest)

end Serving

end Client

end Realtime
