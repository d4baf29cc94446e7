import Mathlib.Data.List.DropRight
import Realtime.Proofs.Client.Errands

/-!
# What listeners decide

When someone subscribes to a name that matches a pattern, the server asks whether the client
provides the event, and whoever is in charge of the pattern decides. That is the callback that was
registered for the pattern first since the program ceased to listen for it last: another one that
is registered meanwhile is ignored. When the last subscriber has gone, the same callback is told,
and there is nothing to decide.

So who decides is a matter of what the program has asked for before, and the tables of the client
need not be known. What he decides need not be the same each time: a callback may remember, and so
its verdict is that of this one call, which comes after all those that concerned the pattern since
it was registered. Every question of the server is answered at once, by one message that repeats
the pattern and the name as they came, unless no one is in charge; and nothing else makes a client
say that it accepts or rejects.

Results:
1. `inCharge_concat`: who is in charge after one more errand.
2. `provider?_busied`: who is in charge is whom the tables hold.
3. `decisions_match`: what is said about the questions of the server, and who is called for them.
-/

namespace Realtime

variable {σ ι : Type}

/-! ## Who is in charge -/

/-- A callback that decides whether to provide events, as the program knows it. -/
structure Provider where
  tag : String
  accepts : Nat → String → Bool → Bool
  /-- How often it was called so far. -/
  calls : Nat

/-- The same callback after some more calls. -/
def Provider.later (n : Nat) (p : Provider) : Provider :=
  { p with calls := p.calls + n }

@[simp] theorem Provider.later_zero : Provider.later 0 = id := rfl

@[simp] theorem Provider.later_later (m n : Nat) (p : Provider) :
    (p.later m).later n = p.later (m + n) :=
  congrArg (Provider.mk p.tag p.accepts) (Nat.add_assoc ..)

namespace Errand

/-- The program ceases to listen for the pattern. -/
def givesUp (pattern : String) : Errand ι → Bool
  | .command (.unlisten other) => other = pattern
  | _ => false

/-- Whom the program registers for the pattern. An empty pattern is refused. -/
def provider? (pattern : String) : Errand ι → Option Provider
  | .command (.listen other tag accepts _) =>
    if other = pattern ∧ pattern ≠ "" then some ⟨tag, accepts, 0⟩ else none
  | _ => none

/-- The server says something for which whoever is in charge of the pattern is called. -/
def concerns (pattern : String) : Errand ι → Bool
  | .message m => m.notice?.any (·.concerns pattern)
  | _ => false

end Errand

namespace Client

/-- Who decides about a pattern by the tables of a client. -/
def provider? (c : Client σ ι) (pattern : String) : Option Provider :=
  (c.events.listeners.find? pattern).map fun listener =>
    ⟨listener.callback.tag, listener.accepts, c.callsAt listener.callback.slot⟩

/-- The first whom the program registers for a pattern in the course of some errands. He is called
for everything that concerns the pattern after that. -/
def registered? (pattern : String) : List (Errand ι) → Option Provider
  | [] => none
  | errand :: later =>
    ((errand.provider? pattern).map (·.later (later.countP (·.concerns pattern)))).or
      (registered? pattern later)

/-- Who decides about a pattern after some errands of a connected client: the first whom the program
has registered for it since it gave the pattern up last, or, if it never did, since ever. -/
def inCharge (c : Client σ ι) (pattern : String) (earlier : List (Errand ι)) : Option Provider :=
  let standing := (c.provider? pattern).map (·.later (earlier.countP (·.concerns pattern)))
  let recent := earlier.rtakeWhile fun errand => !errand.givesUp pattern
  (if earlier.any (·.givesUp pattern) then none else standing).or (registered? pattern recent)

theorem inCharge_nil (c : Client σ ι) (pattern : String) :
    c.inCharge pattern [] = c.provider? pattern := by
  simp [inCharge, registered?]

theorem registered?_concat (pattern : String) (earlier : List (Errand ι)) (errand : Errand ι) :
    registered? pattern (earlier ++ [errand]) =
      ((registered? pattern earlier).map (·.later (if errand.concerns pattern then 1 else 0))).or
        (errand.provider? pattern) := by
  induction earlier with
  | nil => simp [registered?]
  | cons first rest ih =>
    simp only [List.cons_append, registered?, ih, List.countP_append, List.countP_singleton,
      Option.map_or, Option.map_map, Option.or_assoc, Function.comp_def, Provider.later_later]

/-- An errand may put an end to it, be one more call, or fill the place if it is vacant. -/
theorem inCharge_concat (c : Client σ ι) (pattern : String) (earlier : List (Errand ι))
    (errand : Errand ι) :
    c.inCharge pattern (earlier ++ [errand]) =
      if errand.givesUp pattern then none
      else ((c.inCharge pattern earlier).map
        (·.later (if errand.concerns pattern then 1 else 0))).or (errand.provider? pattern) := by
  unfold inCharge
  cases hgiven : errand.givesUp pattern with
  | true => simp [hgiven, registered?]
  | false =>
    have hrecent : (earlier ++ [errand]).rtakeWhile (fun e => !e.givesUp pattern) =
        earlier.rtakeWhile (fun e => !e.givesUp pattern) ++ [errand] :=
      List.rtakeWhile_concat_pos _ _ _ (by simp [hgiven])
    dsimp only
    rw [hrecent, registered?_concat, List.any_append, List.countP_append, List.countP_singleton,
      Option.map_or, Option.or_assoc]
    cases earlier.any (·.givesUp pattern) <;> simp [hgiven, Function.comp_def]

end Client

/-! ## What is due -/

namespace Message

/-- The server asks who provides an event, or tells that no one wants it any more. -/
def concernsPattern (m : Message) : Bool :=
  m.header = ⟨.event, .patternFound, false⟩ || m.header = ⟨.event, .patternRemoved, false⟩

/-- A name that matches a pattern, as the server says it: whether someone subscribes to it, or no
longer. -/
def matching? (m : Message) : Option (Bytes × Bytes × Bool) :=
  match m.header, m.arguments with
  | ⟨.event, .patternFound, false⟩, pattern :: name :: _ => some (pattern, name, true)
  | ⟨.event, .patternRemoved, false⟩, pattern :: name :: _ => some (pattern, name, false)
  | _, _ => none

end Message

namespace Client

/-- The answer that a message is owed: if someone subscribes, and there is someone in charge, then
what he decides about it in this call. -/
def due (c : Client σ ι) (earlier : List (Errand ι)) (m : Message) : Option Message :=
  match m.matching? with
  | some (pattern, name, true) =>
    (c.inCharge (Utf8.lossy pattern) earlier).map fun p => .plain .event
      (if p.accepts p.calls (Utf8.lossy name) true then .listenAccept else .listenReject)
      [pattern, name]
  | _ => none

/-- The call that a message asks for: whoever is in charge is told. -/
def asked (c : Client σ ι) (earlier : List (Errand ι)) (m : Message) : Option Invocation :=
  m.matching?.bind fun (pattern, name, subscribed) =>
    (c.inCharge (Utf8.lossy pattern) earlier).map fun p =>
      .listener p.tag (Utf8.lossy name) subscribed

/-- The answers that the messages among some errands are owed, in their order. -/
def decisionsDue (c : Client σ ι) (earlier : List (Errand ι)) : List (Errand ι) → List Message
  | [] => []
  | .command command :: later => c.decisionsDue (earlier ++ [.command command]) later
  | .message m :: later =>
    (c.due earlier m).toList ++ c.decisionsDue (earlier ++ [.message m]) later

end Client

theorem Message.notice?_of_matching? {m : Message} {pattern name : Bytes} {subscribed : Bool}
    (h : m.matching? = some (pattern, name, subscribed)) :
    m.concernsPattern = true ∧ pattern ∈ m.arguments ∧ name ∈ m.arguments ∧
      m.notice? = some (.listened (Utf8.lossy pattern) (Utf8.lossy name) subscribed) := by
  obtain ⟨header, arguments⟩ := m
  unfold matching? at h
  split at h
  · next hheader harguments =>
    cases h
    obtain rfl : header = _ := hheader
    obtain rfl : arguments = _ := harguments
    exact ⟨rfl, .head _, .tail _ (.head _), rfl⟩
  · next hheader harguments =>
    cases h
    obtain rfl : header = _ := hheader
    obtain rfl : arguments = _ := harguments
    exact ⟨rfl, .head _, .tail _ (.head _), rfl⟩
  · cases h

/-- Nothing else has to do with a pattern. -/
theorem Message.notice?_of_matching?_none {m : Message} (h : m.matching? = none)
    (pattern name : String) (subscribed : Bool) :
    m.notice? ≠ some (.listened pattern name subscribed) := by
  intro hnotice
  obtain ⟨header, arguments⟩ := m
  unfold notice? at hnotice
  split at hnotice
  · cases hnotice
  · next hheader harguments =>
    obtain rfl : header = _ := hheader
    obtain rfl : arguments = _ := harguments
    cases h
  · next hheader harguments =>
    obtain rfl : header = _ := hheader
    obtain rfl : arguments = _ := harguments
    cases h
  · cases hnotice
  · cases hnotice
  · cases hnotice
  · cases hnotice

/-- A message about a pattern that lacks the pattern or the name tells nothing. -/
theorem Message.notice?_of_concernsPattern {m : Message} (h : m.matching? = none)
    (hconcerns : m.concernsPattern = true) : m.notice? = none := by
  obtain ⟨header, arguments⟩ := m
  rw [concernsPattern, Bool.or_eq_true, decide_eq_true_iff, decide_eq_true_iff] at hconcerns
  obtain rfl | rfl := hconcerns <;>
    rcases arguments with _ | ⟨pattern, _ | ⟨name, others⟩⟩ <;> first | rfl | cases h

/-- No command says that an event is accepted or rejected. -/
theorem Command.not_isDecision {command : Command ι} {m : Message} (h : command.wish? = some m) :
    m.isDecision = false := by
  cases command with
  | emitJson name text =>
    obtain ⟨data, rfl⟩ := eq_emitMessage_of_wish? h
    rfl
  | stimulate i => cases h
  | _ =>
    cases h
    rfl

namespace Client

open Session

variable {w : Surroundings σ ι} {c d : Client σ ι} {m : Message}

/-! ## Errands -/

theorem notified_listeners (notice : Notice) :
    (c.notified notice).events.listeners = c.events.listeners := by
  cases notice with
  | listened pattern name subscribed => cases subscribed <;> rfl
  | _ => rfl

theorem Heeds.listeners (h : Heeds m c d) : d.events.listeners = c.events.listeners := by
  obtain ⟨link, journal, hd⟩ := h.state
  rw [hd]
  cases m.notice? with
  | none => rfl
  | some notice => exact notified_listeners notice

/-- When the same callbacks listen, and the one for the pattern was called some more times. -/
theorem provider?_later {pattern : String} {n : Nat}
    (hlisteners : d.events.listeners = c.events.listeners)
    (hcalls : ∀ listener, c.events.listeners.find? pattern = some listener →
      d.callsAt listener.callback.slot = c.callsAt listener.callback.slot + n) :
    d.provider? pattern = (c.provider? pattern).map (·.later n) := by
  unfold provider?
  rw [hlisteners]
  cases hfound : c.events.listeners.find? pattern with
  | none => rfl
  | some listener => exact congrArg (fun calls => some (Provider.mk _ _ calls)) (hcalls _ hfound)

theorem provider?_unasked (hapart : Apart c) (h : Unasked c d)
    (hlisteners : d.events.listeners = c.events.listeners) (pattern : String) :
    d.provider? pattern = c.provider? pattern := by
  rw [provider?_later (n := 0) hlisteners fun _ hfound => h.callsAt hapart hfound]
  exact congrFun Option.map_id _

theorem provider?_posted (m : Message) (pattern : String) :
    (c.post m).provider? pattern = c.provider? pattern := by
  unfold post
  split <;> rfl

/-- A place that is given out counts no calls yet. -/
theorem callsAt_withSlot (c : Client σ ι) (slot : Nat) :
    c.withSlot.callsAt slot = c.callsAt slot := by
  simp only [callsAt, withSlot, newSlot, List.getD_eq_getElem?_getD]
  obtain hlow | hnew | hhigh := Nat.lt_trichotomy slot c.calls.length
  · rw [List.getElem?_append_left hlow]
  · subst hnew
    simp
  · rw [List.getElem?_eq_none (Nat.le_of_lt hhigh), List.getElem?_eq_none]
    rw [List.length_append]
    exact hhigh

/-- To listen for a pattern makes no difference if someone does already. -/
theorem provider?_listen {other : String} (hother : other ≠ "") (tag : String)
    (accepts : Nat → String → Bool → Bool) (react : Nat → String → Bool → List (Command ι))
    (pattern : String) :
    ((listen other tag accepts react).after c).provider? pattern =
      (c.provider? pattern).or
        (if other = pattern ∧ pattern ≠ "" then some ⟨tag, accepts, 0⟩ else none) := by
  rw [listen_after c hother]
  cases hlisted : c.events.listeners.contains other with
  | true =>
    obtain ⟨listener, hfound⟩ := Option.isSome_iff_exists.mp hlisted
    rw [if_pos rfl]
    by_cases hsame : other = pattern
    · subst hsame
      simp [provider?, hfound]
    · simp [hsame]
  | false =>
    have hnone : c.events.listeners.find? other = none := by
      simpa [NameMap.contains] using hlisted
    have hfresh : c.callsAt c.calls.length = 0 := by simp [callsAt, List.getD_eq_getElem?_getD]
    rw [if_neg Bool.false_ne_true, provider?_posted]
    show ((c.events.listeners.insert other _).find? pattern).map (fun listener => Provider.mk
      listener.callback.tag listener.accepts (c.withSlot.callsAt listener.callback.slot)) = _
    rw [NameMap.find?_insert]
    by_cases hsame : other = pattern
    · subst hsame
      simp [provider?, hnone, hother, callsAt_withSlot, hfresh]
    · simp [provider?, hsame, Ne.symm hsame, callsAt_withSlot]

theorem provider?_unlisten (other pattern : String) :
    ((unlisten other).after c).provider? pattern =
      if other = pattern then none else c.provider? pattern := by
  rw [unlisten_after]
  cases hlisted : c.events.listeners.contains other with
  | true =>
    rw [if_pos rfl, provider?_posted]
    show ((c.events.listeners.erase other).find? pattern).map _ = _
    rw [NameMap.find?_erase]
    by_cases hsame : other = pattern
    · simp [hsame]
    · simp [provider?, hsame, Ne.symm hsame, withListeners, callsAt]
  | false =>
    have hnone : c.events.listeners.find? other = none := by
      simpa [NameMap.contains] using hlisted
    rw [if_neg Bool.false_ne_true]
    by_cases hsame : other = pattern
    · subst hsame
      simp [provider?, hnone]
    · simp [hsame]

/-- A message that concerns a pattern is one more call for the listener, and for no one else. -/
theorem provider?_heeds (hapart : Apart c) (h : Heeds m c d) (pattern : String) :
    d.provider? pattern = (c.provider? pattern).map
      (·.later (if m.notice?.any (·.concerns pattern) then 1 else 0)) := by
  refine provider?_later h.listeners fun listener hfound => ?_
  obtain ⟨link, journal, hd⟩ := h.state
  have hcalls : d.callsAt listener.callback.slot =
      ((m.notice?.map c.notified).getD c).callsAt listener.callback.slot := by rw [hd]; rfl
  rw [hcalls]
  cases m.notice? with
  | none => rfl
  | some notice => exact callsAt_notified hapart hfound notice

section Listening

variable (hpatience : 0 < w.patience)
include hpatience

/-- What an errand makes of who is in charge. -/
theorem provider?_attend (hin : c.phase = .connected) (hidle : c.Idle) (hapart : Apart c)
    {errand : Errand ι} (herrand : errand.IsIdle) (pattern : String) :
    ((attend w errand).after c).provider? pattern =
      if errand.givesUp pattern then none
      else ((c.provider? pattern).map
        (·.later (if errand.concerns pattern then 1 else 0))).or (errand.provider? pattern) := by
  cases errand with
  | message m =>
    rw [attend, provider?_heeds hapart (handle_heeds hpatience hin hidle m)]
    exact Option.or_none.symm
  | command command =>
    have hobeys := perform_obeys (w := w) hpatience hidle (herrand command · rfl)
    -- A command is no call for a listener.
    show _ = if _ then none else ((c.provider? pattern).map id).or _
    rw [Option.map_id, id, attend, after_answer]
    cases command with
    | listen other tag accepts react =>
      by_cases hother : other = ""
      · have hrefused : (Errand.command (.listen other tag accepts react)).provider? pattern =
            none := if_neg fun hboth => hboth.2 (hboth.1 ▸ hother)
        rw [hrefused, Option.or_none]
        subst hother
        rfl
      · rw [perform, after_answer]
        exact provider?_listen hother tag accepts react pattern
    | unlisten other =>
      rw [perform, after_answer, provider?_unlisten]
      simp [Errand.givesUp, Errand.provider?]
    | _ =>
      rw [provider?_unasked hapart hobeys.unasked (hobeys.listeners rfl)]
      exact Option.or_none.symm

/-- Who is in charge after some errands is whom the client has in its tables. -/
theorem provider?_busied (hin : c.phase = .connected) (hidle : c.Idle) (hapart : Apart c)
    {earlier : List (Errand ι)} (herrands : ∀ errand ∈ earlier, errand.IsIdle)
    (pattern : String) :
    (c.busied w earlier).provider? pattern = c.inCharge pattern earlier := by
  induction earlier using List.reverseRecOn with
  | nil => exact (inCharge_nil c pattern).symm
  | append_singleton earlier errand ih =>
    obtain ⟨hearlier, herrand⟩ := List.forall_mem_append.mp herrands
    have hidle' := idle_busied (w := w) hpatience hin hidle hearlier
    rw [busied_concat, provider?_attend hpatience (phase_busied hin) hidle'
      (apart_busied hin hapart) (herrand errand List.mem_cons_self), ih hearlier, inCharge_concat]

/-- A command never makes a client say that it accepts or rejects. -/
theorem command_undecided (hidle : c.Idle) {command : Command ι}
    (hcommand : (Errand.command command).IsIdle) :
    ∃ told, ((attend w (.command command)).after c).outbox = c.outbox ++ told ∧
      told.filter Message.isDecision = [] := by
  obtain ⟨told, houtbox, hwish⟩ :=
    (perform_obeys (w := w) hpatience hidle (hcommand command · rfl)).told
  refine ⟨told, ?_, List.filter_eq_nil_iff.mpr fun m hm => ?_⟩
  · rw [attend, after_answer, houtbox]
  · rw [Command.not_isDecision (hwish m hm)]
    exact Bool.false_ne_true

omit hpatience in
/-- Text is shown as it is. -/
theorem encode_lossy {bytes : Bytes} (h : ∃ text, Utf8.decode bytes = .ok text) :
    Utf8.encode (Utf8.lossy bytes) = bytes := by
  obtain ⟨text, htext⟩ := h
  rw [← Utf8.encode_of_decode htext, Utf8.lossy_encode]

omit hpatience in
/-- What is due is a decision. -/
theorem filter_due (earlier : List (Errand ι)) (m : Message) :
    (c.due earlier m).toList.filter Message.isDecision = (c.due earlier m).toList := by
  refine List.filter_eq_self.mpr fun answer hanswer => ?_
  unfold due at hanswer
  split at hanswer
  · obtain ⟨p, -, rfl⟩ := Option.map_eq_some_iff.mp (Option.mem_toList.mp hanswer)
    split <;> rfl
  · cases hanswer

omit hpatience in
theorem due_of_unmatched (h : m.matching? = none) (earlier : List (Errand ι)) :
    c.due earlier m = none := by
  rw [due, h]

omit hpatience in
theorem asked_of_unmatched (h : m.matching? = none) (earlier : List (Errand ι)) :
    c.asked earlier m = none := by
  rw [asked, h]
  rfl

section Matching

variable {earlier : List (Errand ι)} {pattern name : Bytes} {subscribed : Bool}
  (hprovider : d.provider? (Utf8.lossy pattern) = c.inCharge (Utf8.lossy pattern) earlier)
include hprovider
omit hpatience

/-- What a matching name is owed is what is said to it by a client that has in its tables who is in
charge. -/
theorem due_of_matching (hmatching : m.matching? = some (pattern, name, subscribed))
    (hpattern : ∃ text, Utf8.decode pattern = .ok text)
    (hname : ∃ text, Utf8.decode name = .ok text) :
    d.outbox ++ (c.due earlier m).toList =
      (d.notified (.listened (Utf8.lossy pattern) (Utf8.lossy name) subscribed)).outbox := by
  cases subscribed with
  | false =>
    rw [due, hmatching]
    exact List.append_nil _
  | true =>
    have hdue : c.due earlier m = (d.events.listeners.find? (Utf8.lossy pattern)).map
        (d.decision (Utf8.lossy pattern) (Utf8.lossy name)) := by
      rw [due, hmatching]
      dsimp only
      rw [← hprovider, provider?, Option.map_map]
      refine congrArg (Option.map · _) (funext fun listener => ?_)
      rw [decision, encode_lossy hpattern, encode_lossy hname]
      rfl
    rw [hdue, Option.toList_map]
    rfl

/-- Whom it asks for is whom such a client calls. -/
theorem asked_of_matching (hmatching : m.matching? = some (pattern, name, subscribed)) :
    (c.asked earlier m).toList =
      d.calledBy (.listened (Utf8.lossy pattern) (Utf8.lossy name) subscribed) := by
  have hasked : c.asked earlier m = (c.inCharge (Utf8.lossy pattern) earlier).map fun p =>
      .listener p.tag (Utf8.lossy name) subscribed := by
    rw [asked, hmatching]
    rfl
  rw [hasked, ← hprovider, provider?, Option.map_map, Option.toList_map]
  rfl

end Matching

/-- A message puts in the outbox what it is owed, and nothing else. If it concerns a pattern, it
calls whoever is in charge, and no one else. -/
theorem message_decided (hin : c.phase = .connected) (hidle : c.Idle) (hapart : Apart c)
    {earlier : List (Errand ι)} (hearlier : ∀ errand ∈ earlier, errand.IsIdle) {m : Message}
    (htext : m.concernsPattern → ∀ bytes ∈ m.arguments, ∃ text, Utf8.decode bytes = .ok text) :
    let before := c.busied w earlier
    let after := (attend w (.message m)).after before
    after.outbox = before.outbox ++ (c.due earlier m).toList ∧
      (m.concernsPattern → ∃ whats, after.history = before.history ++ .handled m :: whats ∧
        invocations whats = (c.asked earlier m).toList) := by
  intro before after
  have hheeds : Heeds m before after := handle_heeds hpatience (phase_busied hin)
    (idle_busied hpatience hin hidle hearlier) m
  obtain ⟨whats, hhistory, -, hcalls⟩ := hheeds.history
  have houtbox : after.outbox = ((m.notice?.map before.notified).getD before).outbox := by
    obtain ⟨link, journal, hd⟩ := hheeds.state
    rw [hd]
  cases hmatching : m.matching? with
  | none =>
    rw [due_of_unmatched hmatching, asked_of_unmatched hmatching]
    refine ⟨?_, fun hconcerns => ⟨whats, hhistory, ?_⟩⟩
    · rw [houtbox]
      cases hnotice : m.notice? with
      | none => exact (List.append_nil _).symm
      | some notice =>
        cases notice with
        | listened pattern name subscribed =>
          exact absurd hnotice (Message.notice?_of_matching?_none hmatching pattern name subscribed)
        | event | users | presence => exact (List.append_nil _).symm
    · rw [hcalls, Message.notice?_of_concernsPattern hmatching hconcerns]
      rfl
  | some matching =>
    obtain ⟨pattern, name, subscribed⟩ := matching
    obtain ⟨hconcerns, hpattern, hname, hnotice⟩ := Message.notice?_of_matching? hmatching
    have hprovider : before.provider? (Utf8.lossy pattern) =
        c.inCharge (Utf8.lossy pattern) earlier :=
      provider?_busied hpatience hin hidle hapart hearlier _
    have hdue := due_of_matching hprovider hmatching (htext hconcerns pattern hpattern)
      (htext hconcerns name hname)
    refine ⟨?_, fun _ => ⟨whats, hhistory, ?_⟩⟩
    · rw [houtbox, hnotice, hdue]
      rfl
    · rw [hcalls, hnotice, asked_of_matching hprovider hmatching]
      rfl

/-- From some errands on, the decisions that are put in the outbox are those that are due. -/
theorem decided_after (hin : c.phase = .connected) (hidle : c.Idle) (hapart : Apart c)
    (earlier : List (Errand ι)) {later : List (Errand ι)}
    (herrands : ∀ errand ∈ earlier ++ later, errand.IsIdle)
    (htext : ∀ m, .message m ∈ later → m.concernsPattern →
      ∀ bytes ∈ m.arguments, ∃ text, Utf8.decode bytes = .ok text) :
    ∃ told, (c.busied w (earlier ++ later)).outbox = (c.busied w earlier).outbox ++ told ∧
      told.filter Message.isDecision = c.decisionsDue earlier later := by
  induction later generalizing earlier with
  | nil => exact ⟨[], by rw [List.append_nil, List.append_nil], rfl⟩
  | cons errand rest ih =>
    rw [List.append_cons] at herrands ⊢
    obtain ⟨hsofar, hrest⟩ := List.forall_mem_append.mp herrands
    obtain ⟨hearlier, herrand⟩ := List.forall_mem_append.mp hsofar
    obtain ⟨late, hlate, hdecided⟩ := ih _ herrands fun m hm => htext m (List.mem_cons_of_mem _ hm)
    have hconcat := busied_concat (w := w) (c := c) earlier errand
    -- The answer to the first errand, if there is one, comes before the others.
    have hfirst : ∃ early, (c.busied w (earlier ++ [errand])).outbox =
        (c.busied w earlier).outbox ++ early ∧
        c.decisionsDue earlier (errand :: rest) =
          early.filter Message.isDecision ++ c.decisionsDue (earlier ++ [errand]) rest := by
      rw [hconcat]
      cases errand with
      | command command =>
        obtain ⟨early, hearly, hnone⟩ := command_undecided (w := w) hpatience
          (idle_busied hpatience hin hidle hearlier) (herrand _ List.mem_cons_self)
        exact ⟨early, hearly, by rw [hnone]; rfl⟩
      | message m =>
        obtain ⟨hearly, -⟩ := message_decided hpatience hin hidle hapart hearlier
          (htext m List.mem_cons_self)
        exact ⟨_, hearly, by rw [filter_due]; rfl⟩
    obtain ⟨early, hearly, hdue⟩ := hfirst
    refine ⟨early ++ late, by rw [hlate, hearly, List.append_assoc], ?_⟩
    rw [List.filter_append, hdecided, hdue]

/-- What a connected client says about the questions of the server, if callbacks ask for nothing.
Among all that it puts in its outbox, the messages that say that it accepts or rejects are the
answers that the questions are owed, in the order of the questions. A message that concerns a
pattern adds to the outbox the answer that it is owed and nothing else, and calls whoever is in
charge and no one else; and who is in charge, and how often he was called before, is what the client
has in its tables. -/
theorem decisions_match {start : Nat} (hreached : Reached w start c) (hin : c.phase = .connected)
    (hidle : c.Idle) {errands : List (Errand ι)} (herrands : ∀ errand ∈ errands, errand.IsIdle)
    (htext : ∀ m, .message m ∈ errands → m.concernsPattern →
      ∀ bytes ∈ m.arguments, ∃ text, Utf8.decode bytes = .ok text) :
    (∃ told, (c.busied w errands).outbox = c.outbox ++ told ∧
      told.filter Message.isDecision = c.decisionsDue [] errands) ∧
    ∀ earlier m later, errands = earlier ++ .message m :: later → m.concernsPattern →
      let before := c.busied w earlier
      let after := c.busied w (earlier ++ [.message m])
      (∀ pattern, before.provider? pattern = c.inCharge pattern earlier) ∧
      after.outbox = before.outbox ++ (c.due earlier m).toList ∧
      ∃ whats, after.history = before.history ++ .handled m :: whats ∧
        invocations whats = (c.asked earlier m).toList := by
  have hapart := hreached.apart
  refine ⟨decided_after hpatience hin hidle hapart [] herrands htext,
    fun earlier m later hsplit hconcerns => ?_⟩
  subst hsplit
  have hearlier := (List.forall_mem_append.mp herrands).1
  obtain ⟨houtbox, hcalls⟩ := message_decided hpatience hin hidle hapart hearlier
    (htext m (List.mem_append_right _ List.mem_cons_self))
  rw [busied_concat]
  exact ⟨provider?_busied hpatience hin hidle hapart hearlier, houtbox, hcalls hconcerns⟩

end Listening

/-- The guest while it is connected. -/
def attentive : Client Script Script.Stimulus :=
  guestAfter [.connect, .login "auth"]

theorem idle_attentive : attentive.Idle :=
  idle_guestAfter (by simp [Request.isIdle_iff])

/-- What the guest has to attend to. It listens for a pattern with a callback that accepts only what
it is asked first, and once more, which is ignored. It is asked about a name twice, gives the
pattern up and is asked again, and listens for it anew, with a callback that accepts what it is
asked when it was called once. Then the last subscriber of the name has gone, and there is one of
another. -/
def questions : List (Errand Script.Stimulus) :=
  [ .command (.listen "w.*" "first" (fun before _ _ => before = 0) fun _ _ _ => []),
    .command (.listen "w.*" "ignored" (fun _ _ _ => true) fun _ _ _ => []),
    .message (.plain .event .patternFound [Utf8.encode "w.*", Utf8.encode "w.1"]),
    .message (.plain .event .patternFound [Utf8.encode "w.*", Utf8.encode "w.1"]),
    .command (.unlisten "w.*"),
    .message (.plain .event .patternFound [Utf8.encode "w.*", Utf8.encode "w.1"]),
    .command (.listen "w.*" "second" (fun before _ _ => before = 1) fun _ _ _ => []),
    .message (.plain .event .patternRemoved [Utf8.encode "w.*", Utf8.encode "w.1"]),
    .message (.plain .event .patternFound [Utf8.encode "w.*", Utf8.encode "w.2"]) ]

theorem idle_questions : ∀ errand ∈ questions, errand.IsIdle := by
  simp [questions, Errand.isIdle_iff, Command.isIdle_iff]

/-- The same question is answered one way and then the other. -/
theorem decisions_match_questions :
    let d := attentive.busied hospitable questions
    (∃ start, Reached hospitable start attentive) ∧ attentive.phase = .connected ∧ attentive.Idle ∧
      (∃ told, d.outbox = attentive.outbox ++ told ∧
        told.filter Message.isDecision =
          [ .plain .event .listenAccept [Utf8.encode "w.*", Utf8.encode "w.1"],
            .plain .event .listenReject [Utf8.encode "w.*", Utf8.encode "w.1"],
            .plain .event .listenAccept [Utf8.encode "w.*", Utf8.encode "w.2"] ]) ∧
      ∃ whats, (attentive.busied hospitable (questions.take 8)).history =
        (attentive.busied hospitable (questions.take 7)).history ++
          .handled (.plain .event .patternRemoved [Utf8.encode "w.*", Utf8.encode "w.1"]) ::
            whats ∧
        invocations whats = [.listener "second" "w.1" false] := by
  intro d
  obtain ⟨start, hreached⟩ : ∃ start, Reached hospitable start attentive :=
    (Reached.created create_guest).of_allReturn (by decide +kernel)
  have hin : attentive.phase = .connected := by decide +kernel
  have htext : ∀ m, .message m ∈ questions → m.concernsPattern →
      ∀ bytes ∈ m.arguments, ∃ text, Utf8.decode bytes = .ok text := by
    intro m hm _ bytes hbytes
    have hnames : bytes ∈ ["w.*", "w.1", "w.2"].map Utf8.encode := by
      simp only [questions, List.mem_cons, Errand.message.injEq, reduceCtorEq, List.not_mem_nil,
        or_false, false_or] at hm
      obtain rfl | rfl | rfl | rfl | rfl := hm <;>
        simp only [Message.plain, List.mem_cons, List.not_mem_nil, or_false] at hbytes <;>
        obtain rfl | rfl := hbytes <;> simp
    obtain ⟨text, -, rfl⟩ := List.mem_map.mp hnames
    exact ⟨text, Utf8.decode_encode text⟩
  obtain ⟨⟨told, houtbox, hdecisions⟩, hmessage⟩ :=
    decisions_match (w := hospitable) (by decide) hreached hin idle_attentive idle_questions htext
  obtain ⟨-, -, whats, hhistory, hcalls⟩ := hmessage (questions.take 7) _ _ rfl rfl
  have hdue : attentive.decisionsDue [] questions =
      [ .plain .event .listenAccept [Utf8.encode "w.*", Utf8.encode "w.1"],
        .plain .event .listenReject [Utf8.encode "w.*", Utf8.encode "w.1"],
        .plain .event .listenAccept [Utf8.encode "w.*", Utf8.encode "w.2"] ] := by decide +kernel
  have hasked : attentive.asked (questions.take 7)
      (.plain .event .patternRemoved [Utf8.encode "w.*", Utf8.encode "w.1"]) =
      some (.listener "second" "w.1" false) := by decide +kernel
  rw [hdue] at hdecisions
  rw [hasked] at hcalls
  exact ⟨⟨start, hreached⟩, hin, idle_attentive, ⟨told, houtbox, hdecisions⟩, whats, hhistory,
    hcalls⟩

end Client

end Realtime
