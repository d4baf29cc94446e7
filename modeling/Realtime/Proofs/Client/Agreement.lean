import Realtime.Proofs.Client.Interests

/-!
# What the server knows of a client

When a client is let in, it tells the server all that it wants to be told of, and
from then on whatever changes. A server that starts out with nothing then knows
what the client wants, whenever the outbox is empty.

There is one exception. The outbox outlives a connection, and what it still holds
when the client is let in again is sent first. If it says that the client wants to
be told of something which the client has given up in the meantime, nothing takes
this back, and the server goes on telling.

Results:
1. `Negotiation.standing`: negotiations keep what a client wants in step with what the
   server has been told and is going to be told.
2. `knows_iff`: when a login or processing succeeds, the server knows what the client
   wants, unless something was left in the outbox that nothing takes back.
3. `stale_subscription_survives`: a subscription that nothing takes back.
-/

namespace Realtime

variable {σ ι : Type}

/-! ## What was said since the last login -/

/-- The message that the transport took. -/
def Occurrence.spoken? : Occurrence ι → Option Message
  | .sent m (.ok ()) => some m
  | _ => none

theorem Occurrence.spoken?_of_isStill {what : Occurrence ι} (h : what.isStill) :
    what.spoken? = none := by
  cases what with
  | sent m outcome => cases h
  | _ => rfl

namespace Client

/-- What was said since the last credentials, after one more message. -/
def sayAfterLogin (said : List Message) (m : Message) : List Message :=
  if m.header = requestHeader then [] else said ++ [m]

/-- What the transport took since it took credentials last. For a client that is connected
these are the credentials with which it was let in. -/
def sinceLogin (whats : List (Occurrence ι)) : List Message :=
  (whats.filterMap Occurrence.spoken?).foldl sayAfterLogin []

theorem sinceLogin_append_of_none {whats more : List (Occurrence ι)}
    (h : ∀ what ∈ more, what.spoken? = none) : sinceLogin (whats ++ more) = sinceLogin whats := by
  rw [sinceLogin, List.filterMap_append, List.filterMap_eq_nil_iff.mpr h, List.append_nil]
  rfl

theorem sinceLogin_concat_of_none {whats : List (Occurrence ι)} {what : Occurrence ι}
    (h : what.spoken? = none) : sinceLogin (whats ++ [what]) = sinceLogin whats :=
  sinceLogin_append_of_none fun _ hmem => List.mem_singleton.mp hmem ▸ h

theorem sinceLogin_concat_sent (whats : List (Occurrence ι)) (m : Message) :
    sinceLogin (whats ++ [.sent m (.ok ())]) = sayAfterLogin (sinceLogin whats) m := by
  rw [sinceLogin, List.filterMap_append, List.foldl_append]
  rfl

theorem sayAfterLogin_of_isTraffic {said : List Message} {m : Message} (h : m.isTraffic) :
    sayAfterLogin said m = said ++ [m] := by
  refine if_neg fun hheader => ?_
  rw [Message.isTraffic, hheader] at h
  cases h

theorem spoken_flushing (ms : List Message) :
    (ms.flatMap (flushing (ι := ι))).filterMap Occurrence.spoken? = ms := by
  induction ms with
  | nil => rfl
  | cons m rest ih =>
    rw [List.flatMap_cons, List.filterMap_append, ih]
    rfl

/-- Flushing messages about events and presence says them. -/
theorem sinceLogin_flushing {whats : List (Occurrence ι)} {ms : List Message}
    (h : ∀ m ∈ ms, m.isTraffic) :
    sinceLogin (whats ++ ms.flatMap flushing) = sinceLogin whats ++ ms := by
  have hsaid (said : List Message) : ms.foldl sayAfterLogin said = said ++ ms := by
    induction ms generalizing said with
    | nil => exact (List.append_nil _).symm
    | cons m rest ih =>
      rw [List.foldl_cons, sayAfterLogin_of_isTraffic (h m List.mem_cons_self),
        ih (fun other hother => h other (List.mem_cons_of_mem _ hother)), List.append_assoc]
      rfl
  rw [sinceLogin, List.filterMap_append, spoken_flushing, List.foldl_append, hsaid]
  rfl

variable {w : Surroundings σ ι} {c d : Client σ ι}

theorem Act.sinceLogin (h : Act w c d) :
    sinceLogin d.history = Client.sinceLogin c.history := by
  obtain hsame | ⟨what, hwhat, hjournal⟩ := h.journal
  · rw [history_eq_of_journal hsame]
  · rw [history_eq_of_noted hjournal]
    exact sinceLogin_concat_of_none (by cases hwhat <;> rfl)

theorem Idles.sinceLogin (h : Idles c d) :
    sinceLogin d.history = Client.sinceLogin c.history := by
  obtain ⟨whats, hhistory, hstill⟩ := h.history
  rw [hhistory]
  exact sinceLogin_append_of_none fun what hwhat => Occurrence.spoken?_of_isStill (hstill what hwhat)

/-! ## Logging in -/

/-- Who is logging in has taken no stance since. -/
def Unvoiced (c : Client σ ι) : Prop :=
  c.phase = .authenticating → stances (sinceLogin c.history) = []

namespace Unvoiced

/-- A move that says nothing, and with which no login begins. -/
theorem aside (h : Unvoiced c) (hsaid : sinceLogin d.history = sinceLogin c.history)
    (hphase : d.phase = .authenticating → c.phase = .authenticating) : Unvoiced d := by
  intro hd
  rw [hsaid]
  exact h (hphase hd)

theorem sending {m : Message} (h : Unvoiced c) (hsent : Sending w.transport c m d) :
    Unvoiced d := by
  cases hsent with
  | taken hnext _ =>
    intro hd
    rw [delivered_history, sinceLogin_concat_sent, sayAfterLogin]
    split
    · rfl
    · next hheader =>
      have hphase := (Phase.next_client_eq_authenticating hd).resolve_right hheader
      have hm : ¬ m.isTraffic := fun hm => by
        rw [Phase.eq_connected_of_traffic hm hnext] at hphase
        cases hphase
      rw [stances_append, h hphase, stances_singleton_of_none (Message.stance?_of_not_isTraffic hm)]
      rfl
  | refused _ _ =>
    refine h.aside ?_ id
    rw [undelivered_history]
    exact sinceLogin_concat_of_none rfl

theorem drawn (h : Unvoiced c) (m : Message) (rest : List Message) :
    Unvoiced (c.drawn m rest) := by
  refine h.aside ?_ id
  rw [drawn_history]
  exact sinceLogin_concat_of_none rfl

theorem restart (c : Client σ ι) : Unvoiced c.restart := by
  intro hphase
  rw [restart_phase] at hphase
  cases hphase

end Unvoiced

theorem Negotiation.unvoiced (hmove : Negotiation w c d) (h : Unvoiced c) : Unvoiced d := by
  cases hmove.kind with
  | act hact => exact h.aside hact.sinceLogin (hact.phase ▸ id)
  | idle hidle => exact h.aside hidle.sinceLogin hidle.authenticating
  | admission _ hd =>
    subst hd
    exact nofun
  | speech hsent _ _ => exact h.sending hsent

theorem Move.unvoiced (hmove : Move w c d) (h : Unvoiced c) : Unvoiced d := by
  cases hmove with
  | negotiated hnegotiated => exact hnegotiated.unvoiced h
  | @flushed m rest _ _ hsent => exact (h.drawn m rest).sending hsent
  | @dropped m rest _ _ => exact h.drawn m rest

theorem Reached.unvoiced {start : Nat} (h : Reached w start c) : Unvoiced c := by
  refine h.invariant (P := fun _ => Unvoiced) (fun _ _ _ _ hmade => ?_) (fun _ c _ => ?_)
    fun _ _ _ hold hmove => hmove.unvoiced hold
  · obtain ⟨link, rfl⟩ := create_ok hmade
    exact nofun
  · exact Unvoiced.restart c

/-! ## In step -/

/-- The server has been told and is going to be told, after the stances that were `left` to
tell when the client was let in, what the client wants. -/
def InStep (left : List (Subject × Bool)) (c : Client σ ι) : Prop :=
  ∃ fresh, stances (sinceLogin c.history) ++ stances c.outbox = left ++ fresh ∧
    c.wants = inform .empty fresh

namespace InStep

variable {left : List (Subject × Bool)}

/-- Whatever a client comes to want, it comes to have to say. -/
theorem tracks (h : InStep left c) (hsaid : sinceLogin d.history = sinceLogin c.history)
    (htracks : Tracks c d) : InStep left d := by
  obtain ⟨fresh, htold, hwants⟩ := h
  obtain ⟨told, houtbox, hmore⟩ := htracks
  refine ⟨fresh ++ stances told, ?_, ?_⟩
  · rw [hsaid, houtbox, stances_append, ← List.append_assoc, htold, List.append_assoc]
  · rw [hmore, hwants, inform_append]

/-- The server lets the client in, which then says all that it wants. -/
theorem admission (hunvoiced : stances (sinceLogin c.history) = [])
    (hemits : ∀ m ∈ c.events.sendQueue, m.isEmit) (m : Message) :
    InStep (stances c.outbox) (replay { c.note (.handled m) with phase := .connected }) := by
  refine ⟨stances c.replayMessages, ?_, ?_⟩
  · show stances (sinceLogin (c.note (.handled m)).history) ++
      stances (c.outbox ++ c.replayMessages) = _
    rw [note_history, sinceLogin_concat_of_none rfl, hunvoiced,
      stances_append]
    rfl
  · rw [inform_replay hemits]
    exact wants_eq rfl rfl rfl

/-- Messages that are not about events and presence make no difference. -/
theorem speech {m : Message} (h : InStep left c) (hsent : Sending w.transport c m d)
    (hm : ¬ m.isTraffic) (hheader : m.header ≠ requestHeader) : InStep left d := by
  have hsaid : stances (sinceLogin d.history) = stances (sinceLogin c.history) := by
    cases hsent with
    | taken _ _ =>
      rw [delivered_history, sinceLogin_concat_sent, sayAfterLogin, if_neg hheader, stances_append,
        stances_singleton_of_none (Message.stance?_of_not_isTraffic hm), List.append_nil]
    | refused _ _ =>
      rw [undelivered_history, sinceLogin_concat_of_none rfl]
  obtain ⟨fresh, htold, hwants⟩ := h
  refine ⟨fresh, ?_, ?_⟩
  · rw [hsaid]
    cases hsent <;> exact htold
  · cases hsent <;> exact hwants

/-- Emptying the outbox says what was still to be said. -/
theorem emptied (h : InStep left c) (htraffic : ∀ m ∈ c.outbox, m.isTraffic)
    (hemptied : Emptied c d) : InStep left d := by
  obtain ⟨fresh, htold, hwants⟩ := h
  refine ⟨fresh, ?_, ?_⟩
  · rw [hemptied.history, sinceLogin_flushing htraffic, hemptied.outbox, stances_append, htold]
    exact List.append_nil _
  · rw [← hwants]
    exact wants_eq (by rw [hemptied.events]) (by rw [hemptied.events]) (by rw [hemptied.presence])

end InStep

/-- Where a client stands that had `left` in its outbox when it was last without a
connection. -/
inductive Standing (left : List Message) (c : Client σ ι) : Prop
  /-- It is not let in yet. -/
  | outside : c.phase ≠ .connected → c.outbox = left → Standing left c
  /-- It is let in. -/
  | inside : c.phase = .connected → InStep (stances left) c → Standing left c
  /-- Its connection has ended. -/
  | gone : c.phase = .disconnected → Standing left c

variable {left : List Message}

theorem Standing.act (h : Standing left c) (hact : Act w c d) : Standing left d := by
  cases h with
  | outside hout hleft => exact .outside (hact.phase ▸ hout) ((hact.outbox hout).trans hleft)
  | inside hin hstep =>
    exact .inside (hact.phase.trans hin) (hstep.tracks hact.sinceLogin (hact.tracks hin))
  | gone hgone => exact .gone (hact.phase.trans hgone)

theorem Standing.idle (h : Standing left c) (hidle : Idles c d) : Standing left d := by
  cases h with
  | outside hout hleft =>
    exact .outside (fun hd => hout (hidle.connected hd)) (hidle.outbox.trans hleft)
  | inside hin hstep =>
    obtain hstays | hgone := hidle.of_connected hin
    · refine .inside hstays (hstep.tracks hidle.sinceLogin (.silent hidle.outbox ?_))
      exact wants_eq (by rw [hidle.events]) (by rw [hidle.events]) (by rw [hidle.presence])
    · exact .gone hgone
  | gone hgone => exact .gone (hidle.of_disconnected hgone)

theorem Standing.speech {m : Message} (h : Standing left c) (hsent : Sending w.transport c m d)
    (hm : ¬ m.isTraffic) (hlogin : m.header = requestHeader → c.phase = .awaitAuthentication) :
    Standing left d := by
  cases h with
  | outside hout hleft =>
    cases hsent with
    | taken _ _ => exact .outside (fun hd => hout (Phase.next_client_eq_connected hd)) hleft
    | refused _ _ => exact .outside hout hleft
  | inside hin hstep =>
    have hheader : m.header ≠ requestHeader := fun hheader => by
      rw [hlogin hheader] at hin
      cases hin
    refine .inside ?_ (hstep.speech hsent hm hheader)
    cases hsent with
    | taken _ _ => rw [delivered_phase, hin, Phase.next_connected]
    | refused _ _ => exact hin
  | gone hgone => exact absurd hgone hsent.phase_ne_disconnected

/-- Negotiations keep what a client wants in step with what the server is told. -/
theorem Negotiation.standing (hmove : Negotiation w c d) (hconserved : Conserved c)
    (hunvoiced : Unvoiced c) (h : Standing left c) : Standing left d := by
  cases hmove.kind with
  | act hact => exact h.act hact
  | idle hidle => exact h.idle hidle
  | @admission m hphase hd =>
    subst hd
    -- What stood in the outbox goes first, and the replay after it begins with nothing.
    cases h with
    | outside _ hleft =>
      exact .inside rfl (hleft ▸ InStep.admission (hunvoiced hphase) hconserved.emits m)
    | inside hin _ =>
      rw [hphase] at hin
      cases hin
    | gone hgone =>
      rw [hphase] at hgone
      cases hgone
  | speech hsent hm hlogin => exact h.speech hsent hm hlogin

theorem standing_of_negotiations (h : Relation.ReflTransGen (Negotiation w) c d)
    (hconserved : Conserved c) (hunvoiced : Unvoiced c) (hstanding : Standing left c) :
    Standing left d := by
  have hall : Conserved d ∧ Unvoiced d ∧ Standing left d :=
    Session.Walks.keeps (P := fun e => Conserved e ∧ Unvoiced e ∧ Standing left e) h
      (fun _ _ ⟨hc, hu, hs⟩ hmove =>
        ⟨hmove.conserved hc, hmove.unvoiced hu, hmove.standing hc hu hs⟩)
      ⟨hconserved, hunvoiced, hstanding⟩
  exact hall.2.2

/-! ## Whom the server has let in -/

/-- The client is connected, and `left` stood in its outbox when it asked to be let in. -/
inductive Online (w : Surroundings σ ι) : List Message → Client σ ι → Prop
  /-- A request has made the client connected. -/
  | admitted {start : Nat} {c : Client σ ι} {request : Request ι} :
      Reached w start c → c.phase ≠ .connected → (execute w request).returns c →
      ((execute w request).after c).phase = .connected →
      Online w c.outbox ((execute w request).after c)
  /-- A request has left the client connected. -/
  | stayed {left : List Message} {c : Client σ ι} {request : Request ι} :
      Online w left c → (execute w request).returns c →
      ((execute w request).after c).phase = .connected →
      Online w left ((execute w request).after c)

theorem Online.reached (h : Online w left c) : ∃ start, Reached w start c := by
  induction h with
  | admitted hreached _ hreturns _ => exact ⟨_, hreached.executed _ hreturns⟩
  | stayed _ hreturns _ ih =>
    obtain ⟨start, hreached⟩ := ih
    exact ⟨_, hreached.executed _ hreturns⟩

theorem Online.connected (h : Online w left c) : c.phase = .connected := by
  cases h <;> assumption

/-- Every client that is connected was let in at some time. -/
theorem Reached.online {start : Nat} (h : Reached w start c) (hin : c.phase = .connected) :
    ∃ left, Online w left c := by
  induction h with
  | created hmade =>
    obtain ⟨link, rfl⟩ := create_ok hmade
    cases hin
  | @executed start c request hreached hreturns ih =>
    by_cases hbefore : c.phase = .connected
    · obtain ⟨left, honline⟩ := ih hbefore
      exact ⟨left, honline.stayed hreturns hin⟩
    · exact ⟨c.outbox, .admitted hreached hbefore hreturns hin⟩

theorem outbox_ready (c : Client σ ι) (request : Request ι) :
    (c.ready request).outbox = c.outbox := by
  unfold ready
  split
  · rw [restart_eq]
    rfl
  · rfl

/-- A request that leaves the client connected leaves it in step, wherever it has begun. -/
theorem inStep_of_standing {start : Nat} (h : Reached w start c) {request : Request ι}
    (hstanding : Standing left (c.ready request)) (hreturns : (execute w request).returns c)
    (hin : ((execute w request).after c).phase = .connected)
    (hunrefused : ∀ what ∈ ((execute w request).after c).history, what.isRefusal = false) :
    InStep (stances left) ((execute w request).after c) := by
  obtain ⟨e, hbefore, hend⟩ := execute_connected hreturns hin hunrefused
  have hconserved : Conserved (c.ready request) :=
    ready_keeps (P := Conserved) (fun _ => Conserved.restart) h.conserved request
  have hunvoiced : Unvoiced (c.ready request) :=
    ready_keeps (P := Unvoiced) (fun c _ => Unvoiced.restart c) h.unvoiced request
  have hphase : e.phase = .connected := by
    obtain hsame | hemptied := hend
    · rwa [← hsame]
    · exact hemptied.connected hin
  have hstep : InStep (stances left) e := by
    cases standing_of_negotiations hbefore hconserved hunvoiced hstanding with
    | outside hout _ => exact absurd hphase hout
    | inside _ hstep => exact hstep
    | gone hgone =>
      rw [hphase] at hgone
      cases hgone
  obtain hsame | hemptied := hend
  · rwa [hsame]
  · obtain ⟨origin, hgrounded⟩ := h.grounded
    have hground : Grounded origin e := Session.Walks.keeps hbefore
      (fun _ _ hold hmove => hmove.grounded hold)
      (ready_keeps (P := Grounded origin) (fun _ => Grounded.restart) hgrounded request)
    exact hstep.emptied (fun m hm => hground.traffic m (List.mem_append_left _ hm)) hemptied

/-- Where the transport has refused nothing up to the end of a request, it had refused
nothing before. -/
theorem unrefused_before {request : Request ι} (hreturns : (execute w request).returns c)
    (hin : ((execute w request).after c).phase = .connected)
    (hunrefused : ∀ what ∈ ((execute w request).after c).history, what.isRefusal = false) :
    ∀ what ∈ c.history, what.isRefusal = false := by
  obtain ⟨e, hbefore, hend⟩ := execute_connected hreturns hin hunrefused
  have hquiet : Quietly c e := (quietly_ready request).trans (quietly_of_negotiations hbefore)
  obtain hsame | hemptied := hend
  · exact hquiet.unrefused (hsame ▸ hunrefused)
  · exact hquiet.unrefused (unrefused_of_history hemptied.history hunrefused)

/-- A client that is online is in step, if the transport has refused nothing. -/
theorem Online.inStep (h : Online w left c)
    (hunrefused : ∀ what ∈ c.history, what.isRefusal = false) : InStep (stances left) c := by
  induction h with
  | @admitted start c request hreached hout hreturns hin =>
    refine inStep_of_standing hreached (.outside ?_ (outbox_ready c request)) hreturns hin
      hunrefused
    exact ready_keeps (P := fun c => c.phase ≠ .connected)
      (fun c _ => by rw [restart_phase]; exact nofun) hout request
  | @stayed left c request honline hreturns hin ih =>
    obtain ⟨start, hreached⟩ := honline.reached
    have hready : c.ready request = c := by
      refine if_neg fun hstarts => ?_
      cases request with
      | connect =>
        have hgone : c.phase = .disconnected := of_decide_eq_true hstarts
        rw [honline.connected] at hgone
        cases hgone
      | _ => cases hstarts
    have hstep := ih (unrefused_before hreturns hin hunrefused)
    exact inStep_of_standing hreached (hready.symm ▸ .inside honline.connected hstep) hreturns hin
      hunrefused

/-- On a transport that has taken every message so far, whenever a login or processing
succeeds and leaves the client connected: what the server was told since the last login
begins with what was left in the outbox when the client was let in. If all of that is
taken back or said again in the rest, the server knows what the client wants to be told
of, and else it does not. -/
theorem knows_iff {start : Nat} (h : Reached w start c) {request : Request ι}
    (hrequest : request.isNegotiation = false) (hok : (execute w request).succeeds c)
    (hin : ((execute w request).after c).phase = .connected)
    (hunrefused : ∀ what ∈ ((execute w request).after c).history, what.isRefusal = false) :
    let d := (execute w request).after c
    let told := stances (sinceLogin d.history)
    (∃ left, Online w left d) ∧
    ∀ left, Online w left d → ∃ fresh, told = stances left ++ fresh ∧
      (inform .empty told = d.wants ↔
        ∀ s, inform .empty (stances left) s → s ∈ fresh.map Prod.fst) := by
  intro d told
  have hreached : Reached w (request.sessionStart c start) d :=
    h.executed request (Session.returns_of_succeeds hok)
  refine ⟨hreached.online hin, fun left honline => ?_⟩
  obtain ⟨answer, hrun⟩ := Session.eq_ok_of_succeeds hok
  obtain ⟨e, -, hflush⟩ := execute_flushed hrequest hrun
  have houtbox : d.outbox = [] := (Session.flush_ok hflush).outbox
  obtain ⟨fresh, htold, hwants⟩ := honline.inStep hunrefused
  rw [houtbox] at htold
  have htold : told = stances left ++ fresh := (List.append_nil _).symm.trans htold
  refine ⟨fresh, htold, ?_⟩
  rw [htold, inform_append, hwants]
  constructor
  · -- A stance that was left, and that nothing mentions again, was not asked for.
    intro hknows s hleft
    by_contra hmissing
    have hsame := congrFun hknows s
    rw [inform_of_not_mentioned hmissing, inform_of_not_mentioned hmissing, hleft] at hsame
    cases hsame
  · intro hcovered
    funext s
    by_cases hmentioned : s ∈ fresh.map Prod.fst
    · exact inform_of_mentioned hmentioned
    · rw [inform_of_not_mentioned hmentioned, inform_of_not_mentioned hmentioned]
      exact Bool.eq_false_iff.mpr fun hleft => hmentioned (hcovered s hleft)

/-- What the guest of a hospitable server asks for to follow the news, and to stop. -/
def followNews : Command Script.Stimulus :=
  .subscribe "news" "reader" fun _ _ => []

/-- A subscription that could not be announced before the connection was closed is announced
twice with the next login, which does no harm. -/
theorem knows_iff_reconnect :
    let c := guestAfter [.connect, .login "auth", .command followNews, .close, .connect]
    let d := (execute hospitable (.login "auth")).after c
    (∃ start, Reached hospitable start c) ∧ Online hospitable c.outbox d ∧
      c.outbox = [eventMessage .subscribe "news"] ∧
      inform .empty (stances (sinceLogin d.history)) = d.wants := by
  intro c d
  obtain ⟨start, hreached⟩ : ∃ start, Reached hospitable start c :=
    (Reached.created create_guest).of_allReturn (by decide +kernel)
  have hin : d.phase = .connected := by decide +kernel
  have honline : Online hospitable c.outbox d :=
    .admitted hreached (by decide +kernel) (by decide +kernel) hin
  have hlogin : (Request.login "auth" : Request Script.Stimulus).isNegotiation = false := rfl
  have hknows := knows_iff hreached hlogin (by decide +kernel) hin (by decide +kernel)
  obtain ⟨fresh, htold, hcovered⟩ := hknows.2 c.outbox honline
  refine ⟨⟨start, hreached⟩, honline, by decide +kernel, hcovered.mpr fun s hs => ?_⟩
  have hleft : stances c.outbox = [(.event (Utf8.encode "news"), true)] := by decide +kernel
  have htwice : stances (sinceLogin d.history) =
      [(.event (Utf8.encode "news"), true), (.event (Utf8.encode "news"), true)] := by
    decide +kernel
  rw [htwice, hleft] at htold
  obtain rfl : [(.event (Utf8.encode "news"), true)] = fresh := List.tail_eq_of_cons_eq htold
  rw [hleft, inform_of_wanted (by simp)] at hs
  simpa [Roll.empty] using hs

/-- If the guest stops to follow the news before it comes back, the server is still told of the
subscription, which stands in the outbox, and is not told that it has ended. -/
theorem stale_subscription_survives :
    let c := guestAfter [.connect, .login "auth", .command followNews, .close,
      .command (.unsubscribe "news"), .connect]
    let d := (execute hospitable (.login "auth")).after c
    (∃ start, Reached hospitable start c) ∧ (execute hospitable (.login "auth")).succeeds c ∧
      d.phase = .connected ∧ (∀ what ∈ d.history, what.isRefusal = false) ∧
      inform .empty (stances (sinceLogin d.history)) (.event (Utf8.encode "news")) = true ∧
      d.wants (.event (Utf8.encode "news")) = false := by
  intro c d
  exact ⟨(Reached.created create_guest).of_allReturn (by decide +kernel), by decide +kernel,
    by decide +kernel, by decide +kernel, by decide +kernel, by decide +kernel⟩

end Client

end Realtime
