import Realtime.Proofs.Client.Recovery

/-!
# One hop on the way to a server

A client that connects opens its transport and waits for a challenge, answers with the address
that it wants, and waits for what the server says to that: it is accepted, sent on or turned
away. Heartbeats may come at any time, and anything may go wrong. This module says which of
these stages a hop has passed, however it ends.

Results:
1. `handle_ping`, `handle_reply`: what becomes of a message while a client waits for a reply.
2. `awaitReply_ends`: it gets a reply, or at most has closed its transport.
3. `hop_ends`: the stages of a hop.
-/

namespace Realtime

variable {σ ι : Type}

/-! ## Heartbeats -/

/-- Until a client is connected it takes nothing for a heartbeat but a heartbeat, which leaves
it where it is. -/
theorem Phase.next_ping {p : Phase} {m : Message} (hping : m.isPing) (hout : p ≠ .connected)
    (hnext : p.next .server m ≠ .error) :
    m.header = ⟨.connection, .ping, false⟩ ∧ p.next .server m = p := by
  obtain ⟨-, haction⟩ := Bool.and_eq_true_iff.mp hping
  have haction := of_decide_eq_true haction
  have hallows := allows_of_next rfl hnext
  generalize m.header = header at haction hallows ⊢
  generalize p.next .server m = q at hallows ⊢
  cases hallows with
  | pinged => exact ⟨rfl, rfl⟩
  | exchanged => exact absurd rfl hout
  | _ => cases haction

/-! ## Stages -/

/-- What counts on the way to a server. -/
inductive Stage where
  /-- The transport is asked to open. -/
  | opened (uri : Option String)
  /-- The transport is asked to send something, but for the answer to a heartbeat. -/
  | said (m : Message)
  /-- The server sends the client on. -/
  | redirected (reply : Message)
  /-- The transport is asked to close. -/
  | closed
  deriving DecidableEq, Repr

namespace Stage

def isOpening : Stage → Bool
  | .opened _ => true
  | _ => false

def isRedirection : Stage → Bool
  | .redirected _ => true
  | _ => false

end Stage

namespace Occurrence

/-- The stage that an occurrence is, if any. -/
def stage? : Occurrence ι → Option Stage
  | .opened uri _ => some (.opened uri)
  | .sent m _ => if m.header = ⟨.connection, .pong, false⟩ then none else some (.said m)
  | .handled m => if m.header = ⟨.connection, .redirect, false⟩ then some (.redirected m) else none
  | .closed _ => some .closed
  | _ => none

/-- The client complains of too many redirections. -/
def isWeary : Occurrence ι → Bool
  | .reported (.tooManyRedirections _) => true
  | _ => false

end Occurrence

namespace Client

/-- The stages among some occurrences. -/
def stages (whats : List (Occurrence ι)) : List Stage :=
  whats.filterMap Occurrence.stage?

/-! ## Passing through stages -/

/-- Between two states, these are the stages that were passed, and the client has not
complained of too many redirections. -/
def Traces (list : List Stage) (c d : Client σ ι) : Prop :=
  ∃ whats, d.history = c.history ++ whats ∧ stages whats = list ∧
    ∀ what ∈ whats, what.isWeary = false

/-- Between two states, these are the stages that were passed, and the client and its
transport are still bound for where they were before. -/
structure Passes (list : List Stage) (c d : Client σ ι) : Prop where
  traces : Traces list c d
  uri : d.uri = c.uri
  target : d.link.uri = c.link.uri
  config : d.config = c.config

variable {w : Surroundings σ ι} {c d e : Client σ ι} {front back : List Stage}

theorem stages_append (before later : List (Occurrence ι)) :
    stages (before ++ later) = stages before ++ stages later :=
  List.filterMap_append

theorem Traces.trans (hfirst : Traces front c d) (hsecond : Traces back d e) :
    Traces (front ++ back) c e := by
  obtain ⟨before, hbefore, rfl, hcalm⟩ := hfirst
  obtain ⟨later, hlater, rfl, hstill⟩ := hsecond
  refine ⟨before ++ later, ?_, stages_append before later, fun what hwhat => ?_⟩
  · rw [hlater, hbefore, List.append_assoc]
  · exact (List.mem_append.mp hwhat).elim (hcalm what) (hstill what)

theorem Passes.trans (hfirst : Passes front c d) (hsecond : Passes back d e) :
    Passes (front ++ back) c e where
  traces := hfirst.traces.trans hsecond.traces
  uri := hsecond.uri.trans hfirst.uri
  target := hsecond.target.trans hfirst.target
  config := hsecond.config.trans hfirst.config

theorem Passes.of_journal_eq (h : d.journal = c.journal) (huri : d.uri = c.uri)
    (htarget : d.link.uri = c.link.uri) (hconfig : d.config = c.config) : Passes [] c d :=
  ⟨⟨[], by rw [history_eq_of_journal h, List.append_nil], rfl, List.forall_mem_nil _⟩, huri,
    htarget, hconfig⟩

/-- One more occurrence is one more stage, or none. -/
theorem Passes.of_noted (what : Occurrence ι) (h : d.history = c.history ++ [what])
    (hcalm : what.isWeary = false) (huri : d.uri = c.uri) (htarget : d.link.uri = c.link.uri)
    (hconfig : d.config = c.config) : Passes what.stage?.toList c d := by
  refine ⟨⟨[what], h, ?_, ?_⟩, huri, htarget, hconfig⟩
  · unfold stages
    cases hstage : what.stage? <;> simp [hstage]
  · intro other hother
    rw [List.mem_singleton.mp hother]
    exact hcalm

/-- Between two states, at most the transport was asked to close. -/
def Founders (c d : Client σ ι) : Prop :=
  ∃ list, (∀ stage ∈ list, stage = .closed) ∧ Passes list c d

theorem Passes.founders (h : Passes [] c d) : Founders c d :=
  ⟨[], List.forall_mem_nil _, h⟩

theorem Founders.trans (hfirst : Founders c d) (hsecond : Founders d e) : Founders c e := by
  obtain ⟨front, hfront, hbefore⟩ := hfirst
  obtain ⟨back, hback, hlater⟩ := hsecond
  refine ⟨front ++ back, fun stage hstage => ?_, hbefore.trans hlater⟩
  exact (List.mem_append.mp hstage).elim (hfront stage) (hback stage)

theorem Founders.refl (c : Client σ ι) : Founders c c :=
  (Passes.of_journal_eq rfl rfl rfl rfl).founders

theorem Founders.of_walk (h : Relation.ReflTransGen Founders c d) : Founders c d :=
  Session.Walks.keeps h (fun _ _ hbefore hstep => hbefore.trans hstep) (.refl c)

theorem Passes.closeLink (t : Transport σ ι) (c : Client σ ι) :
    Passes [.closed] c (c.closeLink t) :=
  .of_noted (.closed _) (history_eq_of_noted (closeLink_journal ..)) rfl rfl rfl rfl

theorem Passes.enter (c : Client σ ι) (next : Phase) : Passes [] c (c.enter next) := by
  refine .of_journal_eq (enter_journal ..) ?_ ?_ ?_ <;>
  · unfold Client.enter
    split
    · rfl
    · split <;> rfl

theorem Passes.shut (t : Transport σ ι) (c : Client σ ι) : Passes [.closed] c (c.shut t) :=
  (Passes.closeLink t c).trans (.enter _ _)

theorem Passes.reported {x : Error} (hx : (Occurrence.reported x : Occurrence ι).isWeary = false)
    (c : Client σ ι) : Passes [] c (c.note (.reported x)) :=
  .of_noted (.reported x) (note_history ..) hx rfl rfl rfl

/-- A message that is handed over is the same stage whether it is taken or not. -/
theorem Sending.passes {m : Message} (h : Sending w.transport c m d) :
    Passes (Occurrence.sent m (.ok ()) : Occurrence ι).stage?.toList c d := by
  cases h with
  | taken => exact .of_noted _ (history_eq_of_noted (delivered_journal ..)) rfl rfl rfl rfl
  | @refused e =>
    exact .of_noted (.sent m (.error e)) (history_eq_of_noted (undelivered_journal ..))
      rfl rfl rfl rfl

/-- What a reply has led to: a client that waits for a challenge is challenged, and one that
waits for what becomes of its answer is accepted, sent on, or turned away. -/
inductive Heard (c d : Client σ ι) (reply : Message) : Prop
  | challenged : c.phase = .awaitConnection → d.phase = .challenging → Passes [] c d →
      Heard c d reply
  | accepted : c.phase = .challengingWait → d.phase = .awaitAuthentication → Passes [] c d →
      Heard c d reply
  | redirected : c.phase = .challengingWait → d.phase = .awaitConnection →
      Passes [.redirected reply] c d → Heard c d reply
  | rejected : c.phase = .challengingWait → d.phase = .disconnected → Passes [.closed] c d →
      Heard c d reply

theorem Heard.of_passes {reply : Message} (h : Heard d e reply) (hpassed : Passes [] c d)
    (hphase : d.phase = c.phase) : Heard c e reply := by
  cases h with
  | challenged hd he hrest => exact .challenged (hphase ▸ hd) he (hpassed.trans hrest)
  | accepted hd he hrest => exact .accepted (hphase ▸ hd) he (hpassed.trans hrest)
  | redirected hd he hrest => exact .redirected (hphase ▸ hd) he (hpassed.trans hrest)
  | rejected hd he hrest => exact .rejected (hphase ▸ hd) he (hpassed.trans hrest)

end Client

namespace Session

open Client

variable {α : Type} {w : Surroundings σ ι} {c d : Client σ ι}

/-! ## Waiting for a reply -/

theorem nextMessage_founders : Walks Founders (nextMessage w.transport true) c := by
  refine nextMessage_walks_of w.transport true (fun c e he => ?_) (fun c => ?_) (fun c => ?_)
    fun gone => ?_
  · exact (Passes.reported (by cases e <;> first | rfl | cases he) c).founders
  · exact ⟨[.closed], fun _ => List.mem_singleton.mp, .shut _ c⟩
  · have hlost : Passes [] c { c with phase := .disconnected } := .of_journal_eq rfl rfl rfl rfl
    exact hlost.founders
  · have htaken : Passes [] c (c.withInbox (c.inbox.next gone).2) := .of_journal_eq rfl rfl rfl rfl
    exact htaken.founders

/-- Asking for a message passes nothing, or at most has the transport closed. -/
theorem nextMessage_ends : Ends (fun _ d => Passes [] c d ∧ d.phase = c.phase)
    (fun _ d => Founders c d) (nextMessage w.transport true) c := by
  have hfounders {d : Client σ ι} (h : Relation.ReflTransGen Founders c d) : Founders c d :=
    .of_walk h
  refine Ends.intro (fun found d hfound => ?_) fun stop d hfailed => ?_
  · obtain ⟨_, -, hpassed⟩ := hfounders (nextMessage_founders.to_ok hfound)
    obtain ⟨pending, link, rfl⟩ := nextMessage_ok w.transport true hfound
    exact ⟨.of_journal_eq rfl rfl hpassed.target rfl, rfl⟩
  · exact hfounders (nextMessage_founders.to_error hfailed)

theorem handled_passes (m : Message) (next : Phase) :
    Passes (Occurrence.handled m : Occurrence ι).stage?.toList c
      ((c.note (.handled m)).enter next) := by
  have hnoted : Passes (Occurrence.handled m : Occurrence ι).stage?.toList c
      (c.note (.handled m)) := .of_noted _ (note_history ..) rfl rfl rfl rfl
  simpa using hnoted.trans (.enter _ next)

/-- Sending a message that is allowed is one stage, or none, whether it is taken or not. -/
theorem send_ends {m : Message} (hallowed : c.phase.next .client m ≠ .error) :
    Ends (fun _ d => Passes (Occurrence.sent m (.ok ()) : Occurrence ι).stage?.toList c d ∧
        d.phase = c.phase.next .client m)
      (fun _ d => Passes (Occurrence.sent m (.ok ()) : Occurrence ι).stage?.toList c d)
      (send w.transport m) c := by
  unfold Ends
  rw [send_eq, if_neg hallowed]
  cases hcall : (c.link.call w.transport (.send m.encode)).1 with
  | ok _ => exact ⟨Sending.passes (.taken hallowed hcall), rfl⟩
  | error e => exact Sending.passes (.refused hallowed hcall)

theorem handle_refused {good : Unit → Client σ ι → Prop} {m : Message}
    (hnext : c.phase.next .server m = .error) :
    Ends good (fun _ d => Founders c d) (handle w m) c := by
  unfold Ends
  rw [handle_of_error hnext]
  exact ⟨[.closed], fun _ => List.mem_singleton.mp,
    (Passes.shut w.transport c).trans (.reported rfl _)⟩

/-- A client that is not connected does nothing about a heartbeat but answer it. -/
theorem handle_heartbeat {m : Message} (hping : m.isPing) (hout : c.phase ≠ .connected)
    (hnext : c.phase.next .server m ≠ .error) :
    handle w m c = send w.transport (.plain .connection .pong) (c.note (.handled m)) := by
  obtain ⟨hheader, hstays⟩ := Phase.next_ping hping hout hnext
  have hlives : c.phase ≠ .disconnected := by
    intro hgone
    rw [hgone] at hnext
    exact hnext rfl
  have hsame : (c.note (.handled m)).enter c.phase = c.note (.handled m) := if_pos rfl
  rw [handle_eq hnext, hstays, if_neg hlives, hsame, dispatch, hheader]
  rfl

/-- A heartbeat leaves a client where it is, waiting for a reply. -/
theorem handle_ping {m : Message} (hping : m.isPing)
    (hphase : c.phase = .awaitConnection ∨ c.phase = .challengingWait) :
    Ends (fun _ d => Passes [] c d ∧ d.phase = c.phase) (fun _ d => Founders c d)
      (handle w m) c := by
  by_cases hnext : c.phase.next .server m = .error
  · exact handle_refused hnext
  have hout : c.phase ≠ .connected := by
    obtain hphase | hphase := hphase <;> rw [hphase] <;> exact nofun
  obtain ⟨hheader, -⟩ := Phase.next_ping hping hout hnext
  have hallowed : c.phase.next .client (.plain .connection .pong) ≠ .error := by
    obtain hphase | hphase := hphase <;> rw [hphase] <;> exact nofun
  have hsame : (c.note (.handled m)).enter c.phase = c.note (.handled m) := if_pos rfl
  have hpassed := handled_passes (c := c) m c.phase
  rw [hsame, Occurrence.stage?, hheader] at hpassed
  unfold Ends
  rw [handle_heartbeat hping hout hnext]
  refine (send_ends (c := c.note (.handled m)) hallowed).mono (fun _ d hd => ?_) fun _ d hd => ?_
  · exact ⟨hpassed.trans hd.1, hd.2.trans (Phase.next_pong hallowed)⟩
  · exact (hpassed.trans hd).founders

/-- What becomes of a reply that a client has waited for. -/
theorem handle_reply {m : Message} (hreply : m.isPing = false)
    (hphase : c.phase = .awaitConnection ∨ c.phase = .challengingWait) :
    Ends (fun _ d => Heard c d m) (fun _ d => Founders c d) (handle w m) c := by
  by_cases hnext : c.phase.next .server m = .error
  · exact handle_refused hnext
  have hpassed := handled_passes (c := c) m (c.phase.next .server m)
  have hallows := Phase.allows_of_next rfl hnext
  have hformal (hm : m.header.IsFormal) (hlives : c.phase.next .server m ≠ .disconnected)
      (hheard : Heard c ((c.note (.handled m)).enter (c.phase.next .server m)) m) :
      Ends (fun _ d => Heard c d m) (fun _ d => Founders c d) (handle w m) c :=
    Ends.of_ok (handle_formal hm hnext hlives) hheard
  have hgone (hgone : c.phase.next .server m = .disconnected)
      (hheard : Heard c (((c.note (.handled m)).enter .disconnected).closeLink w.transport) m) :
      Ends (fun _ d => Heard c d m) (fun _ d => Founders c d) (handle w m) c := by
    refine Ends.of_ok (a := ()) ?_ hheard
    rw [handle_eq hnext, if_pos hgone, hgone]
    rfl
  have hstage : (Occurrence.handled m : Occurrence ι).stage?.toList =
      if m.header = ⟨.connection, .redirect, false⟩ then [.redirected m] else [] := by
    rw [Occurrence.stage?]
    split <;> rfl
  rw [hstage] at hpassed
  -- What the protocol allows of the server while a client waits is what it can have heard.
  generalize hheader : m.header = header at hpassed hallows hformal
  generalize c.phase.next .server m = q at hpassed hallows hformal hgone
  generalize hp : c.phase = p at hallows hphase
  cases hallows with
  | challenged =>
    exact hformal (.inr ⟨rfl, nofun⟩) nofun (.challenged hp (enter_phase _ _) hpassed)
  | accepted =>
    exact hformal (.inr ⟨rfl, nofun⟩) nofun (.accepted hp (enter_phase _ _) hpassed)
  | redirected =>
    exact hformal (.inr ⟨rfl, nofun⟩) nofun (.redirected hp (enter_phase _ _) hpassed)
  | rejected =>
    exact hgone rfl (.rejected hp (enter_phase _ _) (hpassed.trans (.closeLink _ _)))
  | pinged => simp [Message.isPing, hheader] at hreply
  | lockedOut | misunderstood | refused | admitted | exchanged => simp at hphase

/-- However many heartbeats come first, a client gets a reply or founders. -/
theorem awaitReply_ends (rounds : Nat)
    (hphase : c.phase = .awaitConnection ∨ c.phase = .challengingWait) :
    Ends (fun reply d => Heard c d reply) (fun _ d => Founders c d) (awaitReply w rounds) c := by
  induction rounds generalizing c with
  | zero => exact Founders.refl c
  | succ rounds ih =>
    refine nextMessage_ends.of_bind (fun found d hd => ?_) fun _ _ => id
    obtain ⟨hpassed, hsame⟩ := hd
    have hwaiting : d.phase = .awaitConnection ∨ d.phase = .challengingWait := hsame ▸ hphase
    cases found with
    | none => exact hpassed.founders
    | some m =>
      cases hping : m.isPing with
      | true =>
        -- The reply is heard by a client that has not moved.
        refine (handle_ping hping hwaiting).of_bind (fun _ e he => ?_) fun _ _ he => ?_
        · obtain ⟨hon, hstill⟩ := he
          rw [if_pos hping]
          refine (ih (hstill ▸ hwaiting)).mono (fun reply f hf => ?_) fun _ f hf => ?_
          · exact hf.of_passes (hpassed.trans hon) (hstill.trans hsame)
          · exact (hpassed.trans hon).founders.trans hf
        · exact hpassed.founders.trans he
      | false =>
        refine (handle_reply hping hwaiting).of_bind (fun _ e he => ?_) fun _ _ he => ?_
        · rw [if_neg (Bool.eq_false_iff.mp hping)]
          exact he.of_passes hpassed hsame
        · exact hpassed.founders.trans he

/-! ## One hop -/

/-- Opening the transport is the first stage of a hop, and a challenge adds none. -/
theorem openAndAwaitChallenge_ends (hphase : c.phase = .awaitConnection) :
    Ends (fun _ d => Passes [.opened c.link.uri] c d ∧ d.phase = .challenging)
      (fun _ d => ∃ tail, (∀ stage ∈ tail, stage = .closed) ∧
        Passes (.opened c.link.uri :: tail) c d)
      (openAndAwaitChallenge w) c := by
  have hopened : Passes [.opened c.link.uri] c
      (c.use w.transport .openLink (.opened c.link.uri)).2 :=
    .of_noted (.opened _ _) (history_eq_of_noted (use_journal ..)) rfl rfl rfl rfl
  have hfounders {d : Client σ ι}
      (h : Founders (c.use w.transport .openLink (.opened c.link.uri)).2 d) :
      ∃ tail, (∀ stage ∈ tail, stage = .closed) ∧ Passes (.opened c.link.uri :: tail) c d := by
    obtain ⟨tail, hclosed, hpassed⟩ := h
    exact ⟨tail, hclosed, hopened.trans hpassed⟩
  show Ends _ _ (ofOutcome (c.link.call w.transport .openLink).1 >>= fun _ =>
      awaitReply w w.patience >>= fun _ => get >>= fun e : Client σ ι =>
        if e.phase ≠ .challenging then giveUp w .connect else pure () : Session σ ι Unit)
      (c.use w.transport .openLink (.opened c.link.uri)).2
  cases (c.link.call w.transport .openLink).1 with
  | error e => exact hfounders (.refl _)
  | ok _ =>
    have hwaited := awaitReply_ends (w := w)
      (c := (c.use w.transport .openLink (.opened c.link.uri)).2) w.patience (.inl hphase)
    refine hwaited.of_bind (fun reply d hd => ?_) fun _ _ => hfounders
    cases hd with
    | challenged _ hchallenging hpassed =>
      refine Ends.of_ok (a := ()) ?_ ⟨hopened.trans hpassed, hchallenging⟩
      rw [get_bind_apply, if_neg fun hnot => hnot hchallenging]
      rfl
    | accepted hwaiting | redirected hwaiting | rejected hwaiting =>
      exact absurd (hphase.symm.trans hwaiting) nofun

/-- A hop opens the transport and answers a challenge, and then a reply is heard; or it stops
before that. -/
theorem hop_ends (hphase : c.phase = .awaitConnection) :
    Ends (fun reply d => ∃ e, e.phase = .challengingWait ∧
        Passes [.opened c.link.uri, .said (challengeResponse c.uri)] c e ∧ Heard e d reply)
      (fun _ d => ∃ tail, (∀ stage ∈ tail, stage.isOpening = false ∧ stage.isRedirection = false) ∧
        Passes (.opened c.link.uri :: tail) c d)
      (hop w) c := by
  have hclosed {tail : List Stage} (h : ∀ stage ∈ tail, stage = .closed) :
      ∀ stage ∈ tail, stage.isOpening = false ∧ stage.isRedirection = false := by
    intro stage hstage
    rw [h stage hstage]
    exact ⟨rfl, rfl⟩
  refine (openAndAwaitChallenge_ends hphase).of_bind (fun _ d hd => ?_) fun _ d hd => ?_
  · obtain ⟨hopened, hchallenging⟩ := hd
    have hnext : d.phase.next .client (challengeResponse d.uri) = .challengingWait := by
      rw [hchallenging]
      rfl
    show Ends _ _ (send w.transport (challengeResponse d.uri) >>= fun _ =>
      awaitReply w w.patience : Session σ ι Message) d
    refine (send_ends (by rw [hnext]; exact nofun)).of_bind (fun _ e he => ?_) fun _ e he => ?_
    · obtain ⟨hsaid, hwaiting⟩ := he
      have hpassed := hopened.trans hsaid
      rw [hopened.uri] at hpassed
      refine (awaitReply_ends w.patience (.inr (hwaiting.trans hnext))).mono (fun reply f hf => ?_)
        fun _ f hf => ?_
      · exact ⟨e, hwaiting.trans hnext, hpassed, hf⟩
      · obtain ⟨tail, htail, hon⟩ := hf
        refine ⟨.said (challengeResponse c.uri) :: tail, ?_, hpassed.trans hon⟩
        exact List.forall_mem_cons.mpr ⟨⟨rfl, rfl⟩, hclosed htail⟩
    · exact ⟨[.said (challengeResponse d.uri)], by simp [Stage.isOpening, Stage.isRedirection],
        hopened.trans he⟩
  · obtain ⟨tail, htail, hpassed⟩ := hd
    exact ⟨tail, hclosed htail, hpassed⟩

end Session

end Realtime
