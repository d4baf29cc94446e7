import Realtime.Proofs.Client.Hop

/-!
# The way to a server

A client that connects may be sent on, from one address to the next, as often as its settings
allow. Each time it closes its transport and makes another hop, to where the server says. This
module tells the way that it takes, whatever the server does. In the end its own address, the
address of its transport and the one that was opened last are the same.

Results:
1. `handshake_ends`: the hops of a handshake.
2. `connect_itinerary`: the way of a client that connects, and how it ends.
-/

namespace Realtime

variable {σ ι : Type}

/-! ## Several hops -/

namespace Client

open Session

/-- The stages of the hops on which a client is sent on, the first of them at an address. -/
def passage : String → List Message → List Stage
  | _, [] => []
  | uri, reply :: others =>
    [.opened (some uri), .said (Session.challengeResponse uri), .redirected reply, .closed] ++
      passage (Session.redirectTarget reply) others

/-- Where redirections lead from an address. -/
def destination : String → List Message → String
  | uri, [] => uri
  | _, reply :: others => destination (Session.redirectTarget reply) others

variable {w : Surroundings σ ι} {c d e : Client σ ι} {followed : List Message}
  {tail more : List Stage} {reply : Message}

/-- Between two states the client has followed these redirections, has opened its transport
where they led, and has passed these stages after that. It and its transport are bound for
where they led. -/
structure Journey (followed : List Message) (tail : List Stage) (c d : Client σ ι) : Prop where
  traces :
    Traces (passage c.uri followed ++ .opened (some (destination c.uri followed)) :: tail) c d
  uri : d.uri = destination c.uri followed
  target : d.link.uri = some (destination c.uri followed)
  config : d.config = c.config

theorem Journey.of_passes (htarget : c.link.uri = some c.uri)
    (h : Passes (.opened c.link.uri :: tail) c d) : Journey [] tail c d where
  traces := htarget ▸ h.traces
  uri := h.uri
  target := h.target.trans htarget
  config := h.config

theorem Journey.trans (h : Journey followed tail c d) (hmore : Passes more d e) :
    Journey followed (tail ++ more) c e where
  traces := by
    have hboth := h.traces.trans hmore.traces
    rwa [List.append_assoc, List.cons_append] at hboth
  uri := hmore.uri.trans h.uri
  target := hmore.target.trans h.target
  config := hmore.config.trans h.config

/-- Whatever passes no stage before a journey makes no difference to it. -/
theorem Journey.of_start (hstart : Passes [] c d) (h : Journey followed tail d e) :
    Journey followed tail c e := by
  have huri : d.uri = c.uri := hstart.uri
  refine ⟨hstart.traces.trans ?_, ?_, ?_, h.config.trans hstart.config⟩
  · rw [← huri]
    exact h.traces
  · rw [← huri]
    exact h.uri
  · rw [← huri]
    exact h.target

theorem retarget_traces (uri : String) (c : Client σ ι) : Traces [] c (c.retarget uri) := by
  refine ⟨[.targeted uri], history_eq_of_noted (retarget_journal ..), rfl, fun what hwhat => ?_⟩
  rw [List.mem_singleton.mp hwhat]
  rfl

/-- A client that is sent on goes on from where it is sent. -/
theorem Journey.after_redirect
    (hsent : Passes [.opened (some c.uri), .said (challengeResponse c.uri), .redirected reply] c d)
    (h : Journey followed tail ((d.closeLink w.transport).retarget (redirectTarget reply)) e) :
    Journey (reply :: followed) tail c e where
  traces := by
    have hleft := (hsent.traces.trans (Passes.closeLink w.transport d).traces).trans
      (retarget_traces (redirectTarget reply) (d.closeLink w.transport))
    exact hleft.trans h.traces
  uri := h.uri
  target := h.target
  config := h.config.trans hsent.config

end Client

namespace Session

open Client

variable {w : Surroundings σ ι} {c d : Client σ ι}

/-- How a handshake fails that may follow so many redirections: the client has lost its way, and
if it was sent on then to where it may not go; or it was sent on once too often, and complains. -/
inductive Strands (w : Surroundings σ ι) (hops : Nat) (followed : List Message)
    (tail : List Stage) (c : Client σ ι) : Stop → Client σ ι → Prop
  | lost {stop : Stop} {d : Client σ ι} : Journey followed tail c d →
      (∀ reply, .redirected reply ∈ tail →
        followed.length < hops ∧ w.checkUri (redirectTarget reply) ≠ .ok ()) →
      Strands w hops followed tail c stop d
  | turned {reply : Message} {d : Client σ ι} : Journey followed tail c d →
      followed.length = hops → .redirected reply ∈ tail →
      Strands w hops followed tail c
        (.failed (.tooManyRedirections c.config.maxRedirections.toNat))
        (d.note (.reported (.tooManyRedirections c.config.maxRedirections.toNat)))

/-- The server has sent the client on by these replies, which it may do so often. -/
structure Follows (w : Surroundings σ ι) (hops : Nat) (followed : List Message) : Prop where
  accepted : ∀ reply ∈ followed, w.checkUri (redirectTarget reply) = .ok ()
  length : followed.length ≤ hops

/-- The last hop of a client opens nothing more, and it is sent on at most once. -/
structure Last (tail : List Stage) : Prop where
  openings : ∀ stage ∈ tail, stage.isOpening = false
  redirections : tail.countP Stage.isRedirection ≤ 1

/-- Closing the transport is part of the last hop. -/
theorem Last.closing {tail extra : List Stage} (h : Last tail)
    (hclosed : ∀ stage ∈ extra, stage = .closed) : Last (tail ++ extra) := by
  refine ⟨fun stage hstage => ?_, ?_⟩
  · obtain hbefore | hlater := List.mem_append.mp hstage
    · exact h.openings stage hbefore
    · rw [hclosed stage hlater]
      rfl
  · have hnone : extra.countP Stage.isRedirection = 0 :=
      List.countP_eq_zero.mpr fun stage hstage => by rw [hclosed stage hstage]; exact nofun
    rw [List.countP_append, hnone]
    exact h.redirections

/-- A handshake has succeeded that may follow so many redirections. -/
def Arrives (w : Surroundings σ ι) (hops : Nat) (c d : Client σ ι) : Prop :=
  d.phase = .awaitAuthentication ∧ ∃ followed, Follows w hops followed ∧
    Journey followed [.said (challengeResponse (destination c.uri followed))] c d

/-- A handshake has failed that may follow so many redirections. -/
def Fails (w : Surroundings σ ι) (hops : Nat) (c : Client σ ι) (stop : Stop) (d : Client σ ι) :
    Prop :=
  ∃ followed tail, Follows w hops followed ∧ Last tail ∧ Strands w hops followed tail c stop d

theorem Follows.nil {hops : Nat} : Follows w hops [] :=
  ⟨List.forall_mem_nil _, Nat.zero_le _⟩

/-- What holds of the hops after a redirection holds of all of them. -/
theorem Follows.cons {hops : Nat} {reply : Message} {followed : List Message}
    (hreply : w.checkUri (redirectTarget reply) = .ok ()) (h : Follows w hops followed) :
    Follows w (hops + 1) (reply :: followed) :=
  ⟨List.forall_mem_cons.mpr ⟨hreply, h.accepted⟩, Nat.succ_le_succ h.length⟩

section Redirection

variable {reply : Message} {fewer : Nat} {e : Client σ ι} {stop : Stop}
  (hreply : w.checkUri (redirectTarget reply) = .ok ())
  (hsent : Passes [.opened (some c.uri), .said (challengeResponse c.uri), .redirected reply] c d)
include hreply hsent

theorem Arrives.after_redirect
    (h : Arrives w fewer ((d.closeLink w.transport).retarget (redirectTarget reply)) e) :
    Arrives w (fewer + 1) c e := by
  obtain ⟨hphase, followed, hfollows, hjourney⟩ := h
  exact ⟨hphase, reply :: followed, hfollows.cons hreply, hjourney.after_redirect hsent⟩

theorem Fails.after_redirect
    (h : Fails w fewer ((d.closeLink w.transport).retarget (redirectTarget reply)) stop e) :
    Fails w (fewer + 1) c stop e := by
  obtain ⟨followed, tail, hfollows, hlast, hstrands⟩ := h
  refine ⟨reply :: followed, tail, hfollows.cons hreply, hlast, ?_⟩
  cases hstrands with
  | lost hjourney hbarred =>
    refine .lost (hjourney.after_redirect hsent) fun reply hturned => ?_
    obtain ⟨hlength, hcheck⟩ := hbarred reply hturned
    exact ⟨Nat.succ_lt_succ hlength, hcheck⟩
  | turned hjourney hlength hturned =>
    have hconfig : ((d.closeLink w.transport).retarget (redirectTarget reply)).config = c.config :=
      hsent.config
    rw [hconfig]
    exact .turned (hjourney.after_redirect hsent) (congrArg Nat.succ hlength) hturned

end Redirection

/-- Whoever loses the way on the first hop has opened the transport once. -/
theorem Fails.of_lost {hops : Nat} {stop : Stop} {tail : List Stage}
    (htarget : c.link.uri = some c.uri) (hpassed : Passes (.opened c.link.uri :: tail) c d)
    (hlast : Last tail) (hbarred : ∀ reply, .redirected reply ∈ tail →
      0 < hops ∧ w.checkUri (redirectTarget reply) ≠ .ok ()) : Fails w hops c stop d :=
  ⟨[], tail, .nil, hlast, .lost (.of_passes htarget hpassed) hbarred⟩

/-- What a client does with a reply that ends a hop, if it can go on where it is sent. -/
theorem concludeHop_ends {hops : Nat} {reply : Message} {e : Client σ ι}
    (htarget : c.link.uri = some c.uri)
    (hgoes : ∀ fewer < hops, ∀ c : Client σ ι, c.link.uri = some c.uri →
      c.phase = .awaitConnection →
      Ends (fun _ d => Arrives w fewer c d) (Fails w fewer c) (handshake w fewer) c)
    (hwaiting : e.phase = .challengingWait)
    (hpassed : Passes [.opened c.link.uri, .said (challengeResponse c.uri)] c e)
    (hheard : Heard e d reply) :
    Ends (fun _ d => Arrives w hops c d) (Fails w hops c) (concludeHop w reply hops d.phase) d := by
  cases hheard with
  | challenged hopening => exact absurd (hwaiting.symm.trans hopening) nofun
  | accepted _ hphase hon =>
    rw [hphase]
    exact ⟨hphase, [], .nil, .of_passes htarget (hpassed.trans hon)⟩
  | rejected _ hphase hon =>
    rw [hphase]
    have hend := hpassed.trans (hon.trans (Passes.reported (x := .rejected) rfl d))
    exact Fails.of_lost htarget hend ⟨by simp [Stage.isOpening], Nat.zero_le _⟩ (by simp)
  | redirected _ hphase hon =>
    rw [hphase]
    have hsent := hpassed.trans hon
    cases hops with
    | zero =>
      -- The redirection that reaches the limit is not followed, wherever it leads.
      have hshut := hsent.trans (Passes.shut w.transport d)
      have hconfig : (d.shut w.transport).config = c.config := hshut.config
      have hturned : Stage.redirected reply ∈
          [.said (challengeResponse c.uri), .redirected reply, .closed] :=
        List.mem_cons_of_mem _ List.mem_cons_self
      show Fails w 0 c (.failed (.tooManyRedirections _)) ((d.shut w.transport).note _)
      rw [hconfig]
      exact ⟨[], _, .nil, ⟨by simp [Stage.isOpening], Nat.le_refl _⟩,
        .turned (.of_passes htarget hshut) rfl hturned⟩
    | succ fewer =>
      have hfollowed := followRedirect_eq (w := w) (c := d) reply
      show Ends _ _ (followRedirect w reply >>= fun _ => handshake w fewer) d
      unfold Ends
      cases hcheck : w.checkUri (redirectTarget reply) with
      | error fault =>
        rw [hcheck] at hfollowed
        rw [bind_of_error hfollowed]
        refine .of_lost htarget hsent ⟨by simp [Stage.isOpening], Nat.le_refl _⟩
          fun other hother => ?_
        obtain rfl : other = reply := by simpa using hother
        rw [hcheck]
        exact ⟨Nat.succ_pos _, by simp⟩
      | ok _ =>
        rw [hcheck] at hfollowed
        rw [bind_of_ok hfollowed]
        rw [htarget] at hsent
        have hon := hgoes fewer fewer.lt_succ_self
          ((d.closeLink w.transport).retarget (redirectTarget reply)) rfl hphase
        exact hon.mono (fun _ _ harrives => harrives.after_redirect hcheck hsent)
          fun _ _ hfails => hfails.after_redirect hcheck hsent

/-- The hops of a handshake. -/
theorem handshake_ends (htarget : c.link.uri = some c.uri) (hphase : c.phase = .awaitConnection)
    (hops : Nat) :
    Ends (fun _ d => Arrives w hops c d) (Fails w hops c) (handshake w hops) c := by
  induction hops using Nat.strongRecOn generalizing c with
  | ind hops ih =>
    rw [handshake_eq]
    refine (hop_ends hphase).of_bind (fun reply d hd => ?_) fun stop d hd => ?_
    · obtain ⟨e, hwaiting, hpassed, hheard⟩ := hd
      exact concludeHop_ends htarget (fun fewer hfewer _ => ih fewer hfewer) hwaiting hpassed hheard
    · obtain ⟨tail, htail, hpassed⟩ := hd
      refine .of_lost htarget hpassed ⟨fun stage hstage => (htail stage hstage).1, ?_⟩ ?_
      · rw [List.countP_eq_zero.mpr fun stage hstage => Bool.eq_false_iff.mp (htail stage hstage).2]
        exact Nat.zero_le _
      · intro reply hreply
        exact absurd (htail _ hreply).2 nofun

end Session

/-! ## Where a client is bound for -/

namespace Client

variable {w : Surroundings σ ι} {c d : Client σ ι}

/-- The client and its transport are bound for the same address. -/
def Headed (c : Client σ ι) : Prop :=
  c.link.uri = some c.uri

theorem Sending.headed {m : Message} (h : Sending w.transport c m d) (hc : Headed c) :
    Headed d := by
  cases h <;> exact hc

theorem Act.headed (h : Act w c d) (hc : Headed c) : Headed d := by
  cases h with
  | kept hkept =>
    unfold Headed
    rw [hkept.clerical.link, hkept.clerical.uri]
    exact hc
  | _ => exact hc

theorem Reception.headed (h : Reception w c d) (hc : Headed c) : Headed d := by
  cases h with
  | acted hact => exact hact.headed hc
  | ponged hsent => exact hsent.headed hc
  | _ => exact hc

theorem Move.headed (h : Move w c d) (hc : Headed c) : Headed d := by
  cases h with
  | negotiated hnegotiated =>
    cases hnegotiated with
    | heard hheard => exact hheard.headed hc
    | opened => exact hc
    | redirected => rfl
    | responded _ _ hsent => exact hsent.headed hc
    | applied _ hsent => exact hsent.headed hc
  | @flushed m rest _ _ hsent => exact hsent.headed (c := c.drawn m rest) hc
  | dropped => exact hc

theorem restart_passes (c : Client σ ι) : Passes [] c c.restart := by
  have hnoted : Passes [] c (c.discardIncoming.note .restarted) :=
    .of_noted .restarted (note_history c.discardIncoming _) rfl rfl rfl rfl
  exact hnoted.trans (.enter _ _)

theorem Passes.headed {list : List Stage} (h : Passes list c d) (hc : Headed c) : Headed d := by
  unfold Headed
  rw [h.uri, h.target]
  exact hc

theorem Reached.headed {start : Nat} (h : Reached w start c) : Headed c := by
  refine h.invariant (P := fun _ c => Headed c) (fun _ _ _ c hmade => ?_)
    (fun _ c hc => (restart_passes c).headed hc) fun _ _ _ hc hmove => hmove.headed hc
  unfold create at hmade
  split at hmade
  · cases hmade
  · split at hmade <;> cases hmade
    rfl

end Client

/-! ## The way of a client that connects -/

/-- How many hops a client makes at most. -/
def Config.hopLimit (config : Config) : Nat :=
  max 1 config.maxRedirections.toNat

theorem Config.hopLimit_eq (config : Config) :
    config.maxRedirections.toNat - 1 + 1 = config.hopLimit := by
  unfold Config.hopLimit
  omega

theorem Config.hopLimit_lt (config : Config) : config.hopLimit < UInt32.size :=
  Nat.max_lt.mpr ⟨by decide, config.maxRedirections.toNat_lt_size⟩

namespace Client

open Session

variable {w : Surroundings σ ι} {c d e : Client σ ι} {followed : List Message}
  {tail : List Stage}

/-- The way of a client that connects, by what it has done: it is sent on by some replies, and
after the last of them it opens its transport once more. -/
structure Itinerary (w : Surroundings σ ι) (c : Client σ ι) (whats : List (Occurrence ι))
    (followed : List Message) (tail : List Stage) : Prop where
  history : ((connect w).after c).history = c.history ++ whats
  /-- The stages of each hop on which it is sent on, and those of the last hop. -/
  way : stages whats =
    passage c.uri followed ++ .opened (some (destination c.uri followed)) :: tail
  /-- It goes only where it may be sent. -/
  accepted : ∀ reply ∈ followed, w.checkUri (redirectTarget reply) = .ok ()
  /-- It opens its transport once on each hop, and makes no more hops than it may. -/
  openings : (stages whats).countP Stage.isOpening = followed.length + 1 ∧
    followed.length + 1 ≤ c.config.hopLimit
  /-- It is never sent on more often than can be counted. -/
  redirections : (stages whats).countP Stage.isRedirection ≤ c.config.hopLimit ∧
    c.config.hopLimit < UInt32.size
  /-- In the end it is bound for where it opened its transport last, and so is its transport. -/
  uri : ((connect w).after c).uri = destination c.uri followed
  target : ((connect w).after c).link.uri = some (destination c.uri followed)
  /-- It goes wherever it is sent, unless it may not go there or has made all its hops. -/
  barred : ∀ reply, .redirected reply ∈ tail →
    followed.length + 1 = c.config.hopLimit ∨ w.checkUri (redirectTarget reply) ≠ .ok ()
  /-- If it succeeds, the last hop is nothing but opening and answering. -/
  arrived : (connect w).succeeds c →
    tail = [.said (challengeResponse (destination c.uri followed))] ∧
      ((connect w).after c).phase = .awaitAuthentication
  /-- It complains of too many redirections if it is sent on from the last hop it may make, and
  only then. -/
  turned : (connect w c = .error
        (.failed (.tooManyRedirections c.config.maxRedirections.toNat)) ((connect w).after c) ∧
      .reported (.tooManyRedirections c.config.maxRedirections.toNat) ∈ whats) ↔
    followed.length + 1 = c.config.hopLimit ∧ ∃ reply, .redirected reply ∈ tail

theorem passage_counts (uri : String) (followed : List Message) :
    (passage uri followed).countP Stage.isOpening = followed.length ∧
      (passage uri followed).countP Stage.isRedirection = followed.length := by
  induction followed generalizing uri with
  | nil => exact ⟨rfl, rfl⟩
  | cons reply others ih =>
    obtain ⟨hopenings, hredirections⟩ := ih (redirectTarget reply)
    simp [passage, List.countP_cons, Stage.isOpening, Stage.isRedirection, hopenings, hredirections]

theorem Itinerary.intro {whats : List (Occurrence ι)}
    (hhistory : ((connect w).after c).history = c.history ++ whats)
    (hstages : stages whats =
      passage c.uri followed ++ .opened (some (destination c.uri followed)) :: tail)
    (hfollows : Follows w (c.config.maxRedirections.toNat - 1) followed) (hlast : Last tail)
    (huri : ((connect w).after c).uri = destination c.uri followed)
    (htarget : ((connect w).after c).link.uri = some (destination c.uri followed))
    (hbarred : ∀ reply, .redirected reply ∈ tail →
      followed.length + 1 = c.config.hopLimit ∨ w.checkUri (redirectTarget reply) ≠ .ok ())
    (harrived : (connect w).succeeds c →
      tail = [.said (challengeResponse (destination c.uri followed))] ∧
        ((connect w).after c).phase = .awaitAuthentication)
    (hturned : (connect w c = .error
          (.failed (.tooManyRedirections c.config.maxRedirections.toNat)) ((connect w).after c) ∧
        .reported (.tooManyRedirections c.config.maxRedirections.toNat) ∈ whats) ↔
      followed.length + 1 = c.config.hopLimit ∧ ∃ reply, .redirected reply ∈ tail) :
    Itinerary w c whats followed tail := by
  obtain ⟨hopenings, hredirections⟩ := passage_counts c.uri followed
  have hlimit : followed.length + 1 ≤ c.config.hopLimit := by
    rw [← Config.hopLimit_eq]
    exact Nat.succ_le_succ hfollows.length
  refine ⟨hhistory, hstages, hfollows.accepted, ⟨?_, hlimit⟩, ⟨?_, Config.hopLimit_lt _⟩, huri,
    htarget, hbarred, harrived, hturned⟩
  · have hnone : tail.countP Stage.isOpening = 0 :=
      List.countP_eq_zero.mpr fun stage hstage => Bool.eq_false_iff.mp (hlast.openings stage hstage)
    rw [hstages, List.countP_append, List.countP_cons, hopenings, hnone]
    rfl
  · rw [hstages, List.countP_append, List.countP_cons, hredirections]
    exact Nat.le_trans (Nat.add_le_add_left hlast.redirections followed.length) hlimit

theorem abandon_founders : Founders c ((abandon w).after c) := by
  rw [after_of_ok abandon_eq]
  split
  · exact .refl c
  · exact ⟨[.closed], fun _ => List.mem_singleton.mp, .shut w.transport c⟩

/-- The way of a client that succeeds. -/
theorem itinerary_of_arrives (hstart : Passes [] c d)
    (harrives : Arrives w (c.config.maxRedirections.toNat - 1) d e)
    (hrun : connect w c = .ok () e) : ∃ whats followed tail, Itinerary w c whats followed tail := by
  obtain ⟨hphase, followed, hfollows, hjourney⟩ := harrives
  rw [hstart.uri] at hjourney
  have hjourney := hjourney.of_start hstart
  obtain ⟨whats, hhistory, hstages, hcalm⟩ := hjourney.traces
  have hafter : (connect w).after c = e := after_of_ok hrun
  refine ⟨whats, followed, _, .intro (hafter ▸ hhistory) hstages hfollows ⟨?_, Nat.zero_le _⟩
    (hafter ▸ hjourney.uri) (hafter ▸ hjourney.target) ?_ (fun _ => ⟨rfl, hafter ▸ hphase⟩) ?_⟩
  · simp [Stage.isOpening]
  · simp
  · rw [hrun]
    simp

/-- The way of a client that fails. -/
theorem itinerary_of_fails {stop : Stop} {f : Client σ ι} (hstart : Passes [] c d)
    (hfails : Fails w (c.config.maxRedirections.toNat - 1) d stop e) (hend : Founders e f)
    (hrun : connect w c = .error stop f) :
    ∃ whats followed tail, Itinerary w c whats followed tail := by
  obtain ⟨followed, tail, hfollows, hlast, hstrands⟩ := hfails
  obtain ⟨extra, hclosed, hmore⟩ := hend
  have hafter : (connect w).after c = f := after_of_error hrun
  have hfailed : ¬ (connect w).succeeds c := by
    unfold Session.succeeds
    rw [hrun]
    exact nofun
  have hextra := hlast.closing hclosed
  have hlimit : followed.length + 1 = c.config.hopLimit ↔
      followed.length = c.config.maxRedirections.toNat - 1 := by
    rw [← Config.hopLimit_eq]
    exact Nat.succ_inj
  cases hstrands with
  | lost hjourney hbarred =>
    have hbarred (reply : Message) (hreply : .redirected reply ∈ tail ++ extra) :
        followed.length + 1 ≠ c.config.hopLimit ∧ w.checkUri (redirectTarget reply) ≠ .ok () := by
      obtain hbefore | hlater := List.mem_append.mp hreply
      · obtain ⟨hlength, hcheck⟩ := hbarred reply hbefore
        exact ⟨mt hlimit.mp (Nat.ne_of_lt hlength), hcheck⟩
      · exact absurd (hclosed _ hlater) nofun
    have hjourney := (hjourney.of_start hstart).trans hmore
    obtain ⟨whats, hhistory, hstages, hcalm⟩ := hjourney.traces
    refine ⟨whats, followed, tail ++ extra, .intro (hafter ▸ hhistory) hstages hfollows hextra
      (hafter ▸ hjourney.uri) (hafter ▸ hjourney.target)
      (fun reply hreply => .inr (hbarred reply hreply).2) (absurd · hfailed) ⟨?_, ?_⟩⟩
    · rintro ⟨-, hreported⟩
      exact absurd (hcalm _ hreported) nofun
    · rintro ⟨hlength, reply, hreply⟩
      exact absurd hlength (hbarred reply hreply).1
  | @turned reply g hjourney hlength hturned =>
    -- The complaint stands between the last hop and what is done to abandon it.
    have hjourney := hjourney.of_start hstart
    rw [hstart.config] at hrun hmore
    obtain ⟨whats, hhistory, hstages, -⟩ := hjourney.traces
    obtain ⟨later, hlater, hmoreStages, -⟩ := hmore.traces
    refine ⟨whats ++ .reported (.tooManyRedirections c.config.maxRedirections.toNat) :: later,
      followed, tail ++ extra, .intro ?_ ?_ hfollows hextra ?_ ?_
      (fun _ _ => .inl (hlimit.mpr hlength)) (absurd · hfailed) ⟨fun _ => ?_, fun _ => ?_⟩⟩
    · rw [hafter, hlater, note_history, hhistory]
      simp
    · refine (stages_append ..).trans ?_
      show stages whats ++ stages later = _
      rw [hstages, hmoreStages, List.append_assoc, List.cons_append]
    · rw [hafter]
      exact hmore.uri.trans hjourney.uri
    · rw [hafter]
      exact hmore.target.trans hjourney.target
    · exact ⟨hlimit.mpr hlength, reply, List.mem_append_left _ hturned⟩
    · refine ⟨hafter.symm ▸ hrun, ?_⟩
      simp

/-- Whatever the transport and the server do, a client that connects goes from one address to
the next as often as it may. It opens its transport on each hop and at the end of the way is
bound, as is its transport, for where it opened that last. If it succeeds, it has done nothing
but open its transport, answer the challenge and close on every hop that it was sent on from,
and open it and answer on the last one. It complains of too many redirections if it is sent on
from the last hop it may make, and only then. -/
theorem connect_itinerary {start : Nat} (h : Reached w start c)
    (hphase : c.phase = .awaitConnection ∨ c.phase = .disconnected) :
    ∃ whats followed tail, Itinerary w c whats followed tail := by
  have hstarts : ∃ d, (startSession : Session σ ι Unit) c = .ok () d ∧
      d.phase = .awaitConnection ∧ Passes [] c d := by
    obtain hphase | hphase := hphase
    · exact ⟨c, by rw [startSession_eq, hphase], hphase, .of_journal_eq rfl rfl rfl rfl⟩
    · exact ⟨c.restart, by rw [startSession_eq, hphase], restart_phase c, restart_passes c⟩
  obtain ⟨d, hstarted, hd, hstart⟩ := hstarts
  have hconnect := connect_eq (w := w) hstarted
  have hends := handshake_ends (w := w) (hstart.headed h.headed) hd
    (d.config.maxRedirections.toNat - 1)
  cases hhand : handshake w (d.config.maxRedirections.toNat - 1) d with
  | ok _ e =>
    have harrives := hends.ok hhand
    rw [hhand] at hconnect
    rw [hstart.config] at harrives
    exact itinerary_of_arrives hstart harrives hconnect
  | error stop e =>
    have hfails := hends.error hhand
    rw [hhand] at hconnect
    rw [hstart.config] at hfails
    cases stop with
    | failed x => exact itinerary_of_fails hstart hfails abandon_founders hconnect
    | exhausted => exact itinerary_of_fails hstart hfails (.refl e) hconnect

/-! ### A client that is sent on twice -/

/-- A server that sends every client on to another, which sends it on to a third. All of them
have heartbeats to be answered first. -/
def farAway : List Script.Rule :=
  [ { on := "open", replies := [Script.frame "C|PI+C|CH+"] },
    { on := "C|CHR|", uri := some "ws://server",
      replies := [Script.frame "C|PI+C|RED|ws://middle+"] },
    { on := "C|CHR|", uri := some "ws://middle", replies := [Script.frame "C|RED|ws://end+"] } ] ++
  Script.welcome

/-- A new client of the first server that makes no more than so many hops. -/
def traveller (limit : UInt32) : Client Script Script.Stimulus where
  config := { Config.standard with maxRedirections := limit }
  uri := "ws://server"
  link :=
    { uri := some "ws://server"
      channel := { isOpen := true }
      state := { rules := farAway } }

/-- The client arrives at the third server if it may make three hops. -/
theorem connect_itinerary_traveller :
    let c := traveller 3
    Reached hospitable 0 c ∧ (c.phase = .awaitConnection ∨ c.phase = .disconnected) ∧
      (∃ whats followed tail, Itinerary hospitable c whats followed tail) ∧
      (connect hospitable).succeeds c ∧ ((connect hospitable).after c).uri = "ws://end" := by
  intro c
  have hmade : create hospitable "ws://server" c.config { rules := farAway } = .ok c := rfl
  have hphase : c.phase = .awaitConnection ∨ c.phase = .disconnected := .inl rfl
  exact ⟨.created hmade, hphase, connect_itinerary (.created hmade) hphase, by decide +kernel,
    by decide +kernel⟩

/-- If it may follow no redirection, it makes one hop. -/
example : stages ((connect hospitable).after (traveller 0)).history =
    [.opened (some "ws://server"), .said (challengeResponse "ws://server"),
      .redirected (.plain .connection .redirect [Utf8.encode "ws://middle"]), .closed] := by
  decide +kernel

end Client

end Realtime
