import Realtime.Proofs.Client.Flushing
import Realtime.Proofs.Client.Hearing

/-!
# The routine of a client

Connecting, logging in, processing and closing make a client do many things, but only when a
message of the server takes effect is anyone told of anything. Here that is one move as a whole,
with all the callbacks that it leads to. What remains is routine: receiving, opening, closing,
sending, reporting. So whoever wants to know what these requests do for a program need only look
at messages that take effect, and check that the rest does not matter.

What empties the outbox is a routine as well, but only processing and a login that was let in come
to that. So connecting, logging in and closing are walks in every relation that has the other moves.

Results:
1. `handle_walks_of`: a message that tells no one of anything is routine in itself.
2. `connect_suited`, `login_suited`, `close_suited`: these requests are walks of such moves.
3. `execute_routine`: every request that is no command is.
-/

namespace Realtime

variable {σ ι : Type}

namespace Client

/-- What a client does when it is not given a command. -/
inductive Routine (w : Surroundings σ ι) (c : Client σ ι) : Client σ ι → Prop
  /-- The next item is taken from what has come in. -/
  | received (gone : Bool) : Routine w c (c.withInbox (c.inbox.next gone).2)
  /-- A message of the server takes effect, with all that this leads to. -/
  | heard {m : Message} : c.phase.next .server m ≠ .error →
      Routine w c ((Session.handle w m).after c)
  | reported (e : Error) : Routine w c (c.note (.reported e))
  /-- The connection is gone. -/
  | lost : Routine w c { c with phase := .disconnected }
  | shut : Routine w c (c.shut w.transport)
  | restarted : c.phase = .disconnected → Routine w c c.restart
  | opened : Routine w c (c.use w.transport .openLink (.opened c.link.uri)).2
  | redirected (uri : String) : Routine w c ((c.closeLink w.transport).retarget uri)
  /-- Something is said that is not about events or presence. -/
  | said {m : Message} {d : Client σ ι} : ¬ m.isTraffic → Sending w.transport c m d →
      Routine w c d
  /-- A message is taken from the outbox and handed to the transport. -/
  | flushed {m : Message} {rest : List Message} {d : Client σ ι} : c.outbox = m :: rest →
      Sending w.transport (c.drawn m rest) m d → Routine w c d
  /-- A message is taken from the outbox that the protocol does not allow now. -/
  | dropped {m : Message} {rest : List Message} : c.outbox = m :: rest →
      Routine w c (c.drawn m rest)

/-- A relation has every move of the routine but those that empty the outbox. -/
structure Suits (w : Surroundings σ ι) (R : Client σ ι → Client σ ι → Prop) : Prop where
  received (c : Client σ ι) (gone : Bool) : R c (c.withInbox (c.inbox.next gone).2)
  heard {c : Client σ ι} {m : Message} : c.phase.next .server m ≠ .error →
    R c ((Session.handle w m).after c)
  reported (c : Client σ ι) (e : Error) : R c (c.note (.reported e))
  lost (c : Client σ ι) : R c { c with phase := .disconnected }
  shut (c : Client σ ι) : R c (c.shut w.transport)
  restarted {c : Client σ ι} : c.phase = .disconnected → R c c.restart
  opened (c : Client σ ι) : R c (c.use w.transport .openLink (.opened c.link.uri)).2
  redirected (c : Client σ ι) (uri : String) : R c ((c.closeLink w.transport).retarget uri)
  said {c d : Client σ ι} {m : Message} : ¬ m.isTraffic → Sending w.transport c m d → R c d

theorem Routine.suits (w : Surroundings σ ι) : Suits w (Routine w) where
  received _ := .received
  heard := .heard
  reported _ := .reported
  lost _ := .lost
  shut _ := .shut
  restarted := .restarted
  opened _ := .opened
  redirected _ := .redirected
  said := .said

end Client

namespace Session

open Client

variable {α : Type} {w : Surroundings σ ι} {c : Client σ ι}

/-! ## Messages that tell no one of anything -/

/-- Once a message that is not about events or presence has taken effect, the connection is closed,
a heartbeat answered, or nothing done. -/
theorem handle_walks_of {R : Client σ ι → Client σ ι → Prop} {m : Message} (hm : ¬ m.isTraffic)
    (hnext : c.phase.next .server m ≠ .error)
    (hclosed : ∀ d, R d (d.closeLink w.transport))
    (hponged : ∀ d e, Sending w.transport d (.plain .connection .pong) e → R d e) :
    Relation.ReflTransGen R ((c.note (.handled m)).enter (c.phase.next .server m))
      ((handle w m).after c) := by
  unfold after
  rw [handle_eq hnext]
  show Walks R _ _
  split
  · exact Walks.of_modify (hclosed _)
  · unfold dispatch
    split
    · split
      · exact send_walks (hponged _)
      · exact Walks.of_pure _
    · next htopic => simp [Message.isTraffic, htopic] at hm
    · next htopic => simp [Message.isTraffic, htopic] at hm
    · exact Walks.of_pure _

section Suited

variable {R : Client σ ι → Client σ ι → Prop} (hsuits : Suits w R)
include hsuits

/-! ## Receiving -/

theorem report_suited (e : Error) : Walks R (report e) c :=
  Walks.of_modify (hsuits.reported c e)

theorem failReported_suited (e : Error) : Walks R (failReported e : Session σ ι α) c :=
  Walks.of_bind (report_suited hsuits e) fun _ _ _ => Walks.of_fail e

theorem shut_suited : Walks R (shut w.transport) c :=
  Walks.of_modify (hsuits.shut c)

theorem nextMessage_suited (wait : Bool) : Walks R (nextMessage w.transport wait) c :=
  nextMessage_walks_of w.transport wait (fun c e _ => hsuits.reported c e) hsuits.shut hsuits.lost
    (hsuits.received c)

theorem handle_suited (m : Message) : Walks R (handle w m) c := by
  by_cases hnext : c.phase.next .server m = .error
  · have hrefused : Walks R (refuse w c.phase m) c :=
      Walks.of_bind (shut_suited hsuits) fun _ _ _ => failReported_suited hsuits _
    unfold Walks after at hrefused ⊢
    rwa [handle_of_error hnext]
  · exact Relation.ReflTransGen.single (hsuits.heard hnext)

theorem awaitReply_suited (rounds : Nat) : Walks R (awaitReply w rounds) c :=
  awaitReply_walks_of (fun m _ => handle_suited hsuits m) (fun _ => nextMessage_suited hsuits true)
    rounds

theorem drain_suited (rounds : Nat) : Walks R (drain w rounds) c :=
  drain_walks_of (fun m _ => handle_suited hsuits m) (fun _ => nextMessage_suited hsuits false)
    rounds

theorem giveUp_suited (operation : Operation) :
    Walks R (giveUp w operation : Session σ ι α) c :=
  Walks.of_get_bind (Walks.of_bind (shut_suited hsuits) fun _ _ _ => failReported_suited hsuits _)

theorem abandon_suited : Walks R (abandon w) c := by
  refine Walks.of_get_bind ?_
  split
  · exact shut_suited hsuits
  · exact Walks.of_pure _

/-! ## Connecting -/

theorem refuseRedirect_suited : Walks R (refuseRedirect w) c :=
  Walks.of_bind (shut_suited hsuits) fun _ _ _ => Walks.of_get_bind (failReported_suited hsuits _)

theorem followRedirect_suited (reply : Message) : Walks R (followRedirect w reply) c := by
  unfold followRedirect
  dsimp only
  split
  · exact Walks.of_fail _
  · exact Walks.of_modify (hsuits.redirected c _)

theorem openAndAwaitChallenge_suited : Walks R (openAndAwaitChallenge w) c := by
  refine Walks.of_get_bind (Walks.of_modifyGet_bind (hsuits.opened c) ?_)
  refine Walks.of_bind ?_ fun _ d _ => ?_
  · cases (c.use w.transport .openLink (.opened c.link.uri)).1 with
    | ok _ => exact Walks.of_pure _
    | error e => exact Walks.of_fail e
  · refine Walks.of_bind (awaitReply_suited hsuits _) fun _ e _ => Walks.of_get_bind ?_
    split
    · exact giveUp_suited hsuits _
    · exact Walks.of_pure _

theorem hop_suited : Walks R (hop w) c := by
  refine Walks.of_bind (openAndAwaitChallenge_suited hsuits) fun _ d _ => Walks.of_get_bind ?_
  exact Walks.of_bind (send_walks fun _ => hsuits.said nofun) fun _ e _ =>
    awaitReply_suited hsuits _

theorem concludeHop_suited (reply : Message) {hops : Nat} {phase : Phase}
    (hgoes : ∀ fewer < hops, ∀ d, Walks R (handshake w fewer) d) :
    Walks R (concludeHop w reply hops phase) c := by
  cases phase with
  | awaitAuthentication => exact Walks.of_pure _
  | awaitConnection =>
    cases hops with
    | zero => exact refuseRedirect_suited hsuits
    | succ fewer =>
      exact Walks.of_bind (followRedirect_suited hsuits reply) fun _ _ _ =>
        hgoes fewer fewer.lt_succ_self _
  | disconnected => exact failReported_suited hsuits _
  | _ => exact giveUp_suited hsuits _

theorem handshake_suited (hops : Nat) : Walks R (handshake w hops) c := by
  induction hops using Nat.strongRecOn generalizing c with
  | ind hops ih =>
    rw [handshake_eq]
    exact Walks.of_bind (hop_suited hsuits) fun reply d _ => Walks.of_get_bind
      (concludeHop_suited hsuits reply fun fewer hfewer _ => ih fewer hfewer)

theorem startSession_suited : Walks R (startSession : Session σ ι Unit) c := by
  unfold Walks after
  rw [startSession_eq]
  cases hphase : c.phase with
  | disconnected => exact Relation.ReflTransGen.single (hsuits.restarted hphase)
  | _ => exact Relation.ReflTransGen.refl

theorem connect_suited : Walks R (connect w) c := by
  refine Walks.of_bind (startSession_suited hsuits) fun _ d _ => Walks.of_get_bind ?_
  refine Walks.of_bind (Walks.of_attempt (handshake_suited hsuits _)) fun result e _ => ?_
  cases result with
  | ok _ => exact Walks.of_pure _
  | error x => exact Walks.of_bind (abandon_suited hsuits) fun _ _ _ => Walks.of_fail x

/-! ## Logging in and closing -/

section Login

-- Only a client that was let in empties its outbox.
variable (hflush : ∀ c : Client σ ι, c.phase = .connected → Walks R (flush w.transport) c)
include hflush

theorem concludeLogin_suited (reply : Message) :
    Walks R (concludeLogin w reply c.phase) c := by
  cases hphase : c.phase with
  | connected => exact Walks.of_bind (hflush c hphase) fun _ _ _ => Walks.of_pure _
  | awaitAuthentication | disconnected => exact failReported_suited hsuits _
  | _ => exact giveUp_suited hsuits _

theorem authenticate_suited (auth : String) : Walks R (authenticate w auth) c := by
  rw [authenticate_eq]
  refine Walks.of_bind (send_walks fun _ => hsuits.said nofun) fun _ d _ => ?_
  refine Walks.of_bind (awaitReply_suited hsuits _) fun reply e _ => Walks.of_get_bind ?_
  exact concludeLogin_suited hsuits hflush reply

theorem login_suited (auth : String) : Walks R (login w auth) c := by
  refine Walks.of_get_bind ?_
  dsimp only
  split
  · exact Walks.of_fail_bind _
  · refine Walks.of_bind (Walks.of_attempt (authenticate_suited hsuits hflush auth))
      fun result d _ => ?_
    cases result with
    | ok data => exact Walks.of_pure _
    | error x =>
      dsimp only
      split
      · exact Walks.of_bind (abandon_suited hsuits) fun _ _ _ => Walks.of_fail x
      · exact Walks.of_fail x

end Login

theorem close_suited : Walks R (close w) c := by
  rw [Walks, close_after]
  exact Relation.ReflTransGen.single (hsuits.shut c)

end Suited

theorem flush_routine : Walks (Routine w) (flush w.transport) c :=
  Walks.of_get_bind (flushAll_walks (fun _ _ _ _ => .flushed) (fun _ _ _ h _ => .dropped h)
    (fun _ => .reported) rfl)

theorem process_routine : Walks (Routine w) (process w) c :=
  Walks.of_bind (drain_suited (Routine.suits w) _) fun _ _ _ => flush_routine

end Session

namespace Client

variable {w : Surroundings σ ι}

/-- A request that is no command is routine. -/
theorem execute_routine {request : Request ι} (h : ∀ command, request ≠ .command command)
    (c : Client σ ι) : Relation.ReflTransGen (Routine w) c ((execute w request).after c) := by
  have hsuits : Suits w (Routine w) := Routine.suits w
  cases request with
  | connect => exact Session.Walks.of_answer (Session.connect_suited hsuits)
  | login auth =>
    exact Session.Walks.of_answer
      (Session.login_suited hsuits (fun _ _ => Session.flush_routine) auth)
  | process => exact Session.Walks.of_answer Session.process_routine
  | close => exact Session.Walks.of_answer (Session.close_suited hsuits)
  | command command => exact absurd rfl (h command)

end Client

end Realtime
