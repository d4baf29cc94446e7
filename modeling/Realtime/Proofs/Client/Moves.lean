import Realtime.Proofs.Client.Steps
import Realtime.Proofs.Client.Walk

/-!
# The moves of a client

Everything a client does is made of a few moves. They come in layers, each of
which adds to the one before, so that a step of a client can be said to make
moves of the lower layers only:

* `Bookkeeping`: it changes who is to be told of what, and tells the server;
* `Act`: it also emits, calls back, and lets its transport act;
* `Reception`: it also hears the server out and answers its heartbeats;
* `Negotiation`: it also opens its transport, answers challenges, and asks to
  be let in;
* `Move`: it also sends what stands in its outbox.

Each move is listed with the condition under which it is made. What every move
of a layer keeps, every step of that layer keeps, for every transport and however
the callbacks react.

Results:
1. `perform_walks`: a command is made of acts, if what callbacks give is.
2. `runner_tame`: the commands that callbacks give are made of acts.
3. `receiveFrom_walks`, `flush_walks`: receiving is made of receptions, and sending
   what stands in the outbox of what a client does without making a connection.
-/

namespace Realtime

variable {σ ι : Type}

/-! ## What a client may say -/

/-- What a client tells the server of its subscribers, listeners and queries. -/
inductive Announcement : Message → Prop
  | subscribe (name : String) : Announcement (Client.eventMessage .subscribe name)
  | unsubscribe (name : String) : Announcement (Client.eventMessage .unsubscribe name)
  | listen (pattern : String) : Announcement (Client.eventMessage .listen pattern)
  | unlisten (pattern : String) : Announcement (Client.eventMessage .unlisten pattern)
  | accept (pattern name : String) :
      Announcement (.plain .event .listenAccept [Utf8.encode pattern, Utf8.encode name])
  | reject (pattern name : String) :
      Announcement (.plain .event .listenReject [Utf8.encode pattern, Utf8.encode name])
  | follow : Announcement (Client.presenceMessage .subscribe)
  | unfollow : Announcement (Client.presenceMessage .unsubscribe)
  | query : Announcement Client.queryMessage

namespace Client

/-- What the transport has taken since it was opened, after one more occurrence. -/
def sayMore (said : Option (List Message)) : Occurrence ι → Option (List Message)
  | .opened _ (.ok ()) => some []
  | .opened _ (.error _) => none
  | .closed _ => none
  | .sent m (.ok ()) => said.map (· ++ [m])
  | _ => said

/-- What the transport has taken since it was opened. There is nothing to tell if the
last call that opened or closed it was not an opening that succeeded. -/
def saidSinceOpened (journal : List (Entry ι)) : Option (List Message) :=
  journal.foldl (fun said entry => sayMore said entry.what) none

theorem saidSinceOpened_concat (journal : List (Entry ι)) (entry : Entry ι) :
    saidSinceOpened (journal ++ [entry]) = sayMore (saidSinceOpened journal) entry.what :=
  List.foldl_append

/-- The header of the answer to a challenge. -/
def responseHeader : Header :=
  ⟨.connection, .challengeResponse, false⟩

/-- The transport is open, and no challenge was answered since it was opened. -/
def Unanswered (journal : List (Entry ι)) : Prop :=
  ∃ said, saidSinceOpened journal = some said ∧ ∀ m ∈ said, m.header ≠ responseHeader

/-! ## Moves -/

/-- A message is handed to the transport, which takes it or does not. -/
inductive Sending (t : Transport σ ι) (c : Client σ ι) (m : Message) : Client σ ι → Prop
  | taken : c.phase.next .client m ≠ .error → (c.link.call t (.send m.encode)).1 = .ok () →
      Sending t c m (c.delivered t m)
  | refused {e : Error} : c.phase.next .client m ≠ .error →
      (c.link.call t (.send m.encode)).1 = .error e → Sending t c m (c.undelivered t m e)

/-- A client keeps its own books. -/
inductive Bookkeeping (c : Client σ ι) : Client σ ι → Prop
  | subscribed {name : String} (tag : String) (react : Nat → Bytes → List (Command ι)) :
      name ≠ "" → Bookkeeping c ((Session.subscribe name tag react).after c)
  | unsubscribed (name : String) : Bookkeeping c ((Session.unsubscribe name).after c)
  | unsubscribedOne (name : String) (id : SubscriptionId) :
      Bookkeeping c ((Session.unsubscribeId name id).after c)
  | listened {pattern : String} (tag : String) (accepts : Nat → String → Bool → Bool)
      (react : Nat → String → Bool → List (Command ι)) :
      pattern ≠ "" → Bookkeeping c ((Session.listen pattern tag accepts react).after c)
  | unlistened (pattern : String) : Bookkeeping c ((Session.unlisten pattern).after c)
  | followed (tag : String) (react : Nat → String → Bool → List (Command ι)) :
      Bookkeeping c ((Session.followPresence tag react).after c)
  | unfollowed (id : SubscriptionId) : Bookkeeping c ((Session.unfollowPresence id).after c)
  | unfollowedAll : Bookkeeping c (Session.unfollowAllPresence.after c)
  | queried (tag : String) (react : List String → List (Command ι)) :
      Bookkeeping c ((Session.queryPresence tag react).after c)
  /-- The querents are about to be answered. -/
  | answered : Bookkeeping c { c with presence := { c.presence with querents := [] } }
  /-- The server is told whether an event is provided. -/
  | decided (accepted : Bool) (pattern name : String) :
      Bookkeeping c (c.post (.plain .event (if accepted then .listenAccept else .listenReject)
        [Utf8.encode pattern, Utf8.encode name]))
  /-- The call of a callback is counted. -/
  | counted (slot : Nat) : Bookkeeping c (c.countCall slot).2

/-- What commands and callbacks make a client do. -/
inductive Act (w : Surroundings σ ι) (c : Client σ ι) : Client σ ι → Prop
  | kept {d : Client σ ι} : Bookkeeping c d → Act w c d
  /-- An event is accepted, and is to be sent next. -/
  | emitted {name text : String} {data : Bytes} : name ≠ "" → Utf8.decode data = .ok text →
      c.phase = .connected →
      Act w c { c.note (.emitted (Session.emitMessage name data)) with
        outbox := c.outbox ++ [Session.emitMessage name data] }
  /-- An event is accepted, and is to be sent once there is a connection. -/
  | queued {name text : String} {data : Bytes} : name ≠ "" → Utf8.decode data = .ok text →
      c.phase ≠ .connected →
      Act w c { c.note (.emitted (Session.emitMessage name data)) with
        events :=
          { c.events with sendQueue := c.events.sendQueue ++ [Session.emitMessage name data] } }
  | invoked (i : Invocation) : Act w c (c.note (.invoked i))
  | performed (command : Command ι) (result : Except Error Answer) :
      Act w c (c.note (.performed command result))
  /-- The transport acts on its own. -/
  | stimulated (i : ι) : Act w c { c with link := c.link.stimulate w.transport i }

/-- What a client does to hear its server out. -/
inductive Reception (w : Surroundings σ ι) (c : Client σ ι) : Client σ ι → Prop
  | acted {d : Client σ ι} : Act w c d → Reception w c d
  /-- The next event is received. -/
  | received {event : Event} {rest : List Event} : c.link.channel.queue = event :: rest →
      Reception w c
        { c with link := { c.link with channel := { c.link.channel with queue := rest } } }
  /-- The messages of a frame are taken over. -/
  | parsed {frame : Bytes} : (Frame.read frame).faults = [] →
      Reception w c { c with pending := c.pending ++ (Frame.read frame).messages }
  /-- The next message is taken up. -/
  | taken {m : Message} {rest : List Message} : c.pending = m :: rest →
      Reception w c { c with pending := rest }
  /-- A message of the server takes effect. -/
  | handled {m : Message} : c.phase.next .server m ≠ .error →
      (c.phase.next .server m = .connected → c.phase = .connected) →
      Reception w c { c.note (.handled m) with phase := c.phase.next .server m }
  /-- The server lets the client in. -/
  | admitted {m : Message} : c.phase.next .server m = .connected → c.phase ≠ .connected →
      Reception w c (replay { c.note (.handled m) with phase := .connected })
  /-- A heartbeat is answered. -/
  | ponged {d : Client σ ι} : Sending w.transport c (.plain .connection .pong) d →
      Reception w c d
  /-- The transport says that the connection is gone. -/
  | lost : c.phase ≠ .disconnected → Reception w c { c with phase := .disconnected }
  /-- The transport is closed because the server has ended the connection. -/
  | closed : c.phase = .disconnected → Reception w c (c.closeLink w.transport)
  /-- The client ends the connection. -/
  | shut : Reception w c { c.closeLink w.transport with phase := .disconnected }
  /-- An error is reported. -/
  | reported (e : Error) : Reception w c (c.note (.reported e))

/-- What a client does to come to be connected. -/
inductive Negotiation (w : Surroundings σ ι) (c : Client σ ι) : Client σ ι → Prop
  | heard {d : Client σ ι} : Reception w c d → Negotiation w c d
  /-- The transport is opened, which only happens before a challenge. -/
  | opened : c.phase = .awaitConnection →
      Negotiation w c (c.use w.transport .openLink (.opened c.link.uri)).2
  /-- The client leaves for the address that a redirection names. -/
  | redirected {uri : String} : c.phase = .awaitConnection → w.checkUri uri = .ok () →
      Negotiation w c ((c.closeLink w.transport).retarget uri)
  /-- A challenge is answered, once for each time that the transport is opened. -/
  | responded {d : Client σ ι} : c.phase = .challenging → Unanswered c.journal →
      Sending w.transport c (Session.challengeResponse c.uri) d → Negotiation w c d
  /-- Credentials are sent. -/
  | applied {auth : String} {d : Client σ ι} : c.phase = .awaitAuthentication →
      Sending w.transport c (Session.loginMessage auth) d → Negotiation w c d

/-- What a client does in one go. -/
inductive Move (w : Surroundings σ ι) (c : Client σ ι) : Client σ ι → Prop
  | negotiated {d : Client σ ι} : Negotiation w c d → Move w c d
  /-- A message is taken from the outbox and handed to the transport. -/
  | flushed {m : Message} {rest : List Message} {d : Client σ ι} : c.outbox = m :: rest →
      Sending w.transport (c.drawn m rest) m d → Move w c d
  /-- A message is taken from the outbox that the protocol does not allow now. -/
  | dropped {m : Message} {rest : List Message} : c.outbox = m :: rest →
      c.phase.next .client m = .error → Move w c (c.drawn m rest)

/-- What a client does in one go without making a connection. -/
inductive Conversation (w : Surroundings σ ι) (c : Client σ ι) : Client σ ι → Prop
  | heard {d : Client σ ι} : Reception w c d → Conversation w c d
  /-- Credentials are sent. -/
  | applied {auth : String} {d : Client σ ι} : c.phase = .awaitAuthentication →
      Sending w.transport c (Session.loginMessage auth) d → Conversation w c d
  /-- A message is taken from the outbox and handed to the transport. -/
  | flushed {m : Message} {rest : List Message} {d : Client σ ι} : c.outbox = m :: rest →
      Sending w.transport (c.drawn m rest) m d → Conversation w c d
  /-- A message is taken from the outbox that the protocol does not allow now. -/
  | dropped {m : Message} {rest : List Message} : c.outbox = m :: rest →
      c.phase.next .client m = .error → Conversation w c (c.drawn m rest)

variable {w : Surroundings σ ι} {c d : Client σ ι}

theorem Reception.move (h : Reception w c d) : Move w c d :=
  .negotiated (.heard h)

theorem Conversation.move (h : Conversation w c d) : Move w c d := by
  cases h with
  | heard hheard => exact hheard.move
  | applied hphase hsent => exact .negotiated (.applied hphase hsent)
  | flushed houtbox hsent => exact .flushed houtbox hsent
  | dropped houtbox hnext => exact .dropped houtbox hnext

end Client

namespace Session

open Client

variable {w : Surroundings σ ι} {c : Client σ ι}

/-! ## Callbacks and commands -/

/-- A runner makes acts only, whatever commands it is given. -/
def Tame (w : Surroundings σ ι) (run : Runner σ ι) : Prop :=
  ∀ commands c, Walks (Act w) (run commands) c

variable {run : Runner σ ι}

section Layers

variable {α : Type} {step : Session σ ι α}

theorem Walks.acted (h : Walks (Act w) step c) : Walks (Reception w) step c :=
  h.mono fun _ _ => .acted

theorem Walks.heard (h : Walks (Reception w) step c) : Walks (Negotiation w) step c :=
  h.mono fun _ _ => .heard

theorem Walks.conversed (h : Walks (Reception w) step c) : Walks (Conversation w) step c :=
  h.mono fun _ _ => .heard

theorem Walks.moved (h : Walks (Reception w) step c) : Walks (Move w) step c :=
  h.mono fun _ _ => Reception.move

end Layers

/-- A step that is bookkeeping walks in one act. -/
theorem Walks.of_kept {α : Type} {step : Session σ ι α} (h : Bookkeeping c (step.after c)) :
    Walks (Act w) step c :=
  Relation.ReflTransGen.single (.kept h)

theorem invoke_walks {α : Type} (hrun : Tame w run) (callback : Callback ι α) (told : α)
    (what : Invocation) : Walks (Act w) (invoke run callback told what) c := by
  refine Walks.of_modify_bind (.invoked what) ?_
  exact Walks.of_modifyGet_bind (.kept (.counted callback.slot)) (hrun _ _)

theorem notifySubscribers_walks (hrun : Tame w run) (name : String) (data : Bytes) :
    Walks (Act w) (notifySubscribers run name data) c := by
  refine Walks.of_get_bind ?_
  split
  · exact Walks.of_pure _
  · exact Walks.of_forM fun s _ _ => invoke_walks hrun _ _ _

theorem notifyListener_walks (hrun : Tame w run) (pattern name : String) (subscribed : Bool) :
    Walks (Act w) (notifyListener run pattern name subscribed) c := by
  refine Walks.of_get_bind ?_
  split
  · exact Walks.of_pure _
  · next listener _ =>
    refine Walks.of_bind (invoke_walks hrun _ _ _) fun _ d _ => ?_
    split
    · exact Walks.of_kept (.decided (listener.accepts _ name subscribed) pattern name)
    · exact Walks.of_pure _

theorem notifyPresenceSubscribers_walks (hrun : Tame w run) (user : String) (joined : Bool) :
    Walks (Act w) (notifyPresenceSubscribers run user joined) c :=
  Walks.of_get_bind (Walks.of_forM fun _ _ _ => invoke_walks hrun _ _ _)

theorem answerQuerents_walks (hrun : Tame w run) (users : List String) :
    Walks (Act w) (answerQuerents run users) c := by
  refine Walks.of_get_bind (Walks.of_modify_bind (.kept .answered) ?_)
  exact Walks.of_forM fun q _ _ => Walks.of_modify_bind (.invoked _) (hrun _ _)

theorem notifyEvent_walks (hrun : Tame w run) (m : Message) :
    Walks (Act w) (notifyEvent run m) c := by
  unfold notifyEvent
  split
  · exact notifySubscribers_walks hrun _ _
  · exact notifyListener_walks hrun _ _ _
  · exact notifyListener_walks hrun _ _ _
  · exact Walks.of_pure _

theorem notifyPresence_walks (hrun : Tame w run) (m : Message) :
    Walks (Act w) (notifyPresence run m) c := by
  unfold notifyPresence
  split
  · exact answerQuerents_walks hrun _
  · exact notifyPresenceSubscribers_walks hrun _ _
  · exact notifyPresenceSubscribers_walks hrun _ _
  · exact Walks.of_pure _

theorem enqueue_walks {name text : String} {data : Bytes} (hname : name ≠ "")
    (hdata : Utf8.decode data = .ok text) :
    Walks (Act w) (enqueue (emitMessage name data)) c := by
  refine Walks.of_modify ?_
  show Act w c (if c.phase = .connected then _ else _)
  split
  · next hphase =>
    rw [post_of_connected (c.note (.emitted (emitMessage name data))) hphase]
    exact .emitted hname hdata hphase
  · next hphase => exact .queued hname hdata hphase

theorem emit_walks (hrun : Tame w run) (name : String) (data : Bytes) :
    Walks (Act w) (emit run name data) c := by
  refine Walks.of_guard fun hname => ?_
  split
  · exact Walks.of_fail _
  · next hdata =>
    exact Walks.of_bind (enqueue_walks hname hdata) fun _ _ _ =>
      notifySubscribers_walks hrun name data

theorem subscribe_walks (name tag : String) (react : Nat → Bytes → List (Command ι)) :
    Walks (Act w) (subscribe name tag react) c := by
  by_cases hname : name = ""
  · unfold subscribe
    rw [if_pos hname]
    exact Walks.of_fail_bind _
  · exact Walks.of_kept (.subscribed tag react hname)

theorem listen_walks (pattern tag : String) (accepts : Nat → String → Bool → Bool)
    (react : Nat → String → Bool → List (Command ι)) :
    Walks (Act w) (listen pattern tag accepts react) c := by
  by_cases hpattern : pattern = ""
  · unfold listen
    rw [if_pos hpattern]
    exact Walks.of_fail_bind _
  · exact Walks.of_kept (.listened tag accepts react hpattern)

theorem perform_walks (hrun : Tame w run) (command : Command ι) :
    Walks (Act w) (perform w.transport run command) c := by
  cases command with
  | emit name data => exact Walks.of_answer (emit_walks hrun name data)
  | emitJson name text =>
    rw [perform]
    split
    · exact Walks.of_fail _
    · next v _ => exact Walks.of_answer (emit_walks hrun name (Payload.encode v))
  | subscribe name tag react => exact Walks.of_answer (subscribe_walks name tag react)
  | unsubscribe name => exact Walks.of_answer (Walks.of_kept (.unsubscribed name))
  | unsubscribeId name id => exact Walks.of_answer (Walks.of_kept (.unsubscribedOne name id))
  | listen pattern tag accepts react => exact Walks.of_answer (listen_walks pattern tag accepts react)
  | unlisten pattern => exact Walks.of_answer (Walks.of_kept (.unlistened pattern))
  | followPresence tag react => exact Walks.of_answer (Walks.of_kept (.followed tag react))
  | unfollowPresence id => exact Walks.of_answer (Walks.of_kept (.unfollowed id))
  | unfollowAllPresence => exact Walks.of_answer (Walks.of_kept .unfollowedAll)
  | queryPresence tag react => exact Walks.of_answer (Walks.of_kept (.queried tag react))
  | stimulate i => exact Walks.of_modify_bind (.stimulated i) (Walks.of_pure _)

/-- However deep the commands of callbacks lead, they make acts only. -/
theorem runCommands_tame (depth : Nat) : Tame w (runCommands w.transport depth) := by
  induction depth with
  | zero =>
    intro commands c
    cases commands with
    | nil => exact Walks.of_pure _
    | cons => exact Walks.of_exhausted
  | succ depth ih =>
    intro commands c
    cases commands with
    | nil => exact Walks.of_pure _
    | cons first others =>
      refine Walks.of_forM fun command _ d => ?_
      refine Walks.of_bind (Walks.of_attempt (perform_walks ih command)) fun result e _ => ?_
      exact Walks.of_modify (.performed command result)

theorem runner_tame : Tame w (runner w) :=
  runCommands_tame w.patience

/-! ## Sending and receiving -/

theorem report_walks (e : Error) : Walks (Reception w) (report e) c :=
  Walks.of_modify (.reported e)

theorem failReported_walks {α : Type} (e : Error) :
    Walks (Reception w) (failReported e : Session σ ι α) c :=
  Walks.of_bind (report_walks e) fun _ _ _ => Walks.of_fail e

theorem shut_walks : Walks (Reception w) (shut w.transport) c := by
  refine Walks.of_modify ?_
  rw [shut_eq]
  exact .shut

/-- Sending a message is one move, of any kind that a message handed over makes. -/
theorem send_walks {R : Client σ ι → Client σ ι → Prop} {m : Message}
    (hm : ∀ d, Sending w.transport c m d → R c d) : Walks R (send w.transport m) c := by
  unfold Walks after
  rw [send_eq]
  by_cases hnext : c.phase.next .client m = .error
  · rw [if_pos hnext]
  · rw [if_neg hnext]
    cases hcall : (c.link.call w.transport (.send m.encode)).1 with
    | ok _ => exact Relation.ReflTransGen.single (hm _ (.taken hnext hcall))
    | error e => exact Relation.ReflTransGen.single (hm _ (.refused hnext hcall))

theorem takePending_walks : Walks (Reception w) (takePending : Session σ ι _) c := by
  unfold Walks after
  rw [takePending_eq]
  cases hpending : c.pending with
  | nil => exact Relation.ReflTransGen.refl
  | cons m rest => exact Relation.ReflTransGen.single (.taken hpending)

theorem receiveFrame_walks (frame : Bytes) :
    Walks (Reception w) (receiveFrame w.transport frame) c := by
  cases hfaults : (Frame.read frame).faults with
  | nil =>
    rw [receiveFrame_of_faults_nil _ hfaults]
    exact Walks.of_modify (.parsed hfaults)
  | cons first others =>
    rw [receiveFrame_of_faults_cons _ hfaults]
    refine Walks.of_bind (Walks.of_forM fun _ _ _ => report_walks _) fun _ _ _ => ?_
    exact Walks.of_bind shut_walks fun _ _ _ => Walks.of_fail _

theorem receiveFrom_walks {wait : Bool} {events : List Event}
    (h : c.link.channel.queue = events) :
    Walks (Reception w) (receiveFrom w.transport wait events) c := by
  induction events generalizing c with
  | nil =>
    refine Walks.of_get_bind ?_
    split
    · exact failReported_walks _
    · exact Walks.of_pure _
  | cons event rest ih =>
    refine Walks.of_modify_bind (.received h) ?_
    cases event with
    | opened => exact ih rfl
    | frame bytes =>
      refine Walks.of_bind (receiveFrame_walks bytes) fun _ d hd => ?_
      refine Walks.of_bind takePending_walks fun found e he => ?_
      cases found with
      | some m => exact Walks.of_pure _
      | none =>
        -- Neither the frame nor the look at what is pending touched the queue.
        obtain ⟨-, rfl⟩ := receiveFrame_ok _ _ hd
        rw [takePending_none he]
        exact ih rfl
    | failed reason => exact failReported_walks _
    | closed =>
      refine Walks.of_get_bind ?_
      split
      · exact ih rfl
      · next hphase =>
        refine Walks.of_modify_bind ?_ (failReported_walks _)
        rw [enter_disconnected]
        exact .lost hphase

theorem nextMessage_walks (wait : Bool) :
    Walks (Reception w) (nextMessage w.transport wait) c := by
  refine Walks.of_bind takePending_walks fun found d _ => ?_
  cases found with
  | some m => exact Walks.of_pure _
  | none => exact Walks.of_get_bind (receiveFrom_walks rfl)

/-- Letting a message of the server take effect is one move. -/
theorem handled_reception {m : Message} (hnext : c.phase.next .server m ≠ .error) :
    Reception w c ((c.note (.handled m)).enter (c.phase.next .server m)) := by
  by_cases hadmitted : c.phase.next .server m = .connected ∧ c.phase ≠ .connected
  · obtain ⟨hin, hout⟩ := hadmitted
    rw [hin, enter_connected (c.note (.handled m)) hout]
    exact .admitted hin hout
  · have hstays : c.phase.next .server m = .connected → c.phase = .connected := fun hin =>
      Decidable.not_not.mp fun hout => hadmitted ⟨hin, hout⟩
    rw [enter_eq (c.note (.handled m)) hstays]
    exact .handled hnext hstays

/-- Flushing is made of three kinds of moves, in any relation that has them. -/
theorem flushAll_walks {R : Client σ ι → Client σ ι → Prop}
    (hflushed : ∀ c m rest d, c.outbox = m :: rest →
      Sending w.transport (c.drawn m rest) m d → R c d)
    (hdropped : ∀ c m rest, c.outbox = m :: rest → c.phase.next .client m = .error →
      R c (c.drawn m rest))
    (hreported : ∀ c e, R c (c.note (.reported e))) {ms : List Message} (h : c.outbox = ms) :
    Walks R (flushAll w.transport ms) c := by
  induction ms generalizing c with
  | nil => exact Walks.of_pure _
  | cons m rest ih =>
    unfold Walks after
    rw [flushAll_cons]
    by_cases hnext : c.phase.next .client m = .error
    · rw [if_pos hnext]
      exact (Relation.ReflTransGen.single (hdropped c m rest h hnext)).tail (hreported _ _)
    · rw [if_neg hnext]
      cases hcall : (c.link.call w.transport (.send m.encode)).1 with
      | ok _ => exact Relation.ReflTransGen.head (hflushed c m rest _ h (.taken hnext hcall)) (ih rfl)
      | error e =>
        have hto := hflushed c m rest _ h (.refused hnext hcall)
        exact (Relation.ReflTransGen.single hto).tail (hreported _ _)

theorem flush_walks : Walks (Conversation w) (flush w.transport) c :=
  Walks.of_get_bind (flushAll_walks (fun _ _ _ _ => .flushed) (fun _ _ _ => .dropped)
    (fun _ e => .heard (.reported e)) rfl)

end Session

end Realtime
