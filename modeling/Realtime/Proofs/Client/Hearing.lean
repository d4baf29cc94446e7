import Realtime.Proofs.Client.Steps
import Realtime.Proofs.Client.Walk
import Realtime.Proofs.Grouping

/-!
# The next message

A client that wants the next message of the server looks at what it has taken over, then
receives events until one of them brings something. What it finds, and what it leaves, can
be read off its inbox: it finds the first item, except that a connection that is gone need
not be closed.

Results:
1. `Inbox.next_items`: what is found comes first, and what is left comes after it.
2. `nextMessage_eq`: asking for the next message is finding the next item and heeding it.
3. `nextMessage_ok`: it changes what is still to come, and nothing else.
-/

namespace Realtime

/-! ## The next item -/

namespace Inbox

/-- The first item that the events bring, and what they leave. If the connection is gone,
there is no news in that it is closed. -/
def nextEvent (gone : Bool) : List Event → Option Item × Inbox
  | [] => (none, ⟨[], []⟩)
  | .opened :: rest => nextEvent gone rest
  | .failed reason :: rest => (some (.failed reason), ⟨[], rest⟩)
  | .closed :: rest => if gone then nextEvent gone rest else (some .closed, ⟨[], rest⟩)
  | .frame bytes :: rest =>
    match Frame.read bytes with
    | ⟨[], []⟩ => nextEvent gone rest
    | ⟨m :: later, []⟩ => (some (.message m), ⟨later, rest⟩)
    | ⟨_, _ :: _⟩ => (some (.malformed bytes), ⟨[], rest⟩)

/-- The next item of an inbox, and what is left. -/
def next (gone : Bool) : Inbox → Option Item × Inbox
  | ⟨m :: rest, queue⟩ => (some (.message m), ⟨rest, queue⟩)
  | ⟨[], queue⟩ => nextEvent gone queue

/-- The items from the first one on that is news. -/
def news (gone : Bool) (items : List Item) : List Item :=
  if gone then items.dropWhile (· = .closed) else items

theorem news_of_ne_closed {gone : Bool} {item : Item} {rest : List Item} (h : item ≠ .closed) :
    news gone (item :: rest) = item :: rest := by
  cases gone <;> simp [news, h]

section NextEvent

variable (gone : Bool) (rest : List Event) {bytes : Bytes}

theorem nextEvent_empty (h : Frame.read bytes = ⟨[], []⟩) :
    nextEvent gone (.frame bytes :: rest) = nextEvent gone rest := by
  rw [nextEvent, h]

theorem nextEvent_frame {m : Message} {later : List Message}
    (h : Frame.read bytes = ⟨m :: later, []⟩) :
    nextEvent gone (.frame bytes :: rest) = (some (.message m), ⟨later, rest⟩) := by
  rw [nextEvent, h]

theorem nextEvent_malformed {messages : List Message} {first : Frame.Fault}
    {others : List Frame.Fault} (h : Frame.read bytes = ⟨messages, first :: others⟩) :
    nextEvent gone (.frame bytes :: rest) = (some (.malformed bytes), ⟨[], rest⟩) := by
  rw [nextEvent, h]
  cases messages <;> rfl

end NextEvent

theorem nextEvent_items (gone : Bool) (queue : List Event) :
    news gone (queue.flatMap Event.items) =
      (nextEvent gone queue).1.toList ++ (nextEvent gone queue).2.items := by
  induction queue with
  | nil => cases gone <;> rfl
  | cons first rest ih =>
    rw [List.flatMap_cons]
    cases first with
    | opened => exact ih
    | failed reason => exact news_of_ne_closed Item.noConfusion
    | closed =>
      cases gone with
      | true => exact ih
      | false => rfl
    | frame bytes =>
      cases hread : Frame.read bytes with
      | mk messages faults =>
        cases faults with
        | cons fault others =>
          rw [Event.items_malformed (congrArg Frame.Reading.faults hread),
            nextEvent_malformed gone rest hread]
          exact news_of_ne_closed Item.noConfusion
        | nil =>
          rw [Event.items_frame (congrArg Frame.Reading.faults hread), hread]
          cases messages with
          | nil =>
            rw [nextEvent_empty gone rest hread]
            exact ih
          | cons m later =>
            rw [nextEvent_frame gone rest hread]
            refine (news_of_ne_closed Item.noConfusion).trans ?_
            simp [items]

/-- What is found comes first, and what is left comes after it. -/
theorem next_items (gone : Bool) (inbox : Inbox) :
    news gone inbox.items = (inbox.next gone).1.toList ++ (inbox.next gone).2.items := by
  obtain ⟨pending, queue⟩ := inbox
  cases pending with
  | nil => exact nextEvent_items gone queue
  | cons m rest => exact news_of_ne_closed nofun

/-- Nothing is found only if nothing is left. -/
theorem items_of_next_none {gone : Bool} {inbox : Inbox} (h : (inbox.next gone).1 = none) :
    (inbox.next gone).2.items = [] := by
  obtain ⟨pending, queue⟩ := inbox
  cases pending with
  | cons m rest => cases h
  | nil =>
    change (nextEvent gone queue).1 = none at h
    show (nextEvent gone queue).2.items = []
    induction queue with
    | nil => rfl
    | cons first rest ih =>
      cases first with
      | opened => exact ih h
      | failed reason => cases h
      | closed =>
        cases gone with
        | true => exact ih h
        | false => cases h
      | frame bytes =>
        rw [nextEvent] at h ⊢
        split at h
        · exact ih h
        · cases h
        · cases h

/-- What is found, and what is left, depends on the items only. -/
theorem next_congr {i j : Inbox} (h : i.items = j.items) (gone : Bool) :
    (i.next gone).1 = (j.next gone).1 ∧ (i.next gone).2.items = (j.next gone).2.items := by
  have hi := next_items gone i
  have hj := next_items gone j
  rw [h, hj] at hi
  cases hfound : (i.next gone).1 with
  | none =>
    rw [hfound, items_of_next_none hfound] at hi
    obtain ⟨hnone, hleft⟩ := List.append_eq_nil_iff.mp hi
    rw [Option.toList_eq_nil_iff] at hnone
    exact ⟨hnone.symm, (items_of_next_none hfound).trans hleft.symm⟩
  | some item =>
    cases hother : (j.next gone).1 with
    | none =>
      rw [hfound, hother, items_of_next_none hother] at hi
      cases hi
    | some other =>
      rw [hfound, hother] at hi
      obtain ⟨rfl, hleft⟩ := List.cons_eq_cons.mp hi
      exact ⟨rfl, hleft.symm⟩

theorem mem_items_of_next {gone : Bool} {inbox : Inbox} {item : Item}
    (h : (inbox.next gone).1 = some item ∨ item ∈ (inbox.next gone).2.items) :
    item ∈ inbox.items := by
  have hnews : item ∈ news gone inbox.items := by
    rw [next_items, List.mem_append, Option.mem_toList]
    exact h
  unfold news at hnews
  split at hnews
  · exact (List.dropWhile_sublist _).subset hnews
  · exact hnews

end Inbox

/-! ## The channel -/

namespace Channel

theorem isOpen_putAll (channel : Channel) (signals : List Signal) :
    (channel.putAll signals).isOpen = (channel.drained.putAll signals).isOpen := by
  induction signals generalizing channel with
  | nil => rfl
  | cons first rest ih =>
    show ((channel.put first).putAll rest).isOpen = ((channel.drained.put first).putAll rest).isOpen
    rw [ih, ih (channel.drained.put first)]
    cases first with
    | detach => rfl
    | event e =>
      obtain ⟨queue, isOpen⟩ := channel
      cases isOpen <;> rfl

/-- What is put on a channel comes after what is there, which makes no difference to it. -/
theorem queue_putAll (channel : Channel) (signals : List Signal) :
    (channel.putAll signals).queue = channel.queue ++ (channel.drained.putAll signals).queue := by
  induction signals generalizing channel with
  | nil => exact (List.append_nil _).symm
  | cons first rest ih =>
    show ((channel.put first).putAll rest).queue =
      channel.queue ++ ((channel.drained.put first).putAll rest).queue
    rw [ih, ih (channel.drained.put first), ← List.append_assoc]
    obtain ⟨queue, isOpen⟩ := channel
    cases first with
    | detach => exact congrArg (· ++ _) (List.append_nil _).symm
    | event e =>
      cases isOpen with
      | true => rfl
      | false => exact congrArg (· ++ _) (List.append_nil _).symm

end Channel

/-! ## Heeding it -/

/-- What a client reports when it asks for a message and there is none that it can use. -/
def Error.isOfHearing : Error → Bool
  | .timeout => true
  | .frame _ => true
  | .transport _ => true
  | .suddenDisconnect => true
  | _ => false

namespace Client

variable {σ ι : Type}

/-- What has come in and is not yet handled. -/
def inbox (c : Client σ ι) : Inbox :=
  ⟨c.pending, c.link.channel.queue⟩

def withInbox (inbox : Inbox) (c : Client σ ι) : Client σ ι :=
  (c.left inbox.queue).withPending inbox.pending

/-- What a transport brings with an answer comes after everything else. -/
theorem inbox_absorb (c : Client σ ι) (r : Reply σ) :
    { c with link := c.link.absorb r : Client σ ι}.inbox =
      c.inbox.more (c.link.channel.drained.putAll r.signals).queue :=
  congrArg (Inbox.mk c.pending) (Channel.queue_putAll _ _)

end Client

namespace Session

variable {σ ι : Type} (t : Transport σ ι) (wait : Bool)

/-- What a client that wants a message does about the next item. -/
def heed : Option Item → Session σ ι (Option Message)
  | none => do
    if wait && (← get).link.channel.isOpen then failReported .timeout else pure none
  | some (.message m) => pure (some m)
  | some (.malformed frame) => do
    (Frame.read frame).faults.forM fun fault => report (.frame fault)
    shut t
    match (Frame.read frame).faults with
    | [] => pure none
    | first :: _ => fail (.frame first)
  | some (.failed reason) => failReported (.transport reason)
  | some .closed => do
    modify (·.enter .disconnected)
    failReported .suddenDisconnect

theorem heed_malformed {frame : Bytes} {first : Frame.Fault} {others : List Frame.Fault}
    (h : (Frame.read frame).faults = first :: others) (c : Client σ ι) :
    heed t wait (some (.malformed frame)) c =
      .error (.failed (.frame first)) ((c.complaining (first :: others)).shut t) := by
  rw [heed, h]
  exact bind_of_ok (forM_report _)

theorem receiveFrom_eq {c : Client σ ι} (hpending : c.pending = []) (queue : List Event) :
    receiveFrom t wait queue (c.left queue) =
      heed t wait (Inbox.nextEvent (c.phase = .disconnected) queue).1
        (c.withInbox (Inbox.nextEvent (c.phase = .disconnected) queue).2) := by
  -- With nothing taken over, a client is as one that has only events left.
  have hleft (rest : List Event) : c.withInbox ⟨[], rest⟩ = c.left rest := by
    rw [← hpending]
    rfl
  induction queue with
  | nil =>
    rw [Inbox.nextEvent, hleft]
    rfl
  | cons first rest ih =>
    cases first with
    | opened => exact ih
    | failed reason =>
      rw [Inbox.nextEvent, hleft]
      rfl
    | closed =>
      refine (receiveFrom_closed t).trans ?_
      by_cases hgone : c.phase = .disconnected
      · rw [decide_eq_true hgone] at ih ⊢
        exact (if_pos hgone).trans ih
      · rw [decide_eq_false hgone]
        exact (if_neg hgone).trans (congrArg (heed t wait (some .closed)) (hleft rest)).symm
    | frame bytes =>
      cases hread : Frame.read bytes with
      | mk messages faults =>
        cases faults with
        | cons fault others =>
          have hfaults := congrArg Frame.Reading.faults hread
          rw [Inbox.nextEvent_malformed _ rest hread, hleft]
          exact (receiveFrom_malformed t hfaults).trans (heed_malformed t wait hfaults _).symm
        | nil =>
          have hempty : (c.left (.frame bytes :: rest)).pending = [] := hpending
          cases messages with
          | nil =>
            rw [Inbox.nextEvent_empty _ rest hread]
            exact (receiveFrom_empty t hempty hread).trans ih
          | cons m later =>
            rw [Inbox.nextEvent_frame _ rest hread]
            exact receiveFrom_frame t hempty hread

/-- Asking for the next message is finding the next item and heeding it. -/
theorem nextMessage_eq (c : Client σ ι) :
    nextMessage t wait c =
      heed t wait (c.inbox.next (c.phase = .disconnected)).1
        (c.withInbox (c.inbox.next (c.phase = .disconnected)).2) := by
  unfold nextMessage
  cases hpending : c.pending with
  | nil =>
    have hnone : takePending c = .ok none c := by rw [takePending_eq, hpending]
    have hinbox : c.inbox = ⟨[], c.link.channel.queue⟩ := by rw [← hpending]; rfl
    rw [bind_of_ok hnone, hinbox]
    exact receiveFrom_eq t wait hpending c.link.channel.queue
  | cons m rest =>
    have hsome : takePending c = .ok (some m) { c with pending := rest } := by
      rw [takePending_eq, hpending]
    have hinbox : c.inbox = ⟨m :: rest, c.link.channel.queue⟩ := by rw [← hpending]; rfl
    rw [bind_of_ok hsome, hinbox]
    rfl

/-- A client whose connection has not ended takes notice when it does. -/
theorem nextMessage_of_open {c : Client σ ι} (hopen : c.phase ≠ .disconnected) :
    nextMessage t wait c =
      heed t wait (c.inbox.next false).1 (c.withInbox (c.inbox.next false).2) := by
  rw [nextMessage_eq, decide_eq_false hopen]

/-- What a client does about the next item changes nothing, unless it fails. -/
theorem heed_ok {c d : Client σ ι} {item : Option Item} {found : Option Message}
    (hitem : ∀ frame, item = some (.malformed frame) → (Frame.read frame).faults ≠ [])
    (h : heed t wait item c = .ok found d) : d = c := by
  cases item with
  | none =>
    rw [heed, get_bind_apply] at h
    split at h <;> cases h
    rfl
  | some item =>
    cases item with
    | message m =>
      cases h
      rfl
    | failed reason | closed => cases h
    | malformed frame =>
      obtain ⟨first, others, hfaults⟩ := List.exists_cons_of_ne_nil (hitem frame rfl)
      rw [heed_malformed t wait hfaults] at h
      cases h

/-- Asking for a message changes what is still to come, and nothing else. -/
theorem nextMessage_ok {c d : Client σ ι} {found : Option Message}
    (h : nextMessage t wait c = .ok found d) :
    ∃ pending link, d = { c with pending := pending, link := link } := by
  rw [nextMessage_eq] at h
  refine ⟨_, _, heed_ok t wait (fun frame hframe => ?_) h⟩
  exact Inbox.faults_of_mem_items (Inbox.mem_items_of_next (.inl hframe))

/-! ## Asking for a message as a walk -/

section Walking

variable {R : Client σ ι → Client σ ι → Prop}
  (hreported : ∀ (c : Client σ ι) e, e.isOfHearing → R c (c.note (.reported e)))
  (hshut : ∀ c : Client σ ι, R c (c.shut t))
  (hlost : ∀ c : Client σ ι, R c { c with phase := .disconnected })
include hreported hshut hlost

theorem heed_walks (item : Option Item) (c : Client σ ι) : Walks R (heed t wait item) c := by
  have hfailed {α : Type} {e : Error} (he : e.isOfHearing) (c : Client σ ι) :
      Walks R (failReported e : Session σ ι α) c :=
    Walks.of_modify_bind (hreported c e he) (Walks.of_fail e)
  cases item with
  | none =>
    refine Walks.of_get_bind ?_
    split
    · exact hfailed rfl c
    · exact Walks.of_pure _
  | some item =>
    cases item with
    | message m => exact Walks.of_pure _
    | malformed frame =>
      refine Walks.of_bind (Walks.of_forM fun _ _ _ => Walks.of_modify (hreported _ _ rfl))
        fun _ _ _ => ?_
      refine Walks.of_modify_bind (hshut _) ?_
      split
      · exact Walks.of_pure _
      · exact Walks.of_fail _
    | failed reason => exact hfailed rfl c
    | closed =>
      refine Walks.of_modify_bind ?_ (hfailed rfl _)
      rw [Client.enter_disconnected]
      exact hlost c

/-- Whoever asks for a message takes an item from what has come in, and heeds it. -/
theorem nextMessage_walks_of {c : Client σ ι}
    (htaken : ∀ gone, R c (c.withInbox (c.inbox.next gone).2)) :
    Walks R (nextMessage t wait) c := by
  unfold Walks after
  rw [nextMessage_eq]
  exact Relation.ReflTransGen.head (htaken _) (heed_walks t wait hreported hshut hlost _ _)

end Walking

end Session

end Realtime
