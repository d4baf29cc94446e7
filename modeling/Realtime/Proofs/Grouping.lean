import Mathlib.Logic.Relation
import Realtime.Proofs.Tiling
import Realtime.Transport

/-!
# Messages, however they are grouped

What a transport brings is a sequence of messages and of signs that something went
wrong. How the messages are grouped into frames is of no account: frames without faults
may be cut and joined between records, their messages may have been taken over already,
and what brings nothing may be left out. Two inboxes are the same up to such changes
exactly when they hold the same items in the same order.

Results:
1. `WellFormed.read_encode`, `read_append_of_faultless`: frames that are cut and joined.
2. `Recut.items`: each change keeps the items.
3. `regrouped_iff`: only such changes keep them.
-/

namespace Realtime

/-! ## Frames without faults -/

namespace Pieces

theorem mem_join_of_mem {separator b : UInt8} {pieces : List Bytes} {piece : Bytes}
    (hpiece : piece ∈ pieces) (hb : b ∈ piece) : b ∈ join separator pieces := by
  induction pieces with
  | nil => cases hpiece
  | cons first others ih =>
    cases others with
    | nil =>
      cases List.mem_singleton.mp hpiece
      exact hb
    | cons second more =>
      rw [join_cons separator first (List.cons_ne_nil second more), List.mem_append, List.mem_cons]
      rcases List.mem_cons.mp hpiece with rfl | hlater
      · exact .inl hb
      · exact .inr (.inr (ih hlater))

end Pieces

namespace Message

theorem WellFormed.read_encode {m : Message} (h : m.WellFormed) :
    Frame.read m.encode = ⟨[m], []⟩ := by
  have hread := Frame.read_record_eq_message_iff (m := m) h.recordSeparator_not_mem_record
  exact hread.mpr h.readRecord_record

end Message

namespace Frame

theorem wellFormed_of_readRecord {record : Bytes} {m : Message}
    (hrecord : Wire.recordSeparator ∉ record) (h : readRecord record = .ok m) : m.WellFormed := by
  obtain ⟨s, hspelling, hadmits⟩ := readRecord_eq_ok_iff.mp h
  refine ⟨⟨s, hspelling.inUse, hspelling.header, hadmits⟩, fun argument hargument =>
    ⟨hspelling.unitFree argument hargument, fun hmem => hrecord ?_⟩⟩
  have hsame : m.record = record := List.append_cancel_right hspelling.encode
  rw [← hsame]
  exact Pieces.mem_join_of_mem (List.mem_append_right _ hargument) hmem

theorem wellFormed_of_mem_readRecords {offset : Nat} {tail : Bytes} {done : List Bytes}
    (hdone : ∀ record ∈ done, Wire.recordSeparator ∉ record) {m : Message}
    (hm : m ∈ (readRecords offset tail done).messages) : m.WellFormed := by
  induction done generalizing offset with
  | nil =>
    rw [readRecords] at hm
    split at hm <;> cases hm
  | cons record others ih =>
    obtain ⟨hrecord, hothers⟩ := List.forall_mem_cons.mp hdone
    rw [readRecords, Reading.cons] at hm
    split at hm
    · next first hfirst =>
      rcases List.mem_cons.mp hm with rfl | hlater
      · exact wellFormed_of_readRecord hrecord hfirst
      · exact ih hothers hlater
    · exact ih hothers hm

/-- What is read from a frame is well-formed. -/
theorem wellFormed_of_mem_read {frame : Bytes} {m : Message} (hm : m ∈ (read frame).messages) :
    m.WellFormed :=
  wellFormed_of_mem_readRecords (Pieces.not_mem_records Wire.recordSeparator frame).1 hm

theorem flatMap_encode_read {frame : Bytes} (h : (read frame).faults = []) :
    (read frame).messages.flatMap Message.encode = frame :=
  (flatMap_encode_messages h).trans (Pieces.glue_records Wire.recordSeparator frame)

/-- A frame without faults does not break off. -/
theorem ends_of_faultless {frame : Bytes} (h : (read frame).faults = []) :
    frame = [] ∨ frame.getLast? = some Wire.recordSeparator := by
  refine Decidable.byContradiction fun hbroken => ?_
  rw [not_or] at hbroken
  obtain ⟨f, hf, -⟩ := (tiling_read frame).unfinished.mpr hbroken
  rw [h] at hf
  cases hf

theorem read_append_of_faultless {front back : Bytes} (hfront : (read front).faults = [])
    (hback : (read back).faults = []) :
    read (front ++ back) = ⟨(read front).messages ++ (read back).messages, []⟩ := by
  rw [read_append (ends_of_faultless hfront), Reading.append, Reading.shift, hfront, hback]
  rfl

end Frame

/-! ## Items -/

/-- A message that has come in, or a sign that something went wrong. -/
inductive Item where
  | message (m : Message)
  | malformed (frame : Bytes)
  | failed (reason : String)
  | closed
  deriving DecidableEq, Repr

/-- What an event brings. -/
def Event.items : Event → List Item
  | .opened => []
  | .frame bytes =>
    match (Frame.read bytes).faults with
    | [] => (Frame.read bytes).messages.map .message
    | _ :: _ => [.malformed bytes]
  | .failed reason => [.failed reason]
  | .closed => [.closed]

theorem Event.items_frame {bytes : Bytes} (h : (Frame.read bytes).faults = []) :
    (Event.frame bytes).items = (Frame.read bytes).messages.map .message := by
  simp only [items, h]

theorem Event.items_malformed {bytes : Bytes} {first : Frame.Fault} {others : List Frame.Fault}
    (h : (Frame.read bytes).faults = first :: others) :
    (Event.frame bytes).items = [.malformed bytes] := by
  simp only [items, h]

/-- An item as an event can bring it. -/
def Item.Sound : Item → Prop
  | .message m => m.WellFormed
  | .malformed frame => (Frame.read frame).faults ≠ []
  | _ => True

theorem Event.sound_of_mem_items {event : Event} {item : Item} (h : item ∈ event.items) :
    item.Sound := by
  cases event with
  | opened => cases h
  | failed reason =>
    cases List.mem_singleton.mp h
    trivial
  | closed =>
    cases List.mem_singleton.mp h
    trivial
  | frame bytes =>
    cases hfaults : (Frame.read bytes).faults with
    | nil =>
      rw [items_frame hfaults] at h
      obtain ⟨m, hm, rfl⟩ := List.mem_map.mp h
      exact Frame.wellFormed_of_mem_read hm
    | cons first others =>
      rw [items_malformed hfaults] at h
      cases List.mem_singleton.mp h
      exact fun hnil => List.cons_ne_nil first others (hfaults.symm.trans hnil)

/-- What has come in and is not yet handled: messages of frames that were received, and
events that were not. -/
structure Inbox where
  pending : List Message
  queue : List Event

namespace Inbox

/-- What an inbox holds. -/
def items (inbox : Inbox) : List Item :=
  inbox.pending.map .message ++ inbox.queue.flatMap Event.items

/-- The inbox with more events. -/
def more (inbox : Inbox) (events : List Event) : Inbox :=
  ⟨inbox.pending, inbox.queue ++ events⟩

theorem items_more (inbox : Inbox) (events : List Event) :
    (inbox.more events).items = inbox.items ++ events.flatMap Event.items := by
  rw [items, items, more, List.flatMap_append, List.append_assoc]

/-! ## Grouping -/

/-- A change in how the messages of an inbox are grouped. -/
inductive Recut : Inbox → Inbox → Prop
  /-- Two frames without faults are joined. -/
  | joined {pending : List Message} {before after : List Event} {front back : Bytes} :
      (Frame.read front).faults = [] → (Frame.read back).faults = [] →
      Recut ⟨pending, before ++ .frame front :: .frame back :: after⟩
        ⟨pending, before ++ .frame (front ++ back) :: after⟩
  /-- The messages of the next frame, which has no faults, are taken over. -/
  | parsed {pending : List Message} {frame : Bytes} {after : List Event} :
      (Frame.read frame).faults = [] →
      Recut ⟨pending, .frame frame :: after⟩ ⟨pending ++ (Frame.read frame).messages, after⟩
  /-- A frame without bytes is left out. -/
  | emptied {pending : List Message} {before after : List Event} :
      Recut ⟨pending, before ++ .frame [] :: after⟩ ⟨pending, before ++ after⟩
  /-- The news that the connection is open is left out. -/
  | opened {pending : List Message} {before after : List Event} :
      Recut ⟨pending, before ++ .opened :: after⟩ ⟨pending, before ++ after⟩

/-- The inboxes are the same up to how their messages are grouped. -/
def Regrouped : Inbox → Inbox → Prop :=
  Relation.EqvGen Recut

theorem Recut.items {i j : Inbox} (h : Recut i j) : i.items = j.items := by
  cases h with
  | joined hfront hback =>
    have hboth := Frame.read_append_of_faultless hfront hback
    have hfaultless := congrArg Frame.Reading.faults hboth
    simp only [Inbox.items, List.flatMap_append, List.flatMap_cons, Event.items_frame hfront,
      Event.items_frame hback, Event.items_frame hfaultless, hboth, List.map_append,
      List.append_assoc]
  | parsed hframe =>
    simp only [Inbox.items, List.flatMap_cons, Event.items_frame hframe, List.map_append,
      List.append_assoc]
  | emptied =>
    have hempty : (Event.frame []).items = [] := rfl
    simp only [Inbox.items, List.flatMap_append, List.flatMap_cons, hempty, List.nil_append]
  | opened =>
    have hopened : Event.opened.items = [] := rfl
    simp only [Inbox.items, List.flatMap_append, List.flatMap_cons, hopened, List.nil_append]

theorem items_eq_of_regrouped {i j : Inbox} (h : Regrouped i j) : i.items = j.items := by
  induction h with
  | rel _ _ hstep => exact hstep.items
  | refl => rfl
  | symm _ _ _ ih => exact ih.symm
  | trans _ _ _ _ _ hfirst hsecond => exact hfirst.trans hsecond

/-! ### The standard grouping -/

/-- An item as an event of its own. -/
def event : Item → Event
  | .message m => .frame m.encode
  | .malformed frame => .frame frame
  | .failed reason => .failed reason
  | .closed => .closed

/-- The inbox that holds the items, with as many of the messages taken over as there are at
the front, and every other message in a frame of its own. -/
def standard (pending : List Message) : List Item → Inbox
  | .message m :: rest => standard (pending ++ [m]) rest
  | rest => ⟨pending, rest.map event⟩

theorem standard_map_message (pending ms : List Message) (items : List Item) :
    standard pending (ms.map .message ++ items) = standard (pending ++ ms) items := by
  induction ms generalizing pending with
  | nil => rw [List.append_nil]; rfl
  | cons m rest ih =>
    show standard (pending ++ [m]) (rest.map .message ++ items) = _
    rw [ih, List.append_assoc]
    rfl

theorem faultless_flatMap_encode {ms : List Message} (h : ∀ m ∈ ms, m.WellFormed) :
    (Frame.read (ms.flatMap Message.encode)).faults = [] := by
  induction ms with
  | nil => rfl
  | cons m rest ih =>
    obtain ⟨hm, hrest⟩ := List.forall_mem_cons.mp h
    have hfirst : (Frame.read m.encode).faults = [] := by rw [hm.read_encode]
    rw [List.flatMap_cons, Frame.read_append_of_faultless hfirst (ih hrest)]

/-- A frame without faults may be cut into one frame for each message. -/
theorem regrouped_cut (pending : List Message) (before after : List Event) {ms : List Message}
    (h : ∀ m ∈ ms, m.WellFormed) :
    Regrouped ⟨pending, before ++ .frame (ms.flatMap Message.encode) :: after⟩
      ⟨pending, before ++ ms.map (fun m => .frame m.encode) ++ after⟩ := by
  induction ms generalizing before with
  | nil =>
    rw [List.map_nil, List.append_nil]
    exact .rel _ _ .emptied
  | cons m rest ih =>
    obtain ⟨hm, hrest⟩ := List.forall_mem_cons.mp h
    have hfirst : (Frame.read m.encode).faults = [] := by rw [hm.read_encode]
    have hjoin : Regrouped ⟨pending, before ++ .frame ((m :: rest).flatMap Message.encode) :: after⟩
        ⟨pending,
          before ++ [.frame m.encode] ++ .frame (rest.flatMap Message.encode) :: after⟩ := by
      refine .symm _ _ (.rel _ _ ?_)
      rw [List.append_assoc, List.flatMap_cons]
      exact .joined hfirst (faultless_flatMap_encode hrest)
    have hcut := ih (before ++ [.frame m.encode]) hrest
    rw [List.append_assoc before [.frame m.encode] (rest.map _)] at hcut
    exact hjoin.trans _ _ _ hcut

/-- Every event may be replaced by an event for each item that it brings. -/
theorem regrouped_events (pending : List Message) (before queue : List Event) :
    Regrouped ⟨pending, before ++ queue⟩
      ⟨pending, before ++ (queue.flatMap Event.items).map event⟩ := by
  induction queue generalizing before with
  | nil => exact .refl _
  | cons first rest ih =>
    -- An event that brings itself stays where it is.
    have hstays (hitems : first.items.map event = [first]) :
        Regrouped ⟨pending, before ++ first :: rest⟩
          ⟨pending, before ++ ((first :: rest).flatMap Event.items).map event⟩ := by
      have hrest := ih (before ++ [first])
      rw [List.append_assoc, List.append_assoc] at hrest
      rw [List.flatMap_cons, List.map_append, hitems]
      exact hrest
    cases first with
    | opened => exact .trans _ _ _ (.rel _ _ .opened) (ih before)
    | failed reason => exact hstays rfl
    | closed => exact hstays rfl
    | frame bytes =>
      cases hfaults : (Frame.read bytes).faults with
      | cons fault others =>
        refine hstays ?_
        rw [Event.items_malformed hfaults]
        rfl
      | nil =>
        have hcut := regrouped_cut pending before rest
          fun m (hm : m ∈ (Frame.read bytes).messages) => Frame.wellFormed_of_mem_read hm
        rw [Frame.flatMap_encode_read hfaults] at hcut
        have hrest := ih (before ++ (Frame.read bytes).messages.map fun m => .frame m.encode)
        refine hcut.trans _ _ _ ?_
        rw [List.flatMap_cons, List.map_append, Event.items_frame hfaults, List.map_map,
          ← List.append_assoc]
        exact hrest

theorem wellFormed_of_mem_items {queue : List Event} {m : Message}
    (h : .message m ∈ queue.flatMap Event.items) : m.WellFormed := by
  obtain ⟨event, -, hevent⟩ := List.mem_flatMap.mp h
  exact Event.sound_of_mem_items hevent

/-- A frame that is held as malformed has a fault. -/
theorem faults_of_mem_items {inbox : Inbox} {frame : Bytes}
    (h : .malformed frame ∈ inbox.items) : (Frame.read frame).faults ≠ [] := by
  rcases List.mem_append.mp h with hpending | hqueue
  · obtain ⟨_, _, hsame⟩ := List.mem_map.mp hpending
    cases hsame
  · obtain ⟨event, -, hevent⟩ := List.mem_flatMap.mp hqueue
    exact Event.sound_of_mem_items hevent

theorem regrouped_standard {items : List Item} (h : ∀ m, .message m ∈ items → m.WellFormed)
    (pending : List Message) :
    Regrouped ⟨pending, items.map event⟩ (standard pending items) := by
  induction items generalizing pending with
  | nil => exact .refl _
  | cons first rest ih =>
    cases first with
    | malformed | failed | closed => exact .refl _
    | message m =>
      have hread := (h m (.head _)).read_encode
      have hparsed : Recut ⟨pending, .frame m.encode :: rest.map event⟩
          ⟨pending ++ (Frame.read m.encode).messages, rest.map event⟩ := .parsed (by rw [hread])
      rw [hread] at hparsed
      exact .trans _ _ _ (.rel _ _ hparsed) (ih (fun n hn => h n (.tail _ hn)) _)

/-- Two inboxes are the same up to how their messages are grouped exactly when they hold the
same items, in the same order. -/
theorem regrouped_iff {i j : Inbox} : Regrouped i j ↔ i.items = j.items := by
  have hstandard (k : Inbox) : Regrouped k (standard [] k.items) := by
    have hevents := regrouped_events k.pending [] k.queue
    have hformed (m : Message) (hm : .message m ∈ k.queue.flatMap Event.items) : m.WellFormed :=
      wellFormed_of_mem_items hm
    have hitems := regrouped_standard hformed k.pending
    rw [items, standard_map_message]
    exact .trans _ _ _ hevents hitems
  constructor
  · exact items_eq_of_regrouped
  · intro hsame
    refine .trans _ _ _ (hstandard i) ?_
    rw [hsame]
    exact .symm _ _ (hstandard j)

end Inbox

end Realtime
