import Realtime.Frame
import Realtime.Proofs.Cutting

/-!
# Frames and the messages they spell

A record spells a message when it is the text of a header in use, followed by
arguments without separators. `Spelling` says so without the reader. As no
header in use is the start of another, a record spells at most one message,
and neither the order of the headers nor the choice of the longest one matters.

Results:
1. `ofFields?_eq_some_iff`: a header is recognised exactly when its fields come
   first.
2. `spelling_iff`: the reader finds exactly what the record spells.
3. `read_flatMap_encode`: a frame of well-formed messages reads back as these
   messages.
4. `read_record_classified`: which of the three readings a record has, and that
   a frame without faults is the encoding of its messages.
-/

namespace Realtime

/-! ## Headers -/

namespace Header

/-- No header in use is the start of another. -/
theorem signatures_prefixFree :
    ∀ s ∈ signatures, ∀ t ∈ signatures, s.fieldBytes <+: t.fieldBytes → s = t := by
  decide +kernel

theorem fieldBytes_separatorFree :
    ∀ s ∈ signatures, ∀ field ∈ s.fieldBytes,
      Wire.unitSeparator ∉ field ∧ Wire.recordSeparator ∉ field := by
  decide +kernel

theorem fieldBytes_ne_nil : ∀ s ∈ signatures, s.fieldBytes ≠ [] := by
  decide +kernel

theorem signature?_of_mem : ∀ s ∈ signatures, s.header.signature? = some s := by
  decide +kernel

theorem map_encode_fields {s : Signature} (hs : s ∈ signatures) :
    s.header.fields.map Utf8.encode = s.fieldBytes := by
  rw [fields, signature?_of_mem s hs]
  rfl

/-- Fields that start with a header in use do so in one way. -/
theorem eq_of_fieldBytes_append {s t : Signature} {arguments others : List Bytes}
    (hs : s ∈ signatures) (ht : t ∈ signatures)
    (h : s.fieldBytes ++ arguments = t.fieldBytes ++ others) : s = t ∧ arguments = others := by
  -- Two starts of one list are starts of each other, one way or the other.
  have hst : s = t := by
    rcases List.prefix_or_prefix_of_prefix (List.prefix_append s.fieldBytes arguments)
      (h ▸ List.prefix_append t.fieldBytes others) with hp | hp
    · exact signatures_prefixFree s hs t ht hp
    · exact (signatures_prefixFree t ht s hs hp).symm
  subst hst
  exact ⟨rfl, List.append_cancel_left h⟩

theorem foldl_longer_ne_none {found : List (Signature × List Bytes)}
    {best : Option (Signature × List Bytes)} (h : found ≠ [] ∨ best ≠ none) :
    found.foldl longer best ≠ none := by
  induction found generalizing best with
  | nil => exact h.resolve_left fun hne => hne rfl
  | cons next others ih =>
    refine ih (Or.inr ?_)
    cases best with
    | none => exact Option.some_ne_none next
    | some b =>
      simp only [longer]
      split <;> exact Option.some_ne_none _

theorem ofFields?_append {s : Signature} (hs : s ∈ signatures) (arguments : List Bytes) :
    ofFields? (s.fieldBytes ++ arguments) = some (s, arguments) := by
  -- Some header is found, because this one could be; and it is no other.
  have hmem : (s, arguments) ∈ signatures.filterMap fun t =>
      (rest? t.fieldBytes (s.fieldBytes ++ arguments)).map (t, ·) := by
    refine List.mem_filterMap.2 ⟨s, hs, ?_⟩
    rw [rest?_eq_some.2 rfl, Option.map_some]
  obtain ⟨⟨t, others⟩, hfound⟩ : ∃ r, ofFields? (s.fieldBytes ++ arguments) = some r :=
    Option.ne_none_iff_exists'.1 (foldl_longer_ne_none (Or.inl (List.ne_nil_of_mem hmem)))
  obtain ⟨ht, heq⟩ := ofFields?_eq_some hfound
  obtain ⟨rfl, rfl⟩ := eq_of_fieldBytes_append hs ht heq
  exact hfound

/-- A header is recognised exactly when its fields come first. -/
theorem ofFields?_eq_some_iff {s : Signature} {fields arguments : List Bytes} :
    ofFields? fields = some (s, arguments) ↔
      s ∈ signatures ∧ fields = s.fieldBytes ++ arguments := by
  constructor
  · exact ofFields?_eq_some
  · rintro ⟨hs, rfl⟩
    exact ofFields?_append hs arguments

end Header

/-! ## What a record spells -/

namespace Message

/-- A message that can be told from its bytes: its header is in use and takes as
many arguments, and no separator stands in an argument. -/
structure WellFormed (m : Message) : Prop where
  admitted : ∃ s ∈ Header.signatures, s.header = m.header ∧ s.admits m.arguments.length = true
  separatorFree : ∀ argument ∈ m.arguments,
    Wire.unitSeparator ∉ argument ∧ Wire.recordSeparator ∉ argument

instance (m : Message) : Decidable m.WellFormed :=
  decidable_of_iff
    ((∃ s ∈ Header.signatures, s.header = m.header ∧ s.admits m.arguments.length = true) ∧
      ∀ argument ∈ m.arguments,
        Wire.unitSeparator ∉ argument ∧ Wire.recordSeparator ∉ argument)
    ⟨fun h => ⟨h.1, h.2⟩, fun h => ⟨h.1, h.2⟩⟩

theorem fields_eq {m : Message} {s : Signature} (hs : s ∈ Header.signatures)
    (h : s.header = m.header) : m.fields = s.fieldBytes ++ m.arguments := by
  rw [fields, ← h, Header.map_encode_fields hs]

end Message

namespace Frame

/-- The record is the text of the header `s`, followed by the arguments of `m`,
however many there are. -/
structure Spelling (record : Bytes) (s : Signature) (m : Message) : Prop where
  inUse : s ∈ Header.signatures
  header : s.header = m.header
  unitFree : ∀ argument ∈ m.arguments, Wire.unitSeparator ∉ argument
  encode : m.encode = record ++ [Wire.recordSeparator]

/-- The reader finds exactly what the record spells. -/
theorem spelling_iff {record : Bytes} {s : Signature} {m : Message} :
    Spelling record s m ↔
      s.header = m.header ∧
        Header.ofFields? (Pieces.fields Wire.unitSeparator record) = some (s, m.arguments) := by
  rw [Header.ofFields?_eq_some_iff]
  constructor
  · rintro ⟨hs, hheader, hfree, hencode⟩
    -- The only separators of the record are those between its fields.
    have hjoin : Pieces.join Wire.unitSeparator m.fields = record :=
      List.append_cancel_right hencode
    rw [Message.fields_eq hs hheader] at hjoin
    refine ⟨hheader, hs, Pieces.fields_eq_iff.2 ⟨?_, fun field hmem => ?_, hjoin⟩⟩
    · exact List.append_ne_nil_of_left_ne_nil (Header.fieldBytes_ne_nil s hs) _
    · rcases List.mem_append.1 hmem with hmem | hmem
      · exact (Header.fieldBytes_separatorFree s hs field hmem).1
      · exact hfree field hmem
  · rintro ⟨hheader, hs, hfields⟩
    obtain ⟨-, hfree, hjoin⟩ := Pieces.fields_eq_iff.1 hfields
    refine ⟨hs, hheader, fun argument hmem => hfree argument (List.mem_append_right _ hmem), ?_⟩
    rw [Message.encode, Message.fields_eq hs hheader, hjoin]

/-- A record spells at most one message. -/
theorem Spelling.unique {record : Bytes} {s t : Signature} {m n : Message}
    (hm : Spelling record s m) (hn : Spelling record t n) : s = t ∧ m = n := by
  obtain ⟨hms, hfound⟩ := spelling_iff.1 hm
  obtain ⟨hnt, hother⟩ := spelling_iff.1 hn
  rw [hfound, Option.some.injEq, Prod.mk.injEq] at hother
  obtain ⟨rfl, harguments⟩ := hother
  refine ⟨rfl, ?_⟩
  cases m
  cases n
  rw [Message.mk.injEq]
  exact ⟨hms.symm.trans hnt, harguments⟩

theorem readRecord_of_spelling {record : Bytes} {s : Signature} {m : Message}
    (h : Spelling record s m) :
    readRecord record =
      if s.admits m.arguments.length then .ok m else .error .argumentCount := by
  obtain ⟨hheader, hfound⟩ := spelling_iff.1 h
  simp only [readRecord, hfound, hheader]

theorem readRecord_of_not_spelling {record : Bytes} (h : ∀ s m, ¬ Spelling record s m) :
    readRecord record = .error .unexpectedToken := by
  have hnone : Header.ofFields? (Pieces.fields Wire.unitSeparator record) = none := by
    refine Option.eq_none_iff_forall_not_mem.2 fun ⟨s, arguments⟩ hfound => ?_
    exact h s ⟨s.header, arguments⟩ (spelling_iff.2 ⟨rfl, hfound⟩)
  simp only [readRecord, hnone]

/-- The three readings of a record. -/
theorem readRecord_cases (record : Bytes) :
    (∃ s m, Spelling record s m ∧ s.admits m.arguments.length = true ∧
      readRecord record = .ok m) ∨
    (∃ s m, Spelling record s m ∧ s.admits m.arguments.length = false ∧
      readRecord record = .error .argumentCount) ∨
    ((∀ s m, ¬ Spelling record s m) ∧ readRecord record = .error .unexpectedToken) := by
  by_cases hspelled : ∃ s m, Spelling record s m
  · obtain ⟨s, m, hm⟩ := hspelled
    cases hadmits : s.admits m.arguments.length with
    | true =>
      refine Or.inl ⟨s, m, hm, hadmits, ?_⟩
      rw [readRecord_of_spelling hm, hadmits, if_pos rfl]
    | false =>
      refine Or.inr (Or.inl ⟨s, m, hm, hadmits, ?_⟩)
      rw [readRecord_of_spelling hm, hadmits, if_neg Bool.false_ne_true]
  · have hnone : ∀ s m, ¬ Spelling record s m := fun s m hm => hspelled ⟨s, m, hm⟩
    exact Or.inr (Or.inr ⟨hnone, readRecord_of_not_spelling hnone⟩)

theorem readRecord_eq_ok_iff {record : Bytes} {m : Message} :
    readRecord record = .ok m ↔
      ∃ s, Spelling record s m ∧ s.admits m.arguments.length = true := by
  constructor
  · intro h
    rcases readRecord_cases record with ⟨s, n, hn, hadmits, hread⟩ | ⟨_, _, _, _, hread⟩ |
      ⟨_, hread⟩
    · rw [h] at hread
      cases hread
      exact ⟨s, hn, hadmits⟩
    · rw [h] at hread; cases hread
    · rw [h] at hread; cases hread
  · rintro ⟨s, hm, hadmits⟩
    rw [readRecord_of_spelling hm, if_pos hadmits]

theorem readRecord_eq_argumentCount_iff {record : Bytes} :
    readRecord record = .error .argumentCount ↔
      ∃ s m, Spelling record s m ∧ s.admits m.arguments.length = false := by
  constructor
  · intro h
    rcases readRecord_cases record with ⟨_, _, _, _, hread⟩ | ⟨s, m, hm, hadmits, _⟩ |
      ⟨_, hread⟩
    · rw [h] at hread; cases hread
    · exact ⟨s, m, hm, hadmits⟩
    · rw [h] at hread; cases hread
  · rintro ⟨s, m, hm, hadmits⟩
    rw [readRecord_of_spelling hm, hadmits, if_neg Bool.false_ne_true]

theorem readRecord_eq_unexpectedToken_iff {record : Bytes} :
    readRecord record = .error .unexpectedToken ↔ ∀ s m, ¬ Spelling record s m := by
  constructor
  · intro h
    rcases readRecord_cases record with ⟨_, _, _, _, hread⟩ | ⟨_, _, _, _, hread⟩ |
      ⟨hnone, _⟩
    · rw [h] at hread; cases hread
    · rw [h] at hread; cases hread
    · exact hnone
  · exact readRecord_of_not_spelling

/-! ## Frames of one record -/

theorem read_record {record : Bytes} (h : Wire.recordSeparator ∉ record) :
    read (record ++ [Wire.recordSeparator]) = Reading.cons 0 record {} := by
  simp only [read, Pieces.records_append_terminator h []]
  rfl

theorem read_record_eq_message_iff {record : Bytes} {m : Message}
    (h : Wire.recordSeparator ∉ record) :
    read (record ++ [Wire.recordSeparator]) = ⟨[m], []⟩ ↔ readRecord record = .ok m := by
  rw [read_record h, Reading.cons]
  cases readRecord record <;> simp

theorem read_record_eq_fault_iff {record : Bytes} {tag : Tag}
    (h : Wire.recordSeparator ∉ record) :
    read (record ++ [Wire.recordSeparator]) = ⟨[], [⟨0, max 1 record.length, tag⟩]⟩ ↔
      readRecord record = .error tag := by
  rw [read_record h, Reading.cons]
  cases readRecord record <;> simp

/-! ## Whole frames -/

/-- Messages that are read without a fault encode to what was read. -/
theorem flatMap_encode_messages {offset : Nat} {tail : Bytes} {done : List Bytes}
    (h : (readRecords offset tail done).faults = []) :
    (readRecords offset tail done).messages.flatMap Message.encode =
      Pieces.glue Wire.recordSeparator done tail := by
  induction done generalizing offset with
  | nil =>
    rw [readRecords] at h ⊢
    split at h
    · next htail => rw [if_pos htail, htail]; rfl
    · cases h
  | cons record others ih =>
    rw [readRecords, Reading.cons] at h ⊢
    split at h
    · next m hread =>
      obtain ⟨s, hm, -⟩ := readRecord_eq_ok_iff.1 hread
      rw [List.flatMap_cons, hm.encode, ih h, Pieces.glue_cons, List.append_assoc]
      rfl
    · cases h

end Frame

namespace Message

/-- The record of a message, without the separator that ends it. -/
def record (m : Message) : Bytes :=
  Pieces.join Wire.unitSeparator m.fields

namespace WellFormed

theorem readRecord_record {m : Message} (h : m.WellFormed) :
    Frame.readRecord m.record = .ok m := by
  obtain ⟨s, hs, hheader, hadmits⟩ := h.admitted
  refine Frame.readRecord_eq_ok_iff.2 ⟨s, ⟨hs, hheader, fun argument hmem => ?_, rfl⟩, hadmits⟩
  exact (h.separatorFree argument hmem).1

theorem recordSeparator_not_mem_record {m : Message} (h : m.WellFormed) :
    Wire.recordSeparator ∉ m.record := by
  intro hmem
  obtain ⟨s, hs, hheader, -⟩ := h.admitted
  rcases Pieces.mem_join hmem with heq | ⟨field, hfield, hin⟩
  · exact absurd heq (by decide)
  · rw [fields_eq hs hheader] at hfield
    rcases List.mem_append.1 hfield with hfield | hfield
    · exact (Header.fieldBytes_separatorFree s hs field hfield).2 hin
    · exact (h.separatorFree field hfield).2 hin

end WellFormed

end Message

namespace Frame

theorem readRecords_map_record {ms : List Message} (h : ∀ m ∈ ms, m.WellFormed) (offset : Nat) :
    readRecords offset [] (ms.map Message.record) = ⟨ms, []⟩ := by
  induction ms generalizing offset with
  | nil => rfl
  | cons m others ih =>
    have hread := (h m List.mem_cons_self).readRecord_record
    rw [List.map_cons, readRecords, ih fun n hn => h n (List.mem_cons_of_mem _ hn),
      Reading.cons, hread]

theorem records_flatMap_encode {ms : List Message} (h : ∀ m ∈ ms, m.WellFormed) :
    Pieces.records Wire.recordSeparator (ms.flatMap Message.encode) =
      (ms.map Message.record, []) := by
  refine Pieces.records_eq_iff.2 ⟨fun record hmem => ?_, List.not_mem_nil, ?_⟩
  · obtain ⟨m, hm, rfl⟩ := List.mem_map.1 hmem
    exact (h m hm).recordSeparator_not_mem_record
  · rw [Pieces.glue, List.flatMap_map, List.append_nil]
    rfl

/-- A frame of well-formed messages reads back as these messages, in order and
without a fault. -/
theorem read_flatMap_encode {ms : List Message} (h : ∀ m ∈ ms, m.WellFormed) :
    read (ms.flatMap Message.encode) = { messages := ms, faults := [] } := by
  simp only [read, records_flatMap_encode h, readRecords_map_record h]

/-- Messages that look like others: arguments that spell parts of headers, that
are empty, or that are no text. -/
def lookalikes : List Message :=
  [ .ack .auth .request [Utf8.encode "E"], .plain .presence .query [Utf8.encode "A", [], [0x53]],
    .plain .event .event [[], [0xFF, 0x00]], .ack .connection .challengeResponse,
    .plain .presence .query ]

theorem read_lookalikes :
    (∀ m ∈ lookalikes, m.WellFormed) ∧
      read (lookalikes.flatMap Message.encode) = { messages := lookalikes, faults := [] } :=
  have h : ∀ m ∈ lookalikes, m.WellFormed := by decide +kernel
  ⟨h, read_flatMap_encode h⟩

/-- A record reads as a message exactly when it spells that message with as many
arguments as the header takes, as a miscount exactly when it spells one with
another number of arguments, and as an unexpected token otherwise. A frame
without faults is the encoding of its messages. -/
theorem read_record_classified {record : Bytes} (h : Wire.recordSeparator ∉ record) :
    (∀ m, read (record ++ [Wire.recordSeparator]) = ⟨[m], []⟩ ↔
      ∃ s, Spelling record s m ∧ s.admits m.arguments.length = true) ∧
    (∀ s m t n, Spelling record s m → Spelling record t n → s = t ∧ m = n) ∧
    (read (record ++ [Wire.recordSeparator]) =
        ⟨[], [⟨0, max 1 record.length, .argumentCount⟩]⟩ ↔
      ∃ s m, Spelling record s m ∧ s.admits m.arguments.length = false) ∧
    (read (record ++ [Wire.recordSeparator]) =
        ⟨[], [⟨0, max 1 record.length, .unexpectedToken⟩]⟩ ↔
      ∀ s m, ¬ Spelling record s m) ∧
    (record = [] → ∀ s m, ¬ Spelling record s m) ∧
    ∀ frame, (read frame).faults = [] →
      (read frame).messages.flatMap Message.encode = frame := by
  refine ⟨fun m => ?_, fun s m t n => Spelling.unique, ?_, ?_, ?_, fun frame hfaults => ?_⟩
  · exact (read_record_eq_message_iff h).trans readRecord_eq_ok_iff
  · exact (read_record_eq_fault_iff h).trans readRecord_eq_argumentCount_iff
  · exact (read_record_eq_fault_iff h).trans readRecord_eq_unexpectedToken_iff
  · rintro rfl
    exact readRecord_eq_unexpectedToken_iff.1 rfl
  · exact (flatMap_encode_messages hfaults).trans (Pieces.glue_records _ frame)

/-- `A|E|OTHER` starts like the errors of an authentication and is none. -/
theorem read_record_classified_nearMiss :
    Wire.recordSeparator ∉ Readable.encode "A|E|OTHER" ∧
      ∀ s m, ¬ Spelling (Readable.encode "A|E|OTHER") s m :=
  have h : Wire.recordSeparator ∉ Readable.encode "A|E|OTHER" := by decide +kernel
  ⟨h, (read_record_classified h).2.2.2.1.1 (by decide +kernel)⟩

end Frame

end Realtime
