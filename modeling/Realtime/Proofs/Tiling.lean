import Realtime.Proofs.Codec

/-!
# Faults tile a frame

Reading starts afresh after every record separator, so what one part of a frame
holds does not touch how another part reads. The faults of a frame are disjoint
regions in order, and every separator ends either a message or a fault.

Results:
1. `read_append`: a frame may be read in two parts, cut after a separator.
2. `tiling_read`: the faults of every frame tile it.
3. `read_resynchronises`: both together.
-/

namespace Realtime.Frame

/-! ## Shifting and appending readings -/

/-- The fault, with `distance` more bytes before it. -/
def Fault.shift (distance : Nat) (f : Fault) : Fault :=
  { f with offset := distance + f.offset }

/-- What was read, with `distance` more bytes before it. -/
def Reading.shift (distance : Nat) (r : Reading) : Reading :=
  { r with faults := r.faults.map (Fault.shift distance) }

/-- What was read first, and what was read later. -/
def Reading.append (r later : Reading) : Reading :=
  { messages := r.messages ++ later.messages, faults := r.faults ++ later.faults }

theorem shift_cons (distance offset : Nat) (record : Bytes) (rest : Reading) :
    (rest.cons offset record).shift distance =
      (rest.shift distance).cons (distance + offset) record := by
  unfold Reading.cons
  cases readRecord record <;> rfl

theorem append_cons (offset : Nat) (record : Bytes) (rest later : Reading) :
    (rest.cons offset record).append later = (rest.append later).cons offset record := by
  unfold Reading.cons
  cases readRecord record <;> rfl

theorem readRecords_shift (distance offset : Nat) (tail : Bytes) (done : List Bytes) :
    readRecords (distance + offset) tail done =
      (readRecords offset tail done).shift distance := by
  induction done generalizing offset with
  | nil =>
    rw [readRecords, readRecords]
    split <;> rfl
  | cons record others ih =>
    rw [readRecords, readRecords, shift_cons, ← ih, Nat.add_assoc, Nat.add_assoc, Nat.add_assoc]

theorem readRecords_append (offset : Nat) (tail : Bytes) (done more : List Bytes) :
    readRecords offset tail (done ++ more) =
      (readRecords offset [] done).append
        (readRecords (offset + (Pieces.glue Wire.recordSeparator done []).length) tail more) := by
  induction done generalizing offset with
  | nil => rfl
  | cons record others ih =>
    have hlength : (Pieces.glue Wire.recordSeparator (record :: others) []).length =
        record.length + 1 + (Pieces.glue Wire.recordSeparator others []).length := by
      rw [Pieces.glue_cons, List.length_append, List.length_cons]
      omega
    rw [List.cons_append, readRecords, readRecords, append_cons, ih, hlength,
      Nat.add_assoc offset, Nat.add_assoc offset]

/-- A frame may be read in two parts, the first of which ends with a separator. -/
theorem read_append {front : Bytes}
    (h : front = [] ∨ front.getLast? = some Wire.recordSeparator) (back : Bytes) :
    read (front ++ back) = (read front).append ((read back).shift front.length) := by
  have hnil := (Pieces.records_snd_eq_nil_iff Wire.recordSeparator front).2 h
  have hglue := Pieces.glue_records Wire.recordSeparator front
  simp only [read, Pieces.records_append h, hnil] at hglue ⊢
  rw [readRecords_append, hglue, Nat.zero_add, ← readRecords_shift, Nat.add_zero]

/-! ## Regions -/

/-- The faults of a reading tile its frame. -/
structure Tiling (frame : Bytes) (r : Reading) : Prop where
  /-- No region is empty, and none leaves the frame. -/
  inside : ∀ f ∈ r.faults, 0 < f.length ∧ f.offset + f.length ≤ frame.length
  /-- The regions come in order, and no two share a byte. -/
  ordered : r.faults.Pairwise fun f g => f.offset < g.offset ∧ f.offset + f.length ≤ g.offset
  /-- Every separator ends a message or a fault. -/
  counted : r.messages.length + (r.faults.filter fun f => f.tag ≠ .unexpectedEnd).length =
    frame.count Wire.recordSeparator
  /-- A frame that breaks off is told from one that does not. -/
  unfinished : (∃ f ∈ r.faults, f.tag = .unexpectedEnd) ↔
    frame ≠ [] ∧ frame.getLast? ≠ some Wire.recordSeparator
  /-- The region where a frame breaks off comes last, and is all that follows
  the last separator. -/
  rest : ∀ f ∈ r.faults, f.tag = .unexpectedEnd →
    r.faults.getLast? = some f ∧ f.offset + f.length = frame.length ∧
      Wire.recordSeparator ∉ frame.drop f.offset ∧
      (frame.take f.offset = [] ∨
        (frame.take f.offset).getLast? = some Wire.recordSeparator)

theorem tag_ne_unexpectedEnd {record : Bytes} {tag : Tag}
    (h : readRecord record = .error tag) : tag ≠ .unexpectedEnd := by
  rintro rfl
  rcases readRecord_cases record with ⟨_, _, _, _, hread⟩ | ⟨_, _, _, _, hread⟩ | ⟨_, hread⟩
  all_goals rw [h] at hread; cases hread

/-- A fault at the start of a reading is that of the first record. -/
theorem mem_faults_cons {offset : Nat} {record : Bytes} {rest : Reading} {f : Fault}
    (h : f ∈ (rest.cons offset record).faults) :
    (f.offset = offset ∧ f.length = max 1 record.length ∧ f.tag ≠ .unexpectedEnd) ∨
      f ∈ rest.faults := by
  rw [Reading.cons] at h
  split at h
  · exact Or.inr h
  · next tag hread =>
    rcases List.mem_cons.1 h with rfl | h
    · exact Or.inl ⟨rfl, rfl, tag_ne_unexpectedEnd hread⟩
    · exact Or.inr h

theorem readRecords_inside {offset : Nat} {tail : Bytes} {done : List Bytes} {f : Fault}
    (h : f ∈ (readRecords offset tail done).faults) :
    offset ≤ f.offset ∧ 0 < f.length ∧
      f.offset + f.length ≤ offset + (Pieces.glue Wire.recordSeparator done tail).length := by
  induction done generalizing offset with
  | nil =>
    rw [readRecords] at h
    split at h
    · exact absurd h List.not_mem_nil
    · next htail =>
      rw [List.mem_singleton.1 h]
      exact ⟨Nat.le_refl offset, List.length_pos_iff.2 htail, Nat.le_refl _⟩
  | cons record others ih =>
    rw [Pieces.glue_cons, List.length_append, List.length_cons]
    rw [readRecords] at h
    rcases mem_faults_cons h with ⟨hoffset, hlength, -⟩ | h
    · omega
    · have := ih h
      omega

theorem readRecords_ordered (offset : Nat) (tail : Bytes) (done : List Bytes) :
    (readRecords offset tail done).faults.Pairwise fun f g =>
      f.offset < g.offset ∧ f.offset + f.length ≤ g.offset := by
  induction done generalizing offset with
  | nil =>
    rw [readRecords]
    split
    · exact List.Pairwise.nil
    · exact List.pairwise_singleton _ _
  | cons record others ih =>
    rw [readRecords, Reading.cons]
    split
    · exact ih _
    · refine List.pairwise_cons.2 ⟨fun g hg => ?_, ih _⟩
      have := (readRecords_inside hg).1
      show offset < g.offset ∧ offset + max 1 record.length ≤ g.offset
      omega

theorem readRecords_counted (offset : Nat) (tail : Bytes) (done : List Bytes) :
    (readRecords offset tail done).messages.length +
      ((readRecords offset tail done).faults.filter fun f => f.tag ≠ .unexpectedEnd).length =
      done.length := by
  induction done generalizing offset with
  | nil =>
    rw [readRecords]
    split <;> rfl
  | cons record others ih =>
    have := ih (offset + record.length + 1)
    rw [readRecords, Reading.cons]
    split
    · simp only [List.length_cons]
      omega
    · next tag hread =>
      simp only [List.filter_cons, ne_eq, tag_ne_unexpectedEnd hread, not_false_eq_true,
        decide_true, ↓reduceIte, List.length_cons] at this ⊢
      omega

/-- Where a frame breaks off, there is one more fault, and it is the last. -/
theorem readRecords_unfinished {offset : Nat} {tail : Bytes} {done : List Bytes} {f : Fault}
    (h : f ∈ (readRecords offset tail done).faults) (htag : f.tag = .unexpectedEnd) :
    tail ≠ [] ∧ (readRecords offset tail done).faults.getLast? = some f ∧
      f = ⟨offset + (Pieces.glue Wire.recordSeparator done []).length, tail.length,
        .unexpectedEnd⟩ := by
  induction done generalizing offset with
  | nil =>
    rw [readRecords] at h ⊢
    split at h
    · exact absurd h List.not_mem_nil
    · next htail =>
      rw [if_neg htail]
      have hf := List.mem_singleton.1 h
      exact ⟨htail, congrArg some hf.symm, hf⟩
  | cons record others ih =>
    rw [readRecords] at h
    rcases mem_faults_cons h with ⟨-, -, hother⟩ | h
    · exact absurd htag hother
    · obtain ⟨htail, hlast, hf⟩ := ih h
      refine ⟨htail, ?_, ?_⟩
      · rw [readRecords, Reading.cons]
        split
        · exact hlast
        · rw [List.getLast?_cons, hlast]
          rfl
      · rw [hf, Pieces.glue_cons, List.length_append, List.length_cons, Fault.mk.injEq]
        exact ⟨by omega, rfl, rfl⟩

theorem exists_unexpectedEnd {offset : Nat} {tail : Bytes} {done : List Bytes}
    (h : tail ≠ []) : ∃ f ∈ (readRecords offset tail done).faults, f.tag = .unexpectedEnd := by
  induction done generalizing offset with
  | nil =>
    rw [readRecords, if_neg h]
    exact ⟨_, List.mem_singleton_self _, rfl⟩
  | cons record others ih =>
    obtain ⟨f, hmem, htag⟩ := ih
    refine ⟨f, ?_, htag⟩
    rw [readRecords, Reading.cons]
    split
    · exact hmem
    · exact List.mem_cons_of_mem _ hmem

/-- The faults of every frame tile it. -/
theorem tiling_read (frame : Bytes) : Tiling frame (read frame) := by
  have hglue := Pieces.glue_records Wire.recordSeparator frame
  have hcount := Pieces.count_eq_length_records Wire.recordSeparator frame
  have hend := Pieces.records_snd_eq_nil_iff Wire.recordSeparator frame
  obtain ⟨hdone, htail⟩ := Pieces.not_mem_records Wire.recordSeparator frame
  unfold read
  generalize Pieces.records Wire.recordSeparator frame = cut at hglue hcount hend hdone htail ⊢
  obtain ⟨done, tail⟩ := cut
  constructor
  case inside =>
    intro f hf
    have := readRecords_inside hf
    rw [hglue] at this
    omega
  case ordered => exact readRecords_ordered 0 tail done
  case counted => rw [hcount]; exact readRecords_counted 0 tail done
  case unfinished =>
    rw [← not_or, ← hend]
    constructor
    · rintro ⟨f, hf, htag⟩
      exact (readRecords_unfinished hf htag).1
    · exact exists_unexpectedEnd
  case rest =>
    -- What is cut off before the region ends with a separator, as records do.
    intro f hf htag
    obtain ⟨-, hlast, heq⟩ := readRecords_unfinished hf htag
    have hoffset : f.offset = (Pieces.glue Wire.recordSeparator done []).length := by
      rw [heq]
      exact Nat.zero_add _
    have hsplit : frame = Pieces.glue Wire.recordSeparator done [] ++ tail := by
      rw [← hglue, ← List.append_nil done, ← Pieces.glue_append, List.append_nil]
      rfl
    rw [hoffset, hsplit, List.drop_left, List.take_left, List.length_append]
    exact ⟨hlast, congrArg _ (congrArg Fault.length heq), htail,
      Pieces.glue_nil_ends Wire.recordSeparator done⟩

/-- Reading in two parts, cut after a separator, finds the same messages, and the
same faults once those of the second part are shifted; and the faults of every
frame tile it. -/
theorem read_resynchronises :
    (∀ front back : Bytes, (front = [] ∨ front.getLast? = some Wire.recordSeparator) →
      read (front ++ back) =
        { messages := (read front).messages ++ (read back).messages
          faults := (read front).faults ++ (read back).faults.map (Fault.shift front.length) }) ∧
    ∀ frame, Tiling frame (read frame) :=
  ⟨fun _ back h => read_append h back, tiling_read⟩

/-- Empty records in the first part, and a second part that breaks off. -/
theorem read_resynchronises_broken :
    read (Readable.encode "A|A+ERROR+++" ++ Readable.encode "C|PI+E|S") =
      { messages := [.ack .auth .request, .plain .connection .ping]
        faults := [⟨4, 5, .unexpectedToken⟩, ⟨10, 1, .unexpectedToken⟩,
          ⟨11, 1, .unexpectedToken⟩, ⟨17, 3, .unexpectedEnd⟩] } := by
  rw [read_resynchronises.1 _ _ (by decide +kernel)]
  decide +kernel

end Realtime.Frame
