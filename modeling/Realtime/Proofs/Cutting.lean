import Realtime.Pieces

/-!
# Cutting and gluing are inverse

`Realtime.Pieces` shows that gluing undoes cutting. This module shows the other
direction: pieces that do not hold the separator come back from their glued
form, so there is only one way to cut a list.

Results:
1. `fields_eq_iff`: the fields of a list are the one way to write it as
   separator-free pieces with separators between them.
2. `records_eq_iff`: the same for records and the rest after the last one.
3. `records_append`: a list that ends with a terminator is cut on its own,
   whatever follows it.
4. `count_eq_length_records`: there are as many records as terminators.
-/

namespace Realtime.Pieces

variable {α : Type} [DecidableEq α]

/-! ## Fields -/

theorem fields_of_not_mem {separator : α} {piece : List α} (h : separator ∉ piece) :
    fields separator piece = [piece] := by
  induction piece with
  | nil => rfl
  | cons b rest ih =>
    obtain ⟨hb, hrest⟩ := List.ne_and_not_mem_of_not_mem_cons h
    rw [fields, if_neg hb.symm, ih hrest]
    rfl

theorem fields_append_separator {separator : α} {piece : List α} (h : separator ∉ piece)
    (rest : List α) :
    fields separator (piece ++ separator :: rest) = piece :: fields separator rest := by
  induction piece with
  | nil => rw [List.nil_append, fields, if_pos rfl]
  | cons b more ih =>
    obtain ⟨hb, hmore⟩ := List.ne_and_not_mem_of_not_mem_cons h
    rw [List.cons_append, fields, if_neg hb.symm, ih hmore]
    rfl

/-- Pieces without a separator come back from their glued form. -/
theorem fields_join {separator : α} {pieces : List (List α)} (hne : pieces ≠ [])
    (h : ∀ piece ∈ pieces, separator ∉ piece) :
    fields separator (join separator pieces) = pieces := by
  induction pieces with
  | nil => exact absurd rfl hne
  | cons piece others ih =>
    have hpiece : separator ∉ piece := h piece List.mem_cons_self
    cases others with
    | nil => exact fields_of_not_mem hpiece
    | cons second more =>
      rw [join_cons separator piece (List.cons_ne_nil second more),
        fields_append_separator hpiece,
        ih (List.cons_ne_nil second more) fun p hp => h p (List.mem_cons_of_mem _ hp)]

omit [DecidableEq α] in
theorem mem_join {separator b : α} {pieces : List (List α)} :
    b ∈ join separator pieces → b = separator ∨ ∃ piece ∈ pieces, b ∈ piece := by
  induction pieces with
  | nil => intro h; exact absurd h List.not_mem_nil
  | cons piece others ih =>
    intro h
    cases others with
    | nil => exact Or.inr ⟨piece, List.mem_cons_self, h⟩
    | cons second more =>
      rw [join_cons separator piece (List.cons_ne_nil second more), List.mem_append,
        List.mem_cons] at h
      rcases h with h | h | h
      · exact Or.inr ⟨piece, List.mem_cons_self, h⟩
      · exact Or.inl h
      · rcases ih h with h | ⟨other, hmem, h⟩
        · exact Or.inl h
        · exact Or.inr ⟨other, List.mem_cons_of_mem _ hmem, h⟩

theorem not_mem_of_mem_fields {separator : α} {whole piece : List α}
    (h : piece ∈ fields separator whole) : separator ∉ piece := by
  induction whole generalizing piece with
  | nil => rw [fields, List.mem_singleton] at h; rw [h]; exact List.not_mem_nil
  | cons b rest ih =>
    rw [fields] at h
    split at h
    · rcases List.mem_cons.1 h with rfl | h
      · exact List.not_mem_nil
      · exact ih h
    · next hb =>
      cases hcut : fields separator rest with
      | nil => exact absurd hcut (fields_ne_nil separator rest)
      | cons first others =>
        rw [hcut, extendFirst] at h
        rw [hcut] at ih
        rcases List.mem_cons.1 h with rfl | h
        · exact List.not_mem_cons_of_ne_of_not_mem (Ne.symm hb) (ih List.mem_cons_self)
        · exact ih (List.mem_cons_of_mem _ h)

/-- There is one way to write a list as separator-free pieces. -/
theorem fields_eq_iff {separator : α} {whole : List α} {pieces : List (List α)} :
    fields separator whole = pieces ↔
      pieces ≠ [] ∧ (∀ piece ∈ pieces, separator ∉ piece) ∧ join separator pieces = whole := by
  constructor
  · rintro rfl
    exact ⟨fields_ne_nil separator whole, fun _ => not_mem_of_mem_fields,
      join_fields separator whole⟩
  · rintro ⟨hne, hfree, rfl⟩
    exact fields_join hne hfree

/-! ## Records -/

omit [DecidableEq α] in
theorem glue_cons (terminator : α) (record : List α) (others : List (List α)) (tail : List α) :
    glue terminator (record :: others) tail =
      record ++ terminator :: glue terminator others tail := by
  simp [glue]

omit [DecidableEq α] in
theorem glue_append (terminator : α) (done more : List (List α)) (tail : List α) :
    glue terminator done [] ++ glue terminator more tail = glue terminator (done ++ more) tail := by
  simp [glue]

theorem records_of_not_mem {terminator : α} {tail : List α} (h : terminator ∉ tail) :
    records terminator tail = ([], tail) := by
  induction tail with
  | nil => rfl
  | cons b rest ih =>
    obtain ⟨hb, hrest⟩ := List.ne_and_not_mem_of_not_mem_cons h
    rw [records, ih hrest]
    exact if_neg hb.symm

theorem records_append_terminator {terminator : α} {record : List α} (h : terminator ∉ record)
    (rest : List α) :
    records terminator (record ++ terminator :: rest) =
      (record :: (records terminator rest).1, (records terminator rest).2) := by
  induction record with
  | nil => rw [List.nil_append, records]; exact if_pos rfl
  | cons b more ih =>
    obtain ⟨hb, hmore⟩ := List.ne_and_not_mem_of_not_mem_cons h
    rw [List.cons_append, records, ih hmore]
    exact if_neg hb.symm

/-- Records without a terminator inside come back from their glued form, and so
does the rest. -/
theorem records_glue {terminator : α} {done : List (List α)} {tail : List α}
    (hdone : ∀ record ∈ done, terminator ∉ record) (htail : terminator ∉ tail) :
    records terminator (glue terminator done tail) = (done, tail) := by
  induction done with
  | nil => exact records_of_not_mem htail
  | cons record others ih =>
    rw [glue_cons, records_append_terminator (hdone record List.mem_cons_self),
      ih fun other hmem => hdone other (List.mem_cons_of_mem _ hmem)]

theorem not_mem_records (terminator : α) (whole : List α) :
    (∀ record ∈ (records terminator whole).1, terminator ∉ record) ∧
      terminator ∉ (records terminator whole).2 := by
  induction whole with
  | nil => simp [records]
  | cons b rest ih =>
    rw [records]
    generalize records terminator rest = cut at ih ⊢
    obtain ⟨done, tail⟩ := cut
    obtain ⟨hdone, htail⟩ := ih
    by_cases hb : b = terminator
    · simp only [hb, ↓reduceIte]
      refine ⟨fun record hmem => ?_, htail⟩
      rcases List.mem_cons.1 hmem with rfl | hmem
      · exact List.not_mem_nil
      · exact hdone record hmem
    · simp only [hb, ↓reduceIte]
      cases done with
      | nil =>
        exact ⟨hdone, List.not_mem_cons_of_ne_of_not_mem (Ne.symm hb) htail⟩
      | cons record others =>
        refine ⟨fun piece hmem => ?_, htail⟩
        rcases List.mem_cons.1 hmem with rfl | hmem
        · exact List.not_mem_cons_of_ne_of_not_mem (Ne.symm hb)
            (hdone record List.mem_cons_self)
        · exact hdone piece (List.mem_cons_of_mem _ hmem)

/-- There is one way to cut a list into terminator-free records and a rest. -/
theorem records_eq_iff {terminator : α} {whole tail : List α} {done : List (List α)} :
    records terminator whole = (done, tail) ↔
      (∀ record ∈ done, terminator ∉ record) ∧ terminator ∉ tail ∧
        glue terminator done tail = whole := by
  constructor
  · intro h
    have hfree := not_mem_records terminator whole
    have hglue := glue_records terminator whole
    rw [h] at hfree hglue
    exact ⟨hfree.1, hfree.2, hglue⟩
  · rintro ⟨hdone, htail, rfl⟩
    exact records_glue hdone htail

omit [DecidableEq α] in
theorem glue_nil_ends (terminator : α) (done : List (List α)) :
    glue terminator done [] = [] ∨ (glue terminator done []).getLast? = some terminator := by
  rcases List.eq_nil_or_concat done with rfl | ⟨before, last, rfl⟩
  · exact Or.inl rfl
  · exact Or.inr (by simp [glue])

/-- The rest is empty exactly when nothing or a terminator comes last. -/
theorem records_snd_eq_nil_iff (terminator : α) (whole : List α) :
    (records terminator whole).2 = [] ↔ whole = [] ∨ whole.getLast? = some terminator := by
  obtain ⟨hdone, htail⟩ := not_mem_records terminator whole
  have hglue := glue_records terminator whole
  generalize records terminator whole = cut at hdone htail hglue ⊢
  obtain ⟨done, tail⟩ := cut
  subst hglue
  rcases List.eq_nil_or_concat tail with rfl | ⟨init, b, rfl⟩
  · exact iff_of_true rfl (glue_nil_ends terminator done)
  · have hb : b ≠ terminator := fun h => htail (by simp [h])
    simp [glue, hb]

/-- A list that ends with a terminator is cut on its own, whatever follows. -/
theorem records_append {terminator : α} {front : List α}
    (h : front = [] ∨ front.getLast? = some terminator) (back : List α) :
    records terminator (front ++ back) =
      ((records terminator front).1 ++ (records terminator back).1,
        (records terminator back).2) := by
  have hnil := (records_snd_eq_nil_iff terminator front).2 h
  obtain ⟨hfront, -⟩ := not_mem_records terminator front
  obtain ⟨hback, htail⟩ := not_mem_records terminator back
  -- The two cuts together are a cut of the whole, and there is only one.
  refine records_eq_iff.2 ⟨fun record hmem => ?_, htail, ?_⟩
  · rcases List.mem_append.1 hmem with hmem | hmem
    · exact hfront record hmem
    · exact hback record hmem
  · rw [← glue_append, ← hnil, glue_records, glue_records]

theorem count_glue {terminator : α} {done : List (List α)} {tail : List α}
    (hdone : ∀ record ∈ done, terminator ∉ record) (htail : terminator ∉ tail) :
    (glue terminator done tail).count terminator = done.length := by
  induction done with
  | nil => exact List.count_eq_zero.2 htail
  | cons record others ih =>
    have hrecord : record.count terminator = 0 :=
      List.count_eq_zero.2 (hdone record List.mem_cons_self)
    rw [glue_cons, List.count_append, List.count_cons_self, hrecord,
      ih fun other hmem => hdone other (List.mem_cons_of_mem _ hmem), List.length_cons]
    omega

/-- There are as many records as terminators. -/
theorem count_eq_length_records (terminator : α) (whole : List α) :
    whole.count terminator = (records terminator whole).1.length := by
  obtain ⟨hdone, htail⟩ := not_mem_records terminator whole
  rw [← count_glue hdone htail, glue_records]

end Realtime.Pieces
