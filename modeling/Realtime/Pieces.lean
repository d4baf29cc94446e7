/-!
# Cutting at separators

Frames are cut into records, records into fields, and addresses into labels and
groups, at one separating element each. This module holds the two ways of
cutting a list and the gluing that undoes them.

Results:
1. `fields_ne_nil`: there is always at least one field, an empty list included.
2. `join_fields`: gluing the fields again gives the list back.
3. `glue_records`: ending every record again, and adding the rest that no
   separator ended, gives the list back.
-/

namespace Realtime.Pieces

variable {α : Type} [DecidableEq α]

/-! ## Fields: separators stand between the pieces -/

/-- Puts an element in front of the first piece. -/
def extendFirst (b : α) : List (List α) → List (List α)
  | [] => [[b]]
  | first :: others => (b :: first) :: others

/-- The pieces between the separators. A separator at either end, or two in a
row, leave an empty piece. -/
def fields (separator : α) : List α → List (List α)
  | [] => [[]]
  | b :: rest =>
    if b = separator then [] :: fields separator rest
    else extendFirst b (fields separator rest)

/-- The pieces with the separator between them. -/
def join (separator : α) : List (List α) → List α
  | [] => []
  | [last] => last
  | piece :: others => piece ++ separator :: join separator others

theorem fields_ne_nil (separator : α) (whole : List α) : fields separator whole ≠ [] := by
  cases whole with
  | nil => simp [fields]
  | cons b rest =>
    simp only [fields]
    split
    · simp
    · cases fields separator rest <;> simp [extendFirst]

omit [DecidableEq α] in
theorem join_extendFirst (separator b : α) {pieces : List (List α)} (h : pieces ≠ []) :
    join separator (extendFirst b pieces) = b :: join separator pieces := by
  cases pieces with
  | nil => exact absurd rfl h
  | cons first others => cases others <;> simp [extendFirst, join]

omit [DecidableEq α] in
theorem join_cons (separator : α) (piece : List α) {others : List (List α)} (h : others ≠ []) :
    join separator (piece :: others) = piece ++ separator :: join separator others := by
  cases others with
  | nil => exact absurd rfl h
  | cons second more => rfl

/-- Nothing is lost or added by cutting at a separator. -/
theorem join_fields (separator : α) (whole : List α) :
    join separator (fields separator whole) = whole := by
  induction whole with
  | nil => rfl
  | cons b rest ih =>
    simp only [fields]
    split
    · next h => rw [join_cons _ _ (fields_ne_nil _ _), ih, h]; rfl
    · rw [join_extendFirst _ _ (fields_ne_nil _ _), ih]

/-! ## Records: a terminator ends each piece -/

/-- The pieces that a terminator ends, without it, and what follows the last
terminator. -/
def records (terminator : α) : List α → List (List α) × List α
  | [] => ([], [])
  | b :: rest =>
    match records terminator rest with
    | (done, tail) =>
      if b = terminator then ([] :: done, tail)
      else
        match done with
        | [] => ([], b :: tail)
        | record :: others => ((b :: record) :: others, tail)

/-- Every record with its terminator, then the unfinished rest. -/
def glue (terminator : α) (done : List (List α)) (tail : List α) : List α :=
  done.flatMap (· ++ [terminator]) ++ tail

theorem glue_records (terminator : α) (whole : List α) :
    glue terminator (records terminator whole).1 (records terminator whole).2 = whole := by
  induction whole with
  | nil => rfl
  | cons b rest ih =>
    simp only [records]
    generalize records terminator rest = cut at ih ⊢
    obtain ⟨done, tail⟩ := cut
    split
    · next h => simpa [glue, h] using ih
    · cases done with
      | nil => simpa [glue] using ih
      | cons record others => simpa [glue] using ih

end Realtime.Pieces
