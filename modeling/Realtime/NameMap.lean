/-!
# Tables keyed by names

Subscriptions, listeners and the members of a JSON object are tables from names
to values, listed in ascending order of the names. The order compares texts
character by character, which is also the order of their UTF-8 bytes.

`NameMap` keeps the order in its type. The operations on bare lists come first,
because a JSON object is part of its own member type and holds a bare list.

Results:
1. `ascending_insert`, `ascending_erase`: the operations keep the order.
2. `find?_insert`, `find?_erase`: what a table holds after each operation.
3. `find?_eq_none_iff`: a table holds exactly the names that it lists.
-/

namespace Realtime

/-! ## Lists of entries -/

namespace Entries

variable {α : Type}

/-- The names are listed in ascending order, each once. -/
def Ascending (entries : List (String × α)) : Prop :=
  entries.Pairwise fun a b => a.1 < b.1

/-- The value of a name. -/
def find? (name : String) : List (String × α) → Option α
  | [] => none
  | (own, value) :: rest => if own = name then some value else find? name rest

/-- Adds an entry in its place, or replaces the one of that name. -/
def insert (name : String) (value : α) : List (String × α) → List (String × α)
  | [] => [(name, value)]
  | (own, old) :: rest =>
    if name < own then (name, value) :: (own, old) :: rest
    else if own = name then (name, value) :: rest
    else (own, old) :: insert name value rest

/-- Removes the entry of a name. -/
def erase (name : String) (entries : List (String × α)) : List (String × α) :=
  entries.filter fun entry => entry.1 ≠ name

theorem mem_insert_fst {name own : String} {value : α} {entries : List (String × α)}
    (h : own ∈ (insert name value entries).map Prod.fst) :
    own = name ∨ own ∈ entries.map Prod.fst := by
  induction entries with
  | nil => simpa [insert] using h
  | cons entry rest ih =>
    simp only [insert] at h
    split at h
    · simpa using h
    · split at h
      · next heq => simp only [List.map_cons, List.mem_cons] at h ⊢; grind
      · simp only [List.map_cons, List.mem_cons] at h ⊢
        rcases h with h | h
        · exact Or.inr (Or.inl h)
        · rcases ih h with h | h
          · exact Or.inl h
          · exact Or.inr (Or.inr h)

theorem ascending_insert {entries : List (String × α)} (name : String) (value : α)
    (h : Ascending entries) : Ascending (insert name value entries) := by
  induction entries with
  | nil => simp [insert, Ascending]
  | cons entry rest ih =>
    obtain ⟨hhead, hrest⟩ := List.pairwise_cons.1 h
    simp only [insert]
    split
    · next hlt =>
      refine List.pairwise_cons.2 ⟨fun other hmem => ?_, h⟩
      rcases List.mem_cons.1 hmem with rfl | hmem
      · exact hlt
      · exact String.lt_trans hlt (hhead other hmem)
    · next hge =>
      split
      · next heq =>
        subst heq
        exact List.pairwise_cons.2 ⟨hhead, hrest⟩
      · next hne =>
        refine List.pairwise_cons.2 ⟨fun other hmem => ?_, ih hrest⟩
        rcases mem_insert_fst (List.mem_map_of_mem hmem) with hname | hold
        · rw [hname]
          have hle : entry.1 ≤ name := String.not_lt.1 hge
          exact Std.lt_of_le_of_ne hle hne
        · obtain ⟨same, hsame, heq⟩ := List.mem_map.1 hold
          exact heq ▸ hhead same hsame

theorem ascending_erase {entries : List (String × α)} (name : String) (h : Ascending entries) :
    Ascending (erase name entries) :=
  List.Pairwise.filter _ h

/-- A name behind all others comes last. -/
theorem insert_of_forall_lt {name : String} {value : α} {entries : List (String × α)}
    (h : ∀ entry ∈ entries, entry.1 < name) :
    insert name value entries = entries ++ [(name, value)] := by
  induction entries with
  | nil => rfl
  | cons entry rest ih =>
    have hlt := h entry List.mem_cons_self
    have hne : entry.1 ≠ name := fun heq => String.lt_irrefl name (heq ▸ hlt)
    rw [insert, if_neg (String.lt_asymm hlt), if_neg hne,
      ih fun other hmem => h other (List.mem_cons_of_mem _ hmem)]
    rfl

/-- Entries that come in order are added one behind the other. -/
theorem foldl_insert {before entries : List (String × α)} (h : Ascending (before ++ entries)) :
    entries.foldl (fun table entry => insert entry.1 entry.2 table) before = before ++ entries := by
  induction entries generalizing before with
  | nil => exact (List.append_nil before).symm
  | cons entry entries ih =>
    have hlast : ∀ other ∈ before, other.1 < entry.1 := fun other hmem =>
      (List.pairwise_append.1 h).2.2 other hmem entry List.mem_cons_self
    rw [List.append_cons] at h
    rw [List.foldl_cons, insert_of_forall_lt hlast, ih h, ← List.append_cons]

theorem find?_insert (name other : String) (value : α) (entries : List (String × α)) :
    find? other (insert name value entries) =
      if other = name then some value else find? other entries := by
  induction entries with
  | nil => simp [insert, find?, eq_comm]
  | cons entry rest ih =>
    simp only [insert]
    split
    · simp [find?, eq_comm]
    · split
      · next heq => simp only [find?]; grind
      · next hne => simp only [find?, ih]; grind

theorem find?_erase (name other : String) (entries : List (String × α)) :
    find? other (erase name entries) = if other = name then none else find? other entries := by
  induction entries with
  | nil => simp [erase, find?]
  | cons entry rest ih =>
    simp only [erase, ne_eq, decide_not, List.filter_cons, Bool.not_eq_eq_eq_not, Bool.not_true,
      decide_eq_false_iff_not] at ih ⊢
    split
    · simp only [find?, ih]; grind
    · simp only [find?, ih]; grind

theorem find?_eq_none_iff {name : String} {entries : List (String × α)} :
    find? name entries = none ↔ name ∉ entries.map Prod.fst := by
  induction entries with
  | nil => simp [find?]
  | cons entry rest ih =>
    simp only [find?, List.map_cons, List.mem_cons, not_or]
    split
    · next h => simp [h]
    · next h => simp only [ih]; grind

end Entries

/-! ## Tables -/

/-- A table from names to values, in ascending order of the names. -/
structure NameMap (α : Type) where
  entries : List (String × α)
  ascending : Entries.Ascending entries

namespace NameMap

variable {α : Type}

/-- The table without entries. -/
def empty : NameMap α :=
  ⟨[], List.Pairwise.nil⟩

/-- The names, in ascending order. -/
def names (t : NameMap α) : List String :=
  t.entries.map Prod.fst

/-- The value of a name. -/
def find? (t : NameMap α) (name : String) : Option α :=
  Entries.find? name t.entries

/-- Whether the table holds a name. -/
def contains (t : NameMap α) (name : String) : Bool :=
  (t.find? name).isSome

/-- Adds or replaces an entry. -/
def insert (t : NameMap α) (name : String) (value : α) : NameMap α :=
  ⟨Entries.insert name value t.entries, Entries.ascending_insert name value t.ascending⟩

/-- Removes the entry of a name. -/
def erase (t : NameMap α) (name : String) : NameMap α :=
  ⟨Entries.erase name t.entries, Entries.ascending_erase name t.ascending⟩

@[simp] theorem find?_empty (name : String) : (empty : NameMap α).find? name = none := rfl

@[simp] theorem find?_insert (t : NameMap α) (name other : String) (value : α) :
    (t.insert name value).find? other = if other = name then some value else t.find? other :=
  Entries.find?_insert name other value t.entries

@[simp] theorem find?_erase (t : NameMap α) (name other : String) :
    (t.erase name).find? other = if other = name then none else t.find? other :=
  Entries.find?_erase name other t.entries

theorem find?_eq_none_iff {t : NameMap α} {name : String} :
    t.find? name = none ↔ name ∉ t.names :=
  Entries.find?_eq_none_iff

theorem mem_names_iff {t : NameMap α} {name : String} :
    name ∈ t.names ↔ ∃ value, t.find? name = some value := by
  rw [← Option.ne_none_iff_exists', Ne, find?_eq_none_iff, Decidable.not_not]

/-- What holds of every entry, and of a new one, holds of every entry afterwards. -/
theorem forall_insert {t : NameMap α} {P : String → α → Prop} {name : String} {value : α}
    (h : ∀ other found, t.find? other = some found → P other found) (hnew : P name value)
    (other : String) (found : α) (hfound : (t.insert name value).find? other = some found) :
    P other found := by
  rw [find?_insert] at hfound
  split at hfound
  · next hsame =>
    cases hfound
    exact hsame ▸ hnew
  · exact h other found hfound

theorem forall_erase {t : NameMap α} {P : String → α → Prop} {name : String}
    (h : ∀ other found, t.find? other = some found → P other found)
    (other : String) (found : α) (hfound : (t.erase name).find? other = some found) :
    P other found := by
  rw [find?_erase] at hfound
  split at hfound
  · cases hfound
  · exact h other found hfound

/-- The names are in strictly ascending order. -/
theorem names_ascending (t : NameMap α) : t.names.Pairwise (· < ·) := by
  simpa [names, List.pairwise_map, Entries.Ascending] using t.ascending

end NameMap

end Realtime
