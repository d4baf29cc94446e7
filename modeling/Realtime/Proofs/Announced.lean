import Realtime.Payload

/-!
# What a payload announces and what it carries

The first byte of a payload announces the kind of its value. Strings and constants are what was
announced, whatever follows. A number and an object are read by one reader, which takes any JSON,
so they are what was announced only if the text is; and what the text is shows in its first byte.

Results:
1. `Kind.ofText?_of_value`: the first byte of a JSON text tells the kind of its value.
2. `Kind.of_decodeBody`: the kind of what is read from a payload.
3. `announced_kept_iff`: when a payload is read as what it announces, and as what else.
4. `number_announces_true`: it need not be.
-/

namespace Realtime

namespace Payload

open Json (Value skipBlanks)

variable {v : Value} {rest left bytes : Bytes} {kind : Kind}

theorem Kind.letter_injective : Function.Injective Kind.letter := by
  intro kind other h
  have hsame := congrArg Kind.ofLetter? h
  rwa [Kind.ofLetter?_letter, Kind.ofLetter?_letter, Option.some.injEq] at hsame

theorem Kind.letter_of_ofLetter? {letter : UInt8} (h : Kind.ofLetter? letter = some kind) :
    kind.letter = letter := by
  simpa using List.find?_some h

/-! ## The kind of a text -/

/-- The kind of the values whose texts start with the byte. -/
def Kind.ofFirst? (b : UInt8) : Option Kind :=
  if b = 0x6E then some .null
  else if b = 0x74 then some .true
  else if b = 0x66 then some .false
  else if b = Json.minus ∨ Json.isDigit b = Bool.true then some .number
  else if b = Json.quote then some .string
  else if b = Json.openBracket ∨ b = Json.openBrace then some .object
  else none

/-- The kind of a text, as its first byte tells it that is no blank. -/
def Kind.ofText? (bytes : Bytes) : Option Kind :=
  (skipBlanks bytes).head?.bind Kind.ofFirst?

/-- A reading that makes values of one kind only gives a value of that kind. -/
theorem Kind.some_of_map {α : Type} {reading : Except Json.Fault α} {make : α → Value × Bytes}
    (hkind : ∀ a, Kind.of (make a).1 = kind) (h : reading.map make = .ok (v, left)) :
    some kind = some (Kind.of v) := by
  cases reading with
  | error fault => cases h
  | ok a => rw [← hkind a, Except.ok.inj h]

/-- The first byte of a JSON text tells the kind of its value. -/
theorem Kind.ofText?_of_value {depth : Nat} (h : Json.value depth bytes = .ok (v, left)) :
    Kind.ofText? bytes = some (Kind.of v) := by
  unfold Json.value at h
  unfold Kind.ofText?
  cases hfirst : skipBlanks bytes with
  | nil =>
    rw [hfirst] at h
    cases h
  | cons b rest =>
    simp only [hfirst] at h
    rw [List.head?_cons, Option.bind_some, Kind.ofFirst?]
    -- The reader asks for the first byte in this order, for a minus and a digit one by one.
    split at h
    · next hnull => exact (if_pos hnull).trans (some_of_map (fun _ => rfl) h)
    rw [if_neg ‹_›]
    split at h
    · next htrue => exact (if_pos htrue).trans (some_of_map (fun _ => rfl) h)
    rw [if_neg ‹_›]
    split at h
    · next hfalse => exact (if_pos hfalse).trans (some_of_map (fun _ => rfl) h)
    rw [if_neg ‹_›]
    split at h
    · next hminus => exact (if_pos (.inl hminus)).trans (some_of_map (fun _ => rfl) h)
    split at h
    · next hdigit => exact (if_pos (.inr hdigit)).trans (some_of_map (fun _ => rfl) h)
    rw [if_neg (not_or.mpr ⟨‹_›, ‹_›⟩)]
    split at h
    · next hquote => exact (if_pos hquote).trans (some_of_map (fun _ => rfl) h)
    rw [if_neg ‹_›]
    cases depth with
    | zero => cases h
    | succ inner =>
      dsimp only at h
      split at h
      · next hbracket => exact (if_pos (.inl hbracket)).trans (some_of_map (fun _ => rfl) h)
      split at h
      · next hbrace => exact (if_pos (.inr hbrace)).trans (some_of_map (fun _ => rfl) h)
      · cases h

theorem Kind.ofText?_of_decode (h : Json.decode rest = .ok v) :
    Kind.ofText? rest = some (Kind.of v) := by
  unfold Json.decode Json.finished at h
  split at h
  · cases h
  · next found left hvalue =>
    split at h
    · cases h
      exact Kind.ofText?_of_value hvalue
    · cases h

/-! ## The kind of what is read -/

/-- The kind of what is read after the letter of a kind. -/
def Kind.carried? (rest : Bytes) : Kind → Option Kind
  | .undefined => some .null
  | .number => ofText? rest
  | .object => ofText? rest
  | kind => some kind

/-- The kind of what is read from a payload: for a number or an object, that of the text. -/
theorem Kind.of_decodeBody (h : decodeBody rest kind = .ok v) :
    kind.carried? rest = some (Kind.of v) := by
  cases kind with
  | string =>
    simp only [decodeBody] at h
    split at h
    · cases h
      rfl
    · cases h
  | number | object =>
    simp only [decodeBody] at h
    cases hread : Json.decode rest with
    | error fault =>
      rw [hread] at h
      cases h
    | ok found =>
      rw [hread] at h
      cases h
      exact Kind.ofText?_of_decode hread
  | true | false | null | undefined =>
    cases h
    rfl

/-! ## What is kept of the announced kind -/

/-- The kind that a payload of the given kind comes back as: nothing is written as
`undefined`. -/
def Kind.kept : Kind → Kind
  | .undefined => .null
  | kind => kind

/-- What follows the letter has the form of the announced kind: a number starts with a minus or a
digit, an object with a bracket or a brace. Of the other kinds nothing is asked. -/
def Kind.Fits (rest : Bytes) : Kind → Prop
  | .number => ∃ b ∈ (skipBlanks rest).head?, b = Json.minus ∨ Json.isDigit b = Bool.true
  | .object => ∃ b ∈ (skipBlanks rest).head?, b = Json.openBracket ∨ b = Json.openBrace
  | _ => True

theorem Kind.ofFirst?_number (b : UInt8) :
    Kind.ofFirst? b = some .number ↔ b = Json.minus ∨ Json.isDigit b = Bool.true := by
  unfold Kind.ofFirst?
  split
  · next h => subst h; decide
  split
  · next h => subst h; decide
  split
  · next h => subst h; decide
  split
  · next h => exact iff_of_true rfl h
  · next h => exact iff_of_false (by (repeat' split) <;> decide) h

theorem Kind.ofFirst?_object (b : UInt8) :
    Kind.ofFirst? b = some .object ↔ b = Json.openBracket ∨ b = Json.openBrace := by
  constructor
  · intro h
    unfold Kind.ofFirst? at h
    (repeat' split at h) <;> first | assumption | cases h
  · rintro (rfl | rfl) <;> decide

theorem Kind.ofText?_eq_some_iff {first : UInt8 → Prop}
    (hfirst : ∀ b, ofFirst? b = some kind ↔ first b) :
    ofText? rest = some kind ↔ ∃ b ∈ (skipBlanks rest).head?, first b :=
  Option.bind_eq_some_iff.trans (exists_congr fun b => and_congr_right fun _ => hfirst b)

/-- What is read is of the announced kind if and only if the text has its form. -/
theorem Kind.carried?_eq_kept_iff (rest : Bytes) (kind : Kind) :
    kind.carried? rest = some kind.kept ↔ kind.Fits rest := by
  cases kind with
  | number => exact ofText?_eq_some_iff ofFirst?_number
  | object => exact ofText?_eq_some_iff ofFirst?_object
  | string | true | false | null | undefined => exact iff_of_true rfl trivial

theorem head?_encode (v : Value) : (encode v).head? = some (Kind.of v).letter := rfl

/-- When a payload is read as what it announces. Whatever is read from a payload is written again
with the letter of the announced kind, or that of null for `undefined`, if and only if the text of
a number or an object has the form of one. Otherwise the letter tells what the text was. -/
theorem announced_kept_iff (h : decode bytes = .ok v) :
    ∃ (kind : Kind) (rest : Bytes), bytes = kind.letter :: rest ∧
      ((encode v).head? = some kind.kept.letter ↔ kind.Fits rest) ∧
      (encode v).head? = (kind.carried? rest).map Kind.letter := by
  unfold decode at h
  cases bytes with
  | nil => cases h
  | cons letter rest =>
    simp only at h
    split at h
    · cases h
    next kind hletter =>
    have hcarried := Kind.of_decodeBody h
    refine ⟨kind, rest, by rw [Kind.letter_of_ofLetter? hletter], ?_, ?_⟩
    · rw [head?_encode, Option.some.injEq, Kind.letter_injective.eq_iff,
        ← Kind.carried?_eq_kept_iff, hcarried, Option.some.injEq]
    · rw [head?_encode, hcarried, Option.map_some]

/-- A number announced and carried, after a blank. -/
theorem announced_kept_iff_seven :
    decode (Utf8.encode "N 7") = .ok (.number (.whole ⟨7, by decide, by decide⟩)) ∧
    ∃ (kind : Kind) (rest : Bytes), Utf8.encode "N 7" = kind.letter :: rest ∧
      ((encode (.number (.whole ⟨7, by decide, by decide⟩))).head? = some kind.kept.letter ↔
        kind.Fits rest) ∧
      (encode (.number (.whole ⟨7, by decide, by decide⟩))).head? =
        (kind.carried? rest).map Kind.letter :=
  ⟨rfl, announced_kept_iff rfl⟩

/-- A payload that announces a number is read as true, and is written again as such. One that
announces an object is read as a number. -/
theorem number_announces_true :
    (Utf8.encode "Ntrue").head? = some Kind.number.letter ∧
      decode (Utf8.encode "Ntrue") = .ok (.bool Bool.true) ∧
      (encode (.bool Bool.true)).head? = some Kind.true.letter ∧
    (Utf8.encode "O7").head? = some Kind.object.letter ∧
      decode (Utf8.encode "O7") = .ok (.number (.whole ⟨7, by decide, by decide⟩)) ∧
      (encode (.number (.whole ⟨7, by decide, by decide⟩))).head? = some Kind.number.letter :=
  ⟨rfl, rfl, rfl, rfl, rfl, rfl⟩

end Payload

end Realtime
