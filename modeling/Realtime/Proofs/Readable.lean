import Realtime.Message
import Realtime.Proofs.JsonLexeme

/-!
# Readable form and back

Readable form shows the two separators as `|` and `+`, byte by byte, and reads the outcome as
well as that is possible. Every exchange is of one ASCII byte for another, so it takes texts to
texts and leaves the bytes of all other characters alone. What is lost is then lost in one of two
ways: a byte that stands for a separator already, and bytes that are no text.

Results:
1. `IsText.map`: an exchange of ASCII bytes takes texts to texts.
2. `ascii_mem_encode`: an ASCII byte stands in the bytes of a text only as its own character.
3. `readable_faithful`: where readable form says everything, in both directions.
-/

namespace Realtime

/-! ## Text -/

/-- The bytes are the bytes of a text. -/
def IsText (bytes : Bytes) : Prop :=
  ∃ text, Utf8.encode text = bytes

theorem isText_encode (text : String) : IsText (Utf8.encode text) :=
  ⟨text, rfl⟩

theorem IsText.append {front back : Bytes} (hfront : IsText front) (hback : IsText back) :
    IsText (front ++ back) := by
  obtain ⟨first, rfl⟩ := hfront
  obtain ⟨second, rfl⟩ := hback
  refine ⟨first ++ second, ?_⟩
  unfold Utf8.encode
  rw [String.toList_append, List.flatMap_append]

/-- A text is shown as itself, so its bytes come back. -/
theorem IsText.encode_lossy {bytes : Bytes} (h : IsText bytes) :
    Utf8.encode (Utf8.lossy bytes) = bytes := by
  obtain ⟨text, rfl⟩ := h
  rw [Utf8.lossy_encode]

/-! ## Exchanging ASCII bytes -/

/-- ASCII bytes are exchanged for ASCII bytes, and no other byte is touched. -/
structure Exchanges (change : UInt8 → UInt8) : Prop where
  low : ∀ b : UInt8, b.toNat < 0x80 → (change b).toNat < 0x80
  high : ∀ b : UInt8, 0x80 ≤ b.toNat → change b = b

theorem Exchanges.comp {change other : UInt8 → UInt8} (hchange : Exchanges change)
    (hother : Exchanges other) : Exchanges (change ∘ other) where
  low b hb := hchange.low _ (hother.low b hb)
  high b hb := by rw [Function.comp_apply, hother.high b hb, hchange.high b hb]

/-- Two ASCII bytes are exchanged for two others. -/
theorem Exchanges.two {first second newFirst newSecond : UInt8} (hfirst : first.toNat < 0x80)
    (hsecond : second.toNat < 0x80) (hnewFirst : newFirst.toNat < 0x80)
    (hnewSecond : newSecond.toNat < 0x80) :
    Exchanges fun b => if b = first then newFirst else if b = second then newSecond else b where
  low b hb := by
    split
    · exact hnewFirst
    split
    · exact hnewSecond
    · exact hb
  high b hb := by
    have hnotFirst : b ≠ first := by rintro rfl; omega
    have hnotSecond : b ≠ second := by rintro rfl; omega
    rw [if_neg hnotFirst, if_neg hnotSecond]

theorem toNat_ofNat_ascii {c : Char} (h : c.toNat < 0x80) : (UInt8.ofNat c.toNat).toNat = c.toNat :=
  UInt8.toNat_ofNat_of_lt' (Nat.lt_trans h (by decide))

theorem map_eq_self_iff {α : Type} {f : α → α} {list : List α} :
    list.map f = list ↔ ∀ a ∈ list, f a = a := by
  have hid : list.map f = list.map id ↔ ∀ a ∈ list, f a = id a := List.map_inj_left
  rwa [List.map_id] at hid

/-- The bytes of a character are exchanged for the bytes of a character. -/
theorem Exchanges.encodeChar {change : UInt8 → UInt8} (h : Exchanges change) (c : Char) :
    ∃ d, String.utf8EncodeChar d = (String.utf8EncodeChar c).map change := by
  by_cases hascii : c.toNat < 0x80
  · have hlow : change (UInt8.ofNat c.toNat) < 0x80 :=
      UInt8.lt_iff_toNat_lt.mpr (h.low _ (by rwa [toNat_ofNat_ascii hascii]))
    refine ⟨Char.ofNat (change (UInt8.ofNat c.toNat)).toNat, ?_⟩
    rw [Utf8.encodeChar_one hlow, Json.encodeChar_ascii hascii, List.map_singleton]
  · refine ⟨c, (map_eq_self_iff.mpr fun b hb => ?_).symm⟩
    exact h.high b (Json.high_of_mem_encodeChar (Nat.le_of_not_lt hascii) b hb)

/-- An exchange of ASCII bytes takes texts to texts. -/
theorem IsText.map {change : UInt8 → UInt8} (h : Exchanges change) {bytes : Bytes}
    (hbytes : IsText bytes) : IsText (bytes.map change) := by
  obtain ⟨text, rfl⟩ := hbytes
  unfold Utf8.encode
  induction text.toList with
  | nil => exact isText_encode ""
  | cons c rest ih =>
    rw [List.flatMap_cons, List.map_append]
    refine IsText.append ?_ ih
    obtain ⟨d, hd⟩ := h.encodeChar c
    exact ⟨String.singleton d, by simp [Utf8.encode, hd]⟩

/-- An ASCII byte stands in the bytes of a text only as its own character. -/
theorem ascii_mem_encode {c : Char} (hascii : c.toNat < 0x80) (text : String) :
    UInt8.ofNat c.toNat ∈ Utf8.encode text ↔ c ∈ text.toList := by
  refine List.mem_flatMap.trans ⟨?_, fun hc => ⟨c, hc, ?_⟩⟩
  · rintro ⟨d, hd, hmem⟩
    have hlow : d.toNat < 0x80 := by
      refine Nat.lt_of_not_le fun hhigh => ?_
      have := Json.high_of_mem_encodeChar hhigh _ hmem
      rw [toNat_ofNat_ascii hascii] at this
      omega
    rw [Json.encodeChar_ascii hlow, List.mem_singleton] at hmem
    have hsame : c.toNat = d.toNat := by
      rw [← toNat_ofNat_ascii hascii, hmem, toNat_ofNat_ascii hlow]
    rwa [Char.toNat_inj.mp hsame]
  · rw [Json.encodeChar_ascii hascii]
    exact List.mem_singleton_self _

/-! ## The two separators -/

namespace Readable

theorem exchanges_toWire : Exchanges toWire :=
  .two (by decide) (by decide) (by decide) (by decide)

theorem exchanges_ofWire : Exchanges ofWire :=
  .two (by decide) (by decide) (by decide) (by decide)

/-- No byte of the wire is one that readable form has for a separator. -/
theorem toWire_ne (b : UInt8) : toWire b ≠ bar ∧ toWire b ≠ plus := by
  unfold toWire
  split
  · decide
  split
  · decide
  · next hbar hplus => exact ⟨hbar, hplus⟩

/-- A byte of the wire is shown as itself unless it stands for a separator already. -/
theorem toWire_ofWire {b : UInt8} (hbar : b ≠ bar) (hplus : b ≠ plus) : toWire (ofWire b) = b := by
  unfold ofWire
  split
  · next h => rw [h]; rfl
  split
  · next h => rw [h]; rfl
  · rw [toWire, if_neg hbar, if_neg hplus]

/-- A readable byte comes back unless it is a separator. -/
theorem ofWire_toWire_iff (b : UInt8) :
    ofWire (toWire b) = b ↔ b ≠ Wire.unitSeparator ∧ b ≠ Wire.recordSeparator := by
  unfold toWire
  split
  · next h => subst h; decide
  split
  · next h => subst h; decide
  · unfold ofWire
    split
    · next h => subst h; decide
    split
    · next h => subst h; decide
    · next hunit hrecord => exact ⟨fun _ => ⟨hunit, hrecord⟩, fun _ => rfl⟩

/-! ## Both directions -/

/-- Wire bytes come back from readable form where they are text and hold no byte that stands for a
separator. -/
theorem encode_decode_iff (bytes : Bytes) :
    encode (decode bytes) = bytes ↔ IsText bytes ∧ bar ∉ bytes ∧ plus ∉ bytes := by
  constructor
  · intro h
    refine h ▸ ⟨(isText_encode _).map exchanges_toWire, fun hbar => ?_, fun hplus => ?_⟩
    · obtain ⟨b, -, hb⟩ := List.mem_map.mp hbar
      exact (toWire_ne b).1 hb
    · obtain ⟨b, -, hb⟩ := List.mem_map.mp hplus
      exact (toWire_ne b).2 hb
  · rintro ⟨htext, hbar, hplus⟩
    rw [encode, decode, (htext.map exchanges_ofWire).encode_lossy, List.map_map]
    exact map_eq_self_iff.mpr fun b hb =>
      toWire_ofWire (ne_of_mem_of_not_mem hb hbar) (ne_of_mem_of_not_mem hb hplus)

/-- A text comes back from the wire where it holds no separator. -/
theorem decode_encode_iff (text : String) :
    decode (encode text) = text ↔ '\x1F' ∉ text.toList ∧ '\x1E' ∉ text.toList := by
  have htext : IsText ((Utf8.encode text).map (ofWire ∘ toWire)) :=
    (isText_encode text).map (exchanges_ofWire.comp exchanges_toWire)
  have hback : Utf8.encode (decode (encode text)) = (Utf8.encode text).map (ofWire ∘ toWire) := by
    rw [decode, encode, List.map_map, htext.encode_lossy]
  calc decode (encode text) = text
      ↔ Utf8.encode (decode (encode text)) = Utf8.encode text :=
        ⟨congrArg Utf8.encode, Utf8.encode_injective⟩
    _ ↔ ∀ b ∈ Utf8.encode text, ofWire (toWire b) = b := by
        rw [hback]
        exact map_eq_self_iff
    _ ↔ Wire.unitSeparator ∉ Utf8.encode text ∧ Wire.recordSeparator ∉ Utf8.encode text := by
        simp only [ofWire_toWire_iff, ne_eq, imp_and, forall_and, List.forall_mem_ne']
    _ ↔ '\x1F' ∉ text.toList ∧ '\x1E' ∉ text.toList :=
        have hunit := ascii_mem_encode (c := '\x1F') (by decide) text
        have hrecord := ascii_mem_encode (c := '\x1E') (by decide) text
        and_congr (not_congr hunit) (not_congr hrecord)

end Readable

/-- Readable form is faithful where it can be. Wire bytes come back if and only if they are text
and hold neither `|` nor `+`; a text comes back if and only if it holds neither separator. No
exchange and no replacement character makes up for another. -/
theorem readable_faithful :
    (∀ bytes, Readable.encode (Readable.decode bytes) = bytes ↔
      IsText bytes ∧ Readable.bar ∉ bytes ∧ Readable.plus ∉ bytes) ∧
    ∀ text, Readable.decode (Readable.encode text) = text ↔
      '\x1F' ∉ text.toList ∧ '\x1E' ∉ text.toList :=
  ⟨Readable.encode_decode_iff, Readable.decode_encode_iff⟩

end Realtime
