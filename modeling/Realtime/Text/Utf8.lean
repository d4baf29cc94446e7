import Realtime.Bytes

/-!
# UTF-8

Names, patterns and users are text; the wire carries bytes. A byte string is
cut into pieces, each a character or a fault. A fault is a *maximal subpart*:
the longest run of bytes that could still have become a character, or a single
byte that cannot start one. The two readings differ only in what they make of
faults: `lossy` shows each as one replacement character, `decode` refuses the
string at the first one and says where it stands.

Results:
1. `encode_injective`: the bytes of a text determine it.
2. `encode_lt_encode`: texts come in the order of their bytes.
3. `pieces_bytes`: the pieces hold the bytes of the string, in order.
4. `encodeChar_of_complete`: the bytes of a piece that is a character are its own.
5. `lossy_encode`, `decode_encode`: the bytes of a text are read as that text.
6. `mem_of_mem_encode_lossy`: `lossy` brings in no ASCII byte.
7. `encode_of_decode`: bytes that are not refused are the bytes of what is read.
-/

namespace Realtime.Utf8

/-- The bytes of a text. -/
def encode (text : String) : Bytes :=
  text.toList.flatMap String.utf8EncodeChar

/-- Different texts have different bytes. -/
theorem encode_injective {text other : String} (h : encode text = encode other) :
    text = other := by
  have hbytes : text.toList.utf8Encode = other.toList.utf8Encode := congrArg List.toByteArray h
  rw [String.utf8Encode_toList, String.utf8Encode_toList] at hbytes
  exact String.toByteArray_inj.mp hbytes

/-! ## The order of texts -/

/-- The bytes of a lesser character come first, whatever follows them: no character
starts with the bytes of another. -/
theorem encodeChar_lt {a b : Char} (h : a < b) (front back : Bytes) :
    String.utf8EncodeChar a ++ front < String.utf8EncodeChar b ++ back := by
  have hval : a.val.toNat < b.val.toNat := h
  have hmax : b.val.toNat < 0x110000 := by
    have hvalid := b.valid
    unfold UInt32.isValidChar Nat.isValidChar at hvalid
    omega
  unfold String.utf8EncodeChar
  dsimp only
  generalize a.val.toNat = m at hval ⊢
  generalize b.val.toNat = n at hval hmax ⊢
  -- Each byte but the first holds six bits, so the numbers compare digit by digit.
  have hlast : m / 64 < n / 64 ∨ m / 64 = n / 64 ∧ m % 64 < n % 64 := by omega
  have hthird : m / 4096 < n / 4096 ∨
      m / 4096 = n / 4096 ∧ m / 64 % 64 ≤ n / 64 % 64 := by omega
  have hsecond : m / 262144 < n / 262144 ∨
      m / 262144 = n / 262144 ∧ m / 4096 % 64 ≤ n / 4096 % 64 := by omega
  (repeat' split) <;>
    simp (disch := omega) only [List.cons_append, List.nil_append, List.cons_lt_cons_iff,
      UInt8.lt_iff_toNat_lt, ← UInt8.toNat_inj, UInt8.toNat_ofNat', Nat.mod_eq_of_lt] <;> omega

theorem encodeChar_ne_nil (a : Char) : String.utf8EncodeChar a ≠ [] := by
  have hlength := String.length_utf8EncodeChar a
  intro hnil
  rw [hnil] at hlength
  exact Nat.ne_of_gt (Char.utf8Size_pos a) hlength.symm

theorem flatMap_encodeChar_lt {as bs : List Char} (h : as < bs) :
    as.flatMap String.utf8EncodeChar < bs.flatMap String.utf8EncodeChar := by
  change List.Lex (· < ·) as bs at h
  induction h with
  | @nil b bs =>
    rw [List.flatMap_cons]
    cases hb : String.utf8EncodeChar b with
    | nil => exact absurd hb (encodeChar_ne_nil b)
    | cons => exact List.nil_lt_cons _ _
  | rel hlt => exact encodeChar_lt hlt _ _
  | cons _ ih =>
    rw [List.flatMap_cons, List.flatMap_cons]
    exact List.append_left_lt ih

/-- Texts come in the order of their bytes. -/
theorem encode_lt_encode {text other : String} (h : text < other) :
    encode text < encode other :=
  flatMap_encodeChar_lt h

/-! ## Pieces -/

/-- What the bytes read so far amount to. -/
inductive Progress where
  /-- They are a character. -/
  | complete (c : Char)
  /-- They start a character. -/
  | started
  /-- No character starts with them. -/
  | broken
  deriving DecidableEq, Repr

/-- The six bits a continuation byte adds. -/
def tailBits (b : UInt8) : Nat :=
  b.toNat % 64

/-- `low ≤ b ≤ high`. -/
def within (low high b : UInt8) : Bool :=
  low ≤ b && b ≤ high

/-- A byte that may continue a character. -/
def isTail (b : UInt8) : Bool :=
  within 0x80 0xBF b

/-- Whether `b` may follow the first byte `a` of a character of two to four
bytes. The bounds leave out overlong forms, surrogates, and everything above
the last code point. -/
def secondFits (a b : UInt8) : Bool :=
  if a = 0xE0 then within 0xA0 0xBF b
  else if a = 0xED then within 0x80 0x9F b
  else if a = 0xF0 then within 0x90 0xBF b
  else if a = 0xF4 then within 0x80 0x8F b
  else isTail b

/-- How far the bytes are on the way to one character. -/
def progress : Bytes → Progress
  | [a] =>
    if a < 0x80 then .complete (Char.ofNat a.toNat)
    else if within 0xC2 0xF4 a then .started
    else .broken
  | [a, b] =>
    if within 0xC2 0xF4 a && secondFits a b then
      if a < 0xE0 then .complete (Char.ofNat (a.toNat % 32 * 64 + tailBits b)) else .started
    else .broken
  | [a, b, c] =>
    if within 0xE0 0xF4 a && secondFits a b && isTail c then
      if a < 0xF0 then
        .complete (Char.ofNat ((a.toNat % 16 * 64 + tailBits b) * 64 + tailBits c))
      else .started
    else .broken
  | [a, b, c, d] =>
    if within 0xF0 0xF4 a && secondFits a b && isTail c && isTail d then
      .complete (Char.ofNat
        (((a.toNat % 8 * 64 + tailBits b) * 64 + tailBits c) * 64 + tailBits d))
    else .broken
  | _ => .broken

/-- A part of a byte string. -/
inductive Piece where
  /-- The bytes of one character. -/
  | character (bytes : Bytes) (c : Char)
  /-- Bytes that are no character, whatever follows them. -/
  | invalid (bytes : Bytes)
  /-- A character that the end of the string cuts off. -/
  | truncated (bytes : Bytes)
  deriving DecidableEq, Repr

/-- The bytes a piece stands for. -/
def Piece.bytes : Piece → Bytes
  | .character bytes _ => bytes
  | .invalid bytes => bytes
  | .truncated bytes => bytes

/-- The pieces of a string of which `held`, the start of a character, is
already read. A byte that cannot continue `held` ends it as a fault, and is
then read afresh. -/
def piecesAfter (held : Bytes) : Bytes → List Piece
  | [] => if held = [] then [] else [.truncated held]
  | b :: rest =>
    match progress (held ++ [b]) with
    | .complete c => .character (held ++ [b]) c :: piecesAfter [] rest
    | .started => piecesAfter (held ++ [b]) rest
    | .broken =>
      if held = [] then .invalid [b] :: piecesAfter [] rest
      else
        .invalid held ::
          match progress [b] with
          | .complete c => .character [b] c :: piecesAfter [] rest
          | .started => piecesAfter [b] rest
          | .broken => .invalid [b] :: piecesAfter [] rest

/-- The characters and faults of a byte string, in order. -/
def pieces (bytes : Bytes) : List Piece :=
  piecesAfter [] bytes

theorem piecesAfter_bytes (held rest : Bytes) :
    (piecesAfter held rest).flatMap Piece.bytes = held ++ rest := by
  induction rest generalizing held with
  | nil =>
    simp only [piecesAfter]
    split
    · next h => simp [h]
    · simp [Piece.bytes]
  | cons b rest ih =>
    simp only [piecesAfter]
    split
    · simp [Piece.bytes, ih]
    · simp [ih]
    · split
      · next h => simp [Piece.bytes, ih, h]
      · split <;> simp [Piece.bytes, ih]

/-- Cutting a string into pieces loses nothing. -/
theorem pieces_bytes (bytes : Bytes) : (pieces bytes).flatMap Piece.bytes = bytes :=
  piecesAfter_bytes [] bytes

/-! ### The bytes of a character -/

theorem within_iff {low high b : UInt8} :
    within low high b = true ↔ low.toNat ≤ b.toNat ∧ b.toNat ≤ high.toNat := by
  simp [within, UInt8.le_iff_toNat_le]

theorem isTail_bounds {b : UInt8} (h : isTail b = true) : 0x80 ≤ b.toNat ∧ b.toNat ≤ 0xBF :=
  within_iff.mp h

/-- Where the second byte of a character lies. -/
theorem secondFits_bounds {a b : UInt8} (h : secondFits a b = true) :
    0x80 ≤ b.toNat ∧ b.toNat ≤ 0xBF ∧ (a.toNat = 0xE0 → 0xA0 ≤ b.toNat) ∧
      (a.toNat = 0xED → b.toNat ≤ 0x9F) ∧ (a.toNat = 0xF0 → 0x90 ≤ b.toNat) ∧
      (a.toNat = 0xF4 → b.toNat ≤ 0x8F) := by
  unfold secondFits isTail at h
  simp only [← UInt8.toNat_inj, UInt8.reduceToNat] at h
  (repeat' split at h) <;> simp only [within_iff, UInt8.reduceToNat] at h <;> omega

theorem secondFits_of_bounds {a b : UInt8} (hb : 0x80 ≤ b.toNat ∧ b.toNat ≤ 0xBF)
    (hlow : (a.toNat = 0xE0 → 0xA0 ≤ b.toNat) ∧ (a.toNat = 0xF0 → 0x90 ≤ b.toNat))
    (hhigh : (a.toNat = 0xED → b.toNat ≤ 0x9F) ∧ (a.toNat = 0xF4 → b.toNat ≤ 0x8F)) :
    secondFits a b = true := by
  unfold secondFits isTail
  simp only [← UInt8.toNat_inj, UInt8.reduceToNat]
  (repeat' split) <;> simp only [within_iff, UInt8.reduceToNat] <;> omega

theorem encodeChar_ofNat {n : Nat} (h : n.isValidChar) :
    String.utf8EncodeChar (Char.ofNat n) =
      if n ≤ 0x7F then [UInt8.ofNat n]
      else if n ≤ 0x7FF then [UInt8.ofNat (n / 64 % 32 + 192), UInt8.ofNat (n % 64 + 128)]
      else if n ≤ 0xFFFF then
        [UInt8.ofNat (n / 4096 % 16 + 224), UInt8.ofNat (n / 64 % 64 + 128),
          UInt8.ofNat (n % 64 + 128)]
      else
        [UInt8.ofNat (n / 262144 % 8 + 240), UInt8.ofNat (n / 4096 % 64 + 128),
          UInt8.ofNat (n / 64 % 64 + 128), UInt8.ofNat (n % 64 + 128)] := by
  have hval : (Char.ofNat n).val.toNat = n := by
    rw [Char.ofNat, dif_pos h]
    rfl
  unfold String.utf8EncodeChar
  rw [hval]

theorem ofNat_eq_of_eq_toNat {n : Nat} {b : UInt8} (h : n = b.toNat) : UInt8.ofNat n = b := by
  rw [h, UInt8.ofNat_toNat]

section Complete

variable {a b c d : UInt8}

theorem encodeChar_one (ha : a < 0x80) :
    String.utf8EncodeChar (Char.ofNat a.toNat) = [a] := by
  have hlow : a.toNat < 0x80 := UInt8.lt_iff_toNat_lt.mp ha
  rw [encodeChar_ofNat (.inl (by omega)), if_pos (by omega), ofNat_eq_of_eq_toNat rfl]

theorem encodeChar_two (ha : within 0xC2 0xF4 a = true) (hb : secondFits a b = true)
    (hshort : a < 0xE0) :
    String.utf8EncodeChar (Char.ofNat (a.toNat % 32 * 64 + tailBits b)) = [a, b] := by
  have hfirst : 0xC2 ≤ a.toNat := (within_iff.mp ha).1
  have hlow : a.toNat < 0xE0 := UInt8.lt_iff_toNat_lt.mp hshort
  have hsecond := secondFits_bounds hb
  unfold tailBits
  rw [encodeChar_ofNat (.inl (by omega)), if_neg (by omega), if_pos (by omega),
    ofNat_eq_of_eq_toNat (b := a) (by omega), ofNat_eq_of_eq_toNat (b := b) (by omega)]

theorem encodeChar_three (ha : within 0xE0 0xF4 a = true) (hb : secondFits a b = true)
    (hc : isTail c = true) (hshort : a < 0xF0) :
    String.utf8EncodeChar
      (Char.ofNat ((a.toNat % 16 * 64 + tailBits b) * 64 + tailBits c)) = [a, b, c] := by
  have hfirst : 0xE0 ≤ a.toNat := (within_iff.mp ha).1
  have hlow : a.toNat < 0xF0 := UInt8.lt_iff_toNat_lt.mp hshort
  have hsecond := secondFits_bounds hb
  have hthird := isTail_bounds hc
  unfold tailBits
  rw [encodeChar_ofNat (by unfold Nat.isValidChar; omega), if_neg (by omega), if_neg (by omega),
    if_pos (by omega), ofNat_eq_of_eq_toNat (b := a) (by omega),
    ofNat_eq_of_eq_toNat (b := b) (by omega), ofNat_eq_of_eq_toNat (b := c) (by omega)]

theorem encodeChar_four (ha : within 0xF0 0xF4 a = true) (hb : secondFits a b = true)
    (hc : isTail c = true) (hd : isTail d = true) :
    String.utf8EncodeChar
      (Char.ofNat (((a.toNat % 8 * 64 + tailBits b) * 64 + tailBits c) * 64 + tailBits d)) =
        [a, b, c, d] := by
  have hfirst : 0xF0 ≤ a.toNat ∧ a.toNat ≤ 0xF4 := within_iff.mp ha
  have hsecond := secondFits_bounds hb
  have hthird := isTail_bounds hc
  have hfourth := isTail_bounds hd
  unfold tailBits
  rw [encodeChar_ofNat (by unfold Nat.isValidChar; omega), if_neg (by omega), if_neg (by omega),
    if_neg (by omega), ofNat_eq_of_eq_toNat (b := a) (by omega),
    ofNat_eq_of_eq_toNat (b := b) (by omega), ofNat_eq_of_eq_toNat (b := c) (by omega),
    ofNat_eq_of_eq_toNat (b := d) (by omega)]

end Complete

/-- The bytes that are taken for a character are the bytes of that character. -/
theorem encodeChar_of_complete {bytes : Bytes} {c : Char} (h : progress bytes = .complete c) :
    String.utf8EncodeChar c = bytes := by
  unfold progress at h
  split at h
  · split at h
    · next ha =>
      cases h
      exact encodeChar_one ha
    · split at h <;> cases h
  · split at h
    · next hfits =>
      split at h
      · next hshort =>
        cases h
        obtain ⟨ha, hb⟩ := Bool.and_eq_true_iff.mp hfits
        exact encodeChar_two ha hb hshort
      · cases h
    · cases h
  · split at h
    · next hfits =>
      split at h
      · next hshort =>
        cases h
        simp only [Bool.and_eq_true] at hfits
        obtain ⟨⟨ha, hb⟩, hc⟩ := hfits
        exact encodeChar_three ha hb hc hshort
      · cases h
    · cases h
  · split at h
    · next hfits =>
      cases h
      simp only [Bool.and_eq_true] at hfits
      obtain ⟨⟨⟨ha, hb⟩, hc⟩, hd⟩ := hfits
      exact encodeChar_four ha hb hc hd
    · cases h
  · cases h

/-- A piece that is a character holds the bytes of that character. -/
theorem encodeChar_of_mem_piecesAfter {held rest bytes : Bytes} {c : Char}
    (h : .character bytes c ∈ piecesAfter held rest) : String.utf8EncodeChar c = bytes := by
  induction rest generalizing held with
  | nil =>
    rw [piecesAfter] at h
    split at h
    · cases h
    · cases List.mem_singleton.mp h
  | cons b rest ih =>
    rw [piecesAfter] at h
    split at h
    · next hcomplete =>
      rcases List.mem_cons.mp h with hfirst | hlater
      · cases hfirst
        exact encodeChar_of_complete hcomplete
      · exact ih hlater
    · exact ih h
    · split at h
      · exact (List.mem_cons.mp h).elim nofun ih
      · refine (List.mem_cons.mp h).elim nofun fun hafresh => ?_
        split at hafresh
        · next hcomplete =>
          rcases List.mem_cons.mp hafresh with hfirst | hlater
          · cases hfirst
            exact encodeChar_of_complete hcomplete
          · exact ih hlater
        · exact ih hafresh
        · exact (List.mem_cons.mp hafresh).elim nofun ih

/-! ### Reading the bytes of a text -/

section Reading

variable {a b c d : UInt8} {held rest : Bytes}

theorem piecesAfter_of_started (h : progress (held ++ [b]) = .started) :
    piecesAfter held (b :: rest) = piecesAfter (held ++ [b]) rest := by
  rw [piecesAfter, h]

theorem piecesAfter_of_complete {x : Char} (h : progress (held ++ [b]) = .complete x) :
    piecesAfter held (b :: rest) = .character (held ++ [b]) x :: piecesAfter [] rest := by
  rw [piecesAfter, h]

theorem progress_one (ha : within 0xC2 0xF4 a = true) : progress [a] = .started := by
  have hlow : 0xC2 ≤ a.toNat := (within_iff.mp ha).1
  have hlong : ¬ a < 0x80 := fun hlt =>
    absurd (UInt8.lt_iff_toNat_lt.mp hlt) (show ¬ a.toNat < 0x80 by omega)
  rw [progress, if_neg hlong, if_pos ha]

theorem progress_two (ha : within 0xE0 0xF4 a = true) (hb : secondFits a b = true) :
    progress [a, b] = .started := by
  have hbounds : 0xE0 ≤ a.toNat ∧ a.toNat ≤ 0xF4 := within_iff.mp ha
  have hfirst : within 0xC2 0xF4 a = true :=
    within_iff.mpr (show 0xC2 ≤ a.toNat ∧ a.toNat ≤ 0xF4 by omega)
  have hlong : ¬ a < 0xE0 := fun hlt =>
    absurd (UInt8.lt_iff_toNat_lt.mp hlt) (show ¬ a.toNat < 0xE0 by omega)
  rw [progress, hfirst, hb, Bool.and_true, if_pos rfl, if_neg hlong]

theorem progress_three (ha : within 0xF0 0xF4 a = true) (hb : secondFits a b = true)
    (hc : isTail c = true) : progress [a, b, c] = .started := by
  have hbounds : 0xF0 ≤ a.toNat ∧ a.toNat ≤ 0xF4 := within_iff.mp ha
  have hfirst : within 0xE0 0xF4 a = true :=
    within_iff.mpr (show 0xE0 ≤ a.toNat ∧ a.toNat ≤ 0xF4 by omega)
  have hlong : ¬ a < 0xF0 := fun hlt =>
    absurd (UInt8.lt_iff_toNat_lt.mp hlt) (show ¬ a.toNat < 0xF0 by omega)
  rw [progress, hfirst, hb, hc, Bool.and_true, Bool.and_true, if_pos rfl, if_neg hlong]

theorem piecesAfter_one (ha : a < 0x80) :
    piecesAfter [] (a :: rest) = .character [a] (Char.ofNat a.toNat) :: piecesAfter [] rest :=
  piecesAfter_of_complete (if_pos ha)

theorem piecesAfter_two (ha : within 0xC2 0xDF a = true) (hb : secondFits a b = true) :
    piecesAfter [] (a :: b :: rest) =
      .character [a, b] (Char.ofNat (a.toNat % 32 * 64 + tailBits b)) :: piecesAfter [] rest := by
  have hbounds : 0xC2 ≤ a.toNat ∧ a.toNat ≤ 0xDF := within_iff.mp ha
  have hfirst : within 0xC2 0xF4 a = true :=
    within_iff.mpr (show 0xC2 ≤ a.toNat ∧ a.toNat ≤ 0xF4 by omega)
  have hshort : a < 0xE0 := UInt8.lt_iff_toNat_lt.mpr (show a.toNat < 0xE0 by omega)
  rw [piecesAfter_of_started (progress_one hfirst)]
  refine piecesAfter_of_complete ?_
  show progress [a, b] = _
  rw [progress, hfirst, hb, Bool.and_true, if_pos rfl, if_pos hshort]

theorem piecesAfter_three (ha : within 0xE0 0xEF a = true) (hb : secondFits a b = true)
    (hc : isTail c = true) :
    piecesAfter [] (a :: b :: c :: rest) =
      .character [a, b, c] (Char.ofNat ((a.toNat % 16 * 64 + tailBits b) * 64 + tailBits c)) ::
        piecesAfter [] rest := by
  have hbounds : 0xE0 ≤ a.toNat ∧ a.toNat ≤ 0xEF := within_iff.mp ha
  have hfirst : within 0xC2 0xF4 a = true :=
    within_iff.mpr (show 0xC2 ≤ a.toNat ∧ a.toNat ≤ 0xF4 by omega)
  have hsecond : within 0xE0 0xF4 a = true :=
    within_iff.mpr (show 0xE0 ≤ a.toNat ∧ a.toNat ≤ 0xF4 by omega)
  have hshort : a < 0xF0 := UInt8.lt_iff_toNat_lt.mpr (show a.toNat < 0xF0 by omega)
  rw [piecesAfter_of_started (progress_one hfirst), piecesAfter_of_started (progress_two hsecond hb)]
  refine piecesAfter_of_complete ?_
  show progress [a, b, c] = _
  rw [progress, hsecond, hb, hc, Bool.and_true, Bool.and_true, if_pos rfl, if_pos hshort]

theorem piecesAfter_four (ha : within 0xF0 0xF4 a = true) (hb : secondFits a b = true)
    (hc : isTail c = true) (hd : isTail d = true) :
    piecesAfter [] (a :: b :: c :: d :: rest) =
      .character [a, b, c, d]
        (Char.ofNat (((a.toNat % 8 * 64 + tailBits b) * 64 + tailBits c) * 64 + tailBits d)) ::
        piecesAfter [] rest := by
  have hbounds : 0xF0 ≤ a.toNat ∧ a.toNat ≤ 0xF4 := within_iff.mp ha
  have hfirst : within 0xC2 0xF4 a = true :=
    within_iff.mpr (show 0xC2 ≤ a.toNat ∧ a.toNat ≤ 0xF4 by omega)
  have hsecond : within 0xE0 0xF4 a = true :=
    within_iff.mpr (show 0xE0 ≤ a.toNat ∧ a.toNat ≤ 0xF4 by omega)
  rw [piecesAfter_of_started (progress_one hfirst), piecesAfter_of_started (progress_two hsecond hb),
    piecesAfter_of_started (progress_three ha hb hc)]
  refine piecesAfter_of_complete ?_
  show progress [a, b, c, d] = _
  rw [progress, ha, hb, hc, hd, Bool.and_true, Bool.and_true, Bool.and_true, if_pos rfl]

end Reading

theorem isTail_ofNat (n : Nat) : isTail (UInt8.ofNat (n % 64 + 128)) = true := by
  refine within_iff.mpr ?_
  rw [UInt8.toNat_ofNat']
  show 0x80 ≤ _ ∧ _ ≤ 0xBF
  omega

theorem tailBits_ofNat (n : Nat) : tailBits (UInt8.ofNat (n % 64 + 128)) = n % 64 := by
  unfold tailBits
  rw [UInt8.toNat_ofNat']
  omega

/-- The bytes of a character are read as that character, whatever follows them. -/
theorem piecesAfter_encodeChar (c : Char) (rest : Bytes) :
    piecesAfter [] (String.utf8EncodeChar c ++ rest) =
      .character (String.utf8EncodeChar c) c :: piecesAfter [] rest := by
  obtain ⟨n, hn, rfl⟩ : ∃ n : Nat, n.isValidChar ∧ Char.ofNat n = c :=
    ⟨c.toNat, c.valid, Char.ofNat_toNat c⟩
  have hvalid : n < 0xD800 ∨ 0xDFFF < n ∧ n < 0x110000 := hn
  have hbyte {m : Nat} (hm : m < 256) : (UInt8.ofNat m).toNat = m := by
    rw [UInt8.toNat_ofNat', Nat.mod_eq_of_lt hm]
  -- What the bytes say is `n` again, digit by digit.
  have hsame {m : Nat} {bytes : Bytes} (hm : m = n) :
      Piece.character bytes (Char.ofNat m) :: piecesAfter [] rest =
        .character bytes (Char.ofNat n) :: piecesAfter [] rest := by rw [hm]
  rw [encodeChar_ofNat hn]
  have htail := tailBits_ofNat n
  split
  · next hone =>
    have hfirst := hbyte (m := n) (by omega)
    have hlead : UInt8.ofNat n < 0x80 :=
      UInt8.lt_iff_toNat_lt.mpr (show (UInt8.ofNat n).toNat < 0x80 by omega)
    exact (piecesAfter_one hlead).trans (hsame hfirst)
  split
  · next hone htwo =>
    have hfirst := hbyte (m := n / 64 % 32 + 192) (by omega)
    have hsecond := hbyte (m := n % 64 + 128) (by omega)
    have hlead : within 0xC2 0xDF (UInt8.ofNat (n / 64 % 32 + 192)) = true := by
      refine within_iff.mpr ?_
      rw [hfirst]
      show 0xC2 ≤ _ ∧ _ ≤ 0xDF
      omega
    refine (piecesAfter_two hlead (secondFits_of_bounds ?_ ?_ ?_)).trans (hsame ?_) <;> omega
  split
  · next hone htwo hthree =>
    have hfirst := hbyte (m := n / 4096 % 16 + 224) (by omega)
    have hsecond := hbyte (m := n / 64 % 64 + 128) (by omega)
    have hmiddle := tailBits_ofNat (n / 64)
    have hlead : within 0xE0 0xEF (UInt8.ofNat (n / 4096 % 16 + 224)) = true := by
      refine within_iff.mpr ?_
      rw [hfirst]
      show 0xE0 ≤ _ ∧ _ ≤ 0xEF
      omega
    refine (piecesAfter_three hlead (secondFits_of_bounds ?_ ?_ ?_) (isTail_ofNat _)).trans
      (hsame ?_) <;> omega
  · next hone htwo hthree =>
    have hfirst := hbyte (m := n / 262144 % 8 + 240) (by omega)
    have hsecond := hbyte (m := n / 4096 % 64 + 128) (by omega)
    have hmiddle := tailBits_ofNat (n / 4096)
    have hthird := tailBits_ofNat (n / 64)
    have hlead : within 0xF0 0xF4 (UInt8.ofNat (n / 262144 % 8 + 240)) = true := by
      refine within_iff.mpr ?_
      rw [hfirst]
      show 0xF0 ≤ _ ∧ _ ≤ 0xF4
      omega
    refine (piecesAfter_four hlead (secondFits_of_bounds ?_ ?_ ?_) (isTail_ofNat _)
      (isTail_ofNat _)).trans (hsame ?_) <;> omega

/-- The pieces of a text are its characters. -/
theorem pieces_encode (text : String) :
    pieces (encode text) = text.toList.map fun c => .character (String.utf8EncodeChar c) c := by
  unfold pieces encode
  induction text.toList with
  | nil => rfl
  | cons c rest ih => rw [List.flatMap_cons, piecesAfter_encodeChar, ih, List.map_cons]

/-! ## Reading that never fails -/

/-- Stands for bytes that are no text. -/
def replacement : Char := '\uFFFD'

/-- The character a piece is shown as. -/
def Piece.shown : Piece → Char
  | .character _ c => c
  | .invalid _ => replacement
  | .truncated _ => replacement

/-- The text of a byte string, with one replacement character for each fault. -/
def lossy (bytes : Bytes) : String :=
  String.ofList ((pieces bytes).map Piece.shown)

/-- The bytes of a text are shown as that text. -/
theorem lossy_encode (text : String) : lossy (encode text) = text := by
  have hshown : (Piece.shown ∘ fun c => .character (String.utf8EncodeChar c) c) = id := rfl
  rw [lossy, pieces_encode, List.map_map, hshown, List.map_id, String.ofList_toList]

theorem mem_piece_of_mem_shown {bytes : Bytes} {piece : Piece} (hpiece : piece ∈ pieces bytes)
    {b : UInt8} (hascii : b < 0x80) (hb : b ∈ String.utf8EncodeChar piece.shown) :
    b ∈ piece.bytes := by
  -- No byte of the replacement character is ASCII.
  have hfault : b ∉ String.utf8EncodeChar replacement := by
    have hhigh : ∀ b ∈ String.utf8EncodeChar replacement, ¬ b < 0x80 := by decide +kernel
    exact fun hmem => hhigh b hmem hascii
  cases piece with
  | character bytes c => exact encodeChar_of_mem_piecesAfter hpiece ▸ hb
  | invalid bytes => exact absurd hb hfault
  | truncated bytes => exact absurd hb hfault

/-- Reading as well as can be brings in no ASCII byte. -/
theorem mem_of_mem_encode_lossy {bytes : Bytes} {b : UInt8} (hascii : b < 0x80)
    (hb : b ∈ encode (lossy bytes)) : b ∈ bytes := by
  rw [encode, lossy, String.toList_ofList] at hb
  obtain ⟨c, hc, hb⟩ := List.mem_flatMap.mp hb
  obtain ⟨piece, hpiece, rfl⟩ := List.mem_map.mp hc
  rw [← pieces_bytes bytes]
  exact List.mem_flatMap.mpr ⟨piece, hpiece, mem_piece_of_mem_shown hpiece hascii hb⟩

/-! ## Reading that refuses faults -/

/-- Why a byte string is no text. -/
inductive Fault where
  /-- The bytes from `index` on, `length` of them, are no character. -/
  | invalid (length index : Nat)
  /-- The string ends inside the character that starts at `index`. -/
  | truncated (index : Nat)
  deriving DecidableEq, Repr

/-- The wording of a fault. -/
def Fault.message : Fault → String
  | .invalid length index => s!"invalid utf-8 sequence of {length} bytes from index {index}"
  | .truncated index => s!"incomplete utf-8 byte sequence from index {index}"

/-- The characters of pieces that start at `index`, or the first fault. -/
def characters (index : Nat) : List Piece → Except Fault (List Char)
  | [] => .ok []
  | .character bytes c :: rest => (characters (index + bytes.length) rest).map (c :: ·)
  | .invalid bytes :: _ => .error (.invalid bytes.length index)
  | .truncated _ :: _ => .error (.truncated index)

/-- The text of a byte string that is UTF-8 throughout. -/
def decode (bytes : Bytes) : Except Fault String :=
  (characters 0 (pieces bytes)).map String.ofList

theorem characters_encodeChar (index : Nat) (list : List Char) :
    characters index (list.map fun c => .character (String.utf8EncodeChar c) c) = .ok list := by
  induction list generalizing index with
  | nil => rfl
  | cons c rest ih =>
    rw [List.map_cons, characters, ih]
    rfl

/-- The bytes of a text are read as that text. -/
theorem decode_encode (text : String) : decode (encode text) = .ok text := by
  rw [decode, pieces_encode, characters_encodeChar]
  show Except.ok (String.ofList text.toList) = _
  rw [String.ofList_toList]

theorem flatMap_encodeChar_of_characters {index : Nat} {list : List Piece} {read : List Char}
    (h : characters index list = .ok read)
    (hown : ∀ bytes c, .character bytes c ∈ list → String.utf8EncodeChar c = bytes) :
    read.flatMap String.utf8EncodeChar = list.flatMap Piece.bytes := by
  induction list generalizing index read with
  | nil =>
    cases h
    rfl
  | cons first rest ih =>
    cases first with
    | invalid bytes | truncated bytes => cases h
    | character bytes c =>
      rw [characters] at h
      cases hrest : characters (index + bytes.length) rest with
      | error fault =>
        rw [hrest] at h
        cases h
      | ok others =>
        rw [hrest] at h
        cases h
        rw [List.flatMap_cons, List.flatMap_cons, hown bytes c List.mem_cons_self,
          ih hrest fun bytes c hmem => hown bytes c (List.mem_cons_of_mem _ hmem)]
        rfl

/-- Bytes that are read as a text are the bytes of that text. -/
theorem encode_of_decode {bytes : Bytes} {text : String} (h : decode bytes = .ok text) :
    encode text = bytes := by
  unfold decode at h
  cases hread : characters 0 (pieces bytes) with
  | error fault =>
    rw [hread] at h
    cases h
  | ok read =>
    rw [hread] at h
    cases h
    rw [encode, String.toList_ofList,
      flatMap_encodeChar_of_characters hread fun _ _ => encodeChar_of_mem_piecesAfter, pieces_bytes]

end Realtime.Utf8
