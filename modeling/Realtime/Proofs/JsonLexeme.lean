import Realtime.Json.Lexeme
import Realtime.Json.Printer

/-!
# Printed words read back

The strings and integers that the printer writes are read as what they were.
Each reader is shown to stop where the printer stopped, so that it does not
matter what follows. Only a number has to know: no digit, point or exponent may
come next.

Results:
1. `stringBody_printChar`: a character is read from the way it stands in quotes.
2. `string_printString`: a string in quotes is read as that string.
3. `unsignedNumber_toDigits`, `integer_natAbs`: the digits of an integer are read
   as that integer.
-/

namespace Realtime.Json

/-! ## Characters as bytes -/

/-- The bytes of characters. -/
def spelled (text : List Char) : Bytes :=
  text.flatMap String.utf8EncodeChar

@[simp] theorem spelled_nil : spelled [] = [] := rfl

theorem spelled_cons (c : Char) (text : List Char) :
    spelled (c :: text) = String.utf8EncodeChar c ++ spelled text :=
  List.flatMap_cons

@[simp] theorem spelled_append (text more : List Char) :
    spelled (text ++ more) = spelled text ++ spelled more :=
  List.flatMap_append

theorem spelled_toList (s : String) : spelled s.toList = Utf8.encode s := rfl

theorem Value.encode_eq (v : Value) : v.encode = spelled v.print := by
  rw [Value.encode, Value.text, Utf8.encode, String.toList_ofList, spelled]

theorem encodeChar_ascii {c : Char} (h : c.toNat < 0x80) :
    String.utf8EncodeChar c = [UInt8.ofNat c.toNat] := by
  have hchar := Utf8.encodeChar_ofNat c.valid
  rw [show Char.ofNat c.val.toNat = c from Char.ofNat_toNat c] at hchar
  rw [hchar, if_pos (show c.val.toNat ≤ 0x7F from Nat.le_of_lt_succ h)]
  rfl

/-- No byte of a character beyond ASCII is ASCII. -/
theorem high_of_mem_encodeChar {c : Char} (h : 0x80 ≤ c.toNat) :
    ∀ b ∈ String.utf8EncodeChar c, 0x80 ≤ b.toNat := by
  have hchar := Utf8.encodeChar_ofNat c.valid
  rw [show Char.ofNat c.val.toNat = c from Char.ofNat_toNat c,
    if_neg (show ¬ c.val.toNat ≤ 0x7F from Nat.not_le_of_gt h)] at hchar
  intro b hb
  rw [hchar] at hb
  (repeat' split at hb) <;>
    simp only [List.mem_cons, List.not_mem_nil, or_false] at hb <;>
    rcases hb with rfl | rfl | rfl | rfl <;>
    rw [UInt8.toNat_ofNat'] <;> omega

/-! ## Strings -/

/-- A reading of bytes that come after `added`. -/
def behind (added : Bytes) (scan : Scan Bytes) : Scan Bytes :=
  scan.map fun (body, left) => (added ++ body, left)

@[simp] theorem behind_nil (scan : Scan Bytes) : behind [] scan = scan := by
  cases scan <;> rfl

@[simp] theorem behind_behind (added more : Bytes) (scan : Scan Bytes) :
    behind added (behind more scan) = behind (added ++ more) scan := by
  cases scan with
  | error fault => rfl
  | ok result => simp [behind, Except.map]

section Strings

variable {spot next : Spot} {b : UInt8} {added rest : Bytes}

theorem stringBody_cons (hopen : ¬ (spot = .plain ∧ b = quote))
    (hstep : stringStep spot b = .ok (next, added)) :
    stringBody spot (b :: rest) = behind added (stringBody next rest) := by
  rw [stringBody, if_neg hopen, hstep]
  cases hrest : stringBody next rest <;> simp [behind, Except.map, hrest]

/-- A byte that stands for itself inside quotes. -/
def IsRaw (b : UInt8) : Prop :=
  0x20 ≤ b.toNat ∧ b ≠ quote ∧ b ≠ backslash

theorem stringBody_raw {bytes : Bytes} (hraw : ∀ b ∈ bytes, IsRaw b) :
    stringBody .plain (bytes ++ rest) = behind bytes (stringBody .plain rest) := by
  induction bytes with
  | nil => exact (behind_nil _).symm
  | cons b bytes ih =>
    obtain ⟨hprintable, hquote, hslash⟩ := hraw b List.mem_cons_self
    have hlow : ¬ b < 0x20 := fun hlt =>
      absurd (UInt8.lt_iff_toNat_lt.mp hlt) (Nat.not_lt.mpr hprintable)
    have hstep : stringStep .plain b = .ok (.plain, [b]) := by
      rw [stringStep, if_neg hslash, if_neg hlow]
    have htail := ih fun b hb => hraw b (List.mem_cons_of_mem _ hb)
    rw [List.cons_append, stringBody_cons (fun hend => hquote hend.2) hstep, htail, behind_behind]
    rfl

/-- A letter after a backslash. -/
theorem stringBody_letter {letter byte : UInt8} (hletter : letter ≠ letterU)
    (hbyte : unescape? letter = some byte) :
    stringBody .plain (backslash :: letter :: rest) = behind [byte] (stringBody .plain rest) := by
  have hslash : stringStep .plain backslash = .ok (.escaped, []) := rfl
  have hstep : stringStep .escaped letter = .ok (.plain, [byte]) := by
    rw [stringStep, if_neg hletter, hbyte]
  rw [stringBody_cons (by decide) hslash, stringBody_cons (by simp) hstep, behind_nil]

/-- The digits of a code unit after a backslash. -/
theorem stringBody_unit {b c d e : UInt8} {n : Nat} (hn : hexNumber? [b, c, d, e] = some n)
    (hlow : n < 0xD800) :
    stringBody .plain (backslash :: letterU :: b :: c :: d :: e :: rest) =
      behind (codePoint n) (stringBody .plain rest) := by
  have hsecond : isLowSurrogate n = false := by simp [isLowSurrogate]; omega
  have hfirst : isHighSurrogate n = false := by simp [isHighSurrogate]; omega
  have hslash : stringStep .plain backslash = .ok (.escaped, []) := rfl
  have hletter : stringStep .escaped letterU = .ok (.unit none [], []) := rfl
  have hone : stringStep (.unit none []) b = .ok (.unit none [b], []) := rfl
  have htwo : stringStep (.unit none [b]) c = .ok (.unit none [b, c], []) := rfl
  have hthree : stringStep (.unit none [b, c]) d = .ok (.unit none [b, c, d], []) := rfl
  have hlast : stringStep (.unit none [b, c, d]) e = .ok (.plain, codePoint n) := by
    show finishUnit none [b, c, d, e] = _
    simp only [finishUnit, hn, hsecond, hfirst, Bool.false_eq_true, if_false]
  rw [stringBody_cons (by decide) hslash, stringBody_cons (by decide) hletter,
    stringBody_cons (by simp) hone, stringBody_cons (by simp) htwo,
    stringBody_cons (by simp) hthree, stringBody_cons (by simp) hlast]
  simp only [behind_nil]

theorem hexNumber?_hexDigit :
    ∀ n < 0x20, hexNumber? [0x30, 0x30, UInt8.ofNat (hexDigit (n / 16)).toNat,
      UInt8.ofNat (hexDigit (n % 16)).toNat] = some n := by
  decide +kernel

theorem hexDigit_ascii : ∀ k < 16, (hexDigit k).toNat < 0x80 := by
  decide +kernel

/-- The letter that stands for a character is read as that character. -/
theorem unescape?_escapeLetter? {c letter : Char} (h : escapeLetter? c = some letter) :
    UInt8.ofNat letter.toNat ≠ letterU ∧ letter.toNat < 0x80 ∧ c.toNat < 0x80 ∧
      unescape? (UInt8.ofNat letter.toNat) = some (UInt8.ofNat c.toNat) := by
  unfold escapeLetter? at h
  (repeat' split at h) <;> cases h <;> subst c <;> decide

theorem isRaw_of_mem_encodeChar {c : Char} (hprintable : 0x20 ≤ c.toNat)
    (hletter : escapeLetter? c = none) : ∀ b ∈ String.utf8EncodeChar c, IsRaw b := by
  intro b hb
  by_cases hascii : c.toNat < 0x80
  · rw [encodeChar_ascii hascii, List.mem_singleton] at hb
    have hb : b.toNat = c.toNat := by
      rw [hb, UInt8.toNat_ofNat', Nat.mod_eq_of_lt (Nat.lt_trans hascii (by decide))]
    -- A quote and a backslash have a letter.
    have hne (special : Char) (hspecial : escapeLetter? special ≠ none) :
        b.toNat ≠ special.toNat :=
      fun heq => hspecial (Char.toNat_inj.mp (hb.symm.trans heq) ▸ hletter)
    refine ⟨hb ▸ hprintable, fun hquote => ?_, fun hslash => ?_⟩
    · exact hne '"' (by decide) (congrArg UInt8.toNat hquote)
    · exact hne '\\' (by decide) (congrArg UInt8.toNat hslash)
  · have hhigh := high_of_mem_encodeChar (Nat.not_lt.mp hascii) b hb
    refine ⟨Nat.le_trans (by decide) hhigh, ?_, ?_⟩ <;> rintro rfl <;> exact absurd hhigh (by decide)

/-- A character is read from the way it stands inside quotes. -/
theorem stringBody_printChar (c : Char) :
    stringBody .plain (spelled (printChar c) ++ rest) =
      behind (String.utf8EncodeChar c) (stringBody .plain rest) := by
  unfold printChar
  cases hletter : escapeLetter? c with
  | some letter =>
    obtain ⟨hunit, hascii, hown, hread⟩ := unescape?_escapeLetter? hletter
    have hbytes : spelled ['\\', letter] = [backslash, UInt8.ofNat letter.toNat] := by
      rw [spelled_cons, spelled_cons, encodeChar_ascii hascii]
      rfl
    simp only [hbytes]
    rw [encodeChar_ascii hown]
    exact stringBody_letter hunit hread
  | none =>
    simp only
    split
    · next hcontrol =>
      have hhigh := hexDigit_ascii (c.toNat / 16) (by omega)
      have hlow := hexDigit_ascii (c.toNat % 16) (Nat.mod_lt _ (by decide))
      rw [spelled_cons, spelled_cons, spelled_cons, spelled_cons, spelled_cons, spelled_cons,
        encodeChar_ascii hhigh, encodeChar_ascii hlow]
      refine (stringBody_unit (hexNumber?_hexDigit c.toNat hcontrol) (by omega)).trans ?_
      rw [codePoint, Char.ofNat_toNat]
      rfl
    · next hprintable =>
      rw [spelled_cons, spelled_nil, List.append_nil]
      exact stringBody_raw (isRaw_of_mem_encodeChar (Nat.not_lt.mp hprintable) hletter)

theorem stringBody_printed (text : List Char) :
    stringBody .plain (spelled (text.flatMap printChar) ++ quote :: rest) =
      .ok (spelled text, rest) := by
  induction text with
  | nil => rfl
  | cons c text ih =>
    rw [List.flatMap_cons, spelled_append, List.append_assoc, stringBody_printChar, ih]
    rfl

end Strings

theorem spelled_printString (s : String) :
    spelled (printString s) = quote :: (spelled (s.toList.flatMap printChar) ++ [quote]) := by
  rw [printString, spelled_cons, spelled_append]
  rfl

/-- A string in quotes is read as that string. -/
theorem string_printString (s : String) (rest : Bytes) :
    string (spelled (s.toList.flatMap printChar) ++ quote :: rest) = .ok (s, rest) := by
  rw [string, stringBody_printed]
  simp only [spelled_toList, Utf8.decode_encode]

/-! ## Numbers -/

/-- No number goes on here. -/
def Ends (rest : Bytes) : Prop :=
  ∀ b ∈ rest.head?, isDigit b = false ∧ b ≠ point ∧ isExponentMark b = false

theorem Ends.cons {b : UInt8} (hdigit : isDigit b = false) (hpoint : b ≠ point)
    (hmark : isExponentMark b = false) (rest : Bytes) : Ends (b :: rest) := by
  intro first hfirst
  cases hfirst
  exact ⟨hdigit, hpoint, hmark⟩

section Numbers

variable {digits : List Char} {rest : Bytes}

/-- A decimal digit is one byte. -/
theorem encodeChar_isDigit {c : Char} (h : c.isDigit = true) :
    ∃ b, String.utf8EncodeChar c = [b] ∧ isDigit b = true ∧ b.toNat - 0x30 = c.toNat - '0'.toNat ∧
      (b = 0x30 → c = '0') := by
  have hbounds : 0x30 ≤ c.toNat ∧ c.toNat ≤ 0x39 := by
    simpa [Char.isDigit, UInt32.le_iff_toNat_le] using h
  have hb : (UInt8.ofNat c.toNat).toNat = c.toNat := by
    rw [UInt8.toNat_ofNat', Nat.mod_eq_of_lt (by omega)]
  refine ⟨UInt8.ofNat c.toNat, encodeChar_ascii (by omega), ?_, by rw [hb]; rfl, fun hzero => ?_⟩
  · simpa [isDigit, UInt8.le_iff_toNat_le, hb] using hbounds
  · exact Char.toNat_inj.mp (hb.symm.trans (congrArg UInt8.toNat hzero))

theorem isDigit_of_mem_spelled (hdigits : ∀ c ∈ digits, c.isDigit = true) :
    ∀ b ∈ spelled digits, isDigit b = true := by
  intro b hb
  obtain ⟨c, hc, hb⟩ := List.mem_flatMap.mp hb
  obtain ⟨own, hown, hdigit, -⟩ := encodeChar_isDigit (hdigits c hc)
  rw [hown, List.mem_singleton] at hb
  exact hb ▸ hdigit

theorem length_spelled (hdigits : ∀ c ∈ digits, c.isDigit = true) :
    (spelled digits).length = digits.length := by
  induction digits with
  | nil => rfl
  | cons c digits ih =>
    obtain ⟨b, hb, -⟩ := encodeChar_isDigit (hdigits c List.mem_cons_self)
    have hrest := ih fun c hc => hdigits c (List.mem_cons_of_mem _ hc)
    rw [spelled_cons, hb, List.singleton_append, List.length_cons, hrest, List.length_cons]

theorem digitRun_append {bytes : Bytes} (hbytes : ∀ b ∈ bytes, isDigit b = true) (hrest : Ends rest) :
    digitRun (bytes ++ rest) = (bytes, rest) := by
  have hend : rest.takeWhile isDigit = [] ∧ rest.dropWhile isDigit = rest := by
    cases rest with
    | nil => exact ⟨rfl, rfl⟩
    | cons b rest =>
      have hb := (hrest b rfl).1
      simp [hb]
  rw [digitRun, List.takeWhile_append_of_pos hbytes, List.dropWhile_append_of_pos hbytes, hend.1,
    hend.2, List.append_nil]

theorem le_ofDigitChars (n : Nat) : n ≤ Nat.ofDigitChars 10 digits n := by
  rw [Nat.ofDigitChars_eq_ofDigitChars_zero]
  exact Nat.le_add_right_of_le (Nat.le_mul_of_pos_left n (Nat.pow_pos (by decide)))

/-- Digits are appended as long as the number stays a word. -/
theorem appendDigits_spelled (hdigits : ∀ c ∈ digits, c.isDigit = true) {n : Nat}
    (hword : Nat.ofDigitChars 10 digits n < wordLimit) :
    appendDigits n (spelled digits) = (Nat.ofDigitChars 10 digits n, digits.length) := by
  induction digits generalizing n with
  | nil => rfl
  | cons c digits ih =>
    obtain ⟨b, hb, -, hvalue, -⟩ := encodeChar_isDigit (hdigits c List.mem_cons_self)
    rw [Nat.ofDigitChars_cons] at hword ⊢
    have hlonger : n * 10 + (b.toNat - 0x30) = 10 * n + (c.toNat - '0'.toNat) := by
      rw [hvalue, Nat.mul_comm]
    rw [spelled_cons, hb, List.singleton_append, appendDigits, hlonger,
      if_pos (Nat.lt_of_le_of_lt (le_ofDigitChars _) hword),
      ih (fun c hc => hdigits c (List.mem_cons_of_mem _ hc)) hword]
    rfl

/-- Only zero starts with a zero. -/
theorem toDigits_zero_cons {n : Nat} {others : List Char}
    (h : Nat.toDigits 10 n = '0' :: others) : others = [] := by
  induction n using Nat.base_induction 10 (by decide) generalizing others with
  | single m hm =>
    rw [Nat.toDigits_of_lt_base hm] at h
    exact (List.cons.inj h).2.symm
  | digit m k hk hm ih =>
    rw [← Nat.toDigits_append_toDigits (by decide) hm hk] at h
    obtain ⟨hnil, -⟩ | ⟨front, hfront, -⟩ := List.append_eq_cons_iff.mp h
    · exact absurd hnil Nat.toDigits_ne_nil
    · have hvalue : Nat.ofDigitChars 10 (Nat.toDigits 10 m) 0 = m := Nat.ofDigitChars_ten_toDigits
      rw [hfront, ih hfront] at hvalue
      exact absurd hvalue (Nat.ne_of_lt hm)

/-- A number that stops at its digits is an integer. -/
theorem fractionPart_of_ends (negative : Bool) (n : Nat) (hrest : Ends rest) :
    fractionPart negative n 0 rest = (integer negative n).map (·, rest) := by
  cases rest with
  | nil => rfl
  | cons b rest =>
    obtain ⟨-, hpoint, hmark⟩ := hrest b rfl
    simp only [fractionPart.eq_def, if_neg hpoint, hmark]
    rfl

/-- The digits of an integer are read as that integer. -/
theorem unsignedNumber_toDigits (negative : Bool) {n : Nat} (hword : n < wordLimit)
    (hrest : Ends rest) :
    unsignedNumber negative (spelled (Nat.toDigits 10 n) ++ rest) =
      (integer negative n).map (·, rest) := by
  have hvalue : Nat.ofDigitChars 10 (Nat.toDigits 10 n) 0 = n := Nat.ofDigitChars_ten_toDigits
  have hdigits : ∀ c ∈ Nat.toDigits 10 n, c.isDigit = true := fun c hc =>
    Nat.isDigit_of_mem_toDigits (by decide) (by decide) hc
  obtain ⟨c, others, hcons⟩ := List.exists_cons_of_ne_nil (Nat.toDigits_ne_nil (n := n) (b := 10))
  rw [hcons] at hvalue hdigits ⊢
  obtain ⟨b, hb, -, -, hzero⟩ := encodeChar_isDigit (hdigits c List.mem_cons_self)
  have hbytes : spelled (c :: others) = b :: spelled others := by
    rw [spelled_cons, hb, List.singleton_append]
  have hrun := digitRun_append (isDigit_of_mem_spelled hdigits) hrest
  have happend := appendDigits_spelled hdigits (hvalue.symm ▸ hword)
  rw [hbytes, hvalue] at happend
  rw [hbytes] at hrun ⊢
  have hlead : ¬ (b = 0x30 ∧ spelled others ≠ []) := by
    rintro ⟨hb, hmore⟩
    rw [hzero hb] at hcons
    exact hmore (congrArg spelled (toDigits_zero_cons hcons))
  have hnone : (spelled others).length + 1 - (c :: others).length = 0 := by
    rw [length_spelled fun c hc => hdigits c (List.mem_cons_of_mem _ hc), List.length_cons,
      Nat.sub_self]
  rw [List.cons_append] at hrun ⊢
  simp only [unsignedNumber, hrun, if_neg hlead, happend, hnone]
  exact fractionPart_of_ends negative n hrest

/-- An integer is read from its text, without a sign or behind its sign. -/
theorem integer_natAbs (w : Whole) :
    integer (decide (w.val < 0)) w.val.natAbs = .ok (.whole w) := by
  have hlower := w.lower
  have hupper := w.upper
  by_cases hneg : w.val < 0
  · have hval : -(w.val.natAbs : Int) = w.val := by omega
    have hpos : 0 < w.val.natAbs := by omega
    rw [decide_eq_true hneg, integer, if_pos rfl, if_pos hpos, hval, Whole.ofInt?_val]
  · have hval : (w.val.natAbs : Int) = w.val := by omega
    rw [decide_eq_false hneg, integer, if_neg Bool.false_ne_true, hval, Whole.ofInt?_val]

theorem natAbs_lt_wordLimit (w : Whole) : w.val.natAbs < wordLimit := by
  have hlower := w.lower
  have hupper := w.upper
  show w.val.natAbs < 18446744073709551616
  omega

end Numbers

end Realtime.Json
