import Realtime.Payload
import Realtime.Proofs.JsonLexeme

/-!
# Printed values read back

What the printer writes, the reader takes for the value it was written from, and
leaves what follows. So the parts of an array or an object can be read one after
the other, and a value by induction on its parts. The text of a value has no
control characters, because strings spell them out.

Results:
1. `parts_enumerated`: parts with commas between them are read in order.
2. `value_encode`, `decode_encode`: a value is read from its own text.
3. `printable_encode`: the text of a value holds no control character.
4. `Payload.decode_encode_plain`: a value is read from its payload.
-/

namespace Realtime

namespace Json

/-! ## Plain values -/

/-- A value whose numbers are integers that fit a word and which holds arrays and
objects at most `depth` deep. Its objects list each name once, in order. -/
inductive Value.Plain : Nat → Value → Prop where
  | null {depth : Nat} : Plain depth .null
  | bool {depth : Nat} (b : Bool) : Plain depth (.bool b)
  | whole {depth : Nat} (n : Whole) : Plain depth (.number (.whole n))
  | string {depth : Nat} (s : String) : Plain depth (.string s)
  | array {depth : Nat} {items : List Value} (hitems : ∀ item ∈ items, Plain depth item) :
      Plain (depth + 1) (.array items)
  | object {depth : Nat} {members : List (String × Value)}
      (hascending : Entries.Ascending members)
      (hmembers : ∀ member ∈ members, Plain depth member.2) :
      Plain (depth + 1) (.object members)

/-! ## Parts between brackets -/

/-- Texts with a comma between them. -/
def enumerated {α : Type} (text : α → Bytes) : List α → Bytes
  | [] => []
  | first :: others => text first ++ others.flatMap fun next => comma :: text next

section Parts

variable {σ α : Type} {close : UInt8} {part : σ → Bytes → Scan σ} {text : α → Bytes}
  {add : σ → α → σ} {items : List α} {rest : Bytes}

theorem skipBlanks_cons {b : UInt8} (hb : isBlank b = false) (rest : Bytes) :
    skipBlanks (b :: rest) = b :: rest :=
  List.dropWhile_cons_of_neg (Bool.eq_false_iff.mp hb)

/-- What closes an array or an object. -/
def IsClosing (close : UInt8) : Prop :=
  close = closeBracket ∨ close = closeBrace

theorem IsClosing.ne_comma (h : IsClosing close) : close ≠ comma := by
  rcases h with rfl | rfl <;> decide

theorem IsClosing.not_blank (h : IsClosing close) : isBlank close = false := by
  rcases h with rfl | rfl <;> decide

theorem IsClosing.ends (h : IsClosing close) (rest : Bytes) : Ends (close :: rest) := by
  rcases h with rfl | rfl <;> exact Ends.cons (by decide) (by decide) (by decide) rest

theorem ends_comma (rest : Bytes) : Ends (comma :: rest) :=
  Ends.cons (by decide) (by decide) (by decide) rest

/-- The reader of parts takes the text of each item as that item. -/
def Takes (part : σ → Bytes → Scan σ) (text : α → Bytes) (add : σ → α → σ) (item : α) : Prop :=
  ∀ state rest, Ends rest → part state (text item ++ rest) = .ok (add state item, rest)

/-- The reader of parts takes the texts of the items one after the other, each with what it has
taken before. -/
def TakesFrom (part : σ → Bytes → Scan σ) (text : α → Bytes) (add : σ → α → σ) :
    σ → List α → Prop
  | _, [] => True
  | state, item :: items =>
    (∀ rest, Ends rest → part state (text item ++ rest) = .ok (add state item, rest)) ∧
      TakesFrom part text add (add state item) items

theorem TakesFrom.of_takes (htakes : ∀ item ∈ items, Takes part text add item) (state : σ) :
    TakesFrom part text add state items := by
  induction items generalizing state with
  | nil => exact trivial
  | cons item items ih =>
    obtain ⟨hfirst, hothers⟩ := List.forall_mem_cons.mp htakes
    exact ⟨hfirst state, ih hothers _⟩

theorem ends_flatMap_comma (hclose : IsClosing close) (text : α → Bytes) (items : List α)
    (rest : Bytes) : Ends ((items.flatMap fun item => comma :: text item) ++ close :: rest) := by
  cases items with
  | nil => exact hclose.ends rest
  | cons item items => exact ends_comma _

/-- Parts are read up to the closing bracket, if there are no more than the bound. -/
theorem moreParts_flatMap (hclose : IsClosing close) {state : σ}
    (htakes : TakesFrom part text add state items) {bound : Nat} (hbound : items.length < bound)
    (rest : Bytes) :
    moreParts close part bound state ((items.flatMap fun item => comma :: text item) ++ close :: rest) =
      .ok (items.foldl add state, rest) := by
  induction items generalizing bound state with
  | nil =>
    obtain ⟨bound, rfl⟩ := Nat.exists_eq_add_one_of_ne_zero (Nat.ne_of_gt hbound)
    rw [List.flatMap_nil, List.nil_append, moreParts, skipBlanks_cons hclose.not_blank]
    exact if_pos rfl
  | cons item items ih =>
    obtain ⟨bound, rfl⟩ := Nat.exists_eq_add_one_of_ne_zero (Nat.ne_zero_of_lt hbound)
    have hitem := htakes.1 _ (ends_flatMap_comma hclose text items rest)
    have hothers := ih htakes.2 (Nat.lt_of_succ_lt_succ hbound)
    rw [List.flatMap_cons, List.append_assoc, List.cons_append, moreParts,
      skipBlanks_cons (by decide : isBlank comma = false)]
    simp only [if_neg hclose.ne_comma.symm, if_true, hitem, hothers, List.foldl_cons]

/-- Every part takes at least one byte. -/
theorem length_le_flatMap_comma (items : List α) :
    items.length ≤ (items.flatMap fun item => comma :: text item).length := by
  induction items with
  | nil => exact Nat.le_refl 0
  | cons item items ih =>
    rw [List.flatMap_cons, List.length_append, List.length_cons, List.length_cons]
    exact Nat.le_trans (Nat.succ_le_succ ih) (by omega)

/-- The text of an item starts neither with a blank nor with the closing bracket. -/
def Opens (close : UInt8) (bytes : Bytes) : Prop :=
  ∃ b rest, bytes = b :: rest ∧ isBlank b = false ∧ b ≠ close

/-- Parts with commas between them are read in order. -/
theorem parts_enumerated (hclose : IsClosing close) (hopens : ∀ item ∈ items, Opens close (text item))
    {start : σ} (htakes : TakesFrom part text add start items) (rest : Bytes) :
    parts close part start (enumerated text items ++ close :: rest) =
      .ok (items.foldl add start, rest) := by
  cases items with
  | nil =>
    rw [enumerated, List.nil_append, parts, skipBlanks_cons hclose.not_blank]
    exact if_pos rfl
  | cons first others =>
    obtain ⟨b, more, htext, hblank, hne⟩ := hopens first List.mem_cons_self
    have hfirst := htakes.1 _ (ends_flatMap_comma hclose text others rest)
    have hlength : others.length <
        ((others.flatMap fun next => comma :: text next) ++ close :: rest).length + 1 := by
      rw [List.length_append]
      exact Nat.lt_succ_of_le (Nat.le_add_right_of_le (length_le_flatMap_comma others))
    have hothers := moreParts_flatMap hclose htakes.2 hlength rest
    rw [htext, List.cons_append] at hfirst
    rw [enumerated, List.append_assoc, htext, parts, List.cons_append, skipBlanks_cons hblank]
    simp only [if_neg hne, hfirst, hothers, List.foldl_cons]

end Parts

/-! ## Values -/

/-- The text of a member. -/
def memberText (member : String × Value) : Bytes :=
  spelled (printString member.1) ++ colon :: member.2.encode

theorem spelled_comma (text : List Char) : spelled (',' :: text) = comma :: spelled text := rfl

theorem spelled_colon (text : List Char) : spelled (':' :: text) = colon :: spelled text := rfl

theorem spelled_printItems (items : List Value) :
    spelled (printItems items) = enumerated Value.encode items := by
  induction items with
  | nil => rfl
  | cons item items ih =>
    cases items with
    | nil => rw [printItems, enumerated, List.flatMap_nil, List.append_nil, Value.encode_eq]
    | cons next others =>
      simp only [printItems, spelled_append, spelled_comma, ih, enumerated, Value.encode_eq,
        List.flatMap_cons, List.cons_append]

theorem spelled_printMembers (members : List (String × Value)) :
    spelled (printMembers members) = enumerated memberText members := by
  induction members with
  | nil => rfl
  | cons member members ih =>
    obtain ⟨name, v⟩ := member
    cases members with
    | nil =>
      rw [printMembers, enumerated, List.flatMap_nil, List.append_nil, spelled_append, spelled_colon,
        memberText, Value.encode_eq]
    | cons next others =>
      simp only [printMembers, spelled_append, spelled_colon, spelled_comma, ih, enumerated,
        memberText, Value.encode_eq, List.flatMap_cons, List.cons_append, List.append_assoc]

theorem encode_array (items : List Value) :
    (Value.array items).encode =
      openBracket :: (enumerated Value.encode items ++ [closeBracket]) := by
  rw [Value.encode_eq, Value.print, spelled_cons, spelled_append, spelled_printItems]
  rfl

theorem encode_object (members : List (String × Value)) :
    (Value.object members).encode =
      openBrace :: (enumerated memberText members ++ [closeBrace]) := by
  rw [Value.encode_eq, Value.print, spelled_cons, spelled_append, spelled_printMembers]
  rfl

theorem encode_string (s : String) :
    (Value.string s).encode = quote :: (spelled (s.toList.flatMap printChar) ++ [quote]) := by
  rw [Value.encode_eq, Value.print, spelled_printString]

theorem encode_whole (w : Whole) :
    (Value.number (.whole w)).encode =
      if w.val < 0 then minus :: spelled (Nat.toDigits 10 w.val.natAbs)
      else spelled (Nat.toDigits 10 w.val.natAbs) := by
  rw [Value.encode_eq, Value.print, Number.print, printInt]
  split
  · rw [spelled_cons]
    rfl
  · rfl

/-- The digits of a number start with a digit. -/
theorem exists_spelled_toDigits (n : Nat) :
    ∃ b rest, spelled (Nat.toDigits 10 n) = b :: rest ∧ isDigit b = true := by
  obtain ⟨c, others, hcons⟩ := List.exists_cons_of_ne_nil (Nat.toDigits_ne_nil (n := n) (b := 10))
  have hdigit : c.isDigit = true :=
    Nat.isDigit_of_mem_toDigits (b := 10) (n := n) (by decide) (by decide)
      (hcons ▸ List.mem_cons_self)
  obtain ⟨b, hb, hdigit, -⟩ := encodeChar_isDigit hdigit
  exact ⟨b, spelled others, by rw [hcons, spelled_cons, hb, List.singleton_append], hdigit⟩

/-- A digit is none of the other bytes that a value may start with. -/
theorem ne_of_isDigit {b other : UInt8} (hb : isDigit b = true) (hother : isDigit other = false) :
    b ≠ other := by
  rintro rfl
  exact Bool.false_ne_true (hother.symm.trans hb)

theorem not_blank_of_isDigit {b : UInt8} (hb : isDigit b = true) : isBlank b = false := by
  simp [isBlank, ne_of_isDigit hb (by decide : isDigit 0x20 = false),
    ne_of_isDigit hb (by decide : isDigit 0x09 = false),
    ne_of_isDigit hb (by decide : isDigit 0x0A = false),
    ne_of_isDigit hb (by decide : isDigit 0x0D = false)]

variable {depth : Nat} {v : Value}

/-- A value starts with a byte of its own kind. -/
theorem Value.Plain.opens (h : v.Plain depth) : Opens closeBracket v.encode := by
  cases h with
  | null => exact ⟨_, _, rfl, by decide, by decide⟩
  | bool b => cases b <;> exact ⟨_, _, rfl, by decide, by decide⟩
  | whole n =>
    obtain ⟨b, rest, hbytes, hdigit⟩ := exists_spelled_toDigits n.val.natAbs
    rw [encode_whole, hbytes]
    split
    · exact ⟨_, _, rfl, by decide, by decide⟩
    · exact ⟨b, rest, rfl, not_blank_of_isDigit hdigit, ne_of_isDigit hdigit (by decide)⟩
  | string s => exact ⟨_, _, encode_string s, by decide, by decide⟩
  | array => exact ⟨_, _, encode_array _, by decide, by decide⟩
  | object => exact ⟨_, _, encode_object _, by decide, by decide⟩

theorem opens_memberText (member : String × Value) : Opens closeBrace (memberText member) := by
  rw [memberText, spelled_printString]
  exact ⟨_, _, rfl, by decide, by decide⟩

/-! ### One reader for each kind -/

section Kinds

variable (rest : Bytes)

theorem value_quote : value depth (quote :: rest) =
    (string rest).map fun (s, left) => (.string s, left) := by
  cases depth <;> rfl

theorem value_minus : value depth (minus :: rest) =
    (unsignedNumber true rest).map fun (n, left) => (.number n, left) := by
  cases depth <;> rfl

theorem value_digit {b : UInt8} (hdigit : isDigit b = true) : value depth (b :: rest) =
    (unsignedNumber false (b :: rest)).map fun (n, left) => (.number n, left) := by
  unfold value
  rw [skipBlanks_cons (not_blank_of_isDigit hdigit)]
  simp only [if_neg (ne_of_isDigit hdigit (by decide : isDigit 0x6E = false)),
    if_neg (ne_of_isDigit hdigit (by decide : isDigit 0x74 = false)),
    if_neg (ne_of_isDigit hdigit (by decide : isDigit 0x66 = false)),
    if_neg (ne_of_isDigit hdigit (by decide : isDigit minus = false)), if_pos hdigit]

theorem value_bracket : value (depth + 1) (openBracket :: rest) =
    (parts closeBracket (item (value depth)) [] rest).map fun (items, left) =>
      (.array items.reverse, left) :=
  rfl

theorem value_brace : value (depth + 1) (openBrace :: rest) =
    (parts closeBrace (member (value depth)) [] rest).map fun (members, left) =>
      (.object members, left) :=
  rfl

end Kinds

/-! ### Values from their texts -/

/-- The reader takes the text of the value as that value, wherever it stands. -/
def Reads (depth : Nat) (v : Value) : Prop :=
  ∀ rest, Ends rest → value depth (v.encode ++ rest) = .ok (v, rest)

theorem reads_null : Reads depth .null := by
  intro rest _
  cases depth <;> rfl

theorem reads_bool (b : Bool) : Reads depth (.bool b) := by
  intro rest _
  cases b <;> cases depth <;> rfl

theorem reads_string (s : String) : Reads depth (.string s) := by
  intro rest hrest
  rw [encode_string, List.cons_append, List.append_assoc, List.singleton_append, value_quote,
    string_printString]
  rfl

theorem reads_whole (w : Whole) : Reads depth (.number (.whole w)) := by
  intro rest hrest
  have hread (negative : Bool) := unsignedNumber_toDigits negative (natAbs_lt_wordLimit w) hrest
  have hvalue := integer_natAbs w
  rw [encode_whole]
  split
  · next hneg =>
    rw [decide_eq_true hneg] at hvalue
    rw [List.cons_append, value_minus, hread, hvalue]
    rfl
  · next hpos =>
    rw [decide_eq_false hpos] at hvalue
    obtain ⟨b, more, hbytes, hdigit⟩ := exists_spelled_toDigits w.val.natAbs
    rw [hbytes] at hread ⊢
    rw [List.cons_append, value_digit _ hdigit, ← List.cons_append, hread, hvalue]
    rfl

theorem reads_array {items : List Value} (hopens : ∀ v ∈ items, Opens closeBracket v.encode)
    (hreads : ∀ v ∈ items, Reads depth v) : Reads (depth + 1) (.array items) := by
  intro rest _
  have htakes (v) (hv : v ∈ items) :
      Takes (item (value depth)) Value.encode (fun before next => next :: before) v := by
    intro before rest hrest
    rw [item, hreads v hv rest hrest]
    rfl
  -- The items come out in reverse order, and are turned round at the end.
  have hfold : items.foldl (fun before next => next :: before) [] = items.reverse := by
    rw [List.foldl_flip_cons_eq_append, List.append_nil, List.map_id']
  rw [encode_array, List.cons_append, List.append_assoc, List.singleton_append, value_bracket,
    parts_enumerated (.inl rfl) hopens (.of_takes htakes []) rest, hfold]
  show Except.ok (Value.array items.reverse.reverse, rest) = _
  rw [List.reverse_reverse]

theorem memberName_memberText (m : String × Value) (rest : Bytes) :
    memberName (memberText m ++ rest) = .ok (m.1, colon :: (m.2.encode ++ rest)) := by
  rw [memberText, spelled_printString, List.append_assoc, List.cons_append, List.append_assoc,
    memberName, skipBlanks_cons (by decide)]
  exact string_printString m.1 _

theorem memberColon_colon (rest : Bytes) : memberColon (colon :: rest) = .ok rest := rfl

/-- A member is read and put in its place. -/
theorem takes_member {m : String × Value} (hreads : Reads depth m.2) :
    Takes (member (value depth)) memberText (fun before m => Entries.insert m.1 m.2 before) m := by
  intro before rest hrest
  rw [member, memberName_memberText]
  simp only [memberColon_colon, hreads rest hrest]

theorem reads_object {members : List (String × Value)} (hascending : Entries.Ascending members)
    (hreads : ∀ m ∈ members, Reads depth m.2) : Reads (depth + 1) (.object members) := by
  intro rest _
  have hfold := Entries.foldl_insert (show Entries.Ascending ([] ++ members) from hascending)
  rw [encode_object, List.cons_append, List.append_assoc, List.singleton_append, value_brace,
    parts_enumerated (.inr rfl) (fun m _ => opens_memberText m)
      (.of_takes (fun m hm => takes_member (hreads m hm)) []) rest, hfold]
  rfl

/-- A value is read from its own text, and what follows is left. -/
theorem value_encode (h : v.Plain depth) : Reads depth v := by
  induction h with
  | null => exact reads_null
  | bool b => exact reads_bool b
  | whole n => exact reads_whole n
  | string s => exact reads_string s
  | array hitems ih => exact reads_array (fun v hv => (hitems v hv).opens) ih
  | object hascending _ ih => exact reads_object hascending ih

/-- The text of a value reads as that value. -/
theorem decode_encode (h : v.Plain depthLimit) : decode v.encode = .ok v := by
  have hread := value_encode h [] (fun b hb => nomatch hb)
  rw [List.append_nil] at hread
  rw [decode, hread]
  rfl

/-! ## No control characters -/

/-- No byte is a control character of ASCII. -/
def Printable (bytes : Bytes) : Prop :=
  ∀ b ∈ bytes, 0x20 ≤ b.toNat

theorem printable_nil : Printable [] :=
  nofun

theorem Printable.cons {b : UInt8} {bytes : Bytes} (hb : 0x20 ≤ b.toNat) (hbytes : Printable bytes) :
    Printable (b :: bytes) :=
  List.forall_mem_cons.mpr ⟨hb, hbytes⟩

theorem Printable.append {bytes more : Bytes} (hbytes : Printable bytes) (hmore : Printable more) :
    Printable (bytes ++ more) :=
  List.forall_mem_append.mpr ⟨hbytes, hmore⟩

theorem printable_spelled {text : List Char} (h : ∀ c ∈ text, 0x20 ≤ c.toNat) :
    Printable (spelled text) := by
  intro b hb
  obtain ⟨c, hc, hb⟩ := List.mem_flatMap.mp hb
  by_cases hascii : c.toNat < 0x80
  · rw [encodeChar_ascii hascii, List.mem_singleton] at hb
    rw [hb, UInt8.toNat_ofNat', Nat.mod_eq_of_lt (Nat.lt_trans hascii (by decide))]
    exact h c hc
  · exact Nat.le_trans (by decide) (high_of_mem_encodeChar (Nat.not_lt.mp hascii) b hb)

theorem hexDigit_printable : ∀ k < 16, 0x20 ≤ (hexDigit k).toNat := by
  decide +kernel

/-- Inside quotes a control character is spelled out. -/
theorem printChar_printable (c : Char) : ∀ shown ∈ printChar c, 0x20 ≤ shown.toNat := by
  unfold printChar
  split
  · next letter hletter =>
    have hshown : 0x20 ≤ letter.toNat := by
      unfold escapeLetter? at hletter
      (repeat' split at hletter) <;> cases hletter <;> decide
    simp [hshown]
  · split
    · next hcontrol =>
      have hhigh := hexDigit_printable (c.toNat / 16) (by omega)
      have hlow := hexDigit_printable (c.toNat % 16) (Nat.mod_lt _ (by decide))
      simp [hhigh, hlow]
    · next hprintable => simpa using hprintable

theorem printString_printable (s : String) : ∀ c ∈ printString s, 0x20 ≤ c.toNat := by
  have hbody : ∀ c ∈ s.toList.flatMap printChar, 0x20 ≤ c.toNat := by
    intro c hc
    obtain ⟨own, -, hc⟩ := List.mem_flatMap.mp hc
    exact printChar_printable own c hc
  exact List.forall_mem_cons.mpr ⟨by decide, List.forall_mem_append.mpr ⟨hbody, by simp⟩⟩

theorem printInt_printable (n : Int) : ∀ c ∈ printInt n, 0x20 ≤ c.toNat := by
  have hdigits : ∀ c ∈ Nat.toDigits 10 n.natAbs, 0x20 ≤ c.toNat := by
    intro c hc
    have hdigit : c.isDigit = true := Nat.isDigit_of_mem_toDigits (by decide) (by decide) hc
    simp only [Char.isDigit, Bool.and_eq_true, decide_eq_true_eq, ge_iff_le,
      UInt32.le_iff_toNat_le] at hdigit
    exact Nat.le_trans (by decide) hdigit.1
  unfold printInt
  split
  · exact List.forall_mem_cons.mpr ⟨by decide, hdigits⟩
  · exact hdigits

theorem printable_enumerated {α : Type} {text : α → Bytes} {items : List α}
    (h : ∀ item ∈ items, Printable (text item)) : Printable (enumerated text items) := by
  cases items with
  | nil => exact printable_nil
  | cons first others =>
    refine (h first List.mem_cons_self).append fun b hb => ?_
    obtain ⟨next, hnext, hb⟩ := List.mem_flatMap.mp hb
    exact Printable.cons (by decide) (h next (List.mem_cons_of_mem _ hnext)) b hb

/-- The text of a value holds no control character, whatever its strings hold. -/
theorem printable_encode (h : v.Plain depth) : Printable v.encode := by
  induction h with
  | null =>
    rw [Value.encode_eq]
    exact printable_spelled (show ∀ c ∈ ['n', 'u', 'l', 'l'], 0x20 ≤ c.toNat by simp)
  | bool b =>
    rw [Value.encode_eq]
    cases b with
    | false =>
      exact printable_spelled (show ∀ c ∈ ['f', 'a', 'l', 's', 'e'], 0x20 ≤ c.toNat by simp)
    | true => exact printable_spelled (show ∀ c ∈ ['t', 'r', 'u', 'e'], 0x20 ≤ c.toNat by simp)
  | whole n =>
    rw [Value.encode_eq]
    exact printable_spelled (printInt_printable n.val)
  | string s =>
    rw [Value.encode_eq]
    exact printable_spelled (printString_printable s)
  | array _ ih =>
    rw [encode_array]
    exact ((printable_enumerated ih).append (printable_nil.cons (by decide))).cons (by decide)
  | object _ _ ih =>
    rw [encode_object]
    refine ((printable_enumerated fun m hm => ?_).append (printable_nil.cons (by decide))).cons
      (by decide)
    exact (printable_spelled (printString_printable m.1)).append ((ih m hm).cons (by decide))

end Json

namespace Payload

theorem decode_letter (kind : Kind) (rest : Bytes) :
    decode (kind.letter :: rest) = decodeBody rest kind := by
  rw [decode, Kind.ofLetter?_letter]

/-- What follows the letter is read in the way of its kind: a string as it stands,
a number, an array or an object as a text, a constant not at all. -/
theorem decodeBody_body {v : Json.Value} (h : v.Plain Json.depthLimit) :
    decodeBody (body v) (Kind.of v) = .ok v := by
  have hread := Json.decode_encode h
  cases h with
  | null => rfl
  | bool b => cases b <;> rfl
  | string s => simp only [Kind.of, body, decodeBody, Utf8.decode_encode]
  | whole n | array | object => exact congrArg (Except.mapError Fault.json) hread

/-- Every value with whole numbers that is not nested too deep comes back from its
payload as it was. -/
theorem decode_encode_plain {v : Json.Value} (h : v.Plain Json.depthLimit) :
    decode (encode v) = .ok v := by
  rw [encode, decode_letter, decodeBody_body h]

/-- An object with both bounds of a word, a name that has to be escaped,
separators, and a character of four bytes. -/
def specimen : Json.Value :=
  .object [
    ("", .array [.null, .bool Bool.true, .number (.whole ⟨-9223372036854775808, by decide, by decide⟩),
      .number (.whole ⟨18446744073709551615, by decide, by decide⟩)]),
    ("a\"\\\n", .string "\x1e\x1f/\u20ac"),
    ("é", .object [("😀", .array [])])]

theorem specimen_plain : specimen.Plain Json.depthLimit := by
  refine .object (by unfold Entries.Ascending; decide +kernel) ?_
  rintro member (_ | ⟨_, _ | ⟨_, _ | ⟨_, hnone⟩⟩⟩)
  · refine .array ?_
    rintro item (_ | ⟨_, _ | ⟨_, _ | ⟨_, _ | ⟨_, hnone⟩⟩⟩⟩)
    · exact .null
    · exact .bool Bool.true
    · exact .whole _
    · exact .whole _
    · cases hnone
  · exact .string _
  · refine .object (by unfold Entries.Ascending; decide +kernel) ?_
    rintro member (_ | ⟨_, hnone⟩)
    · exact .array (by simp)
    · cases hnone
  · cases hnone

/-- A value with a member of each kind is read from its payload. -/
theorem decode_encode_specimen :
    specimen.Plain Json.depthLimit ∧ decode (encode specimen) = .ok specimen :=
  ⟨specimen_plain, decode_encode_plain specimen_plain⟩

end Payload

end Realtime
