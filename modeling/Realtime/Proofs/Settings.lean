import Realtime.Config
import Realtime.Proofs.JsonText

/-!
# Settings stored and read again

Settings are stored with their time to wait in whole milliseconds, of which a word holds the
number. What a millisecond does not count is lost, and so is what a word does not hold; the time
that is read is the shorter for it. That the settings can be read is never in question.

Results:
1. `Duration.total_ofMilliseconds`: the way back loses nothing.
2. `Config.decode_toJson`: what stored settings are read as.
3. `Config.stored_settings`: which settings come back, and what becomes of the others.
-/

namespace Realtime

/-! ## Lengths of time -/

namespace Duration

variable {d e : Duration}

/-- All nanoseconds of a length of time. -/
def total (d : Duration) : Nat :=
  d.seconds.toNat * perSecond + d.nanoseconds

theorem total_injective (h : d.total = e.total) : d = e := by
  obtain ⟨s, n, hn⟩ := d
  obtain ⟨t, m, hm⟩ := e
  simp only [total, perSecond] at h
  obtain rfl : s = t := UInt64.toNat_inj.mp (by omega)
  obtain rfl : n = m := by omega
  rfl

/-- A length of time is its whole milliseconds and what is left of the last one. -/
theorem total_eq_milliseconds (d : Duration) :
    d.total = d.milliseconds * perMillisecond + d.nanoseconds % perMillisecond := by
  simp only [total, milliseconds, perSecond, perMillisecond]
  omega

/-- Milliseconds are split into seconds and nanoseconds, and none is lost. -/
theorem total_ofMilliseconds (count : UInt64) :
    (ofMilliseconds count).total = count.toNat * perMillisecond := by
  have hseconds : (count / 1000).toNat = count.toNat / 1000 := UInt64.toNat_div count 1000
  simp only [total, ofMilliseconds, hseconds, perSecond, perMillisecond]
  omega

end Duration

namespace Config

open Json (Ends TakesFrom memberText)

/-! ## Words as text -/

section Words

variable {rest : Bytes}

/-- The digits of a word are read as that word, if it is below the bound. -/
theorem boundedNat_wordValue {limit : Nat} {n : UInt64} (hlimit : n.toNat < limit)
    (hrest : Ends rest) :
    Json.boundedNat limit ((wordValue n).encode ++ rest) = .ok (n.toNat, rest) := by
  have hupper := n.toNat_lt
  obtain ⟨w, hvalue, hw⟩ : ∃ w : Json.Whole, wordValue n = .number (.whole w) ∧ w.val = n.toNat :=
    ⟨_, rfl, rfl⟩
  have hread := Json.unsignedNumber_toDigits false (Json.natAbs_lt_wordLimit w) hrest
  have hinteger := Json.integer_natAbs w
  rw [decide_eq_false (by omega)] at hinteger
  rw [hinteger] at hread
  obtain ⟨b, more, hbytes, hdigit⟩ := Json.exists_spelled_toDigits w.val.natAbs
  rw [hvalue, Json.encode_whole, if_neg (by omega)]
  rw [hbytes, List.cons_append] at hread ⊢
  rw [Json.boundedNat, Json.skipBlanks_cons (Json.not_blank_of_isDigit hdigit)]
  simp only [if_pos hdigit, hread, Except.map]
  rw [if_pos (by omega), hw, Int.toNat_natCast]

theorem word32_wordValue (n : UInt32) (hrest : Ends rest) :
    word32 ((wordValue n.toUInt64).encode ++ rest) = .ok (n, rest) := by
  have hsame : n.toUInt64.toNat = n.toNat := UInt32.toNat_toUInt64 n
  have hlimit : n.toUInt64.toNat < UInt32.size := hsame ▸ n.toNat_lt
  rw [word32, boundedNat_wordValue hlimit hrest, hsame]
  simp only [Except.map, UInt32.ofNat_toNat]

theorem word64_wordValue (n : UInt64) (hrest : Ends rest) :
    word64 ((wordValue n).encode ++ rest) = .ok (n, rest) := by
  rw [word64, boundedNat_wordValue n.toNat_lt hrest]
  simp only [Except.map, UInt64.ofNat_toNat]

end Words

/-! ## Reading what was stored -/

section Stored

variable {given : Given} {rest : Bytes}

/-- What is given once a member of the stored settings is read. -/
def giveStored (c : Config) (given : Given) (member : String × Json.Value) : Given :=
  if member.1 = redirectionsName then { given with maxRedirections := some c.maxRedirections }
  else { given with milliseconds := some c.writtenMilliseconds }

theorem afterColon_colon {α : Type} (read : Bytes → Json.Scan α) (bytes : Bytes) :
    afterColon read (Json.colon :: bytes) = read bytes := by
  rw [afterColon, Json.memberColon_colon]

theorem member_redirections (n : UInt32) (hfirst : given.maxRedirections = none)
    (hrest : Ends rest) :
    member given (memberText (redirectionsName, wordValue n.toUInt64) ++ rest) =
      .ok ({ given with maxRedirections := some n }, rest) := by
  rw [member, Json.memberName_memberText]
  simp only [hfirst, Option.isSome_none, Bool.false_eq_true, if_true, if_false, afterColon_colon,
    word32_wordValue n hrest, Except.map]

theorem member_timeout (n : UInt64) (hfirst : given.milliseconds = none) (hrest : Ends rest) :
    member given (memberText (timeoutName, wordValue n) ++ rest) =
      .ok ({ given with milliseconds := some n }, rest) := by
  have hother : timeoutName ≠ redirectionsName := by decide
  rw [member, Json.memberName_memberText]
  simp only [if_neg hother, hfirst, Option.isSome_none, Bool.false_eq_true, if_true, if_false,
    afterColon_colon, word64_wordValue n hrest, Except.map]

/-- What is read from stored settings: the redirections as they were, and the time as far as the
word tells it. -/
theorem decode_toJson (c : Config) :
    decode c.toJson.encode =
      .ok ⟨c.maxRedirections, Duration.ofMilliseconds c.writtenMilliseconds⟩ := by
  have htakes : TakesFrom member memberText (giveStored c) {}
      [(redirectionsName, wordValue c.maxRedirections.toUInt64),
        (timeoutName, wordValue c.writtenMilliseconds)] :=
    ⟨fun _ => member_redirections _ rfl, fun _ => member_timeout _ rfl, trivial⟩
  have hparts := Json.parts_enumerated (.inr rfl) (fun m _ => Json.opens_memberText m) htakes []
  rw [toJson, Json.encode_object, decode, scan, Json.skipBlanks_cons (by decide)]
  simp only [if_true, hparts]
  rfl

end Stored

/-! ## What comes back -/

/-- As many milliseconds are written as a word holds of them. -/
theorem total_written (c : Config) :
    (Duration.ofMilliseconds c.writtenMilliseconds).total =
      c.receiveTimeout.milliseconds % UInt64.size * Duration.perMillisecond := by
  rw [Duration.total_ofMilliseconds, writtenMilliseconds, UInt64.toNat_ofNat']

theorem eq_iff_total {c d : Config} (hredirections : d.maxRedirections = c.maxRedirections) :
    d = c ↔ d.receiveTimeout.total = c.receiveTimeout.total := by
  refine ⟨fun h => congrArg (·.receiveTimeout.total) h, fun htotal => ?_⟩
  obtain ⟨redirections, timeout⟩ := d
  cases hredirections
  cases Duration.total_injective htotal
  rfl

/-- Which settings come back. Any settings can be stored and read again. They are what they were
if and only if the time to wait is whole milliseconds, of which a word holds the number. The
redirections always are; of the time there are as many milliseconds as the word tells, and a time
that does not come back has become shorter. -/
theorem stored_settings (c : Config) :
    ∃ d, decode c.toJson.encode = .ok d ∧
      (d = c ↔ c.receiveTimeout.nanoseconds % 1000000 = 0 ∧
        c.receiveTimeout.seconds.toNat * 1000 + c.receiveTimeout.nanoseconds / 1000000 <
          UInt64.size) ∧
      d.maxRedirections = c.maxRedirections ∧
      d.receiveTimeout.total =
        (c.receiveTimeout.seconds.toNat * 1000 + c.receiveTimeout.nanoseconds / 1000000) %
          UInt64.size * 1000000 ∧
      (d ≠ c → d.receiveTimeout.total < c.receiveTimeout.total) := by
  obtain ⟨d, hread, hredirections, hstored⟩ : ∃ d, decode c.toJson.encode = .ok d ∧
      d.maxRedirections = c.maxRedirections ∧
      d.receiveTimeout.total =
        c.receiveTimeout.milliseconds % UInt64.size * Duration.perMillisecond :=
    ⟨_, decode_toJson c, rfl, c.total_written⟩
  have hbefore := c.receiveTimeout.total_eq_milliseconds
  have hsame := eq_iff_total hredirections
  simp only [Duration.milliseconds, Duration.perMillisecond, UInt64.size] at hstored hbefore ⊢
  refine ⟨d, hread, hsame.trans ?_, hredirections, hstored, fun hlost => ?_⟩
  · omega
  · have hne : d.receiveTimeout.total ≠ c.receiveTimeout.total := fun h => hlost (hsame.mpr h)
    omega

end Config

end Realtime
