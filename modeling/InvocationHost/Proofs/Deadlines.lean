import InvocationHost.Deadline
import InvocationHost.Proofs.Lines
import InvocationHost.Proofs.Numerals

/-! # Deadlines as they are read

A deadline is read from a decimal numeral of a signed 64-bit integer with blanks around it, and from nothing else.
What is read is a moment that a clock with its seconds in 64 bits can hold; a number out of range is refused and
never wrapped or clamped.
-/
namespace InvocationHost

/-- A moment on a clock that counts seconds in a signed word of 64 bits, with nanoseconds on top. -/
structure ClockTime where
  seconds : Int64
  nanos : UInt32
  deriving DecidableEq

namespace ClockTime

def epoch : ClockTime := ⟨0,0⟩

def nanosPerSecond : UInt32 := 1000000000

/-- The moment itself, if its seconds fit into their word. -/
def fit? (seconds : Int) (nanos : UInt32) : Option ClockTime :=
  if seconds ≤ Text.greatestInt64 then some ⟨Int64.ofInt seconds,nanos⟩ else none

/-- The moment some milliseconds later, by the arithmetic of the words; none if the seconds do not fit into theirs. -/
def after? (t : ClockTime) (ms : UInt64) : Option ClockTime :=
  let nanos := t.nanos + (ms % 1000).toUInt32 * 1000000
  let seconds := t.seconds.toInt + (ms / 1000).toNat
  if nanosPerSecond ≤ nanos then fit? (seconds + 1) (nanos - nanosPerSecond) else fit? seconds nanos

/-- Nanoseconds since the epoch. -/
def sinceEpoch (t : ClockTime) : Int := t.seconds.toInt * 1000000000 + t.nanos.toNat

theorem exists_fit {seconds : Int} (h0 : 0 ≤ seconds) (h : seconds ≤ Text.greatestInt64) (nanos : UInt32) :
    ∃ t, fit? seconds nanos = some t ∧ t.sinceEpoch = seconds * 1000000000 + nanos.toNat := by
  refine ⟨_,if_pos h,?_⟩
  rw [Text.greatestInt64] at h
  rw [sinceEpoch, Int64.toInt_ofInt_of_le (by omega) (by omega)]

/-- Up to the greatest 64-bit integer of milliseconds, no word overflows. -/
theorem exists_epoch_after (ms : UInt64) (h : (ms.toNat : Int) ≤ Text.greatestInt64) :
    ∃ t, epoch.after? ms = some t ∧ t.sinceEpoch = ms.toNat * 1000000 := by
  have hnanos : (epoch.nanos + (ms % 1000).toUInt32 * 1000000).toNat = ms.toNat % 1000 * 1000000 := by
    simp [epoch, UInt32.toNat_mul]
    omega
  have hseconds : epoch.seconds.toInt + ((ms / 1000).toNat : Int) = (ms.toNat / 1000 : Nat) := by simp [epoch]
  rw [after?, hseconds]
  generalize epoch.nanos + (ms % 1000).toUInt32 * 1000000 = nanos at hnanos ⊢
  -- on top of a whole second, milliseconds never make up another one
  have hcarry : ¬ nanosPerSecond ≤ nanos := by
    rw [UInt32.le_iff_toNat_le, hnanos, show nanosPerSecond.toNat = 1000000000 from rfl]
    omega
  obtain ⟨t,hfit,hsince⟩ := exists_fit (Int.natCast_nonneg (ms.toNat / 1000)) (by omega) nanos
  refine ⟨t,by rw [if_neg hcarry, hfit],?_⟩
  rw [hsince, hnanos]
  omega

end ClockTime

namespace Text
variable {s : List Char} {n : Int}

theorem Numeral.not_blank (h : Numeral True s n) : ∀ c ∈ s, isBlank c = false := by
  have hdigits {ds : List Char} (hds : ∀ c ∈ ds, c.isDigit = true) : ∀ c ∈ ds, isBlank c = false :=
    fun c hc => isBlank_of_isDigit (hds c hc)
  cases h with
  | plain _ hds => exact hdigits hds
  | plus _ hds => exact List.forall_mem_cons.mpr ⟨by decide,hdigits hds⟩
  | minus _ _ hds => exact List.forall_mem_cons.mpr ⟨by decide,hdigits hds⟩

theorem Numeral.trimmed (h : Numeral True s n) : Trimmed s :=
  ⟨fun c hc => h.not_blank c (List.mem_of_mem_head? hc),fun c hc => h.not_blank c (List.mem_of_mem_getLast? hc)⟩

def IsInt64 (n : Int) : Prop := leastInt64 ≤ n ∧ n ≤ greatestInt64

theorem readInt64_eq_ok_iff : readInt64 s = .ok n ↔ Numeral True s n ∧ IsInt64 n := by
  have hneg : (leastInt64 < 0) = True := eq_true (by decide)
  rw [readInt64, readInt_eq_ok_iff (by decide) (by decide), hneg, IsInt64]

end Text

namespace Deadline
open Text
variable {raw : String} {value : Int} {d : Deadline} {cause : NumeralError}

/-- A text reads as a value if it is a decimal numeral of it with nothing but blanks around. -/
def Reads (raw : String) (value : Int) : Prop :=
  ∃ left numeral right, (∀ c ∈ left, isBlank c = true) ∧ (∀ c ∈ right, isBlank c = true) ∧
    raw.toList = left ++ (numeral ++ right) ∧ Numeral True numeral value

theorem reads_iff : Reads raw value ↔ Numeral True (trim raw.toList) value := by
  constructor
  · rintro ⟨left,numeral,right,hleft,hright,hraw,h⟩
    rwa [hraw, h.trimmed.trim_between hleft hright]
  · intro h
    obtain ⟨left,right,hleft,hright,hraw⟩ := exists_margins raw.toList
    exact ⟨left,_,right,hleft,hright,hraw,h⟩

theorem Reads.value_unique {other : Int} (h : Reads raw value) (h' : Reads raw other) : value = other :=
  (reads_iff.mp h).value_unique (reads_iff.mp h')

theorem parse_eq_ok_iff :
    parse raw = .ok d ↔ ∃ value, Reads raw value ∧ IsInt64 value ∧ (d.ms : Int) = max 0 value := by
  have hread (n : Int) : readInt64 (trim raw.toList) = .ok n ↔ Reads raw n ∧ IsInt64 n := by
    rw [readInt64_eq_ok_iff, reads_iff]
  constructor
  · intro h
    unfold parse at h
    split at h
    · next n hn =>
      obtain ⟨hreads,hint⟩ := (hread n).mp hn
      cases h
      exact ⟨n,hreads,hint,by rw [Int.toNat_eq_max, Int.max_comm]⟩
    · cases h
  · rintro ⟨n,hreads,hint,hms⟩
    have hnat : n.toNat = d.ms := by omega
    rw [parse, (hread n).mpr ⟨hreads,hint⟩]
    simp only [hnat]

/-- The error of a text holds the text as it came. -/
theorem parse_of_error (h : readInt64 (trim raw.toList) = .error cause) : parse raw = .error (.invalid raw cause) := by
  rw [parse, h]

theorem exists_error_iff :
    (∃ cause, parse raw = .error (.invalid raw cause)) ↔ ¬∃ value, Reads raw value ∧ IsInt64 value := by
  constructor
  · rintro ⟨cause,herror⟩ ⟨value,hreads,hint⟩
    have hms : ((⟨value.toNat⟩ : Deadline).ms : Int) = max 0 value := by rw [Int.toNat_eq_max, Int.max_comm]
    cases herror.symm.trans (parse_eq_ok_iff.mpr ⟨value,hreads,hint,hms⟩)
  · intro hnone
    cases hread : readInt64 (trim raw.toList) with
    | error cause => exact ⟨cause,parse_of_error hread⟩
    | ok n =>
      obtain ⟨hnum,hint⟩ := readInt64_eq_ok_iff.mp hread
      exact absurd ⟨n,reads_iff.mpr hnum,hint⟩ hnone

theorem reads_toString {left right : List Char} {n : Nat} (hleft : ∀ c ∈ left, isBlank c = true)
    (hright : ∀ c ∈ right, isBlank c = true) (hraw : raw.toList = left ++ ((toString n).toList ++ right)) :
    Reads raw n := by
  have hdigits : ∀ c ∈ Nat.toDigits 10 n, c.isDigit = true :=
    fun c hc => Nat.isDigit_of_mem_toDigits (by decide) (by decide) hc
  have h : Numeral True (Nat.toDigits 10 n) (Nat.ofDigitChars 10 (Nat.toDigits 10 n) 0) :=
    .plain Nat.toDigits_ne_nil hdigits
  rw [Nat.ofDigitChars_ten_toDigits] at h
  refine ⟨left,_,right,hleft,hright,hraw,?_⟩
  simpa using h

/-- A greater value is no earlier deadline. -/
theorem ms_mono {raw' : String} {value' : Int} {d' : Deadline} (hreads : Reads raw value) (hreads' : Reads raw' value')
    (hle : value ≤ value') (h : parse raw = .ok d) (h' : parse raw' = .ok d') : d.ms ≤ d'.ms := by
  obtain ⟨n,hn,-,hms⟩ := parse_eq_ok_iff.mp h
  obtain ⟨n',hn',-,hms'⟩ := parse_eq_ok_iff.mp h'
  obtain rfl := hreads.value_unique hn
  obtain rfl := hreads'.value_unique hn'
  omega

theorem ms_le (h : parse raw = .ok d) : (d.ms : Int) ≤ greatestInt64 := by
  obtain ⟨n,-,⟨-,hle⟩,hms⟩ := parse_eq_ok_iff.mp h
  have hpos : (0 : Int) ≤ greatestInt64 := by decide
  omega

/-- **A deadline is read from the numerals of signed 64-bit integers, and from no other text.** It is the moment as
many milliseconds after the epoch as the value says, or the epoch itself for a negative value; a clock with its
seconds in 64 bits holds it exactly. Any other text is refused with an error that holds it untrimmed, a number out of
range as too large or too small. So a number reads back from its decimal digits, whatever blanks stand around them,
and deadlines are in the order of the values. -/
theorem parse_accepts_int64 (raw : String) :
    (∀ d, parse raw = .ok d ↔ ∃ value, Reads raw value ∧ IsInt64 value ∧ (d.ms : Int) = max 0 value) ∧
    (∀ d, parse raw = .ok d →
      ∃ t, ClockTime.epoch.after? (UInt64.ofNat d.ms) = some t ∧ t.sinceEpoch = d.ms * 1000000) ∧
    ((∃ cause, parse raw = .error (.invalid raw cause)) ↔ ¬∃ value, Reads raw value ∧ IsInt64 value) ∧
    (∀ value, Reads raw value →
      (greatestInt64 < value → parse raw = .error (.invalid raw .tooLarge)) ∧
      (value < leastInt64 → parse raw = .error (.invalid raw .tooSmall))) ∧
    (∀ (n : Nat) (left right : List Char), (n : Int) ≤ greatestInt64 → (∀ c ∈ left, isBlank c = true) →
      (∀ c ∈ right, isBlank c = true) → raw.toList = left ++ ((toString n).toList ++ right) → parse raw = .ok ⟨n⟩) ∧
    (∀ value raw' value' d d', Reads raw value → Reads raw' value' → value ≤ value' →
      parse raw = .ok d → parse raw' = .ok d' → d.ms ≤ d'.ms) := by
  refine ⟨fun d => parse_eq_ok_iff,?_,exists_error_iff,?_,?_,fun _ _ _ _ _ => ms_mono⟩
  · intro d h
    have hle := ms_le h
    have hword : (UInt64.ofNat d.ms).toNat = d.ms := by
      rw [greatestInt64] at hle
      exact UInt64.toNat_ofNat_of_lt' (by rw [UInt64.size]; omega)
    obtain ⟨t,hafter,hsince⟩ := ClockTime.exists_epoch_after (UInt64.ofNat d.ms) (by rwa [hword])
    exact ⟨t,hafter,by rw [hsince, hword]⟩
  · intro value hreads
    have hnum := reads_iff.mp hreads
    exact ⟨fun hlarge => parse_of_error (readInt_eq_tooLarge hnum (by decide) hlarge),
      fun hsmall => parse_of_error (readInt_eq_tooSmall hnum (by decide) hsmall)⟩
  · intro n left right hn hleft hright hraw
    have hint : IsInt64 n := ⟨by rw [leastInt64]; omega,hn⟩
    exact parse_eq_ok_iff.mpr ⟨n,reads_toString hleft hright hraw,hint,by simp⟩

end Deadline
end InvocationHost
