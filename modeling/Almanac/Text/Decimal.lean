import Almanac.Bounds

/-!
# Almanac.Text.Decimal

Decimal numbers in text: fixed-width fields, and the reading of signed 64-bit integers.

Reading takes an optional `+` or `-` and then at least one ASCII digit.  Digits are consumed from
the left and the first fault ends the reading, so a number that is already too large is reported
as such even if a later character is not a digit.
-/

namespace Almanac.Decimal

/-! ## fixed-width fields -/

/-- The decimal digits of `n`, filled up with zeros on the left to at least `width` characters. -/
def padded (width n : Nat) : List Char :=
  let digits := Nat.toDigits 10 n
  List.replicate (width - digits.length) '0' ++ digits

theorem length_padded (width n : Nat) :
    (padded width n).length = max width (Nat.toDigits 10 n).length := by
  simp [padded]
  omega

/-! ## reading -/

/-- What can be wrong with the text of a signed integer. -/
inductive Fault
  | empty
  | invalidDigit
  | tooLarge
  | tooSmall
deriving DecidableEq, Repr

/-- The wording of a fault. -/
def Fault.message : Fault → String
  | .empty => "cannot parse integer from empty string"
  | .invalidDigit => "invalid digit found in string"
  | .tooLarge => "number too large to fit in target type"
  | .tooSmall => "number too small to fit in target type"

/-- Reads digits from the left onto `value`; the first value above `limit` is the fault `beyond`. -/
def readDigits (limit : Nat) (beyond : Fault) (value : Nat) : List Char → Except Fault Nat
  | [] => .ok value
  | c :: rest =>
    if c.isDigit then
      let next := value * 10 + (c.toNat - '0'.toNat)
      if limit < next then .error beyond else readDigits limit beyond next rest
    else .error .invalidDigit

/-- Reads a signed 64-bit integer.  A sign alone holds no digit and is an invalid one itself. -/
def readInt64 : List Char → Except Fault Int
  | [] => .error .empty
  | ['+'] => .error .invalidDigit
  | ['-'] => .error .invalidDigit
  | '+' :: digits => (readDigits 9223372036854775807 .tooLarge 0 digits).map Int.ofNat
  | '-' :: digits => (readDigits 9223372036854775808 .tooSmall 0 digits).map (-Int.ofNat ·)
  | digits => (readDigits 9223372036854775807 .tooLarge 0 digits).map Int.ofNat

/-- What the digits are read to never exceeds the limit. -/
theorem le_of_readDigits {limit : Nat} {beyond : Fault} {value n : Nat} {cs : List Char}
    (hv : value ≤ limit) (h : readDigits limit beyond value cs = .ok n) : n ≤ limit := by
  induction cs generalizing value with
  | nil => grind [readDigits]
  | cons c rest ih => grind [readDigits]

/-- Every integer that is read fits in 64 bits. -/
theorem fitsInt64_of_readInt64 {cs : List Char} {n : Int} (h : readInt64 cs = .ok n) :
    FitsInt64 n := by
  have key (limit : Nat) (beyond : Fault) (ds : List Char) (f : Nat → Int) :
      (readDigits limit beyond 0 ds).map f = .ok n → ∃ m, m ≤ limit ∧ n = f m := by
    cases hr : readDigits limit beyond 0 ds with
    | error e => simp [Except.map]
    | ok m =>
      intro hm
      exact ⟨m, le_of_readDigits (Nat.zero_le _) hr, by simpa [Except.map] using hm.symm⟩
  unfold readInt64 at h
  split at h
  · simp at h
  · simp at h
  · simp at h
  · obtain ⟨m, hm, rfl⟩ := key _ _ _ _ h
    simp only [FitsInt64, Int.ofNat_eq_natCast]
    omega
  · obtain ⟨m, hm, rfl⟩ := key _ _ _ _ h
    simp only [FitsInt64, Int.ofNat_eq_natCast]
    omega
  · obtain ⟨m, hm, rfl⟩ := key _ _ _ _ h
    simp only [FitsInt64, Int.ofNat_eq_natCast]
    omega

end Almanac.Decimal
