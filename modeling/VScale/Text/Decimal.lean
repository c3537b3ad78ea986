import Mathlib.Algebra.Order.Ring.Int

/-!
# Decimal texts of machine integers

Reading and printing of signed 64-bit integers in base ten.  A text is an
optional sign followed by at least one digit; a value outside the 64-bit range
is rejected by `parseInt` and clamped by `atoi`, which drops the error.
-/

namespace Decimal

/-- Largest signed 64-bit value. -/
def maxInt64 : Int := 9223372036854775807

/-- Smallest signed 64-bit value. -/
def minInt64 : Int := -9223372036854775808

/-- Membership in the signed 64-bit range. -/
def InInt64 (value : Int) : Prop :=
  minInt64 ≤ value ∧ value ≤ maxInt64

instance (value : Int) : Decidable (InInt64 value) :=
  inferInstanceAs (Decidable (_ ∧ _))

/-- Two's-complement reduction to 64 bits. -/
def wrap64 (value : Int) : Int :=
  Int.bmod value (2 ^ 64)

/-- A value that fits in 64 bits is not changed by the reduction. -/
theorem wrap64_of_inInt64 (fits : InInt64 value) : wrap64 value = value := by
  unfold InInt64 minInt64 maxInt64 at fits
  unfold wrap64
  apply Int.bmod_eq_of_le
  · omega
  · omega

theorem inInt64_wrap64 (value : Int) : InInt64 (wrap64 value) := by
  have lower := Int.le_bmod (m := 2 ^ 64) (x := value) (by decide)
  have upper := Int.bmod_lt (m := 2 ^ 64) (x := value) (by decide)
  unfold InInt64 wrap64 minInt64 maxInt64
  omega

theorem wrap64_eq_self_iff : wrap64 value = value ↔ InInt64 value := by
  constructor
  · intro same
    rw [← same]
    exact inInt64_wrap64 value
  · exact wrap64_of_inInt64

/-- The reduction never increases a value that is not negative. -/
theorem wrap64_le (positive : 0 ≤ value) : wrap64 value ≤ value := by
  have smaller : value % ((2 ^ 64 : Nat) : Int) ≤ value := by omega
  unfold wrap64 Int.bmod
  simp only
  split
  · exact smaller
  · omega

theorem wrap64_wrap64_add : wrap64 (wrap64 first + second) = wrap64 (first + second) :=
  Int.bmod_add_bmod

/-- The sum of two values overflows to a negative one. -/
theorem wrap64_neg
    (past : maxInt64 < value)
    (small : value ≤ 2 * maxInt64) :
    wrap64 value < 0 := by
  unfold maxInt64 at past small
  have same : value % ((2 ^ 64 : Nat) : Int) = value :=
    Int.emod_eq_of_lt (by omega) (by omega)
  unfold wrap64 Int.bmod
  simp only [same]
  rw [if_neg (by omega)]
  omega

/-- The value of a nonempty sequence of digits. -/
def scanNat (digits : List Char) : Option Nat :=
  if digits ≠ [] ∧ digits.all Char.isDigit then
    some (Nat.ofDigitChars 10 digits 0)
  else
    none

/-- The value of an optionally signed sequence of digits, of any size. -/
def scanInt (text : String) : Option Int :=
  match text.toList with
  | '-' :: digits => (scanNat digits).map fun value => -(value : Int)
  | '+' :: digits => (scanNat digits).map fun value => (value : Int)
  | digits => (scanNat digits).map fun value => (value : Int)

/-- Read a signed 64-bit integer, rejecting malformed and oversized texts. -/
def parseInt (text : String) : Option Int :=
  (scanInt text).filter fun value => InInt64 value

/-- Read a signed 64-bit integer, dropping the error: a malformed text reads as
zero and an oversized one as the nearest representable value. -/
def atoi (text : String) : Int :=
  match scanInt text with
  | none => 0
  | some value => max minInt64 (min maxInt64 value)

/-- Print an integer in base ten. -/
def formatInt (value : Int) : String :=
  value.repr

/-- Every accepted value is in range. -/
theorem inInt64_of_parseInt (parsed : parseInt text = some value) : InInt64 value := by
  have filtered := Option.filter_eq_some_iff.mp parsed
  simpa using filtered.2

theorem scanNat_toDigits (value : Nat) : scanNat (Nat.toDigits 10 value) = some value := by
  have nonempty : Nat.toDigits 10 value ≠ [] := Nat.toDigits_ne_nil
  have digits : (Nat.toDigits 10 value).all Char.isDigit = true := by
    rw [List.all_eq_true]
    intro digit present
    exact Nat.isDigit_of_mem_toDigits (by decide) (by decide) present
  simp only [scanNat, nonempty, digits, ne_eq, not_false_eq_true, and_self, if_true,
    Nat.ofDigitChars_ten_toDigits]

/-- The digits of a number never start with a sign. -/
private theorem toDigits_head_isDigit
    (value : Nat)
    (split : Nat.toDigits 10 value = head :: tail) :
    head.isDigit = true := by
  apply Nat.isDigit_of_mem_toDigits (b := 10) (n := value) (by decide) (by decide)
  rw [split]
  exact List.mem_cons_self

theorem scanInt_formatInt (value : Int) : scanInt (formatInt value) = some value := by
  cases value with
  | ofNat magnitude =>
      have chars : (formatInt (Int.ofNat magnitude)).toList = Nat.toDigits 10 magnitude := by
        simp [formatInt, Int.repr]
      have scanned := scanNat_toDigits magnitude
      unfold scanInt
      rw [chars]
      split
      · rename_i digits split
        exact absurd (toDigits_head_isDigit magnitude split) (by decide)
      · rename_i digits split
        exact absurd (toDigits_head_isDigit magnitude split) (by decide)
      · rw [scanned]
        rfl
  | negSucc magnitude =>
      have chars : (formatInt (Int.negSucc magnitude)).toList =
          '-' :: Nat.toDigits 10 (magnitude + 1) := by
        simp [formatInt, Int.repr]
      unfold scanInt
      rw [chars]
      simp only [scanNat_toDigits, Int.negSucc_eq]
      rfl

theorem formatInt_inj : formatInt first = formatInt second ↔ first = second := by
  constructor
  · intro same
    have scanned := scanInt_formatInt first
    rw [same, scanInt_formatInt second] at scanned
    exact (Option.some.inj scanned).symm
  · intro same
    rw [same]

/-- A printed integer consists of digits and the sign. -/
theorem isDigit_of_mem_formatInt
    {value : Int}
    {char : Char}
    (present : char ∈ (formatInt value).toList) :
    char.isDigit = true ∨ char = '-' := by
  cases value with
  | ofNat magnitude =>
      have chars : (formatInt (Int.ofNat magnitude)).toList = Nat.toDigits 10 magnitude := by
        simp [formatInt, Int.repr]
      rw [chars] at present
      exact .inl (Nat.isDigit_of_mem_toDigits (by decide) (by decide) present)
  | negSucc magnitude =>
      have chars : (formatInt (Int.negSucc magnitude)).toList =
          '-' :: Nat.toDigits 10 (magnitude + 1) := by
        simp [formatInt, Int.repr]
      rw [chars] at present
      rcases List.mem_cons.mp present with sign | digit
      · exact .inr sign
      · exact .inl (Nat.isDigit_of_mem_toDigits (by decide) (by decide) digit)

theorem formatInt_ne_nil (value : Int) : (formatInt value).toList ≠ [] := by
  intro empty
  have scanned := scanInt_formatInt value
  simp only [scanInt, empty] at scanned
  cases scanned

/-- Printing and reading back a representable integer is the identity. -/
theorem parseInt_formatInt (fits : InInt64 value) : parseInt (formatInt value) = some value := by
  simp [parseInt, scanInt_formatInt, fits]

example : parseInt "007" = some 7 := by decide

example : parseInt "9223372036854775808" = none := by decide

/-- The value of a digit text that `atoi` reads is its numeric value, up to the
clamping of oversized texts. -/
theorem atoi_of_scanInt
    (scanned : scanInt text = some value) :
    atoi text = max minInt64 (min maxInt64 value) := by
  simp [atoi, scanned]

end Decimal
