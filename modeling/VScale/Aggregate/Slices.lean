import VScale.Aggregate.Merge

/-!
# Cutting rows to a window

The rows of a window are the slice between two bounds that are computed with
64-bit additions.  The slice is the requested one unless the end of the window
overflows; then the end lies before the start, and slicing panics.
-/

namespace VScale
namespace Aggregate

/-- The rows after the first `offset` ones, cut to `limit` rows unless it is negative. -/
def slice (rows : List α) (offset limit : Int) : List α :=
  if 0 ≤ limit then (rows.drop offset.toNat).take limit.toNat else rows.drop offset.toNat

theorem length_slice_of_limited
    {limit : Int}
    (limited : 0 ≤ limit)
    (rows : List α)
    (offset : Int) :
    (slice rows offset limit).length = min limit.toNat (rows.length - offset.toNat) := by
  rw [slice, if_pos limited, List.length_take, List.length_drop]

section Bounds

variable {offset limit : Int}

section Windows

variable (rows : List α) (forward : 0 ≤ offset)
include forward

theorem windowStart_eq :
    windowStart rows.length offset = (min rows.length offset.toNat : Nat) := by
  unfold windowStart
  split
  · omega
  · omega

/-- Without a limit the window ends with the rows. -/
theorem applyLimitOffset_of_unlimited
    (unlimited : limit < 0) :
    applyLimitOffset rows offset limit = .ok (slice rows offset limit) := by
  have stop : windowEnd rows.length (min rows.length offset.toNat : Nat) limit = rows.length :=
    if_neg (Int.not_le.mpr unlimited)
  unfold applyLimitOffset
  simp only [windowStart_eq rows forward, stop]
  rw [if_pos (by omega), slice, if_neg (Int.not_le.mpr unlimited), Int.toNat_natCast]
  congr 1
  rcases Nat.le_total rows.length offset.toNat with short | long
  · rw [Nat.min_eq_left short, List.drop_length, List.take_nil, List.drop_of_length_le short]
  · rw [Nat.min_eq_right long, List.take_of_length_le]
    rw [List.length_drop]
    omega

/-- A window whose end fits is cut out of the rows. -/
theorem applyLimitOffset_of_fits
    (limited : 0 ≤ limit)
    (fits : (min rows.length offset.toNat : Nat) + limit ≤ Decimal.maxInt64) :
    applyLimitOffset rows offset limit = .ok (slice rows offset limit) := by
  have exact : Decimal.wrap64 ((min rows.length offset.toNat : Nat) + limit) =
      (min rows.length offset.toNat : Nat) + limit := by
    apply Decimal.wrap64_of_inInt64
    refine ⟨?_, fits⟩
    unfold Decimal.minInt64
    omega
  unfold applyLimitOffset windowEnd
  simp only [windowStart_eq rows forward, if_pos limited, exact]
  rw [if_pos ⟨by omega, by split <;> omega⟩, slice, if_pos limited, Int.toNat_natCast]
  congr 1
  rcases Nat.le_total rows.length offset.toNat with short | long
  · rw [Nat.min_eq_left short, List.drop_length, List.take_nil, List.drop_of_length_le short,
      List.take_nil]
  · rw [Nat.min_eq_right long]
    split
    · rw [List.take_of_length_le, List.take_of_length_le]
      · rw [List.length_drop]
        omega
      · rw [List.length_drop]
        omega
    · congr 1
      omega

/-- A window whose end overflows is a slice out of range. -/
theorem applyLimitOffset_of_overflow
    (small : offset ≤ Decimal.maxInt64)
    (limited : 0 ≤ limit)
    (bounded : limit ≤ Decimal.maxInt64)
    (past : Decimal.maxInt64 < (min rows.length offset.toNat : Nat) + limit) :
    applyLimitOffset rows offset limit = .error .crash := by
  have wrapped : Decimal.wrap64 ((min rows.length offset.toNat : Nat) + limit) < 0 :=
    Decimal.wrap64_neg past (by omega)
  unfold applyLimitOffset windowEnd
  simp only [windowStart_eq rows forward, if_pos limited]
  rw [if_neg]
  rintro ⟨_, ordered⟩
  split at ordered
  · omega
  · omega

end Windows

end Bounds

/-- The window is the requested slice exactly when its end does not overflow. -/
theorem window_is_slice_iff_end_fits
    (rows : List α)
    (offset limit : Int)
    (offsetGiven : 0 ≤ offset ∧ offset ≤ Decimal.maxInt64)
    (limitGiven : -1 ≤ limit ∧ limit ≤ Decimal.maxInt64) :
    applyLimitOffset rows offset limit = .ok (slice rows offset limit) ↔
      min (rows.length : Int) offset + limit ≤ Decimal.maxInt64 := by
  have start : min (rows.length : Int) offset = (min rows.length offset.toNat : Nat) := by
    omega
  rw [start]
  constructor
  · intro cut
    by_contra past
    have limited : 0 ≤ limit := by
      omega
    rw [applyLimitOffset_of_overflow rows offsetGiven.1 offsetGiven.2 limited limitGiven.2
      (Int.not_le.mp past)] at cut
    cases cut
  · intro fits
    rcases Int.lt_or_le limit 0 with unlimited | limited
    · exact applyLimitOffset_of_unlimited rows offsetGiven.1 unlimited
    · exact applyLimitOffset_of_fits rows offsetGiven.1 limited fits

/-- Three rows of integers. -/
def threeRows : List (Row integralExternals) :=
  [[.int64 10], [.int64 20], [.int64 30]]

theorem second_of_three_rows :
    applyLimitOffset threeRows 1 1 = .ok [[.int64 20]] :=
  (window_is_slice_iff_end_fits threeRows 1 1 (by decide) (by decide)).mpr (by decide)

/-- The sum of OFFSET and LIMIT overflows. -/
theorem huge_limit_with_offset_crashes :
    slice threeRows 1 9223372036854775807 = [[.int64 20], [.int64 30]] ∧
      applyLimitOffset threeRows 1 9223372036854775807 = .error .crash := by
  refine ⟨rfl, ?_⟩
  exact applyLimitOffset_of_overflow threeRows (by decide) (by decide) (by decide) (by decide)
    (by decide)

end Aggregate
end VScale
