import Mathlib.Algebra.BigOperators.Group.List.Basic
import Mathlib.Data.Int.ModEq
import VScale.Aggregate.Groups

/-!
# Merging partial aggregates

Over a column of integers and nil cells the three folds of the gate compute the
greatest value, the least value and the sum modulo the word size of the values
that are there.  Each of them can be taken of parts first and then of the
results.
-/

namespace VScale
namespace Aggregate

open Collections

variable {ext : Externals}

/-- The column holds integers and nil, and may be missing from a row. -/
def IntegerColumn (rows : List (Row ext)) (colIdx : Nat) : Prop :=
  ∀ row ∈ rows, ∀ cell, row[colIdx]? = some cell → cell = .null ∨ ∃ value, cell = .int64 value

/-- The integer in a column of a row. -/
def integerAt (colIdx : Nat) (row : Row ext) : Option Int :=
  match row[colIdx]? with
  | some (.int64 value) => some value
  | _ => none

/-- The integers of a column. -/
def integers (rows : List (Row ext)) (colIdx : Nat) : List Int :=
  rows.filterMap (integerAt colIdx)

/-- An integer that may be missing, as a cell of the gate. -/
def integerValue (ext : Externals) : Option Int → Value ext
  | none => .null
  | some value => .int64 value

theorem IntegerColumn.holds
    {rows : List (Row ext)}
    {colIdx : Nat}
    (integral : IntegerColumn rows colIdx) :
    ColumnHolds Value.int64 colIdx rows (integers rows colIdx) := by
  induction rows with
  | nil => exact .nil
  | cons row rows ih =>
      obtain ⟨here, there⟩ := List.forall_mem_cons.mp integral
      have rest := ih there
      cases found : row[colIdx]? with
      | none =>
          have none : integerAt colIdx row = none := by rw [integerAt, found]
          rw [integers, List.filterMap_cons_none none]
          exact .skip (.inl found) rest
      | some cell =>
          rcases here cell found with rfl | ⟨value, rfl⟩
          · have none : integerAt colIdx row = none := by rw [integerAt, found]
            rw [integers, List.filterMap_cons_none none]
            exact .skip (.inr found) rest
          · have some : integerAt colIdx row = some value := by rw [integerAt, found]
            rw [integers, List.filterMap_cons_some some]
            exact .take found rest

section Column

variable {rows : List (Row ext)} {colIdx : Nat} (integral : IntegerColumn rows colIdx)

include integral

/-- The best integer of a column, where `best` folds what the gate keeps. -/
theorem aggBest_of_integers
    {better : ComparableValue ext → ComparableValue ext → Bool}
    {pick : Int → Int → Int}
    {best : List Int → Option Int}
    (picks : ∀ held next,
      (if better (newComparable (.int64 next)) (newComparable (.int64 held)) then next else held) =
        pick held next)
    (empty : best [] = none)
    (folds : ∀ value values, best (value :: values) = some (values.foldl pick value)) :
    aggBest better rows colIdx = integerValue ext (best (integers rows colIdx)) := by
  rw [aggBest_of_column (by rintro _ ⟨⟩) picks empty folds integral.holds]
  cases best (integers rows colIdx) with
  | none | some => rfl

/-- MAX of a column of integers. -/
theorem aggMax_of_integers : aggMax rows colIdx = integerValue ext (integers rows colIdx).max? := by
  refine aggBest_of_integers integral ?_ rfl fun _ _ => List.max?_cons'
  intro held next
  rw [max_def_lt]
  simp only [newComparable, ComparableValue.greaterThan, ComparableValue.compareBy,
    decide_eq_true_eq]

/-- MIN of a column of integers. -/
theorem aggMin_of_integers : aggMin rows colIdx = integerValue ext (integers rows colIdx).min? := by
  refine aggBest_of_integers integral ?_ rfl fun _ _ => List.min?_cons'
  intro held next
  rw [min_comm, min_def_lt]
  simp only [newComparable, ComparableValue.lessThan, ComparableValue.compareBy,
    decide_eq_true_eq]

/-- SUM of a column of integers. -/
theorem aggSumInt64_of_integers :
    aggSumInt64 rows colIdx = Decimal.wrap64 (integers rows colIdx).sum := by
  have adds : ∀ (sum : Int) (row : Row ext) (value : Int), row[colIdx]? = some (.int64 value) →
      sumStep colIdx (Decimal.wrap64 sum) row = Decimal.wrap64 (sum + id value) := by
    intro sum row value found
    simp only [sumStep, found, Decimal.wrap64_wrap64_add, id]
  rw [aggSumInt64_of_worth adds integral.holds, List.map_id]

end Column

theorem integers_perm
    {first second : List (Row ext)}
    (same : first.Perm second)
    (colIdx : Nat) :
    (integers first colIdx).Perm (integers second colIdx) :=
  same.filterMap _

theorem integers_flatten
    (groups : List (List (Row ext)))
    (colIdx : Nat) :
    integers groups.flatten colIdx = (groups.map fun group => integers group colIdx).flatten := by
  simp only [integers, List.filterMap_flatten]

/-- A list of results is a column. -/
theorem integerColumn_results
    {σ : Type*}
    (results : σ → Option Int)
    (parts : List σ) :
    IntegerColumn (parts.map fun part => [integerValue ext (results part)]) 0 := by
  intro row present cell found
  obtain ⟨part, _, rfl⟩ := List.mem_map.mp present
  obtain rfl := Option.some.inj found
  cases results part with
  | none => exact .inl rfl
  | some value => exact .inr ⟨value, rfl⟩

theorem integers_results
    {σ : Type*}
    (results : σ → Option Int)
    (parts : List σ) :
    integers (parts.map fun part => [integerValue ext (results part)]) 0 =
      parts.filterMap results := by
  rw [integers, List.filterMap_map]
  apply List.filterMap_congr
  intro part _
  simp only [Function.comp_apply, integerAt, List.getElem?_cons_zero]
  cases results part with
  | none | some => rfl

theorem filterMap_eq_present
    {σ : Type*}
    (results : σ → Option Int)
    (parts : List σ) :
    parts.filterMap results = present (parts.map fun part => orTop (results part)) := by
  induction parts with
  | nil => rfl
  | cons part parts ih =>
      rw [List.map_cons]
      cases found : results part with
      | none => rw [List.filterMap_cons_none found, ih, orTop, present_top_cons]
      | some value =>
          rw [List.filterMap_cons_some found, ih, orTop, present_coe_cons]

theorem wrap64_sum (values : List Int) :
    Decimal.wrap64 (values.map Decimal.wrap64).sum = Decimal.wrap64 values.sum := by
  induction values with
  | nil => rfl
  | cons value values ih =>
      rw [List.map_cons, List.sum_cons, List.sum_cons, Decimal.wrap64_wrap64_add, Int.add_comm,
        ← Decimal.wrap64_wrap64_add, ih, Decimal.wrap64_wrap64_add, Int.add_comm]

section Parts

variable {rows : List (Row ext)} {colIdx : Nat} (integral : IntegerColumn rows colIdx)
  {groups : List (List (Row ext))} (split : groups.flatten.Perm rows)

include integral split

theorem IntegerColumn.part
    {group : List (Row ext)}
    (part : group ∈ groups) :
    IntegerColumn group colIdx := by
  intro row present
  exact integral row (split.mem_iff.mp (List.mem_flatten.mpr ⟨group, part, present⟩))

/-- The best integer of a column is the best one of the best of its parts. -/
theorem aggBest_of_parts
    {better : ComparableValue ext → ComparableValue ext → Bool}
    {best : List Int → Option Int}
    (whole : ∀ {rows : List (Row ext)} {colIdx : Nat}, IntegerColumn rows colIdx →
      aggBest better rows colIdx = integerValue ext (best (integers rows colIdx)))
    (congr : ∀ {first second : List Int}, (∀ value, value ∈ first ↔ value ∈ second) →
      best first = best second)
    (flat : ∀ parts : List (List Int),
      best (present (parts.map fun part => orTop (best part))) = best parts.flatten) :
    aggBest better (groups.map fun group => [aggBest better group colIdx]) 0 =
      aggBest better rows colIdx := by
  have parts : (groups.map fun group => [aggBest better group colIdx]) =
      groups.map fun group => [integerValue ext (best (integers group colIdx))] := by
    apply List.map_congr_left
    intro group part
    rw [whole (integral.part split part)]
  have members : ∀ value, value ∈ (groups.map fun group => integers group colIdx).flatten ↔
      value ∈ integers rows colIdx := by
    intro value
    rw [← integers_flatten, (integers_perm split colIdx).mem_iff]
  have greatest := flat (groups.map fun group => integers group colIdx)
  rw [List.map_map] at greatest
  rw [parts, whole (integerColumn_results _ groups), integers_results, filterMap_eq_present,
    whole integral, ← congr members]
  exact congrArg _ greatest

/-- The sum of partial sums is the sum of all. -/
theorem aggSumInt64_of_parts :
    aggSumInt64 (groups.map fun group => [(.int64 (aggSumInt64 group colIdx) : Value ext)]) 0 =
      aggSumInt64 rows colIdx := by
  have parts : (groups.map fun group => [(.int64 (aggSumInt64 group colIdx) : Value ext)]) =
      groups.map fun group =>
        [integerValue ext (some (Decimal.wrap64 (integers group colIdx).sum))] := by
    apply List.map_congr_left
    intro group part
    rw [aggSumInt64_of_integers (integral.part split part)]
    rfl
  have sums : (groups.map fun group => (integers group colIdx).sum).sum =
      (integers rows colIdx).sum := by
    rw [← (integers_perm split colIdx).sum_eq, integers_flatten, List.sum_flatten, List.map_map]
    rfl
  rw [parts, aggSumInt64_of_integers (integerColumn_results _ groups), integers_results,
    List.filterMap_eq_map', aggSumInt64_of_integers integral, ← sums,
    ← wrap64_sum (groups.map fun group => (integers group colIdx).sum), List.map_map]
  rfl

end Parts

/-- Over a column of integers and nil cells the folds of the gate find the greatest and the
least integer, or nil if there is none, and the sum modulo the word size; and for any split
of the rows into groups they find them from the results of the groups. -/
theorem partial_aggregates
    (ext : Externals)
    (rows : List (Row ext))
    (colIdx : Nat)
    (integral : IntegerColumn rows colIdx) :
    aggMax rows colIdx = integerValue ext (integers rows colIdx).max? ∧
      aggMin rows colIdx = integerValue ext (integers rows colIdx).min? ∧
      Decimal.InInt64 (aggSumInt64 rows colIdx) ∧
      aggSumInt64 rows colIdx ≡ (integers rows colIdx).sum [ZMOD 2 ^ 64] ∧
      ∀ groups : List (List (Row ext)), groups.flatten.Perm rows →
        aggMax (groups.map fun group => [aggMax group colIdx]) 0 = aggMax rows colIdx ∧
        aggMin (groups.map fun group => [aggMin group colIdx]) 0 = aggMin rows colIdx ∧
        aggSumInt64
            (groups.map fun group => [(.int64 (aggSumInt64 group colIdx) : Value ext)]) 0 =
          aggSumInt64 rows colIdx := by
  have summed := aggSumInt64_of_integers integral
  refine ⟨aggMax_of_integers integral, aggMin_of_integers integral, ?_, ?_, ?_⟩
  · rw [summed]
    exact Decimal.inInt64_wrap64 _
  · rw [summed]
    exact Int.bmod_emod
  · intro groups split
    exact ⟨aggBest_of_parts integral split aggMax_of_integers max?_congr max?_present_map_max?,
      aggBest_of_parts integral split aggMin_of_integers min?_congr min?_present_map_min?,
      aggSumInt64_of_parts integral split⟩

/-- Two groups of rows, with a nil cell and a row that is too short, around an empty group. -/
def threeGroups : List (List (Row integralExternals)) :=
  [[[.int64 3], [.null]], [], [[], [.int64 (-5)]]]

theorem partial_aggregates_of_threeGroups :
    IntegerColumn threeGroups.flatten 0 ∧
      aggMax (threeGroups.map fun group => [aggMax group 0]) 0 = .int64 3 := by
  have integral : IntegerColumn threeGroups.flatten 0 := by
    simp [IntegerColumn, threeGroups]
  obtain ⟨greatest, _, _, _, parts⟩ :=
    partial_aggregates integralExternals threeGroups.flatten 0 integral
  refine ⟨integral, ?_⟩
  rw [(parts threeGroups (List.Perm.refl _)).1, greatest]
  rfl

end Aggregate
end VScale
