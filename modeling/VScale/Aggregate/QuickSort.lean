import Mathlib.Tactic.Common

/-!
# The hand-written quicksort

Rows are sorted in place.  The comparison receives two indices and reads the
slice that is being sorted; it fails when a row is too short, and a failure
anywhere aborts the sort.  `none` stands for the run-time panic.
-/

namespace VScale
namespace Aggregate

/-- Exchange two elements; an index out of range panics. -/
def swap (rows : Array α) (i j : Nat) : Option (Array α) :=
  if bounds : i < rows.size ∧ j < rows.size then
    some (rows.swap i j bounds.1 bounds.2)
  else
    none

variable (less : Array α → Nat → Nat → Option Bool)

/-- The loop of `partition`: elements before `i` are less than the last one. -/
def partitionLoop (rows : Array α) (i j hi : Nat) : Option (Array α × Nat) :=
  if j < hi then
    match less rows j hi with
    | none => none
    | some true =>
        match swap rows i j with
        | none => none
        | some swapped => partitionLoop swapped (i + 1) (j + 1) hi
    | some false => partitionLoop rows i (j + 1) hi
  else
    match swap rows i hi with
    | none => none
    | some swapped => some (swapped, i)
termination_by hi - j

/-- Move the elements less than the last one to the front and put the last one
behind them. -/
def partition (rows : Array α) (lo hi : Nat) : Option (Array α × Nat) :=
  partitionLoop less rows lo lo hi

variable {i j hi pivot lo : Nat}

variable {rows result : Array α}

/-- The runs of the loop that return. -/
inductive Partitions
    (hi : Nat)
    (result : Array α)
    (pivot : Nat) : Array α → Nat → Nat → Prop
  | smaller {rows swapped : Array α} {i j : Nat} (inside : j < hi)
      (answered : less rows j hi = some true) (moved : swap rows i j = some swapped)
      (later : Partitions hi result pivot swapped (i + 1) (j + 1)) :
      Partitions hi result pivot rows i j
  | larger {rows : Array α} {i j : Nat} (inside : j < hi)
      (answered : less rows j hi = some false)
      (later : Partitions hi result pivot rows i (j + 1)) : Partitions hi result pivot rows i j
  | finish {rows : Array α} {j : Nat} (outside : ¬ j < hi)
      (moved : swap rows pivot hi = some result) : Partitions hi result pivot rows pivot j

theorem partitions_of_finished
    {rows result : Array α}
    {i j hi pivot : Nat}
    (finished : partitionLoop less rows i j hi = some (result, pivot)) :
    Partitions less hi result pivot rows i j := by
  induction rows, i, j using partitionLoop.induct less hi with
  | case1 rows i j inside failed =>
      rw [partitionLoop, if_pos inside, failed] at finished
      cases finished
  | case2 rows i j inside smaller failed =>
      rw [partitionLoop, if_pos inside, smaller] at finished
      simp only [failed] at finished
      cases finished
  | case3 rows i j inside smaller swapped moved ih =>
      rw [partitionLoop, if_pos inside, smaller] at finished
      simp only [moved] at finished
      exact .smaller inside smaller moved (ih finished)
  | case4 rows i j inside larger ih =>
      rw [partitionLoop, if_pos inside, larger] at finished
      exact .larger inside larger (ih finished)
  | case5 rows i j outside failed =>
      rw [partitionLoop, if_neg outside, failed] at finished
      cases finished
  | case6 rows i j outside swapped moved =>
      rw [partitionLoop, if_neg outside, moved] at finished
      injection finished with pair
      obtain ⟨rfl, rfl⟩ := Prod.mk.inj pair
      exact .finish outside moved

/-- The pivot ends inside the range. -/
theorem partitionLoop_bounds
    (ordered : i ≤ j)
    (within : j ≤ hi)
    (finished : partitionLoop less rows i j hi = some (result, pivot)) :
    i ≤ pivot ∧ pivot ≤ hi := by
  replace finished := partitions_of_finished less finished
  induction finished with
  | smaller inside _ _ _ ih =>
      have bounds := ih (by omega) (by omega)
      omega
  | larger inside _ _ ih => exact ih (by omega) (by omega)
  | finish outside _ => omega

/-- The pivot of a nonempty range ends inside it. -/
theorem partition_bounds
    (ordered : lo < hi)
    (finished : partition less rows lo hi = some (result, pivot)) :
    lo ≤ pivot ∧ pivot ≤ hi :=
  partitionLoop_bounds less (Nat.le_refl lo) (Nat.le_of_lt ordered) finished

/-- Sort the elements from `lo` to `hi`.  The source passes `p - 1` as an upper
bound, which is below `lo` when the pivot is first; natural subtraction gives
the same empty range. -/
def qSort (rows : Array α) (lo hi : Nat) : Option (Array α) :=
  if ordered : lo < hi then
    match finished : partition less rows lo hi with
    | none => none
    | some (split, p) =>
        match qSort split lo (p - 1) with
        | none => none
        | some left => qSort left (p + 1) hi
  else
    some rows
termination_by hi - lo
decreasing_by
  · have bounds := partition_bounds less ordered finished
    omega
  · have bounds := partition_bounds less ordered finished
    omega

/-- A range of at least two elements is partitioned and both parts are sorted. -/
theorem qSort_of_lt (ordered : lo < hi) :
    qSort less rows lo hi =
      (partition less rows lo hi).bind fun parted =>
        (qSort less parted.1 lo (parted.2 - 1)).bind fun left =>
          qSort less left (parted.2 + 1) hi := by
  rw [qSort, dif_pos ordered]
  split
  · rename_i failed
    rw [failed]
    rfl
  · rename_i split p parted
    rw [parted]
    simp only [Option.bind_some]
    split
    · rename_i failed
      rw [failed]
      rfl
    · rename_i left sorted
      rw [sorted]
      rfl

/-- Sort all elements. -/
def quickSort (rows : Array α) : Option (Array α) :=
  if rows.size < 2 then some rows
  else qSort less rows 0 (rows.size - 1)

theorem swap_perm
    {swapped : Array α}
    (moved : swap rows i j = some swapped) :
    swapped.Perm rows := by
  unfold swap at moved
  split at moved
  · rename_i bounds
    injection moved with same
    rw [← same]
    exact Array.swap_perm bounds.1 bounds.2
  · cases moved

/-- A partition permutes the rows. -/
theorem partitionLoop_perm (finished : partitionLoop less rows i j hi = some (result, pivot)) :
    result.Perm rows := by
  replace finished := partitions_of_finished less finished
  induction finished with
  | smaller _ _ moved _ ih => exact ih.trans (swap_perm moved)
  | larger _ _ _ ih => exact ih
  | finish _ moved => exact swap_perm moved

/-- The runs of the sort that return. -/
inductive Quicksorts : Array α → Nat → Nat → Array α → Prop
  | split {rows parts left result : Array α} {lo p hi : Nat} (ordered : lo < hi)
      (parted : partition less rows lo hi = some (parts, p))
      (sorted : qSort less parts lo (p - 1) = some left)
      (finished : qSort less left (p + 1) hi = some result)
      (front : Quicksorts parts lo (p - 1) left) (back : Quicksorts left (p + 1) hi result) :
      Quicksorts rows lo hi result
  | done {rows : Array α} {lo hi : Nat} (disordered : ¬ lo < hi) : Quicksorts rows lo hi rows

theorem quicksorts_of_finished
    {rows result : Array α}
    {lo hi : Nat}
    (finished : qSort less rows lo hi = some result) : Quicksorts less rows lo hi result := by
  induction rows, lo, hi using qSort.induct less generalizing result with
  | case1 rows lo hi ordered failed =>
      rw [qSort_of_lt less ordered, failed] at finished
      cases finished
  | case2 rows lo hi ordered split p parted failed _ =>
      rw [qSort_of_lt less ordered, parted] at finished
      simp only [Option.bind_some, failed] at finished
      cases finished
  | case3 rows lo hi ordered split p parted left sorted leftHypothesis rightHypothesis =>
      rw [qSort_of_lt less ordered, parted] at finished
      simp only [Option.bind_some, sorted] at finished
      exact .split ordered parted sorted finished (leftHypothesis sorted)
        (rightHypothesis finished)
  | case4 rows lo hi disordered =>
      rw [qSort, dif_neg disordered] at finished
      injection finished with same
      rw [← same]
      exact .done disordered

/-- A sort permutes the rows. -/
theorem qSort_perm (finished : qSort less rows lo hi = some result) : result.Perm rows := by
  replace finished := quicksorts_of_finished less finished
  induction finished with
  | split _ parted _ _ _ _ front back =>
      exact back.trans (front.trans (partitionLoop_perm less parted))
  | done _ => exact Array.Perm.refl _

/-- The sorted rows are a permutation of the given ones. -/
theorem quickSort_perm (finished : quickSort less rows = some result) : result.Perm rows := by
  unfold quickSort at finished
  split at finished
  · injection finished with same
    rw [same]
  · exact qSort_perm less finished

/-- The comparison answers for all positions of every rearrangement. -/
def Comparable (rows : Array α) : Prop :=
  ∀ other : Array α, other.Perm rows →
    ∀ i j, i < other.size → j < other.size → (less other i j).isSome

theorem Comparable.of_perm
    {other : Array α}
    (comparable : Comparable less rows)
    (moved : other.Perm rows) :
    Comparable less other :=
  fun third rearranged => comparable third (rearranged.trans moved)

theorem swap_of_lt
    (rows : Array α)
    (first : i < rows.size)
    (second : j < rows.size) :
    ∃ swapped, swap rows i j = some swapped := by
  unfold swap
  rw [dif_pos ⟨first, second⟩]
  exact ⟨_, rfl⟩

/-- A partition of comparable rows returns. -/
theorem partitionLoop_returns
    (comparable : Comparable less rows)
    (ordered : i ≤ j)
    (within : j ≤ hi)
    (inRange : hi < rows.size) :
    ∃ result, partitionLoop less rows i j hi = some result := by
  induction rows, i, j using partitionLoop.induct less hi with
  | case1 rows i j inside failed =>
      have answered := comparable rows (Array.Perm.refl rows) j hi (by omega) inRange
      rw [failed] at answered
      cases answered
  | case2 rows i j inside smaller failed =>
      obtain ⟨swapped, moved⟩ := swap_of_lt rows (i := i) (j := j) (by omega) (by omega)
      rw [failed] at moved
      cases moved
  | case3 rows i j inside smaller swapped moved ih =>
      rw [partitionLoop, if_pos inside, smaller]
      simp only [moved]
      have rearranged := swap_perm moved
      exact ih (comparable.of_perm less rearranged) (by omega) (by omega)
        (rearranged.size_eq ▸ inRange)
  | case4 rows i j inside larger ih =>
      rw [partitionLoop, if_pos inside, larger]
      exact ih comparable (by omega) (by omega) inRange
  | case5 rows i j outside failed =>
      obtain ⟨swapped, moved⟩ := swap_of_lt rows (i := i) (j := hi) (by omega) inRange
      rw [failed] at moved
      cases moved
  | case6 rows i j outside swapped moved =>
      rw [partitionLoop, if_neg outside, moved]
      exact ⟨_, rfl⟩

/-- A sort of comparable rows returns. -/
theorem qSort_returns
    (comparable : Comparable less rows)
    (inRange : lo < hi → hi < rows.size) :
    ∃ result, qSort less rows lo hi = some result := by
  induction rows, lo, hi using qSort.induct less with
  | case1 rows lo hi ordered failed =>
      obtain ⟨result, parted⟩ := partitionLoop_returns less comparable (Nat.le_refl lo)
        (Nat.le_of_lt ordered) (inRange ordered)
      rw [partition, parted] at failed
      cases failed
  | case2 rows lo hi ordered split p parted failed leftHypothesis =>
      have bounds := partition_bounds less ordered parted
      have rearranged := partitionLoop_perm less parted
      have size := rearranged.size_eq
      obtain ⟨result, sorted⟩ := leftHypothesis (comparable.of_perm less rearranged) fun _ => by
        have := inRange ordered
        omega
      rw [failed] at sorted
      cases sorted
  | case3 rows lo hi ordered split p parted left sorted leftHypothesis rightHypothesis =>
      rw [qSort_of_lt less ordered, parted]
      simp only [Option.bind_some, sorted]
      have rearranged := (qSort_perm less sorted).trans (partitionLoop_perm less parted)
      have size := rearranged.size_eq
      apply rightHypothesis (comparable.of_perm less rearranged)
      intro _
      have := inRange ordered
      omega
  | case4 rows lo hi disordered =>
      rw [qSort, dif_neg disordered]
      exact ⟨rows, rfl⟩

/-- Rows that can all be compared are sorted without a panic. -/
theorem quickSort_returns (comparable : Comparable less rows) :
    ∃ result, quickSort less rows = some result := by
  unfold quickSort
  split
  · exact ⟨rows, rfl⟩
  · exact qSort_returns less comparable fun _ => by omega

end Aggregate
end VScale
