import VScale.Aggregate.QuickSort
import VScale.Collections.StrictWeak

/-!
# The quicksort sorts

A partition rearranges one range of positions and leaves the others alone; it
puts what comes before the pivot in front of it and everything else behind it.
Sorting both parts then sorts the range, whenever the comparison answers by a
strict weak order of the elements.
-/

namespace VScale
namespace Aggregate

open Collections

/-- The elements from `lo` to `hi` are rearranged and all others are left alone. -/
structure MovedWithin (rows result : Array α) (lo hi : Nat) : Prop where
  outside : ∀ k, k < lo ∨ hi < k → result[k]? = rows[k]?
  inside : ∀ k row, lo ≤ k → k ≤ hi → result[k]? = some row →
    ∃ m, lo ≤ m ∧ m ≤ hi ∧ rows[m]? = some row

namespace MovedWithin

variable {rows middle result : Array α} {lo hi : Nat}

theorem refl (rows : Array α) (lo hi : Nat) : MovedWithin rows rows lo hi where
  outside := fun _ _ => rfl
  inside := fun k _ above below found => ⟨k, above, below, found⟩

theorem trans
    (first : MovedWithin rows middle lo hi)
    (second : MovedWithin middle result lo hi) :
    MovedWithin rows result lo hi where
  outside := fun k apart => (second.outside k apart).trans (first.outside k apart)
  inside := by
    intro k row above below found
    obtain ⟨m, above, below, found⟩ := second.inside k row above below found
    exact first.inside m row above below found

/-- What is rearranged within a range is rearranged within a wider one. -/
theorem widen
    {low high : Nat}
    (moved : MovedWithin rows result lo hi)
    (down : low ≤ lo)
    (up : hi ≤ high) : MovedWithin rows result low high where
  outside := fun k apart => moved.outside k (by omega)
  inside := by
    intro k row above below found
    by_cases within : lo ≤ k ∧ k ≤ hi
    · obtain ⟨m, above, below, found⟩ := moved.inside k row within.1 within.2 found
      exact ⟨m, by omega, by omega, found⟩
    · rw [moved.outside k (by omega)] at found
      exact ⟨k, above, below, found⟩

end MovedWithin

/-- Every element from `lo` up to, but not including, `hi` has the property. -/
def AllBetween (rows : Array α) (lo hi : Nat) (property : α → Prop) : Prop :=
  ∀ k row, lo ≤ k → k < hi → rows[k]? = some row → property row

variable {property : α → Prop} {before : α → α → Bool} {swapped : Array α}

variable {lo hi : Nat} {rows result : Array α} {middle : α}

theorem AllBetween.of_moved
    (all : AllBetween rows lo (hi + 1) property)
    (moved : MovedWithin rows result lo hi) :
    AllBetween result lo (hi + 1) property := by
  intro k row above below found
  obtain ⟨m, above, below, found⟩ := moved.inside k row above (Nat.le_of_lt_succ below) found
  exact all m row above (Nat.lt_succ_of_le below) found

theorem AllBetween.congr
    (all : AllBetween rows lo hi property)
    (same : ∀ k, lo ≤ k → k < hi → result[k]? = rows[k]?) :
    AllBetween result lo hi property := by
  intro k row above below found
  rw [same k above below] at found
  exact all k row above below found

/-- No element from `lo` to `hi` comes before one in front of it. -/
def SortedBetween (before : α → α → Bool) (rows : Array α) (lo hi : Nat) : Prop :=
  ∀ k m first second, lo ≤ k → k < m → m ≤ hi →
    rows[k]? = some first → rows[m]? = some second → before second first = false

theorem SortedBetween.congr
    (sorted : SortedBetween before rows lo hi)
    (same : ∀ k, lo ≤ k → k ≤ hi → result[k]? = rows[k]?) :
    SortedBetween before result lo hi := by
  intro k m first second above ordered below foundFirst foundSecond
  rw [same k above (by omega)] at foundFirst
  rw [same m (by omega) below] at foundSecond
  exact sorted k m first second above ordered below foundFirst foundSecond

variable {i j pivot p : Nat}

theorem getElem?_of_swap
    (moved : swap rows i j = some swapped)
    (k : Nat) :
    swapped[k]? = if k = j then rows[i]? else if k = i then rows[j]? else rows[k]? := by
  unfold swap at moved
  split at moved
  · rename_i bounds
    injection moved with same
    rw [← same, Array.getElem?_swap, Array.getElem?_eq_getElem bounds.1,
      Array.getElem?_eq_getElem bounds.2]
    simp only [eq_comm]
  · cases moved

/-- A swap moves rows inside its range only. -/
theorem swap_movedWithin
    (first : lo ≤ i ∧ i ≤ hi)
    (second : lo ≤ j ∧ j ≤ hi)
    (moved : swap rows i j = some swapped) : MovedWithin rows swapped lo hi where
  outside := by
    intro k apart
    rw [getElem?_of_swap moved, if_neg (by omega), if_neg (by omega)]
  inside := by
    intro k row above below found
    rw [getElem?_of_swap moved] at found
    split at found
    · exact ⟨i, first.1, first.2, found⟩
    · split at found
      · exact ⟨j, second.1, second.2, found⟩
      · exact ⟨k, above, below, found⟩

variable (less : Array α → Nat → Nat → Option Bool)

/-- A partition moves rows inside its range only. -/
theorem partitionLoop_movedWithin
    (started : lo ≤ i)
    (ordered : i ≤ j)
    (within : j ≤ hi)
    (finished : partitionLoop less rows i j hi = some (result, pivot)) :
    MovedWithin rows result lo hi := by
  replace finished := partitions_of_finished less finished
  induction finished with
  | @smaller rows swapped i j inside _ moved _ ih =>
      have exchanged : MovedWithin rows swapped lo hi :=
        swap_movedWithin (by omega) (by omega) moved
      exact exchanged.trans (ih (by omega) (by omega) (by omega))
  | larger inside _ _ ih =>
      exact ih started (by omega) (by omega)
  | finish outside moved => exact swap_movedWithin (by omega) (by omega) moved

/-- The comparison answers by a relation between the elements at the two positions,
in every rearrangement of the rows. -/
def Reads (before : α → α → Bool) (rows : Array α) : Prop :=
  ∀ other : Array α, other.Perm rows → ∀ (i j : Nat) (first second : α),
    other[i]? = some first → other[j]? = some second → less other i j = some (before first second)

theorem Reads.of_perm
    {other : Array α}
    (reads : Reads less before rows)
    (moved : other.Perm rows) : Reads less before other :=
  fun third rearranged => reads third (rearranged.trans moved)

theorem Reads.comparable (reads : Reads less before rows) : Comparable less rows := by
  intro other moved i j first second
  rw [reads other moved i j _ _ (Array.getElem?_eq_getElem first)
    (Array.getElem?_eq_getElem second)]
  rfl

/-- The pivot stands between what comes before it and what does not. -/
structure Parted
    (before : α → α → Bool)
    (rows : Array α)
    (lo pivot hi : Nat)
    (middle : α) :
    Prop where
  here : rows[pivot]? = some middle
  front : AllBetween rows lo pivot fun row => before row middle = true
  behind : AllBetween rows (pivot + 1) (hi + 1) fun row => before row middle = false

/-- The invariant of the loop: up to `i` come the elements found to come before the last
one, and from there up to `j` those found not to. -/
theorem partitionLoop_parts
    (reads : Reads less before rows)
    (ordered : i ≤ j)
    (within : j ≤ hi)
    (last : rows[hi]? = some middle)
    (front : AllBetween rows lo i fun row => before row middle = true)
    (behind : AllBetween rows i j fun row => before row middle = false)
    (finished : partitionLoop less rows i j hi = some (result, pivot)) :
    Parted before result lo pivot hi middle := by
  replace finished := partitions_of_finished less finished
  induction finished with
  | @smaller rows swapped i j inside answered moved _ ih =>
      refine ih (reads.of_perm less (swap_perm moved)) (by omega) (by omega)
        ?_ ?_ ?_
      · rw [getElem?_of_swap moved, if_neg (by omega), if_neg (by omega)]
        exact last
      · intro k row above below found
        rw [getElem?_of_swap moved] at found
        by_cases here : k = i
        · have foundHere : rows[j]? = some row := by
            split at found
            · rename_i same
              rwa [← same, here]
            · exact found
          have answer := reads rows (Array.Perm.refl rows) j hi row middle foundHere last
          rw [answered] at answer
          exact (Option.some.inj answer).symm
        · rw [if_neg (by omega), if_neg here] at found
          exact front k row above (by omega) found
      · intro k row above below found
        rw [getElem?_of_swap moved] at found
        by_cases there : k = j
        · rw [if_pos there] at found
          exact behind i row (Nat.le_refl i) (by omega) found
        · rw [if_neg there, if_neg (by omega)] at found
          exact behind k row (by omega) (by omega) found
  | @larger rows i j inside answered _ ih =>
      refine ih reads (by omega) (by omega) last front ?_
      intro k row above below found
      by_cases there : k = j
      · rw [there] at found
        have answer := reads rows (Array.Perm.refl rows) j hi row middle found last
        rw [answered] at answer
        exact (Option.some.inj answer).symm
      · exact behind k row above (by omega) found
  | @finish rows j outside moved =>
      have arrived : j = hi := by omega
      subst arrived
      constructor
      · rw [getElem?_of_swap moved]
        split
        · rename_i same
          rw [same]
          exact last
        · rw [if_pos rfl]
          exact last
      · intro k row above below found
        rw [getElem?_of_swap moved, if_neg (by omega), if_neg (by omega)] at found
        exact front k row above below found
      · intro k row above below found
        rw [getElem?_of_swap moved] at found
        split at found
        · exact behind pivot row (Nat.le_refl pivot) (by omega) found
        · rw [if_neg (by omega)] at found
          exact behind k row (by omega) (by omega) found

/-- A partition leaves smaller rows in front of the pivot. -/
theorem partition_parts
    (reads : Reads less before rows)
    (ordered : lo < hi)
    (inRange : hi < rows.size)
    (finished : partition less rows lo hi = some (result, pivot)) :
    ∃ middle, Parted before result lo pivot hi middle :=
  ⟨rows[hi], partitionLoop_parts less reads (Nat.le_refl lo) (Nat.le_of_lt ordered)
    (Array.getElem?_eq_getElem inRange) (fun _ _ _ _ => by omega) (fun _ _ _ _ => by omega)
    finished⟩

/-- A sort moves rows inside its range only. -/
theorem qSort_movedWithin (finished : qSort less rows lo hi = some result) :
    MovedWithin rows result lo hi := by
  replace finished := quicksorts_of_finished less finished
  induction finished with
  | @split rows parts left result lo p hi ordered parted _ _ _ _ front back =>
      have bounds := partition_bounds less ordered parted
      have divided : MovedWithin rows parts lo hi :=
        partitionLoop_movedWithin less (Nat.le_refl lo) (Nat.le_refl lo) (Nat.le_of_lt ordered)
          parted
      have leftMoved := front.widen (Nat.le_refl lo) (by omega : p - 1 ≤ hi)
      have rightMoved := back.widen (by omega : lo ≤ p + 1) (Nat.le_refl hi)
      exact (divided.trans leftMoved).trans rightMoved
  | done _ => exact MovedWithin.refl _ _ _

/-- Sorting what is in front of a position leaves it and everything behind it alone. -/
theorem qSort_in_front
    (finished : qSort less rows lo (p - 1) = some result)
    {k : Nat}
    (behind : p ≤ k) :
    result[k]? = rows[k]? := by
  cases p with
  | zero =>
      rw [qSort, dif_neg (Nat.not_lt_zero lo)] at finished
      rw [← Option.some.inj finished]
  | succ p => exact (qSort_movedWithin less finished).outside k (Or.inr behind)

theorem AllBetween.qSort_in_front
    (all : AllBetween rows lo p property)
    (finished : qSort less rows lo (p - 1) = some result) : AllBetween result lo p property := by
  cases p with
  | zero => exact fun k _ _ below => absurd below (Nat.not_lt_zero k)
  | succ p => exact all.of_moved (qSort_movedWithin less finished)

/-- A pivot with sorted parts around it is a sorted range. -/
theorem Parted.sorted
    (order : StrictWeakOn (fun first second => before first second = true) {row | row ∈ rows})
    (parted : Parted before rows lo pivot hi middle)
    (left : SortedBetween before rows lo (pivot - 1))
    (right : SortedBetween before rows (pivot + 1) hi) :
    SortedBetween before rows lo hi := by
  have listed : ∀ {k : Nat} {row : α}, rows[k]? = some row → row ∈ {row | row ∈ rows} :=
    fun found => Array.mem_of_getElem? found
  have behind : ∀ k row, lo ≤ k → k < pivot → rows[k]? = some row →
      ¬ before middle row = true :=
    fun k row above below found =>
      order.asymm row (listed found) middle (listed parted.here)
        (parted.front k row above below found)
  intro k m first second above ordered below foundFirst foundSecond
  rcases Nat.lt_trichotomy k pivot with front | here | back
  · have apart := behind k first above front foundFirst
    rcases Nat.lt_trichotomy m pivot with _ | same | past
    · exact left k m first second above ordered (by omega) foundFirst foundSecond
    · rw [same, parted.here] at foundSecond
      rw [← Option.some.inj foundSecond]
      exact Bool.eq_false_iff.mpr apart
    · have after := parted.behind m second past (by omega) foundSecond
      exact Bool.eq_false_iff.mpr
        (order.not_less_trans (listed foundFirst) (listed parted.here) (listed foundSecond)
          apart (Bool.eq_false_iff.mp after))
  · rw [here, parted.here] at foundFirst
    rw [← Option.some.inj foundFirst]
    exact parted.behind m second (by omega) (by omega) foundSecond
  · exact right k m first second back ordered below foundFirst foundSecond

section Reads

variable
  (reads : Reads less before rows)
  (order : StrictWeakOn (fun first second => before first second = true) {row | row ∈ rows})
include reads order

/-- A sort that returns has sorted its range. -/
theorem qSort_sorts
    (inRange : lo < hi → hi < rows.size)
    (finished : qSort less rows lo hi = some result) :
    SortedBetween before result lo hi := by
  replace finished := quicksorts_of_finished less finished
  induction finished with
  | @split rows parts left result lo p hi ordered parted sorted finished _ _ front back =>
      have bounds := partition_bounds less ordered parted
      have toSplit := partitionLoop_perm less parted
      have toLeft := (qSort_perm less sorted).trans toSplit
      have toResult := (qSort_perm less finished).trans toLeft
      have orderOf : ∀ {other : Array α}, other.Perm rows →
          StrictWeakOn (fun first second => before first second = true) {row | row ∈ other} :=
        fun moved => order.mono fun row present => moved.mem_iff.mp present
      have splitSize := toSplit.size_eq
      have leftSize := toLeft.size_eq
      have large := inRange ordered
      have leftSorted := front (reads.of_perm less toSplit) (orderOf toSplit)
        (fun _ => by omega)
      have rightSorted := back (reads.of_perm less toLeft) (orderOf toLeft)
        (fun _ => by omega)
      have rightMoved := qSort_movedWithin less finished
      have kept : ∀ k, k ≤ p → result[k]? = left[k]? :=
        fun k below => rightMoved.outside k (Or.inl (Nat.lt_succ_of_le below))
      obtain ⟨middle, divided⟩ := partition_parts less reads ordered large parted
      have partedResult : Parted before result lo p hi middle :=
        { here := by
            rw [kept p (Nat.le_refl p), qSort_in_front less sorted (Nat.le_refl p)]
            exact divided.here
          front := (divided.front.qSort_in_front less sorted).congr
            fun k _ below => kept k (Nat.le_of_lt below)
          behind := (divided.behind.congr fun k above _ =>
            qSort_in_front less sorted (Nat.le_of_succ_le above)).of_moved rightMoved }
      exact partedResult.sorted (orderOf toResult)
        (leftSorted.congr fun k _ below => kept k (by omega)) rightSorted
  | done disordered =>
      intro k m first second above ordered below
      omega

/-- The rows that a quicksort by a strict weak order returns are sorted. -/
theorem quickSort_sorts :
    ∃ result, quickSort less rows = some result ∧ result.Perm rows ∧
      result.toList.Pairwise fun first second => before second first = false := by
  obtain ⟨result, finished⟩ := quickSort_returns less (reads.comparable less)
  refine ⟨result, finished, quickSort_perm less finished, ?_⟩
  rw [List.pairwise_iff_getElem]
  intro k m inFirst inSecond ordered
  have sorted : SortedBetween before result 0 (rows.size - 1) := by
    unfold quickSort at finished
    split at finished
    · intro k m first second
      omega
    · exact qSort_sorts less reads order (fun _ => by omega) finished
  have size := (quickSort_perm less finished).size_eq
  rw [Array.length_toList] at inSecond
  exact sorted k m _ _ (Nat.zero_le k) ordered (by omega)
    (by rw [← Array.getElem?_toList]; exact List.getElem?_eq_getElem inFirst)
    (by rw [← Array.getElem?_toList]; exact List.getElem?_eq_getElem inSecond)

end Reads

end Aggregate
end VScale
