import VScale.Aggregate.Sorting

/-!
# The range of the quicksort

Beside the sort itself runs a record of the positions it touches: those it gives
to the comparison and those whose rows it exchanges.  With a comparison of row
contents, every call on a range of the slice stays in that range and returns.
-/

namespace VScale
namespace Aggregate

open Collections

variable (less : Array α → Nat → Nat → Option Bool)

/-- The positions that the loop of `partition` touches, in order. -/
def partitionTouches (rows : Array α) (i j hi : Nat) : List Nat :=
  if j < hi then
    match less rows j hi with
    | none => [j, hi]
    | some true =>
        match swap rows i j with
        | none => [j, hi, i, j]
        | some swapped => j :: hi :: i :: j :: partitionTouches swapped (i + 1) (j + 1) hi
    | some false => j :: hi :: partitionTouches rows i (j + 1) hi
  else
    [i, hi]
termination_by hi - j

/-- The positions that `qSort` touches, in order. -/
def qSortTouches (rows : Array α) (lo hi : Nat) : List Nat :=
  if ordered : lo < hi then
    partitionTouches less rows lo lo hi ++
      match finished : partition less rows lo hi with
      | none => []
      | some (split, p) =>
          qSortTouches split lo (p - 1) ++
            match qSort less split lo (p - 1) with
            | none => []
            | some left => qSortTouches left (p + 1) hi
  else
    []
termination_by hi - lo
decreasing_by
  · have bounds := partition_bounds less ordered finished
    omega
  · have bounds := partition_bounds less ordered finished
    omega

/-- All positions lie between two others. -/
def StaysWithin (touched : List Nat) (lo hi : Nat) : Prop :=
  ∀ k ∈ touched, lo ≤ k ∧ k ≤ hi

theorem staysWithin_nil (lo hi : Nat) : StaysWithin [] lo hi :=
  nofun

theorem StaysWithin.cons
    {k lo hi : Nat}
    {touched : List Nat}
    (above : lo ≤ k)
    (below : k ≤ hi)
    (within : StaysWithin touched lo hi) :
    StaysWithin (k :: touched) lo hi :=
  List.forall_mem_cons.mpr ⟨⟨above, below⟩, within⟩

variable {lo hi : Nat}

theorem StaysWithin.append
    {first second : List Nat}
    (here : StaysWithin first lo hi)
    (there : StaysWithin second lo hi) :
    StaysWithin (first ++ second) lo hi :=
  List.forall_mem_append.mpr ⟨here, there⟩

theorem StaysWithin.widen
    {touched : List Nat}
    {low high : Nat}
    (within : StaysWithin touched lo hi)
    (down : low ≤ lo)
    (up : hi ≤ high) :
    StaysWithin touched low high := by
  intro k inside
  have bounds := within k inside
  omega

variable {rows : Array α}

theorem partitionTouches_within
    {i j : Nat}
    (started : lo ≤ i)
    (ordered : i ≤ j)
    (within : j ≤ hi) :
    StaysWithin (partitionTouches less rows i j hi) lo hi := by
  have atLast : StaysWithin [hi] lo hi := (staysWithin_nil lo hi).cons (by omega) (Nat.le_refl hi)
  induction rows, i, j using partitionTouches.induct less hi with
  | case1 rows i j inside failed =>
      rw [partitionTouches, if_pos inside, failed]
      exact atLast.cons (by omega) within
  | case2 rows i j inside smaller failed =>
      rw [partitionTouches, if_pos inside, smaller]
      simp only [failed]
      have exchanged : StaysWithin [i, j] lo hi :=
        ((staysWithin_nil lo hi).cons (by omega) within).cons started (by omega)
      exact (exchanged.cons (by omega) (Nat.le_refl hi)).cons (by omega) within
  | case3 rows i j inside smaller swapped moved ih =>
      rw [partitionTouches, if_pos inside, smaller]
      simp only [moved]
      have later := ih (by omega) (by omega) (by omega)
      have exchanged := (later.cons (by omega) within).cons started (by omega)
      exact (exchanged.cons (by omega) (Nat.le_refl hi)).cons (by omega) within
  | case4 rows i j inside larger ih =>
      rw [partitionTouches, if_pos inside, larger]
      have later := ih started (by omega) (by omega)
      exact (later.cons (by omega) (Nat.le_refl hi)).cons (by omega) within
  | case5 rows i j outside =>
      rw [partitionTouches, if_neg outside]
      exact atLast.cons started (by omega)

/-- A range of at least two elements is partitioned and both parts are sorted. -/
theorem qSortTouches_of_lt (ordered : lo < hi) :
    qSortTouches less rows lo hi =
      partitionTouches less rows lo lo hi ++
        (partition less rows lo hi).elim [] fun parted =>
          qSortTouches less parted.1 lo (parted.2 - 1) ++
            (qSort less parted.1 lo (parted.2 - 1)).elim [] fun left =>
              qSortTouches less left (parted.2 + 1) hi := by
  rw [qSortTouches, dif_pos ordered]
  congr 1
  split
  · rename_i failed
    rw [failed]
    rfl
  · rename_i split p parted
    rw [parted]
    simp only [Option.elim_some]
    congr 1
    split
    · rename_i failed
      rw [failed]
      rfl
    · rename_i left sorted
      rw [sorted]
      rfl

theorem qSortTouches_within
    (rows : Array α)
    (lo hi : Nat) :
    StaysWithin (qSortTouches less rows lo hi) lo hi := by
  induction rows, lo, hi using qSort.induct less with
  | case1 rows lo hi ordered failed =>
      rw [qSortTouches_of_lt less ordered, failed]
      exact (partitionTouches_within less (Nat.le_refl lo) (Nat.le_refl lo)
        (Nat.le_of_lt ordered)).append (staysWithin_nil lo hi)
  | case2 rows lo hi ordered split p parted failed leftHypothesis =>
      have bounds := partition_bounds less ordered parted
      rw [qSortTouches_of_lt less ordered, parted]
      simp only [Option.elim_some, failed]
      exact (partitionTouches_within less (Nat.le_refl lo) (Nat.le_refl lo)
        (Nat.le_of_lt ordered)).append
          ((leftHypothesis.widen (Nat.le_refl lo) (by omega)).append (staysWithin_nil lo hi))
  | case3 rows lo hi ordered split p parted left sorted leftHypothesis rightHypothesis =>
      have bounds := partition_bounds less ordered parted
      rw [qSortTouches_of_lt less ordered, parted]
      simp only [Option.elim_some, sorted]
      exact (partitionTouches_within less (Nat.le_refl lo) (Nat.le_refl lo)
        (Nat.le_of_lt ordered)).append
          ((leftHypothesis.widen (Nat.le_refl lo) (by omega)).append
            (rightHypothesis.widen (by omega) (Nat.le_refl hi)))
  | case4 rows lo hi disordered =>
      rw [qSortTouches, dif_neg disordered]
      exact staysWithin_nil lo hi

/-- The comparison by a relation on contents, read through two positions of the slice. -/
def contentLess (before : α → α → Bool) (rows : Array α) (i j : Nat) : Option Bool :=
  match rows[i]?, rows[j]? with
  | some first, some second => some (before first second)
  | _, _ => none

/-- By any relation on row contents, the sort of a range of the slice returns, touches no
position outside the range, leaves the rows outside it as they were and rearranges the
slice; by a strict weak order it sorts the range. -/
theorem qSort_of_relation
    (before : α → α → Bool)
    (rows : Array α)
    (lo hi : Nat)
    (inRange : lo < hi → hi < rows.size) :
    ∃ result, qSort (contentLess before) rows lo hi = some result ∧
      StaysWithin (qSortTouches (contentLess before) rows lo hi) lo hi ∧
      (∀ k, k < lo ∨ hi < k → result[k]? = rows[k]?) ∧
      result.Perm rows ∧
      (StrictWeakOn (fun first second => before first second = true) {row | row ∈ rows} →
        SortedBetween before result lo hi) := by
  have reads : Reads (contentLess before) before rows := by
    intro other _ i j first second foundFirst foundSecond
    rw [contentLess, foundFirst, foundSecond]
  obtain ⟨result, finished⟩ :=
    qSort_returns (contentLess before) (reads.comparable (contentLess before)) inRange
  refine ⟨result, finished, qSortTouches_within (contentLess before) rows lo hi,
    (qSort_movedWithin (contentLess before) finished).outside,
    qSort_perm (contentLess before) finished, ?_⟩
  intro order
  exact qSort_sorts (contentLess before) reads order inRange finished

theorem qSort_of_relation_middle :
    ∃ result, qSort (contentLess fun first second : Nat => decide (first < second))
        #[9, 3, 1, 2, 0] 1 3 = some result ∧
      StaysWithin (qSortTouches (contentLess fun first second : Nat => decide (first < second))
        #[9, 3, 1, 2, 0] 1 3) 1 3 ∧
      (∀ k, k < 1 ∨ 3 < k → result[k]? = #[9, 3, 1, 2, 0][k]?) ∧
      result.Perm #[9, 3, 1, 2, 0] ∧
      SortedBetween (fun first second : Nat => decide (first < second)) result 1 3 := by
  obtain ⟨result, finished, touched, outside, rearranged, sorted⟩ :=
    qSort_of_relation (fun first second : Nat => decide (first < second)) #[9, 3, 1, 2, 0] 1 3
      (fun _ => by decide)
  refine ⟨result, finished, touched, outside, rearranged, sorted ?_⟩
  constructor
  all_goals
    intros
    simp_all only [Incomparable, decide_eq_true_eq]
    omega

end Aggregate
end VScale
