import Mathlib.Data.Finset.Card
import Mathlib.Data.Finset.Image
import VScale.Aggregate.Fidelity
import VScale.Aggregate.Slices

/-!
# How many rows a merge returns

LIMIT and OFFSET are read from integer literals and clamped to 64 bits.  A merge
that returns at all cuts its rows to the requested window, unless start and
length of the window overflow together.
-/

namespace VScale
namespace Aggregate

open Collections Tree

variable {ext : Externals}

/-- The size of the window that LIMIT and OFFSET cut from `n` rows. -/
def windowSize (limit offset : Option Nat) (n : Nat) : Nat :=
  match limit with
  | none => n - offset.getD 0
  | some most => min most (n - offset.getD 0)

/-- An absent clause, or one with an integer literal. -/
def LiteralClause (expr : Option Expr) (value : Option Nat) : Prop :=
  match expr, value with
  | none, none => True
  | some (.numVal text false), some number => Decimal.scanInt text = some (number : Int)
  | _, _ => False

/-- The 64-bit integer a literal is read as. -/
def clamp (number : Nat) : Int :=
  min Decimal.maxInt64 number

/-- The limit of a plan. -/
def limitOf (limit : Option Nat) : Int :=
  (limit.map clamp).getD (-1)

theorem evalIntExpr_literal
    {text : String}
    {number : Nat}
    (scanned : Decimal.scanInt text = some (number : Int)) :
    evalIntExpr (.numVal text) = clamp number := by
  rw [evalIntExpr, Decimal.atoi_of_scanInt scanned, clamp]
  unfold Decimal.minInt64 Decimal.maxInt64
  omega

variable {limit offset : Option Nat} {sel : Select} {plan : QueryPlan}

/-- A literal clause is read as its number. -/
theorem map_evalIntExpr_literal
    {expr : Option Expr}
    {value : Option Nat}
    (literal : LiteralClause expr value) :
    expr.map evalIntExpr = value.map clamp := by
  unfold LiteralClause at literal
  split at literal
  · rfl
  · exact congrArg some (evalIntExpr_literal literal)
  · exact literal.elim

/-- The end of the window does not overflow. -/
def EndFits (limit offset : Option Nat) (n : Nat) : Prop :=
  ∀ most, limit = some most → (min n (offset.getD 0) : Nat) + clamp most ≤ Decimal.maxInt64

instance (limit offset : Option Nat) (n : Nat) : Decidable (EndFits limit offset n) :=
  match limit with
  | none => .isTrue (fun _ => nofun)
  | some most =>
      decidable_of_iff ((min n (offset.getD 0) : Nat) + clamp most ≤ Decimal.maxInt64)
        ⟨fun fits other same => by injection same with same; rw [← same]; exact fits,
          fun fits => fits most rfl⟩

theorem clamp_nonneg (number : Nat) : 0 ≤ clamp number := by
  unfold clamp Decimal.maxInt64
  omega

theorem clamp_le (number : Nat) : clamp number ≤ Decimal.maxInt64 :=
  Int.min_le_left _ _

/-- Rows there are no more of than 64 bits can count are skipped alike. -/
theorem min_clamp
    {size : Nat}
    (bounded : (size : Int) ≤ Decimal.maxInt64)
    (skipped : Nat) :
    min size (clamp skipped).toNat = min size skipped := by
  unfold clamp
  omega

theorem applyLimitOffset_unlimited
    (rows : List α)
    (skipped : Nat)
    (bounded : (rows.length : Int) ≤ Decimal.maxInt64) :
    ∃ window, applyLimitOffset rows (clamp skipped) (-1) = .ok window ∧
      window.length = rows.length - skipped := by
  refine ⟨_, applyLimitOffset_of_unlimited rows (clamp_nonneg skipped) (by decide), ?_⟩
  have same := min_clamp bounded skipped
  rw [slice, if_neg (by decide), List.length_drop]
  omega

theorem applyLimitOffset_limited
    (rows : List α)
    (skipped most : Nat)
    (bounded : (rows.length : Int) ≤ Decimal.maxInt64) :
    (∃ window, applyLimitOffset rows (clamp skipped) (clamp most) = .ok window ∧
        window.length = min most (rows.length - skipped)) ∧
        (min rows.length skipped : Nat) + clamp most ≤ Decimal.maxInt64 ∨
      applyLimitOffset rows (clamp skipped) (clamp most) = .error .crash ∧
        Decimal.maxInt64 < (min rows.length skipped : Nat) + clamp most := by
  have same := min_clamp bounded skipped
  rw [← same]
  rcases Int.lt_or_le Decimal.maxInt64
      ((min rows.length (clamp skipped).toNat : Nat) + clamp most) with past | fits
  · right
    exact ⟨applyLimitOffset_of_overflow rows (clamp_nonneg skipped) (clamp_le skipped)
      (clamp_nonneg most) (clamp_le most) past, past⟩
  · left
    refine ⟨⟨_, applyLimitOffset_of_fits rows (clamp_nonneg skipped) (clamp_nonneg most) fits, ?_⟩,
      fits⟩
    have most_eq := min_clamp bounded most
    rw [length_slice_of_limited (clamp_nonneg most)]
    omega

/-- A plan whose window is given by the clauses. -/
structure WindowPlan (plan : QueryPlan) (limit offset : Option Nat) : Prop where
  limit_eq : plan.limit = limitOf limit
  offset_eq : plan.offset = clamp (offset.getD 0)

/-- A SELECT with literal LIMIT and OFFSET has the plan of its window. -/
theorem windowPlan_planOfClause
    (clause : SelectClause)
    (limited : LiteralClause (sel.limit.bind Limit.count) limit)
    (shifted : LiteralClause (sel.limit.bind Limit.offset) offset) :
    WindowPlan (planOfClause ext sel clause) limit offset := by
  constructor
  · simp only [planOfClause, limitOf, map_evalIntExpr_literal limited]
  · simp only [planOfClause, map_evalIntExpr_literal shifted]
    cases offset with
    | none | some => rfl

theorem exists_length_iff
    {result : Except Fault (List α)}
    {kept : List α}
    (returned : result = .ok kept)
    (size : Nat) :
    (∃ kept, result = .ok kept ∧ kept.length = size) ↔ kept.length = size := by
  rw [returned]
  constructor
  · rintro ⟨other, isOther, counted⟩
    injection isOther with isOther
    rw [isOther]
    exact counted
  · exact fun counted => ⟨kept, rfl, counted⟩

/-- The window step returns the window exactly when its end fits. -/
theorem windowStep_iff
    (window : WindowPlan plan limit offset)
    {rows : List α}
    (bounded : (rows.length : Int) ≤ Decimal.maxInt64)
    (size : Nat) :
    (∃ kept, windowStep plan rows = .ok kept ∧ kept.length = size) ↔
      EndFits limit offset rows.length ∧ windowSize limit offset rows.length = size := by
  unfold windowStep
  rw [window.limit_eq, window.offset_eq]
  cases limit with
  | none =>
      have fits : EndFits none offset rows.length := fun _ => nofun
      rw [and_iff_right fits]
      obtain ⟨kept, cut, counted⟩ :=
        applyLimitOffset_unlimited rows (offset.getD 0) bounded
      by_cases shifted : 0 < clamp (offset.getD 0)
      · rw [if_pos (Or.inr shifted), show limitOf none = -1 from rfl, exists_length_iff cut,
          counted]
        rfl
      · have none : offset.getD 0 = 0 := by
          unfold clamp Decimal.maxInt64 at shifted
          omega
        rw [if_neg (by rintro (given | given); exacts [absurd given (by decide), shifted given]),
          exists_length_iff rfl, windowSize, none]
        rfl
  | some most =>
      have given : 0 ≤ limitOf (some most) := by
        change 0 ≤ clamp most
        unfold clamp Decimal.maxInt64
        omega
      rw [if_pos (Or.inl given)]
      change (∃ kept, applyLimitOffset rows (clamp (offset.getD 0)) (clamp most) = .ok kept ∧ _) ↔ _
      rcases applyLimitOffset_limited rows (offset.getD 0) most bounded with
        ⟨⟨kept, cut, counted⟩, sum⟩ | ⟨crashed, past⟩
      · have fits : EndFits (some most) offset rows.length := by
          intro other same
          injection same with same
          rw [← same]
          exact sum
        rw [exists_length_iff cut, counted, and_iff_right fits]
        rfl
      · constructor
        · rintro ⟨kept, cut, _⟩
          rw [crashed] at cut
          cases cut
        · rintro ⟨fits, _⟩
          have := fits most rfl
          omega

/-- The text by which the gate recognises a received row. -/
def textKey (ext : Externals) (row : List String) : String :=
  rowKey (row.map (inferType ext))

theorem applyDistinctFrom_keys (rows : List (Row ext)) :
    ∀ seen : List String,
      ((applyDistinctFrom seen rows).map rowKey).Nodup ∧
        ((applyDistinctFrom seen rows).map rowKey).toFinset =
          (rows.map rowKey).toFinset \ seen.toFinset := by
  induction rows with
  | nil =>
      intro seen
      simp [applyDistinctFrom]
  | cons row rows ih =>
      intro seen
      unfold applyDistinctFrom
      by_cases old : rowKey row ∈ seen
      · rw [if_pos old]
        obtain ⟨distinct, keys⟩ := ih seen
        refine ⟨distinct, ?_⟩
        rw [keys, List.map_cons, List.toFinset_cons,
          Finset.insert_sdiff_of_mem _ (List.mem_toFinset.mpr old)]
      · rw [if_neg old]
        obtain ⟨distinct, keys⟩ := ih (rowKey row :: seen)
        have fresh : rowKey row ∉ (applyDistinctFrom (rowKey row :: seen) rows).map rowKey := by
          rw [← List.mem_toFinset, keys]
          simp
        refine ⟨List.nodup_cons.mpr ⟨fresh, distinct⟩, ?_⟩
        rw [List.map_cons, List.toFinset_cons, keys, List.map_cons, List.toFinset_cons,
          List.toFinset_cons, Finset.insert_sdiff_of_notMem _ (by simpa using old),
          Finset.sdiff_insert]
        ext key
        by_cases same : key = rowKey row
        · simp [same]
        · simp [same]

theorem applyDistinct_length (rows : List (Row ext)) :
    (applyDistinct rows).length = (rows.map rowKey).toFinset.card := by
  obtain ⟨distinct, keys⟩ := applyDistinctFrom_keys rows []
  rw [applyDistinct, ← List.length_map rowKey, ← List.toFinset_card_of_nodup distinct, keys]
  simp

/-- DISTINCT keeps one of the rows with each key. -/
theorem exists_kept
    (typed : α → Row ext)
    (all : List α) :
    ∃ kept : List α,
      kept.Sublist all ∧ applyDistinct (all.map typed) = kept.map typed ∧
        (kept.map fun item => rowKey (typed item)).Nodup ∧
        ∀ item ∈ all, ∃ other ∈ kept, rowKey (typed other) = rowKey (typed item) := by
  obtain ⟨kept, within, same⟩ :=
    List.sublist_map_iff.mp (applyDistinctFrom_sublist (all.map typed) [])
  obtain ⟨distinct, keys⟩ := applyDistinctFrom_keys (all.map typed) []
  rw [same, List.map_map] at distinct keys
  refine ⟨kept, within, same, distinct, ?_⟩
  intro item present
  have listed : rowKey (typed item) ∈ (kept.map (rowKey ∘ typed)).toFinset := by
    rw [keys]
    simp only [List.map_map, List.toFinset_nil, Finset.sdiff_empty, List.mem_toFinset]
    exact List.mem_map_of_mem present
  obtain ⟨other, inside, equal⟩ := List.mem_map.mp (List.mem_toFinset.mp listed)
  exact ⟨other, inside, equal⟩

/-- The number of received rows, distinct ones if the plan asks for them. -/
def rowCount (plan : QueryPlan) (received : List (List String)) : Nat :=
  if plan.distinct then received.toFinset.card else received.length

/-- The number of rows the gate tells apart. -/
def keptCount (ext : Externals) (plan : QueryPlan) (received : List (List String)) : Nat :=
  if plan.distinct then (received.map (textKey ext)).toFinset.card else received.length

theorem keptCount_le
    (ext : Externals)
    (plan : QueryPlan)
    (received : List (List String)) :
    keptCount ext plan received ≤ rowCount plan received := by
  unfold keptCount rowCount
  split
  · have keys : (received.map (textKey ext)).toFinset = received.toFinset.image (textKey ext) := by
      ext key
      simp
    rw [keys]
    exact Finset.card_image_le
  · exact Nat.le_refl _

theorem collectStep_length
    (plain : plan.hasAgg = false)
    (cols : List String)
    (received : List (List String)) :
    (collectStep plan cols (received.map fun row => row.map (inferType ext))).length =
      keptCount ext plan received := by
  simp only [collectStep, plain, Bool.false_eq_true, if_false, keptCount]
  split
  · rw [applyDistinct_length, List.map_map]
    rfl
  · exact List.length_map _

theorem windowSize_eq_iff
    (limit offset : Option Nat)
    {kept all : Nat}
    (fewer : kept ≤ all) :
    windowSize limit offset kept = windowSize limit offset all ↔
      kept = all ∨ all ≤ offset.getD 0 ∨
        ∃ most, limit = some most ∧ most ≤ kept - offset.getD 0 := by
  cases limit with
  | none =>
      simp only [windowSize, reduceCtorEq, false_and, exists_false, or_false]
      omega
  | some most =>
      simp only [windowSize, Option.some.injEq, exists_eq_left']
      omega

/-- There is nothing to sort, or the ORDER BY columns are found and the quicksort finds
the cells that it compares. -/
def Sorts (plan : QueryPlan) (cols : List String) (rows : List (Row ext)) : Prop :=
  0 < plan.orderBy.length ∧ 1 < (collectStep plan cols rows).length →
    ∃ keys, orderIndices ext (columnMap ext cols) plan.orderBy = .ok keys ∧
      (quickSort (indexLess keys) (collectStep plan cols rows).toArray).isSome = true

section Sorts

variable {cols : List String} {rows : List (Row ext)} {keys : List (Nat × Direction)}

theorem sorts_iff_returns :
    Sorts plan cols rows ↔
      ∃ sorted, orderStep plan cols (collectStep plan cols rows) = .ok sorted := by
  unfold Sorts orderStep sortRows
  split
  · rename_i several
    cases orderIndices ext (columnMap ext cols) plan.orderBy with
    | error fault => simp [several]
    | ok keys =>
        cases sorted : quickSort (indexLess keys) (collectStep plan cols rows).toArray with
        | none | some => simp [several, sorted]
  · rename_i few
    exact iff_of_true (fun several => absurd several few) ⟨_, rfl⟩

theorem lookup_columnMap_lt
    {name : String}
    {index : Nat}
    (found : (columnMap ext cols).lookup name = some index) : index < cols.length := by
  suffices bounded : ∀ name index, (columnMap ext cols).lookup name = some index →
      index < cols.length from bounded name index found
  refine List.foldlRecOn (motive := fun colMap => ∀ name index,
    AList.lookup name colMap = some index → index < cols.length) _ _ ?_ ?_
  · intro name index found
    rw [AList.lookup_empty] at found
    cases found
  · intro colMap bounded entry listed name index found
    by_cases same : name = ext.toLower entry.1
    · subst same
      rw [AList.lookup_insert, Option.some.injEq] at found
      rw [← found]
      exact List.snd_lt_of_mem_zipIdx listed
    · rw [AList.lookup_insert_ne same] at found
      exact bounded name index found

theorem orderIndices_lt
    {orderBy : List OrderColumn}
    (located : orderIndices ext (columnMap ext cols) orderBy = .ok keys) :
    ∀ key ∈ keys, key.1 < cols.length := by
  induction orderBy generalizing keys with
  | nil =>
      cases located
      exact List.forall_mem_nil _
  | cons column rest ih =>
      unfold orderIndices orderIndex at located
      split at located
      · cases located
      · rename_i index position
        split at located
        · cases located
        · rename_i others known
          cases located
          refine List.forall_mem_cons.mpr ⟨?_, ih known⟩
          split at position
          · rename_i found
            cases position
            exact lookup_columnMap_lt found
          · split at position
            · rename_i found
              cases position
              exact lookup_columnMap_lt found
            · cases position

theorem rowLess_isSome
    {left right : Row ext}
    (inside : ∀ key ∈ keys, key.1 < left.length ∧ key.1 < right.length) :
    (rowLess left right keys).isSome = true := by
  induction keys with
  | nil => rfl
  | cons key keys ih =>
      obtain ⟨⟨inLeft, inRight⟩, later⟩ := List.forall_mem_cons.mp inside
      simp only [rowLess, List.getElem?_eq_getElem inLeft, List.getElem?_eq_getElem inRight]
      split
      · split
        · rfl
        · rfl
      · exact ih later

/-- Rows as wide as the result are sorted exactly when the ORDER BY columns are found. -/
theorem sorts_iff_sortable (wide : ∀ row ∈ collectStep plan cols rows, cols.length ≤ row.length) :
    Sorts plan cols rows ↔
      (0 < plan.orderBy.length ∧ 1 < (collectStep plan cols rows).length →
        plan.Sortable ext cols) := by
  refine imp_congr_right fun _ => ?_
  constructor
  · rintro ⟨keys, located, _⟩
    exact found_of_orderIndices located
  · intro sortable
    obtain ⟨keys, located⟩ := orderIndices_of_found sortable
    have comparable : Comparable (indexLess keys) (collectStep plan cols rows).toArray := by
      intro other moved i j first second
      have inside : ∀ row ∈ other, ∀ key ∈ keys, key.1 < row.length := fun row listed key used =>
        (orderIndices_lt located key used).trans_le
          (wide row (List.mem_toArray.mp (moved.mem_iff.mp listed)))
      simp only [indexLess, Array.getElem?_eq_getElem first, Array.getElem?_eq_getElem second]
      exact rowLess_isSome fun key used =>
        ⟨inside _ (Array.getElem_mem first) key used, inside _ (Array.getElem_mem second) key used⟩
    obtain ⟨sorted, returned⟩ := quickSort_returns (indexLess keys) comparable
    exact ⟨keys, located, Option.isSome_iff_exists.mpr ⟨sorted, returned⟩⟩

end Sorts

/-- A merge returns a window of the rows it tells apart exactly when its sort
returns and the end of the window fits. -/
theorem mergeRows_iff
    (window : WindowPlan plan limit offset)
    {cols : List String}
    {rows : List (Row ext)}
    (bounded : ((collectStep plan cols rows).length : Int) ≤ Decimal.maxInt64)
    (size : Nat) :
    (∃ merged, mergeRows plan cols rows = .ok merged ∧ merged.length = size) ↔
      Sorts plan cols rows ∧ EndFits limit offset (collectStep plan cols rows).length ∧
        windowSize limit offset (collectStep plan cols rows).length = size := by
  rw [sorts_iff_returns]
  unfold mergeRows
  cases ordered : orderStep plan cols (collectStep plan cols rows) with
  | error fault =>
      constructor
      · rintro ⟨merged, finished, _⟩
        cases finished
      · rintro ⟨⟨sorted, finished⟩, _⟩
        cases finished
  | ok sorted =>
      have size_eq := (orderStep_perm ordered).length_eq
      have step := windowStep_iff window (size_eq ▸ bounded) size
      rw [size_eq] at step
      simp only
      rw [step]
      exact (and_iff_right ⟨sorted, rfl⟩).symm

/-- The response a gate makes of collected results. -/
def conclude
    (ext : Externals)
    (plan : QueryPlan)
    (results : List QueryResult) :
    Except Fault QueryResponse :=
  if plan.needsMerge then mergeScatterResponses ext (some plan) { results := results }
  else .ok { results := results }

/-- When a merge runs, its sort returns, the end of the window fits and the
window does not depend on rows the gate fails to tell apart.  When none runs,
there is no row to skip. -/
def ReappliesClauses
    (ext : Externals)
    (plan : QueryPlan)
    (results : List QueryResult)
    (limit offset : Option Nat) : Prop :=
  let received := allRows { results := results }
  if plan.needsMerge then
    Sorts plan (flattenResults ext { results := results }).2
        (flattenResults ext { results := results }).1 ∧
      EndFits limit offset (keptCount ext plan received) ∧
      (keptCount ext plan received = rowCount plan received ∨
        rowCount plan received ≤ offset.getD 0 ∨
        ∃ most, limit = some most ∧ most ≤ keptCount ext plan received - offset.getD 0)
  else
    offset.getD 0 = 0 ∨ received.length = 0

theorem mergeScatterResponses_iff
    (plan : QueryPlan)
    (results : List QueryResult)
    (size : Nat) :
    (∃ resp, mergeScatterResponses ext (some plan) { results := results } = .ok resp ∧
        (allRows resp).length = size) ↔
      ∃ merged, mergeRows plan (flattenResults ext { results := results }).2
          (flattenResults ext { results := results }).1 = .ok merged ∧ merged.length = size := by
  constructor
  · rintro ⟨resp, finished, counted⟩
    obtain ⟨rows, ran, printed⟩ := mergeScatterResponses_ok finished
    refine ⟨rows, ran, ?_⟩
    rw [← counted, printed, List.length_map]
  · rintro ⟨merged, ran, counted⟩
    unfold mergeScatterResponses
    simp only [Option.getD_some, ran]
    refine ⟨_, rfl, ?_⟩
    simp [allRows, counted]

/-- The response has the requested number of rows exactly when all clauses are
applied again. -/
theorem conclude_iff
    (plain : plan.hasAgg = false)
    (window : WindowPlan plan limit offset)
    {results : List QueryResult}
    (bounded : ((allRows { results := results }).length : Int) ≤ Decimal.maxInt64) :
    (∃ resp, conclude ext plan results = .ok resp ∧
        (allRows resp).length =
          windowSize limit offset (rowCount plan (allRows { results := results }))) ↔
      ReappliesClauses ext plan results limit offset := by
  unfold conclude ReappliesClauses
  by_cases merges : plan.needsMerge = true
  · simp only [merges, if_true]
    have typed : (flattenResults ext { results := results }).1 =
        (allRows { results := results }).map fun row => row.map (inferType ext) :=
      flattenResults_rows { results := results }
    have counted : (collectStep plan (flattenResults ext { results := results }).2
        (flattenResults ext { results := results }).1).length =
          keptCount ext plan (allRows { results := results }) := by
      rw [typed]
      exact collectStep_length plain _ _
    have short : ((collectStep plan (flattenResults ext { results := results }).2
        (flattenResults ext { results := results }).1).length : Int) ≤ Decimal.maxInt64 := by
      have fewer := (collectStep_sublist (flattenResults ext { results := results }).2
        (flattenResults ext { results := results }).1 plain).length_le
      rw [typed, List.length_map] at fewer
      rw [typed]
      omega
    rw [mergeScatterResponses_iff, mergeRows_iff window short, counted,
      windowSize_eq_iff limit offset (keptCount_le ext plan _)]
  · have unmerged : plan.needsMerge = false := by simpa using merges
    have clauses : plan.distinct = false ∧ plan.limit < 0 := by
      simp only [QueryPlan.needsMerge, Bool.or_eq_false_iff, decide_eq_false_iff_not] at unmerged
      exact ⟨unmerged.1.1.2, by omega⟩
    have unlimited : limit = none := by
      cases limit with
      | none => rfl
      | some most =>
          have given := clauses.2
          rw [window.limit_eq] at given
          change clamp most < 0 at given
          unfold clamp Decimal.maxInt64 at given
          omega
    simp only [unmerged, Bool.false_eq_true, if_false, unlimited, windowSize, rowCount, clauses.1]
    constructor
    · rintro ⟨resp, same, sized⟩
      injection same with same
      rw [← same] at sized
      omega
    · intro none
      exact ⟨_, rfl, by omega⟩

end Aggregate
end VScale
