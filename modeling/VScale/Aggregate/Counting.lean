import Mathlib.Algebra.BigOperators.Group.Finset.Piecewise
import Mathlib.Algebra.Order.BigOperators.Group.List
import Mathlib.Algebra.Order.Group.Nat
import VScale.Aggregate.GroupMerge
import VScale.Aggregate.Recognition

/-!
# Counting over shards

Every shard answers a query of COUNT calls with one row, and the gate adds the
columns.  DISTINCT after SELECT first drops the answers that are equal to
another one, and DISTINCT inside a call is not looked at, so a value that
several shards have is counted in each of them.
-/

namespace VScale
namespace Aggregate

open Collections Tree

/-- A call of COUNT on rows or on the values of an expression. -/
inductive CountCall
  | star
  | column (distinct : Bool) (argument : Expr)

/-- The call as it is written. -/
def CountCall.expr (func : String) : CountCall → Expr
  | .star => .funcExpr func false [.other "*" []] false
  | .column distinct argument => .funcExpr func distinct [argument] false

/-- A select list item is the call. -/
def CountCall.Selects (ext : Externals) (call : CountCall) (selected : SelectExpr) : Prop :=
  ∃ func, selected.expr = call.expr func ∧ aggTypeOf (ext.toUpper func) = some .count

variable {ρ ν : Type} [DecidableEq ν] (read : Expr → ρ → Option ν)

/-- The value of a call on some rows; `read` gives the value of an expression on a row, or
nothing for NULL. -/
def CountCall.count : CountCall → List ρ → Nat
  | .star, rows => rows.length
  | .column false argument, rows => (rows.filterMap (read argument)).length
  | .column true argument, rows => (rows.filterMap (read argument)).dedup.length

/-- How often the values of a call are counted again in a further shard. -/
def CountCall.surplus : CountCall → List (List ρ) → Nat
  | .star, _ => 0
  | .column false _, _ => 0
  | .column true argument, shards =>
      ∑ value ∈ (shards.flatten.filterMap (read argument)).toFinset,
        (shards.countP (fun rows => value ∈ rows.filterMap (read argument)) - 1)

/-- The elements whose key comes again later. -/
def repeats
    [DecidableEq κ]
    (key : α → κ) : List α → List α
  | [] => []
  | item :: rest =>
      if key item ∈ rest.map key then item :: repeats key rest else repeats key rest

/-- The row a shard answers with. -/
def countRow (calls : List CountCall) (rows : List ρ) : GroupRow :=
  calls.map fun call => .number ((call.count read rows : Int) : WithTop Int)

/-- The answer of a shard. -/
def countAnswer (calls : List CountCall) (columns : List String) (rows : List ρ) : QueryResult :=
  shardGroups columns [countRow read calls rows]

/-- The shards whose answer DISTINCT drops. -/
def droppedShards
    (calls : List CountCall)
    (distinct : Bool)
    (shards : List (List ρ)) :
    List (List ρ) :=
  if distinct then repeats (countRow read calls) shards else []

/-- Values counted in each shard are counted once for each shard that has them. -/
theorem sum_card_eq_sum_countP
    (parts : List (List ν))
    (whole : Finset ν)
    (inside : ∀ part ∈ parts, part.toFinset ⊆ whole) :
    (parts.map fun part => part.toFinset.card).sum =
      ∑ value ∈ whole, parts.countP fun part => value ∈ part := by
  induction parts with
  | nil => simp
  | cons part parts ih =>
      obtain ⟨here, there⟩ := List.forall_mem_cons.mp inside
      have once : part.toFinset.card = ∑ value ∈ whole, if value ∈ part then 1 else 0 := by
        rw [← Finset.card_filter]
        congr 1
        ext value
        simp only [List.mem_toFinset, Finset.mem_filter]
        exact ⟨fun listed => ⟨here (List.mem_toFinset.mpr listed), listed⟩, fun both => both.2⟩
      rw [List.map_cons, List.sum_cons, ih there, once,
        ← Finset.sum_add_distrib]
      apply Finset.sum_congr rfl
      intro value _
      rw [List.countP_cons, Nat.add_comm]
      simp only [decide_eq_true_eq]

omit [DecidableEq ν] in
/-- Taking one off each of some positive numbers. -/
theorem sum_sub_one_add_card
    (whole : Finset ν)
    {number : ν → Nat}
    (positive : ∀ value ∈ whole, 0 < number value) :
    ∑ value ∈ whole, number value = whole.card + ∑ value ∈ whole, (number value - 1) := by
  rw [Finset.card_eq_sum_ones, ← Finset.sum_add_distrib]
  apply Finset.sum_congr rfl
  intro value inside
  have := positive value inside
  omega

theorem sum_count_eq
    (call : CountCall)
    (shards : List (List ρ)) :
    (shards.map (call.count read)).sum =
      call.count read shards.flatten + call.surplus read shards := by
  cases call with
  | star =>
      rw [CountCall.surplus, Nat.add_zero]
      exact List.length_flatten.symm
  | column distinct argument =>
      cases distinct with
      | false =>
          rw [CountCall.surplus, Nat.add_zero]
          rw [CountCall.count, List.filterMap_flatten, List.length_flatten, List.map_map]
          rfl
      | true =>
          have held : ∀ part ∈ shards.map (List.filterMap (read argument)),
              part.toFinset ⊆ (shards.flatten.filterMap (read argument)).toFinset := by
            intro part listed value inside
            rw [List.mem_toFinset] at inside ⊢
            rw [List.filterMap_flatten]
            exact List.mem_flatten.mpr ⟨part, listed, inside⟩
          have counted := sum_card_eq_sum_countP _ _ held
          rw [List.map_map] at counted
          simp only [CountCall.count, CountCall.surplus, ← List.card_toFinset]
          refine counted.trans ?_
          simp only [List.countP_map]
          apply sum_sub_one_add_card
          intro value inside
          rw [List.mem_toFinset, List.filterMap_flatten] at inside
          obtain ⟨part, listed, there⟩ := List.mem_flatten.mp inside
          obtain ⟨rows, shard, rfl⟩ := List.mem_map.mp listed
          exact List.countP_pos_iff.mpr ⟨rows, shard, decide_eq_true there⟩

/-- What comes again is what separates all rows from the different ones. -/
theorem total_dedup_add_repeats
    (key : α → GroupRow)
    (items : List α)
    (colIdx : Nat) :
    total (items.map key).dedup colIdx + total ((repeats key items).map key) colIdx =
      total (items.map key) colIdx := by
  have first : ∀ (row : GroupRow) (rows : List GroupRow),
      total (row :: rows) colIdx = total [row] colIdx + total rows colIdx := fun row rows =>
    total_append [row] rows colIdx
  induction items with
  | nil => rfl
  | cons item rest ih =>
      rw [List.map_cons, repeats, first (key item)]
      by_cases again : key item ∈ rest.map key
      · rw [List.dedup_cons_of_mem again, if_pos again, List.map_cons, first (key item)]
        omega
      · rw [List.dedup_cons_of_notMem again, if_neg again, first (key item)]
        omega

section Row

variable {read} {calls : List CountCall} {call : CountCall} {colIdx : Nat}

theorem countRow_getElem?
    (column : calls[colIdx]? = some call)
    (rows : List ρ) :
    (countRow read calls rows)[colIdx]? =
      some (.number ((call.count read rows : Int) : WithTop Int)) := by
  rw [countRow, List.getElem?_map, column]
  rfl

theorem total_countRows
    (column : calls[colIdx]? = some call)
    (shards : List (List ρ)) :
    total (shards.map (countRow read calls)) colIdx =
      ((shards.map (call.count read)).sum : Nat) := by
  induction shards with
  | nil => rfl
  | cons rows shards ih =>
      rw [List.map_cons, total_cons (countRow_getElem? column rows), ih,
        List.map_cons, List.sum_cons, Int.natCast_add]

/-- The sum over the answers that are kept and over those that are dropped. -/
theorem total_kept_add_dropped
    {distinct : Bool}
    {shards : List (List ρ)}
    {kept : List GroupRow}
    (keeps : Keeps distinct (shards.map (countRow read calls)) kept)
    (column : calls[colIdx]? = some call) :
    total kept colIdx +
        (((droppedShards read calls distinct shards).map (call.count read)).sum : Nat) =
      ((shards.map (call.count read)).sum : Nat) := by
  rw [← total_countRows column, ← total_countRows column]
  cases distinct with
  | false =>
      rw [keeps.every rfl]
      exact Int.add_zero _
  | true =>
      have different : kept.Perm (shards.map (countRow read calls)).dedup := by
        refine (List.perm_ext_iff_of_nodup (keeps.once rfl) (List.nodup_dedup _)).mpr ?_
        intro row
        rw [List.mem_dedup]
        exact ⟨fun inside => keeps.within.subset inside, keeps.covers row⟩
      rw [total_perm different]
      exact total_dedup_add_repeats (countRow read calls) shards colIdx

theorem count_le_length
    (call : CountCall)
    (rows : List ρ) :
    call.count read rows ≤ rows.length := by
  cases call with
  | star => exact Nat.le_refl _
  | column distinct argument =>
      cases distinct with
      | false => exact List.length_filterMap_le _ _
      | true => exact (List.dedup_sublist _).length_le.trans (List.length_filterMap_le _ _)

theorem countRow_fits
    {rows : List ρ}
    (small : Decimal.InInt64 rows.length) :
    (countRow read calls rows).Fits (calls.map fun _ => Item.count) := by
  rw [GroupRow.Fits, countRow, List.forall₂_map_left_iff, List.forall₂_map_right_iff,
    List.forall₂_same]
  intro call _
  have fewer : call.count read rows ≤ rows.length := count_le_length call rows
  unfold Decimal.InInt64 Decimal.minInt64 Decimal.maxInt64 at small
  refine ⟨_, rfl, by omega, ?_⟩
  unfold Decimal.InInt64 Decimal.minInt64 Decimal.maxInt64
  omega

theorem countRow_keyOf (rows : List ρ) : (countRow read calls rows).keyOf = [] := by
  simp [countRow, GroupRow.keyOf, Cell.keyText]

end Row

/-- A query text that starts with a SELECT without GROUP BY and HAVING. -/
def counting
    (sel : Select)
    (clause : SelectClause)
    (text : String)
    (rest : List Statement) :
    SqlText :=
  ungrouped sel { clause with having := none } text rest

section Merged

variable {read} {ext : Externals} {calls : List CountCall} {call : CountCall} {colIdx : Nat}

variable {selected : SelectExpr} {cols : List String} {distinct : Bool} {kept : List GroupRow}
variable {exprs : List SelectExpr}

theorem analyze_count (selects : call.Selects ext selected) :
    (analyzeSelectExpr ext selected).isAggregate = true ∧
      (analyzeSelectExpr ext selected).aggType = .count := by
  obtain ⟨func, written, kind⟩ := selects
  cases call with
  | star | column => simp [analyzeSelectExpr, written, CountCall.expr, kind]

theorem hasAgg_counting
    {sel : Select}
    {clause : SelectClause}
    {text : String}
    {rest : List Statement}
    (some : calls ≠ [])
    (selects : List.Forall₂ (CountCall.Selects ext) calls clause.exprs) :
    (extractPlan ext (counting sel clause text rest)).hasAgg = true := by
  obtain ⟨call, later, rfl⟩ := List.exists_cons_of_ne_nil some
  obtain ⟨selected, others, first, _, written⟩ := List.forall₂_cons_left_iff.mp selects
  simp [extractPlan, counting, ungrouped, selecting, planOfClause, written, (analyze_count first).1]

theorem flattenResults_countAnswers
    (columns : List String)
    (shards : List (List ρ)) :
    (flattenResults ext { results := shards.map (countAnswer read calls columns) }).1 =
      (shards.map (countRow read calls)).map (typedRow ext) := by
  have answers : shards.map (countAnswer read calls columns) =
      (shards.map fun rows => [countRow read calls rows]).map (shardGroups columns) := by
    rw [List.map_map]
    rfl
  rw [answers, flattenResults_shardGroups, ← List.flatMap_def, ← List.map_eq_flatMap]

/-- One merged count is the sum over the answers that are kept. -/
theorem sprint_countCell
    (laws : ext.FloatText)
    {rows : List GroupRow}
    (keeps : Keeps distinct rows kept)
    (fits : ∀ row ∈ rows, row.Fits (calls.map fun _ => Item.count))
    (selects : call.Selects ext selected)
    (column : calls[colIdx]? = some call)
    (wide : colIdx < cols.length) :
    (aggregateCell cols (kept.map (typedRow ext)) colIdx (analyzeSelectExpr ext selected)).sprint =
      Decimal.formatInt (Decimal.wrap64 (total kept colIdx)) := by
  have counted : (calls.map fun _ => Item.count)[colIdx]? = some .count := by
    rw [List.getElem?_map, column]
    rfl
  obtain ⟨isCall, kind⟩ := analyze_count selects
  have summed := aggSumInt64_of_column (columnOf_kept laws keeps fits counted nofun)
  simp only [aggregateCell, isCall, Bool.not_true, Bool.false_eq_true, if_false,
    Nat.not_le.mpr wide, kind, summed, Value.sprint]
  rfl

variable {shards : List (List ρ)}

/-- A merged count is right when what is dropped makes up for what is counted twice. -/
theorem countCell_iff
    (keeps : Keeps distinct (shards.map (countRow read calls)) kept)
    (column : calls[colIdx]? = some call)
    (fits : Decimal.InInt64 shards.flatten.length) :
    Decimal.formatInt (Decimal.wrap64 (total kept colIdx)) =
        Decimal.formatInt (call.count read shards.flatten) ↔
      ((droppedShards read calls distinct shards).map (call.count read)).sum =
        call.surplus read shards := by
  have parts := total_kept_add_dropped keeps column
  have bound : (shards.map (call.count read)).sum ≤ shards.flatten.length := by
    rw [List.length_flatten]
    exact List.sum_le_sum fun rows _ => count_le_length call rows
  have whole := sum_count_eq read call shards
  have keptCounts : CountsAt kept colIdx := by
    intro row present
    obtain ⟨rows, _, rfl⟩ := List.mem_map.mp (keeps.within.subset present)
    exact ⟨_, countRow_getElem? column rows, Int.natCast_nonneg _⟩
  have positive := total_nonneg keptCounts
  have small : Decimal.InInt64 (total kept colIdx) := by
    unfold Decimal.InInt64 Decimal.minInt64 Decimal.maxInt64 at fits ⊢
    omega
  rw [Decimal.wrap64_of_inInt64 small, Decimal.formatInt_inj]
  omega

theorem exists_selected
    (selects : List.Forall₂ (CountCall.Selects ext) calls exprs)
    (column : calls[colIdx]? = some call) :
    ∃ selected, exprs[colIdx]? = some selected ∧ call.Selects ext selected := by
  obtain ⟨inside, rfl⟩ := List.getElem?_eq_some_iff.mp column
  have bound : colIdx < exprs.length := selects.length_eq ▸ inside
  exact ⟨exprs[colIdx], List.getElem?_eq_getElem bound, selects.get inside bound⟩

theorem mergedCounts_eq_iff
    (laws : ext.FloatText)
    {plan : QueryPlan}
    (selects : List.Forall₂ (CountCall.Selects ext) calls exprs)
    (planned : plan.selects = exprs.map (analyzeSelectExpr ext))
    (keeps : Keeps distinct (shards.map (countRow read calls)) kept)
    (fitsRows : ∀ row ∈ shards.map (countRow read calls),
      row.Fits (calls.map fun _ => Item.count))
    (fits : Decimal.InInt64 shards.flatten.length)
    (wide : cols.length = calls.length) :
    (applyAggregation plan cols (kept.map (typedRow ext))).map Value.sprint =
        (calls.map fun call => Decimal.formatInt (call.count read shards.flatten)) ↔
      ∀ call ∈ calls,
        ((droppedShards read calls distinct shards).map (call.count read)).sum =
          call.surplus read shards := by
  have cell : ∀ (colIdx : Nat) (call : CountCall), calls[colIdx]? = some call →
      (((applyAggregation plan cols (kept.map (typedRow ext))).map Value.sprint)[colIdx]? =
          (calls.map fun call =>
            Decimal.formatInt (call.count read shards.flatten))[colIdx]? ↔
        ((droppedShards read calls distinct shards).map (call.count read)).sum =
          call.surplus read shards) := by
    intro colIdx call column
    obtain ⟨selected, written, counts⟩ := exists_selected selects column
    have inside := (List.getElem?_eq_some_iff.mp column).1
    rw [← countCell_iff keeps column fits, applyAggregation, planned, List.getElem?_map,
      List.getElem?_mapIdx, List.getElem?_map, written, List.getElem?_map, column]
    simp only [Option.map_some, Option.some.injEq]
    rw [sprint_countCell laws keeps fitsRows counts column (wide ▸ inside)]
  constructor
  · intro equal call inside
    obtain ⟨colIdx, column⟩ := List.mem_iff_getElem?.mp inside
    exact (cell colIdx call column).mp (congrArg (fun row => row[colIdx]?) equal)
  · intro right
    apply List.ext_getElem?
    intro colIdx
    cases column : calls[colIdx]? with
    | some call => exact (cell colIdx call column).mpr (right call (List.mem_of_getElem? column))
    | none =>
        have outside := List.getElem?_eq_none_iff.mp column
        rw [List.getElem?_eq_none, List.getElem?_eq_none]
        · rwa [List.length_map]
        · rwa [List.length_map, applyAggregation, planned, List.length_mapIdx, List.length_map,
            ← selects.length_eq]

end Merged

/-- The merged counts of a scattered query are those of all rows together exactly when the
counts of the answers that DISTINCT drops add up to what is counted more than once, or the
window leaves no row. -/
theorem counts_over_shards_iff
    (ext : Externals)
    (laws : ext.FloatText)
    {ρ ν : Type}
    [DecidableEq ν]
    (read : Expr → ρ → Option ν)
    (sel : Select)
    (clause : SelectClause)
    (text : String)
    (rest : List Statement)
    (calls : List CountCall)
    (nonempty : calls ≠ [])
    (selects : List.Forall₂ (CountCall.Selects ext) calls clause.exprs)
    (columns : List String)
    (named : columns.length = calls.length)
    (shards : List (List ρ))
    (scattered : shards ≠ [])
    (fits : Decimal.InInt64 shards.flatten.length) :
    answerRows ext (extractPlan ext (counting sel clause text rest))
        (shards.map (countAnswer read calls columns)) =
      windowStep (extractPlan ext (counting sel clause text rest))
        [calls.map fun call => Decimal.formatInt (call.count read shards.flatten)] ↔
      ((extractPlan ext (counting sel clause text rest)).KeepsOneRow → ∀ call ∈ calls,
        ((droppedShards read calls clause.distinct shards).map (call.count read)).sum =
          call.surplus read shards) := by
  have fitsRows : ∀ row ∈ shards.map (countRow read calls),
      row.Fits (calls.map fun _ => Item.count) := by
    intro row listed
    obtain ⟨rows, shard, rfl⟩ := List.mem_map.mp listed
    apply countRow_fits
    have fewer := (List.sublist_flatten_of_mem shard).length_le
    unfold Decimal.InInt64 Decimal.minInt64 Decimal.maxInt64 at fits ⊢
    omega
  have single : ∀ row ∈ shards.map (countRow read calls),
      ∀ other ∈ shards.map (countRow read calls), row.keyOf = other.keyOf := by
    intro row listed other otherListed
    obtain ⟨rows, _, rfl⟩ := List.mem_map.mp listed
    obtain ⟨others, _, rfl⟩ := List.mem_map.mp otherListed
    rw [countRow_keyOf, countRow_keyOf]
  have wide : (flattenResults ext
      { results := shards.map (countAnswer read calls columns) }).2.length = calls.length := by
    obtain ⟨rows, others, rfl⟩ := List.exists_cons_of_ne_nil scattered
    exact named
  obtain ⟨kept, keeps, same⟩ := exists_keeps laws fitsRows single clause.distinct
  have gathered : (if (extractPlan ext (counting sel clause text rest)).distinct then
        applyDistinct ((shards.map (countRow read calls)).map (typedRow ext))
      else (shards.map (countRow read calls)).map (typedRow ext)) = kept.map (typedRow ext) := same
  rw [answerRows_of_aggregates (hasAgg_counting nonempty selects), windowStep_one_row_iff,
    flattenResults_countAnswers, gathered]
  exact imp_congr_right fun _ => mergedCounts_eq_iff laws selects rfl keeps fitsRows fits wide

/-- A SELECT of one COUNT call. -/
def countSelect (distinct : Bool) (call : CountCall) : Select × SelectClause :=
  ({ lockingSelect with orderBy := [], locking := [] },
    { oneColumn with distinct, exprs := [{ expr := call.expr "COUNT", as := "" }] })

/-- The plan of a SELECT of one COUNT call. -/
def countPlan (distinct : Bool) (call : CountCall) : QueryPlan :=
  extractPlan integralExternals
    (counting (countSelect distinct call).1 (countSelect distinct call).2 "" [])

/-- Rows with one integer column. -/
def onlyColumn (_ : Expr) (row : Int) : Option Int :=
  some row

theorem count_of_unequal_shards :
    answerRows integralExternals (countPlan true .star)
        ([[5, 6], [5]].map (countAnswer onlyColumn [.star] ["count"])) =
      windowStep (countPlan true .star) [["3"]] :=
  (counts_over_shards_iff integralExternals integralExternals_floatText onlyColumn
    (countSelect true .star).1 (countSelect true .star).2 "" [] [.star] nofun
    (.cons ⟨"COUNT", rfl, count_call⟩ .nil) ["count"] rfl [[5, 6], [5]] nofun (by decide)).mpr
    (by decide)

/-- Two shards of two rows make two with SELECT DISTINCT COUNT(*), and one value that both
have is two different values. -/
theorem counts_wrong_with_distinct :
    answerRows integralExternals (countPlan true .star)
        ([[5, 6], [7, 8]].map (countAnswer onlyColumn [.star] ["count"])) = .ok [["2"]] ∧
      CountCall.star.count onlyColumn [5, 6, 7, 8] = 4 ∧
      answerRows integralExternals (countPlan false (.column true (.unresolvedName ["c"])))
        ([[5], [5]].map
          (countAnswer onlyColumn [.column true (.unresolvedName ["c"])] ["count"])) =
            .ok [["2"]] ∧
      (CountCall.column true (.unresolvedName ["c"])).count onlyColumn [5, 5] = 1 := by
  have star : countPlan true .star =
      { distinct := true, hasAgg := true, isCountStar := true
        selects := [{ isAggregate := true, aggColName := "*" }] } := by
    simp only [countPlan, extractPlan, counting, ungrouped, selecting, countSelect, planOfClause,
      List.map_cons, List.map_nil, analyzeSelectExpr, CountCall.expr, count_call]
    rfl
  have column : countPlan false (.column true (.unresolvedName ["c"])) =
      { hasAgg := true, selects := [{ isAggregate := true, aggColName := "c" }] } := by
    simp only [countPlan, extractPlan, counting, ungrouped, selecting, countSelect, planOfClause,
      List.map_cons, List.map_nil, analyzeSelectExpr, CountCall.expr, count_call]
    rfl
  rw [star, column]
  decide

end Aggregate
end VScale
