import Mathlib.Algebra.BigOperators.Group.List.Basic
import VScale.Aggregate.Groups

/-!
# Merging the groups of the shards

With aggregates the gate folds all received rows into a single row and puts the
text of the expression into every group column.  Without aggregates it passes
the received rows on.  Neither recombines groups, so the merged response is
right only when there is nothing to recombine.
-/

namespace VScale
namespace Aggregate

open Collections Tree

variable {ext : Externals} {items : List Item} {rows : List GroupRow} {colIdx : Nat}

/-! ### One position of the aggregate row -/

/-- The sum of a column of counts. -/
def total (rows : List GroupRow) (colIdx : Nat) : Int :=
  (present (valuesAt rows colIdx)).sum

theorem total_append
    (first second : List GroupRow)
    (colIdx : Nat) :
    total (first ++ second) colIdx = total first colIdx + total second colIdx := by
  simp only [total, valuesAt, List.filterMap_append, present_append, List.sum_append]

theorem total_perm
    {first second : List GroupRow}
    (same : first.Perm second)
    (colIdx : Nat) :
    total first colIdx = total second colIdx := by
  have values : (valuesAt first colIdx).Perm (valuesAt second colIdx) := same.filterMap _
  exact (present_perm values).sum_eq

/-- What makes the cell of a merged group right when all rows belong to it. -/
def PositionRight
    (ext : Externals)
    (distinct : Bool)
    (selected : SelectExpr)
    (rows : List GroupRow)
    (colIdx : Nat) : Item → Prop
  | .key => ∀ row ∈ rows, row[colIdx]? = some (.key (ext.exprString selected.expr))
  | .count => Decimal.InInt64 (total rows colIdx) ∧
      (distinct = true → ∀ row ∈ rows, 1 < rows.count row →
        row[colIdx]? = some (.number (0 : Int)))
  | .max => ⊤ ∉ valuesAt rows colIdx ∨ ∀ value ∈ valuesAt rows colIdx, value = ⊤
  | .min => True

/-- The rows kept by DISTINCT, or all of them. -/
structure Keeps (distinct : Bool) (rows kept : List GroupRow) : Prop where
  within : kept.Sublist rows
  covers : ∀ row ∈ rows, row ∈ kept
  once : distinct = true → kept.Nodup
  every : distinct = false → kept = rows

/-- Every row has a count in the column. -/
def CountsAt (rows : List GroupRow) (colIdx : Nat) : Prop :=
  ∀ row ∈ rows, ∃ count : Int, row[colIdx]? = some (.number count) ∧ 0 ≤ count

theorem countsAt_of_fits
    (fits : ∀ row ∈ rows, row.Fits items)
    (column : items[colIdx]? = some .count) :
    CountsAt rows colIdx := by
  intro row present
  obtain ⟨cell, found, sort⟩ := cell_of_fits (fits row present) column
  cases cell with
  | key text => exact sort.elim
  | number value =>
      obtain ⟨count, rfl, positive, _⟩ := sort
      exact ⟨count, found, positive⟩

variable {row : GroupRow} {kept : List GroupRow} {distinct : Bool} {selected : SelectExpr}
variable {item : Item} {clause : SelectClause} {sel : Select} {plan : QueryPlan}

theorem total_cons
    {count : Int}
    (found : row[colIdx]? = some (.number count)) :
    total (row :: rows) colIdx = count + total rows colIdx := by
  rw [total, valuesAt_cons_of_number found, present_coe_cons, List.sum_cons, total]

theorem total_nonneg (counts : CountsAt rows colIdx) : 0 ≤ total rows colIdx := by
  induction rows with
  | nil => exact le_refl 0
  | cons row rows ih =>
      obtain ⟨count, found, positive⟩ := counts row List.mem_cons_self
      have rest := ih fun other present =>
        counts other (List.mem_cons_of_mem row present)
      rw [total_cons found]
      omega

/-- Counts add up to zero when each is zero. -/
theorem total_eq_zero_iff (counts : CountsAt rows colIdx) :
    total rows colIdx = 0 ↔ ∀ row ∈ rows, row[colIdx]? = some (.number (0 : Int)) := by
  induction rows with
  | nil => exact iff_of_true rfl nofun
  | cons row rows ih =>
      obtain ⟨count, found, positive⟩ := counts row List.mem_cons_self
      have later : CountsAt rows colIdx := fun other present =>
        counts other (List.mem_cons_of_mem row present)
      have rest := total_nonneg later
      have cell : row[colIdx]? = some (.number (0 : Int)) ↔ count = 0 := by
        simp [found]
      rw [total_cons found, List.forall_mem_cons, ← ih later, cell]
      omega

/-- Dropping repeated rows keeps a sum exactly when they count nothing. -/
theorem total_kept_iff
    (keeps : Keeps true rows kept)
    (counts : CountsAt rows colIdx) :
    total kept colIdx = total rows colIdx ↔
      ∀ row ∈ rows, 1 < rows.count row → row[colIdx]? = some (.number (0 : Int)) := by
  obtain ⟨dropped, arranged⟩ := keeps.within.exists_perm_append
  have droppedCounts : CountsAt dropped colIdx := fun row present =>
    counts row (arranged.mem_iff.mpr (List.mem_append_right kept present))
  have summed : total rows colIdx = total kept colIdx + total dropped colIdx := by
    rw [total_perm arranged, total_append]
  have repeated : ∀ row ∈ rows, 1 < rows.count row ↔ row ∈ dropped := by
    intro row present
    have once := List.count_eq_one_of_mem (keeps.once rfl) (keeps.covers row present)
    rw [arranged.count_eq, List.count_append, once, ← List.count_pos_iff]
    omega
  have unchanged : total kept colIdx = total rows colIdx ↔ total dropped colIdx = 0 := by omega
  rw [unchanged, total_eq_zero_iff droppedCounts]
  constructor
  · intro zero row present twice
    exact zero row ((repeated row present).mp twice)
  · intro zero row inside
    have present := arranged.mem_iff.mpr (List.mem_append_right kept inside)
    exact zero row present ((repeated row present).mpr inside)

/-- The count is right when no row was dropped that counts. -/
theorem count_right_iff
    (keeps : Keeps distinct rows kept)
    (counts : CountsAt rows colIdx)
    (selected : SelectExpr) :
    Decimal.wrap64 (total kept colIdx) = total rows colIdx ↔
      PositionRight ext distinct selected rows colIdx .count := by
  cases distinct with
  | false =>
      rw [keeps.every rfl, Decimal.wrap64_eq_self_iff]
      simp [PositionRight]
  | true =>
      have keptCounts : CountsAt kept colIdx := fun row present =>
        counts row (keeps.within.subset present)
      have positive := total_nonneg keptCounts
      have smaller : total kept colIdx ≤ total rows colIdx := by
        obtain ⟨dropped, arranged⟩ := keeps.within.exists_perm_append
        have droppedCounts : CountsAt dropped colIdx := fun row present =>
          counts row (arranged.mem_iff.mpr (List.mem_append_right kept present))
        have more := total_nonneg droppedCounts
        rw [total_perm arranged, total_append]
        omega
      have wrapped := Decimal.wrap64_le positive
      simp only [PositionRight, true_implies]
      rw [← total_kept_iff keeps counts, ← Decimal.wrap64_eq_self_iff]
      constructor
      · intro same
        have equal : total kept colIdx = total rows colIdx := by omega
        rw [equal] at same
        exact ⟨same, equal⟩
      · rintro ⟨same, equal⟩
        rw [equal, same]

theorem mem_valuesAt_kept
    (keeps : Keeps distinct rows kept)
    (value : WithTop Int) :
    value ∈ valuesAt kept colIdx ↔ value ∈ valuesAt rows colIdx := by
  simp only [valuesAt, List.mem_filterMap]
  constructor
  · rintro ⟨row, present, found⟩
    exact ⟨row, keeps.within.subset present, found⟩
  · rintro ⟨row, present, found⟩
    exact ⟨row, keeps.covers row present, found⟩

/-- A group column is not an aggregate. -/
theorem analyze_key
    (selects : Item.key.Selects ext selected) :
    (analyzeSelectExpr ext selected).isAggregate = false ∧
      (analyzeSelectExpr ext selected).rawExpr = ext.exprString selected.expr := by
  obtain ⟨parts, column⟩ := selects
  simp [analyzeSelectExpr, column]

/-- A call is analysed as its aggregate. -/
theorem analyze_call
    {aggType : AggType}
    (call : item.aggType = some aggType)
    (selects : item.Selects ext selected) :
    (analyzeSelectExpr ext selected).isAggregate = true ∧
      (analyzeSelectExpr ext selected).aggType = aggType := by
  have called : ∃ func distinct exprs,
      selected.expr = .funcExpr func distinct exprs false ∧
        aggTypeOf (ext.toUpper func) = some aggType := by
    rw [← call]
    cases item with
    | key => cases call
    | count | max | min => exact selects
  obtain ⟨func, distinct, exprs, written, kind⟩ := called
  simp [analyzeSelectExpr, written, kind]

/-- Rows of one group agree in the group columns. -/
theorem key_cell_eq
    {first second : GroupRow}
    (fitsFirst : first.Fits items)
    (fitsSecond : second.Fits items)
    (keys : first.keyOf = second.keyOf)
    (column : items[colIdx]? = some .key) :
    first[colIdx]? = second[colIdx]? := by
  obtain ⟨cell, found, sort⟩ := cell_of_fits fitsFirst column
  obtain ⟨other, foundOther, _⟩ := cell_of_fits fitsSecond column
  obtain ⟨boundFirst, rfl⟩ := List.getElem?_eq_some_iff.mp found
  obtain ⟨boundSecond, rfl⟩ := List.getElem?_eq_some_iff.mp foundOther
  rw [found, foundOther]
  rcases (aligned_of_keyOf fitsFirst fitsSecond keys).get boundFirst boundSecond with
    same | ⟨left, right, number, _⟩
  · exact congrArg some same
  · rw [List.get_eq_getElem] at number
    rw [number] at sort
    exact sort.elim

section Position

variable
  {distinct : Bool} {kept : List GroupRow} {selected : SelectExpr} {cols : List String}
  (laws : ext.FloatText)
  (keeps : Keeps distinct rows kept)
  (fits : ∀ row ∈ rows, row.Fits items)

include laws keeps fits

theorem columnOf_kept
    {item : Item}
    (column : items[colIdx]? = some item)
    (call : item ≠ .key) :
    ColumnOf (kept.map (typedRow ext)) colIdx (valuesAt kept colIdx) := by
  refine columnOf_typed laws (numericAt_of_fits ?_ column call)
  intro row present
  exact fits row (keeps.within.subset present)

omit laws keeps in

/-- A group column is right in a row of its group. -/
theorem key_position_iff
    (column : items[colIdx]? = some .key)
    (selects : Item.key.Selects ext selected)
    (typed : List (Row ext))
    (some : rows ≠ [])
    (single : ∀ row ∈ rows, ∀ other ∈ rows, row.keyOf = other.keyOf) :
    (aggregateCell cols typed colIdx (analyzeSelectExpr ext selected)).sprint =
        (groupCell rows colIdx .key).text ↔
      PositionRight ext distinct selected rows colIdx .key := by
  obtain ⟨plain, raw⟩ := analyze_key selects
  obtain ⟨head, rest, rfl⟩ := List.exists_cons_of_ne_nil some
  obtain ⟨cell, found, sort⟩ := cell_of_fits (fits head List.mem_cons_self) column
  have agree : ∀ row ∈ head :: rest, row[colIdx]? = Option.some cell := by
    intro row present
    rw [← found]
    exact key_cell_eq (fits row present) (fits head List.mem_cons_self)
      (single row present head List.mem_cons_self) column
  cases cell with
  | number value => exact sort.elim
  | key text =>
      simp only [aggregateCell, plain, Bool.not_false, if_true, Value.sprint, raw, groupCell,
        List.head?_cons, Option.bind_some, found, Option.getD_some, Cell.text]
      constructor
      · intro same row present
        rw [agree row present, same]
      · intro right
        have written := right head List.mem_cons_self
        rw [found] at written
        exact (Cell.key.inj (Option.some.inj written)).symm

theorem count_position_iff
    (column : items[colIdx]? = some .count)
    (selects : Item.count.Selects ext selected)
    (wide : colIdx < cols.length) :
    (aggregateCell cols (kept.map (typedRow ext)) colIdx (analyzeSelectExpr ext selected)).sprint =
        (groupCell rows colIdx .count).text ↔
      PositionRight ext distinct selected rows colIdx .count := by
  obtain ⟨isCall, kind⟩ := analyze_call rfl selects
  have summed := aggSumInt64_of_column (columnOf_kept laws keeps fits column nofun)
  rw [← count_right_iff keeps (countsAt_of_fits fits column) selected]
  simp only [aggregateCell, isCall, Bool.not_true, Bool.false_eq_true, if_false,
    Nat.not_le.mpr wide, kind, summed, groupCell, Cell.text, Value.sprint, extremeValue,
    SqlValue.sprint, Decimal.formatInt_inj]
  exact Iff.rfl

/-- The cell that the gate prints for an extreme of a group. -/
theorem extreme_position_iff
    {item : Item}
    {aggType : AggType}
    {extreme : WithTop Int}
    (column : items[colIdx]? = some item)
    (call : item.aggType = some aggType)
    (selects : item.Selects ext selected)
    (kind : aggType = .max ∨ aggType = .min)
    (written : groupCell rows colIdx item = .number extreme)
    (wide : colIdx < cols.length) :
    (aggregateCell cols (kept.map (typedRow ext)) colIdx (analyzeSelectExpr ext selected)).sprint =
        (groupCell rows colIdx item).text ↔
      mergedExtreme aggType (valuesAt kept colIdx) = extreme := by
  obtain ⟨isCall, same⟩ := analyze_call call selects
  have typed := columnOf_kept laws keeps fits column (by rintro rfl; cases call)
  rw [← same] at kind
  rw [sprint_aggregateCell_of_extreme isCall kind typed fun _ => wide, same, written, Cell.text,
    sprint_extremeValue_inj]

end Position

/-! ### A query with aggregates -/

/-- All rows belong to one group and every cell of its row comes out right. -/
structure OneGroup
    (ext : Externals)
    (clause : SelectClause)
    (items : List Item)
    (rows : List GroupRow) : Prop where
  nonempty : rows ≠ []
  single : ∀ row ∈ rows, ∀ other ∈ rows, row.keyOf = other.keyOf
  positions : ∀ (colIdx : Nat) (item : Item) (selected : SelectExpr),
    items[colIdx]? = some item → clause.exprs[colIdx]? = some selected →
      PositionRight ext clause.distinct selected rows colIdx item

/-- DISTINCT keeps each row once. -/
theorem exists_keeps
    (laws : ext.FloatText)
    (fits : ∀ row ∈ rows, row.Fits items)
    (single : ∀ row ∈ rows, ∀ other ∈ rows, row.keyOf = other.keyOf)
    (distinct : Bool) :
    ∃ kept, Keeps distinct rows kept ∧
      (if distinct then applyDistinct (rows.map (typedRow ext)) else rows.map (typedRow ext)) =
        kept.map (typedRow ext) := by
  cases distinct with
  | false =>
      exact ⟨rows, ⟨List.Sublist.refl rows, fun _ present => present, nofun, fun _ => rfl⟩, rfl⟩
  | true =>
      obtain ⟨kept, within, same, once, covered⟩ := exists_kept (typedRow ext) rows
      refine ⟨kept, ⟨within, ?_, fun _ => once.of_map _, nofun⟩, same⟩
      intro row present
      obtain ⟨other, inside, equal⟩ := covered row present
      have source := within.subset inside
      rwa [← eq_of_rowKey laws (fits other source) (fits row present)
        (single other source row present) equal]

/-- Rows of one group make one row. -/
theorem regroup_of_single
    (some : rows ≠ [])
    (single : ∀ row ∈ rows, ∀ other ∈ rows, row.keyOf = other.keyOf) :
    regroup items rows = [groupRow items rows] := by
  obtain ⟨head, rest, rfl⟩ := List.exists_cons_of_ne_nil some
  have keys : ((head :: rest).map GroupRow.keyOf).dedup = [head.keyOf] := by
    refine List.perm_singleton.mp ((List.perm_ext_iff_of_nodup (List.nodup_dedup _)
      (List.nodup_singleton _)).mpr ?_)
    intro key
    rw [List.mem_dedup, List.mem_map, List.mem_singleton]
    constructor
    · rintro ⟨row, present, rfl⟩
      exact single row present head List.mem_cons_self
    · rintro rfl
      exact ⟨head, List.mem_cons_self, rfl⟩
  have whole : (head :: rest).filter (fun row => row.keyOf = head.keyOf) = head :: rest := by
    rw [List.filter_eq_self]
    intro row present
    exact decide_eq_true (single row present head List.mem_cons_self)
  rw [regroup, keys, List.map_singleton, whole]

theorem single_of_regroup_length
    (one : (regroup items rows).length = 1) :
    rows ≠ [] ∧ ∀ row ∈ rows, ∀ other ∈ rows, row.keyOf = other.keyOf := by
  rw [regroup, List.length_map, List.length_eq_one_iff] at one
  obtain ⟨key, keys⟩ := one
  have member : ∀ row ∈ rows, row.keyOf = key := by
    intro row present
    have listed : row.keyOf ∈ (rows.map GroupRow.keyOf).dedup :=
      List.mem_dedup.mpr (List.mem_map_of_mem present)
    rw [keys] at listed
    exact List.mem_singleton.mp listed
  constructor
  · rintro rfl
    cases keys
  · intro row present other otherPresent
    rw [member row present, member other otherPresent]

/-- The texts of the aggregate row are right when those at every position are. -/
theorem aggregateRow_eq_iff
    (query : GroupQuery ext sel clause items)
    (cols : List String)
    (typed : List (Row ext)) :
    (applyAggregation (planOfClause ext sel clause) cols typed).map Value.sprint =
        (groupRow items rows).texts ↔
      ∀ (colIdx : Nat) (item : Item) (selected : SelectExpr),
        items[colIdx]? = some item → clause.exprs[colIdx]? = some selected →
          (aggregateCell cols typed colIdx (analyzeSelectExpr ext selected)).sprint =
            (groupCell rows colIdx item).text := by
  have lengths := query.selects.length_eq
  rw [List.ext_getElem?_iff]
  refine forall_congr' fun colIdx => ?_
  simp only [applyAggregation, planOfClause, groupRow, GroupRow.texts, List.getElem?_map,
    List.getElem?_mapIdx, Option.map_map]
  by_cases inside : colIdx < items.length
  · rw [List.getElem?_eq_getElem inside, List.getElem?_eq_getElem (lengths ▸ inside)]
    simp
  · rw [List.getElem?_eq_none (Nat.not_lt.mp inside),
      List.getElem?_eq_none (lengths ▸ Nat.not_lt.mp inside)]
    simp

/-- The gate answers with one row for each group of any shard. -/
def MergesGroups
    (ext : Externals)
    (plan : QueryPlan)
    (columns : List String)
    (items : List Item)
    (shards : List (List GroupRow)) : Prop :=
  ∃ response,
    conclude ext plan (shards.map (shardGroups columns)) = .ok response ∧
      (allRows response).Perm ((regroup items shards.flatten).map GroupRow.texts)

theorem selected_of_item
    (query : GroupQuery ext sel clause items)
    (column : items[colIdx]? = some item)
    (written : clause.exprs[colIdx]? = some selected) :
    item.Selects ext selected := by
  obtain ⟨inside, rfl⟩ := List.getElem?_eq_some_iff.mp column
  obtain ⟨bound, rfl⟩ := List.getElem?_eq_some_iff.mp written
  exact query.selects.get inside bound

theorem hasAgg_of_call
    (query : GroupQuery ext sel clause items)
    (listed : item ∈ items)
    (call : item ≠ .key) :
    (planOfClause ext sel clause).hasAgg = true := by
  obtain ⟨colIdx, column⟩ := List.mem_iff_getElem?.mp listed
  have bound : colIdx < clause.exprs.length := by
    rw [← query.selects.length_eq]
    exact (List.getElem?_eq_some_iff.mp column).1
  have written := List.getElem?_eq_getElem bound
  have selects := selected_of_item query column written
  obtain ⟨aggType, kind⟩ : ∃ aggType, item.aggType = some aggType := by
    cases item with
    | key => exact absurd rfl call
    | count | max | min => exact ⟨_, rfl⟩
  simp only [planOfClause, List.any_map, List.any_eq_true, Function.comp_apply]
  exact ⟨_, List.getElem_mem bound, (analyze_call kind selects).1⟩

section Aggregated

variable
  {sel : Select} {clause : SelectClause} {columns : List String}
  (laws : ext.FloatText)
  (query : GroupQuery ext sel clause items)

include laws query in

/-- The aggregated row is right column by column. -/
theorem aggregateRow_right_iff
    {cols : List String}
    (fits : ∀ row ∈ rows, row.Fits items)
    (wide : cols.length = items.length)
    (some : rows ≠ [])
    (single : ∀ row ∈ rows, ∀ other ∈ rows, row.keyOf = other.keyOf) :
    (applyAggregation (planOfClause ext sel clause) cols
        (if clause.distinct then applyDistinct (rows.map (typedRow ext))
          else rows.map (typedRow ext))).map Value.sprint = (groupRow items rows).texts ↔
      OneGroup ext clause items rows := by
  obtain ⟨kept, keeps, same⟩ := exists_keeps laws fits single clause.distinct
  rw [same, aggregateRow_eq_iff query]
  have positions : ∀ (colIdx : Nat) (item : Item) (selected : SelectExpr),
      items[colIdx]? = Option.some item → clause.exprs[colIdx]? = Option.some selected →
        ((aggregateCell cols (kept.map (typedRow ext)) colIdx
            (analyzeSelectExpr ext selected)).sprint = (groupCell rows colIdx item).text ↔
          PositionRight ext clause.distinct selected rows colIdx item) := by
    intro colIdx item selected column written
    have selects := selected_of_item query column written
    have bound : colIdx < cols.length := by
      rw [wide]
      exact (List.getElem?_eq_some_iff.mp column).1
    cases item with
    | key => exact key_position_iff fits column selects _ some single
    | count => exact count_position_iff laws keeps fits column selects bound
    | max =>
        rw [extreme_position_iff laws keeps fits column rfl selects (.inl rfl) rfl bound,
          mergedExtreme, max?_congr (mem_valuesAt_kept keeps), max?_getD_top_iff]
        exact Iff.rfl
    | min =>
        rw [extreme_position_iff laws keeps fits column rfl selects (.inr rfl) rfl bound,
          mergedExtreme, min?_congr (mem_valuesAt_kept keeps)]
        exact iff_of_true (min?_getD_top _) trivial
  constructor
  · intro right
    refine ⟨some, single, ?_⟩
    intro colIdx item selected column written
    exact (positions colIdx item selected column written).mp
      (right colIdx item selected column written)
  · intro group colIdx item selected column written
    exact (positions colIdx item selected column written).mpr
      (group.positions colIdx item selected column written)

include laws query in
/-- With aggregates the response is right exactly when there is one group and
its cells come out right. -/
theorem aggregated_iff
    {shards : List (List GroupRow)}
    (calls : ∃ item ∈ items, item ≠ .key)
    (fits : ∀ rows ∈ shards, ∀ row ∈ rows, row.Fits items)
    (wide : columns.length = items.length) :
    MergesGroups ext (planOfClause ext sel clause) columns items shards ↔
      OneGroup ext clause items shards.flatten := by
  obtain ⟨item, listed, call⟩ := calls
  have aggregates := hasAgg_of_call query listed call
  have merges : (planOfClause ext sel clause).needsMerge = true := by
    simp [QueryPlan.needsMerge, aggregates]
  have unlimited : (planOfClause ext sel clause).limit < 0 := by
    simp [planOfClause, query.unlimited]
  have unshifted : (planOfClause ext sel clause).offset ≤ 0 := by
    simp [planOfClause, query.unlimited]
  have allFits : ∀ row ∈ shards.flatten, row.Fits items := by
    intro row present
    obtain ⟨source, shard, inside⟩ := List.mem_flatten.mp present
    exact fits source shard row inside
  obtain ⟨response, finished, returned⟩ := mergeScatterResponses_aggregate aggregates unlimited
    unshifted { results := shards.map (shardGroups columns) }
  rw [flattenResults_shardGroups] at returned
  have described : shards.flatten ≠ [] →
      (flattenResults ext { results := shards.map (shardGroups columns) }).2.length =
        items.length := by
    cases shards with
    | nil => simp
    | cons rows shards => exact fun _ => wide
  have answer : MergesGroups ext (planOfClause ext sel clause) columns items shards ↔
      (allRows response).Perm ((regroup items shards.flatten).map GroupRow.texts) := by
    unfold MergesGroups conclude
    rw [if_pos merges, finished]
    constructor
    · rintro ⟨other, same, arranged⟩
      rwa [Except.ok.inj same]
    · intro arranged
      exact ⟨response, rfl, arranged⟩
  rw [answer, returned]
  constructor
  · intro arranged
    have one : (regroup items shards.flatten).length = 1 := by
      rw [← List.length_map GroupRow.texts, ← arranged.length_eq]
      rfl
    obtain ⟨some, single⟩ := single_of_regroup_length one
    rw [regroup_of_single some single] at arranged
    exact (aggregateRow_right_iff laws query allFits (described some) some single).mp
      (List.singleton_perm_singleton.mp arranged)
  · intro group
    rw [regroup_of_single group.nonempty group.single, List.map_singleton,
      List.singleton_perm_singleton]
    exact (aggregateRow_right_iff laws query allFits (described group.nonempty) group.nonempty
      group.single).mpr group

end Aggregated

/-! ### A query without aggregates -/

/-- Typing and printing the kept rows yields the distinct received rows exactly
when no cell is changed and the rows are told apart as they should be. -/
theorem kept_texts_iff
    (laws : ext.FloatText)
    {received kept : List (List String)}
    (within : kept.Sublist received)
    (once : distinct = true → (kept.map (textKey ext)).Nodup)
    (covered : ∀ row ∈ received, ∃ other ∈ kept, textKey ext other = textKey ext row)
    (every : distinct = false → kept = received) :
    (kept.map fun row => row.map (reprint ext)).Perm received.dedup ↔
      (∀ row ∈ received, ∀ cell ∈ row, Canonical ext cell) ∧
        (if distinct then
          ∀ row ∈ received, ∀ other ∈ received, textKey ext row = textKey ext other → row = other
        else received.Nodup) := by
  have keptNodup : distinct = true → kept.Nodup := fun asked => (once asked).of_map _
  constructor
  · intro arranged
    have sizes : kept.length = received.dedup.length := by
      rw [← arranged.length_eq, List.length_map]
    have same : kept.Perm received.dedup := by
      cases distinct with
      | false =>
          rw [every rfl] at sizes ⊢
          rw [List.Sublist.eq_of_length (List.dedup_sublist received) sizes.symm]
      | true =>
          have subset : kept ⊆ received.dedup := fun row present =>
            List.mem_dedup.mpr (within.subset present)
          exact (List.subperm_of_subset (keptNodup rfl) subset).perm_of_length_le
            (le_of_eq sizes.symm)
    have complete : ∀ row ∈ received, row ∈ kept := fun row present =>
      same.mem_iff.mpr (List.mem_dedup.mpr present)
    refine ⟨?_, ?_⟩
    · intro row present cell inside
      rw [← reprint_eq_self_iff]
      exact cells_fixed_of_map_perm (reprint_settles laws) (arranged.trans same.symm) row
        (complete row present) cell inside
    · cases distinct with
      | false =>
          rw [every rfl] at same
          exact same.nodup_iff.mpr (List.nodup_dedup received)
      | true =>
          intro row present other otherPresent equal
          exact List.inj_on_of_nodup_map (once rfl) (complete row present)
            (complete other otherPresent) equal
  · rintro ⟨canonical, apart⟩
    rw [map_reprint_of_canonical fun row present => canonical row (within.subset present)]
    cases distinct with
    | false =>
        rw [every rfl, List.Nodup.dedup apart]
    | true =>
        refine (List.perm_ext_iff_of_nodup (keptNodup rfl) (List.nodup_dedup received)).mpr ?_
        intro row
        rw [List.mem_dedup]
        constructor
        · exact fun present => within.subset present
        · intro present
          obtain ⟨other, inside, equal⟩ := covered row present
          rwa [← apart other (within.subset inside) row present equal]

theorem keyOf_eq_texts
    (keys : ∀ item ∈ items, item = .key)
    (fits : row.Fits items) :
    row.keyOf = row.texts := by
  unfold GroupRow.Fits at fits
  induction fits with
  | nil => rfl
  | @cons item cell items row sort _ ih =>
      have rest := ih fun other listed =>
        keys other (List.mem_cons_of_mem item listed)
      obtain rfl := keys item List.mem_cons_self
      cases cell with
      | number value => exact sort.elim
      | key text => exact congrArg (text :: ·) rest

theorem groupRow_of_keys
    {head : GroupRow}
    {rest : List GroupRow}
    (keys : ∀ item ∈ items, item = .key)
    (fits : head.Fits items) :
    groupRow items (head :: rest) = head := by
  have lengths := fits.length_eq
  apply List.ext_getElem?
  intro colIdx
  rw [groupRow, List.getElem?_mapIdx]
  by_cases inside : colIdx < items.length
  · rw [List.getElem?_eq_getElem inside, List.getElem?_eq_getElem (lengths ▸ inside),
      keys _ (List.getElem_mem inside)]
    simp [groupCell, lengths ▸ inside]
  · rw [List.getElem?_eq_none (Nat.not_lt.mp inside),
      List.getElem?_eq_none (lengths ▸ Nat.not_lt.mp inside)]
    rfl

/-- Without calls the groups are the distinct rows. -/
theorem regroup_of_keys
    (keys : ∀ item ∈ items, item = .key)
    (fits : ∀ row ∈ rows, row.Fits items) :
    (regroup items rows).map GroupRow.texts = (rows.map GroupRow.texts).dedup := by
  have same : rows.map GroupRow.keyOf = rows.map GroupRow.texts :=
    List.map_congr_left fun row present => keyOf_eq_texts keys (fits row present)
  rw [regroup, List.map_map, ← same]
  calc
    _ = (rows.map GroupRow.keyOf).dedup.map id := by
      apply List.map_congr_left
      intro key listed
      obtain ⟨row, present, found⟩ := List.mem_map.mp (List.mem_dedup.mp listed)
      have chosen : row ∈ rows.filter fun row => row.keyOf = key :=
        List.mem_filter.mpr ⟨present, decide_eq_true found⟩
      obtain ⟨head, rest, split⟩ := List.exists_cons_of_ne_nil (List.ne_nil_of_mem chosen)
      have first : head ∈ rows.filter fun row => row.keyOf = key := by
        rw [split]
        exact List.mem_cons_self
      obtain ⟨headPresent, headKey⟩ := List.mem_filter.mp first
      have headFits := fits head headPresent
      rw [Function.comp_apply, split, groupRow_of_keys keys headFits,
        ← keyOf_eq_texts keys headFits]
      exact of_decide_eq_true headKey
    _ = _ := List.map_id _

/-- What makes the response to a query without calls right. -/
def RowsRight (ext : Externals) (plan : QueryPlan) (results : List QueryResult) : Prop :=
  let received := allRows { results := results }
  (plan.needsMerge = true →
    Sorts plan (flattenResults ext { results := results }).2
        (flattenResults ext { results := results }).1 ∧
      ∀ row ∈ received, ∀ cell ∈ row, Canonical ext cell) ∧
    (if plan.distinct then
      ∀ row ∈ received, ∀ other ∈ received, textKey ext row = textKey ext other → row = other
    else received.Nodup)

/-- Without aggregates a merge collects the kept rows. -/
theorem exists_collected
    (ext : Externals)
    (plain : plan.hasAgg = false)
    (cols : List String)
    (received : List (List String)) :
    ∃ kept : List (List String),
      collectStep plan cols (received.map fun row => row.map (inferType ext)) =
          kept.map (fun row => row.map (inferType ext)) ∧
        kept.Sublist received ∧
        (plan.distinct = true → (kept.map (textKey ext)).Nodup) ∧
        (∀ row ∈ received, ∃ other ∈ kept, textKey ext other = textKey ext row) ∧
        (plan.distinct = false → kept = received) := by
  simp only [collectStep, plain, Bool.false_eq_true, if_false]
  cases plan.distinct with
  | false =>
      exact ⟨received, rfl, List.Sublist.refl received, by rintro ⟨⟩,
        fun row present => ⟨row, present, rfl⟩, fun _ => rfl⟩
  | true =>
      obtain ⟨kept, within, same, once, covered⟩ :=
        exists_kept (fun row : List String => row.map (inferType ext)) received
      exact ⟨kept, same, within, fun _ => once, covered, by rintro ⟨⟩⟩

/-- Without aggregates and without a window a merge returns when its sort does,
with the collected rows in some order. -/
theorem merge_collected_iff
    {results : List QueryResult}
    {kept : List (List String)}
    (unlimited : plan.limit < 0)
    (unshifted : plan.offset ≤ 0)
    (collected : collectStep plan (flattenResults ext { results := results }).2
        (flattenResults ext { results := results }).1 =
      kept.map fun row => row.map (inferType ext))
    (expected : List (List String)) :
    (∃ response, mergeScatterResponses ext (some plan) { results := results } = .ok response ∧
        (allRows response).Perm expected) ↔
      Sorts plan (flattenResults ext { results := results }).2
          (flattenResults ext { results := results }).1 ∧
        (kept.map fun row => row.map (reprint ext)).Perm expected := by
  have noWindow : ¬(0 ≤ plan.limit ∨ 0 < plan.offset) := by omega
  rw [sorts_iff_returns]
  unfold mergeScatterResponses mergeRows
  simp only [Option.getD_some, collected]
  cases ordered : orderStep plan (flattenResults ext { results := results }).2
      (kept.map fun row => row.map (inferType ext)) with
  | error fault => simp
  | ok sorted =>
      have rearranged := (orderStep_perm ordered).map fun row => row.map Value.sprint
      rw [map_sprint_inferType] at rearranged
      simp only [windowStep, noWindow, if_false]
      constructor
      · rintro ⟨response, same, arranged⟩
        refine ⟨⟨sorted, rfl⟩, ?_⟩
        rw [← Except.ok.inj same] at arranged
        simp only [allRows, List.flatMap_cons, List.flatMap_nil, List.append_nil] at arranged
        exact rearranged.symm.trans arranged
      · rintro ⟨_, arranged⟩
        refine ⟨_, rfl, ?_⟩
        simp only [allRows, List.flatMap_cons, List.flatMap_nil, List.append_nil]
        exact rearranged.trans arranged

/-- The gate answers with the distinct received rows exactly when a merge finds
its sort columns and changes no cell, and rows repeated between shards are told
apart from others and dropped if DISTINCT asks for it. -/
theorem distinct_rows_iff
    (laws : ext.FloatText)
    (plain : plan.hasAgg = false)
    (unlimited : plan.limit < 0)
    (unshifted : plan.offset ≤ 0)
    (results : List QueryResult) :
    (∃ response, conclude ext plan results = .ok response ∧
        (allRows response).Perm (allRows { results := results }).dedup) ↔
      RowsRight ext plan results := by
  unfold conclude RowsRight
  by_cases merges : plan.needsMerge = true
  · obtain ⟨kept, collected, within, once, covered, every⟩ :=
      exists_collected ext plain (flattenResults ext { results := results }).2
        (allRows { results := results })
    rw [← flattenResults_rows] at collected
    rw [if_pos merges, merge_collected_iff unlimited unshifted collected,
      kept_texts_iff laws within once covered every]
    simp only [merges, true_implies, and_assoc]
  · have notDistinct : plan.distinct = false := by
      by_contra asked
      apply merges
      simp [QueryPlan.needsMerge, Bool.eq_true_of_not_eq_false asked]
    simp only [merges, notDistinct, Bool.false_eq_true, if_false, false_implies, true_and]
    constructor
    · rintro ⟨response, same, arranged⟩
      rw [← Except.ok.inj same] at arranged
      exact arranged.nodup_iff.mpr (List.nodup_dedup _)
    · intro once
      refine ⟨_, rfl, ?_⟩
      rw [once.dedup]

theorem hasAgg_of_keys
    (query : GroupQuery ext sel clause items)
    (keys : ∀ item ∈ items, item = .key) :
    (planOfClause ext sel clause).hasAgg = false := by
  simp only [planOfClause, List.any_map, List.any_eq_false, Function.comp_apply]
  intro selected listed
  obtain ⟨colIdx, written⟩ := List.mem_iff_getElem?.mp listed
  have bound : colIdx < items.length := by
    rw [query.selects.length_eq]
    exact (List.getElem?_eq_some_iff.mp written).1
  have column := List.getElem?_eq_getElem bound
  rw [keys _ (List.getElem_mem bound)] at column
  rw [(analyze_key (selected_of_item query column written)).1]
  exact Bool.false_ne_true

/-! ### The merge of groups -/

/-- The gate answers a grouped query with one row for each group exactly when
there is nothing to recombine: with calls all rows belong to one group whose
cells come out right, without calls the received rows are the distinct ones. -/
theorem groups_merged_iff
    (ext : Externals)
    (laws : ext.FloatText)
    (sel : Select)
    (clause : SelectClause)
    (items : List Item)
    (query : GroupQuery ext sel clause items)
    (text : String)
    (columns : List String)
    (wide : columns.length = items.length)
    (shards : List (List GroupRow))
    (fits : ∀ rows ∈ shards, ∀ row ∈ rows, row.Fits items) :
    MergesGroups ext (extractPlan ext (.ok [{ ast := .select sel, sql := text }])) columns items
        shards ↔
      if ∃ item ∈ items, item ≠ .key then
        OneGroup ext clause items shards.flatten
      else
        RowsRight ext (extractPlan ext (.ok [{ ast := .select sel, sql := text }]))
          (shards.map (shardGroups columns)) := by
  have planned : extractPlan ext (.ok [{ ast := .select sel, sql := text }]) =
      planOfClause ext sel clause := by
    simp only [extractPlan, query.body]
  rw [planned]
  split
  · rename_i calls
    exact aggregated_iff laws query calls fits wide
  · rename_i noCalls
    have keys : ∀ item ∈ items, item = .key := by
      simpa using noCalls
    have allFits : ∀ row ∈ shards.flatten, row.Fits items := by
      intro row present
      obtain ⟨source, shard, inside⟩ := List.mem_flatten.mp present
      exact fits source shard row inside
    have received : allRows { results := shards.map (shardGroups columns) } =
        shards.flatten.map GroupRow.texts := by
      rw [allRows, List.flatMap_map, List.map_flatten, List.flatMap_def]
      rfl
    rw [← distinct_rows_iff laws (hasAgg_of_keys query keys)
      (by simp [planOfClause, query.unlimited]) (by simp [planOfClause, query.unlimited]), received,
      ← regroup_of_keys keys allFits]
    exact Iff.rfl

/-- A query of one group column and a count. -/
def cityQuery : SelectClause where
  exprs :=
    [{ expr := .unresolvedName ["city"], as := "" },
      { expr := .funcExpr "COUNT" false [.other "*" []] false, as := "" }]
  tables := [.listed "users"]
  groupBy := [.unresolvedName ["city"]]

/-- The tree of the query. -/
def citySelect : Select where
  select := .selectClause cityQuery

theorem count_call : aggTypeOf (integralExternals.toUpper "COUNT") = some .count := by
  rw [integralExternals_toUpper (by decide)]
  decide

theorem cities_grouped : GroupQuery integralExternals citySelect cityQuery [.key, .count] where
  body := rfl
  selects := .cons ⟨["city"], rfl⟩ (.cons ⟨"COUNT", false, _, rfl, count_call⟩ .nil)
  grouped := by
    intro selected listed parts written
    rw [written]
    rcases List.mem_pair.mp listed with rfl | rfl
    · cases written
      exact List.mem_cons_self
    · cases written
  complete := by
    intro expr listed
    exact ⟨_, List.mem_cons_self, (List.mem_singleton.mp listed).symm⟩
  unconditional := rfl
  distinctOn := rfl
  unlimited := rfl

/-- A city that is called like the column, with its count on each of two shards. -/
def sameCity : List (List GroupRow) :=
  [[[.key "city", .number (1 : Int)]], [[.key "city", .number (2 : Int)]]]

theorem same_city_counted :
    MergesGroups integralExternals
      (extractPlan integralExternals
        (.ok [⟨.select citySelect, "SELECT city, COUNT(*) FROM users GROUP BY city"⟩]))
      ["city", "count"] [.key, .count] sameCity :=
  (groups_merged_iff integralExternals integralExternals_floatText citySelect cityQuery
    [.key, .count] cities_grouped "SELECT city, COUNT(*) FROM users GROUP BY city"
    ["city", "count"] rfl sameCity (by simp [sameCity, GroupRow.Fits, Cell.Fits]; decide)).mpr
    { nonempty := by decide
      single := by decide
      positions := by
        intro colIdx item selected column written
        rcases colIdx with _ | _ | colIdx
        · cases column
          cases written
          exact (by decide : ∀ row ∈ sameCity.flatten, row[0]? = some (.key "city"))
        · cases column
          cases written
          exact ⟨by decide, by rintro ⟨⟩⟩
        · cases column }

/-- One city on each of two shards, with its count. -/
def twoCities : List (List GroupRow) :=
  [[[.key "paris", .number (1 : Int)]], [[.key "rome", .number (2 : Int)]]]

/-- Two cities with their counts come back as one row that names neither. -/
theorem city_counts_collapse :
    ∃ response,
      conclude integralExternals
          (extractPlan integralExternals
            (.ok [{ ast := .select citySelect
                    sql := "SELECT city, COUNT(*) FROM users GROUP BY city" }]))
          (twoCities.map (shardGroups ["city", "count"])) = .ok response ∧
        allRows response = [["city", "3"]] ∧
        (regroup [.key, .count] twoCities.flatten).map GroupRow.texts =
          [["paris", "1"], ["rome", "2"]] ∧
        ¬ (allRows response).Perm
          ((regroup [.key, .count] twoCities.flatten).map GroupRow.texts) := by
  have planned : extractPlan integralExternals
      (.ok [{ ast := .select citySelect
              sql := "SELECT city, COUNT(*) FROM users GROUP BY city" }]) =
      { selects :=
          [{ rawExpr := "city" },
            { isAggregate := true, aggType := .count, aggColName := "*", rawExpr := "" }]
        hasAgg := true
        isCountStar := true } := by
    simp only [extractPlan, citySelect, cityQuery, planOfClause, List.map_cons, List.map_nil,
      analyzeSelectExpr, count_call]
    decide
  rw [planned]
  exact ⟨{ results :=
      [{ columns := ["city", "count"], rows := [["city", "3"]], rowsAffected := 1 }] },
    by decide, by decide, by decide, by decide⟩

end Aggregate
end VScale
