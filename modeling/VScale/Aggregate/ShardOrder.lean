import VScale.Aggregate.Duplicates
import VScale.Aggregate.Partials

/-!
# The order of the shards

The answers of the shards arrive in an order that depends on the order of a map.
Over integers, COUNT, MAX and MIN do not depend on it.  AVG is the first value
that is found, and the columns are those of the first answer, so these two parts
of the aggregate row follow the order.
-/

namespace VScale
namespace Aggregate

open Collections

variable {ext : Externals}

/-- All cells are integers or nil. -/
def IntegralRow (row : Row ext) : Prop :=
  ∀ cell ∈ row, cell = .null ∨ ∃ value, cell = .int64 value

theorem keyPart_free
    {cell : Value ext}
    (integral : cell = .null ∨ ∃ value, cell = .int64 value) :
    '\x01' ∉ cell.keyPart.toList ∧ cell.keyPart.toList ≠ [] := by
  rcases integral with rfl | ⟨value, rfl⟩
  · have null : '\x01' ∉ "\x00NULL\x00".toList ∧ "\x00NULL\x00".toList ≠ [] := by decide
    exact null
  · refine ⟨?_, Decimal.formatInt_ne_nil value⟩
    intro separator
    rcases Decimal.isDigit_of_mem_formatInt separator with digit | sign
    · exact absurd digit (by decide)
    · exact absurd sign (by decide)

/-- Integral cells with one key part are the same. -/
theorem keyPart_inj
    {first second : Value ext}
    (integralFirst : first = .null ∨ ∃ value, first = .int64 value)
    (integralSecond : second = .null ∨ ∃ value, second = .int64 value)
    (same : first.keyPart = second.keyPart) : first = second := by
  have apart : ∀ value, Decimal.formatInt value ≠ "\x00NULL\x00" := by
    intro value equal
    have scanned := Decimal.scanInt_formatInt value
    rw [equal] at scanned
    cases scanned
  rcases integralFirst with rfl | ⟨value, rfl⟩
  · rcases integralSecond with rfl | ⟨other, rfl⟩
    · rfl
    · exact absurd same.symm (apart other)
  · rcases integralSecond with rfl | ⟨other, rfl⟩
    · exact absurd same (apart value)
    · rw [Decimal.formatInt_inj.mp same]

/-- The pieces of a key give back the row. -/
theorem splitOn_rowKey
    {row : Row ext}
    (integral : IntegralRow row)
    (some : row ≠ []) :
    List.splitOn '\x01' (rowKey row).toList = row.map fun cell => cell.keyPart.toList := by
  have joined : (rowKey row).toList =
      ['\x01'].intercalate (row.map fun cell => cell.keyPart.toList) := by
    simp only [rowKey, String.toList_intercalate, List.map_map]
    rfl
  rw [joined]
  apply List.splitOn_intercalate
  · intro part listed
    obtain ⟨cell, present, rfl⟩ := List.mem_map.mp listed
    exact (keyPart_free (integral cell present)).1
  · rwa [ne_eq, List.map_eq_nil_iff]

theorem eq_of_map_eq_map
    {change : α → β}
    {first second : List α}
    (injective : ∀ a ∈ first, ∀ b ∈ second, change a = change b → a = b)
    (same : first.map change = second.map change) : first = second := by
  induction first generalizing second with
  | nil => exact (List.map_eq_nil_iff.mp same.symm).symm
  | cons head tail ih =>
      obtain ⟨other, rest, rfl, equal, later⟩ := List.map_eq_cons_iff.mp same.symm
      rw [injective head List.mem_cons_self other List.mem_cons_self equal.symm,
        ih (fun a inFirst b inSecond =>
          injective a (List.mem_cons_of_mem head inFirst) b (List.mem_cons_of_mem other inSecond))
          later.symm]

/-- Integral rows with one key are the same. -/
theorem rowKey_inj
    {first second : Row ext}
    (integralFirst : IntegralRow first)
    (integralSecond : IntegralRow second)
    (same : rowKey first = rowKey second) : first = second := by
  have empty : ∀ {row : Row ext}, IntegralRow row → rowKey row = rowKey ([] : Row ext) →
      row = [] := by
    intro row integral equal
    by_contra some
    have pieces := splitOn_rowKey integral some
    rw [equal] at pieces
    obtain ⟨cell, rest, rfl⟩ := List.exists_cons_of_ne_nil some
    have head : ([] : List Char) = cell.keyPart.toList := (List.cons.inj pieces).1
    exact (keyPart_free (integral cell List.mem_cons_self)).2 head.symm
  by_cases noFirst : first = []
  · rw [noFirst]
    rw [noFirst] at same
    exact (empty integralSecond same.symm).symm
  · by_cases noSecond : second = []
    · rw [noSecond] at same
      exact absurd (empty integralFirst same) noFirst
    · have pieces := splitOn_rowKey integralFirst noFirst
      rw [same, splitOn_rowKey integralSecond noSecond] at pieces
      refine eq_of_map_eq_map ?_ pieces.symm
      intro cell inFirst other inSecond equal
      exact keyPart_inj (integralFirst cell inFirst) (integralSecond other inSecond)
        (String.toList_inj.mp equal)

/-- DISTINCT keeps the same rows in every order. -/
theorem applyDistinct_perm
    {first second : List (Row ext)}
    (integral : ∀ row ∈ first, IntegralRow row)
    (same : first.Perm second) :
    (applyDistinct first).Perm (applyDistinct second) := by
  have other : ∀ row ∈ second, IntegralRow row := fun row present =>
    integral row (same.mem_iff.mpr present)
  have kept : ∀ {rows : List (Row ext)}, (∀ row ∈ rows, IntegralRow row) →
      (applyDistinct rows).Nodup ∧ ∀ row, row ∈ applyDistinct rows ↔ row ∈ rows := by
    intro rows integers
    obtain ⟨chosen, within, equal, once, represented⟩ := exists_kept (fun row : Row ext => row) rows
    rw [List.map_id'] at equal
    rw [List.map_id'] at equal
    rw [equal]
    refine ⟨once.of_map _, ?_⟩
    intro row
    constructor
    · exact fun inside => within.subset inside
    · intro present
      obtain ⟨twin, inside, key⟩ := represented row present
      rwa [← rowKey_inj (integers twin (within.subset inside)) (integers row present) key]
  refine (List.perm_ext_iff_of_nodup (kept integral).1 (kept other).1).mpr ?_
  intro row
  rw [(kept integral).2, (kept other).2, same.mem_iff]

/-- DISTINCT keeps the first row that has an integer in a column. -/
theorem head?_integers_applyDistinct
    {rows : List (Row ext)}
    (integral : ∀ row ∈ rows, IntegralRow row)
    (colIdx : Nat) :
    (integers (applyDistinct rows) colIdx).head? = (integers rows colIdx).head? := by
  have general : ∀ seen : List String,
      (∀ row ∈ rows, rowKey row ∈ seen → integerAt colIdx row = none) →
        (applyDistinctFrom seen rows).findSome? (integerAt colIdx) =
          rows.findSome? (integerAt colIdx) := by
    induction rows with
    | nil => exact fun _ _ => rfl
    | cons row rows ih =>
        intro seen skipped
        obtain ⟨here, there⟩ := List.forall_mem_cons.mp integral
        obtain ⟨skippedHere, skippedThere⟩ := List.forall_mem_cons.mp skipped
        unfold applyDistinctFrom
        by_cases old : rowKey row ∈ seen
        · rw [if_pos old, ih there seen skippedThere, List.findSome?_cons,
            skippedHere old]
        · rw [if_neg old, List.findSome?_cons, List.findSome?_cons]
          cases found : integerAt colIdx row with
          | some value => rfl
          | none =>
              apply ih there
              intro later present repeated
              rcases List.mem_cons.mp repeated with twin | before
              · rw [rowKey_inj (there later present) here twin, found]
              · exact skippedThere later present before
  simp only [integers, List.head?_filterMap]
  exact general [] (by rintro _ _ ⟨⟩)

/-- The aggregate of the integers of a column in the order in which they are found. -/
def integerAggregate
    (ext : Externals)
    (values : List Int) : AggType → Value ext
  | .count => .int64 (Decimal.wrap64 values.sum)
  | .max => integerValue ext values.max?
  | .min => integerValue ext values.min?
  | .avg => values.head?.elim .null fun value => .float64 (ext.floatOfInt value)
  | .sum => .null

/-- No integer becomes a NaN. -/
def IntegersAreNumbers (ext : Externals) : Prop :=
  ∀ value, ext.floatIsNaN (ext.floatOfInt value) = false

variable {values : List Int} {aggType : AggType}

theorem bestEffortAvg_of_column
    (numbers : IntegersAreNumbers ext)
    {rows : List (Row ext)}
    {colIdx : Nat}
    (column : ColumnHolds Value.int64 colIdx rows values) :
    bestEffortAvg rows colIdx = integerAggregate ext values .avg := by
  induction column with
  | nil => rfl
  | skip skipped _ ih =>
      rw [bestEffortAvg]
      rcases skipped with missing | missing
      · rw [missing]
        exact ih
      · rw [missing]
        exact ih
  | @take row rows value values found _ _ =>
      rw [bestEffortAvg, found]
      simp only [toFloat64, numbers value, Bool.false_eq_true, if_false]
      rfl

variable (ext) (plan : QueryPlan)

/-- The typed rows of all shards, made distinct if the plan asks for it. -/
def gatheredRows (results : List QueryResult) : List (Row ext) :=
  if plan.distinct then applyDistinct (flattenResults ext { results }).1
  else (flattenResults ext { results }).1

/-- One cell of the aggregate row. -/
def columnCell (results : List QueryResult) (colIdx : Nat) (sel : SelectExprInfo) : Value ext :=
  aggregateCell (flattenResults ext { results }).2 (gatheredRows ext plan results) colIdx sel

/-- The shards answer with integers and nil only. -/
def IntegralResults (results : List QueryResult) : Prop :=
  ∀ row ∈ allRows { results }, IntegralRow (row.map (inferType ext))

/-- The integers that one shard has in a column. -/
def shardIntegers (colIdx : Nat) (result : QueryResult) : List Int :=
  integers (result.rows.map fun row => row.map (inferType ext)) colIdx

variable {ext plan} {results permuted : List QueryResult} {colIdx : Nat}

theorem IntegralResults.rows (integral : IntegralResults ext results) :
    ∀ row ∈ (flattenResults ext { results }).1, IntegralRow row := by
  rw [flattenResults_rows]
  exact List.forall_mem_map.mpr integral

theorem allRows_perm (same : permuted.Perm results) :
    (allRows { results := permuted }).Perm (allRows { results }) :=
  same.flatMap_right QueryResult.rows

section Integral

variable (integral : IntegralResults ext results)
include integral

theorem IntegralResults.of_perm (same : permuted.Perm results) : IntegralResults ext permuted :=
  fun row present => integral row ((allRows_perm same).mem_iff.mp present)

theorem gatheredRows_integral :
    ∀ row ∈ gatheredRows ext plan results, IntegralRow row := by
  intro row present
  unfold gatheredRows at present
  split at present
  · exact integral.rows row ((applyDistinctFrom_sublist _ []).subset present)
  · exact integral.rows row present

/-- The order of the shards permutes the gathered rows. -/
theorem gatheredRows_perm
    (same : permuted.Perm results) :
    (gatheredRows ext plan permuted).Perm (gatheredRows ext plan results) := by
  have flat : (flattenResults ext { results := permuted }).1.Perm
      (flattenResults ext { results }).1 := by
    rw [flattenResults_rows, flattenResults_rows]
    exact (allRows_perm same).map _
  unfold gatheredRows
  split
  · exact applyDistinct_perm (integral.of_perm same).rows flat
  · exact flat

/-- The first integer of a column is the first one of some shard. -/
theorem head?_integers_gatheredRows :
    (integers (gatheredRows ext plan results) colIdx).head? =
      results.findSome? fun result => (shardIntegers ext colIdx result).head? := by
  have flat : (integers (flattenResults ext { results }).1 colIdx).head? =
      results.findSome? fun result => (shardIntegers ext colIdx result).head? := by
    rw [flattenResults_rows, allRows, List.map_flatMap, integers, List.filterMap_flatMap,
      List.head?_flatMap]
    rfl
  unfold gatheredRows
  split
  · rw [head?_integers_applyDistinct integral.rows, flat]
  · exact flat

end Integral

theorem flattenResults_columns (results : List QueryResult) :
    (flattenResults ext { results }).2 = (results.head?.map QueryResult.columns).getD [] := by
  cases results with
  | nil | cons => rfl

/-- A column of integers is aggregated as integers. -/
theorem columnCell_eq
    (numbers : IntegersAreNumbers ext)
    (integral : IntegralResults ext results)
    {sel : SelectExprInfo}
    (aggregate : sel.isAggregate = true)
    (supported : sel.aggType ≠ .sum) :
    columnCell ext plan results colIdx sel =
      if ((results.head?.map QueryResult.columns).getD []).length ≤ colIdx then .null
      else integerAggregate ext (integers (gatheredRows ext plan results) colIdx) sel.aggType := by
  have column : IntegerColumn (gatheredRows ext plan results) colIdx :=
    fun row present cell found =>
      gatheredRows_integral integral row present cell (List.mem_of_getElem? found)
  rw [columnCell, aggregateCell, flattenResults_columns, aggregate, Bool.not_true,
    if_neg Bool.false_ne_true]
  split
  · rfl
  · cases kind : sel.aggType with
    | count =>
        simp only [aggSumInt64_of_integers column]
        rfl
    | max => exact aggMax_of_integers column
    | min => exact aggMin_of_integers column
    | avg => exact bestEffortAvg_of_column numbers column.holds
    | sum => exact absurd kind supported

/-- No shard has the column; or there is nothing in it and it is no COUNT; or every shard has
it and, for an AVG, all shards start with the same value. -/
def SettledColumn
    (ext : Externals)
    (results : List QueryResult)
    (colIdx : Nat)
    (aggType : AggType) : Prop :=
  (∀ result ∈ results, result.columns.length ≤ colIdx) ∨
    (aggType ≠ .count ∧ ∀ result ∈ results, shardIntegers ext colIdx result = []) ∨
    ((∀ result ∈ results, colIdx < result.columns.length) ∧
      (aggType = .avg →
        ∀ first ∈ results, ∀ second ∈ results, ∀ value other,
          (shardIntegers ext colIdx first).head? = some value →
          (shardIntegers ext colIdx second).head? = some other →
            ext.sprintFloat (ext.floatOfInt value) = ext.sprintFloat (ext.floatOfInt other)))

theorem integers_gatheredRows_eq_nil_iff (integral : IntegralResults ext results) :
    integers (gatheredRows ext plan results) colIdx = [] ↔
      ∀ result ∈ results, shardIntegers ext colIdx result = [] := by
  rw [← List.head?_eq_none_iff, head?_integers_gatheredRows integral,
    List.findSome?_eq_none_iff]
  simp only [List.head?_eq_none_iff]

theorem integerAggregate_nil (other : aggType ≠ .count) :
    integerAggregate ext [] aggType = .null := by
  cases aggType with
  | count => exact absurd rfl other
  | _ => rfl

/-- Aggregates other than AVG do not depend on the order. -/
theorem integerAggregate_perm
    {first second : List Int}
    (same : first.Perm second)
    (other : aggType ≠ .avg) :
    integerAggregate ext first aggType = integerAggregate ext second aggType := by
  have members : ∀ value, value ∈ first ↔ value ∈ second := fun value => same.mem_iff
  cases aggType with
  | count => simp only [integerAggregate, same.sum_eq]
  | max => simp only [integerAggregate, max?_congr members]
  | min => simp only [integerAggregate, min?_congr members]
  | avg => exact absurd rfl other
  | sum => rfl

theorem sprint_integerAggregate_ne
    (laws : ext.FloatText)
    (supported : aggType ≠ .sum)
    (something : aggType = .count ∨ values ≠ []) :
    (integerAggregate ext values aggType).sprint ≠ "<nil>" := by
  cases aggType with
  | count => exact formatInt_ne_nilText _
  | sum => exact absurd rfl supported
  | max =>
      cases found : values.max? with
      | none => exact absurd (List.max?_eq_none_iff.mp found) (something.resolve_left nofun)
      | some value =>
          rw [integerAggregate, found]
          exact formatInt_ne_nilText value
  | min =>
      cases found : values.min? with
      | none => exact absurd (List.min?_eq_none_iff.mp found) (something.resolve_left nofun)
      | some value =>
          rw [integerAggregate, found]
          exact formatInt_ne_nilText value
  | avg =>
      obtain ⟨value, rest, rfl⟩ := List.exists_cons_of_ne_nil (something.resolve_left nofun)
      intro printed
      obtain ⟨again, read, _⟩ := laws.parse_sprint (ext.floatOfInt value)
      have unread : ext.parseFloat "<nil>" = none := laws.words "<nil>" (by decide)
      rw [← printed] at unread
      cases unread.symm.trans read

/-- An average by the first value found is the same when all that can be found are. -/
theorem sprint_average_perm
    {start : QueryResult → Option Int}
    (same : permuted.Perm results)
    (alike : ∀ first ∈ results, ∀ second ∈ results, ∀ value other,
      start first = some value → start second = some other →
        ext.sprintFloat (ext.floatOfInt value) = ext.sprintFloat (ext.floatOfInt other)) :
    ((permuted.findSome? start).elim (.null : Value ext)
        fun value => .float64 (ext.floatOfInt value)).sprint =
      ((results.findSome? start).elim (.null : Value ext)
        fun value => .float64 (ext.floatOfInt value)).sprint := by
  have none : permuted.findSome? start = none ↔ results.findSome? start = none := by
    simp only [List.findSome?_eq_none_iff, same.mem_iff]
  cases here : permuted.findSome? start with
  | none => rw [none.mp here]
  | some value =>
      cases there : results.findSome? start with
      | none => cases here.symm.trans (none.mpr there)
      | some other =>
          obtain ⟨first, inFirst, foundFirst⟩ := List.exists_of_findSome?_eq_some here
          obtain ⟨second, inSecond, foundSecond⟩ := List.exists_of_findSome?_eq_some there
          exact alike first (same.mem_iff.mp inFirst) second inSecond value other foundFirst
            foundSecond

theorem exists_perm_first
    {result : QueryResult}
    (present : result ∈ results) :
    ∃ rest, (result :: rest).Perm results := by
  obtain ⟨before, after, rfl⟩ := List.append_of_mem present
  exact ⟨before ++ after, List.perm_middle.symm⟩

section Column

variable (laws : ext.FloatText) (numbers : IntegersAreNumbers ext)
  (integral : IntegralResults ext results)
  {sel : SelectExprInfo} (aggregate : sel.isAggregate = true) (supported : sel.aggType ≠ .sum)

include numbers integral aggregate supported

variable {rest : List QueryResult} {result : QueryResult}

/-- A column that the first answer has not got is nil. -/
theorem columnCell_of_narrow
    (same : (result :: rest).Perm results)
    (narrow : result.columns.length ≤ colIdx) :
    columnCell ext plan (result :: rest) colIdx sel = .null := by
  rw [columnCell_eq numbers (integral.of_perm same) aggregate supported, if_pos]
  exact narrow

theorem columnCell_of_wide
    (same : (result :: rest).Perm results)
    (wide : colIdx < result.columns.length) :
    columnCell ext plan (result :: rest) colIdx sel =
      integerAggregate ext (integers (gatheredRows ext plan (result :: rest)) colIdx)
        sel.aggType := by
  rw [columnCell_eq numbers (integral.of_perm same) aggregate supported, if_neg]
  exact Nat.not_le.mpr wide

theorem columnCell_of_nothing
    (other : sel.aggType ≠ .count)
    (nothing : ∀ result ∈ results, shardIntegers ext colIdx result = []) :
    columnCell ext plan results colIdx sel = .null := by
  rw [columnCell_eq numbers integral aggregate supported,
    (integers_gatheredRows_eq_nil_iff integral).mpr nothing, integerAggregate_nil other, ite_self]

/-- The first integer of the first answer is the average. -/
theorem columnCell_of_avg
    (same : (result :: rest).Perm results)
    (wide : colIdx < result.columns.length)
    (kind : sel.aggType = .avg) :
    columnCell ext plan (result :: rest) colIdx sel =
      ((result :: rest).findSome? fun result => (shardIntegers ext colIdx result).head?).elim .null
        fun value => .float64 (ext.floatOfInt value) := by
  rw [columnCell_of_wide numbers integral aggregate supported same wide, kind, integerAggregate,
    head?_integers_gatheredRows (integral.of_perm same)]

/-- A settled column does not depend on the order. -/
theorem columnCell_perm_of_settled
    (settled : SettledColumn ext results colIdx sel.aggType)
    (same : permuted.Perm results) :
    (columnCell ext plan permuted colIdx sel).sprint =
      (columnCell ext plan results colIdx sel).sprint := by
  cases results with
  | nil => rw [same.eq_nil]
  | cons first rest =>
      cases permuted with
      | nil => exact absurd same.symm.eq_nil nofun
      | cons other others =>
          have itself := List.Perm.refl (first :: rest)
          have listed : other ∈ first :: rest := same.mem_iff.mp List.mem_cons_self
          rcases settled with narrow | ⟨kind, nothing⟩ | ⟨wide, alike⟩
          · rw [columnCell_of_narrow numbers integral aggregate supported same
                (narrow other listed),
              columnCell_of_narrow numbers integral aggregate supported itself
                (narrow first List.mem_cons_self)]
          · rw [columnCell_of_nothing numbers integral aggregate supported kind nothing,
              columnCell_of_nothing numbers (integral.of_perm same) aggregate supported kind
                fun result present => nothing result (same.mem_iff.mp present)]
          · have wideFirst := wide first List.mem_cons_self
            by_cases average : sel.aggType = .avg
            · rw [columnCell_of_avg numbers integral aggregate supported same (wide other listed)
                  average,
                columnCell_of_avg numbers integral aggregate supported itself wideFirst average]
              exact sprint_average_perm same (alike average)
            · rw [columnCell_of_wide numbers integral aggregate supported same (wide other listed),
                columnCell_of_wide numbers integral aggregate supported itself wideFirst,
                integerAggregate_perm
                  (integers_perm (gatheredRows_perm integral same) colIdx) average]

include laws

/-- A column that does not depend on the order is settled. -/
theorem settled_of_columnCell_perm
    (stable : ∀ permuted : List QueryResult, permuted.Perm results →
      (columnCell ext plan permuted colIdx sel).sprint =
        (columnCell ext plan results colIdx sel).sprint) :
    SettledColumn ext results colIdx sel.aggType := by
  by_cases narrow : ∀ result ∈ results, result.columns.length ≤ colIdx
  · exact .inl narrow
  by_cases nothing : sel.aggType ≠ .count ∧ ∀ result ∈ results, shardIntegers ext colIdx result = []
  · exact .inr (.inl nothing)
  have something : ∀ {rest : List QueryResult} {result : QueryResult},
      (result :: rest).Perm results → sel.aggType = .count ∨
        integers (gatheredRows ext plan (result :: rest)) colIdx ≠ [] := by
    intro rest result same
    by_contra neither
    rw [not_or, not_not, integers_gatheredRows_eq_nil_iff (integral.of_perm same)] at neither
    exact nothing ⟨neither.1, fun result present => neither.2 result (same.mem_iff.mpr present)⟩
  have shown : ∀ result ∈ results, colIdx < result.columns.length →
      (columnCell ext plan results colIdx sel).sprint ≠ "<nil>" := by
    intro result present wide
    obtain ⟨rest, same⟩ := exists_perm_first present
    rw [← stable _ same, columnCell_of_wide numbers integral aggregate supported same wide]
    exact sprint_integerAggregate_ne laws supported (something same)
  simp only [not_forall, Nat.not_le, exists_prop] at narrow
  obtain ⟨one, listed, oneWide⟩ := narrow
  have wide : ∀ result ∈ results, colIdx < result.columns.length := by
    intro result present
    by_contra short
    obtain ⟨rest, same⟩ := exists_perm_first present
    have printed := stable _ same
    rw [columnCell_of_narrow numbers integral aggregate supported same (Nat.not_lt.mp short)]
      at printed
    exact shown one listed oneWide printed.symm
  refine .inr (.inr ⟨wide, ?_⟩)
  have starts : sel.aggType = .avg → ∀ result ∈ results, ∀ value,
      (shardIntegers ext colIdx result).head? = some value →
        ext.sprintFloat (ext.floatOfInt value) =
          (columnCell ext plan results colIdx sel).sprint := by
    intro average result present value found
    obtain ⟨rest, same⟩ := exists_perm_first present
    rw [← stable _ same, columnCell_of_avg numbers integral aggregate supported same
      (wide result present) average, List.findSome?_cons, found]
    rfl
  intro average first inFirst second inSecond value other foundFirst foundSecond
  rw [starts average first inFirst value foundFirst,
    starts average second inSecond other foundSecond]

end Column

theorem answerRows_eq_iff (aggregates : plan.hasAgg = true) :
    answerRows ext plan permuted = answerRows ext plan results ↔
      (plan.KeepsOneRow → ∀ colIdx sel, plan.selects[colIdx]? = some sel →
        (columnCell ext plan permuted colIdx sel).sprint =
          (columnCell ext plan results colIdx sel).sprint) := by
  rw [answerRows_of_aggregates aggregates, answerRows_of_aggregates aggregates,
    windowStep_one_row_iff]
  refine imp_congr_right fun _ => ?_
  rw [List.ext_getElem?_iff]
  refine forall_congr' fun colIdx => ?_
  simp only [applyAggregation, List.getElem?_map, List.getElem?_mapIdx, Option.map_map]
  cases plan.selects[colIdx]? with
  | none => simp
  | some sel => simp [columnCell, gatheredRows]

/-- Over integers, the aggregate row of COUNT, MAX, MIN and AVG calls is the same for every
order of the shards exactly when every column is settled or the window leaves no row. -/
theorem answerRows_perm_iff
    (ext : Externals)
    (laws : ext.FloatText)
    (numbers : IntegersAreNumbers ext)
    (plan : QueryPlan)
    (aggregates : plan.hasAgg = true)
    (calls : ∀ sel ∈ plan.selects, sel.isAggregate = true ∧ sel.aggType ≠ .sum)
    (results : List QueryResult)
    (integral : IntegralResults ext results) :
    (∀ permuted : List QueryResult, permuted.Perm results →
      answerRows ext plan permuted = answerRows ext plan results) ↔
      (plan.KeepsOneRow → ∀ colIdx sel, plan.selects[colIdx]? = some sel →
        SettledColumn ext results colIdx sel.aggType) := by
  simp only [answerRows_eq_iff aggregates]
  constructor
  · intro stable returned colIdx sel selected
    obtain ⟨aggregate, supported⟩ := calls sel (List.mem_of_getElem? selected)
    exact settled_of_columnCell_perm laws numbers integral aggregate supported
      fun permuted same => stable permuted same returned colIdx sel selected
  · intro settled permuted same returned colIdx sel selected
    obtain ⟨aggregate, supported⟩ := calls sel (List.mem_of_getElem? selected)
    exact columnCell_perm_of_settled numbers integral aggregate supported
      (settled returned colIdx sel selected) same

/-- The plan of one call. -/
def callPlan (aggType : AggType) : QueryPlan :=
  { selects := [{ isAggregate := true, aggType }], hasAgg := true }

/-- The answer of a shard with one row of one cell. -/
def oneCell (text : String) : QueryResult :=
  { columns := ["value"], rows := [[text]], rowsAffected := 1 }

theorem integralResults_oneCells
    (first second : Int)
    (fitsFirst : Decimal.InInt64 first)
    (fitsSecond : Decimal.InInt64 second) :
    IntegralResults integralExternals
      [oneCell (Decimal.formatInt first), oneCell (Decimal.formatInt second)] := by
  have typed : ∀ {value : Int}, Decimal.InInt64 value → IntegralRow
      ([Decimal.formatInt value].map (inferType integralExternals)) := by
    intro value fits cell inside
    obtain rfl := List.mem_singleton.mp inside
    exact .inr ⟨value, inferType_formatInt fits⟩
  exact List.forall_mem_cons.mpr ⟨typed fitsFirst, List.forall_mem_singleton.mpr (typed fitsSecond)⟩

theorem count_of_two_shards_stable :
    [oneCell "6", oneCell "4"].Perm [oneCell "4", oneCell "6"] ∧
      answerRows integralExternals (callPlan .count) [oneCell "6", oneCell "4"] =
        answerRows integralExternals (callPlan .count) [oneCell "4", oneCell "6"] := by
  refine ⟨List.Perm.swap _ _ [], ?_⟩
  refine (answerRows_perm_iff integralExternals integralExternals_floatText (fun _ => rfl)
    (callPlan .count) rfl ?_ [oneCell "4", oneCell "6"]
    (integralResults_oneCells 4 6 (by decide) (by decide))).mpr ?_ _ (List.Perm.swap _ _ [])
  · decide
  · intro _ colIdx sel selected
    cases colIdx with
    | zero =>
        obtain rfl := Option.some.inj selected
        exact .inr (.inr ⟨by decide, nofun⟩)
    | succ colIdx => cases selected

/-- The average of two shards is the value of the one that is visited first. -/
theorem average_follows_shard_order :
    [oneCell "6", oneCell "4"].Perm [oneCell "4", oneCell "6"] ∧
      answerRows integralExternals (callPlan .avg) [oneCell "4", oneCell "6"] = .ok [["4"]] ∧
      answerRows integralExternals (callPlan .avg) [oneCell "6", oneCell "4"] = .ok [["6"]] := by
  refine ⟨List.Perm.swap _ _ [], ?_, ?_⟩
  · decide
  · decide

end Aggregate
end VScale
