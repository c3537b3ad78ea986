import Mathlib.Data.Int.ConditionallyCompleteOrder
import Mathlib.Order.ConditionallyCompleteLattice.Basic
import VScale.Aggregate.Fidelity
import VScale.Collections.Extremes
import VScale.Tablet.Handler

/-!
# Extremes over shards

A shard without rows answers MIN and MAX with NULL.  The gate types the text of
that NULL as a string, and compares a string with an integer by their texts, in
which the NULL comes after every integer.  So the gate takes extremes in the
integers with a greatest element added for NULL.
-/

namespace VScale
namespace Aggregate

open Collections Tree

/-- An extreme as the value a database returns: the top element stands for NULL. -/
def extremeValue : WithTop Int → SqlValue
  | ⊤ => .null
  | (value : Int) => .int64 value

theorem formatInt_ne_nilText (value : Int) : Decimal.formatInt value ≠ "<nil>" := by
  intro same
  have scanned := Decimal.scanInt_formatInt value
  rw [same] at scanned
  cases scanned

theorem sprint_extremeValue_inj {first second : WithTop Int} :
    (extremeValue first).sprint = (extremeValue second).sprint ↔ first = second := by
  cases first with
  | top =>
      cases second with
      | top => simp
      | coe value => simp [extremeValue, SqlValue.sprint, (formatInt_ne_nilText value).symm]
  | coe value =>
      cases second with
      | top => simp [extremeValue, SqlValue.sprint, formatInt_ne_nilText value]
      | coe other => simp [extremeValue, SqlValue.sprint, Decimal.formatInt_inj]

variable {ext : Externals}

/-- The gate's view of the text of an extreme. -/
def typedExtreme (ext : Externals) : WithTop Int → Value ext
  | ⊤ => .str "<nil>"
  | (value : Int) => .int64 value

theorem typedExtreme_ne_null (extreme : WithTop Int) : typedExtreme ext extreme ≠ .null := by
  cases extreme with
  | top | coe => rintro ⟨⟩

theorem inferType_nil (laws : ext.FloatText) : inferType ext "<nil>" = .str "<nil>" := by
  have unread : ext.parseFloat "<nil>" = none := laws.words "<nil>" (by decide)
  have unparsed : Decimal.parseInt "<nil>" = none := by decide
  have untrue : parseBool "<nil>" = none := by decide
  have unspelled : ¬("<nil>" = "NULL" ∨ "<nil>" = "null" ∨ "<nil>" = "") := by decide
  simp only [inferType, unspelled, if_false, unparsed, unread, untrue]

theorem inferType_extremeValue
    (laws : ext.FloatText)
    {extreme : WithTop Int}
    (fits : ∀ value : Int, extreme = value → Decimal.InInt64 value) :
    inferType ext (extremeValue extreme).sprint = typedExtreme ext extreme := by
  cases extreme with
  | top => exact inferType_nil laws
  | coe value => exact inferType_formatInt (fits value rfl)

/-- The text of NULL comes after the text of every integer. -/
theorem formatInt_lt_nil (value : Int) : Decimal.formatInt value < "<nil>" := by
  cases chars : (Decimal.formatInt value).toList with
  | nil => exact absurd chars (Decimal.formatInt_ne_nil value)
  | cons head tail =>
      have first : head ∈ (Decimal.formatInt value).toList := by
        rw [chars]
        exact List.mem_cons_self
      have small : head < '<' := by
        rcases Decimal.isDigit_of_mem_formatInt first with digit | rfl
        · have bound : head ≤ '9' := by
            simp only [Char.isDigit, Bool.and_eq_true, decide_eq_true_eq] at digit
            exact digit.2
          exact Nat.lt_of_le_of_lt bound (by decide : '9'.toNat < '<'.toNat)
        · decide
      change (Decimal.formatInt value).toList < "<nil>".toList
      rw [chars]
      exact List.Lex.rel small

theorem lessThan_typedExtreme (first second : WithTop Int) :
    (newComparable (typedExtreme ext first)).lessThan (newComparable (typedExtreme ext second)) =
      decide (first < second) := by
  cases first with
  | top =>
      cases second with
      | top =>
          exact decide_eq_decide.mpr
            (iff_of_false (List.lt_irrefl "<nil>".toList) (lt_irrefl (⊤ : WithTop Int)))
      | coe value =>
          exact decide_eq_decide.mpr (iff_of_false (List.lt_asymm (formatInt_lt_nil value))
            (not_top_lt : ¬ (⊤ : WithTop Int) < value))
  | coe value =>
      cases second with
      | top =>
          exact decide_eq_decide.mpr
            (iff_of_true (formatInt_lt_nil value) (WithTop.coe_lt_top value))
      | coe other => exact decide_eq_decide.mpr WithTop.coe_lt_coe.symm

theorem greaterThan_typedExtreme (first second : WithTop Int) :
    (newComparable (typedExtreme ext first)).greaterThan (newComparable (typedExtreme ext second)) =
      decide (second < first) := by
  have swapped : (newComparable (typedExtreme ext first)).greaterThan
      (newComparable (typedExtreme ext second)) =
        (newComparable (typedExtreme ext second)).lessThan
          (newComparable (typedExtreme ext first)) := by
    cases first <;> cases second <;> rfl
  rw [swapped, lessThan_typedExtreme]

/-- A column holds typed extremes. -/
def ColumnOf (rows : List (Row ext)) (colIdx : Nat) (cells : List (WithTop Int)) : Prop :=
  rows.map (fun row => row[colIdx]?) = cells.map fun cell => some (typedExtreme ext cell)

/-- One step of the search for the best cell of a column. -/
def bestStep
    (better : ComparableValue ext → ComparableValue ext → Bool)
    (colIdx : Nat)
    (best : Value ext)
    (row : Row ext) : Value ext :=
  match row[colIdx]? with
  | none => best
  | some .null => best
  | some value =>
      match best with
      | .null => value
      | held => if better (newComparable value) (newComparable held) then value else held

variable {colIdx : Nat} {cells : List (WithTop Int)} {rows : List (Row ext)} {aggType : AggType}
variable {func : String}

theorem bestStep_of_held
    {better : ComparableValue ext → ComparableValue ext → Bool}
    {row : Row ext}
    {value held : Value ext}
    (found : row[colIdx]? = some value)
    (present : value ≠ .null)
    (holding : held ≠ .null) :
    bestStep better colIdx held row =
      if better (newComparable value) (newComparable held) then value else held := by
  cases value with
  | null => exact absurd rfl present
  | int64 | float64 | bool | str => cases held <;> simp_all [bestStep]

/-- A column holds typed values, apart from cells that are missing or nil. -/
inductive ColumnHolds
    (typed : κ → Value ext)
    (colIdx : Nat) : List (Row ext) → List κ → Prop
  | nil : ColumnHolds typed colIdx [] []
  | skip {row : Row ext} {rows : List (Row ext)} {cells : List κ} :
      row[colIdx]? = none ∨ row[colIdx]? = some .null →
      ColumnHolds typed colIdx rows cells → ColumnHolds typed colIdx (row :: rows) cells
  | take {row : Row ext} {rows : List (Row ext)} {cell : κ} {cells : List κ} :
      row[colIdx]? = some (typed cell) →
      ColumnHolds typed colIdx rows cells → ColumnHolds typed colIdx (row :: rows) (cell :: cells)

theorem ColumnOf.holds
    (column : ColumnOf rows colIdx cells) : ColumnHolds (typedExtreme ext) colIdx rows cells := by
  induction cells generalizing rows with
  | nil =>
      rw [List.map_eq_nil_iff.mp column]
      exact .nil
  | cons cell cells ih =>
      obtain ⟨row, later, rfl, found, rest⟩ := List.map_eq_cons_iff.mp column
      exact .take found (ih rest)

section Fold

variable
  {typed : κ → Value ext}
  (present : ∀ cell, typed cell ≠ .null)
  {better : ComparableValue ext → ComparableValue ext → Bool}
  {pick : κ → κ → κ}
  (picks : ∀ held next,
    (if better (newComparable (typed next)) (newComparable (typed held)) then next else held) =
      pick held next)
  {colIdx : Nat} {rows : List (Row ext)} {cells : List κ}

theorem bestStep_of_skipped
    {best : Value ext}
    {row : Row ext}
    (skipped : row[colIdx]? = none ∨ row[colIdx]? = some .null) :
    bestStep better colIdx best row = best := by
  rcases skipped with missing | missing
  · rw [bestStep, missing]
  · rw [bestStep, missing]

include present picks

theorem foldl_bestStep
    (column : ColumnHolds typed colIdx rows cells)
    (held : κ) :
    rows.foldl (bestStep better colIdx) (typed held) = typed (cells.foldl pick held) := by
  induction column generalizing held with
  | nil => rfl
  | skip skipped _ ih =>
      rw [List.foldl_cons, bestStep_of_skipped skipped, ih]
  | @take row rows cell cells found _ ih =>
      have stepped : bestStep better colIdx (typed held) row = typed (pick held cell) := by
        rw [bestStep_of_held found (present cell) (present held), ← picks held cell,
          apply_ite typed]
      rw [List.foldl_cons, stepped, ih, List.foldl_cons]

/-- The best cell of a column is found by picking. -/
theorem aggBest_of_column
    {best : List κ → Option κ}
    (empty : best [] = none)
    (folds : ∀ cell cells, best (cell :: cells) = some (cells.foldl pick cell))
    (column : ColumnHolds typed colIdx rows cells) :
    aggBest better rows colIdx = ((best cells).map typed).getD .null := by
  change rows.foldl (bestStep better colIdx) .null = _
  induction column with
  | nil =>
      rw [empty]
      rfl
  | skip skipped _ ih => rw [List.foldl_cons, bestStep_of_skipped skipped, ih]
  | @take row rows cell cells found rest _ =>
      have started : bestStep better colIdx .null row = typed cell := by
        have some := present cell
        unfold bestStep
        rw [found]
        cases value : typed cell with
        | null => exact absurd value some
        | _ => rfl
      rw [List.foldl_cons, started, folds]
      exact foldl_bestStep present picks rest cell

end Fold

/-- What the gate prints for the best cell of a column. -/
theorem sprint_aggBest
    {better : ComparableValue ext → ComparableValue ext → Bool}
    {pick : WithTop Int → WithTop Int → WithTop Int}
    {best : List (WithTop Int) → Option (WithTop Int)}
    (picks : ∀ held next,
      (if better (newComparable (typedExtreme ext next)) (newComparable (typedExtreme ext held))
        then next else held) = pick held next)
    (empty : best [] = none)
    (folds : ∀ cell cells, best (cell :: cells) = some (cells.foldl pick cell))
    (column : ColumnOf rows colIdx cells) :
    (aggBest better rows colIdx).sprint = (extremeValue ((best cells).getD ⊤)).sprint := by
  rw [aggBest_of_column typedExtreme_ne_null picks empty folds column.holds]
  cases best cells with
  | none => rfl
  | some cell =>
      cases cell with
      | top | coe => rfl

/-- The extreme the gate takes of a column: nothing missing is left out. -/
def mergedExtreme : AggType → List (WithTop Int) → WithTop Int
  | .max, cells => cells.max?.getD ⊤
  | .min, cells => cells.min?.getD ⊤
  | _, _ => ⊤

theorem sprint_aggregateCell_of_extreme
    {cols : List String}
    {info : SelectExprInfo}
    (aggregates : info.isAggregate = true)
    (extreme : info.aggType = .max ∨ info.aggType = .min)
    (column : ColumnOf rows colIdx cells)
    (described : rows ≠ [] → colIdx < cols.length) :
    (aggregateCell cols rows colIdx info).sprint =
      (extremeValue (mergedExtreme info.aggType cells)).sprint := by
  unfold aggregateCell
  rw [aggregates, Bool.not_true, if_neg Bool.false_ne_true]
  by_cases narrow : cols.length ≤ colIdx
  · have empty : rows = [] := by
      by_contra some
      have wide := described some
      omega
    subst empty
    have none : cells = [] := List.map_eq_nil_iff.mp column.symm
    subst none
    rw [if_pos narrow]
    rcases extreme with kind | kind
    all_goals
      rw [kind]
      rfl
  · rw [if_neg narrow]
    rcases extreme with kind | kind
    · rw [kind]
      refine sprint_aggBest ?_ rfl (fun _ _ => List.max?_cons') column
      intro held next
      rw [greaterThan_typedExtreme, max_def_lt]
      simp only [decide_eq_true_eq]
    · rw [kind]
      refine sprint_aggBest ?_ rfl (fun _ _ => List.min?_cons') column
      intro held next
      rw [lessThan_typedExtreme, min_comm, min_def_lt]
      simp only [decide_eq_true_eq]

/-- A SELECT of one call on one expression. -/
def selectCall
    (func : String)
    (distinct : Bool)
    (argument : Expr)
    (name : String)
    (tables : List TableExpr)
    (filter : Option Expr)
    (text : String) : Statement where
  ast := .select
    { select := .selectClause
        { exprs := [{ expr := .funcExpr func distinct [argument] false, as := name }]
          tables := tables
          filter := filter } }
  sql := text

/-- The extreme of some rows that an aggregate asks for. -/
def extremeOf : AggType → List Int → WithTop Int
  | .max, rows => orTop rows.max?
  | .min, rows => orTop rows.min?
  | _, _ => ⊤

/-- What a tablet answers for the rows of its shard. -/
def shardExtreme (column : String) (aggType : AggType) (rows : List Int) : QueryResult :=
  TabletHandler.renderResult
    { sql := ""
      columns := [column]
      rows := [[extremeValue (extremeOf aggType rows)]]
      rowsAffected := 0 }

theorem mem_of_extremeOf
    {rows : List Int}
    {value : Int}
    (found : extremeOf aggType rows = value) :
    value ∈ rows := by
  cases aggType with
  | max => exact (List.max?_eq_some_iff.mp (orTop_eq_coe_iff.mp found)).1
  | min => exact (List.min?_eq_some_iff.mp (orTop_eq_coe_iff.mp found)).1
  | count | sum | avg => cases found

/-- The answers of the shards are a column of typed extremes. -/
theorem flattenResults_shardExtreme
    (laws : ext.FloatText)
    (column : String)
    (aggType : AggType)
    (shards : List (List Int))
    (fits : ∀ rows ∈ shards, ∀ value ∈ rows, Decimal.InInt64 value) :
    (flattenResults ext { results := shards.map (shardExtreme column aggType) }).1 =
      shards.map fun rows => [typedExtreme ext (extremeOf aggType rows)] := by
  have received : allRows { results := shards.map (shardExtreme column aggType) } =
      shards.map fun rows => [(extremeValue (extremeOf aggType rows)).sprint] := by
    rw [allRows, List.flatMap_map, List.map_eq_flatMap]
    rfl
  rw [flattenResults_rows, received, List.map_map]
  apply List.map_congr_left
  intro rows shard
  have typed : inferType ext (extremeValue (extremeOf aggType rows)).sprint = _ :=
    inferType_extremeValue laws fun value found =>
      fits rows shard value (mem_of_extremeOf found)
  simp only [Function.comp_apply, List.map_cons, List.map_nil, typed]

/-- MIN survives shards without rows; MAX does when every shard has rows or none has. -/
theorem mergedExtreme_eq_iff
    (extreme : aggType = .max ∨ aggType = .min)
    (shards : List (List Int)) :
    mergedExtreme aggType (shards.map (extremeOf aggType)) = extremeOf aggType shards.flatten ↔
      aggType = .min ∨ (∀ rows ∈ shards, rows ≠ []) ∨ (∀ rows ∈ shards, rows = []) := by
  rcases extreme with rfl | rfl
  · have merged := max?_getD_top_iff (shards.map fun rows => orTop rows.max?)
    rw [max?_present_map_max?] at merged
    rw [or_iff_right (by decide)]
    refine merged.trans (or_congr ?_ ?_)
    · simp only [List.mem_map, not_exists, not_and, orTop_eq_top_iff, List.max?_eq_none_iff,
        ne_eq]
    · simp only [List.forall_mem_map, orTop_eq_top_iff, List.max?_eq_none_iff]
  · refine iff_of_true ?_ (.inl rfl)
    have merged := min?_getD_top (shards.map fun rows => orTop rows.min?)
    rw [min?_present_map_min?] at merged
    exact merged

/-- The plan of one call consists of that call. -/
theorem extractPlan_selectCall
    (called : aggTypeOf (ext.toUpper func) = some aggType)
    (distinct : Bool)
    (argument : Expr)
    (name : String)
    (tables : List TableExpr)
    (filter : Option Expr)
    (text : String) :
    ∃ info plan,
      extractPlan ext (.ok [selectCall func distinct argument name tables filter text]) = plan ∧
        plan.selects = [info] ∧ plan.hasAgg = true ∧ plan.distinct = false ∧
        plan.limit < 0 ∧ plan.offset ≤ 0 ∧
        info.isAggregate = true ∧ info.aggType = aggType := by
  refine ⟨_, _, rfl, rfl, ?_, rfl, Int.negSucc_lt_zero 0, le_refl 0, ?_, ?_⟩
  all_goals simp [extractPlan, selectCall, planOfClause, analyzeSelectExpr, called]

theorem merge_shardExtreme
    (laws : ext.FloatText)
    (called : aggTypeOf (ext.toUpper func) = some aggType)
    (extreme : aggType = .max ∨ aggType = .min)
    (distinct : Bool)
    (argument : Expr)
    (name : String)
    (tables : List TableExpr)
    (filter : Option Expr)
    (text : String)
    (column : String)
    (shards : List (List Int))
    (fits : ∀ rows ∈ shards, ∀ value ∈ rows, Decimal.InInt64 value) :
    ∃ response,
      mergeScatterResponses ext
          (some (extractPlan ext
            (.ok [selectCall func distinct argument name tables filter text])))
          { results := shards.map (shardExtreme column aggType) } = .ok response ∧
        allRows response =
          [[(extremeValue (mergedExtreme aggType (shards.map (extremeOf aggType)))).sprint]] := by
  have typed := flattenResults_shardExtreme laws column aggType shards fits
  have holds : ColumnOf
      (flattenResults ext { results := shards.map (shardExtreme column aggType) }).1 0
      (shards.map (extremeOf aggType)) := by
    rw [typed]
    simp [ColumnOf]
  have described :
      (flattenResults ext { results := shards.map (shardExtreme column aggType) }).1 ≠ [] →
        0 < (flattenResults ext
          { results := shards.map (shardExtreme column aggType) }).2.length := by
    cases shards with
    | nil => simp [flattenResults]
    | cons rows shards => simp [flattenResults, shardExtreme, TabletHandler.renderResult]
  obtain ⟨info, plan, planned, selects, aggregates, all, unlimited, unshifted, isCall, kind⟩ :=
    extractPlan_selectCall called distinct argument name tables filter text
  have cell := sprint_aggregateCell_of_extreme isCall (by rwa [kind]) holds described
  obtain ⟨response, finished, rows⟩ := mergeScatterResponses_aggregate aggregates unlimited
    unshifted { results := shards.map (shardExtreme column aggType) }
  refine ⟨response, planned ▸ finished, ?_⟩
  rw [rows, all, if_neg Bool.false_ne_true, applyAggregation, selects]
  rw [kind] at cell
  simp only [List.mapIdx_cons, List.mapIdx_nil, List.map_cons, List.map_nil, cell]

/-- A scattered MIN or MAX returns the extreme over all rows, and NULL when there
is none, exactly when it is a MIN or no shard without rows meets one with rows. -/
theorem extreme_over_shards_iff
    (ext : Externals)
    (laws : ext.FloatText)
    (func : String)
    (aggType : AggType)
    (called : aggTypeOf (ext.toUpper func) = some aggType)
    (extreme : aggType = .max ∨ aggType = .min)
    (distinct : Bool)
    (argument : Expr)
    (name : String)
    (tables : List TableExpr)
    (filter : Option Expr)
    (text : String)
    (column : String)
    (shards : List (List Int))
    (fits : ∀ rows ∈ shards, ∀ value ∈ rows, Decimal.InInt64 value) :
    (∃ response,
      mergeScatterResponses ext
          (some (extractPlan ext
            (.ok [selectCall func distinct argument name tables filter text])))
          { results := shards.map (shardExtreme column aggType) } = .ok response ∧
        allRows response = [[(extremeValue (extremeOf aggType shards.flatten)).sprint]]) ↔
      aggType = .min ∨ (∀ rows ∈ shards, rows ≠ []) ∨ (∀ rows ∈ shards, rows = []) := by
  rw [← mergedExtreme_eq_iff extreme, ← sprint_extremeValue_inj]
  obtain ⟨response, finished, rows⟩ :=
    merge_shardExtreme laws called extreme distinct argument name tables filter text column
      shards fits
  constructor
  · rintro ⟨other, finishedOther, expected⟩
    obtain rfl : response = other := Except.ok.inj (finished.symm.trans finishedOther)
    simpa using rows.symm.trans expected
  · intro same
    refine ⟨response, finished, ?_⟩
    rw [rows, same]

theorem max_call : aggTypeOf (integralExternals.toUpper "MAX") = some .max := by
  rw [integralExternals_toUpper (by decide)]
  decide

theorem max_of_two_filled_shards :
    ∃ response,
      mergeScatterResponses integralExternals
          (some (extractPlan integralExternals
            (.ok [selectCall "MAX" false (.unresolvedName ["c"]) "" [.listed "t"] none
              "SELECT MAX(c) FROM t"])))
          { results := [[3], [5, -4]].map (shardExtreme "max" .max) } = .ok response ∧
        allRows response = [["5"]] :=
  (extreme_over_shards_iff integralExternals integralExternals_floatText "MAX" .max max_call
    (.inl rfl) false (.unresolvedName ["c"]) "" [.listed "t"] none "SELECT MAX(c) FROM t" "max"
    [[3], [5, -4]] (by decide)).mpr (.inr (.inl (by decide)))

/-- One shard without rows hides the greatest value of the others. -/
theorem max_lost_to_empty_shard :
    extremeOf .max [[3], []].flatten = (3 : Int) ∧
      ∃ response,
        mergeScatterResponses integralExternals
            (some (extractPlan integralExternals
              (.ok [selectCall "MAX" false (.unresolvedName ["c"]) "" [.listed "t"] none
                "SELECT MAX(c) FROM t"])))
            { results := [[3], []].map (shardExtreme "max" .max) } = .ok response ∧
          allRows response = [["<nil>"]] ∧
          allRows response ≠ [[(extremeValue (extremeOf .max [[3], []].flatten)).sprint]] := by
  obtain ⟨response, finished, rows⟩ :=
    merge_shardExtreme integralExternals_floatText max_call (.inl rfl) false
      (.unresolvedName ["c"]) "" [.listed "t"] none "SELECT MAX(c) FROM t" "max" [[3], []]
      (by decide)
  refine ⟨rfl, response, finished, rows, ?_⟩
  rw [rows]
  decide

end Aggregate
end VScale
