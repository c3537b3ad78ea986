import VScale.Aggregate.Fidelity

/-!
# What is read off a SELECT statement

The rewritten statement keeps the clauses that it copies; a locking clause and a
DISTINCT ON list are not copied.  The plan takes a query for an aggregating one
when an item of its select list is an aggregate call at the top, with or without
an OVER clause; calls further down are not seen.
-/

namespace VScale
namespace Aggregate

open Tree

/-- A query text that starts with a SELECT of a plain clause. -/
def selecting
    (sel : Select)
    (clause : SelectClause)
    (text : String)
    (rest : List Statement) :
    SqlText :=
  .ok ({ ast := .select { sel with select := .selectClause clause }, sql := text } :: rest)

/-- Two SELECT statements agree in all but DISTINCT, ORDER BY and LIMIT. -/
structure AgreesElsewhere
    (sel stripped : Select)
    (clause strippedClause : SelectClause) : Prop where
  ctes : stripped.ctes = sel.ctes
  exprs : strippedClause.exprs = clause.exprs
  tables : strippedClause.tables = clause.tables
  filter : strippedClause.filter = clause.filter
  groupBy : strippedClause.groupBy = clause.groupBy
  having : strippedClause.having = clause.having
  window : strippedClause.window = clause.window
  locking : stripped.locking = sel.locking
  distinctOn : strippedClause.distinctOn = clause.distinctOn

/-- The statement for the shards agrees with the original in all that the merge does not
restore exactly when that has no locking clause and no DISTINCT ON list. -/
theorem stripForScatter_agrees_iff
    (ext : Externals)
    (sel : Select)
    (clause : SelectClause)
    (text : String)
    (rest : List Statement) :
    (∃ stripped strippedClause,
      stripForScatter ext (selecting sel clause text rest) =
          .ok [{ ast := .select stripped, sql := ext.selectString stripped }] ∧
        stripped.select = .selectClause strippedClause ∧
        AgreesElsewhere sel stripped clause strippedClause) ↔
      sel.locking = [] ∧ clause.distinctOn = [] := by
  constructor
  · rintro ⟨stripped, strippedClause, built, plain, agrees⟩
    simp only [stripForScatter, selecting, Except.ok.injEq, List.cons.injEq, Statement.mk.injEq,
      Ast.select.injEq, and_true] at built
    obtain ⟨rfl, _⟩ := built
    obtain rfl := SelectStatement.selectClause.inj plain
    exact ⟨agrees.locking.symm, agrees.distinctOn.symm⟩
  · rintro ⟨unlocked, all⟩
    refine ⟨_, _, rfl, rfl, ?_⟩
    constructor
    case locking => exact unlocked.symm
    case distinctOn => exact all.symm
    all_goals rfl

/-- A SELECT of one column of a table. -/
def oneColumn : SelectClause where
  exprs := [{ expr := .unresolvedName ["id"], as := "" }]
  tables := [.listed "t"]

/-- An ordered SELECT FOR UPDATE. -/
def lockingSelect : Select where
  select := .selectClause oneColumn
  orderBy := [{ expr := .unresolvedName ["id"], direction := .ascending }]
  locking := ["FOR UPDATE"]

/-- A query that takes row locks. -/
def lockingQuery : SqlText :=
  selecting lockingSelect oneColumn "SELECT id FROM t ORDER BY id FOR UPDATE" []

/-- The query is rewritten for the shards and its lock is gone. -/
theorem stripForScatter_drops_lock :
    (extractPlan integralExternals lockingQuery).needsShardRewrite = true ∧
      ∃ stripped,
        stripForScatter integralExternals lockingQuery =
            .ok [{ ast := .select stripped, sql := integralExternals.selectString stripped }] ∧
          stripped.locking = [] ∧ lockingSelect.locking = ["FOR UPDATE"] :=
  ⟨by decide, _, rfl, rfl, rfl⟩

/-- The expressions an expression is made of. -/
def operands : Expr → List Expr
  | .andExpr left right => [left, right]
  | .orExpr left right => [left, right]
  | .notExpr expr => [expr]
  | .parenExpr expr => [expr]
  | .comparisonExpr _ left right => [left, right]
  | .funcExpr _ _ exprs _ => exprs
  | .other _ operands => operands
  | .unresolvedName _ | .numVal _ _ | .strVal _ | .subquery _ => []

/-- An expression occurs in another one at some depth. -/
inductive Occurs : Expr → Expr → Prop
  | here (expr : Expr) : Occurs expr expr
  | deeper {inner operand expr : Expr} :
      operand ∈ operands expr → Occurs inner operand → Occurs inner expr

variable (ext : Externals)

/-- A call of an aggregate function, with or without an OVER clause. -/
def IsAggregateCall (windowed : Bool) : Expr → Prop
  | .funcExpr func _ _ windowDef =>
      windowDef = windowed ∧ (aggTypeOf (ext.toUpper func)).isSome = true
  | _ => False

/-- Some aggregate call without an OVER clause occurs in an expression. -/
def Aggregates (expr : Expr) : Prop :=
  ∃ call, Occurs call expr ∧ IsAggregateCall ext false call

variable {ext}

theorem aggregates_iff {expr : Expr} :
    Aggregates ext expr ↔
      IsAggregateCall ext false expr ∨ ∃ operand ∈ operands expr, Aggregates ext operand := by
  constructor
  · rintro ⟨call, occurs, calls⟩
    cases occurs with
    | here => exact .inl calls
    | deeper inside further => exact .inr ⟨_, inside, call, further, calls⟩
  · rintro (calls | ⟨operand, inside, call, further, calls⟩)
    · exact ⟨expr, .here expr, calls⟩
    · exact ⟨call, .deeper inside further, calls⟩

/-- The plan looks at the top of an item only, and not for an OVER clause. -/
theorem isAggregate_iff {item : SelectExpr} :
    (analyzeSelectExpr ext item).isAggregate = true ↔
      IsAggregateCall ext false item.expr ∨ IsAggregateCall ext true item.expr := by
  unfold analyzeSelectExpr IsAggregateCall
  cases item.expr with
  | funcExpr func distinct exprs windowDef =>
      cases found : aggTypeOf (ext.toUpper func) with
      | none => simp [found]
      | some aggType => cases windowDef <;> simp [found]
  | _ => simp

/-- A query text that starts with a SELECT of a plain clause without GROUP BY. -/
def ungrouped
    (sel : Select)
    (clause : SelectClause)
    (text : String)
    (rest : List Statement) :
    SqlText :=
  selecting sel { clause with groupBy := [] } text rest

/-- The plan of a query knows whether the query aggregates.  Without LIMIT, one row is
merged if it does, and all rows, or all different ones, are if it does not. -/
structure RecognisesAggregation
    (ext : Externals)
    (sel : Select)
    (clause : SelectClause)
    (plan : QueryPlan) : Prop where
  hasAgg : plan.hasAgg = true ↔ ∃ item ∈ clause.exprs, Aggregates ext item.expr
  oneRow : (∃ item ∈ clause.exprs, Aggregates ext item.expr) → sel.limit = none →
    ∀ resp, ∃ merged, mergeScatterResponses ext (some plan) resp = .ok merged ∧
      (allRows merged).length = 1
  allOfThem : (¬ ∃ item ∈ clause.exprs, Aggregates ext item.expr) → sel.limit = none →
    ∀ resp merged, mergeScatterResponses ext (some plan) resp = .ok merged →
      (allRows merged).length =
        if clause.distinct then (applyDistinct (flattenResults ext resp).1).length
        else (allRows resp).length

theorem hasAgg_iff
    (sel : Select)
    (clause : SelectClause)
    (text : String)
    (rest : List Statement) :
    (extractPlan ext (ungrouped sel clause text rest)).hasAgg = true ↔
      ∃ item ∈ clause.exprs,
        IsAggregateCall ext false item.expr ∨ IsAggregateCall ext true item.expr := by
  simp only [← isAggregate_iff]
  change (clause.exprs.map (analyzeSelectExpr ext)).any (fun info => info.isAggregate) = true ↔ _
  rw [List.any_map, List.any_eq_true]
  rfl

theorem mergeRows_length
    {plan : QueryPlan}
    {cols : List String}
    {rows merged : List (Row ext)}
    (plain : plan.hasAgg = false)
    (unlimited : plan.limit < 0)
    (unshifted : plan.offset ≤ 0)
    (finished : mergeRows plan cols rows = .ok merged) :
    merged.length = if plan.distinct then (applyDistinct rows).length else rows.length := by
  unfold mergeRows at finished
  split at finished
  · cases finished
  · rename_i sorted ordered
    have noWindow : ¬(0 ≤ plan.limit ∨ 0 < plan.offset) := by omega
    rw [windowStep, if_neg noWindow] at finished
    injection finished with same
    rw [← same, (orderStep_perm ordered).length_eq]
    simp only [collectStep, plain, Bool.false_eq_true, if_false]
    split
    · rfl
    · rfl

theorem recognisesAggregation_of_hasAgg
    {sel : Select}
    {clause : SelectClause}
    {text : String}
    {rest : List Statement}
    (hasAgg : (extractPlan ext (ungrouped sel clause text rest)).hasAgg = true ↔
      ∃ item ∈ clause.exprs, Aggregates ext item.expr) :
    RecognisesAggregation ext sel clause (extractPlan ext (ungrouped sel clause text rest)) := by
  have window : sel.limit = none →
      (extractPlan ext (ungrouped sel clause text rest)).limit < 0 ∧
        (extractPlan ext (ungrouped sel clause text rest)).offset ≤ 0 := by
    intro unlimited
    simp [extractPlan, ungrouped, selecting, planOfClause, unlimited]
  refine ⟨hasAgg, ?_, ?_⟩
  · intro aggregating unlimited resp
    obtain ⟨merged, finished, rows⟩ := mergeScatterResponses_aggregate (hasAgg.mpr aggregating)
      (window unlimited).1 (window unlimited).2 resp
    exact ⟨merged, finished, by rw [rows, List.length_singleton]⟩
  · intro plain unlimited resp merged finished
    obtain ⟨rows, ran, printed⟩ := mergeScatterResponses_ok finished
    have unmerged := Bool.eq_false_iff.mpr fun found => plain (hasAgg.mp found)
    rw [printed, List.length_map,
      mergeRows_length unmerged (window unlimited).1 (window unlimited).2 ran]
    have received : (flattenResults ext resp).1.length = (allRows resp).length := by
      rw [flattenResults_rows, List.length_map]
    rw [← received]
    rfl

/-- Aggregating queries are recognised exactly when some item of the select list is an
aggregate call without OVER, or else when an item is one with OVER just in case an aggregate
call without OVER occurs below the top of some item. -/
theorem recognisesAggregation_iff
    (ext : Externals)
    (sel : Select)
    (clause : SelectClause)
    (text : String)
    (rest : List Statement) :
    RecognisesAggregation ext sel clause (extractPlan ext (ungrouped sel clause text rest)) ↔
      (∃ item ∈ clause.exprs, IsAggregateCall ext false item.expr) ∨
        ((∃ item ∈ clause.exprs, IsAggregateCall ext true item.expr) ↔
          ∃ item ∈ clause.exprs, ∃ operand ∈ operands item.expr, Aggregates ext operand) := by
  have split : (∃ item ∈ clause.exprs, Aggregates ext item.expr) ↔
      (∃ item ∈ clause.exprs, IsAggregateCall ext false item.expr) ∨
        ∃ item ∈ clause.exprs, ∃ operand ∈ operands item.expr, Aggregates ext operand := by
    rw [← exists_or]
    apply exists_congr
    intro item
    rw [← and_or_left, aggregates_iff]
  have seen : (extractPlan ext (ungrouped sel clause text rest)).hasAgg = true ↔
      (∃ item ∈ clause.exprs, IsAggregateCall ext false item.expr) ∨
        ∃ item ∈ clause.exprs, IsAggregateCall ext true item.expr := by
    rw [hasAgg_iff, ← exists_or]
    apply exists_congr
    intro item
    rw [← and_or_left]
  have logic : ∀ direct windowed buried : Prop,
      (direct ∨ windowed ↔ direct ∨ buried) ↔ direct ∨ (windowed ↔ buried) := by
    intro direct windowed buried
    by_cases plain : direct
    · simp only [plain, true_or]
    · simp only [plain, false_or]
  rw [← logic, ← seen, ← split]
  constructor
  · intro recognised
    exact recognised.hasAgg
  · exact recognisesAggregation_of_hasAgg

/-- A SELECT of one expression without further clauses. -/
def bareSelect (expr : Expr) : SqlText :=
  ungrouped { lockingSelect with orderBy := [], locking := [] }
    { oneColumn with exprs := [{ expr, as := "" }] } "" []

/-- A total over no rows read as zero. -/
def totalOrZero : Expr :=
  .other "COALESCE" [.funcExpr "SUM" false [.unresolvedName ["a"]] false, .numVal "0"]

/-- The number of all rows beside each of them. -/
def countBesideRows : Expr :=
  .funcExpr "COUNT" false [.other "*" []] true

theorem integralExternals_sum :
    (aggTypeOf (integralExternals.toUpper "SUM")).isSome = true := by
  rw [integralExternals_toUpper (by decide)]
  decide

theorem not_aggregates_countBesideRows : ¬ Aggregates integralExternals countBesideRows := by
  rintro ⟨call, occurs, calls⟩
  cases occurs with
  | here => cases calls.1
  | deeper inside further =>
      obtain rfl := List.mem_singleton.mp inside
      cases further with
      | here => exact calls
      | deeper none _ => cases none

/-- A total inside COALESCE is not taken for an aggregate and the rows of the shards stay
apart; a count with OVER is, and its rows become one. -/
theorem aggregation_misread :
    (Aggregates integralExternals totalOrZero ∧
      (extractPlan integralExternals (bareSelect totalOrZero)).hasAgg = false) ∧
      ¬ Aggregates integralExternals countBesideRows ∧
      (extractPlan integralExternals (bareSelect countBesideRows)).hasAgg = true := by
  refine ⟨⟨⟨_, .deeper List.mem_cons_self (.here _), rfl, integralExternals_sum⟩, rfl⟩,
    not_aggregates_countBesideRows, ?_⟩
  have counts : aggTypeOf (integralExternals.toUpper "COUNT") = some .count := by
    rw [integralExternals_toUpper (by decide)]
    decide
  simp [extractPlan, ungrouped, selecting, planOfClause, bareSelect, countBesideRows,
    analyzeSelectExpr, counts]

end Aggregate
end VScale
