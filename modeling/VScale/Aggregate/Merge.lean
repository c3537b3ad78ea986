import VScale.Aggregate.Plan
import VScale.Aggregate.QuickSort
import VScale.Aggregate.Value
import VScale.Collections.RangeOrder
import VScale.Proto

/-!
# Merging the answers of the shards

The received rows are typed, made distinct, aggregated, sorted and cut to the
requested window, and then printed back into one result.
-/

namespace VScale
namespace Aggregate

open Collections

/-- How a function of the gate may fail to return. -/
inductive Fault
  | error (message : String)
  | crash
  deriving DecidableEq, Repr

variable {ext : Externals}

/-- Type the cells of all results; the columns are those of the first one. -/
def flattenResults (ext : Externals) (resp : QueryResponse) : List (Row ext) × List String :=
  match resp.results with
  | [] => ([], [])
  | first :: rest =>
      ((first :: rest).flatMap fun result => result.rows.map fun row => row.map (inferType ext),
        first.columns)

/-- Keep the first row with each key. -/
def applyDistinctFrom (seen : List String) : List (Row ext) → List (Row ext)
  | [] => []
  | row :: rows =>
      if rowKey row ∈ seen then applyDistinctFrom seen rows
      else row :: applyDistinctFrom (rowKey row :: seen) rows

/-- The rows without repetitions, each at its first place. -/
def applyDistinct (rows : List (Row ext)) : List (Row ext) :=
  applyDistinctFrom [] rows

/-- Sum of a column as 64-bit integers. -/
def aggSumInt64 (rows : List (Row ext)) (colIdx : Nat) : Int :=
  rows.foldl
    (fun (sum : Int) (row : Row ext) =>
      match row[colIdx]? with
      | some (.int64 value) => Decimal.wrap64 (sum + value)
      | some (.float64 value) => Decimal.wrap64 (sum + ext.floatToInt value)
      | some (.str text) =>
          match Decimal.parseInt text with
          | some value => Decimal.wrap64 (sum + value)
          | none => sum
      | _ => sum)
    0

/-- A cell as a float, NaN when it has none. -/
def toFloat64 : Value ext → ext.Float64
  | .int64 value => ext.floatOfInt value
  | .float64 value => value
  | .str text => ext.parseFloatValue text
  | _ => ext.floatNaN

/-- Sum of a column as floats, nil when no cell counts. -/
def aggSum (rows : List (Row ext)) (colIdx : Nat) : Value ext :=
  let total := rows.foldl
    (fun (total : Option ext.Float64) (row : Row ext) =>
      match row[colIdx]? with
      | none => total
      | some value =>
          if ext.floatIsNaN (toFloat64 value) then total
          else some (ext.floatAdd (total.getD (ext.floatOfInt 0)) (toFloat64 value)))
    none
  match total with
  | none => .null
  | some sum => .float64 sum

/-- The best non-nil cell of a column, where a later cell replaces the best so
far only when it is strictly better. -/
def aggBest
    (better : ComparableValue ext → ComparableValue ext → Bool)
    (rows : List (Row ext))
    (colIdx : Nat) : Value ext :=
  rows.foldl
    (fun (best : Value ext) (row : Row ext) =>
      match row[colIdx]? with
      | none => best
      | some .null => best
      | some value =>
          match best with
          | .null => value
          | held => if better (newComparable value) (newComparable held) then value else held)
    .null

/-- The largest cell of a column. -/
def aggMax (rows : List (Row ext)) (colIdx : Nat) : Value ext :=
  aggBest ComparableValue.greaterThan rows colIdx

/-- The smallest cell of a column. -/
def aggMin (rows : List (Row ext)) (colIdx : Nat) : Value ext :=
  aggBest ComparableValue.lessThan rows colIdx

/-- The first cell of a column that is a number. -/
def bestEffortAvg : List (Row ext) → Nat → Value ext
  | [], _ => .null
  | row :: rows, colIdx =>
      match row[colIdx]? with
      | none => bestEffortAvg rows colIdx
      | some .null => bestEffortAvg rows colIdx
      | some value =>
          if ext.floatIsNaN (toFloat64 value) then bestEffortAvg rows colIdx
          else .float64 (toFloat64 value)

/-- One cell of the aggregate row. -/
def aggregateCell
    (cols : List String)
    (rows : List (Row ext))
    (colIdx : Nat)
    (sel : SelectExprInfo) : Value ext :=
  if !sel.isAggregate then .str sel.rawExpr
  else if cols.length ≤ colIdx then .null
  else
    match sel.aggType with
    | .count => .int64 (aggSumInt64 rows colIdx)
    | .sum => aggSum rows colIdx
    | .max => aggMax rows colIdx
    | .min => aggMin rows colIdx
    | .avg => bestEffortAvg rows colIdx

/-- The single row that the rows of all shards are folded into. -/
def applyAggregation (plan : QueryPlan) (cols : List String) (rows : List (Row ext)) : Row ext :=
  plan.selects.mapIdx (aggregateCell cols rows)

/-- Positions of the result columns by lower-cased name; a later column of the
same name hides an earlier one. -/
def columnMap (ext : Externals) (cols : List String) : Map String Nat :=
  cols.zipIdx.foldl (fun colMap entry => colMap.insert (ext.toLower entry.1) entry.2) ∅

/-- The position of an ORDER BY column. -/
def orderIndex
    (ext : Externals)
    (colMap : Map String Nat)
    (column : OrderColumn) :
    Except Fault Nat :=
  match colMap.lookup (ext.toLower column.name) with
  | some index => .ok index
  | none =>
      match colMap.lookup column.name with
      | some index => .ok index
      | none => .error (.error
          ("aggregate: ORDER BY column " ++ ext.quote column.name ++ " not found in result set"))

/-- The positions of all ORDER BY columns, or the first one that is missing. -/
def orderIndices
    (ext : Externals)
    (colMap : Map String Nat) :
    List OrderColumn → Except Fault (List (Nat × Direction))
  | [] => .ok []
  | column :: columns =>
      match orderIndex ext colMap column with
      | .error fault => .error fault
      | .ok index =>
          match orderIndices ext colMap columns with
          | .error fault => .error fault
          | .ok indices => .ok ((index, column.direction) :: indices)

/-- Compare two rows column by column; a row that is too short panics. -/
def rowLess (left right : Row ext) : List (Nat × Direction) → Option Bool
  | [] => some false
  | (index, direction) :: keys =>
      match left[index]?, right[index]? with
      | some first, some second =>
          let vi := newComparable first
          let vj := newComparable second
          if !vi.equal vj then
            match direction with
            | .desc => some (vj.lessThan vi)
            | .asc => some (vi.lessThan vj)
          else rowLess left right keys
      | _, _ => none

/-- The comparison given to the quicksort: it reads the slice through indices. -/
def indexLess
    (keys : List (Nat × Direction))
    (rows : Array (Row ext))
    (i j : Nat) :
    Option Bool :=
  match rows[i]?, rows[j]? with
  | some left, some right => rowLess left right keys
  | _, _ => none

/-- Sort the rows by the columns of the ORDER BY. -/
def sortRows
    (cols : List String)
    (rows : List (Row ext))
    (orderBy : List OrderColumn) :
    Except Fault (List (Row ext)) :=
  match orderIndices ext (columnMap ext cols) orderBy with
  | .error fault => .error fault
  | .ok keys =>
      match quickSort (indexLess keys) rows.toArray with
      | none => .error .crash
      | some sorted => .ok sorted.toList

/-- The first row of the window. -/
def windowStart (n offset : Int) : Int :=
  if n < offset then n else offset

/-- The end of the window, in 64-bit arithmetic. -/
def windowEnd (n start limit : Int) : Int :=
  if 0 ≤ limit then
    if n < Decimal.wrap64 (start + limit) then n else Decimal.wrap64 (start + limit)
  else
    n

/-- Cut the rows to a window; a slice whose end lies before its start panics. -/
def applyLimitOffset (rows : List α) (offset limit : Int) : Except Fault (List α) :=
  let start := windowStart rows.length offset
  let stop := windowEnd rows.length start limit
  if 0 ≤ start ∧ start ≤ stop then
    .ok ((rows.drop start.toNat).take (stop - start).toNat)
  else
    .error .crash

/-- Sort when an ORDER BY is given and there is something to sort. -/
def orderStep
    (plan : QueryPlan)
    (cols : List String)
    (rows : List (Row ext)) :
    Except Fault (List (Row ext)) :=
  if 0 < plan.orderBy.length ∧ 1 < rows.length then sortRows cols rows plan.orderBy
  else .ok rows

/-- Cut to the window when one is given. -/
def windowStep (plan : QueryPlan) (rows : List α) : Except Fault (List α) :=
  if 0 ≤ plan.limit ∨ 0 < plan.offset then applyLimitOffset rows plan.offset plan.limit
  else .ok rows

/-- The rows of a merge before sorting. -/
def collectStep (plan : QueryPlan) (cols : List String) (rows : List (Row ext)) : List (Row ext) :=
  let rows := if plan.distinct then applyDistinct rows else rows
  if plan.hasAgg then [applyAggregation plan cols rows] else rows

/-- The typed rows of a merged answer. -/
def mergeRows
    (plan : QueryPlan)
    (cols : List String)
    (rows : List (Row ext)) :
    Except Fault (List (Row ext)) :=
  match orderStep plan cols (collectStep plan cols rows) with
  | .error fault => .error fault
  | .ok sorted => windowStep plan sorted

/-- Merge the responses of all shards by the plan of the query. -/
def mergeScatterResponses
    (ext : Externals)
    (plan : Option QueryPlan)
    (resp : QueryResponse) :
    Except Fault QueryResponse :=
  let flat := flattenResults ext resp
  match mergeRows (plan.getD {}) flat.2 flat.1 with
  | .error fault => .error fault
  | .ok rows =>
      .ok
        { results :=
            [{ sql := ""
               columns := flat.2
               rows := rows.map fun row => row.map Value.sprint
               rowsAffected := rows.length }] }

/-- Every ORDER BY column is found among the columns of a result. -/
def QueryPlan.Sortable (ext : Externals) (plan : QueryPlan) (columns : List String) : Prop :=
  ∀ column ∈ plan.orderBy, (orderIndex ext (columnMap ext columns) column).isOk = true

instance (ext : Externals) (plan : QueryPlan) (columns : List String) :
    Decidable (plan.Sortable ext columns) :=
  inferInstanceAs (Decidable (∀ column ∈ _, _))

variable {columns : List String} {plan : QueryPlan}

theorem orderIndices_of_found
    {orderBy : List OrderColumn}
    (found : ∀ column ∈ orderBy, (orderIndex ext (columnMap ext columns) column).isOk = true) :
    ∃ keys, orderIndices ext (columnMap ext columns) orderBy = .ok keys := by
  induction orderBy with
  | nil => exact ⟨[], rfl⟩
  | cons column rest ih =>
      obtain ⟨here, there⟩ := List.forall_mem_cons.mp found
      obtain ⟨keys, known⟩ := ih there
      cases position : orderIndex ext (columnMap ext columns) column with
      | error fault =>
          rw [position] at here
          cases here
      | ok index =>
          refine ⟨(index, column.direction) :: keys, ?_⟩
          simp only [orderIndices, position, known]

theorem found_of_orderIndices
    {orderBy : List OrderColumn}
    {keys : List (Nat × Direction)}
    (located : orderIndices ext (columnMap ext columns) orderBy = .ok keys) :
    ∀ column ∈ orderBy, (orderIndex ext (columnMap ext columns) column).isOk = true := by
  induction orderBy generalizing keys with
  | nil => exact nofun
  | cons column rest ih =>
      unfold orderIndices at located
      split at located
      · cases located
      · rename_i index position
        split at located
        · cases located
        · rename_i others known
          exact List.forall_mem_cons.mpr ⟨by rw [position]; rfl, ih known⟩

theorem windowStep_ne_error
    (plan : QueryPlan)
    (rows : List α)
    (failure : String) :
    windowStep plan rows ≠ .error (.error failure) := by
  unfold windowStep applyLimitOffset
  intro failed
  split at failed
  · simp only at failed
    split at failed
    · cases failed
    · cases failed
  · cases failed

theorem orderStep_ne_error
    {rows : List (Row ext)}
    (sortable : 1 < rows.length → plan.Sortable ext columns)
    (failure : String) :
    orderStep plan columns rows ≠ .error (.error failure) := by
  unfold orderStep
  intro failed
  split at failed
  · rename_i several
    obtain ⟨keys, known⟩ := orderIndices_of_found (sortable several.2)
    rw [sortRows, known] at failed
    simp only at failed
    split at failed
    · cases failed
    · cases failed
  · cases failed

/-- Without rows to merge there is one aggregated row or none. -/
theorem length_collectStep_of_no_rows
    (plan : QueryPlan)
    (cols : List String) :
    (collectStep plan cols ([] : List (Row ext))).length =
      (if plan.hasAgg then [()] else []).length := by
  have none : (if plan.distinct then applyDistinct ([] : List (Row ext)) else []) = [] := by
    split
    · rfl
    · rfl
  simp only [collectStep, none]
  split
  · rfl
  · rfl

theorem length_collectStep_nil
    (plan : QueryPlan)
    (columns : List String) :
    (collectStep plan columns ([] : List (Row ext))).length ≤ 1 := by
  rw [length_collectStep_of_no_rows]
  split
  · exact Nat.le_refl 1
  · exact Nat.zero_le 1

/-- A merge of sortable results reports no error. -/
theorem merge_ne_error
    {results : List QueryResult}
    (sortable : ∀ result ∈ results, plan.Sortable ext result.columns)
    (failure : String) :
    mergeScatterResponses ext (some plan) { results := results } ≠ .error (.error failure) := by
  have ordered : ∀ fault, orderStep plan (flattenResults ext { results }).2
      (collectStep plan (flattenResults ext { results }).2 (flattenResults ext { results }).1) ≠
        .error (.error fault) := by
    intro fault
    apply orderStep_ne_error
    cases results with
    | nil =>
        intro several
        exact absurd (length_collectStep_nil _ _) (Nat.not_le.mpr several)
    | cons first rest => exact fun _ => sortable first List.mem_cons_self
  intro failed
  simp only [mergeScatterResponses, Option.getD_some, mergeRows] at failed
  split at failed
  · rename_i fault merged
    injection failed with same
    subst same
    split at merged
    · rename_i fault sorted
      injection merged with same
      subst same
      exact ordered failure sorted
    · exact windowStep_ne_error _ _ failure merged
  · cases failed

end Aggregate
end VScale
