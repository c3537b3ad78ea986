import VScale.Aggregate.Fidelity
import VScale.Aggregate.GroupMerge
import VScale.Aggregate.Slices
import VScale.Pgwire.Completion

/-!
# Rows as wide as their columns

A merge without aggregates returns received rows.  With aggregates the only row
is built from the select list, while the columns come from the shards, so the
row fits its columns only when every item of the select list stands for exactly
one of them.  A row that is too short makes the connection panic.
-/

namespace VScale
namespace Pgwire

open Aggregate Tree

variable {ext : Externals}

/-- Every row of a result has one value for each column. -/
def Fitting (result : QueryResult) : Prop :=
  ∀ row ∈ result.rows, row.length = result.columns.length

/-- All merged results have rows that fit their columns and can be sent. -/
def MergesFitting (ext : Externals) (plan : QueryPlan) (results : List QueryResult) : Prop :=
  ∀ merged, mergeScatterResponses ext (some plan) { results } = .ok merged →
    ∀ result ∈ merged.results, Fitting result ∧ sendResult ext result ≠ none

/-- Describing the columns looks no further than the first row reaches. -/
theorem describe_of_width
    (ext : Externals)
    (qr : QueryResult) :
    ∀ (columns : List String) (colIdx : Nat),
      (∀ row ∈ qr.rows, colIdx + columns.length ≤ row.length) →
        (describe ext qr colIdx columns).isSome = true := by
  intro columns
  induction columns with
  | nil => exact fun _ _ => rfl
  | cons column columns ih =>
      intro colIdx wide
      have later := ih (colIdx + 1) fun row listed => by
        have := wide row listed
        rw [List.length_cons] at this
        omega
      obtain ⟨fields, described⟩ := Option.isSome_iff_exists.mp later
      have typed : (inferOID ext qr colIdx).isSome = true := by
        unfold inferOID
        cases rows : qr.rows with
        | nil => rfl
        | cons row rest =>
            have := wide row (rows ▸ List.mem_cons_self)
            rw [List.length_cons] at this
            rw [Option.isSome_map, List.getElem?_eq_getElem (by omega)]
            rfl
      obtain ⟨oid, found⟩ := Option.isSome_iff_exists.mp typed
      simp only [describe, found, described]
      rfl

theorem Fitting.sendable
    {result : QueryResult}
    (fitting : Fitting result) :
    sendResult ext result ≠ none := by
  have described := describe_of_width ext result result.columns 0
    fun row listed => by rw [fitting row listed, Nat.zero_add]
  obtain ⟨fields, same⟩ := Option.isSome_iff_exists.mp described
  rw [sendResult, same]
  simp only
  split
  · rintro ⟨⟩
  · rintro ⟨⟩

/-- The window leaves a single row in place. -/
def KeepsOne (plan : QueryPlan) : Prop :=
  plan.offset ≤ 0 ∧ plan.limit ≠ 0 ∧ (0 ≤ plan.limit → plan.offset = 0)

instance (plan : QueryPlan) : Decidable (KeepsOne plan) :=
  inferInstanceAs (Decidable (_ ∧ _ ∧ _))

variable {plan : QueryPlan}

theorem windowStep_of_keepsOne
    (bounded : Decimal.InInt64 plan.limit)
    (keeps : KeepsOne plan)
    (row : α) : windowStep plan [row] = .ok [row] := by
  obtain ⟨unshifted, some, start⟩ := keeps
  unfold windowStep
  split
  · have limited : 0 ≤ plan.limit := by
      omega
    rw [start limited, applyLimitOffset_of_fits [row] (Int.le_refl 0) limited (by
      have := bounded.2
      simpa using this), slice, if_pos limited]
    congr 1
    apply List.take_of_length_le
    rw [Int.toNat_zero, List.drop_zero, List.length_singleton]
    omega
  · rfl

theorem windowStep_of_not_keepsOne
    (drops : ¬ KeepsOne plan)
    (row : α)
    {kept : List α}
    (cut : windowStep plan [row] = .ok kept) : kept = [] := by
  unfold windowStep at cut
  split at cut
  · unfold applyLimitOffset at cut
    simp only [List.length_singleton, show ((1 : Nat) : Int) = 1 from rfl] at cut
    split at cut
    · rename_i within
      injection cut with same
      rw [← same]
      rcases Int.lt_or_le 0 (windowStart 1 plan.offset) with shifted | first
      · rw [List.drop_of_length_le, List.take_nil]
        rw [List.length_singleton]
        omega
      · have start : windowStart 1 plan.offset = 0 := by
          exact Int.le_antisymm first within.1
        have offset : plan.offset = 0 := by
          unfold windowStart at start
          split at start
          · exact absurd start (by decide)
          · exact start
        have limit : plan.limit = 0 := by
          by_contra some
          exact drops ⟨by omega, some, fun _ => offset⟩
        rw [start, limit]
        rfl
    · cases cut
  · exact absurd ⟨by omega, by omega, fun _ => by omega⟩ drops

/-- The limit of a plan is a 64-bit integer. -/
theorem limit_inInt64
    (ext : Externals)
    (sql : SqlText) :
    Decimal.InInt64 (extractPlan ext sql).limit := by
  have literal : ∀ expr, Decimal.InInt64 (evalIntExpr expr) := by
    intro expr
    unfold evalIntExpr
    split
    · unfold Decimal.atoi
      split
      · decide
      · unfold Decimal.InInt64 Decimal.minInt64 Decimal.maxInt64
        omega
    · decide
  unfold extractPlan
  split
  · split
    · rename_i sel _ _ _ clause _
      simp only [planOfClause]
      cases sel.limit.bind Limit.count with
      | none => decide
      | some expr => exact literal expr
    · decide
  · decide

section Merged

variable {plan : QueryPlan} {columns : List String} {results : List QueryResult}

/-- The merged response carries the columns of the shards. -/
theorem merged_result
    (some : results ≠ [])
    (shared : ∀ result ∈ results, result.columns = columns)
    {merged : QueryResponse}
    (returned : mergeScatterResponses ext (Option.some plan) { results } = .ok merged) :
    ∃ rows : List (Row ext),
      mergeRows plan columns (flattenResults ext { results }).1 = .ok rows ∧
        ∃ result, merged.results = [result] ∧ result.columns = columns ∧
          result.rows = rows.map fun row => row.map Value.sprint := by
  have named : (flattenResults ext { results }).2 = columns := by
    cases results with
    | nil => exact absurd rfl some
    | cons first rest => exact shared first List.mem_cons_self
  unfold mergeScatterResponses at returned
  simp only [Option.getD_some, named] at returned
  split at returned
  · cases returned
  · rename_i rows merging
    injection returned with same
    rw [← same]
    exact ⟨rows, merging, _, rfl, rfl, rfl⟩

variable {rows : List (Row ext)}

theorem fitting_of_typed
    {result : QueryResult}
    (printed : result.rows = rows.map fun row => row.map Value.sprint)
    (wide : ∀ row ∈ rows, row.length = result.columns.length) : Fitting result := by
  intro row listed
  rw [printed] at listed
  obtain ⟨typed, inside, rfl⟩ := List.mem_map.mp listed
  rw [List.length_map]
  exact wide typed inside

/-- Without aggregates the merged rows are as wide as the received ones. -/
theorem width_of_plain
    (plain : plan.hasAgg = false)
    (wide : ∀ row ∈ allRows { results }, row.length = columns.length)
    (merging : mergeRows plan columns (flattenResults ext { results }).1 = .ok rows) :
    ∀ row ∈ rows, row.length = columns.length := by
  intro row listed
  have received := (mergeRows_subperm plain merging).subset listed
  rw [flattenResults_rows] at received
  obtain ⟨texts, inside, rfl⟩ := List.mem_map.mp received
  rw [List.length_map]
  exact wide texts inside

theorem mergeRows_of_aggregates
    (aggregates : plan.hasAgg = true)
    (columns : List String)
    (rows : List (Row ext)) :
    ∃ row, row.length = plan.selects.length ∧
      mergeRows plan columns rows = windowStep plan [row] := by
  have collected : ∃ row, row.length = plan.selects.length ∧
      collectStep plan columns rows = [row] := by
    unfold collectStep
    rw [if_pos aggregates]
    exact ⟨_, List.length_mapIdx, rfl⟩
  obtain ⟨row, width, single⟩ := collected
  refine ⟨row, width, ?_⟩
  unfold mergeRows orderStep
  rw [single, if_neg (by simp)]

end Merged

/-- Merged rows fit their columns exactly when the row of the aggregates is dropped or the
select list has one item for each column. -/
theorem merges_fitting_iff_one_item_each
    (ext : Externals)
    (sel : Select)
    (text : String)
    (columns : List String)
    (results : List QueryResult)
    (some : results ≠ [])
    (shared : ∀ result ∈ results, result.columns = columns)
    (wide : ∀ result ∈ results, ∀ row ∈ result.rows, row.length = columns.length) :
    MergesFitting ext (extractPlan ext (.ok [⟨.select sel, text⟩])) results ↔
      ((extractPlan ext (.ok [⟨.select sel, text⟩])).hasAgg = true →
        KeepsOne (extractPlan ext (.ok [⟨.select sel, text⟩])) →
          (extractPlan ext (.ok [⟨.select sel, text⟩])).selects.length = columns.length) := by
  have bounded := limit_inInt64 ext (.ok [⟨.select sel, text⟩])
  have allWide : ∀ row ∈ allRows { results }, row.length = columns.length := by
    intro row listed
    obtain ⟨result, inside, held⟩ := List.mem_flatMap.mp listed
    exact wide result inside row held
  generalize extractPlan ext (.ok [⟨.select sel, text⟩]) = plan at bounded ⊢
  constructor
  · intro fitting aggregates keeps
    obtain ⟨row, width, merging⟩ := mergeRows_of_aggregates aggregates columns
      (flattenResults ext { results }).1
    rw [windowStep_of_keepsOne bounded keeps] at merging
    have named : (flattenResults ext { results }).2 = columns := by
      cases results with
      | nil => exact absurd rfl some
      | cons first rest => exact shared first List.mem_cons_self
    have returned : mergeScatterResponses ext (Option.some plan) { results } =
        .ok { results :=
          [{ sql := "", columns := columns, rows := [row.map Value.sprint],
             rowsAffected := 1 }] } := by
      unfold mergeScatterResponses
      simp only [Option.getD_some, named, merging]
      rfl
    have fits := (fitting _ returned _ List.mem_cons_self).1 _ List.mem_cons_self
    rw [List.length_map, width] at fits
    exact fits
  · intro matching merged returned result listed
    obtain ⟨rows, merging, only, single, names, printed⟩ := merged_result some shared returned
    rw [single, List.mem_singleton] at listed
    subst listed
    have fitting : Fitting result := by
      apply fitting_of_typed printed
      rw [names]
      cases aggregates : plan.hasAgg with
      | false => exact width_of_plain aggregates allWide merging
      | true =>
          obtain ⟨row, width, step⟩ := mergeRows_of_aggregates aggregates columns
            (flattenResults ext { results }).1
          rw [step] at merging
          by_cases keeps : KeepsOne plan
          · rw [windowStep_of_keepsOne bounded keeps] at merging
            injection merging with same
            rw [← same]
            intro other inside
            rw [List.mem_singleton.mp inside, width]
            exact matching aggregates keeps
          · rw [windowStep_of_not_keepsOne keeps row merging]
            exact List.forall_mem_nil _
    exact ⟨fitting, fitting.sendable⟩

/-- The tree of a SELECT of some items from users. -/
def selectUsers (exprs : List SelectExpr) : Select where
  select := .selectClause { exprs := exprs, tables := [.listed "users"] }

/-- The call COUNT(*) in a select list. -/
def countStar : SelectExpr :=
  ⟨.funcExpr "COUNT" false [.other "*" []] false, ""⟩

theorem counts_fit :
    MergesFitting integralExternals
      (extractPlan integralExternals
        (.ok [⟨.select (selectUsers [countStar]), "SELECT COUNT(*) FROM users"⟩]))
      [{ columns := ["count"], rows := [["2"]] }, { columns := ["count"], rows := [["3"]] }] :=
  (merges_fitting_iff_one_item_each integralExternals (selectUsers [countStar])
    "SELECT COUNT(*) FROM users" ["count"]
    [{ columns := ["count"], rows := [["2"]] }, { columns := ["count"], rows := [["3"]] }]
    (by decide) (by decide) (by decide)).mpr fun _ _ => rfl

/-- A star next to an aggregate leaves the merged row too short for its columns. -/
theorem star_with_count_panics :
    ∃ result : QueryResult,
      mergeScatterResponses integralExternals
          (some (extractPlan integralExternals
            (.ok [⟨.select (selectUsers [⟨.other "*" [], ""⟩, countStar]),
              "SELECT *, COUNT(*) FROM users"⟩])))
          { results := [{ columns := ["id", "name", "count"], rows := [["1", "ann", "1"]] }] } =
        .ok { results := [result] } ∧
      result.columns = ["id", "name", "count"] ∧ result.rows = [["*", "0"]] ∧
      sendResult integralExternals result = none := by
  have planned : extractPlan integralExternals
      (.ok [⟨.select (selectUsers [⟨.other "*" [], ""⟩, countStar]),
        "SELECT *, COUNT(*) FROM users"⟩]) =
      { selects :=
          [{ rawExpr := "*" },
            { isAggregate := true, aggType := .count, aggColName := "*", rawExpr := "" }]
        hasAgg := true
        isCountStar := true } := by
    simp only [extractPlan, selectUsers, countStar, planOfClause, List.map_cons, List.map_nil,
      analyzeSelectExpr, count_call]
    decide
  rw [planned]
  exact ⟨{ columns := ["id", "name", "count"], rows := [["*", "0"]], rowsAffected := 1 },
    by decide, rfl, rfl, by decide⟩

end Pgwire
end VScale
