import VScale.Aggregate.Merge
import VScale.Collections.StableMap

/-!
# What merging does to the received rows

Without aggregates a merge selects among the typed rows and never invents one.
Every cell is however printed from its guessed type, so the rows survive byte
for byte exactly when every cell text is the printed form of its own guess.
-/

namespace VScale
namespace Aggregate

open Collections

variable {ext : Externals}

theorem applyDistinctFrom_sublist (rows : List (Row ext)) :
    ∀ seen, (applyDistinctFrom seen rows).Sublist rows := by
  induction rows with
  | nil =>
      intro seen
      exact List.Sublist.refl []
  | cons row rows ih =>
      intro seen
      unfold applyDistinctFrom
      split
      · exact (ih seen).cons row
      · exact (ih _).cons_cons row

variable {window : List α}

theorem applyLimitOffset_sublist
    {rows : List α}
    {offset limit : Int}
    (finished : applyLimitOffset rows offset limit = .ok window) :
    window.Sublist rows := by
  unfold applyLimitOffset at finished
  simp only at finished
  split at finished
  · injection finished with same
    rw [← same]
    exact (List.take_sublist _ _).trans (List.drop_sublist _ _)
  · cases finished

variable {cols : List String} {rows sorted merged : List (Row ext)} {plan : QueryPlan}
variable {resp : QueryResponse}

theorem sortRows_perm
    {orderBy : List OrderColumn}
    (finished : sortRows cols rows orderBy = .ok sorted) :
    sorted.Perm rows := by
  unfold sortRows at finished
  split at finished
  · cases finished
  · rename_i keys _
    split at finished
    · cases finished
    · rename_i result quick
      injection finished with same
      rw [← same]
      exact (quickSort_perm (indexLess keys) quick).toList

theorem orderStep_perm (finished : orderStep plan cols rows = .ok sorted) : sorted.Perm rows := by
  unfold orderStep at finished
  split at finished
  · exact sortRows_perm finished
  · injection finished with same
    rw [same]

theorem windowStep_sublist
    {rows : List α}
    (finished : windowStep plan rows = .ok window) :
    window.Sublist rows := by
  unfold windowStep at finished
  split at finished
  · exact applyLimitOffset_sublist finished
  · injection finished with same
    rw [same]

theorem collectStep_sublist
    (cols : List String)
    (rows : List (Row ext))
    (plain : plan.hasAgg = false) :
    (collectStep plan cols rows).Sublist rows := by
  simp only [collectStep, plain, Bool.false_eq_true, if_false]
  split
  · exact applyDistinctFrom_sublist rows []
  · exact List.Sublist.refl rows

/-- A merge without aggregates selects among the received rows. -/
theorem mergeRows_subperm
    (plain : plan.hasAgg = false)
    (finished : mergeRows plan cols rows = .ok merged) :
    merged.Subperm rows := by
  unfold mergeRows at finished
  split at finished
  · cases finished
  · rename_i sorted ordered
    exact (windowStep_sublist finished).subperm.trans
      ((orderStep_perm ordered).subperm.trans (collectStep_sublist cols rows plain).subperm)

/-- Without DISTINCT and without a window it returns all of them. -/
theorem mergeRows_perm
    (plain : plan.hasAgg = false)
    (all : plan.distinct = false)
    (unlimited : plan.limit < 0)
    (unshifted : plan.offset ≤ 0)
    (finished : mergeRows plan cols rows = .ok merged) :
    merged.Perm rows := by
  unfold mergeRows at finished
  split at finished
  · cases finished
  · rename_i sorted ordered
    have noWindow : ¬(0 ≤ plan.limit ∨ 0 < plan.offset) := by omega
    rw [windowStep, if_neg noWindow] at finished
    injection finished with same
    rw [← same]
    have collected : collectStep plan cols rows = rows := by
      simp [collectStep, plain, all]
    rw [← collected]
    exact orderStep_perm ordered

/-- What becomes of a cell text that is typed and printed. -/
def reprint (ext : Externals) (text : String) : String :=
  (inferType ext text).sprint

theorem inferType_int64_fits
    (typed : inferType ext text = .int64 value) :
    Decimal.InInt64 value := by
  unfold inferType at typed
  split at typed
  · cases typed
  · split at typed
    · rename_i parsed
      injection typed with same
      rw [← same]
      exact Decimal.inInt64_of_parseInt parsed
    · split at typed
      · cases typed
      · split at typed
        · cases typed
        · cases typed

theorem inferType_str_eq (typed : inferType ext text = .str kept) : kept = text := by
  unfold inferType at typed
  split at typed
  · cases typed
  · split at typed
    · cases typed
    · split at typed
      · cases typed
      · split at typed
        · cases typed
        · injection typed with same
          exact same.symm

/-- A text that is the printed form of the type guessed for it. -/
def Canonical (ext : Externals) (text : String) : Prop :=
  text ∉ ["NULL", "null", ""] ∧
    match Decimal.parseInt text with
    | some value => text = Decimal.formatInt value
    | none =>
        match ext.parseFloat text with
        | some value => text = ext.sprintFloat value
        | none =>
            match parseBool text with
            | some value => text = boolText value
            | none => True

theorem reprint_eq_self_iff (text : String) : reprint ext text = text ↔ Canonical ext text := by
  unfold reprint Canonical inferType
  by_cases spelled : text = "NULL" ∨ text = "null" ∨ text = ""
  · have printed : "<nil>" ≠ text := by
      rintro rfl
      exact absurd spelled (by decide)
    simp [spelled, Value.sprint, printed]
  · rw [if_neg spelled]
    have listed : text ∉ ["NULL", "null", ""] := by
      simpa using spelled
    cases Decimal.parseInt text with
    | some value => simp [listed, Value.sprint, eq_comm]
    | none =>
        cases ext.parseFloat text with
        | some value => simp [listed, Value.sprint, eq_comm]
        | none =>
            cases parseBool text with
            | some value => simp [listed, Value.sprint, eq_comm]
            | none => simp [listed, Value.sprint]

instance (text : String) : Decidable (Canonical ext text) :=
  decidable_of_iff _ (reprint_eq_self_iff text)

theorem inferType_formatInt (fits : Decimal.InInt64 value) :
    inferType ext (Decimal.formatInt value) = .int64 value := by
  have parsed := Decimal.parseInt_formatInt fits
  have spelled : ¬(Decimal.formatInt value = "NULL" ∨ Decimal.formatInt value = "null" ∨
      Decimal.formatInt value = "") := by
    rintro (same | same | same)
    all_goals
      rw [same] at parsed
      cases parsed
  simp only [inferType, spelled, if_false, parsed]

theorem reprint_formatInt (fits : Decimal.InInt64 value) :
    reprint ext (Decimal.formatInt value) = Decimal.formatInt value := by
  simp only [reprint, inferType_formatInt fits, Value.sprint]

/-- A printed float is kept, or it looks like an integer and becomes one. -/
theorem reprint_sprintFloat
    (laws : ext.FloatText)
    (value : ext.Float64) :
    reprint ext (ext.sprintFloat value) = ext.sprintFloat value ∨
      ∃ number, Decimal.InInt64 number ∧
        reprint ext (ext.sprintFloat value) = Decimal.formatInt number := by
  obtain ⟨again, read, same⟩ := laws.parse_sprint value
  have spelled : ext.sprintFloat value ∉ ["NULL", "null", ""] := by
    intro listed
    have rejected : ext.parseFloat (ext.sprintFloat value) = none := by
      apply laws.words
      simp only [List.mem_cons, List.not_mem_nil, or_false] at listed ⊢
      tauto
    rw [rejected] at read
    cases read
  cases parsed : Decimal.parseInt (ext.sprintFloat value) with
  | some number =>
      refine Or.inr ⟨number, Decimal.inInt64_of_parseInt parsed, ?_⟩
      have typed : ¬(ext.sprintFloat value = "NULL" ∨ ext.sprintFloat value = "null" ∨
          ext.sprintFloat value = "") := by
        simpa using spelled
      simp [reprint, inferType, typed, parsed, Value.sprint]
  | none =>
      left
      rw [reprint_eq_self_iff, Canonical, parsed]
      simp only [read, same]
      exact ⟨spelled, trivial⟩

/-- The word printed for a nil cell or a boolean is kept. -/
theorem reprint_word
    (laws : ext.FloatText)
    (listed : word ∈ ["<nil>", "true", "false"]) :
    reprint ext word = word := by
  have unread : ext.parseFloat word = none := by
    apply laws.words
    simp only [List.mem_cons, List.not_mem_nil, or_false] at listed ⊢
    tauto
  have facts : ∀ word ∈ ["<nil>", "true", "false"],
      word ∉ ["NULL", "null", ""] ∧ Decimal.parseInt word = none ∧
        ∀ value, parseBool word = some value → word = boolText value := by
    decide
  obtain ⟨spelled, unparsed, printed⟩ := facts word listed
  rw [reprint_eq_self_iff, Canonical, unparsed, unread]
  refine ⟨spelled, ?_⟩
  cases truth : parseBool word with
  | some value => exact printed value truth
  | none => trivial

/-- Typing and printing settles after two rounds. -/
theorem reprint_settles
    (laws : ext.FloatText)
    (text : String) :
    reprint ext (reprint ext (reprint ext text)) = reprint ext (reprint ext text) := by
  have once : reprint ext (reprint ext text) = reprint ext text ∨
      ∃ number, Decimal.InInt64 number ∧
        reprint ext (reprint ext text) = Decimal.formatInt number := by
    by_cases canonical : reprint ext text = text
    · left
      rw [canonical, canonical]
    · cases typed : inferType ext text with
      | null =>
          have printed : reprint ext text = "<nil>" := by simp [reprint, typed, Value.sprint]
          rw [printed]
          exact Or.inl (reprint_word laws (by decide))
      | int64 value =>
          have printed : reprint ext text = Decimal.formatInt value := by
            simp [reprint, typed, Value.sprint]
          rw [printed]
          exact Or.inl (reprint_formatInt (inferType_int64_fits typed))
      | float64 value =>
          have printed : reprint ext text = ext.sprintFloat value := by
            simp [reprint, typed, Value.sprint]
          rw [printed]
          exact reprint_sprintFloat laws value
      | bool value =>
          have printed : reprint ext text = boolText value := by
            simp [reprint, typed, Value.sprint]
          rw [printed]
          refine Or.inl (reprint_word laws ?_)
          cases value <;> decide
      | str kept =>
          have printed : reprint ext text = kept := by simp [reprint, typed, Value.sprint]
          exact absurd (printed.trans (inferType_str_eq typed)) canonical
  rcases once with fixed | ⟨number, fits, becomes⟩
  · rw [fixed, fixed]
  · rw [becomes]
    exact reprint_formatInt fits

/-- All rows of a response, in order. -/
def allRows (resp : QueryResponse) : List (List String) :=
  resp.results.flatMap QueryResult.rows

theorem flattenResults_rows (resp : QueryResponse) :
    (flattenResults ext resp).1 = (allRows resp).map fun row => row.map (inferType ext) := by
  unfold flattenResults allRows
  split
  · rename_i empty
    rw [empty]
    rfl
  · rename_i first rest split
    rw [split, List.map_flatMap]

/-- The returned rows are received ones; without DISTINCT none comes more often
than it was received, and without a window either they are all of them. -/
def KeepsRows (plan : QueryPlan) (received returned : List (List String)) : Prop :=
  (∀ row ∈ returned, row ∈ received) ∧
    (plan.distinct = false → ∀ row, returned.count row ≤ received.count row) ∧
    (plan.distinct = false → plan.limit < 0 → plan.offset ≤ 0 → returned.Perm received)

theorem keepsRows_of_subperm
    {received returned : List (List String)}
    (selected : returned.Subperm received)
    (complete : plan.distinct = false → plan.limit < 0 → plan.offset ≤ 0 →
      returned.Perm received) :
    KeepsRows plan received returned := by
  refine ⟨?_, ?_, complete⟩
  · intro row present
    exact selected.subset present
  · intro _ row
    exact selected.count_le row

/-- The rows of a merged response are the printed rows of the merge. -/
theorem mergeScatterResponses_ok
    {plan : Option QueryPlan}
    {merged : QueryResponse}
    (finished : mergeScatterResponses ext plan resp = .ok merged) :
    ∃ rows : List (Row ext),
      mergeRows (plan.getD {}) (flattenResults ext resp).2 (flattenResults ext resp).1 = .ok rows ∧
        allRows merged = rows.map fun row => row.map Value.sprint := by
  unfold mergeScatterResponses at finished
  simp only at finished
  split at finished
  · cases finished
  · rename_i rows ran
    injection finished with same
    refine ⟨rows, ran, ?_⟩
    rw [← same]
    simp [allRows]

theorem map_sprint_inferType (rows : List (List String)) :
    ((rows.map fun row => row.map (inferType ext)).map fun row => row.map Value.sprint) =
      rows.map fun row => row.map (reprint ext) := by
  rw [List.map_map]
  apply List.map_congr_left
  intro row _
  simp only [Function.comp_apply, List.map_map]
  rfl

theorem map_sprint_flattenResults (resp : QueryResponse) :
    ((flattenResults ext resp).1.map fun row => row.map Value.sprint) =
      (allRows resp).map fun row => row.map (reprint ext) := by
  rw [flattenResults_rows, map_sprint_inferType]

/-- A plan without any clause returns all rows, retyped. -/
theorem mergeScatterResponses_none
    (ext : Externals)
    (resp : QueryResponse) :
    ∃ merged, mergeScatterResponses ext none resp = .ok merged ∧
      allRows merged = (allRows resp).map fun row => row.map (reprint ext) := by
  have ran : mergeRows {} (flattenResults ext resp).2 (flattenResults ext resp).1 =
      .ok (flattenResults ext resp).1 := by
    simp [mergeRows, orderStep, windowStep, collectStep]
  unfold mergeScatterResponses
  simp only [Option.getD_none, ran]
  refine ⟨_, rfl, ?_⟩
  rw [← map_sprint_flattenResults]
  simp [allRows]

/-- A plan with aggregates and no window returns the row of the aggregates. -/
theorem mergeScatterResponses_aggregate
    (aggregates : plan.hasAgg = true)
    (unlimited : plan.limit < 0)
    (unshifted : plan.offset ≤ 0)
    (resp : QueryResponse) :
    ∃ merged, mergeScatterResponses ext (some plan) resp = .ok merged ∧
      allRows merged =
        [(applyAggregation plan (flattenResults ext resp).2
          (if plan.distinct then applyDistinct (flattenResults ext resp).1
            else (flattenResults ext resp).1)).map Value.sprint] := by
  have noWindow : ¬(0 ≤ plan.limit ∨ 0 < plan.offset) := by omega
  unfold mergeScatterResponses
  simp only [Option.getD_some, mergeRows, orderStep, collectStep, aggregates, if_true,
    List.length_singleton, lt_irrefl, and_false, if_false, windowStep, noWindow]
  refine ⟨_, rfl, ?_⟩
  simp [allRows]

/-- The window is cut by position alone. -/
theorem windowStep_map
    (plan : QueryPlan)
    (change : α → β)
    (rows : List α) :
    windowStep plan (rows.map change) = (windowStep plan rows).map (List.map change) := by
  unfold windowStep applyLimitOffset
  simp only [List.length_map]
  split
  · split
    · simp only [Except.map, ← List.map_drop, ← List.map_take]
    · rfl
  · rfl

/-- The window leaves a single row in the answer. -/
def QueryPlan.KeepsOneRow (plan : QueryPlan) : Prop :=
  windowStep plan [()] = .ok [()]

instance (plan : QueryPlan) : Decidable plan.KeepsOneRow :=
  inferInstanceAs (Decidable (_ = _))

theorem windowStep_one_row_iff {first second : α} :
    windowStep plan [first] = windowStep plan [second] ↔ (plan.KeepsOneRow → first = second) := by
  have single : ∀ row : α, windowStep plan [row] =
      (windowStep plan [()]).map (List.map fun _ => row) := fun row =>
    windowStep_map plan (fun _ => row) [()]
  rw [single first, single second, QueryPlan.KeepsOneRow]
  cases window : windowStep plan [()] with
  | error fault => simp [Except.map]
  | ok kept =>
      rcases List.sublist_singleton.mp (windowStep_sublist window) with rfl | rfl
      · simp [Except.map]
      · simp [Except.map]

/-- The rows of a merged answer. -/
def answerRows
    (ext : Externals)
    (plan : QueryPlan)
    (results : List QueryResult) :
    Except Fault (List (List String)) :=
  (mergeScatterResponses ext (some plan) { results }).map allRows

theorem merged_of_answerRows
    {results : List QueryResult}
    {rows : List (List String)}
    (answered : answerRows ext plan results = .ok rows) :
    ∃ merged, mergeScatterResponses ext (some plan) { results } = .ok merged ∧
      allRows merged = rows := by
  unfold answerRows at answered
  cases done : mergeScatterResponses ext (some plan) { results } with
  | error fault =>
      rw [done] at answered
      cases answered
  | ok merged =>
      rw [done] at answered
      injection answered with same
      exact ⟨merged, rfl, same⟩

/-- With aggregates the answer is one row, cut to the window. -/
theorem answerRows_of_aggregates
    (aggregates : plan.hasAgg = true)
    (results : List QueryResult) :
    answerRows ext plan results =
      windowStep plan
        [(applyAggregation plan (flattenResults ext { results }).2
          (if plan.distinct then applyDistinct (flattenResults ext { results }).1
            else (flattenResults ext { results }).1)).map Value.sprint] := by
  have printed := windowStep_map plan (List.map Value.sprint)
    [applyAggregation plan (flattenResults ext { results }).2
      (if plan.distinct then applyDistinct (flattenResults ext { results }).1
        else (flattenResults ext { results }).1)]
  rw [List.map_singleton] at printed
  rw [printed]
  simp only [answerRows, mergeScatterResponses, Option.getD_some, mergeRows, orderStep,
    collectStep, aggregates, if_true, List.length_singleton, lt_irrefl, and_false, if_false]
  split
  · rename_i failed
    rw [failed]
    rfl
  · rename_i rows cut
    rw [cut]
    simp [Except.map, allRows]

theorem map_reprint_of_canonical
    {rows : List (List String)}
    (canonical : ∀ row ∈ rows, ∀ cell ∈ row, Canonical ext cell) :
    (rows.map fun row => row.map (reprint ext)) = rows := by
  calc
    _ = rows.map id := by
      apply List.map_congr_left
      intro row present
      have fixed : ∀ cell ∈ row, reprint ext cell = id cell := fun cell inside =>
        (reprint_eq_self_iff cell).mpr (canonical row present cell inside)
      rw [List.map_congr_left fixed, List.map_id, id]
    _ = rows := List.map_id rows

/-- Rows of canonical cells go through every merge without aggregates unharmed. -/
theorem keepsRows_of_canonical
    {plan : Option QueryPlan}
    {merged : QueryResponse}
    (canonical : ∀ row ∈ allRows resp, ∀ cell ∈ row, Canonical ext cell)
    (plain : (plan.getD {}).hasAgg = false)
    (finished : mergeScatterResponses ext plan resp = .ok merged) :
    KeepsRows (plan.getD {}) (allRows resp) (allRows merged) := by
  have unharmed : ((flattenResults ext resp).1.map fun row => row.map Value.sprint) =
      allRows resp := by
    rw [map_sprint_flattenResults, map_reprint_of_canonical canonical]
  obtain ⟨rows, ran, printed⟩ := mergeScatterResponses_ok finished
  rw [printed, ← unharmed]
  apply keepsRows_of_subperm
  · exact map_subperm_map _ (mergeRows_subperm plain ran)
  · intro all unlimited unshifted
    exact (mergeRows_perm plain all unlimited unshifted ran).map _

/-- Merging returns received rows, for every plan without aggregates, exactly
when every received cell is the printed form of the type guessed for it. -/
theorem merge_keeps_rows_iff_canonical
    (ext : Externals)
    (laws : ext.FloatText)
    (resp : QueryResponse) :
    (∀ (plan : Option QueryPlan) (merged : QueryResponse),
      (plan.getD {}).hasAgg = false →
      mergeScatterResponses ext plan resp = .ok merged →
        KeepsRows (plan.getD {}) (allRows resp) (allRows merged)) ↔
      ∀ row ∈ allRows resp, ∀ cell ∈ row, Canonical ext cell := by
  constructor
  · intro kept row present cell inside
    obtain ⟨merged, finished, retyped⟩ := mergeScatterResponses_none ext resp
    have law := kept none merged rfl finished
    have rearranged : (allRows merged).Perm (allRows resp) :=
      law.2.2 rfl (by decide) (by decide)
    rw [retyped] at rearranged
    rw [← reprint_eq_self_iff]
    exact cells_fixed_of_map_perm (reprint_settles laws) rearranged row present cell inside
  · intro canonical plan merged plain finished
    exact keepsRows_of_canonical canonical plain finished

/-- A response with a single cell. -/
def singleCell (text : String) : QueryResponse :=
  { results := [{ columns := ["code"], rows := [[text]], rowsAffected := 1 }] }

theorem merge_keeps_rows_of_plain_word :
    mergeScatterResponses integralExternals (some { orderBy := [⟨"code", .asc⟩] })
        (singleCell "x7") = .ok (singleCell "x7") ∧
      KeepsRows { orderBy := [⟨"code", .asc⟩] }
        (allRows (singleCell "x7")) (allRows (singleCell "x7")) := by
  have merged : mergeScatterResponses integralExternals (some { orderBy := [⟨"code", .asc⟩] })
      (singleCell "x7") = .ok (singleCell "x7") := by decide
  exact ⟨merged, (merge_keeps_rows_iff_canonical integralExternals integralExternals_floatText
    (singleCell "x7")).mpr (by decide) (some { orderBy := [⟨"code", .asc⟩] }) (singleCell "x7")
    rfl merged⟩

/-- A code with leading zeros loses them. -/
theorem merge_drops_leading_zeros :
    ∃ merged : QueryResponse,
      mergeScatterResponses integralExternals
          (some { orderBy := [⟨"code", .asc⟩] }) (singleCell "007") = .ok merged ∧
        allRows merged = [["7"]] ∧
        ¬ KeepsRows { orderBy := [⟨"code", .asc⟩] }
          (allRows (singleCell "007")) (allRows merged) := by
  refine ⟨{ results := [{ columns := ["code"], rows := [["7"]], rowsAffected := 1 }] },
    by decide, by decide, ?_⟩
  intro law
  exact absurd (law.1 ["7"] (by decide)) (by decide)

end Aggregate
end VScale
