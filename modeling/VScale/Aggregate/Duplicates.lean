import VScale.Aggregate.Window

/-!
# Duplicate rows

DISTINCT recognises a row by the printed forms of its typed cells, joined with a
separator.  Two rows are taken for duplicates when the joined texts agree, that
is, when their printed cells split into the same pieces at the separator.
-/

namespace VScale
namespace Aggregate

variable {ext : Externals}

/-- The printed cells of a row, split at the separator of row keys. -/
def keyPieces (ext : Externals) : List String → List (List Char)
  | [] => [[]]
  | cell :: cells =>
      (cell :: cells).flatMap fun cell =>
        List.splitOn '\x01' (inferType ext cell).keyPart.toList

/-- Splitting a joined text at the separator splits each of its parts. -/
theorem splitOn_intercalate_cons
    [BEq α]
    [LawfulBEq α]
    (separator : α)
    (first : List α)
    (parts : List (List α)) :
    List.splitOn separator ([separator].intercalate (first :: parts)) =
      (first :: parts).flatMap (List.splitOn separator) := by
  induction parts generalizing first with
  | nil => simp
  | cons second parts ih =>
      rw [List.intercalate_cons_cons, List.append_assoc, List.singleton_append,
        List.splitOn_append_cons_self, ih]
      rfl

theorem splitOn_textKey (row : List String) :
    List.splitOn '\x01' (textKey ext row).toList = keyPieces ext row := by
  cases row with
  | nil => rfl
  | cons cell cells =>
      have joined : (textKey ext (cell :: cells)).toList =
          ['\x01'].intercalate ((cell :: cells).map fun cell =>
            (inferType ext cell).keyPart.toList) := by
        simp only [textKey, rowKey, String.toList_intercalate, List.map_map]
        rfl
      rw [joined, List.map_cons, splitOn_intercalate_cons, List.flatMap_cons, List.flatMap_map]
      rfl

/-- Rows have the same key exactly when they have the same pieces. -/
theorem textKey_eq_iff {first second : List String} :
    textKey ext first = textKey ext second ↔ keyPieces ext first = keyPieces ext second := by
  rw [← splitOn_textKey, ← splitOn_textKey]
  constructor
  · intro same
    rw [same]
  · intro same
    have joined := congrArg ['\x01'].intercalate same
    rwa [List.intercalate_splitOn, List.intercalate_splitOn, String.toList_inj] at joined

/-- The plan of a SELECT DISTINCT without any other clause. -/
def distinctOnly : QueryPlan :=
  { distinct := true }

theorem mergeScatterResponses_distinct
    (ext : Externals)
    (resp : QueryResponse) :
    ∃ merged, mergeScatterResponses ext (some distinctOnly) resp = .ok merged ∧
      allRows merged = (applyDistinct (flattenResults ext resp).1).map
        fun row => row.map Value.sprint := by
  have ran : mergeRows distinctOnly (flattenResults ext resp).2 (flattenResults ext resp).1 =
      .ok (applyDistinct (flattenResults ext resp).1) := by
    simp [mergeRows, orderStep, windowStep, collectStep, distinctOnly]
  unfold mergeScatterResponses
  simp only [Option.getD_some, ran]
  refine ⟨_, rfl, ?_⟩
  simp [allRows]

/-- DISTINCT returns one row for each distinct received row: the rows it returns are the
printed forms of rows that represent each received row once. -/
def ReturnsEachOnce (ext : Externals) (results : List QueryResult) : Prop :=
  ∃ (merged : QueryResponse) (kept : List (List String)),
    mergeScatterResponses ext (some distinctOnly) { results } = .ok merged ∧
      kept.Sublist (allRows { results }) ∧
      kept.Nodup ∧
      (∀ row ∈ allRows { results }, row ∈ kept) ∧
      allRows merged = kept.map fun row => row.map (reprint ext)

/-- What is kept is as long as the list of keys. -/
theorem length_of_returnsEachOnce
    {results : List QueryResult}
    (right : ReturnsEachOnce ext results) :
    (allRows { results }).toFinset.card =
      ((allRows { results }).map (textKey ext)).toFinset.card := by
  obtain ⟨merged, kept, returned, within, once, all, printed⟩ := right
  obtain ⟨other, same, rows⟩ := mergeScatterResponses_distinct ext { results }
  rw [returned] at same
  injection same with same
  subst same
  have lengths := congrArg List.length (printed.symm.trans rows)
  rw [List.length_map, List.length_map, applyDistinct_length, flattenResults_rows, List.map_map]
    at lengths
  have members : (allRows { results }).toFinset = kept.toFinset := by
    ext row
    rw [List.mem_toFinset, List.mem_toFinset]
    exact ⟨all row, fun present => within.subset present⟩
  rw [members, List.toFinset_card_of_nodup once, lengths]
  rfl

/-- DISTINCT keeps each distinct received row exactly when different received rows do not
split into the same pieces. -/
theorem distinct_returns_each_once_iff
    (ext : Externals)
    (results : List QueryResult) :
    ReturnsEachOnce ext results ↔
      ∀ first ∈ allRows { results }, ∀ second ∈ allRows { results },
        keyPieces ext first = keyPieces ext second → first = second := by
  simp only [← textKey_eq_iff]
  constructor
  · intro right first inFirst second inSecond same
    have counted := length_of_returnsEachOnce right
    have image : ((allRows { results }).map (textKey ext)).toFinset =
        (allRows { results }).toFinset.image (textKey ext) := by
      ext key
      simp
    rw [image] at counted
    exact Finset.card_image_iff.mp counted.symm (List.mem_toFinset.mpr inFirst)
      (List.mem_toFinset.mpr inSecond) same
  · intro apart
    obtain ⟨merged, returned, rows⟩ := mergeScatterResponses_distinct ext { results }
    obtain ⟨kept, within, keptRows, distinct, represented⟩ :=
      exists_kept (fun row : List String => row.map (inferType ext)) (allRows { results })
    refine ⟨merged, kept, returned, within, distinct.of_map _, ?_, ?_⟩
    · intro row present
      obtain ⟨other, inside, same⟩ := represented row present
      rw [← apart other (within.subset inside) row present same]
      exact inside
    · rw [rows, flattenResults_rows, keptRows, map_sprint_inferType]

/-- One shard that returns the texts 7 and 007. -/
def sevenTwice : List QueryResult :=
  [{ sql := "", columns := ["code"], rows := [["7"], ["007"]] }]

/-- Two spellings of one value are kept as one row. -/
theorem distinct_collapses_spellings :
    (mergeScatterResponses integralExternals (some distinctOnly) { results := sevenTwice }).map
        allRows = .ok [["7"]] ∧
      allRows { results := sevenTwice } = [["7"], ["007"]] := by
  decide

end Aggregate
end VScale
