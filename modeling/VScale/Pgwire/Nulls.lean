import VScale.Aggregate.Fidelity
import VScale.Pgwire.Messages
import VScale.Tablet.Handler

/-!
# NULL between a tablet and a client

A cell crosses three codecs: the tablet prints it, the gate guesses a type from
the text, and the connection encodes the text for the client.  The three do not
agree on how NULL is spelled.
-/

namespace VScale
namespace Pgwire

open Aggregate Collections

/-- The spellings the gate types as NULL. -/
def nullSpellings : List String := ["NULL", "null", ""]

/-- A client reads NULL for a value that is NULL and for no other. -/
def NullFaithful (value : SqlValue) (cell : Option String) : Prop :=
  cell = none ↔ value = .null

/-- Every delivered row is the row at its position, with its NULLs kept. -/
def Delivers (source : List (List SqlValue)) (delivered : List (List (Option String))) : Prop :=
  ∀ (position : Nat) (row : List (Option String)), delivered[position]? = some row →
    ∃ values, source[position]? = some values ∧ List.Forall₂ NullFaithful values row

/-- NULL stays NULL and nothing else becomes NULL, for the results of the shards
at the type guess, when one of them is forwarded, and when they are merged. -/
structure KeepsNulls (ext : Externals) (shards : List Result) : Prop where
  inferred : ∀ result ∈ shards, ∀ row ∈ result.rows, ∀ value ∈ row,
    inferType ext value.sprint = .null ↔ value = .null
  forwarded : ∀ result ∈ shards, ∀ messages,
    sendResult ext (TabletHandler.renderResult result) = some messages →
      Delivers result.rows (deliveredRows messages)
  merged : ∀ (plan : Option QueryPlan) (response : QueryResponse),
    (plan.getD {}).hasAgg = false →
    mergeScatterResponses ext plan { results := shards.map TabletHandler.renderResult } =
      .ok response →
    ∃ selected : List (List SqlValue),
      selected.Subperm (shards.flatMap Result.rows) ∧
        ∀ result ∈ response.results, ∀ messages, sendResult ext result = some messages →
          Delivers selected (deliveredRows messages)

variable {ext : Externals}

theorem inferType_eq_null_iff (text : String) :
    inferType ext text = .null ↔ text ∈ nullSpellings := by
  have listed : text ∈ nullSpellings ↔ text = "NULL" ∨ text = "null" ∨ text = "" := by
    simp [nullSpellings]
  rw [listed]
  unfold inferType
  split
  · rename_i spelled
    simp [spelled]
  · rename_i unspelled
    simp only [unspelled, iff_false]
    cases Decimal.parseInt text with
    | some value => simp
    | none =>
        cases ext.parseFloat text with
        | some value => simp
        | none =>
            cases parseBool text with
            | some | none => simp

/-- The text printed for NULL is not one of the spellings. -/
theorem inferType_sprint_iff (value : SqlValue) :
    (inferType ext value.sprint = .null ↔ value = .null) ↔
      value ≠ .null ∧ value.sprint ∉ nullSpellings := by
  rw [inferType_eq_null_iff]
  by_cases absent : value = .null
  · subst absent
    have printed : SqlValue.null.sprint ∉ nullSpellings := by decide
    simp [printed]
  · simp [absent]

/-- Cells are never delivered as NULL, which is right for values that are not. -/
theorem forall_nullFaithful
    {values : List SqlValue}
    (present : ∀ value ∈ values, value ≠ .null)
    (text : SqlValue → String) :
    List.Forall₂ NullFaithful values (values.map fun value => some (text value)) := by
  rw [List.forall₂_map_right_iff, List.forall₂_same]
  intro value inside
  simp [NullFaithful, present value inside]

theorem delivers_of_not_null
    {source : List (List SqlValue)}
    {qr : QueryResult}
    {messages : List BackendMessage}
    (text : SqlValue → String)
    (printed : qr.rows = source.map fun values => values.map text)
    (present : ∀ values ∈ source, ∀ value ∈ values, value ≠ .null)
    (sent : sendResult ext qr = some messages) :
    Delivers source (deliveredRows messages) := by
  intro position row found
  rw [deliveredRows_sendResult sent] at found
  split at found
  · cases found
  · rw [printed, List.map_map, List.getElem?_map] at found
    obtain ⟨values, there, rfl⟩ := Option.map_eq_some_iff.mp found
    refine ⟨values, there, ?_⟩
    simp only [Function.comp_apply, List.map_map]
    exact forall_nullFaithful (present values (List.mem_of_getElem? there)) text

theorem allRows_renderResult (shards : List Result) :
    allRows { results := shards.map TabletHandler.renderResult } =
      (shards.flatMap Result.rows).map fun values => values.map SqlValue.sprint := by
  rw [allRows, List.flatMap_map, List.map_flatMap]
  rfl

/-- A merge without aggregates prints rows of the shards, each cell from the
type guessed for its text. -/
theorem merged_selects
    {plan : Option QueryPlan}
    {shards : List Result}
    {response : QueryResponse}
    (plain : (plan.getD {}).hasAgg = false)
    (finished : mergeScatterResponses ext plan
      { results := shards.map TabletHandler.renderResult } = .ok response) :
    ∃ selected : List (List SqlValue),
      selected.Subperm (shards.flatMap Result.rows) ∧
        ∀ result ∈ response.results,
          result.rows = selected.map fun values => values.map fun value =>
            reprint ext value.sprint := by
  unfold mergeScatterResponses at finished
  simp only at finished
  split at finished
  · cases finished
  · rename_i rows ran
    injection finished with same
    have chosen := mergeRows_subperm plain ran
    rw [flattenResults_rows, allRows_renderResult, List.map_map] at chosen
    obtain ⟨selected, within, typed⟩ := exists_map_of_subperm chosen
    refine ⟨selected, within, ?_⟩
    intro result returned
    rw [← same, List.mem_singleton] at returned
    rw [returned, ← typed]
    simp only [List.map_map]
    apply List.map_congr_left
    intro values _
    simp only [Function.comp_apply, List.map_map]
    rfl

/-- NULLs survive exactly when there is none and no text looks like one. -/
theorem nulls_kept_iff
    (ext : Externals)
    (shards : List Result) :
    KeepsNulls ext shards ↔
      ∀ result ∈ shards, ∀ row ∈ result.rows, ∀ value ∈ row,
        value ≠ .null ∧ value.sprint ∉ nullSpellings := by
  constructor
  · intro kept result shard row present value inside
    exact (inferType_sprint_iff value).mp (kept.inferred result shard row present value inside)
  · intro plain
    refine ⟨?_, ?_, ?_⟩
    · intro result shard row present value inside
      exact (inferType_sprint_iff value).mpr (plain result shard row present value inside)
    · intro result shard messages sent
      refine delivers_of_not_null SqlValue.sprint rfl ?_ sent
      intro values present value inside
      exact (plain result shard values present value inside).1
    · intro plan response unaggregated finished
      obtain ⟨selected, within, printed⟩ := merged_selects unaggregated finished
      refine ⟨selected, within, ?_⟩
      intro result returned messages sent
      refine delivers_of_not_null _ (printed result returned) ?_ sent
      intro values present value inside
      obtain ⟨source, shard, row⟩ := List.mem_flatMap.mp (within.subset present)
      exact (plain source shard values row value inside).1

/-- A result with one column and one value in it. -/
def singleValue (value : SqlValue) : Result :=
  { sql := "SELECT c", columns := ["c"], rows := [[value]], rowsAffected := 0 }

/-- NULL reaches the client as a text, both forwarded and merged, and the empty
text is taken for NULL. -/
theorem null_becomes_text :
    inferType integralExternals SqlValue.null.sprint = .str "<nil>" ∧
      inferType integralExternals (SqlValue.text "").sprint = .null ∧
      (∃ messages,
        sendResult integralExternals (TabletHandler.renderResult (singleValue .null)) =
            some messages ∧
          deliveredRows messages = [[some "<nil>"]] ∧
          ¬ Delivers (singleValue .null).rows (deliveredRows messages)) ∧
      ¬ KeepsNulls integralExternals [singleValue .null] ∧
      ¬ KeepsNulls integralExternals [singleValue (.text "")] := by
  refine ⟨rfl, rfl, ⟨_, rfl, rfl, ?_⟩, ?_, ?_⟩
  · intro delivers
    obtain ⟨values, there, faithful⟩ := delivers 0 [some "<nil>"] rfl
    obtain rfl : [SqlValue.null] = values := Option.some.inj there
    cases faithful with
    | cons cell _ => cases cell.mpr rfl
  · intro kept
    have guessed := kept.inferred _ List.mem_cons_self _ List.mem_cons_self _ List.mem_cons_self
    exact ((inferType_sprint_iff _).mp guessed).1 rfl
  · intro kept
    have guessed := kept.inferred _ List.mem_cons_self _ List.mem_cons_self _ List.mem_cons_self
    exact ((inferType_sprint_iff _).mp guessed).2 (by decide)

end Pgwire
end VScale
