import VScale.Aggregate.SortedMerge
import VScale.Gate.Rules
import VScale.Gate.ScatterWindow

/-!
# A scatter to a single shard

Outside a transaction a query for a single shard is forwarded as it is.  Inside
one it is rewritten like any scattered query, and the gate merges what comes back.
Both return the same when the gate applies the removed clauses as the database
would and prints every cell as it was sent.
-/

namespace VScale

open Aggregate Collections Effects Tree

/-- The columns and the rows of a result. -/
def QueryResult.table (result : QueryResult) : List String × List (List String) :=
  (result.columns, result.rows)

/-- Both fail, or both return the same columns and rows. -/
def Outcome.Agrees : Outcome → Outcome → Prop
  | .ok resp, .ok other =>
      resp.results.map QueryResult.table = other.results.map QueryResult.table
  | .error _, .error _ => True
  | _, _ => False

/-- The answer of a tablet carries a result, or it fails in its place. -/
def Carries : Except String QueryResult → Except String QueryResponse → Prop
  | .ok result, .ok resp => resp.results.map QueryResult.table = [result.table]
  | .error _, .error _ => True
  | _, _ => False

instance : ∀ reply answer, Decidable (Carries reply answer)
  | .ok _, .ok _ => inferInstanceAs (Decidable (_ = _))
  | .error _, .error _ => .isTrue trivial
  | .ok _, .error _ => .isFalse id
  | .error _, .ok _ => .isFalse id

/-- Begins are granted, and a text is answered in the same way inside and outside of
transactions. -/
def Heard (told : SqlText → Except String QueryResult) (op : GateOp) (answer : op.Answer) : Prop :=
  match op, answer with
  | .begin _, answer => Except.isOk answer = true
  | .execute _ sql _, answer => Carries (told sql) answer
  | _, _ => True

instance (told : SqlText → Except String QueryResult) :
    ∀ (op : GateOp) (answer : op.Answer), Decidable (Heard told op answer)
  | .begin _, _ => inferInstanceAs (Decidable (_ = true))
  | .execute _ sql _, answer => inferInstanceAs (Decidable (Carries (told sql) answer))
  | .create, _ | .get _, _ | .getState _, _ | .setState _ _, _ | .shardCount _, _
  | .isParticipating _ _, _ | .participatingShardsMap _, _ | .clearParticipants _, _
  | .setLocalTxID _ _ _, _ | .getLocalTxID _ _, _ | .route _ _, _ | .getClient _, _
  | .prepare _ _, _ | .commit _ _, _ | .rollback _ _, _ => .isTrue trivial

/-- The only shard group has a primary and no replicas. -/
def Router.Sole (r : Router) (tc : TabletClient) : Prop :=
  ∃ key group, r.orderedKeys = [key] ∧ r.shardGroups.lookup key = some group ∧
    group.replicas = [] ∧ r.clients.lookup group.primary.addr = some tc

theorem Router.Sole.scatterTablets
    {r : Router}
    {tc : TabletClient}
    (sole : r.Sole tc)
    (qtype : QueryType)
    (inTransaction : Bool)
    (cursor : Nat) :
    (r.scatterTablets qtype inTransaction cursor r.orderedKeys).1 = [tc] := by
  obtain ⟨key, group, keys, stored, unreplicated, connected⟩ := sole
  have picked : (r.pickOne qtype inTransaction cursor group).1 = some tc := by
    unfold Router.pickOne Router.pickOneForRead Router.pickOneForWrite
    split
    · exact connected
    · simp only [unreplicated, List.getElem?_nil]
      exact connected
  simp only [keys, Router.scatterTablets, stored, picked]
  rfl

section Requests

variable {ext : Externals} {caller : Caller} {told : SqlText → Except String QueryResult}
variable {stmt : Statement} {session : Int} {tc : TabletClient} {w : World}

/-- The program runs while the tablets answer as they are told. -/
abbrev Hears
    (ext : Externals)
    (caller : Caller)
    (told : SqlText → Except String QueryResult)
    (program : GateM α)
    (post : α → World → Prop)
    (w : World) : Prop :=
  program.wp (Contract.alone World)
    ((World.machine ext).StepsWhen
      (fun step => Heard told step.op (step.answer (World.machine ext) caller)) caller) post w

theorem hears_perform
    {op : GateOp}
    {next : op.Answer → GateM α}
    {post : α → World → Prop}
    (follows : ∀ choice answer after, Heard told op answer →
      w.act ext caller op choice = (answer, after) →
      Hears ext caller told (next answer) post after) :
    Hears ext caller told (.perform op next) post w := by
  apply Prog.wp_perform_alone
  rintro answer after ⟨choice, heard, stepped⟩
  have acted : w.act ext caller op choice = (answer, after) := stepped
  have answered : Step.answer (World.machine ext) caller ⟨w, op, choice⟩ = answer :=
    congrArg Prod.fst stepped
  rw [answered] at heard
  exact follows choice answer after heard acted

/-- What a request returns that gathers the answer of its only tablet. -/
def Gathers
    (ext : Externals)
    (plan : QueryPlan)
    (reply : Except String QueryResult)
    (outcome : Outcome) : Prop :=
  match reply with
  | .error _ => ∀ resp, outcome ≠ .ok resp
  | .ok result => ∃ results : List QueryResult,
      results.map QueryResult.table = [result.table] ∧ Concludes ext plan results outcome

theorem hears_abort
    (message : String)
    {post : Outcome → World → Prop}
    (failed : ∀ fault later, post (.error fault) later) :
    Hears ext caller told (Coordinator.abort session message) post w := by
  have rolls : (Coordinator.rollbackAll session).Only fun _ => True :=
    Coordinator.only_rollbackAll ⟨trivial, fun _ => trivial, fun _ _ => trivial⟩
  exact (harmless_of_only (fun _ _ _ _ _ _ => trivial) rolls).bind
    (fun _ later => Prog.wp_pure_alone (failed _ later)) w

theorem hears_beginOnAll :
    Hears ext caller told (Coordinator.beginOnAll session [tc]) (fun failed _ => failed = none)
      w := by
  apply hears_perform
  intro _ participating _ _ _
  cases participating with
  | true => exact Prog.wp_pure_alone rfl
  | false =>
      apply hears_perform
      intro _ answer _ granted _
      cases answer with
      | error failure => cases granted
      | ok resp =>
          apply hears_perform
          intro _ _ _ _ _
          exact Prog.wp_pure_alone rfl

theorem hears_scatterLoop {sql : SqlText} :
    Hears ext caller told (Coordinator.scatterLoop session sql [tc])
      (fun gathered _ =>
        match told sql with
        | .error _ => ∃ failure, gathered.1 = some failure
        | .ok result => gathered.1 = none ∧ gathered.2.map QueryResult.table = [result.table])
      w := by
  apply hears_perform
  intro _ held _ _ _
  apply hears_perform
  intro _ answer after carried _
  have carried : Carries (told sql) answer := carried
  cases answer with
  | error failure =>
      refine @Prog.wp_pure_alone _ _ _ _ after _ (some _, []) ?_
      cases reply : told sql with
      | error reason => exact ⟨_, rfl⟩
      | ok result =>
          rw [reply] at carried
          exact False.elim carried
  | ok resp =>
      refine @Prog.wp_pure_alone _ _ _ _ after _ (none, resp.results ++ []) ?_
      cases reply : told sql with
      | error reason =>
          rw [reply] at carried
          exact False.elim carried
      | ok result =>
          rw [reply] at carried
          exact ⟨rfl, (congrArg _ (List.append_nil _)).trans carried⟩

theorem hears_executeScatter :
    Hears ext caller told (Coordinator.executeScatter ext session (.ok [stmt]) [tc])
      (fun outcome _ => Gathers ext (extractPlan ext (.ok [stmt]))
        (told (Coordinator.shardText ext (.ok [stmt]))) outcome) w := by
  apply Prog.wp_seq hears_scatterLoop
  rintro ⟨failed, results⟩ later gathered
  cases reply : told (Coordinator.shardText ext (.ok [stmt])) with
  | error reason =>
      rw [reply] at gathered
      obtain ⟨failure, same⟩ := gathered
      have same : failed = some failure := same
      subst same
      exact hears_abort failure fun _ _ _ => nofun
  | ok result =>
      rw [reply] at gathered
      obtain ⟨same, carried⟩ := gathered
      have same : failed = none := same
      subst same
      have concluded : ∀ outcome : Outcome,
          Concludes ext (extractPlan ext (.ok [stmt])) results outcome →
            Gathers ext (extractPlan ext (.ok [stmt])) (.ok result) outcome :=
        fun outcome concludes => ⟨results, carried, concludes⟩
      simp only
      split
      · rename_i merges
        split
        · rename_i failed
          exact hears_abort _ fun _ _ => concluded _ (concludes_error merges failed)
        · rename_i failed
          exact Prog.wp_pure_alone (concluded _ (concludes_error merges failed))
        · rename_i merged finished
          refine Prog.wp_pure_alone (concluded _ fun resp => ?_)
          rw [conclude, if_pos merges, finished]
      · rename_i unmerged
        refine Prog.wp_pure_alone (concluded _ fun resp => ?_)
        rw [conclude, if_neg unmerged]

/-- Where a scattered statement goes. -/
theorem Router.Sole.tablets
    (sole : w.router.Sole tc)
    (plain : Parser.isTxControl stmt = false)
    (range : RangeOrder)
    (inTransaction : Bool)
    (scattered : (w.router.route ext.exprString range (.ok [stmt]) inTransaction).1.scatter =
      true) :
    (w.router.route ext.exprString range (.ok [stmt]) inTransaction).1.tablets = [tc] :=
  (Router.route_of_scatter _ _ ext.exprString range stmt [] plain scattered).trans
    (sole.scatterTablets _ _ _)

/-- Inside a transaction the answer to the rewritten statement is merged. -/
theorem hears_inside
    (plain : Parser.isTxControl stmt = false)
    (sole : w.router.Sole tc)
    (scatters : ∀ range, (w.router.route ext.exprString range (.ok [stmt]) true).1.scatter = true)
    (nonzero : session ≠ 0)
    (present : w.present session = true)
    (inside : (w.sessions session).state = .inTransaction) :
    Hears ext caller told (Gateway.execute ext ⟨.ok [stmt], session⟩)
      (fun outcome _ => Gathers ext (extractPlan ext (.ok [stmt]))
        (told (Coordinator.shardText ext (.ok [stmt]))) outcome) w := by
  rw [Gateway.execute_plain ext plain, if_neg nonzero]
  apply hears_perform
  intro _ _ _ _ found
  cases found
  rw [if_pos present]
  apply hears_perform
  intro _ _ _ _ checked
  cases checked
  rw [if_neg (not_ne_iff.mpr inside)]
  apply hears_perform
  intro choice result routed _ stepped
  have decided : (w.router.route ext.exprString choice.order (.ok [stmt]) true).1 = result :=
    congrArg Prod.fst stepped
  have scattered := scatters choice.order
  have single := sole.tablets plain choice.order true scattered
  rw [decided] at scattered single
  rw [if_neg (by rw [scattered]; exact nofun), single]
  apply Prog.wp_seq hears_beginOnAll
  rintro failed begun rfl
  rw [scattered]
  exact hears_executeScatter

/-- Outside a transaction the statement is forwarded. -/
theorem hears_outside
    (plain : Parser.isTxControl stmt = false)
    (sole : w.router.Sole tc)
    (scatters : ∀ range, (w.router.route ext.exprString range (.ok [stmt]) false).1.scatter =
      true) :
    Hears ext caller told (Gateway.execute ext ⟨.ok [stmt], 0⟩)
      (fun outcome _ => ∃ answer : Except String QueryResponse,
        Carries (told (.ok [stmt])) answer ∧ outcome = answer.mapError Fault.error) w := by
  rw [Gateway.execute_plain ext plain, if_pos rfl]
  apply hears_perform
  intro choice result routed _ stepped
  have decided : (w.router.route ext.exprString choice.order (.ok [stmt]) false).1 = result :=
    congrArg Prod.fst stepped
  have scattered := scatters choice.order
  have single := sole.tablets plain choice.order false scattered
  have uncontrolled := Router.route_uncontrolled w.router false ext.exprString choice.order stmt
    [] plain
  rw [decided] at scattered single uncontrolled
  rw [if_neg (by rw [scattered]; exact nofun), if_neg (by rw [uncontrolled]; exact nofun), single]
  apply hears_perform
  intro _ answer _ carried _
  exact Prog.wp_pure_alone ⟨answer, carried, rfl⟩

end Requests

/-- The answer of the database to a query without DISTINCT ON, given the rows it returns
without DISTINCT, ORDER BY and LIMIT: a segment of these rows, each once under DISTINCT, in
the order of the ORDER BY clause or as they come. -/
structure Answers
    (plan : QueryPlan)
    (before : List String → List String → Bool)
    (offset limit : Int)
    (core direct : QueryResult) : Prop where
  columns : direct.columns = core.columns
  order : StrictWeakOn (fun first second => before first second = true) {row | row ∈ core.rows}
  rows : ∃ sorted, direct.rows = slice sorted offset limit ∧
    sorted.Perm (received plan [core]) ∧
    (plan.orderBy ≠ [] → sorted.Pairwise fun first second => before second first = false) ∧
    (plan.orderBy = [] → sorted = received plan [core])

/-- The gate prints the aggregate of a single cell like the cell. -/
def Aggregate.SelectExprInfo.Reprints
    (ext : Externals)
    (sel : SelectExprInfo)
    (cell : String) :
    Prop :=
  let number := toFloat64 (inferType ext cell)
  if sel.isAggregate then
    match sel.aggType with
    | .count => ∃ value, Decimal.InInt64 value ∧ cell = Decimal.formatInt value
    | .sum => ext.floatIsNaN number = false ∧
        ext.sprintFloat (ext.floatAdd (ext.floatOfInt 0) number) = cell
    | .max => Canonical ext cell
    | .min => Canonical ext cell
    | .avg => cell ∉ ["NULL", "null", ""] ∧ ext.floatIsNaN number = false ∧
        ext.sprintFloat number = cell
  else sel.rawExpr = cell

/-- The gate reads the window of the database, and its end does not overflow. -/
def Aggregate.QueryPlan.Reads (plan : QueryPlan) (offset limit : Int) : Prop :=
  plan.offset = offset ∧ plan.limit = limit ∧ 0 ≤ offset ∧ offset + limit ≤ Decimal.maxInt64

/-- What the gate makes of the rows without the clauses is what the database makes of them:
the gate compares the rows as the database does, never two different ones as equal, and prints
them as they are; or there is one row of aggregates that it prints as they are. -/
inductive Reproducible
    (ext : Externals)
    (plan : QueryPlan)
    (before : List String → List String → Bool)
    (offset limit : Int)
    (core : QueryResult) : Prop
  | merged (plain : plan.hasAgg = false) (reads : plan.Reads offset limit)
      (preserves : Preserves ext plan core.rows)
      (compares : plan.orderBy ≠ [] → 1 < (received plan [core]).length →
        Compares ext plan core.columns before core.rows ∧
          ∀ first ∈ core.rows, ∀ second ∈ core.rows,
            before first second = false → before second first = false → first = second)
  | aggregated (row : List String) (aggregates : plan.hasAgg = true)
      (reads : plan.Reads offset limit) (single : core.rows = [row])
      (wide : row.length ≤ core.columns.length) (selected : row.length = plan.selects.length)
      (reprints : ∀ (index : Nat) (sel : SelectExprInfo) (cell : String),
        plan.selects[index]? = some sel → row[index]? = some cell → sel.Reprints ext cell)

section Clauses

variable {ext : Externals} {plan : QueryPlan} {before : List String → List String → Bool}
variable {offset limit : Int} {core direct : QueryResult}

theorem allRows_single (core : QueryResult) : allRows { results := [core] } = core.rows := by
  simp [allRows]

/-- The gate sorts the rows as the database does. -/
theorem answerRows_of_merged
    (plain : plan.hasAgg = false)
    (reads : plan.Reads offset limit)
    (preserves : Preserves ext plan core.rows)
    (compares : plan.orderBy ≠ [] → 1 < (received plan [core]).length →
      Compares ext plan core.columns before core.rows ∧
        ∀ first ∈ core.rows, ∀ second ∈ core.rows,
          before first second = false → before second first = false → first = second)
    (answers : Answers plan before offset limit core direct) :
    answerRows ext plan [core] = .ok direct.rows := by
  obtain ⟨rfl, rfl, forward, fits⟩ := reads
  obtain ⟨sorted, segment, moved, inOrder, unordered⟩ := answers.rows
  have order := answers.order
  rw [← allRows_single core] at preserves order
  obtain ⟨texts, answered, movedTexts, textsInOrder, textsUnordered⟩ :=
    answerRows_compared plain preserves order
      (fun named several => by
        rw [allRows_single]
        exact (compares named several).1) forward fits
  rw [answered, segment]
  have together := movedTexts.trans moved.symm
  by_cases unnamed : plan.orderBy = []
  · rw [unordered unnamed, textsUnordered unnamed]
  · have same : texts = sorted := by
      by_cases several : 1 < (received plan [core]).length
      · have held : ∀ row ∈ texts, row ∈ core.rows := by
          intro row present
          have listed := movedTexts.mem_iff.mp present
          rw [received, allRows_single] at listed
          split at listed
          · exact List.mem_eraseDups.mp listed
          · exact listed
        refine together.eq_of_pairwise ?_ (textsInOrder unnamed) (inOrder unnamed)
        intro first second inFirst inSecond one other
        exact (compares unnamed several).2 first (held first inFirst) second
          (held second (together.mem_iff.mpr inSecond)) other one
      · rw [← movedTexts.length_eq] at several
        cases texts with
        | nil => exact together.nil_eq
        | cons text others =>
            obtain rfl := List.eq_nil_of_length_eq_zero (l := others) (by simpa using several)
            exact List.singleton_perm.mp together
    rw [same]

theorem inferType_ne_null
    {cell : String}
    (spelled : cell ∉ ["NULL", "null", ""]) :
    inferType ext cell ≠ .null := by
  have spelled : ¬ (cell = "NULL" ∨ cell = "null" ∨ cell = "") := by simpa using spelled
  unfold inferType
  rw [if_neg spelled]
  split
  · rintro ⟨⟩
  · split
    · rintro ⟨⟩
    · split
      · rintro ⟨⟩
      · rintro ⟨⟩

theorem aggBest_single
    {better : ComparableValue ext → ComparableValue ext → Bool}
    {row : List String}
    {index : Nat}
    {cell : String}
    (found : row[index]? = some cell)
    (canonical : Canonical ext cell) :
    (aggBest better [row.map (inferType ext)] index).sprint = cell := by
  have typed : (row.map (inferType ext))[index]? = some (inferType ext cell) := by
    rw [List.getElem?_map, found, Option.map_some]
  have present : inferType ext cell ≠ .null := inferType_ne_null canonical.1
  have printed : (inferType ext cell).sprint = cell := (reprint_eq_self_iff cell).mpr canonical
  simp only [aggBest, List.foldl_cons, List.foldl_nil, typed]
  generalize inferType ext cell = value at present printed
  cases value with
  | null => exact absurd rfl present
  | _ => exact printed

theorem sprint_aggregateCell
    {cols : List String}
    {row : List String}
    {index : Nat}
    {cell : String}
    {sel : SelectExprInfo}
    (found : row[index]? = some cell)
    (wide : index < cols.length)
    (reprints : sel.Reprints ext cell) :
    (aggregateCell cols [row.map (inferType ext)] index sel).sprint = cell := by
  have typed : (row.map (inferType ext))[index]? = some (inferType ext cell) := by
    rw [List.getElem?_map, found, Option.map_some]
  unfold SelectExprInfo.Reprints at reprints
  unfold aggregateCell
  cases aggregate : sel.isAggregate with
  | false =>
      simp only [aggregate, Bool.false_eq_true, if_false] at reprints
      exact reprints
  | true =>
      simp only [aggregate, if_true] at reprints
      rw [if_neg (by simp), if_neg (Nat.not_le.mpr wide)]
      cases kind : sel.aggType with
      | count =>
          simp only [kind] at reprints
          obtain ⟨value, fits, rfl⟩ := reprints
          rw [inferType_formatInt fits] at typed
          simp only [aggSumInt64, List.foldl_cons, List.foldl_nil, typed, Int.zero_add,
            Decimal.wrap64_of_inInt64 fits]
          rfl
      | sum =>
          simp only [kind] at reprints
          simp only [aggSum, List.foldl_cons, List.foldl_nil, typed, reprints.1]
          exact reprints.2
      | max | min =>
          simp only [kind] at reprints
          exact aggBest_single found reprints
      | avg =>
          simp only [kind] at reprints
          obtain ⟨spelled, real, printed⟩ := reprints
          have present : inferType ext cell ≠ .null := inferType_ne_null spelled
          simp only [bestEffortAvg, typed]
          generalize inferType ext cell = value at present real printed
          cases value with
          | null => exact absurd rfl present
          | _ =>
              simp only [real, Bool.false_eq_true, if_false]
              exact printed

/-- The gate reproduces a single row of aggregates. -/
theorem answerRows_of_aggregated
    {row : List String}
    (aggregates : plan.hasAgg = true)
    (reads : plan.Reads offset limit)
    (single : core.rows = [row])
    (wide : row.length ≤ core.columns.length)
    (selected : row.length = plan.selects.length)
    (reprints : ∀ (index : Nat) (sel : SelectExprInfo) (cell : String),
      plan.selects[index]? = some sel → row[index]? = some cell → sel.Reprints ext cell)
    (answers : Answers plan before offset limit core direct) :
    answerRows ext plan [core] = .ok direct.rows := by
  obtain ⟨rfl, rfl, forward, fits⟩ := reads
  obtain ⟨sorted, segment, moved, _, _⟩ := answers.rows
  have alone : received plan [core] = [row] := by
    rw [received, allRows_single, single]
    split
    · rfl
    · rfl
  rw [alone, List.perm_singleton] at moved
  have flat : flattenResults ext { results := [core] } =
      ([row.map (inferType ext)], core.columns) := by
    simp [flattenResults, single]
  have printed : (applyAggregation plan core.columns [row.map (inferType ext)]).map Value.sprint =
      row := by
    apply List.ext_getElem
    · rw [applyAggregation, List.length_map, List.length_mapIdx, selected]
    · intro index _ inRow
      rw [List.getElem_map]
      simp only [applyAggregation, List.getElem_mapIdx]
      have inSelects : index < plan.selects.length := selected ▸ inRow
      have found : row[index]? = some row[index] := List.getElem?_eq_getElem inRow
      exact sprint_aggregateCell found (Nat.lt_of_lt_of_le inRow wide)
        (reprints index _ _ (List.getElem?_eq_getElem inSelects) found)
  rw [answerRows_of_aggregates aggregates, flat, segment, moved]
  have once : (if plan.distinct then applyDistinct [row.map (inferType ext)]
      else [row.map (inferType ext)]) = [row.map (inferType ext)] := by
    split
    · rfl
    · rfl
  rw [once, printed]
  exact windowStep_eq forward fits [row]

theorem answerRows_of_reproducible
    (reproducible : Reproducible ext plan before offset limit core)
    (answers : Answers plan before offset limit core direct) :
    answerRows ext plan [core] = .ok direct.rows := by
  cases reproducible with
  | merged plain reads preserves compares =>
      exact answerRows_of_merged plain reads preserves compares answers
  | aggregated row aggregates reads single wide selected reprints =>
      exact answerRows_of_aggregated aggregates reads single wide selected reprints answers

/-- What is gathered from one tablet depends on its table only. -/
theorem mergeScatterResponses_table
    {results : List QueryResult}
    (carried : results.map QueryResult.table = [core.table]) :
    mergeScatterResponses ext (some plan) { results } =
      mergeScatterResponses ext (some plan) { results := [core] } := by
  obtain ⟨result, rfl, same⟩ := List.map_eq_singleton_iff.mp carried
  have columnsAre : result.columns = core.columns := congrArg Prod.fst same
  have rowsAre : result.rows = core.rows := congrArg Prod.snd same
  simp only [mergeScatterResponses, flattenResults, List.flatMap_singleton, columnsAre, rowsAre]

/-- The response of a merge has the columns of the tablet. -/
theorem tables_of_answerRows
    {rows : List (List String)}
    (answered : answerRows ext plan [core] = .ok rows) :
    ∃ merged, mergeScatterResponses ext (some plan) { results := [core] } = .ok merged ∧
      merged.results.map QueryResult.table = [(core.columns, rows)] := by
  obtain ⟨merged, finished, listed⟩ := merged_of_answerRows answered
  refine ⟨merged, finished, ?_⟩
  unfold mergeScatterResponses at finished
  simp only at finished
  split at finished
  · cases finished
  · injection finished with same
    rw [← same, allRows_single] at listed
    rw [← same, ← listed]
    rfl

/-- ORDER BY columns that are not in the result make the merge of several rows fail. -/
theorem merge_of_unsortable
    (plain : plan.hasAgg = false)
    (unsortable : ¬ plan.Sortable ext core.columns)
    (several : 1 < keptCount ext plan core.rows) :
    plan.needsMerge = true ∧
      ∃ fault, mergeScatterResponses ext (some plan) { results := [core] } = .error fault := by
  have flat : flattenResults ext { results := [core] } =
      (core.rows.map fun row => row.map (inferType ext), core.columns) := by
    simp [flattenResults]
  have sorts : 0 < plan.orderBy.length := by
    apply List.length_pos_iff.mpr
    intro unordered
    exact unsortable fun column listed => absurd (unordered ▸ listed) List.not_mem_nil
  refine ⟨by simp [QueryPlan.needsMerge, sorts], ?_⟩
  rw [← collectStep_length plain core.columns] at several
  cases located : orderIndices ext (columnMap ext core.columns) plan.orderBy with
  | ok keys => exact absurd (found_of_orderIndices located) unsortable
  | error fault =>
      refine ⟨fault, ?_⟩
      simp only [mergeScatterResponses, mergeRows, flat, Option.getD_some, orderStep,
        if_pos (And.intro sorts several), sortRows, located]

end Clauses

/-- The expressions of a DISTINCT ON clause. -/
def Tree.Select.distinctOn (sel : Select) : List Expr :=
  match sel.select with
  | .selectClause clause => clause.distinctOn
  | _ => []

/-- How the answers to the rewritten query and to the query itself have to be: both fail, or
only the query itself, for an ORDER BY column that the gate misses too; or both succeed, and
the gate has nothing to do or reproduces what the database does. -/
def Interchangeable
    (ext : Externals)
    (sel : Select)
    (plan : QueryPlan)
    (before : List String → List String → Bool)
    (offset limit : Int) :
    Except String QueryResult → Except String QueryResult → Prop
  | .error _, .error _ => True
  | .error _, .ok _ => False
  | .ok core, .error _ => plan.hasAgg = false ∧ ¬ plan.Sortable ext core.columns ∧
      1 < keptCount ext plan core.rows
  | .ok core, .ok _ => (plan.needsMerge = false ∧ plan.offset ≤ 0) ∨
      (sel.distinctOn = [] ∧ plan.needsMerge = true ∧
        Reproducible ext plan before offset limit core)

theorem shardText_of_unmerged
    {ext : Externals}
    {sql : SqlText}
    (unmerged : (extractPlan ext sql).needsMerge = false)
    (unshifted : (extractPlan ext sql).offset ≤ 0) : Coordinator.shardText ext sql = sql := by
  rw [Coordinator.shardText, if_neg]
  simp only [QueryPlan.needsMerge, QueryPlan.needsShardRewrite, Bool.or_eq_false_iff,
    Bool.or_eq_true, decide_eq_true_eq, decide_eq_false_iff_not] at unmerged ⊢
  obtain ⟨⟨⟨_, once⟩, unordered⟩, unlimited⟩ := unmerged
  rintro (((named | limited) | shifted) | distinct)
  · exact unordered named
  · exact unlimited limited
  · omega
  · rw [once] at distinct
    cases distinct

/-- What is gathered from a tablet agrees with what it answers directly. -/
theorem agrees_of_gathers
    {ext : Externals}
    {sel : Select}
    {plan : QueryPlan}
    {before : List String → List String → Bool}
    {offset limit : Int}
    {rewritten itself : Except String QueryResult}
    {outcome : Outcome}
    {answer : Except String QueryResponse}
    (gathers : Gathers ext plan rewritten outcome)
    (carries : Carries itself answer)
    (unchanged : plan.needsMerge = false → plan.offset ≤ 0 → rewritten = itself)
    (answers : sel.distinctOn = [] → ∀ core direct, rewritten = .ok core → itself = .ok direct →
      Answers plan before offset limit core direct)
    (interchangeable : Interchangeable ext sel plan before offset limit rewritten itself) :
    outcome.Agrees (answer.mapError Fault.error) := by
  cases itself with
  | error reason =>
      cases answer with
      | ok resp => exact False.elim carries
      | error failure =>
          have failed : ∀ resp, outcome ≠ .ok resp := by
            cases rewritten with
            | error reason => exact gathers
            | ok core =>
                obtain ⟨plain, unsortable, several⟩ := interchangeable
                obtain ⟨results, carried, concludes⟩ := gathers
                obtain ⟨merges, fault, broken⟩ := merge_of_unsortable plain unsortable several
                intro resp returned
                have concluded := (concludes resp).mp returned
                rw [conclude, if_pos merges, mergeScatterResponses_table carried, broken]
                  at concluded
                cases concluded
          cases outcome with
          | ok resp => exact absurd rfl (failed resp)
          | error fault => exact trivial
  | ok direct =>
      cases answer with
      | error failure => exact False.elim carries
      | ok resp =>
          have carries : resp.results.map QueryResult.table = [direct.table] := carries
          cases rewritten with
          | error reason => exact False.elim interchangeable
          | ok core =>
              obtain ⟨results, carried, concludes⟩ := gathers
              rcases interchangeable with ⟨unmerged, unshifted⟩ | ⟨plain, merges, reproducible⟩
              · have same : core = direct := Except.ok.inj (unchanged unmerged unshifted)
                have returned := (concludes { results }).mpr (by rw [conclude, unmerged]; rfl)
                rw [returned]
                exact (carried.trans (by rw [same])).trans carries.symm
              · have held := answers plain core direct rfl rfl
                obtain ⟨merged, finished, tables⟩ :=
                  tables_of_answerRows (answerRows_of_reproducible reproducible held)
                have returned := (concludes merged).mpr (by
                  rw [conclude, if_pos merges, mergeScatterResponses_table carried]
                  exact finished)
                rw [returned]
                refine tables.trans ?_
                rw [← held.columns]
                exact carries.symm

/-- With a single shard, a query that is scattered returns the same inside a transaction as
outside, when the gate reproduces what the database does with its clauses. -/
theorem scatter_to_one_shard_is_direct
    (ext : Externals)
    (caller other : Caller)
    (sel : Select)
    (text : String)
    (session : Int)
    (told : SqlText → Except String QueryResult)
    (before : List String → List String → Bool)
    (offset limit : Int)
    (w : World)
    (tc : TabletClient)
    (sole : w.router.Sole tc)
    (scatters : ∀ range inTransaction,
      (w.router.route ext.exprString range (.ok [⟨.select sel, text⟩]) inTransaction).1.scatter =
        true)
    (nonzero : session ≠ 0)
    (present : w.present session = true)
    (inside : (w.sessions session).state = .inTransaction)
    (answers : sel.distinctOn = [] → ∀ core direct,
      told (Coordinator.shardText ext (.ok [⟨.select sel, text⟩])) = .ok core →
        told (.ok [⟨.select sel, text⟩]) = .ok direct →
          Answers (extractPlan ext (.ok [⟨.select sel, text⟩])) before offset limit core direct)
    (interchangeable : Interchangeable ext sel (extractPlan ext (.ok [⟨.select sel, text⟩]))
      before offset limit (told (Coordinator.shardText ext (.ok [⟨.select sel, text⟩])))
      (told (.ok [⟨.select sel, text⟩])))
    (outcome direct : Outcome)
    (after later : World)
    (inTransaction : Prog.Returns (World.machine ext) caller (fun _ _ => False)
      (fun step => Heard told step.op (step.answer (World.machine ext) caller))
      (Gateway.execute ext ⟨.ok [⟨.select sel, text⟩], session⟩) w outcome after)
    (autocommit : Prog.Returns (World.machine ext) other (fun _ _ => False)
      (fun step => Heard told step.op (step.answer (World.machine ext) other))
      (Gateway.execute ext ⟨.ok [⟨.select sel, text⟩], 0⟩) w direct later) :
    outcome.Agrees direct := by
  have gathers := inTransaction.post (fun _ _ => False.elim)
    (hears_inside rfl sole (fun range => scatters range true) nonzero present inside)
  obtain ⟨answer, carries, rfl⟩ := autocommit.post (fun _ _ => False.elim)
    (hears_outside rfl sole fun range => scatters range false)
  refine agrees_of_gathers gathers carries ?_ answers interchangeable
  intro unmerged unshifted
  rw [shardText_of_unmerged unmerged unshifted]

/-- A primary for all ids. -/
def oneShardRouter : Router :=
  (Router.newRouter Router.usersSchema).sync .stored (fun _ => true)
    [{ keyspace := "main", shard := "shard-0", type := "PRIMARY", addr := "a:1"
       keyRangeStart := 0, keyRangeEnd := 10000 }]

/-- The database holds a single id. -/
def oneId (id : String) : Choice :=
  { verdicts := fun _ => { columns := ["id"], rows := [[.text id]] } }

/-- The tree of `SELECT id FROM users LIMIT 2`. -/
def twoIds : Select :=
  selectIds (some (.numVal "2")) none

/-- What the query returns in a session, or in none. -/
def firstIds (id : String) (session : Int) : Outcome :=
  (serve integralExternals ⟨0, none⟩ (Strategy.constant (oneId id))
    ⟨.ok [⟨.select twoIds, "SELECT id FROM users LIMIT 2"⟩], session⟩ (openWorld oneShardRouter)).1

theorem first_ids_agree : (firstIds "ann" 1).Agrees (firstIds "ann" 0) := by
  let ids : QueryResult := { columns := ["id"], rows := [["ann"]] }
  have heard : ∀ session ∈ ([0, 1] : List Int), ∀ step ∈
      (Gateway.execute integralExternals
        ⟨.ok [⟨.select twoIds, "SELECT id FROM users LIMIT 2"⟩], session⟩).steps
        (World.machine integralExternals) ⟨0, none⟩ (Strategy.constant (oneId "ann"))
        (openWorld oneShardRouter),
      Heard (fun _ => .ok ids) step.op
        (step.answer (World.machine integralExternals) ⟨0, none⟩) := by
    decide +kernel
  have order : StrictWeakOn (fun _ _ : List String => false = true) {row | row ∈ ids.rows} :=
    (StrictWeakOn.of_empty _).congr fun _ _ _ _ => by simp
  refine scatter_to_one_shard_is_direct integralExternals ⟨0, none⟩ ⟨0, none⟩ twoIds
    "SELECT id FROM users LIMIT 2" 1 (fun _ => .ok ids) (fun _ _ => false) 0 2
    (openWorld oneShardRouter) ⟨0, "a:1"⟩ ⟨_, _, rfl, rfl, rfl, rfl⟩ ?_ (by decide) rfl rfl ?_ ?_
    _ _ _ _
    (.of_run (Strategy.constant_quiet _) (heard 1 (by decide)))
    (.of_run (Strategy.constant_quiet _) (heard 0 (by decide)))
  · intro range inTransaction
    rfl
  · rintro _ core direct ⟨⟩ ⟨⟩
    exact ⟨rfl, order, ids.rows, rfl, List.Perm.refl _, fun named => absurd rfl named, fun _ => rfl⟩
  · refine Or.inr ⟨rfl, rfl, .merged rfl ⟨rfl, rfl, by decide, by decide⟩ ⟨by decide, nofun⟩ ?_⟩
    exact fun named => absurd rfl named

/-- Inside a transaction the text of an id is read as a number and printed anew. -/
theorem first_ids_disagree :
    firstIds "007" 1 =
        .ok { results := [{ columns := ["id"], rows := [["7"]], rowsAffected := 1 }] } ∧
      firstIds "007" 0 =
        .ok { results := [{ sql := "SELECT id FROM users LIMIT 2", columns := ["id"]
                            rows := [["007"]] }] } ∧
      ¬ (firstIds "007" 1).Agrees (firstIds "007" 0) := by
  have inside : firstIds "007" 1 =
      .ok { results := [{ columns := ["id"], rows := [["7"]], rowsAffected := 1 }] } := by decide
  have outside : firstIds "007" 0 =
      .ok { results := [{ sql := "SELECT id FROM users LIMIT 2", columns := ["id"]
                          rows := [["007"]] }] } := by decide
  rw [inside, outside]
  refine ⟨rfl, rfl, fun agree => ?_⟩
  have rowsAre := congrArg (List.map Prod.snd) agree
  exact absurd rowsAre (by decide)

end VScale
