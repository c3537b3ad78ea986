import VScale.Aggregate.Window
import VScale.Gate.ScatterCoverage

/-!
# How many rows a scattered SELECT returns

DISTINCT, ORDER BY, LIMIT and OFFSET are removed from what the shards execute.
The gate applies them again when it merges, but it does not merge for an OFFSET
alone.  What the gate returns is read off the trace of the request.
-/

namespace VScale

open Aggregate Collections Effects Tree

/-- The routing decisions in a trace. -/
def routesOf (trace : Trace gate) : List RouteResult :=
  trace.filterMap fun entry =>
    match entry with
    | ⟨.route _ _, result⟩ => some result
    | _ => none

/-- What tablets answered to statements in a trace. -/
def responsesOf (trace : Trace gate) : List (Except String QueryResponse) :=
  trace.filterMap fun entry =>
    match entry with
    | ⟨.execute _ _ _, answer⟩ => some answer
    | _ => none

theorem responsesOf_append (first second : Trace gate) :
    responsesOf (first ++ second) = responsesOf first ++ responsesOf second :=
  List.filterMap_append

variable {program : GateM α} {value : α}

variable {trace : Trace gate} {responses : List QueryResponse}

theorem responsesOf_idle
    (follows : program.Follows trace value)
    (idle : program.Only GateOp.Idle) :
    responsesOf trace = [] := by
  apply List.filterMap_eq_nil_iff.mpr
  rintro ⟨op, answer⟩ present
  have allowed := follows.allowed_of_only idle _ present
  cases op with
  | execute tc sql txID => exact absurd allowed id
  | _ => rfl

theorem idle_rollbacks (session : Int) : Coordinator.Rollbacks GateOp.Idle session :=
  ⟨trivial, fun _ => trivial, fun _ _ => trivial⟩

theorem idle_beginOnAll
    (session : Int)
    (tablets : List TabletClient) :
    (Coordinator.beginOnAll session tablets).Only GateOp.Idle :=
  Coordinator.only_beginOnAll (idle_rollbacks session) (fun _ => trivial) (fun _ => trivial)
    (fun _ _ => trivial) tablets

/-- Results of all responses, in order. -/
def collected (responses : List QueryResponse) : List QueryResult :=
  responses.flatMap QueryResponse.results

variable {sql : SqlText} {tablets : List TabletClient}

/-- All tablets that were asked have answered. -/
structure AllAnswered
    (sql : SqlText)
    (trace : Trace gate)
    (responses : List QueryResponse) :
    Prop where
  answers : responsesOf trace = responses.map .ok
  asked : ∀ resp ∈ responses, ∃ tc txID, ⟨.execute tc sql txID, .ok resp⟩ ∈ trace

/-- What a loop has gathered is the whole of what all tablets answered, or one of
them has failed. -/
def GathersAll
    (sql : SqlText)
    (whole : List QueryResult → γ)
    (trace : Trace gate)
    (gathered : γ) :
    Prop :=
  (∃ responses, AllAnswered sql trace responses ∧ gathered = whole (collected responses)) ∨
    (∃ failure, .error failure ∈ responsesOf trace) ∧ ∀ results, gathered ≠ whole results

namespace GathersAll

variable {whole : List QueryResult → γ} {gathered found : γ}

theorem of_nil : GathersAll sql whole [] (whole []) :=
  Or.inl ⟨[], ⟨rfl, List.forall_mem_nil _⟩, rfl⟩

/-- One more tablet has answered, after operations that execute nothing. -/
theorem cons
    {tc : TabletClient}
    {txID : TxID}
    {resp : QueryResponse}
    (before : Trace gate)
    (later : GathersAll sql whole trace found)
    (quiet : responsesOf before = [])
    (more : ∀ results, found = whole results → gathered = whole (resp.results ++ results))
    (stops : (∀ results, found ≠ whole results) → ∀ results, gathered ≠ whole results) :
    GathersAll sql whole (before ++ ⟨.execute tc sql txID, .ok resp⟩ :: trace) gathered := by
  have answers : responsesOf (before ++ ⟨.execute tc sql txID, .ok resp⟩ :: trace) =
      .ok resp :: responsesOf trace := by
    rw [responsesOf_append, quiet]
    rfl
  rcases later with ⟨responses, ⟨same, asked⟩, whole⟩ | ⟨⟨failure, failed⟩, other⟩
  · refine Or.inl ⟨resp :: responses, ⟨?_, List.forall_mem_cons.mpr ⟨?_, ?_⟩⟩, more _ whole⟩
    · rw [answers, same]
      rfl
    · exact ⟨tc, txID, List.mem_append_right _ List.mem_cons_self⟩
    · intro other listed
      obtain ⟨tc, txID, present⟩ := asked other listed
      exact ⟨tc, txID, List.mem_append_right _ (List.mem_cons_of_mem _ present)⟩
  · refine Or.inr ⟨⟨failure, ?_⟩, stops other⟩
    rw [answers]
    exact List.mem_cons_of_mem _ failed

/-- A tablet has failed. -/
theorem failed
    {tc : TabletClient}
    {txID : TxID}
    {failure : String}
    (before : Trace gate)
    (stops : ∀ results, gathered ≠ whole results) :
    GathersAll sql whole (before ++ ⟨.execute tc sql txID, .error failure⟩ :: trace) gathered := by
  refine Or.inr ⟨⟨failure, ?_⟩, stops⟩
  rw [responsesOf_append]
  exact List.mem_append_right _ List.mem_cons_self

/-- When every tablet answers, their results are gathered. -/
theorem of_answers
    (gathers : GathersAll sql whole trace gathered)
    (answered : responsesOf trace = responses.map .ok) :
    gathered = whole (collected responses) := by
  rcases gathers with ⟨others, all, same⟩ | ⟨⟨failure, failed⟩, _⟩
  · have ok : (Except.ok : QueryResponse → Except String QueryResponse).Injective :=
      fun _ _ => Except.ok.inj
    rw [same, List.map_injective_iff.mpr ok (answered.symm.trans all.answers)]
  · rw [answered] at failed
    obtain ⟨_, _, impossible⟩ := List.mem_map.mp failed
    cases impossible

end GathersAll

theorem gathers_gatewayLoop
    {gathered : Except String (List QueryResult)}
    (follows : (Gateway.scatterLoop sql tablets).Follows trace gathered) :
    GathersAll sql .ok trace gathered := by
  induction tablets generalizing trace gathered with
  | nil =>
      obtain ⟨rfl, rfl⟩ := follows.pure_inv
      exact .of_nil
  | cons tc tablets ih =>
      obtain ⟨answer, rest, rfl, continued⟩ := follows.perform_inv
      cases answer with
      | error failure =>
          rw [continued.pure_inv.2]
          exact .failed [] (by rintro _ ⟨⟩)
      | ok resp =>
          obtain ⟨first, second, found, rfl, loop, finish⟩ := continued.bind_inv
          obtain ⟨rfl, rfl⟩ := finish.pure_inv
          rw [List.append_nil]
          refine .cons [] (ih loop) rfl ?_ ?_
          · rintro results rfl
            rfl
          · intro failed results same
            cases found with
            | error failure => cases same
            | ok later => exact failed later rfl

theorem gathers_coordinatorLoop
    {session : Int}
    {gathered : Option String × List QueryResult}
    (follows : (Coordinator.scatterLoop session sql tablets).Follows trace gathered) :
    GathersAll sql (none, ·) trace gathered := by
  induction tablets generalizing trace gathered with
  | nil =>
      obtain ⟨rfl, rfl⟩ := follows.pure_inv
      exact .of_nil
  | cons tc tablets ih =>
      obtain ⟨held, looked, rfl, executing⟩ := follows.perform_inv
      obtain ⟨answer, rest, rfl, continued⟩ := executing.perform_inv
      obtain ⟨first, second, ⟨failed, later⟩, rfl, loop, finish⟩ := continued.bind_inv
      cases answer with
      | error failure =>
          rw [finish.pure_inv.2]
          exact .failed [⟨.getLocalTxID session tc.target, held⟩] (by rintro _ ⟨⟩)
      | ok resp =>
          obtain ⟨rfl, rfl⟩ := finish.pure_inv
          rw [List.append_nil]
          refine .cons [⟨.getLocalTxID session tc.target, held⟩] (ih loop) rfl ?_ ?_
          · rintro results ⟨⟩
            rfl
          · rintro failed results ⟨⟩
            exact failed later rfl

/-- An outcome is the response that is made of collected results, if there is
one. -/
def Concludes
    (ext : Externals)
    (plan : QueryPlan)
    (results : List QueryResult)
    (outcome : Outcome) : Prop :=
  ∀ resp, outcome = .ok resp ↔ conclude ext plan results = .ok resp

section Requests

variable {ext : Externals} {stmt : Statement} {responses : List QueryResponse}
variable {trace : Trace gate} {outcome : Outcome}

theorem concludes_gather
    (ext : Externals)
    (sql : SqlText)
    (results : List QueryResult) :
    Concludes ext (extractPlan ext sql) results (Gateway.gather ext sql results) := by
  intro resp
  unfold Gateway.gather conclude
  simp only
  split
  · cases mergeScatterResponses ext (some (extractPlan ext sql)) { results := results } with
    | error fault =>
        cases fault with
        | error | crash => exact ⟨nofun, nofun⟩
    | ok merged => exact Iff.rfl
  · exact Iff.rfl

/-- A failed request made no response of results that cannot be merged. -/
theorem concludes_error
    {plan : QueryPlan}
    {results : List QueryResult}
    {fault failure : Fault}
    (merges : plan.needsMerge = true)
    (failed : mergeScatterResponses ext (some plan) { results := results } = .error fault) :
    Concludes ext plan results (.error failure) := by
  intro resp
  unfold conclude
  rw [if_pos merges, failed]
  exact ⟨nofun, nofun⟩

variable {result : RouteResult} {session : Int}

theorem concludes_executeAutocommit
    {rest : Trace gate}
    (controlled : result.txControl = false)
    (several : 2 ≤ result.tablets.length)
    (follows : (Gateway.executeAutocommit ext (.ok [stmt])).Follows
      (⟨.route (.ok [stmt]) false, result⟩ :: rest) outcome)
    (answered : responsesOf rest = responses.map .ok) :
    Concludes ext (extractPlan ext (.ok [stmt])) (collected responses) outcome := by
  obtain ⟨decision, later, split, continued⟩ := follows.perform_inv
  injection split with head tail
  injection head with _ same
  subst tail same
  rw [if_neg (by
    rintro ⟨empty, _⟩
    rw [empty] at several
    exact absurd several (by decide)), if_neg (by rw [controlled]; exact nofun)] at continued
  split at continued
  · rename_i tc single
    rw [single, List.length_singleton] at several
    omega
  · obtain ⟨first, second, gathered, rfl, loop, finish⟩ := continued.bind_inv
    have quiet : responsesOf second = [] := by
      cases gathered with
      | error | ok =>
          obtain ⟨rfl, _⟩ := finish.pure_inv
          rfl
    rw [responsesOf_append, quiet, List.append_nil] at answered
    rw [(gathers_gatewayLoop loop).of_answers answered] at finish
    obtain ⟨rfl, rfl⟩ := finish.pure_inv
    exact concludes_gather ext _ _

theorem concludes_executeScatter
    {tablets : List TabletClient}
    (follows : (Coordinator.executeScatter ext session (.ok [stmt]) tablets).Follows trace outcome)
    (answered : responsesOf trace = responses.map .ok) :
    Concludes ext (extractPlan ext (.ok [stmt])) (collected responses) outcome := by
  have aborts : ∀ {message : String} {trace : Trace gate} {outcome : Outcome},
      (Coordinator.abort session message).Follows trace outcome →
        responsesOf trace = [] ∧ outcome = .error (.error message) := by
    intro message trace outcome follows
    refine ⟨responsesOf_idle follows (Coordinator.only_abort (idle_rollbacks session) message), ?_⟩
    obtain ⟨first, second, complaint, rfl, _, finish⟩ := follows.bind_inv
    exact finish.pure_inv.2
  obtain ⟨first, second, ⟨failed, results⟩, rfl, loop, finish⟩ := follows.bind_inv
  have quiet : responsesOf second = [] := by
    cases failed with
    | some failure => exact (aborts finish).1
    | none =>
        simp only at finish
        split at finish
        · split at finish
          · exact (aborts finish).1
          · obtain ⟨rfl, _⟩ := finish.pure_inv
            rfl
          · obtain ⟨rfl, _⟩ := finish.pure_inv
            rfl
        · obtain ⟨rfl, _⟩ := finish.pure_inv
          rfl
  rw [responsesOf_append, quiet, List.append_nil] at answered
  have all := (gathers_coordinatorLoop loop).of_answers answered
  injection all with none collects
  subst none collects
  simp only at finish
  split at finish
  · rename_i merges
    split at finish
    · rename_i message failed
      rw [(aborts finish).2]
      exact concludes_error merges failed
    · rename_i failed
      rw [finish.pure_inv.2]
      exact concludes_error merges failed
    · rename_i merged finished
      rw [finish.pure_inv.2]
      intro resp
      unfold conclude
      rw [if_pos merges, finished]
  · rename_i unmerged
    rw [finish.pure_inv.2]
    intro resp
    unfold conclude
    rw [if_neg unmerged]

theorem concludes_coordinatorExecute
    (scattered : result.scatter = true)
    (several : 2 ≤ result.tablets.length)
    (follows : (Coordinator.execute ext session (.ok [stmt])).Follows trace outcome)
    (routed : routesOf trace = [result])
    (answered : responsesOf trace = responses.map .ok)
    (complete : responses.length = result.tablets.length) :
    Concludes ext (extractPlan ext (.ok [stmt])) (collected responses) outcome := by
  obtain ⟨state, checked, rfl, continued⟩ := follows.perform_inv
  split at continued
  · obtain ⟨printed, rest, rfl, failed⟩ := continued.perform_inv
    obtain ⟨rfl, _⟩ := failed.pure_inv
    cases routed
  · obtain ⟨decision, rest, rfl, executed⟩ := continued.perform_inv
    injection routed with same _
    subst same
    have answered : responsesOf rest = responses.map .ok := answered
    rw [if_neg (by
      rintro ⟨empty, _⟩
      rw [empty] at several
      exact absurd several (by decide))] at executed
    obtain ⟨first, second, failed, rfl, begins, finish⟩ := executed.bind_inv
    rw [responsesOf_append, responsesOf_idle begins (idle_beginOnAll session _),
      List.nil_append] at answered
    cases failed with
    | some failure =>
        obtain ⟨rfl, _⟩ := finish.pure_inv
        have none : responses = [] := List.map_eq_nil_iff.mp answered.symm
        rw [none] at complete
        rw [← complete] at several
        exact absurd several (by decide)
    | none =>
        simp only at finish
        split at finish
        · rename_i direct
          rw [scattered] at direct
          cases direct
        · exact concludes_executeScatter finish answered

/-- What a scattered statement returns is determined by what the shards answer. -/
theorem concludes_serve
    (ext : Externals)
    (plain : Parser.isTxControl stmt = false)
    {caller : Caller}
    {strategy : Strategy gate World Choice Move}
    {transactionId : Int}
    {w : World}
    (scattered : result.scatter = true)
    (several : 2 ≤ result.tablets.length)
    (routed : routesOf ((Gateway.execute ext ⟨.ok [stmt], transactionId⟩).trace
      (World.machine ext) caller strategy w) = [result])
    (answered : responsesOf ((Gateway.execute ext ⟨.ok [stmt], transactionId⟩).trace
      (World.machine ext) caller strategy w) = responses.map .ok)
    (complete : responses.length = result.tablets.length) :
    Concludes ext (extractPlan ext (.ok [stmt])) (collected responses)
      (serve ext caller strategy ⟨.ok [stmt], transactionId⟩ w).1 := by
  have follows := Prog.follows_run (World.machine ext) caller strategy
    (Gateway.execute ext ⟨.ok [stmt], transactionId⟩) w
  unfold serve
  have origin : ∀ entry ∈ (Gateway.execute ext ⟨.ok [stmt], transactionId⟩).trace
      (World.machine ext) caller strategy w, ∃ choice before,
        entry.2 = ((World.machine ext).act caller entry.1 choice before).1 :=
    fun entry present => Prog.answer_of_mem_trace present
  generalize (Gateway.execute ext ⟨.ok [stmt], transactionId⟩).trace (World.machine ext) caller
    strategy w = trace at follows routed answered origin
  generalize ((Gateway.execute ext ⟨.ok [stmt], transactionId⟩).run (World.machine ext) caller
    strategy w).1 = outcome at follows ⊢
  rw [Gateway.execute_plain ext plain] at follows
  by_cases autocommit : transactionId = 0
  · rw [if_pos autocommit] at follows
    obtain ⟨decision, rest, rfl, _⟩ := follows.perform_inv
    injection routed with same _
    subst same
    obtain ⟨choice, before, decided⟩ := origin _ List.mem_cons_self
    have controlled : RouteResult.txControl decision = false := by
      have decided : decision =
        (before.router.route ext.exprString choice.order (.ok [stmt]) false).1 := decided
      rw [decided]
      exact Router.route_uncontrolled before.router false ext.exprString choice.order stmt [] plain
    exact concludes_executeAutocommit controlled several follows answered
  · rw [if_neg autocommit] at follows
    obtain ⟨found, rest, rfl, continued⟩ := follows.perform_inv
    split at continued
    · exact concludes_coordinatorExecute scattered several continued routed answered complete
    · obtain ⟨rfl, _⟩ := continued.pure_inv
      cases routed

end Requests

/-- A SELECT without aggregates that is scattered to several tablets, all of which
answer, returns as many rows as its clauses ask for exactly when the gate applies
all of them again. -/
theorem scatter_select_window_iff
    (ext : Externals)
    (sel : Select)
    (clause : SelectClause)
    (sql : String)
    (parsed : sel.select = .selectClause clause)
    (plain : (planOfClause ext sel clause).hasAgg = false)
    (limit offset : Option Nat)
    (limited : LiteralClause (sel.limit.bind Limit.count) limit)
    (shifted : LiteralClause (sel.limit.bind Limit.offset) offset)
    (caller : Caller)
    (strategy : Strategy gate World Choice Move)
    (transactionId : Int)
    (w : World)
    (result : RouteResult)
    (responses : List QueryResponse)
    (routed : routesOf ((Gateway.execute ext ⟨.ok [⟨.select sel, sql⟩], transactionId⟩).trace
      (World.machine ext) caller strategy w) = [result])
    (scattered : result.scatter = true)
    (several : 2 ≤ result.tablets.length)
    (answered : responsesOf ((Gateway.execute ext ⟨.ok [⟨.select sel, sql⟩], transactionId⟩).trace
      (World.machine ext) caller strategy w) = responses.map .ok)
    (complete : responses.length = result.tablets.length)
    (bounded : ((allRows { results := collected responses }).length : Int) ≤ Decimal.maxInt64) :
    (∃ resp,
        (serve ext caller strategy ⟨.ok [⟨.select sel, sql⟩], transactionId⟩ w).1 = .ok resp ∧
        (allRows resp).length = windowSize limit offset
          (rowCount (planOfClause ext sel clause)
            (allRows { results := collected responses }))) ↔
      ReappliesClauses ext (planOfClause ext sel clause) (collected responses) limit offset := by
  have uncontrolled : Parser.isTxControl ⟨.select sel, sql⟩ = false := rfl
  have concludes := concludes_serve ext uncontrolled scattered several routed answered complete
  have plan : extractPlan ext (.ok [⟨.select sel, sql⟩]) = planOfClause ext sel clause := by
    simp only [extractPlan, parsed]
  rw [plan] at concludes
  have window : WindowPlan (planOfClause ext sel clause) limit offset :=
    windowPlan_planOfClause clause limited shifted
  rw [← conclude_iff plain window bounded]
  simp only [concludes _]

/-- The clause `SELECT id FROM users`. -/
def idsClause : SelectClause where
  exprs := [{ expr := .unresolvedName ["id"], as := "" }]
  tables := [.listed "users"]

/-- The tree of `SELECT id FROM users` with a LIMIT or OFFSET. -/
def selectIds (count offset : Option Expr) : Select where
  select := .selectClause idsClause
  limit := some { offset := offset, count := count }

/-- Every tablet answers with one row. -/
def oneRow : Choice :=
  { verdicts := fun _ => { columns := ["id"], rows := [[.int64 1]] } }

/-- The answer of one shard. -/
def oneRowResponse : QueryResponse :=
  { results := [{ sql := "SELECT id FROM users", columns := ["id"], rows := [["1"]] }] }

theorem select_with_limit_returns_one_row :
    ∃ resp,
      (serve integralExternals ⟨0, none⟩ (Strategy.constant oneRow)
        ⟨.ok [⟨.select (selectIds (some (.numVal "1")) none), "SELECT id FROM users LIMIT 1"⟩], 0⟩
        (openWorld Router.twoShardRouter)).1 = .ok resp ∧
      (allRows resp).length = 1 :=
  (scatter_select_window_iff integralExternals (selectIds (some (.numVal "1")) none) idsClause
    "SELECT id FROM users LIMIT 1" rfl (by decide) (some 1) none
    (show Decimal.scanInt "1" = some 1 by decide) trivial ⟨0, none⟩ (Strategy.constant oneRow) 0
    (openWorld Router.twoShardRouter)
    { tablets := [⟨0, "b:1"⟩, ⟨1, "a:1"⟩], scatter := true } [oneRowResponse, oneRowResponse]
    (by decide) rfl (by decide) (by decide) rfl (by decide)).mpr
    (show Sorts _ _ _ ∧ EndFits _ _ _ ∧ _ from
      ⟨(sorts_iff_sortable (by decide)).mpr (by decide), by decide, Or.inl (by decide)⟩)

/-- An OFFSET alone is removed from what the shards execute and not applied again:
two rows are returned instead of one. -/
theorem select_with_offset_returns_all_rows :
    ∃ final : Outcome × World,
      serve integralExternals ⟨0, none⟩ (Strategy.constant oneRow)
          ⟨.ok [⟨.select (selectIds none (some (.numVal "1"))),
            "SELECT id FROM users OFFSET 1"⟩], 0⟩
          (openWorld Router.twoShardRouter) = final ∧
        final.1 = .ok { results := collected [oneRowResponse, oneRowResponse] } ∧
        ¬ ∃ resp, final.1 = .ok resp ∧
          (allRows resp).length = windowSize none (some 1)
            (rowCount
              (planOfClause integralExternals (selectIds none (some (.numVal "1"))) idsClause)
              (allRows { results := collected [oneRowResponse, oneRowResponse] })) := by
  have answered : (serve integralExternals ⟨0, none⟩ (Strategy.constant oneRow)
      ⟨.ok [⟨.select (selectIds none (some (.numVal "1"))), "SELECT id FROM users OFFSET 1"⟩], 0⟩
      (openWorld Router.twoShardRouter)).1 =
        .ok { results := collected [oneRowResponse, oneRowResponse] } := by decide
  refine ⟨_, rfl, answered, ?_⟩
  rintro ⟨resp, same, counted⟩
  rw [answered] at same
  injection same with same
  rw [← same] at counted
  exact absurd counted (by decide)

end VScale
