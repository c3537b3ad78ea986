import VScale.Gate.Gateway
import VScale.Gate.Goroutines

/-!
# Which operations the programs of the gate perform

Every program is built from loops over tablets or participants.  Each result
says which operations must be allowed for the whole program to stay within what
is allowed.
-/

namespace VScale

open Aggregate Effects

/-- Operations that execute no statement on a tablet. -/
def GateOp.Idle : GateOp → Prop
  | .execute _ _ _ => False
  | _ => True

namespace Coordinator

variable {allowed : GateOp → Prop}

variable {session : Int}

/-- A fan-out performs what asking one participant performs. -/
theorem only_fanOut
    {ask : String → TxID → GateM (Option String)}
    (asks : ∀ addr txID, (ask addr txID).Only allowed)
    (shards : List (String × TxID)) :
    (fanOut ask shards).Only allowed := by
  rw [← Goroutines.oneByOne_map]
  apply Job.only_oneByOne
  intro program listed
  obtain ⟨shard, _, rfl⟩ := List.mem_map.mp listed
  exact asks shard.1 shard.2

/-- A program performs the operations of its goroutines. -/
theorem only_of_goroutines
    {job : GateJob α}
    {program : GateM α}
    (same : job.sequential = program)
    (only : job.Only allowed) : program.Only allowed := by
  rw [← same]
  exact Job.only_sequential only

theorem only_rollbackAll (may : Rollbacks allowed session) : (rollbackAll session).Only allowed :=
  only_of_goroutines (Goroutines.sequential_askAll _ _ _) (Goroutines.only_rollbackAll may)

theorem only_abort
    (may : Rollbacks allowed session)
    (message : String) :
    (abort session message).Only allowed :=
  only_of_goroutines (Goroutines.sequential_abort _ _) (Goroutines.only_abort may message)

theorem only_prepareAll
    (reads : allowed (.participatingShardsMap session))
    (looks : ∀ addr, allowed (.getClient addr))
    (prepares : ∀ tc txID, allowed (.prepare tc txID)) :
    (prepareAll session).Only allowed :=
  only_of_goroutines (Goroutines.sequential_askAll _ _ _)
    (Goroutines.only_prepareAll reads looks prepares)

theorem only_commitAll
    (reads : allowed (.participatingShardsMap session))
    (looks : ∀ addr, allowed (.getClient addr))
    (commits : ∀ tc txID, allowed (.commit tc txID)) :
    (commitAll session).Only allowed :=
  only_of_goroutines (Goroutines.sequential_askAll _ _ _)
    (Goroutines.only_commitAll reads looks commits)

theorem only_concludeCommit (may : Commits allowed session) :
    (concludeCommit session).Only allowed :=
  ⟨may.concludes, fun _ => ⟨may.clears, fun _ => trivial⟩⟩

/-- What a commit performs. -/
theorem only_commit (may : Commits allowed session) : (commit session).Only allowed :=
  only_of_goroutines (Goroutines.sequential_commit session) (Goroutines.only_commit may)

/-- What beginning on the tablets performs. -/
theorem only_beginOnAll
    (may : Rollbacks allowed session)
    (checks : ∀ addr, allowed (.isParticipating session addr))
    (begins : ∀ tc, allowed (.begin tc))
    (records : ∀ addr txID, allowed (.setLocalTxID session addr txID))
    (tablets : List TabletClient) :
    (beginOnAll session tablets).Only allowed := by
  induction tablets with
  | nil => exact trivial
  | cons tc tablets ih =>
      refine ⟨checks tc.target, ?_⟩
      intro participating
      cases participating with
      | true => exact ih
      | false =>
          apply Prog.only_bind
          · exact ⟨begins tc, fun _ => trivial⟩
          · intro begun
            cases begun with
            | error failure =>
                apply Prog.only_bind (only_rollbackAll may)
                intro complaint
                exact trivial
            | ok txID => exact ⟨records tc.target txID, fun _ => ih⟩

/-- What a rollback performs. -/
theorem only_rollback
    (may : Rollbacks allowed session)
    (checks : allowed (.getState session))
    (concludes : allowed (.setState session .rolledBack))
    (clears : allowed (.clearParticipants session)) :
    (rollback session).Only allowed := by
  refine ⟨checks, ?_⟩
  intro state
  simp only
  split
  · exact ⟨checks, fun _ => trivial⟩
  · apply Prog.only_bind (only_rollbackAll may)
    intro complaint
    exact ⟨concludes, fun _ => ⟨clears, fun _ => trivial⟩⟩

/-- The operations of a text on chosen tablets. -/
structure Executes (allowed : GateOp → Prop) (session : Int) (sql : SqlText) : Prop where
  looks : ∀ addr, allowed (.getLocalTxID session addr)
  executes : ∀ tc txID, allowed (.execute tc sql txID)

theorem only_scatterLoop
    (may : Executes allowed session sql)
    (tablets : List TabletClient) :
    (scatterLoop session sql tablets).Only allowed := by
  induction tablets with
  | nil => exact trivial
  | cons tc tablets ih =>
      refine ⟨may.looks tc.target, fun held => ⟨may.executes tc _, ?_⟩⟩
      intro answer
      apply Prog.only_bind ih
      intro later
      cases answer with
      | error | ok => exact trivial

/-- What a scattered statement of a session performs. -/
theorem only_executeScatter
    (ext : Externals)
    (mayExecute : Executes allowed session (shardText ext sql))
    (mayRollback : Rollbacks allowed session)
    (tablets : List TabletClient) :
    (executeScatter ext session sql tablets).Only allowed := by
  apply Prog.only_bind (only_scatterLoop mayExecute tablets)
  rintro ⟨failed, results⟩
  cases failed with
  | some failure => exact only_abort mayRollback failure
  | none =>
      simp only
      split
      · split
        · exact only_abort mayRollback _
        · exact trivial
        · exact trivial
      · exact trivial

theorem only_executeSingle
    (may : Executes allowed session sql)
    (tc : TabletClient) :
    (executeSingle session sql tc).Only allowed :=
  ⟨may.looks tc.target, fun _ => ⟨may.executes tc _, fun _ => trivial⟩⟩

/-- The operations of a statement in a transaction, once it is routed. -/
structure Routed
    (ext : Externals)
    (allowed : GateOp → Prop)
    (session : Int)
    (sql : SqlText) :
    Prop where
  rollbacks : Rollbacks allowed session
  direct : Executes allowed session sql
  scattered : Executes allowed session (shardText ext sql)
  asks : ∀ addr, allowed (.isParticipating session addr)
  begins : ∀ tc, allowed (.begin tc)
  records : ∀ addr txID, allowed (.setLocalTxID session addr txID)

/-- What follows the routing decision of a statement in a transaction. -/
def executeRouted
    (ext : Externals)
    (session : Int)
    (sql : SqlText)
    (result : RouteResult) :
    GateM Outcome := do
  let failed ← beginOnAll session result.tablets
  match failed with
  | some failure => GateM.fail failure
  | none =>
      match result.tablets, result.scatter with
      | [tc], false => executeSingle session sql tc
      | tablets, _ => executeScatter ext session sql tablets

/-- What a routed statement of a session performs. -/
theorem only_executeRouted
    (may : Routed ext allowed session sql)
    (result : RouteResult) :
    (executeRouted ext session sql result).Only allowed := by
  apply Prog.only_bind (only_beginOnAll may.rollbacks may.asks may.begins may.records _)
  intro failed
  cases failed with
  | some failure => exact trivial
  | none =>
      simp only
      split
      · exact only_executeSingle may.direct _
      · exact only_executeScatter ext may.scattered may.rollbacks _

end Coordinator

namespace Gateway

/-- Where a statement that does not control transactions is executed. -/
theorem execute_plain
    (ext : Externals)
    {stmt : Tree.Statement}
    (plain : Parser.isTxControl stmt = false)
    {stmts : List Tree.Statement}
    (transactionId : Int) :
    execute ext ⟨.ok (stmt :: stmts), transactionId⟩ =
      if transactionId = 0 then executeAutocommit ext (.ok (stmt :: stmts))
      else withSession transactionId "gateway: invalid transaction id "
        (Coordinator.execute ext transactionId (.ok (stmt :: stmts))) := by
  have kinds : Parser.isBegin stmt = false ∧ Parser.isCommit stmt = false ∧
      Parser.isRollback stmt = false := by
    simpa [Parser.isTxControl, and_assoc] using plain
  unfold execute
  simp only [kinds, Bool.false_eq_true, if_false]

variable {allowed : GateOp → Prop} {sql : SqlText}

theorem only_scatterLoop
    (executes : ∀ tc, allowed (.execute tc sql TxID.zero))
    (tablets : List TabletClient) :
    (scatterLoop sql tablets).Only allowed := by
  induction tablets with
  | nil => exact trivial
  | cons tc tablets ih =>
      refine ⟨executes tc, ?_⟩
      intro answer
      cases answer with
      | error failure => exact trivial
      | ok resp =>
          apply Prog.only_bind ih
          intro later
          exact trivial

/-- What the gateway does once it knows the shards of a statement. -/
def forward
    (ext : Externals)
    (sql : SqlText) : List TabletClient → GateM Outcome
  | [tc] =>
      .perform (.execute tc sql TxID.zero) fun answer => .pure (answer.mapError Fault.error)
  | tablets => do
      let gathered ← scatterLoop (Coordinator.shardText ext sql) tablets
      match gathered with
      | .error failure => GateM.fail failure
      | .ok results => pure (gather ext sql results)

/-- What follows the routing decision of a statement outside a transaction. -/
def executeRouted (ext : Externals) (sql : SqlText) (result : RouteResult) : GateM Outcome :=
  if result.tablets = [] ∧ result.scatter = false then
    GateM.fail "gateway: no tablets available"
  else if result.txControl then
    GateM.fail "gateway: unexpected transaction control in autocommit"
  else
    forward ext sql result.tablets

theorem only_executeRouted
    (ext : Externals)
    (direct : ∀ tc, allowed (.execute tc sql TxID.zero))
    (scattered : ∀ tc, allowed (.execute tc (Coordinator.shardText ext sql) TxID.zero))
    (result : RouteResult) :
    (executeRouted ext sql result).Only allowed := by
  unfold executeRouted forward
  split
  · exact trivial
  · split
    · exact trivial
    · split
      · exact ⟨direct _, fun _ => trivial⟩
      · apply Prog.only_bind (only_scatterLoop scattered _)
        intro gathered
        cases gathered with
        | error | ok => exact trivial

/-- What a statement outside a transaction performs. -/
theorem only_executeAutocommit
    (ext : Externals)
    (routes : allowed (.route sql false))
    (direct : ∀ tc, allowed (.execute tc sql TxID.zero))
    (scattered : ∀ tc, allowed (.execute tc (Coordinator.shardText ext sql) TxID.zero)) :
    (executeAutocommit ext sql).Only allowed :=
  ⟨routes, only_executeRouted ext direct scattered⟩

section Requests

variable {txID : Int} {missing : String} {rest : GateM Outcome}

theorem only_withSession
    (looks : allowed (.get txID))
    (only : rest.Only allowed) :
    (withSession txID missing rest).Only allowed := by
  refine ⟨looks, ?_⟩
  intro found
  simp only
  split
  · exact only
  · exact trivial

/-- What a BEGIN performs. -/
theorem only_handleBegin
    (creates : allowed .create)
    (looks : allowed (.get txID))
    (checks : allowed (.getState txID))
    (begins : ∀ session, allowed (.setState session .inTransaction))
    (clears : allowed (.clearParticipants txID)) :
    (handleBegin txID).Only allowed := by
  unfold handleBegin
  split
  · apply only_withSession looks
    refine ⟨checks, ?_⟩
    intro state
    simp only
    split
    · exact trivial
    · exact ⟨begins txID, fun _ => ⟨clears, fun _ => trivial⟩⟩
  · exact ⟨creates, fun session => ⟨begins session, fun _ => trivial⟩⟩

/-- The parts of a request have a property, and putting them together keeps it. -/
structure Assembles
    (ext : Externals)
    (req : QueryRequest)
    (property : GateM Outcome → Prop) :
    Prop where
  answers : ∀ outcome, property (.pure outcome)
  looks : ∀ txID missing {rest}, property rest → property (withSession txID missing rest)
  concludes : ∀ failed {program}, property program →
    property (program >>= fun outcome => pure (concludeWith failed outcome))
  begins : property (handleBegin req.transactionId)
  commits : req.transactionId ≠ 0 → property (Coordinator.commit req.transactionId)
  rollbacks : req.transactionId ≠ 0 → property (Coordinator.rollback req.transactionId)
  forwards : property (executeAutocommit ext req.sql)
  executes : req.transactionId ≠ 0 → property (Coordinator.execute ext req.transactionId req.sql)

/-- A property of all parts is one of the request. -/
theorem Assembles.request
    {ext : Externals}
    {req : QueryRequest}
    {property : GateM Outcome → Prop}
    (parts : Assembles ext req property) : property (execute ext req) := by
  unfold execute
  split
  · exact parts.answers _
  · exact parts.answers _
  · split
    · exact parts.begins
    · split
      · unfold handleCommit
        split
        · exact parts.answers _
        · rename_i inside
          exact parts.looks _ _ (parts.concludes _ (parts.commits inside))
      · split
        · unfold handleRollback
          split
          · exact parts.answers _
          · rename_i inside
            exact parts.looks _ _ (parts.concludes _ (parts.rollbacks inside))
        · split
          · exact parts.forwards
          · rename_i inside
            exact parts.looks _ _ (parts.executes inside)

end Requests

end Gateway

end VScale
