import VScale.Gate.Coordinator

/-!
# The gateway

Dispatch of a request: transaction control goes to the coordinator, a statement
with a transaction id to its session, and any other statement to the tablets
directly.
-/

namespace VScale

open Aggregate Effects

/-- A request to the gate. -/
structure QueryRequest where
  sql : SqlText
  transactionId : Int := 0

namespace Gateway

/-- The manager does not know the session. -/
def errSessionNotFound : String := "session: no such session"

/-- The session a transaction id names. -/
def withSession (txID : Int) (missing : String) (rest : GateM Outcome) : GateM Outcome :=
  .perform (.get txID) fun (found : Bool) =>
    if found then rest
    else GateM.fail (missing ++ Decimal.formatInt txID ++ ": " ++ errSessionNotFound)

/-- The acknowledgement of a BEGIN. -/
def acknowledgeBegin (txID : Int) : QueryResponse :=
  { Coordinator.acknowledge "BEGIN" with transactionId := ⟨txID.toNat, 0⟩ }

/-- BEGIN: reopen the named session or create one. -/
def handleBegin (txID : Int) : GateM Outcome :=
  if txID ≠ 0 then
    withSession txID "gateway: cannot BEGIN inside invalid session "
      (.perform (.getState txID) fun (state : SessionState) =>
        if state = .inTransaction then .pure (.ok (acknowledgeBegin txID))
        else
          .perform (.setState txID .inTransaction) fun _ =>
            .perform (.clearParticipants txID) fun _ =>
              .pure (.ok (acknowledgeBegin txID)))
  else do
    let session ← Coordinator.begin
    pure (.ok (acknowledgeBegin session))

/-- Report how the coordinator ended a transaction. -/
def concludeWith (failed : String) (outcome : Outcome) : Outcome :=
  match outcome with
  | .error (.error failure) => .error (.error (failed ++ failure))
  | .error .crash => .error .crash
  | .ok resp => .ok { resp with transactionId := TxID.zero }

/-- COMMIT of the named session. -/
def handleCommit (txID : Int) : GateM Outcome :=
  if txID = 0 then GateM.fail "gateway: no active transaction to commit"
  else
    withSession txID "gateway: cannot commit invalid transaction " do
      let outcome ← Coordinator.commit txID
      pure (concludeWith "gateway: commit failed: " outcome)

/-- ROLLBACK of the named session. -/
def handleRollback (txID : Int) : GateM Outcome :=
  if txID = 0 then GateM.fail "gateway: no active transaction to rollback"
  else
    withSession txID "gateway: cannot rollback invalid transaction " do
      let outcome ← Coordinator.rollback txID
      pure (concludeWith "gateway: rollback failed: " outcome)

/-- Execute on every tablet in turn, stopping at the first failure. -/
def scatterLoop (execSQL : SqlText) :
    List TabletClient → GateM (Except String (List QueryResult))
  | [] => .pure (.ok [])
  | tc :: rest =>
      .perform (.execute tc execSQL TxID.zero) fun answer =>
        match answer with
        | .error failure =>
            .pure (.error ("gateway: scatter query failed on one tablet: " ++ failure))
        | .ok resp => do
            let later ← scatterLoop execSQL rest
            pure (later.map fun results => resp.results ++ results)

/-- The response of a scatter, merged when the plan asks for it. -/
def gather (ext : Externals) (sql : SqlText) (results : List QueryResult) : Outcome :=
  let plan := extractPlan ext sql
  if plan.needsMerge then
    match mergeScatterResponses ext (some plan) { results := results } with
    | .error (.error failure) => .error (.error ("gateway: aggregation failed: " ++ failure))
    | .error .crash => .error .crash
    | .ok merged => .ok merged
  else
    .ok { results := results }

/-- Execute a statement outside any transaction. -/
def executeAutocommit (ext : Externals) (sql : SqlText) : GateM Outcome :=
  .perform (.route sql false) fun result =>
    if result.tablets = [] ∧ result.scatter = false then
      GateM.fail "gateway: no tablets available"
    else if result.txControl then
      GateM.fail "gateway: unexpected transaction control in autocommit"
    else
      match result.tablets with
      | [tc] =>
          .perform (.execute tc sql TxID.zero) fun answer =>
            .pure (answer.mapError Fault.error)
      | tablets => do
          let gathered ← scatterLoop (Coordinator.shardText ext sql) tablets
          match gathered with
          | .error failure => GateM.fail failure
          | .ok results => pure (gather ext sql results)

/-- Serve a request by its first statement. -/
def execute (ext : Externals) (req : QueryRequest) : GateM Outcome :=
  match req.sql with
  | .error failure => GateM.fail ("gateway: parse failed: " ++ failure)
  | .ok [] => .pure (.ok {})
  | .ok (stmt :: _) =>
      if Parser.isBegin stmt then handleBegin req.transactionId
      else if Parser.isCommit stmt then handleCommit req.transactionId
      else if Parser.isRollback stmt then handleRollback req.transactionId
      else if req.transactionId = 0 then executeAutocommit ext req.sql
      else
        withSession req.transactionId "gateway: invalid transaction id "
          (Coordinator.execute ext req.transactionId req.sql)

end Gateway

end VScale
