import VScale.Aggregate.Plan
import VScale.Gate.World

/-!
# The coordinator

Begin, commit, rollback and statement execution of a cross-shard transaction.
The goroutines that ask every participant act on different tablets and only
share a channel of errors, so they are run one after the other in the order in
which they complete, which is left open.
-/

namespace VScale

open Aggregate Effects

/-- A program of the gate. -/
abbrev GateM := Prog gate

namespace GateM

/-- Return an error. -/
def fail (message : String) : GateM Outcome :=
  .pure (.error (.error message))

end GateM

namespace Coordinator

/-- Nothing to send a statement to. -/
def errNoTabletsAvailable : String := "coordinator: no tablets available"

/-- The first phase has failed. -/
def errPrepareFailed : String := "coordinator: PREPARE failed on one or more shards"

/-- The second phase has failed. -/
def errCommitFailed : String := "coordinator: COMMIT failed on one or more shards"

/-- A rollback has failed. -/
def errRollbackFailed : String := "coordinator: ROLLBACK failed on one or more shards"

/-- A result that only names the command. -/
def acknowledge (command : String) : QueryResponse :=
  { results := [{ sql := command }] }

/-- Create a session in a transaction. -/
def begin : GateM Int :=
  .perform .create fun session =>
    .perform (.setState session .inTransaction) fun _ => .pure session

/-- Ask the participants one after the other and keep the first complaint. -/
def fanOut (ask : String → TxID → GateM (Option String)) :
    List (String × TxID) → GateM (Option String)
  | [] => .pure none
  | (addr, txID) :: rest => do
      let complaint ← ask addr txID
      let later ← fanOut ask rest
      pure (complaint.or later)

/-- Ask one participant; the request answers with a transport error, or with
the tablet's reason to refuse, if it has one. -/
def askShard
    (step refusal : String)
    (request : TabletClient → TxID → GateM (Except String (Option String)))
    (addr : String)
    (txID : TxID) : GateM (Option String) :=
  .perform (.getClient addr) fun client =>
    match client with
    | none => .pure (some (step ++ " on " ++ addr ++ ": client not available"))
    | some tc => do
        let answer ← request tc txID
        match answer with
        | .error failure => pure (some (step ++ " on " ++ addr ++ ": " ++ failure))
        | .ok (some reason) => pure (some (step ++ " on " ++ addr ++ refusal ++ ": " ++ reason))
        | .ok none => pure none

/-- Ask all participants recorded in the session. -/
def askAll
    (sentinel : String)
    (ask : String → TxID → GateM (Option String))
    (session : Int) :
    GateM (Option String) :=
  .perform (.participatingShardsMap session) fun shards => do
    let complaint ← fanOut ask shards
    pure (complaint.map fun reason => sentinel ++ ": " ++ reason)

/-- The goroutine that prepares one participant. -/
def prepareShard : String → TxID → GateM (Option String) :=
  askShard "prepare" " rejected" fun tc txID =>
    .perform (.prepare tc txID) fun answer =>
      .pure (answer.map fun resp => if resp.prepared then none else some resp.error)

/-- The goroutine that commits one participant. -/
def commitShard : String → TxID → GateM (Option String) :=
  askShard "commit" " rejected" fun tc txID =>
    .perform (.commit tc txID) fun answer =>
      .pure (answer.map fun resp => if resp.committed then none else some resp.error)

/-- The goroutine that rolls one participant back. -/
def rollbackShard : String → TxID → GateM (Option String) :=
  askShard "rollback" "" fun tc txID =>
    .perform (.rollback tc txID) fun answer =>
      .pure (answer.map fun resp => if resp.rolledBack then none else some resp.error)

/-- The first phase of a commit. -/
def prepareAll (session : Int) : GateM (Option String) :=
  askAll errPrepareFailed prepareShard session

/-- The second phase of a commit. -/
def commitAll (session : Int) : GateM (Option String) :=
  askAll errCommitFailed commitShard session

/-- Roll all participants back. -/
def rollbackAll (session : Int) : GateM (Option String) :=
  askAll errRollbackFailed rollbackShard session

/-- Roll everything back, ignoring complaints, and report a failure. -/
def abort (session : Int) (message : String) : GateM Outcome := do
  let _ ← rollbackAll session
  GateM.fail message

/-- Leave the transaction after all participants have committed. -/
def concludeCommit (session : Int) : GateM Outcome :=
  .perform (.setState session .committed) fun _ =>
    .perform (.clearParticipants session) fun _ =>
      .pure (.ok (acknowledge "COMMIT"))

/-- The loop of a commit with a single participant. -/
def commitEach (session : Int) : List (String × TxID) → GateM Outcome
  | [] => concludeCommit session
  | (addr, txID) :: rest =>
      .perform (.getClient addr) fun client =>
        match client with
        | none =>
            GateM.fail ("coordinator: tablet " ++ addr ++ " not available for commit")
        | some tc =>
            .perform (.commit tc txID) fun answer =>
              match answer with
              | .error failure =>
                  abort session ("coordinator: commit on " ++ addr ++ " failed: " ++ failure)
              | .ok resp =>
                  if resp.committed then commitEach session rest
                  else
                    abort session
                      ("coordinator: commit on " ++ addr ++ " rejected: " ++ resp.error)

/-- Two phases over all participants. -/
def commitInPhases (session : Int) : GateM Outcome := do
  let unprepared ← prepareAll session
  match unprepared with
  | some failure => abort session failure
  | none => do
      let uncommitted ← commitAll session
      match uncommitted with
      | some failure => GateM.fail failure
      | none => concludeCommit session

/-- Commit a session: nothing to do, one participant, or two phases. -/
def commit (session : Int) : GateM Outcome :=
  .perform (.getState session) fun (state : SessionState) =>
    if state ≠ .inTransaction then
      .perform (.getState session) fun (printed : SessionState) =>
        GateM.fail ("coordinator: cannot commit, session state=" ++
          Decimal.formatInt printed.number)
    else
      .perform (.shardCount session) fun (shardCount : Nat) =>
        if shardCount = 0 then
          .perform (.setState session .committed) fun _ =>
            .pure (.ok (acknowledge "COMMIT"))
        else if shardCount = 1 then
          .perform (.participatingShardsMap session) fun shards => commitEach session shards
        else
          commitInPhases session

/-- Roll a session back, whatever the participants answer. -/
def rollback (session : Int) : GateM Outcome :=
  .perform (.getState session) fun (state : SessionState) =>
    if state ≠ .inTransaction then
      .perform (.getState session) fun (printed : SessionState) =>
        GateM.fail ("coordinator: cannot rollback, session state=" ++
          Decimal.formatInt printed.number)
    else do
      let _ ← rollbackAll session
      .perform (.setState session .rolledBack) fun _ =>
        .perform (.clearParticipants session) fun _ =>
          .pure (.ok (acknowledge "ROLLBACK"))

/-- Begin on a tablet and keep its id. -/
def beginOnTablet (tc : TabletClient) : GateM (Except String TxID) :=
  .perform (.begin tc) fun answer =>
    .pure (answer.map QueryResponse.transactionId)

/-- Begin on every tablet that does not participate yet. -/
def beginOnAll (session : Int) : List TabletClient → GateM (Option String)
  | [] => .pure none
  | tc :: rest =>
      .perform (.isParticipating session tc.target) fun (participating : Bool) =>
        if participating then beginOnAll session rest
        else do
          let begun ← beginOnTablet tc
          match begun with
          | .error failure =>
              let _ ← rollbackAll session
              pure (some ("coordinator: failed to begin on shard " ++ tc.target ++ ": " ++ failure))
          | .ok txID =>
              .perform (.setLocalTxID session tc.target txID) fun _ => beginOnAll session rest

/-- The id a session holds for a tablet, zero when it holds none. -/
def localTxID (session : Int) (addr : String) : GateM TxID :=
  .perform (.getLocalTxID session addr) fun held => .pure (held.getD TxID.zero)

/-- Execute on every tablet, going on after failures; the first failure is kept. -/
def scatterLoop
    (session : Int)
    (execSQL : SqlText) :
    List TabletClient → GateM (Option String × List QueryResult)
  | [] => .pure (none, [])
  | tc :: rest => do
      let txID ← localTxID session tc.target
      .perform (.execute tc execSQL txID) fun answer => do
        let later ← scatterLoop session execSQL rest
        match answer with
        | .error failure =>
            pure
              (some ("coordinator: scatter query failed on shard " ++ tc.target ++ ": " ++ failure),
                later.2)
        | .ok resp => pure (later.1, resp.results ++ later.2)

/-- The statement sent to the shards of a scatter. -/
def shardText (ext : Externals) (sql : SqlText) : SqlText :=
  if (extractPlan ext sql).needsShardRewrite then stripForScatter ext sql else sql

/-- Execute on all tablets and merge the results; any failure rolls everything back. -/
def executeScatter
    (ext : Externals)
    (session : Int)
    (sql : SqlText)
    (tablets : List TabletClient) : GateM Outcome := do
  let gathered ← scatterLoop session (shardText ext sql) tablets
  match gathered.1 with
  | some failure => abort session failure
  | none =>
      let plan := extractPlan ext sql
      if plan.needsMerge then
        match mergeScatterResponses ext (some plan) { results := gathered.2 } with
        | .error (.error failure) =>
            abort session ("coordinator: aggregation failed: " ++ failure)
        | .error .crash => pure (.error .crash)
        | .ok merged => pure (.ok merged)
      else
        pure (.ok { results := gathered.2 })

/-- Execute on the single tablet of a point-routed statement. -/
def executeSingle (session : Int) (sql : SqlText) (tc : TabletClient) : GateM Outcome := do
  let txID ← localTxID session tc.target
  .perform (.execute tc sql txID) fun answer => .pure (answer.mapError Fault.error)

/-- Execute a statement inside a transaction, joining the tablets it is routed to. -/
def execute (ext : Externals) (session : Int) (sql : SqlText) : GateM Outcome :=
  .perform (.getState session) fun (state : SessionState) =>
    if state ≠ .inTransaction then
      .perform (.getState session) fun (printed : SessionState) =>
        GateM.fail ("coordinator: session not in transaction (state=" ++
          Decimal.formatInt printed.number ++ ")")
    else
      .perform (.route sql true) fun result =>
        if result.tablets = [] ∧ result.scatter = false then
          GateM.fail errNoTabletsAvailable
        else do
          let failed ← beginOnAll session result.tablets
          match failed with
          | some failure => GateM.fail failure
          | none =>
              match result.tablets, result.scatter with
              | [tc], false => executeSingle session sql tc
              | tablets, _ => executeScatter ext session sql tablets

end Coordinator

end VScale
