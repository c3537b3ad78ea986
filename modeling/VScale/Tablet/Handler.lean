import VScale.Parser
import VScale.Tablet.TxManager
import VScale.Text.Decimal

/-!
# The executor and the service of a tablet

`executeSQL` runs the statements of one request in order and stops at the first
failure; the handler renders the results as texts.
-/

namespace VScale

open Tree

/-- The types of tablets. -/
inductive TabletType
  | unknown
  | primary
  | replica
  | rdonly
  deriving DecidableEq, Repr

/-- The executor of a tablet with its transactions. -/
structure Executor where
  tx : TxManager := .newTxManager
  tabletType : TabletType := .primary

namespace Executor

/-- A write on a tablet that only reads. -/
def errReadOnly : String :=
  "executor: this tablet is read-only (type= REPLICA/RDONLY), writes are not permitted"

/-- Replicas do not write. -/
def isReadOnlyTablet (e : Executor) : Bool :=
  e.tabletType = .replica || e.tabletType = .rdonly

/-- Use an answer of the transaction manager as the executor's own. -/
def afterTx (e : Executor) (reply : Reply TxManager α) (value : α → β) : Reply Executor β where
  answer := reply.answer.map value
  state := { e with tx := reply.state }
  events := reply.events

/-- Run a statement outside any transaction. -/
def runOutside
    (verdict : Verdict)
    (stmt : Statement)
    (result : Result)
    (e : Executor) :
    Reply Executor Result :=
  match verdict.failure with
  | some failure =>
      { answer := .error failure, state := e, events := [.ran none stmt false] }
  | none =>
      { answer := .ok result, state := e, events := [.ran none stmt true] }

/-- Run a statement that returns no rows. -/
def execute (verdict : Verdict) (stmt : Statement) (e : Executor) : Reply Executor Result :=
  e.runOutside verdict stmt { sql := stmt.sql, rowsAffected := verdict.rowsAffected }

/-- The command tag is read before the rows are, when it still counts nothing. -/
def query (verdict : Verdict) (stmt : Statement) (e : Executor) : Reply Executor Result :=
  e.runOutside verdict stmt
    { sql := stmt.sql
      columns := verdict.columns
      rows := verdict.rows }

/-- Run a statement that does not control transactions. -/
def executePlain
    (verdict : Verdict)
    (e : Executor)
    (txID : TxID)
    (stmt : Statement) :
    Reply Executor (Result × TxID) :=
  if e.isReadOnlyTablet && Parser.isWrite stmt then
    { answer := .error errReadOnly, state := e }
  else if txID.id ≠ 0 then
    if Parser.isReturning stmt then
      e.afterTx (e.tx.query verdict stmt txID) fun result => (result, txID)
    else
      e.afterTx (e.tx.execute verdict stmt txID) fun result => (result, txID)
  else
    let reply :=
      if Parser.isReturning stmt then e.query verdict stmt
      else e.execute verdict stmt
    { answer := reply.answer.map fun result => (result, txID)
      state := reply.state
      events := reply.events }

/-- Run one statement; the answer carries the transaction in force afterwards. -/
def executeStatement
    (owner : Caller)
    (verdict : Verdict)
    (e : Executor)
    (txID : TxID)
    (stmt : Statement) : Reply Executor (Result × TxID) :=
  if Parser.isBegin stmt then
    e.afterTx (e.tx.begin owner verdict) fun id => ({ sql := stmt.sql }, id)
  else if Parser.isCommit stmt then
    e.afterTx (e.tx.commit verdict txID) fun _ => ({ sql := stmt.sql }, TxID.zero)
  else if Parser.isRollback stmt then
    e.afterTx (e.tx.rollback verdict txID) fun _ => ({ sql := stmt.sql }, TxID.zero)
  else
    e.executePlain verdict txID stmt

/-- Run statements in order, each with its own verdict of the database. -/
def executeStatements (owner : Caller) :
    (Nat → Verdict) → Executor → TxID → List Statement → Reply Executor (List Result × TxID)
  | _, e, txID, [] => { answer := .ok ([], txID), state := e }
  | verdicts, e, txID, stmt :: stmts =>
      let first := e.executeStatement owner (verdicts 0) txID stmt
      match first.answer with
      | .error failure => { answer := .error failure, state := first.state, events := first.events }
      | .ok (result, txID) =>
          let rest := executeStatements owner (fun index => verdicts (index + 1))
            first.state txID stmts
          { answer := rest.answer.map fun later => (result :: later.1, later.2)
            state := rest.state
            events := first.events ++ rest.events }

/-- Execute a text in a transaction, or in none for the zero id. -/
def executeSQL
    (owner : Caller)
    (verdicts : Nat → Verdict)
    (e : Executor)
    (sql : SqlText)
    (txID : TxID) : Reply Executor (List Result × TxID) :=
  match sql with
  | .error failure => { answer := .error failure, state := e }
  | .ok stmts => executeStatements owner verdicts e txID stmts

end Executor

/-- How a cell prints with the verb `%v`. -/
def SqlValue.sprint : SqlValue → String
  | .null => "<nil>"
  | .int64 value => Decimal.formatInt value
  | .bool true => "true"
  | .bool false => "false"
  | .text value => value
  | .other printed => printed

/-- The text a client sends to begin a transaction on a tablet. -/
def beginText : SqlText :=
  .ok [{ ast := .beginTransaction, sql := "BEGIN" }]

namespace TabletHandler

/-- A result as it is sent, with every value as a text. -/
def renderResult (result : Result) : QueryResult where
  sql := result.sql
  columns := result.columns
  rows := result.rows.map fun row => row.map SqlValue.sprint
  rowsAffected := result.rowsAffected

/-- Answer a text with the results and the id in force after it. -/
def execute
    (owner : Caller)
    (verdicts : Nat → Verdict)
    (sql : SqlText)
    (txID : TxID)
    (e : Executor) : Reply Executor QueryResponse :=
  let reply := e.executeSQL owner verdicts sql txID
  { answer := reply.answer.map fun done =>
      { results := done.1.map renderResult, transactionId := done.2 }
    state := reply.state
    events := reply.events }

/-- The probe a prepare runs. -/
def selectOne : Statement where
  ast := .select
    { select := .selectClause { exprs := [{ expr := .numVal "1", as := "" }], tables := [] } }
  sql := "SELECT 1"

/-- Answer a phase request: failures travel inside the response. -/
def phase
    (accept : Option String → β)
    (txID : TxID)
    (e : Executor)
    (reply : Reply TxManager α) : Reply Executor β :=
  if txID.id = 0 then { answer := .ok (accept none), state := e }
  else
    { answer := .ok
        (match reply.answer with
        | .error failure => accept (some failure)
        | .ok _ => accept none)
      state := { e with tx := reply.state }
      events := reply.events }

/-- Probe whether a transaction can still run statements. -/
def prepare
    (verdicts : Nat → Verdict)
    (txID : TxID)
    (e : Executor) :
    Reply Executor PrepareResponse :=
  phase (fun failure => { prepared := failure.isNone, error := failure.getD "" }) txID e
    (e.tx.query (verdicts 0) selectOne txID)

/-- Commit a transaction. -/
def commit
    (verdicts : Nat → Verdict)
    (txID : TxID)
    (e : Executor) :
    Reply Executor CommitResponse :=
  phase (fun failure => { committed := failure.isNone, error := failure.getD "" }) txID e
    (e.tx.commit (verdicts 0) txID)

/-- Roll a transaction back. -/
def rollback
    (verdicts : Nat → Verdict)
    (txID : TxID)
    (e : Executor) :
    Reply Executor RollbackResponse :=
  phase (fun failure => { rolledBack := failure.isNone, error := failure.getD "" }) txID e
    (e.tx.rollback (verdicts 0) txID)

end TabletHandler

end VScale
