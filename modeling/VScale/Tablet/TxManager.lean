import Mathlib.Logic.Function.Basic
import VScale.Proto
import VScale.Sql.Tree

/-!
# The transaction manager of a tablet

A tablet process numbers its transactions from one.  The model keeps ended
transactions with their outcome and the call that began them; both are ghosts,
since the manager finds a transaction only while it is active.  The epoch counts
the processes that have run at the tablet's address, and a lookup always uses
the number of the id together with the epoch of the running process.

What PostgreSQL answers is a `Verdict` chosen from outside.
-/

namespace VScale

open Tree

/-- The call an operation belongs to, and the gate session it acts for. -/
structure Caller where
  call : Nat
  session : Option Int
  deriving DecidableEq, Repr

/-- A value of a result row, as the database driver returns it. -/
inductive SqlValue
  | null
  | int64 (value : Int)
  | bool (value : Bool)
  | text (value : String)
  | other (printed : String)
  deriving DecidableEq, Repr

/-- The answer of the database to one action.  A commit that fails may still
have taken effect. -/
structure Verdict where
  failure : Option String := none
  columns : List String := []
  rows : List (List SqlValue) := []
  rowsAffected : Int := 0
  tookEffect : Bool := false
  deriving DecidableEq, Repr

/-- The result of one statement on a tablet. -/
structure Result where
  sql : String
  columns : List String := []
  rows : List (List SqlValue) := []
  rowsAffected : Int := 0
  deriving DecidableEq, Repr

/-- The states of a transaction. -/
inductive TxStatus
  | active
  | committed
  | rolledBack
  deriving DecidableEq, Repr

/-- A local transaction with the call that began it. -/
structure LocalTx where
  owner : Caller
  status : TxStatus
  deriving DecidableEq, Repr

/-- What an action does to the database of a tablet. -/
inductive TabletEvent
  | opened (id : TxID)
  | ran (id : Option TxID) (stmt : Statement) (succeeded : Bool)
  | ended (id : TxID) (outcome : TxStatus)

/-- The answer of a tablet function, the state it leaves and what it did. -/
structure Reply (σ α : Type) where
  answer : Except String α
  state : σ
  events : List TabletEvent := []

/-- Number zero, ids of later epochs and numbers beyond the counter are unused. -/
structure TxManager where
  epoch : Nat
  nextID : Nat
  txns : TxID → Option LocalTx
  unused : ∀ id : TxID, id.id = 0 ∨ epoch < id.epoch ∨ (epoch = id.epoch ∧ nextID < id.id) →
    txns id = none

namespace TxManager

/-- The manager of the first process at an address. -/
def newTxManager : TxManager where
  epoch := 0
  nextID := 0
  txns := fun _ => none
  unused := fun _ _ => rfl

/-- The id denotes no open transaction. -/
def errNoSuchTransaction : String := "executor: no such transaction"

/-- The transaction an id denotes for the running process. -/
def resolve (m : TxManager) (id : TxID) : TxID :=
  ⟨id.id, m.epoch⟩

/-- Look up an active transaction. -/
def get (m : TxManager) (id : TxID) : Option LocalTx :=
  (m.txns (m.resolve id)).filter fun tx => tx.status = .active

/-- Record how a transaction ended. -/
def finish (m : TxManager) (id : TxID) (outcome : TxStatus) : TxManager :=
  { m with
    txns := Function.update m.txns (m.resolve id)
      ((m.txns (m.resolve id)).map fun tx => { tx with status := outcome })
    unused := by
      intro other beyond
      by_cases same : other = m.resolve id
      · rw [same, Function.update_self, ← same, m.unused other beyond]
        rfl
      · rw [Function.update_of_ne same, m.unused other beyond] }

theorem unused_begin
    (m : TxManager)
    (owner : Caller)
    (other : TxID)
    (beyond : other.id = 0 ∨ m.epoch < other.epoch ∨
      (m.epoch = other.epoch ∧ m.nextID + 1 < other.id)) :
    Function.update m.txns ⟨m.nextID + 1, m.epoch⟩ (some ⟨owner, .active⟩) other = none := by
  have different : other ≠ ⟨m.nextID + 1, m.epoch⟩ := by
    rintro rfl
    simp only at beyond
    omega
  rw [Function.update_of_ne different]
  exact m.unused other (by omega)

/-- Begin a transaction under the next number. -/
def begin (owner : Caller) (verdict : Verdict) (m : TxManager) : Reply TxManager TxID :=
  match verdict.failure with
  | some failure => { answer := .error failure, state := m }
  | none =>
      let id : TxID := ⟨m.nextID + 1, m.epoch⟩
      { answer := .ok id
        state :=
          { m with
            nextID := m.nextID + 1
            txns := Function.update m.txns id (some ⟨owner, .active⟩)
            unused := m.unused_begin owner }
        events := [.opened id] }

/-- Run a statement inside a transaction. -/
def run
    (verdict : Verdict)
    (stmt : Statement)
    (result : Result)
    (m : TxManager)
    (id : TxID) :
    Reply TxManager Result :=
  match m.get id with
  | none => { answer := .error errNoSuchTransaction, state := m }
  | some _ =>
      match verdict.failure with
      | some failure =>
          { answer := .error failure
            state := m
            events := [.ran (some (m.resolve id)) stmt false] }
      | none =>
          { answer := .ok result
            state := m
            events := [.ran (some (m.resolve id)) stmt true] }

/-- Run a statement in a transaction. -/
def execute
    (verdict : Verdict)
    (stmt : Statement)
    (m : TxManager)
    (id : TxID) :
    Reply TxManager Result :=
  m.run verdict stmt { sql := stmt.sql, rowsAffected := verdict.rowsAffected } id

/-- Run a query in a transaction. -/
def query
    (verdict : Verdict)
    (stmt : Statement)
    (m : TxManager)
    (id : TxID) :
    Reply TxManager Result :=
  m.run verdict stmt
    { sql := stmt.sql
      columns := verdict.columns
      rows := verdict.rows
      rowsAffected := verdict.rowsAffected } id

/-- End a transaction; it is forgotten whatever the database answers. -/
def terminate
    (verdict : Verdict)
    (outcome : TxStatus)
    (m : TxManager)
    (id : TxID) :
    Reply TxManager Unit :=
  match m.get id with
  | none => { answer := .error errNoSuchTransaction, state := m }
  | some _ =>
      { answer :=
          match verdict.failure with
          | some failure => .error failure
          | none => .ok ()
        state := m.finish id outcome
        events := [.ended (m.resolve id) outcome] }

/-- Whether the database has committed when a commit was answered this way. -/
def commitOutcome (verdict : Verdict) : TxStatus :=
  if verdict.failure = none ∨ verdict.tookEffect = true then .committed else .rolledBack

/-- Commit a transaction. -/
def commit (verdict : Verdict) (m : TxManager) (id : TxID) : Reply TxManager Unit :=
  m.terminate verdict (commitOutcome verdict) id

/-- Roll a transaction back. -/
def rollback (verdict : Verdict) (m : TxManager) (id : TxID) : Reply TxManager Unit :=
  m.terminate verdict .rolledBack id

/-- The manager of the next process at the same address.  The database rolls
back what the stopped process left active. -/
def restart (m : TxManager) : TxManager where
  epoch := m.epoch + 1
  nextID := 0
  txns := fun id => (m.txns id).map fun tx =>
    if tx.status = .active then { tx with status := .rolledBack } else tx
  unused := by
    intro id beyond
    rw [m.unused id (by omega)]
    rfl

end TxManager

end VScale
