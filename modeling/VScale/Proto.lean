import Mathlib.Tactic.Common

/-!
# Messages between the gate and the tablets

A transaction id is a 64-bit counter value; zero means no transaction.  Besides
its value the model gives every id the incarnation of the process that handed
it out.  That mark is a ghost: no modelled function reads it.
-/

namespace VScale

/-- A transaction id with the incarnation of the process that issued it. -/
structure TxID where
  id : Nat
  epoch : Nat
  deriving DecidableEq, Repr

/-- The zero id. -/
def TxID.zero : TxID := ⟨0, 0⟩

/-- The result of one statement. -/
structure QueryResult where
  sql : String := ""
  columns : List String := []
  rows : List (List String) := []
  rowsAffected : Int := 0
  deriving DecidableEq, Repr

/-- The results of a text and the transaction it ends in. -/
structure QueryResponse where
  results : List QueryResult := []
  transactionId : TxID := TxID.zero
  deriving DecidableEq, Repr

/-- The answer to a prepare. -/
structure PrepareResponse where
  prepared : Bool
  error : String := ""
  deriving DecidableEq, Repr

/-- The answer to a commit. -/
structure CommitResponse where
  committed : Bool
  error : String := ""
  deriving DecidableEq, Repr

/-- The answer to a rollback. -/
structure RollbackResponse where
  rolledBack : Bool
  error : String := ""
  deriving DecidableEq, Repr

end VScale
