import VScale.Logic.ThreeValued
import VScale.Parser
import VScale.Text.Decimal

/-!
# Conditions over the rows of a sharded table

The meaning of the boolean connectives is fixed, and every other expression is
evaluated by an arbitrary function.  An equality found by the gate's parser is
then a necessary condition for a row to be selected.
-/

namespace VScale

open ThreeValued Tree

/-- The shard key of a row, and the truth of conditions that are not boolean
connectives. -/
structure RowSemantics (Row : Type) where
  key : Row → Int
  atom : Row → Expr → Truth

namespace RowSemantics

variable {Row : Type} (sem : RowSemantics Row)

/-- The truth of a condition on a row. -/
def truth (row : Row) : Expr → Truth
  | .andExpr left right => (truth row left).and (truth row right)
  | .orExpr left right => (truth row left).or (truth row right)
  | .notExpr expr => (truth row expr).not
  | .parenExpr expr => truth row expr
  | expr => sem.atom row expr

/-- A row is selected when there is no condition or it is true. -/
def Selects (filter : Option Expr) (row : Row) : Prop :=
  ∀ expr, filter = some expr → sem.truth row expr = .true

/-- Equality of the key column with an operand that prints as the integer `n`
holds only for rows with key `n`. -/
def KeyLiterals (exprString : Expr → String) (column : String) : Prop :=
  ∀ row parts right value,
    exprString (.unresolvedName parts) = column →
    Decimal.parseInt (Parser.stripQuotes (exprString right)) = some value →
    sem.atom row (.comparisonExpr .eq (.unresolvedName parts) right) = .true →
    sem.key row = value

variable {sem} {exprString : Expr → String} {column : String}

/-- An equality found in a true condition gives the key of the row. -/
theorem key_of_equalityInExpr
    (literals : sem.KeyLiterals exprString column)
    {row : Row}
    {expr : Expr}
    {text : String}
    {value : Int}
    (found : Parser.equalityInExpr exprString column expr = some text)
    (parsed : Decimal.parseInt text = some value)
    (holds : sem.truth row expr = .true) :
    sem.key row = value := by
  induction expr using Parser.equalityInExpr.induct exprString column with
  | case1 left right text' leftFound ih =>
      rw [Parser.equalityInExpr, leftFound] at found
      injection found with same
      rw [truth, Truth.and_eq_true] at holds
      subst same
      exact ih leftFound holds.1
  | case2 left right leftMissing leftHypothesis rightHypothesis =>
      rw [Parser.equalityInExpr, leftMissing] at found
      rw [truth, Truth.and_eq_true] at holds
      exact rightHypothesis found holds.2
  | case3 operator parts right different =>
      rw [Parser.equalityInExpr, if_pos different] at found
      cases found
  | case4 operator parts right isEq different =>
      rw [Parser.equalityInExpr, if_neg isEq, if_pos different] at found
      cases found
  | case5 operator parts right isEq isColumn =>
      rw [Parser.equalityInExpr, if_neg isEq, if_neg isColumn] at found
      injection found with same
      rw [← same] at parsed
      have equality : operator = .eq := not_ne_iff.mp isEq
      subst equality
      exact literals row parts right value (not_ne_iff.mp isColumn) parsed holds
  | case6 expr notAnd notNamed =>
      rw [Parser.equalityInExpr] at found
      · cases found
      · exact notAnd
      · exact notNamed

end RowSemantics

/-- A SELECT, UPDATE or DELETE on a single table, with its condition. -/
inductive SingleTable : Statement → String → Option Expr → Prop
  | select {stmt : Select} {clause : SelectClause} {source : TableExpr} {name : TableName}
      {sql : String}
      (plain : stmt.select = .selectClause clause)
      (single : clause.tables = [source])
      (named : source.named = some name) :
      SingleTable ⟨.select stmt, sql⟩ name.table clause.filter
  | update {stmt : Update} {name : TableName} {sql : String}
      (named : stmt.table.named = some name) :
      SingleTable ⟨.update stmt, sql⟩ name.table stmt.filter
  | delete {stmt : Delete} {name : TableName} {sql : String}
      (named : stmt.table.named = some name) :
      SingleTable ⟨.delete stmt, sql⟩ name.table stmt.filter

namespace SingleTable

variable {stmt : Statement} {table : String} {filter : Option Expr}

/-- The gate finds the table of the statement, if it finds one. -/
theorem table_eq
    {found : String}
    (single : SingleTable stmt table filter)
    (ok : Parser.getTableName stmt = .ok found) : found = table := by
  cases single with
  | select plain single named =>
      simp only [Parser.getTableName, plain, single] at ok
      split at ok
      · cases ok
      · rename_i listed
        injection listed with same
        rw [same] at named
        injection ok with ok
        injection named with named
        rw [← ok, ← named]
      · cases ok
  | update named | delete named =>
      simp only [Parser.getTableName] at ok
      split at ok
      · rename_i target
        rw [target] at named
        injection ok with ok
        injection named with named
        rw [← ok, ← named]
      · cases ok

theorem equalityValue
    (single : SingleTable stmt table filter)
    (exprString : Expr → String)
    (column : String) :
    Parser.equalityValue exprString stmt column =
      filter.bind (Parser.equalityInExpr exprString column) := by
  cases single with
  | select plain single named => simp [Parser.equalityValue, plain]
  | update | delete => rfl

theorem not_isTxControl (single : SingleTable stmt table filter) :
    Parser.isTxControl stmt = false := by
  cases single with
  | select | update | delete => rfl

end SingleTable

end VScale
