import VScale.Sql.Tree

/-!
# Statement classification and shard-key extraction

Translation of the gate's own parser package: which statements control
transactions, write or return rows, which table a statement addresses, and the
text an equality condition or an inserted row gives for a column.

How the parser package prints an expression is not part of this repository, so
the printer is a parameter.
-/

namespace VScale
namespace Parser

open Tree

/-- A statement whose tag is BEGIN. -/
def isBegin (stmt : Statement) : Bool :=
  stmt.ast.statementTag == "BEGIN"

/-- A statement whose tag is COMMIT. -/
def isCommit (stmt : Statement) : Bool :=
  stmt.ast.statementTag == "COMMIT"

/-- A statement whose tag is ROLLBACK. -/
def isRollback (stmt : Statement) : Bool :=
  stmt.ast.statementTag == "ROLLBACK"

/-- A statement that returns rows. -/
def isReturning (stmt : Statement) : Bool :=
  stmt.ast.returnsRows

/-- A statement that writes data or modifies the schema. -/
def isWrite (stmt : Statement) : Bool :=
  stmt.ast.canWriteData || stmt.ast.canModifySchema

/-- Transaction control: BEGIN, COMMIT or ROLLBACK. -/
def isTxControl (stmt : Statement) : Bool :=
  isBegin stmt || isCommit stmt || isRollback stmt

variable {stmt : Statement}

/-- The table a statement reads first or writes. -/
def getTableName (stmt : Statement) : Except String String :=
  match stmt.ast with
  | .select s =>
      match s.select with
      | .selectClause clause =>
          match clause.tables with
          | [] => .error "no table in select"
          | .aliasedTableExpr (.tableName name) _ :: _ => .ok name.table
          | _ :: _ => .error "unsupported from clause"
      | _ => .error "no table in select"
  | .insert s =>
      match s.table with
      | .tableName name => .ok name.table
      | _ => .error "unsupported insert target"
  | .update s =>
      match s.table with
      | .tableName name => .ok name.table
      | _ => .error "unsupported update target"
  | .delete s =>
      match s.table with
      | .tableName name => .ok name.table
      | _ => .error "unsupported delete target"
  | _ => .error "unsupported statement type"

/-- Remove one pair of enclosing single quotes. -/
def stripQuotes (text : String) : String :=
  let chars := text.toList
  if 2 ≤ chars.length ∧ chars.head? = some '\'' ∧ chars.getLast? = some '\'' then
    String.ofList chars.tail.dropLast
  else
    text

section

variable (exprString : Expr → String)

/-- The text a condition gives for a column, found along conjunctions only. -/
def equalityInExpr (column : String) : Expr → Option String
  | .andExpr left right =>
      match equalityInExpr column left with
      | some value => some value
      | none => equalityInExpr column right
  | .comparisonExpr operator (.unresolvedName parts) right =>
      if operator ≠ .eq then none
      else if exprString (.unresolvedName parts) ≠ column then none
      else some (stripQuotes (exprString right))
  | _ => none

/-- Position of the first listed column with the given name. -/
def columnIndex (columns : List String) (column : String) : Option Nat :=
  columns.findIdx? fun name => name == column

/-- The text a statement gives for a column: from the WHERE condition of a
SELECT, UPDATE or DELETE, or from the single row of an INSERT. -/
def equalityValue (stmt : Statement) (column : String) : Option String :=
  match stmt.ast with
  | .select s =>
      match s.select with
      | .selectClause clause => clause.filter.bind (equalityInExpr exprString column)
      | _ => none
  | .update s => s.filter.bind (equalityInExpr exprString column)
  | .delete s => s.filter.bind (equalityInExpr exprString column)
  | .insert s =>
      match columnIndex s.columns column with
      | none => none
      | some index =>
          match s.rows.select with
          | .valuesClause [row] =>
              (row[index]?).map fun value => stripQuotes (exprString value)
          | _ => none
  | _ => none

end

end Parser
end VScale
