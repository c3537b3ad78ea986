import VScale.Sql.Tree
import VScale.Text.Decimal

/-!
# What the code takes from outside

The printing functions of the SQL parser package, Unicode case mapping and
64-bit floating point are parameters of the model.  Nothing is assumed of them
unless a result names the assumption.
-/

namespace VScale

open Tree

/-- Functions of packages that are not part of the repository. -/
structure Externals where
  /-- How the parser package prints an expression. -/
  exprString : Expr → String
  /-- How the parser package prints a SELECT statement. -/
  selectString : Select → String
  /-- `fmt.Sprintf` of a string with the verb `%q`. -/
  quote : String → String
  toLower : String → String
  toUpper : String → String
  /-- IEEE 754 double precision values. -/
  Float64 : Type
  /-- `strconv.ParseFloat` when it returns no error. -/
  parseFloat : String → Option Float64
  /-- The value `strconv.ParseFloat` returns when its error is dropped. -/
  parseFloatValue : String → Float64
  /-- `fmt.Sprintf` with the verb `%v`. -/
  sprintFloat : Float64 → String
  /-- `strconv.FormatFloat` in format `f` with the fewest digits. -/
  formatFloat : Float64 → String
  /-- Conversion from a 64-bit integer. -/
  floatOfInt : Int → Float64
  /-- Conversion to a 64-bit integer. -/
  floatToInt : Float64 → Int
  floatAdd : Float64 → Float64 → Float64
  floatLess : Float64 → Float64 → Bool
  floatEqual : Float64 → Float64 → Bool
  floatIsNaN : Float64 → Bool
  floatNaN : Float64

/-- What the standard library documents about printed floats: they read back as
a float that prints the same, and no word printed for another type is read as a
float. -/
structure Externals.FloatText (ext : Externals) : Prop where
  parse_sprint : ∀ value, ∃ again,
    ext.parseFloat (ext.sprintFloat value) = some again ∧
      ext.sprintFloat again = ext.sprintFloat value
  words : ∀ text ∈ ["", "NULL", "null", "<nil>", "true", "false"],
    ext.parseFloat text = none

/-- The printed form of names, literals, parentheses and stars. -/
def printedExpr : Expr → String
  | .unresolvedName parts => ".".intercalate parts
  | .numVal origString negative => if negative then "-" ++ origString else origString
  | .strVal value => "'" ++ value ++ "'"
  | .parenExpr expr => "(" ++ printedExpr expr ++ ")"
  | .other label [] => label
  | _ => ""

/-- The printed form of a table in a FROM clause. -/
def printedTable : TableExpr → String
  | .tableName name => (name.schema.elim "" fun schema => schema ++ ".") ++ name.table
  | .aliasedTableExpr expr name =>
      if name = "" then printedTable expr else printedTable expr ++ " AS " ++ name
  | .other text => text

/-- The printed form of a SELECT of some items from some tables. -/
def printedSelect (sel : Select) : String :=
  match sel.select with
  | .selectClause clause =>
      "SELECT " ++ ", ".intercalate (clause.exprs.map fun item => printedExpr item.expr) ++
        " FROM " ++ ", ".intercalate (clause.tables.map printedTable)
  | .valuesClause _ => "VALUES"
  | .other text => text

/-- An executable instance whose floats are the integers and one value that is
not a number. -/
def integralExternals : Externals where
  exprString := printedExpr
  selectString := printedSelect
  quote := fun text => "\"" ++ text ++ "\""
  toLower := String.toLower
  toUpper := String.toUpper
  Float64 := Option Int
  parseFloat := fun text =>
    if text = "NaN" then some none else (Decimal.scanInt text).map some
  parseFloatValue := fun text => some ((Decimal.scanInt text).getD 0)
  sprintFloat := fun value => value.elim "NaN" Decimal.formatInt
  formatFloat := fun value => value.elim "NaN" Decimal.formatInt
  floatOfInt := some
  floatToInt := fun value => value.getD 0
  floatAdd := fun left right => left.bind fun first => right.map fun second => first + second
  floatLess := fun left right =>
    match left, right with
    | some first, some second => first < second
    | _, _ => false
  floatEqual := fun left right =>
    match left, right with
    | some first, some second => first == second
    | _, _ => false
  floatIsNaN := Option.isNone
  floatNaN := none

variable {text : String}

theorem integralExternals_toUpper
    (upper : text.toList.map Char.toUpper = text.toList) :
    integralExternals.toUpper text = text := by
  rw [← String.toList_inj]
  exact String.toList_map.trans upper

theorem integralExternals_toLower
    {lowered : String}
    (same : text.toList.map Char.toLower = lowered.toList) :
    integralExternals.toLower text = lowered := by
  rw [← String.toList_inj]
  exact String.toList_map.trans same

theorem integralExternals_floatText : integralExternals.FloatText where
  parse_sprint := by
    intro value
    cases value with
    | none => exact ⟨none, rfl, rfl⟩
    | some number =>
        have scanned := Decimal.scanInt_formatInt number
        have printed : Decimal.formatInt number ≠ "NaN" := by
          intro same
          rw [same] at scanned
          cases scanned
        refine ⟨some number, ?_, rfl⟩
        simp [integralExternals, printed, scanned]
  words := by decide

end VScale
