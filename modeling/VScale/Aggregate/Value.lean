import VScale.Externals
import VScale.Text.Decimal

/-!
# Cell values at the gate

The gate guesses a type for every received cell text, works on the typed
values, and prints them back.
-/

namespace VScale
namespace Aggregate

variable (ext : Externals)

/-- The dynamic value of a cell. -/
inductive Value
  | null
  | int64 (value : Int)
  | float64 (value : ext.Float64)
  | bool (value : Bool)
  | str (text : String)

/-- One row of typed cells. -/
abbrev Row := List (Value ext)

/-- `strconv.ParseBool`. -/
def parseBool (text : String) : Option Bool :=
  if text ∈ ["1", "t", "T", "TRUE", "true", "True"] then some true
  else if text ∈ ["0", "f", "F", "FALSE", "false", "False"] then some false
  else none

/-- Guess the type of a cell from its text. -/
def inferType (text : String) : Value ext :=
  if text = "NULL" ∨ text = "null" ∨ text = "" then .null
  else
    match Decimal.parseInt text with
    | some value => .int64 value
    | none =>
        match ext.parseFloat text with
        | some value => .float64 value
        | none =>
            match parseBool text with
            | some value => .bool value
            | none => .str text

/-- How a boolean prints. -/
def boolText : Bool → String
  | true => "true"
  | false => "false"

variable {ext}

/-- `fmt.Sprintf` of a dynamic value with the verb `%v`. -/
def Value.sprint : Value ext → String
  | .null => "<nil>"
  | .int64 value => Decimal.formatInt value
  | .float64 value => ext.sprintFloat value
  | .bool value => boolText value
  | .str text => text

/-- The part of a distinct key that stands for one cell. -/
def Value.keyPart : Value ext → String
  | .null => "\x00NULL\x00"
  | value => value.sprint

/-- The text that identifies a row among duplicates. -/
def rowKey (row : Row ext) : String :=
  "\x01".intercalate (row.map Value.keyPart)

/-- A value prepared for comparison. -/
inductive ComparableValue (ext : Externals)
  | int (value : Int)
  | float (value : ext.Float64)
  | str (text : String)
  | nilVal

/-- Strings that print like numbers compare as numbers. -/
def newComparable : Value ext → ComparableValue ext
  | .null => .nilVal
  | .int64 value => .int value
  | .float64 value => .float value
  | .str text => .str text
  | .bool value =>
      match Decimal.parseInt (boolText value) with
      | some number => .int number
      | none =>
          match ext.parseFloat (boolText value) with
          | some number => .float number
          | none => .str (boolText value)

namespace ComparableValue

/-- The value as a float. -/
def asFloat : ComparableValue ext → ext.Float64
  | .int value => ext.floatOfInt value
  | .float value => value
  | .str text => ext.parseFloatValue text
  | .nilVal => ext.floatNaN

/-- The value as a text. -/
def asString : ComparableValue ext → String
  | .int value => Decimal.formatInt value
  | .float value => ext.formatFloat value
  | .str text => text
  | .nilVal => ""

/-- Compare two values that are not nil: within a kind by that kind, numbers of
different kinds as floats, and everything else by its text. -/
def compareBy
    (ints : Int → Int → Bool)
    (floats : ext.Float64 → ext.Float64 → Bool)
    (strings : String → String → Bool) :
    ComparableValue ext → ComparableValue ext → Bool
  | .int left, .int right => ints left right
  | .float left, .float right => floats left right
  | .str left, .str right => strings left right
  | .int left, .float right => floats (ext.floatOfInt left) right
  | .float left, .int right => floats left (ext.floatOfInt right)
  | left, right => strings left.asString right.asString

/-- Nil is greater than nothing, and everything else is greater than nil. -/
def greaterThan : ComparableValue ext → ComparableValue ext → Bool
  | .nilVal, _ => false
  | _, .nilVal => true
  | left, right =>
      compareBy (fun first second => second < first)
        (fun first second => ext.floatLess second first)
        (fun first second => second < first) left right

/-- Nil is less than nothing, and everything else is less than nil. -/
def lessThan : ComparableValue ext → ComparableValue ext → Bool
  | .nilVal, _ => false
  | _, .nilVal => true
  | left, right =>
      compareBy (fun first second => first < second) ext.floatLess
        (fun first second => first < second) left right

/-- Nil equals only itself. -/
def equal : ComparableValue ext → ComparableValue ext → Bool
  | .nilVal, .nilVal => true
  | .nilVal, _ => false
  | _, .nilVal => false
  | left, right =>
      compareBy (fun first second => first == second) ext.floatEqual
        (fun first second => first == second) left right

end ComparableValue

end Aggregate
end VScale
