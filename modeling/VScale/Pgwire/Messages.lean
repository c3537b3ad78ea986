import VScale.Aggregate.Value
import VScale.Proto

/-!
# Messages to a PostgreSQL client

What a connection sends for one result: a description of the columns, the rows
with every cell as the bytes of its text, and a command tag.
-/

namespace VScale
namespace Pgwire

open Aggregate

/-- The description of one column. -/
structure FieldDescription where
  name : String
  tableOID : Nat := 0
  tableAttributeNumber : Nat := 0
  dataTypeOID : Nat
  dataTypeSize : Int := -1
  typeModifier : Int := -1
  format : Nat := 0
  deriving DecidableEq, Repr

/-- Messages of the server.  A cell of a data row is absent when its byte slice
is nil, which a client reads as NULL. -/
inductive BackendMessage
  | authenticationOk
  | parameterStatus (name value : String)
  | readyForQuery (txStatus : Char)
  | emptyQueryResponse
  | commandComplete (commandTag : String)
  | rowDescription (fields : List FieldDescription)
  | dataRow (values : List (Option String))
  | errorResponse (severity code message : String)
  | parseComplete
  | bindComplete
  | closeComplete
  deriving DecidableEq, Repr

/-- The type of texts. -/
def pgTypeText : Nat := 25

/-- The type of integers. -/
def pgTypeInt8 : Nat := 20

/-- The type of floats. -/
def pgTypeFloat8 : Nat := 701

/-- The type of Booleans. -/
def pgTypeBool : Nat := 16

/-- White space in the sense of Unicode. -/
def isSpace (char : Char) : Bool :=
  char.toNat ∈ [0x09, 0x0a, 0x0b, 0x0c, 0x0d, 0x20, 0x85, 0xa0, 0x1680, 0x2028, 0x2029,
    0x202f, 0x205f, 0x3000] ||
    (0x2000 ≤ char.toNat && char.toNat ≤ 0x200a)

/-- A text without the white space around it. -/
def trimSpace (text : String) : String :=
  let fromStart := text.toList.dropWhile isSpace
  String.ofList (fromStart.reverse.dropWhile isSpace).reverse

/-- The text up to the first separator, unless it starts with one. -/
def firstWord (text : String) : String :=
  let word := text.toList.takeWhile fun char => char ∉ [' ', '\t', '\n', '\r', ';', '(']
  if word = [] then text else String.ofList word

variable (ext : Externals)

/-- The first word of a statement if it is a known command, SELECT otherwise. -/
def commandTag (sql : String) : String :=
  let word := firstWord (ext.toUpper (trimSpace sql))
  if word ∈ ["BEGIN", "COMMIT", "ROLLBACK", "SELECT", "INSERT", "UPDATE", "DELETE", "CREATE",
      "DROP", "ALTER", "TRUNCATE", "COPY", "SET", "SHOW", "EXPLAIN", "VACUUM"] then
    word
  else
    "SELECT"

/-- The type a column is announced with, guessed from one of its cells. -/
def cellOID (text : String) : Nat :=
  if text = "" then pgTypeText
  else if (Decimal.parseInt text).isSome then pgTypeInt8
  else if (ext.parseFloat text).isSome then pgTypeFloat8
  else if (parseBool text).isSome then pgTypeBool
  else pgTypeText

/-- A first row that is too short for the column panics. -/
def inferOID (qr : QueryResult) (colIdx : Nat) : Option Nat :=
  match qr.rows with
  | [] => some pgTypeText
  | row :: _ => row[colIdx]?.map (cellOID ext)

/-- The description of the columns from a position on. -/
def describe (qr : QueryResult) : Nat → List String → Option (List FieldDescription)
  | _, [] => some []
  | colIdx, col :: cols =>
      match inferOID ext qr colIdx, describe qr (colIdx + 1) cols with
      | some oid, some fields => some ({ name := col, dataTypeOID := oid } :: fields)
      | _, _ => none

/-- The bytes of a text are never the nil slice. -/
def dataRow (row : List String) : BackendMessage :=
  .dataRow (row.map some)

/-- The messages for one result; nothing is returned when describing it panics. -/
def sendResult (qr : QueryResult) : Option (List BackendMessage) :=
  let tag := commandTag ext qr.sql
  if qr.columns.length = 0 then
    some [.commandComplete (tag ++ " " ++ Decimal.formatInt qr.rowsAffected)]
  else
    match describe ext qr 0 qr.columns with
    | none => none
    | some fields =>
        some (.rowDescription fields :: qr.rows.map dataRow ++
          [.commandComplete (tag ++ " " ++ Decimal.formatInt qr.rows.length)])

/-- The rows a client receives. -/
def deliveredRows (messages : List BackendMessage) : List (List (Option String)) :=
  messages.filterMap fun message =>
    match message with
    | .dataRow values => some values
    | _ => none

variable {ext}

@[simp]
theorem deliveredRows_map_dataRow (rows : List (List String)) :
    deliveredRows (rows.map dataRow) = rows.map fun row => row.map some := by
  induction rows with
  | nil => rfl
  | cons row rows ih =>
      simp only [deliveredRows, List.map_cons, List.filterMap_cons, dataRow] at ih ⊢
      rw [ih]

/-- A result with columns is delivered row by row; one without has no rows sent. -/
theorem deliveredRows_sendResult
    {qr : QueryResult}
    {messages : List BackendMessage}
    (sent : sendResult ext qr = some messages) :
    deliveredRows messages =
      if qr.columns.length = 0 then [] else qr.rows.map fun row => row.map some := by
  unfold sendResult at sent
  simp only at sent
  split at sent
  · rename_i plain
    injection sent with same
    rw [← same, if_pos plain]
    rfl
  · rename_i described
    split at sent
    · cases sent
    · injection sent with same
      rw [← same, if_neg described, ← deliveredRows_map_dataRow]
      simp [deliveredRows]

end Pgwire
end VScale
