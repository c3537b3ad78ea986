import VScale.Aggregate.ShardExtremes
import VScale.Aggregate.Window

/-!
# Groups of a scattered query

A shard answers a grouped query with one row for each of its groups: the values
of the GROUP BY columns and the aggregates of the group.  `regroup` is what the
rows of all shards together mean.
-/

namespace VScale
namespace Aggregate

open Collections Tree

/-- What a column of a grouped query holds. -/
inductive Item
  | key
  | count
  | max
  | min
  deriving DecidableEq, Repr

/-- The aggregate a call in the select list stands for. -/
def Item.aggType : Item → Option AggType
  | .key => none
  | .count => some .count
  | .max => some .max
  | .min => some .min

/-- A cell of a shard's answer: the text of a group column, or an integer that
is missing when the database returned NULL. -/
inductive Cell
  | key (text : String)
  | number (value : WithTop Int)
  deriving DecidableEq

namespace Cell

/-- The text the tablet sends. -/
def text : Cell → String
  | .key text => text
  | .number value => (extremeValue value).sprint

/-- The text of a group column. -/
def keyText : Cell → Option String
  | .key text => some text
  | .number _ => none

/-- The number of an aggregate column. -/
def value : Cell → Option (WithTop Int)
  | .key _ => none
  | .number value => some value

/-- The cells a database returns for a column: counts are never negative, and
all numbers have 64 bits. -/
def Fits : Item → Cell → Prop
  | .key, .key _ => True
  | .count, .number value => ∃ count : Int, value = count ∧ 0 ≤ count ∧ Decimal.InInt64 count
  | .max, .number value => ∀ number : Int, value = number → Decimal.InInt64 number
  | .min, .number value => ∀ number : Int, value = number → Decimal.InInt64 number
  | _, _ => False

/-- A cell that fits is a text in a group column and a number in any other. -/
theorem fits_cases
    {item : Item}
    {cell : Cell}
    (fits : Fits item cell) :
    (item = .key ∧ ∃ text, cell = .key text) ∨
      (item ≠ .key ∧ ∃ value : WithTop Int, cell = .number value ∧
        ∀ number : Int, value = number → Decimal.InInt64 number) := by
  cases cell with
  | key text =>
      cases item with
      | key => exact .inl ⟨rfl, text, rfl⟩
      | count | max | min => exact fits.elim
  | number value =>
      cases item with
      | key => exact fits.elim
      | count =>
          obtain ⟨count, rfl, _, small⟩ := fits
          refine .inr ⟨nofun, count, rfl, ?_⟩
          intro number same
          rwa [← WithTop.coe_eq_coe.mp same]
      | max | min => exact .inr ⟨nofun, value, rfl, fits⟩

end Cell

/-- One row of a shard's answer. -/
abbrev GroupRow := List Cell

/-- The row has a cell of the right sort in every column. -/
def GroupRow.Fits (items : List Item) (row : GroupRow) : Prop :=
  List.Forall₂ Cell.Fits items row

/-- The values of the GROUP BY columns. -/
def GroupRow.keyOf (row : GroupRow) : List String :=
  row.filterMap Cell.keyText

/-- The row as it is sent to the gate. -/
def GroupRow.texts (row : GroupRow) : List String :=
  row.map Cell.text

/-- The numbers of a column. -/
def valuesAt (rows : List GroupRow) (colIdx : Nat) : List (WithTop Int) :=
  rows.filterMap fun row => row[colIdx]?.bind Cell.value

/-- One cell of a merged group. -/
def groupCell
    (rows : List GroupRow)
    (colIdx : Nat) : Item → Cell
  | .key => (rows.head?.bind fun row => row[colIdx]?).getD (.key "")
  | .count => .number (present (valuesAt rows colIdx)).sum
  | .max => .number (orTop (present (valuesAt rows colIdx)).max?)
  | .min => .number (orTop (present (valuesAt rows colIdx)).min?)

/-- The row of a group that its rows from several shards stand for. -/
def groupRow (items : List Item) (rows : List GroupRow) : GroupRow :=
  items.mapIdx fun colIdx item => groupCell rows colIdx item

/-- One row for each group that occurs in any shard. -/
def regroup (items : List Item) (rows : List GroupRow) : List GroupRow :=
  (rows.map GroupRow.keyOf).dedup.map fun key =>
    groupRow items (rows.filter fun row => row.keyOf = key)

/-- What a tablet answers for the groups of its shard. -/
def shardGroups (columns : List String) (rows : List GroupRow) : QueryResult where
  columns := columns
  rows := rows.map GroupRow.texts
  rowsAffected := 0

/-- A select list item of a grouped query. -/
def Item.Selects (ext : Externals) (item : Item) (selected : SelectExpr) : Prop :=
  match item with
  | .key => ∃ parts, selected.expr = .unresolvedName parts
  | call => ∃ func distinct exprs,
      selected.expr = .funcExpr func distinct exprs false ∧
        aggTypeOf (ext.toUpper func) = call.aggType

/-- A SELECT of GROUP BY columns and of COUNT, MAX and MIN calls, without HAVING
and without a window. -/
structure GroupQuery
    (ext : Externals)
    (sel : Select)
    (clause : SelectClause)
    (items : List Item) : Prop where
  body : sel.select = .selectClause clause
  selects : List.Forall₂ (Item.Selects ext) items clause.exprs
  grouped : ∀ selected ∈ clause.exprs, ∀ parts,
    selected.expr = .unresolvedName parts → selected.expr ∈ clause.groupBy
  complete : ∀ expr ∈ clause.groupBy, ∃ selected ∈ clause.exprs, selected.expr = expr
  unconditional : clause.having = none
  distinctOn : clause.distinctOn = []
  unlimited : sel.limit = none

section Typing

variable {ext : Externals} {items : List Item} {rows : List GroupRow} {colIdx : Nat}

/-- The gate's view of a row. -/
def typedRow (ext : Externals) (row : GroupRow) : Row ext :=
  row.texts.map (inferType ext)

theorem flattenResults_shardGroups
    (columns : List String)
    (shards : List (List GroupRow)) :
    (flattenResults ext { results := shards.map (shardGroups columns) }).1 =
      shards.flatten.map (typedRow ext) := by
  rw [flattenResults_rows, allRows, List.flatMap_map, List.map_flatMap, List.map_flatten,
    List.flatMap_def]
  simp only [shardGroups, List.map_map]
  rfl

/-- Every row has a 64-bit number, or a missing one, in the column. -/
def NumericAt (rows : List GroupRow) (colIdx : Nat) : Prop :=
  ∀ row ∈ rows, ∃ value : WithTop Int,
    row[colIdx]? = some (.number value) ∧
      ∀ number : Int, value = number → Decimal.InInt64 number

variable {item : Item} {row : GroupRow}

theorem cell_of_fits
    (fits : row.Fits items)
    (column : items[colIdx]? = some item) :
    ∃ cell, row[colIdx]? = some cell ∧ Cell.Fits item cell := by
  have bound : colIdx < row.length := by
    rw [← fits.length_eq]
    exact (List.getElem?_eq_some_iff.mp column).1
  refine ⟨row[colIdx], List.getElem?_eq_getElem bound, ?_⟩
  obtain ⟨inside, rfl⟩ := List.getElem?_eq_some_iff.mp column
  exact List.Forall₂.get fits inside bound

theorem numericAt_of_fits
    (fits : ∀ row ∈ rows, row.Fits items)
    (column : items[colIdx]? = some item)
    (call : item ≠ .key) :
    NumericAt rows colIdx := by
  intro row present
  obtain ⟨cell, found, sort⟩ := cell_of_fits (fits row present) column
  rcases Cell.fits_cases sort with ⟨key, _⟩ | ⟨_, value, rfl, small⟩
  · exact absurd key call
  · exact ⟨value, found, small⟩

theorem valuesAt_cons_of_number
    {value : WithTop Int}
    (found : row[colIdx]? = some (.number value)) :
    valuesAt (row :: rows) colIdx = value :: valuesAt rows colIdx := by
  simp [valuesAt, found, Cell.value]

/-- A column of aggregates is read as its numbers. -/
theorem columnOf_typed
    (laws : ext.FloatText)
    (numeric : NumericAt rows colIdx) :
    ColumnOf (rows.map (typedRow ext)) colIdx (valuesAt rows colIdx) := by
  induction rows with
  | nil => rfl
  | cons row rows ih =>
      obtain ⟨value, found, fits⟩ := numeric row List.mem_cons_self
      have rest := ih fun other present =>
        numeric other (List.mem_cons_of_mem row present)
      have typed : (typedRow ext row)[colIdx]? = some (typedExtreme ext value) := by
        simp only [typedRow, GroupRow.texts, List.map_map, List.getElem?_map, found,
          Option.map_some, Function.comp_apply, Cell.text, inferType_extremeValue laws fits]
      unfold ColumnOf at rest ⊢
      rw [valuesAt_cons_of_number found, List.map_cons, List.map_cons, List.map_cons, rest, typed]

/-- One step of the sum of a column. -/
def sumStep (colIdx : Nat) (sum : Int) (row : Row ext) : Int :=
  match row[colIdx]? with
  | some (.int64 value) => Decimal.wrap64 (sum + value)
  | some (.float64 value) => Decimal.wrap64 (sum + ext.floatToInt value)
  | some (.str text) =>
      match Decimal.parseInt text with
      | some value => Decimal.wrap64 (sum + value)
      | none => sum
  | _ => sum

theorem sumStep_of_skipped
    {sum : Int}
    {row : Row ext}
    (skipped : row[colIdx]? = none ∨ row[colIdx]? = some .null) :
    sumStep colIdx sum row = sum := by
  rcases skipped with missing | missing
  · rw [sumStep, missing]
  · rw [sumStep, missing]

variable {cells : List κ} {typed : κ → Value ext} {worth : κ → Int}

section Adds

variable
  (adds : ∀ (sum : Int) (row : Row ext) (cell : κ), row[colIdx]? = some (typed cell) →
    sumStep colIdx (Decimal.wrap64 sum) row = Decimal.wrap64 (sum + worth cell))
include adds

/-- The running sum wraps around. -/
theorem foldl_sumStep
    {rows : List (Row ext)}
    (column : ColumnHolds typed colIdx rows cells)
    (sum : Int) :
    rows.foldl (sumStep colIdx) (Decimal.wrap64 sum) =
      Decimal.wrap64 (sum + (cells.map worth).sum) := by
  induction column generalizing sum with
  | nil => simp
  | skip skipped _ ih =>
      rw [List.foldl_cons, sumStep_of_skipped skipped, ih]
  | take found _ ih =>
      rw [List.foldl_cons, adds sum _ _ found, ih, List.map_cons, List.sum_cons,
        Int.add_assoc]

/-- The sum of a column in which every cell has a worth. -/
theorem aggSumInt64_of_worth
    {rows : List (Row ext)}
    (column : ColumnHolds typed colIdx rows cells) :
    aggSumInt64 rows colIdx = Decimal.wrap64 (cells.map worth).sum := by
  have folded := foldl_sumStep adds column 0
  rw [Int.zero_add, Decimal.wrap64_of_inInt64 (by decide)] at folded
  exact folded

end Adds

theorem sum_map_untopD (cells : List (WithTop Int)) :
    (cells.map (WithTop.untopD 0)).sum = (present cells).sum := by
  induction cells with
  | nil => rfl
  | cons cell cells ih =>
      rw [List.map_cons, List.sum_cons, ih]
      cases cell with
      | top | coe => simp

/-- The sum of a column wraps around. -/
theorem aggSumInt64_of_column
    {typed : List (Row ext)}
    {cells : List (WithTop Int)}
    (column : ColumnOf typed colIdx cells) :
    aggSumInt64 typed colIdx = Decimal.wrap64 (present cells).sum := by
  rw [← sum_map_untopD]
  refine aggSumInt64_of_worth ?_ column.holds
  intro sum row cell found
  cases cell with
  | top =>
      have unparsed : Decimal.parseInt "<nil>" = none := by decide
      simp only [sumStep, found, typedExtreme, unparsed, WithTop.untopD_top, Int.add_zero]
  | coe value =>
      simp only [sumStep, found, typedExtreme, Decimal.wrap64_wrap64_add, WithTop.untopD_coe]

end Typing

variable {left right : List α}

/-- A text splits in one way at its first separator. -/
theorem append_separator_inj
    {separator : α}
    {first second : List α}
    (freeFirst : separator ∉ first)
    (freeSecond : separator ∉ second)
    (same : first ++ separator :: left = second ++ separator :: right) :
    first = second ∧ left = right := by
  rcases List.append_eq_append_iff.mp same with ⟨middle, rfl, rest⟩ | ⟨middle, rfl, rest⟩
  all_goals
    cases middle with
    | nil | cons => simp_all

/-- Joined texts are equal only if the texts are, when each pair of them is equal
or free of the separator. -/
theorem intercalate_inj
    {separator : Char}
    {left right : List (List Char)}
    (aligned : List.Forall₂
      (fun first second => first = second ∨ (separator ∉ first ∧ separator ∉ second)) left right)
    (same : [separator].intercalate left = [separator].intercalate right) :
    left = right := by
  induction aligned with
  | nil => rfl
  | @cons first second left right pair rest ih =>
      cases rest with
      | nil => simpa using same
      | cons next others =>
          rw [List.intercalate_cons_cons, List.intercalate_cons_cons] at same
          simp only [List.append_assoc, List.singleton_append] at same
          rcases pair with rfl | ⟨freeFirst, freeSecond⟩
          · have tails := List.append_cancel_left same
            rw [ih (List.cons.inj tails).2]
          · obtain ⟨heads, tails⟩ := append_separator_inj freeFirst freeSecond same
            rw [heads, ih tails]

theorem eq_of_map_eq
    {related : α → α → Prop}
    {f : α → β}
    (aligned : List.Forall₂ related left right)
    (injective : ∀ first second, related first second → f first = f second → first = second)
    (same : left.map f = right.map f) :
    left = right := by
  induction aligned with
  | nil => rfl
  | cons pair _ ih =>
      obtain ⟨heads, tails⟩ := List.cons.inj same
      rw [injective _ _ pair heads, ih tails]

section RowKeys

variable {ext : Externals} {items : List Item}

/-- The part of a row's key that stands for a cell. -/
def cellPart (ext : Externals) (cell : Cell) : List Char :=
  (inferType ext cell.text).keyPart.toList

theorem toList_rowKey (row : GroupRow) :
    (rowKey (typedRow ext row)).toList = ['\x01'].intercalate (row.map (cellPart ext)) := by
  simp only [rowKey, String.toList_intercalate, typedRow, GroupRow.texts, List.map_map]
  rfl

/-- Cells in the same column of two rows of one group. -/
def Cell.Aligned (first second : Cell) : Prop :=
  first = second ∨ ∃ left right : WithTop Int,
    first = .number left ∧ second = .number right ∧
      (∀ number : Int, left = number → Decimal.InInt64 number) ∧
      (∀ number : Int, right = number → Decimal.InInt64 number)

variable {first second : GroupRow}

/-- Rows of one group have the same group columns. -/
theorem aligned_of_keyOf
    (fitsFirst : first.Fits items)
    (fitsSecond : second.Fits items)
    (keys : first.keyOf = second.keyOf) :
    List.Forall₂ Cell.Aligned first second := by
  unfold GroupRow.Fits GroupRow.keyOf at *
  induction fitsFirst generalizing second with
  | nil =>
      cases fitsSecond
      exact List.Forall₂.nil
  | @cons item cell items first fits _ ih =>
      cases fitsSecond with
      | @cons _ other _ second fitsOther rest =>
          rcases Cell.fits_cases fits with ⟨rfl, text, rfl⟩ | ⟨call, value, rfl, small⟩
          · rcases Cell.fits_cases fitsOther with ⟨_, otherText, rfl⟩ | ⟨call, _⟩
            · obtain ⟨head, tail⟩ := List.cons.inj keys
              exact List.Forall₂.cons (.inl (congrArg Cell.key head))
                (ih rest tail)
            · exact absurd rfl call
          · rcases Cell.fits_cases fitsOther with ⟨key, _⟩ | ⟨_, otherValue, rfl, otherSmall⟩
            · exact absurd key call
            · exact List.Forall₂.cons (.inr ⟨value, otherValue, rfl, rfl, small, otherSmall⟩)
                (ih rest keys)

theorem cellPart_number
    (laws : ext.FloatText)
    {value : WithTop Int}
    (fits : ∀ number : Int, value = number → Decimal.InInt64 number) :
    cellPart ext (.number value) = (extremeValue value).sprint.toList := by
  rw [cellPart, Cell.text, inferType_extremeValue laws fits]
  cases value with
  | top | coe => rfl

theorem separator_notMem (value : WithTop Int) : '\x01' ∉ (extremeValue value).sprint.toList := by
  cases value with
  | top => decide
  | coe number =>
      intro inside
      rcases Decimal.isDigit_of_mem_formatInt inside with digit | sign
      · exact absurd digit (by decide)
      · exact absurd sign (by decide)

/-- Rows of one group are told apart by their keys. -/
theorem eq_of_rowKey
    (laws : ext.FloatText)
    (fitsFirst : first.Fits items)
    (fitsSecond : second.Fits items)
    (keys : first.keyOf = second.keyOf)
    (same : rowKey (typedRow ext first) = rowKey (typedRow ext second)) :
    first = second := by
  have aligned := aligned_of_keyOf fitsFirst fitsSecond keys
  have joined : ['\x01'].intercalate (first.map (cellPart ext)) =
      ['\x01'].intercalate (second.map (cellPart ext)) := by
    rw [← toList_rowKey, ← toList_rowKey, same]
  have parts : first.map (cellPart ext) = second.map (cellPart ext) := by
    refine intercalate_inj ?_ joined
    rw [List.forall₂_map_left_iff, List.forall₂_map_right_iff]
    refine aligned.imp ?_
    rintro cell other (rfl | ⟨left, right, rfl, rfl, smallLeft, smallRight⟩)
    · exact .inl rfl
    · rw [cellPart_number laws smallLeft, cellPart_number laws smallRight]
      exact .inr ⟨separator_notMem left, separator_notMem right⟩
  refine eq_of_map_eq aligned ?_ parts
  rintro cell other (rfl | ⟨left, right, rfl, rfl, smallLeft, smallRight⟩) equal
  · rfl
  · rw [cellPart_number laws smallLeft, cellPart_number laws smallRight, String.toList_inj,
      sprint_extremeValue_inj] at equal
    rw [equal]

end RowKeys

end Aggregate
end VScale
