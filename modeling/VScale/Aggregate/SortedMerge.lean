import VScale.Aggregate.Comparison
import VScale.Aggregate.Duplicates
import VScale.Aggregate.Slices
import VScale.Aggregate.Sorting
import VScale.Text.ByteOrder

/-!
# What a merge without aggregates returns

On columns that hold only integers or only texts, typing, removing duplicates,
sorting by the ORDER BY columns, cutting to the window and printing back come to
this: a segment of the received rows, each once under DISTINCT, in the order of
the ORDER BY columns.
-/

namespace VScale
namespace Aggregate

open Collections

variable {ext : Externals}

/-- What the cells of a column are. -/
inductive ColumnKind
  | integer
  | text
  deriving DecidableEq, Repr

namespace ColumnKind

/-- The canonical text of a 64-bit integer, or a text that is typed as a text and does not
contain the separator of row keys. -/
def Allows (ext : Externals) : ColumnKind → String → Prop
  | .integer, cell => ∃ value, Decimal.InInt64 value ∧ cell = Decimal.formatInt value
  | .text, cell => inferType ext cell = .str cell ∧ '\x01' ∉ cell.toList

/-- Integers are ordered as numbers and texts by their bytes. -/
def before : ColumnKind → String → String → Bool
  | .integer, first, second =>
      (Decimal.parseInt first).getD 0 < (Decimal.parseInt second).getD 0
  | .text, first, second => Text.bytes first < Text.bytes second

/-- The order of a column in a direction. -/
def ahead (kind : ColumnKind) : Direction → String → String → Bool
  | .asc, first, second => kind.before first second
  | .desc, first, second => kind.before second first

end ColumnKind

/-- Rows are ordered by the first key in which their cells differ. -/
def rowBefore (kind : Nat → ColumnKind) : List (Nat × Direction) → List String → List String → Bool
  | [], _, _ => false
  | (index, direction) :: keys, first, second =>
      if first.getD index "" = second.getD index "" then rowBefore kind keys first second
      else (kind index).ahead direction (first.getD index "") (second.getD index "")

/-- The positions of the ORDER BY columns, found by their names up to case. -/
def sortKeys
    (ext : Externals)
    (columns : List String)
    (orderBy : List OrderColumn) :
    List (Nat × Direction) :=
  orderBy.map fun column =>
    ((columns.map ext.toLower).idxOf (ext.toLower column.name), column.direction)

/-- The received rows, each one once under DISTINCT. -/
def received (plan : QueryPlan) (results : List QueryResult) : List (List String) :=
  if plan.distinct then (allRows { results }).eraseDups else allRows { results }

/-- A row with one cell of the right kind for each column. -/
def Fitting
    (ext : Externals)
    (columns : List String)
    (kind : Nat → ColumnKind)
    (row : List String) : Prop :=
  row.length = columns.length ∧
    ∀ index cell, row[index]? = some cell → (kind index).Allows ext cell

namespace ColumnKind

variable {kind : ColumnKind} {cell first second : String}

/-- An allowed cell is printed as it was read. -/
theorem reprint_eq (allowed : kind.Allows ext cell) : reprint ext cell = cell := by
  cases kind with
  | integer =>
      obtain ⟨value, fits, rfl⟩ := allowed
      exact reprint_formatInt fits
  | text =>
      rw [reprint, allowed.1]
      rfl

theorem keyPart_eq (allowed : kind.Allows ext cell) : (inferType ext cell).keyPart = cell := by
  cases kind with
  | integer =>
      obtain ⟨value, fits, rfl⟩ := allowed
      rw [inferType_formatInt fits]
      rfl
  | text =>
      rw [allowed.1]
      rfl

theorem separator_notMem (allowed : kind.Allows ext cell) : '\x01' ∉ cell.toList := by
  cases kind with
  | integer =>
      obtain ⟨value, fits, rfl⟩ := allowed
      intro present
      rcases Decimal.isDigit_of_mem_formatInt present with digit | sign
      · exact absurd digit (by decide)
      · exact absurd sign (by decide)
  | text => exact allowed.2

section Pairs

variable (inFirst : kind.Allows ext first) (inSecond : kind.Allows ext second)
include inFirst inSecond

/-- Cells of one kind are equal when compared exactly when they are the same. -/
theorem equal_eq :
    (newComparable (inferType ext first)).equal (newComparable (inferType ext second)) =
      decide (first = second) := by
  cases kind with
  | integer =>
      obtain ⟨value, fits, rfl⟩ := inFirst
      obtain ⟨other, otherFits, rfl⟩ := inSecond
      rw [inferType_formatInt fits, inferType_formatInt otherFits]
      simp only [newComparable, ComparableValue.equal, ComparableValue.compareBy,
        Decimal.formatInt_inj]
      rfl
  | text =>
      rw [inFirst.1, inSecond.1]
      rfl

/-- Allowed cells are compared as their kind says. -/
theorem lessThan_eq :
    (newComparable (inferType ext first)).lessThan (newComparable (inferType ext second)) =
      kind.before first second := by
  cases kind with
  | integer =>
      obtain ⟨value, fits, rfl⟩ := inFirst
      obtain ⟨other, otherFits, rfl⟩ := inSecond
      rw [inferType_formatInt fits, inferType_formatInt otherFits]
      simp only [before, Decimal.parseInt_formatInt fits, Decimal.parseInt_formatInt otherFits]
      rfl
  | text =>
      rw [inFirst.1, inSecond.1]
      exact decide_eq_decide.mpr Text.bytes_lt_bytes_iff.symm

/-- Different cells of one kind are ordered one way or the other. -/
theorem eq_of_not_before
    (notAhead : ¬ kind.before first second = true)
    (notBehind : ¬ kind.before second first = true) : first = second := by
  cases kind with
  | integer =>
      obtain ⟨value, fits, rfl⟩ := inFirst
      obtain ⟨other, otherFits, rfl⟩ := inSecond
      simp only [before, Decimal.parseInt_formatInt fits, Decimal.parseInt_formatInt otherFits,
        Option.getD_some, decide_eq_true_eq] at notAhead notBehind
      rw [Decimal.formatInt_inj]
      omega
  | text =>
      have forward : ¬ first < second :=
        fun ordered => notAhead (decide_eq_true (Text.bytes_lt_bytes_iff.mpr ordered))
      have backward : ¬ second < first :=
        fun ordered => notBehind (decide_eq_true (Text.bytes_lt_bytes_iff.mpr ordered))
      exact le_antisymm (not_lt.mp backward) (not_lt.mp forward)

end Pairs

/-- Each kind of column is in a strict weak order. -/
theorem strictWeak_before
    (kind : ColumnKind)
    (cells : Set String) :
    StrictWeakOn (fun first second => kind.before first second = true) cells := by
  cases kind with
  | integer =>
      have numbers : StrictWeakOn (fun first second : String =>
          (Decimal.parseInt first).getD 0 < (Decimal.parseInt second).getD 0) cells :=
        StrictWeakOn.image_iff.mp (StrictWeakOn.of_linearOrder _)
      exact numbers.congr fun _ _ _ _ => decide_eq_true_iff
  | text =>
      exact (StrictWeakOn.of_linearOrder cells).congr fun _ _ _ _ =>
        decide_eq_true_iff.trans Text.bytes_lt_bytes_iff

theorem strictWeak_ahead
    (kind : ColumnKind)
    (direction : Direction)
    (cells : Set String) :
    StrictWeakOn (fun first second => kind.ahead direction first second = true) cells := by
  cases direction with
  | asc => exact kind.strictWeak_before cells
  | desc => exact (kind.strictWeak_before cells).flip

/-- Allowed cells that tie are the same. -/
theorem eq_of_incomparable
    {direction : Direction}
    (inFirst : kind.Allows ext first)
    (inSecond : kind.Allows ext second)
    (level : Incomparable (fun first second => kind.ahead direction first second = true)
      first second) : first = second := by
  cases direction with
  | asc => exact eq_of_not_before inFirst inSecond level.1 level.2
  | desc => exact eq_of_not_before inFirst inSecond level.2 level.1

end ColumnKind

section Rows

variable {columns : List String} {kind : Nat → ColumnKind} {row first second : List String}

variable {index : Nat} {keys : List (Nat × Direction)}

section Fits

variable (fits : Fitting ext columns kind row)
include fits

theorem Fitting.getElem?
    (inside : index < columns.length) : row[index]? = some (row.getD index "") := by
  have bound : index < row.length := fits.1 ▸ inside
  rw [List.getD_eq_getElem?_getD, List.getElem?_eq_getElem bound]
  rfl

theorem Fitting.allows
    (inside : index < columns.length) : (kind index).Allows ext (row.getD index "") :=
  fits.2 index _ (fits.getElem? inside)

theorem Fitting.exists_allows
    {cell : String}
    (present : cell ∈ row) : ∃ index, (kind index).Allows ext cell := by
  obtain ⟨index, found⟩ := List.mem_iff_getElem?.mp present
  exact ⟨index, fits.2 index cell found⟩

theorem Fitting.map_reprint :
    row.map (reprint ext) = row := by
  have same : row.map (reprint ext) = row.map id := by
    apply List.map_congr_left
    intro cell present
    obtain ⟨index, allowed⟩ := fits.exists_allows present
    exact ColumnKind.reprint_eq allowed
  rwa [List.map_id] at same

/-- The pieces of a fitting row are its cells. -/
theorem Fitting.keyPieces_eq (nonempty : row ≠ []) : keyPieces ext row = row.map String.toList := by
  have pieces : keyPieces ext row = row.flatMap fun cell =>
      List.splitOn '\x01' (inferType ext cell).keyPart.toList := by
    cases row with
    | nil => exact absurd rfl nonempty
    | cons cell cells => rfl
  have single : ∀ cell ∈ row,
      List.splitOn '\x01' (inferType ext cell).keyPart.toList = [cell.toList] := by
    intro cell present
    obtain ⟨index, allowed⟩ := fits.exists_allows present
    rw [ColumnKind.keyPart_eq allowed, List.splitOn_eq_singleton
      (ColumnKind.separator_notMem allowed)]
  rw [pieces, List.flatMap_congr single, List.map_eq_flatMap]

end Fits

/-- Fitting rows with the same key are the same. -/
theorem Fitting.eq_of_textKey
    (inFirst : Fitting ext columns kind first)
    (inSecond : Fitting ext columns kind second)
    (same : textKey ext first = textKey ext second) :
    first = second := by
  have lengths : first.length = second.length := inFirst.1.trans inSecond.1.symm
  cases first with
  | nil => exact (List.length_eq_zero_iff.mp lengths.symm).symm
  | cons cell cells =>
      have nonempty : second ≠ [] := by
        rintro rfl
        cases lengths
      rw [textKey_eq_iff, inFirst.keyPieces_eq (List.cons_ne_nil cell cells),
        inSecond.keyPieces_eq nonempty] at same
      exact List.map_injective_iff.mpr (fun _ _ => String.toList_inj.mp) same

/-- Rows are compared by the columns of the ORDER BY. -/
theorem rowLess_typed
    (inside : ∀ key ∈ keys, key.1 < columns.length)
    (inFirst : Fitting ext columns kind first)
    (inSecond : Fitting ext columns kind second) :
    rowLess (first.map (inferType ext)) (second.map (inferType ext)) keys =
      some (rowBefore kind keys first second) := by
  induction keys with
  | nil => rfl
  | cons key keys ih =>
      obtain ⟨index, direction⟩ := key
      obtain ⟨here, there⟩ := List.forall_mem_cons.mp inside
      have left : (first.map (inferType ext))[index]? =
          some (inferType ext (first.getD index "")) := by
        rw [List.getElem?_map, inFirst.getElem? here]
        rfl
      have right : (second.map (inferType ext))[index]? =
          some (inferType ext (second.getD index "")) := by
        rw [List.getElem?_map, inSecond.getElem? here]
        rfl
      have leftAllowed := inFirst.allows here
      have rightAllowed := inSecond.allows here
      rw [rowLess_cons left right, ColumnKind.equal_eq leftAllowed rightAllowed, rowBefore]
      by_cases same : first.getD index "" = second.getD index ""
      · rw [if_pos (decide_eq_true same), if_pos same]
        exact ih there
      · rw [if_neg (by simpa using same), if_neg same]
        simp only [cellLess, ColumnKind.equal_eq leftAllowed rightAllowed, decide_eq_false same,
          ColumnKind.lessThan_eq leftAllowed rightAllowed,
          ColumnKind.lessThan_eq rightAllowed leftAllowed]
        cases direction with
        | asc | desc => rfl

/-- The order of the rows is a strict weak one. -/
theorem strictWeak_rowBefore
    (inside : ∀ key ∈ keys, key.1 < columns.length)
    {rows : Set (List String)}
    (fitting : ∀ row ∈ rows, Fitting ext columns kind row) :
    StrictWeakOn (fun first second => rowBefore kind keys first second = true) rows := by
  induction keys with
  | nil => exact (StrictWeakOn.of_empty rows).congr fun _ _ _ _ => by simp [rowBefore]
  | cons key keys ih =>
      obtain ⟨index, direction⟩ := key
      obtain ⟨here, there⟩ := List.forall_mem_cons.mp inside
      have cells : StrictWeakOn (fun first second : List String =>
          (kind index).ahead direction (first.getD index "") (second.getD index "") = true) rows :=
        StrictWeakOn.image_iff.mp ((kind index).strictWeak_ahead direction _)
      refine (cells.lexicographic (ih there)).congr ?_
      intro first inFirst second inSecond
      rw [rowBefore]
      by_cases same : first.getD index "" = second.getD index ""
      · have level : Incomparable (fun first second : List String =>
            (kind index).ahead direction (first.getD index "") (second.getD index "") = true)
            first second := by
          have apart := cells.irrefl first inFirst
          simpa only [Incomparable, ← same] using And.intro apart apart
        rw [if_pos same]
        exact ⟨fun ordered => Or.inr ⟨level, ordered⟩,
          fun ordered => ordered.elim (fun ahead => absurd ahead level.1) And.right⟩
      · rw [if_neg same]
        refine ⟨Or.inl, fun ordered => ordered.elim id fun tied => absurd ?_ same⟩
        exact ColumnKind.eq_of_incomparable ((fitting first inFirst).allows here)
          ((fitting second inSecond).allows here) tied.1

/-- DISTINCT keeps the first occurrence of each row. -/
theorem applyDistinctFrom_apart
    {rows : List (List String)}
    (seen : List (List String))
    (apart : ∀ first ∈ seen ++ rows, ∀ second ∈ seen ++ rows,
      textKey ext first = textKey ext second → first = second) :
    applyDistinctFrom (seen.map (textKey ext)) (rows.map fun row => row.map (inferType ext)) =
      (rows.filter fun row => row ∉ seen).eraseDups.map fun row => row.map (inferType ext) := by
  induction rows generalizing seen with
  | nil => rfl
  | cons row rows ih =>
      have listed : rowKey (row.map (inferType ext)) ∈ seen.map (textKey ext) ↔ row ∈ seen := by
        constructor
        · intro present
          obtain ⟨other, inside, same⟩ := List.mem_map.mp present
          rw [← apart other (by simp [inside]) row (by simp) same]
          exact inside
        · exact fun present => List.mem_map_of_mem present
      rw [List.map_cons, applyDistinctFrom]
      by_cases present : row ∈ seen
      · rw [if_pos (listed.mpr present), List.filter_cons_of_neg (by simpa using present)]
        refine ih seen fun first inFirst second inSecond => ?_
        have kept : ∀ row' ∈ seen ++ rows, row' ∈ seen ++ row :: rows := by
          intro row' inside
          rw [List.mem_append, List.mem_cons]
          exact (List.mem_append.mp inside).imp_right Or.inr
        exact apart first (kept first inFirst) second (kept second inSecond)
      · rw [if_neg (fun known => present (listed.mp known)),
          List.filter_cons_of_pos (by simpa using present), List.eraseDups_cons, List.map_cons,
          List.filter_filter]
        congr 1
        have next := ih (row :: seen) fun first inFirst second inSecond => by
          have kept : ∀ row' ∈ row :: seen ++ rows, row' ∈ seen ++ row :: rows :=
            fun row' inside => List.perm_middle.mem_iff.mpr inside
          exact apart first (kept first inFirst) second (kept second inSecond)
        rw [List.map_cons] at next
        refine next.trans ?_
        congr 2
        apply List.filter_congr
        intro other _
        simp [not_or, beq_eq_decide]

end Rows

variable {columns : List String} {plan : QueryPlan}

theorem lookup_columnMap_from
    (distinct : (columns.map ext.toLower).Nodup)
    (map : Map String Nat)
    (start : Nat)
    (name : String) :
    ((columns.zipIdx start).foldl
        (fun colMap entry => colMap.insert (ext.toLower entry.1) entry.2) map).lookup name =
      if name ∈ columns.map ext.toLower then some (start + (columns.map ext.toLower).idxOf name)
      else map.lookup name := by
  induction columns generalizing map start with
  | nil => rfl
  | cons column columns ih =>
      obtain ⟨fresh, distinct⟩ := List.nodup_cons.mp distinct
      rw [List.zipIdx_cons, List.foldl_cons, ih distinct, List.map_cons]
      by_cases same : ext.toLower column = name
      · subst same
        rw [if_neg fresh, if_pos List.mem_cons_self, List.idxOf_cons_self]
        exact AList.lookup_insert map
      · rw [List.idxOf_cons_ne _ same]
        simp only [List.mem_cons, Ne.symm same, false_or]
        rw [AList.lookup_insert_ne (Ne.symm same)]
        congr 2
        omega

variable {orderBy : List OrderColumn}

/-- The ORDER BY columns are found where their names are. -/
theorem orderIndices_eq
    (distinct : (columns.map ext.toLower).Nodup)
    (named : ∀ column ∈ orderBy, ext.toLower column.name ∈ columns.map ext.toLower) :
    orderIndices ext (columnMap ext columns) orderBy = .ok (sortKeys ext columns orderBy) := by
  induction orderBy with
  | nil => rfl
  | cons column orderBy ih =>
      obtain ⟨here, there⟩ := List.forall_mem_cons.mp named
      have found : (columnMap ext columns).lookup (ext.toLower column.name) =
          some ((columns.map ext.toLower).idxOf (ext.toLower column.name)) := by
        rw [columnMap, lookup_columnMap_from distinct, if_pos here, Nat.zero_add]
      simp only [orderIndices, orderIndex, found, ih there]
      rfl

theorem sortKeys_lt
    (named : ∀ column ∈ orderBy, ext.toLower column.name ∈ columns.map ext.toLower) :
    ∀ key ∈ sortKeys ext columns orderBy, key.1 < columns.length := by
  intro key listed
  obtain ⟨column, inside, rfl⟩ := List.mem_map.mp listed
  have bound := List.idxOf_lt_length_iff.mpr (named column inside)
  rwa [List.length_map] at bound

/-- The gate keeps the rows apart and prints them as they are. -/
structure Preserves (ext : Externals) (plan : QueryPlan) (rows : List (List String)) : Prop where
  printed : ∀ row ∈ rows, row.map (reprint ext) = row
  apart : plan.distinct = true → ∀ first ∈ rows, ∀ second ∈ rows,
    textKey ext first = textKey ext second → first = second

/-- The gate finds the ORDER BY columns and compares the rows by them in a given way. -/
def Compares
    (ext : Externals)
    (plan : QueryPlan)
    (columns : List String)
    (before : List String → List String → Bool)
    (rows : List (List String)) : Prop :=
  ∃ keys, orderIndices ext (columnMap ext columns) plan.orderBy = .ok keys ∧
    ∀ first ∈ rows, ∀ second ∈ rows,
      rowLess (first.map (inferType ext)) (second.map (inferType ext)) keys =
        some (before first second)

section Compared

variable {plan : QueryPlan} {columns : List String} {rows : List (List String)}
variable {before : List String → List String → Bool}

section Printed

variable (printed : ∀ row ∈ rows, row.map (reprint ext) = row)
include printed

theorem map_sprint_typed :
    ((rows.map fun row => row.map (inferType ext)).map fun row => row.map Value.sprint) =
      rows := by
  rw [map_sprint_inferType]
  have same : (rows.map fun row => row.map (reprint ext)) = rows.map id :=
    List.map_congr_left printed
  rwa [List.map_id] at same

/-- Sorting orders the rows by any order that compares them. -/
theorem sortRows_compared
    (order : StrictWeakOn (fun first second => before first second = true) {row | row ∈ rows})
    (compares : Compares ext plan columns before rows) :
    ∃ sorted : List (Row ext),
      sortRows columns (rows.map fun row => row.map (inferType ext)) plan.orderBy = .ok sorted ∧
        sorted.Perm (rows.map fun row => row.map (inferType ext)) ∧
        (sorted.map fun row => row.map Value.sprint).Pairwise fun first second =>
          before second first = false := by
  obtain ⟨keys, located, agree⟩ := compares
  -- The quicksort compares typed rows; printed back, they are the received ones.
  let typed : List String → Row ext := fun row => row.map (inferType ext)
  let behind : Row ext → Row ext → Bool := fun first second =>
    before (first.map Value.sprint) (second.map Value.sprint)
  have back : ∀ row ∈ rows, (typed row).map Value.sprint = row := by
    intro row present
    rw [List.map_map]
    exact printed row present
  have reads : Reads (indexLess keys) behind (rows.map typed).toArray := by
    intro other moved i j first second foundFirst foundSecond
    have known : ∀ {k : Nat} {row : Row ext}, other[k]? = some row →
        ∃ text ∈ rows, typed text = row := by
      intro k row found
      have present := moved.mem_iff.mp (Array.mem_of_getElem? found)
      rw [List.mem_toArray] at present
      exact List.mem_map.mp present
    obtain ⟨firstText, inFirst, rfl⟩ := known foundFirst
    obtain ⟨secondText, inSecond, rfl⟩ := known foundSecond
    simp only [indexLess, foundFirst, foundSecond, behind, back firstText inFirst,
      back secondText inSecond]
    exact agree firstText inFirst secondText inSecond
  have ordered : StrictWeakOn (fun first second => behind first second = true)
      {row | row ∈ (rows.map typed).toArray} := by
    have image : {row | row ∈ (rows.map typed).toArray} = typed '' {row | row ∈ rows} := by
      ext row
      simp
    rw [image, StrictWeakOn.image_iff]
    refine order.congr ?_
    intro first inFirst second inSecond
    simp only [behind, back first inFirst, back second inSecond]
  obtain ⟨result, finished, moved, sorted⟩ := quickSort_sorts (indexLess keys) reads ordered
  refine ⟨result.toList, ?_, Array.perm_iff_toList_perm.mp moved, List.pairwise_map.mpr sorted⟩
  rw [sortRows, located]
  simp only
  rw [finished]

theorem orderStep_compared
    (order : StrictWeakOn (fun first second => before first second = true) {row | row ∈ rows})
    (compares : plan.orderBy ≠ [] → 1 < rows.length → Compares ext plan columns before rows) :
    ∃ (sorted : List (Row ext)) (texts : List (List String)),
      orderStep plan columns (rows.map fun row => row.map (inferType ext)) = .ok sorted ∧
        (sorted.map fun row => row.map Value.sprint) = texts ∧ texts.Perm rows ∧
        (plan.orderBy ≠ [] → texts.Pairwise fun first second => before second first = false) ∧
        (plan.orderBy = [] → texts = rows) := by
  unfold orderStep
  rw [List.length_map]
  split
  · rename_i several
    have named : plan.orderBy ≠ [] := List.length_pos_iff.mp several.1
    obtain ⟨sorted, finished, moved, inOrder⟩ :=
      sortRows_compared printed order (compares named several.2)
    refine ⟨sorted, _, finished, rfl, ?_, fun _ => inOrder, fun unordered => absurd unordered named⟩
    have texts := moved.map fun row => row.map Value.sprint
    rwa [map_sprint_typed printed] at texts
  · rename_i few
    refine ⟨_, rows, rfl, map_sprint_typed printed, List.Perm.refl rows, ?_, fun _ => rfl⟩
    intro named
    have single : rows.length ≤ 1 :=
      Nat.not_lt.mp fun several => few ⟨List.length_pos_iff.mpr named, several⟩
    match rows, single with
    | [], _ => exact List.Pairwise.nil
    | [row], _ => exact List.pairwise_singleton _ row

end Printed

end Compared

/-- The window is a slice of the rows. -/
theorem windowStep_eq
    (forward : 0 ≤ plan.offset)
    (fits : plan.offset + plan.limit ≤ Decimal.maxInt64)
    (rows : List α) :
    windowStep plan rows = .ok (slice rows plan.offset plan.limit) := by
  unfold windowStep
  split
  · rcases Int.lt_or_le plan.limit 0 with unlimited | limited
    · exact applyLimitOffset_of_unlimited rows forward unlimited
    · exact applyLimitOffset_of_fits rows forward limited (by omega)
  · rename_i whole
    have start : plan.offset.toNat = 0 := by omega
    rw [slice, if_neg (by omega), start, List.drop_zero]

theorem map_slice
    (f : α → β)
    (rows : List α)
    (offset limit : Int) :
    (slice rows offset limit).map f = slice (rows.map f) offset limit := by
  unfold slice
  split
  · rw [List.map_take, List.map_drop]
  · rw [List.map_drop]

/-- The rows of a merge without aggregates. -/
theorem answerRows_compared
    {before : List String → List String → Bool}
    {results : List QueryResult}
    (plain : plan.hasAgg = false)
    (preserves : Preserves ext plan (allRows { results }))
    (order : StrictWeakOn (fun first second => before first second = true)
      {row | row ∈ allRows { results }})
    (compares : plan.orderBy ≠ [] → 1 < (received plan results).length →
      Compares ext plan (flattenResults ext { results }).2 before (allRows { results }))
    (forward : 0 ≤ plan.offset)
    (fits : plan.offset + plan.limit ≤ Decimal.maxInt64) :
    ∃ sorted : List (List String),
      answerRows ext plan results = .ok (slice sorted plan.offset plan.limit) ∧
        sorted.Perm (received plan results) ∧
        (plan.orderBy ≠ [] → sorted.Pairwise fun first second => before second first = false) ∧
        (plan.orderBy = [] → sorted = received plan results) := by
  have collected : collectStep plan (flattenResults ext { results }).2
      (flattenResults ext { results }).1 =
        (received plan results).map fun row => row.map (inferType ext) := by
    rw [collectStep, plain, flattenResults_rows, received]
    simp only [Bool.false_eq_true, if_false]
    split
    · rename_i once
      have firsts := applyDistinctFrom_apart [] (preserves.apart once)
      rwa [List.map_nil, List.filter_eq_self.mpr (by simp)] at firsts
    · rfl
  have listed : ∀ row ∈ received plan results, row ∈ allRows { results } := by
    intro row present
    rw [received] at present
    split at present
    · exact List.mem_eraseDups.mp present
    · exact present
  have compared : plan.orderBy ≠ [] → 1 < (received plan results).length →
      Compares ext plan (flattenResults ext { results }).2 before (received plan results) := by
    intro named several
    obtain ⟨keys, located, agree⟩ := compares named several
    exact ⟨keys, located, fun first inFirst second inSecond =>
      agree first (listed first inFirst) second (listed second inSecond)⟩
  obtain ⟨sorted, texts, ordered, printed, moved, inOrder, unordered⟩ :=
    orderStep_compared (fun row present => preserves.printed row (listed row present))
      (order.mono listed) compared
  have ran : mergeRows plan (flattenResults ext { results }).2 (flattenResults ext { results }).1 =
      .ok (slice sorted plan.offset plan.limit) := by
    rw [mergeRows, collected, ordered]
    exact windowStep_eq forward fits sorted
  refine ⟨texts, ?_, moved, inOrder, unordered⟩
  unfold answerRows mergeScatterResponses
  simp only [Option.getD_some, ran]
  rw [← printed, ← map_slice]
  simp [Except.map, allRows]

/-- A merge without aggregates returns the requested segment of the received rows in the
order of the ORDER BY columns. -/
theorem merge_is_segment_of_sorted_rows
    (ext : Externals)
    (plan : QueryPlan)
    (columns : List String)
    (kind : Nat → ColumnKind)
    (results : List QueryResult)
    (plain : plan.hasAgg = false)
    (common : ∀ result ∈ results, result.columns = columns)
    (distinctNames : (columns.map ext.toLower).Nodup)
    (fitting : ∀ row ∈ allRows { results }, Fitting ext columns kind row)
    (named : ∀ column ∈ plan.orderBy, ext.toLower column.name ∈ columns.map ext.toLower)
    (forward : 0 ≤ plan.offset)
    (fits : plan.offset + plan.limit ≤ Decimal.maxInt64) :
    ∃ (merged : QueryResponse) (sorted : List (List String)),
      mergeScatterResponses ext (some plan) { results } = .ok merged ∧
        allRows merged = slice sorted plan.offset plan.limit ∧
        sorted.Perm (received plan results) ∧
        (sorted.Pairwise fun first second =>
          rowBefore kind (sortKeys ext columns plan.orderBy) second first = false) ∧
        (plan.orderBy = [] → sorted = received plan results) := by
  have inside := sortKeys_lt named
  have preserves : Preserves ext plan (allRows { results }) :=
    ⟨fun row present => (fitting row present).map_reprint,
      fun _ first inFirst second inSecond =>
        (fitting first inFirst).eq_of_textKey (fitting second inSecond)⟩
  have compares : plan.orderBy ≠ [] → 1 < (received plan results).length →
      Compares ext plan (flattenResults ext { results }).2
        (rowBefore kind (sortKeys ext columns plan.orderBy)) (allRows { results }) := by
    intro _ several
    cases results with
    | nil => simp [received, allRows] at several
    | cons first rest =>
        have columnsAre : (flattenResults ext { results := first :: rest }).2 = columns :=
          common first List.mem_cons_self
        rw [columnsAre]
        exact ⟨_, orderIndices_eq distinctNames named, fun one inOne other inOther =>
          rowLess_typed inside (fitting one inOne) (fitting other inOther)⟩
  obtain ⟨sorted, answered, moved, inOrder, unordered⟩ :=
    answerRows_compared plain preserves (strictWeak_rowBefore inside fitting) compares forward fits
  obtain ⟨merged, done, rows⟩ := merged_of_answerRows answered
  refine ⟨merged, sorted, done, rows, moved, ?_, unordered⟩
  by_cases unnamed : plan.orderBy = []
  · rw [unnamed]
    exact List.pairwise_of_forall fun _ _ => rfl
  · exact inOrder unnamed

/-- Two shards that return names and ages. -/
def agesOfTwoShards : List QueryResult :=
  [{ sql := "", columns := ["name", "age"], rows := [["ann", "9"], ["bob", "10"]] },
    { sql := "", columns := ["name", "age"], rows := [["cid", "10"], ["ann", "9"]] }]

/-- The oldest two of them. -/
def oldestTwo : QueryPlan :=
  { distinct := true, orderBy := [⟨"AGE", .desc⟩, ⟨"name", .desc⟩], limit := 2 }

/-- A column of names and one of ages. -/
def nameAndAge (index : Nat) : ColumnKind :=
  if index = 0 then .text else .integer

theorem fitting_agesOfTwoShards : ∀ row ∈ allRows { results := agesOfTwoShards },
    Fitting integralExternals ["name", "age"] nameAndAge row := by
  have fits : ∀ (name : String) (age : Int), inferType integralExternals name = .str name →
      '\x01' ∉ name.toList → Decimal.InInt64 age →
        Fitting integralExternals ["name", "age"] nameAndAge [name, Decimal.formatInt age] := by
    intro name age kept plain bounded
    refine ⟨rfl, ?_⟩
    intro index cell found
    match index with
    | 0 =>
        injection found with same
        rw [← same]
        exact ⟨kept, plain⟩
    | 1 =>
        injection found with same
        exact ⟨age, bounded, same.symm⟩
  have listed : allRows { results := agesOfTwoShards } =
      [["ann", Decimal.formatInt 9], ["bob", Decimal.formatInt 10],
        ["cid", Decimal.formatInt 10], ["ann", Decimal.formatInt 9]] := by decide
  rw [listed]
  simp only [List.forall_mem_cons]
  exact ⟨fits "ann" 9 rfl (by decide) (by decide), fits "bob" 10 rfl (by decide) (by decide),
    fits "cid" 10 rfl (by decide) (by decide), fits "ann" 9 rfl (by decide) (by decide), nofun⟩

theorem toLower_nameAndAge :
    ["name", "age"].map integralExternals.toLower = ["name", "age"] := by
  simp only [List.map_cons, List.map_nil]
  rw [integralExternals_toLower (show "name".toList.map Char.toLower = "name".toList by decide),
    integralExternals_toLower (show "age".toList.map Char.toLower = "age".toList by decide)]

theorem named_oldestTwo : ∀ column ∈ oldestTwo.orderBy,
    integralExternals.toLower column.name ∈ ["name", "age"].map integralExternals.toLower := by
  rw [toLower_nameAndAge, oldestTwo]
  simp only [List.forall_mem_cons]
  rw [integralExternals_toLower (show "AGE".toList.map Char.toLower = "age".toList by decide),
    integralExternals_toLower (show "name".toList.map Char.toLower = "name".toList by decide)]
  exact ⟨by decide, by decide, nofun⟩

theorem oldest_two_of_two_shards :
    ∃ (merged : QueryResponse) (sorted : List (List String)),
      mergeScatterResponses integralExternals (some oldestTwo) { results := agesOfTwoShards } =
          .ok merged ∧
        allRows merged = slice sorted 0 2 ∧
        sorted.Perm (received oldestTwo agesOfTwoShards) ∧
        (sorted.Pairwise fun first second =>
          rowBefore nameAndAge (sortKeys integralExternals ["name", "age"] oldestTwo.orderBy)
            second first = false) ∧
        (oldestTwo.orderBy = [] → sorted = received oldestTwo agesOfTwoShards) :=
  merge_is_segment_of_sorted_rows integralExternals oldestTwo ["name", "age"] nameAndAge
    agesOfTwoShards rfl (by decide) (by rw [toLower_nameAndAge]; decide) fitting_agesOfTwoShards
    named_oldestTwo (by decide) (by decide)

end Aggregate
end VScale
