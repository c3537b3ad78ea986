import Mathlib.Data.String.Basic
import VScale.Aggregate.Fidelity
import VScale.Collections.StrictWeak

/-!
# The comparison of an ORDER BY

Integers are compared as numbers, texts as texts, and an integer with a text by
its digits.  The three agree unless a text lies between the digits of two
integers that come in the opposite order as numbers; then the comparison has a
cycle, and no list that holds the three is sorted.
-/

namespace VScale
namespace Aggregate

open Collections

variable {ext : Externals}

/-- Compare two cells of an ORDER BY column. -/
def cellLess (direction : Direction) (first second : Value ext) : Bool :=
  let vi := newComparable first
  let vj := newComparable second
  if !vi.equal vj then
    match direction with
    | .desc => vj.lessThan vi
    | .asc => vi.lessThan vj
  else false

variable {first second : Value ext} {cells : List String} {value : Int} {text cell : String}

/-- Rows are compared by the first ORDER BY column in which they differ. -/
theorem rowLess_cons
    {left right : Row ext}
    {index : Nat}
    (leftCell : left[index]? = some first)
    (rightCell : right[index]? = some second)
    (direction : Direction)
    (keys : List (Nat × Direction)) :
    rowLess left right ((index, direction) :: keys) =
      if (newComparable first).equal (newComparable second) then rowLess left right keys
      else some (cellLess direction first second) := by
  simp only [rowLess, leftCell, rightCell, cellLess]
  cases (newComparable first).equal (newComparable second) with
  | true => rfl
  | false =>
      cases direction with
      | asc | desc => rfl

namespace ComparableValue

/-- No value is compared as a float, and no text spells one of the integers. -/
structure Legible (values : Set (ComparableValue ext)) : Prop where
  floatless : ∀ number, .float number ∉ values
  spelled : ∀ value text, .int value ∈ values → .str text ∈ values →
    text ≠ Decimal.formatInt value

/-- No text lies between the digits of two integers that come in the opposite order. -/
def Untorn (values : Set (ComparableValue ext)) : Prop :=
  ∀ small large text, .int small ∈ values → .int large ∈ values → .str text ∈ values →
    small < large → ¬ (Decimal.formatInt large < text ∧ text < Decimal.formatInt small)

@[simp] theorem lessThan_nil (value : ComparableValue ext) : lessThan .nilVal value = false := by
  cases value <;> rfl

@[simp] theorem lessThan_int (first second : Int) :
    lessThan (.int first : ComparableValue ext) (.int second) = decide (first < second) := rfl

@[simp] theorem lessThan_str (first second : String) :
    lessThan (.str first : ComparableValue ext) (.str second) = decide (first < second) := rfl

@[simp] theorem lessThan_int_str
    (value : Int)
    (text : String) :
    lessThan (.int value : ComparableValue ext) (.str text) =
      decide (Decimal.formatInt value < text) := rfl

@[simp] theorem lessThan_str_int
    (text : String)
    (value : Int) :
    lessThan (.str text : ComparableValue ext) (.int value) =
      decide (text < Decimal.formatInt value) := rfl

namespace Legible

variable {values : Set (ComparableValue ext)} {a b c : ComparableValue ext}

section Legible

variable (legible : Legible values) (inA : a ∈ values)
include legible inA

/-- Values that are equal when compared are the same. -/
theorem equal_iff (inB : b ∈ values) : a.equal b = true ↔ a = b := by
  cases a with
  | float number => exact absurd inA (legible.floatless number)
  | nilVal =>
      cases b with
      | nilVal => exact iff_of_true rfl rfl
      | _ => exact iff_of_false nofun nofun
  | int value =>
      cases b with
      | float number => exact absurd inB (legible.floatless number)
      | nilVal => exact iff_of_false nofun nofun
      | int other => simp [equal, compareBy]
      | str text =>
          have apart : Decimal.formatInt value ≠ text := (legible.spelled value text inA inB).symm
          simp [equal, compareBy, asString, apart]
  | str text =>
      cases b with
      | float number => exact absurd inB (legible.floatless number)
      | nilVal => exact iff_of_false nofun nofun
      | int value =>
          have apart : text ≠ Decimal.formatInt value := legible.spelled value text inB inA
          simp [equal, compareBy, asString, apart]
      | str other => simp [equal, compareBy]

theorem irrefl : a.lessThan a = false := by
  cases a with
  | float number => exact absurd inA (legible.floatless number)
  | nilVal => rfl
  | int | str => simp

/-- What comes before a value is a number or a text. -/
theorem int_or_str (less : a.lessThan b = true) :
    (∃ value, a = .int value) ∨ ∃ text, a = .str text := by
  cases a with
  | float number => exact absurd inA (legible.floatless number)
  | nilVal => simp at less
  | int value => exact Or.inl ⟨value, rfl⟩
  | str text => exact Or.inr ⟨text, rfl⟩

/-- Different values are ordered one way or the other. -/
theorem total
    (inB : b ∈ values)
    (apart : a ≠ b) :
    a.lessThan b = true ∨ b.lessThan a = true := by
  cases a with
  | float number => exact absurd inA (legible.floatless number)
  | nilVal =>
      cases b with
      | float number => exact absurd inB (legible.floatless number)
      | nilVal => exact absurd rfl apart
      | int | str => exact Or.inr rfl
  | int value =>
      cases b with
      | float number => exact absurd inB (legible.floatless number)
      | nilVal => exact Or.inl rfl
      | int other =>
          have different : value ≠ other := fun same => apart (congrArg _ same)
          simpa using lt_or_gt_of_ne different
      | str text => simpa using lt_or_gt_of_ne (legible.spelled value text inA inB).symm
  | str text =>
      cases b with
      | float number => exact absurd inB (legible.floatless number)
      | nilVal => exact Or.inl rfl
      | int value => simpa using lt_or_gt_of_ne (legible.spelled value text inB inA)
      | str other =>
          have different : text ≠ other := fun same => apart (congrArg _ same)
          simpa using lt_or_gt_of_ne different

theorem asymm
    (inB : b ∈ values)
    (ahead : a.lessThan b = true) : b.lessThan a = false := by
  cases a with
  | float number => exact absurd inA (legible.floatless number)
  | nilVal => simp at ahead
  | int | str =>
      cases b with
      | float number => exact absurd inB (legible.floatless number)
      | nilVal => rfl
      | int | str => exact decide_eq_false (lt_asymm (of_decide_eq_true ahead))

end Legible

/-- A chain of two comparisons that mixes integers and texts. -/
theorem trans_of_untorn
    (legible : Legible values)
    (untorn : Untorn values)
    (inA : a ∈ values)
    (inB : b ∈ values)
    (inC : c ∈ values)
    (first : a.lessThan b = true)
    (second : b.lessThan c = true) : a.lessThan c = true := by
  by_contra apart
  have different : a ≠ c := by
    rintro rfl
    rw [legible.asymm inA inB first] at second
    cases second
  have cycle : c.lessThan a = true :=
    (legible.total inA inC different).resolve_left apart
  clear apart different
  -- A cycle of three is a cycle of numbers, one of texts, or torn.
  obtain ⟨i, rfl⟩ | ⟨r, rfl⟩ := legible.int_or_str inA first <;>
    obtain ⟨j, rfl⟩ | ⟨s, rfl⟩ := legible.int_or_str inB second <;>
    obtain ⟨k, rfl⟩ | ⟨t, rfl⟩ := legible.int_or_str inC cycle <;>
    simp only [lessThan_int, lessThan_str, lessThan_int_str, lessThan_str_int,
      decide_eq_true_eq] at first second cycle
  · omega
  · exact untorn i j t inA inB inC first ⟨second, cycle⟩
  · exact untorn k i s inC inA inB cycle ⟨first, second⟩
  · exact lt_asymm (lt_trans first second) cycle
  · exact untorn j k r inB inC inA second ⟨cycle, first⟩
  all_goals exact lt_asymm (lt_trans first second) cycle

theorem strictWeak_iff (legible : Legible values) :
    StrictWeakOn (fun first second => lessThan first second = true) values ↔ Untorn values := by
  constructor
  · intro order small large text inSmall inLarge inText ordered ⟨below, above⟩
    have turned := order.trans (.int large) inLarge (.str text) inText (.int small) inSmall
      (decide_eq_true below) (decide_eq_true above)
    exact lt_asymm ordered (of_decide_eq_true turned)
  · intro untorn
    have tied : ∀ x ∈ values, ∀ y ∈ values,
        Incomparable (fun first second => lessThan first second = true) x y → x = y := by
      intro x inX y inY level
      by_contra apart
      exact (legible.total inX inY apart).elim level.1 level.2
    constructor
    · intro a inA
      rw [legible.irrefl inA]
      exact Bool.false_ne_true
    · intro a inA b inB ahead
      rw [legible.asymm inA inB ahead]
      exact Bool.false_ne_true
    · intro a inA b inB c inC
      exact legible.trans_of_untorn untorn inA inB inC
    · intro a inA b inB c inC first second
      rw [tied a inA b inB first]
      exact second

end Legible

end ComparableValue

/-- The cells of a column as they are compared. -/
def compared (ext : Externals) (cells : List String) : Set (ComparableValue ext) :=
  newComparable '' (inferType ext '' {cell | cell ∈ cells})

/-- The integers among the cells of a column. -/
def comparedInts (ext : Externals) (cells : List String) : List Int :=
  cells.filterMap fun cell =>
    match newComparable (inferType ext cell) with
    | .int value => some value
    | _ => none

/-- The texts among the cells of a column. -/
def comparedTexts (ext : Externals) (cells : List String) : List String :=
  cells.filterMap fun cell =>
    match newComparable (inferType ext cell) with
    | .str text => some text
    | _ => none

theorem mem_compared {value : ComparableValue ext} :
    value ∈ compared ext cells ↔ ∃ cell ∈ cells, newComparable (inferType ext cell) = value := by
  constructor
  · rintro ⟨_, ⟨cell, listed, rfl⟩, same⟩
    exact ⟨cell, listed, same⟩
  · rintro ⟨cell, listed, same⟩
    exact ⟨_, ⟨cell, listed, rfl⟩, same⟩

theorem mem_comparedInts : value ∈ comparedInts ext cells ↔ .int value ∈ compared ext cells := by
  rw [mem_compared, comparedInts, List.mem_filterMap]
  apply exists_congr
  intro cell
  cases newComparable (inferType ext cell) with
  | _ => simp

theorem mem_comparedTexts : text ∈ comparedTexts ext cells ↔ .str text ∈ compared ext cells := by
  rw [mem_compared, comparedTexts, List.mem_filterMap]
  apply exists_congr
  intro cell
  cases newComparable (inferType ext cell) with
  | _ => simp

instance (ext : Externals) (cells : List String) :
    Decidable (ComparableValue.Untorn (compared ext cells)) :=
  decidable_of_iff
    (∀ small ∈ comparedInts ext cells, ∀ large ∈ comparedInts ext cells,
      ∀ text ∈ comparedTexts ext cells, small < large →
        ¬ (Decimal.formatInt large < text ∧ text < Decimal.formatInt small))
    (by
      simp only [mem_comparedInts, mem_comparedTexts]
      exact ⟨fun all small large text inSmall inLarge inText =>
          all small inSmall large inLarge text inText,
        fun untorn small inSmall large inLarge text inText =>
          untorn small large text inSmall inLarge inText⟩)

theorem parseInt_of_compared_str
    (asText : newComparable (inferType ext cell) = .str text) : Decimal.parseInt text = none := by
  cases typed : inferType ext cell with
  | null | int64 | float64 =>
      rw [typed] at asText
      cases asText
  | bool value =>
      rw [typed] at asText
      simp only [newComparable] at asText
      split at asText
      · cases asText
      · rename_i unparsed
        split at asText
        · cases asText
        · injection asText with same
          rw [← same]
          exact unparsed
  | str kept =>
      rw [typed] at asText
      injection asText with same
      rw [← same]
      cases parsed : Decimal.parseInt kept with
      | none => rfl
      | some value =>
          rw [inferType_str_eq typed] at parsed
          simp only [inferType, parsed] at typed
          split at typed
          · cases typed
          · cases typed

theorem inInt64_of_compared_int
    (asInt : newComparable (inferType ext cell) = .int value) : Decimal.InInt64 value := by
  cases typed : inferType ext cell with
  | null | float64 | str =>
      rw [typed] at asInt
      cases asInt
  | int64 number =>
      rw [typed] at asInt
      injection asInt with same
      rw [← same]
      exact inferType_int64_fits typed
  | bool flag =>
      rw [typed] at asInt
      simp only [newComparable] at asInt
      split at asInt
      · rename_i number parsed
        injection asInt with same
        rw [← same]
        exact Decimal.inInt64_of_parseInt parsed
      · split at asInt
        · cases asInt
        · cases asInt

/-- No received text is compared as a text that spells an integer. -/
theorem legible_compared
    (floatless : ∀ cell ∈ cells, ∀ number, newComparable (inferType ext cell) ≠ .float number) :
    ComparableValue.Legible (compared ext cells) where
  floatless := by
    rintro number ⟨_, ⟨cell, listed, rfl⟩, asFloat⟩
    exact floatless cell listed number asFloat
  spelled := by
    rintro value text ⟨_, ⟨number, _, rfl⟩, asInt⟩ ⟨_, ⟨cell, _, rfl⟩, asText⟩ rfl
    have unparsed := parseInt_of_compared_str asText
    rw [Decimal.parseInt_formatInt (inInt64_of_compared_int asInt)] at unparsed
    cases unparsed

section Legible

variable
  (legible : ComparableValue.Legible (compared ext cells))
  (inFirst : newComparable first ∈ compared ext cells)
  (inSecond : newComparable second ∈ compared ext cells)
include legible inFirst inSecond

/-- Where equality is identity, the comparison of two cells is their order. -/
theorem cellLess_asc :
    cellLess .asc first second = (newComparable first).lessThan (newComparable second) := by
  unfold cellLess
  simp only
  split
  · rfl
  · rename_i same
    have equal : newComparable first = newComparable second :=
      (legible.equal_iff inFirst inSecond).mp (by simpa using same)
    rw [equal, legible.irrefl inSecond]

theorem cellLess_desc :
    cellLess .desc first second = cellLess .asc second first := by
  rw [cellLess_asc legible inSecond inFirst]
  unfold cellLess
  simp only
  split
  · rfl
  · rename_i same
    have equal : newComparable first = newComparable second :=
      (legible.equal_iff inFirst inSecond).mp (by simpa using same)
    rw [equal, legible.irrefl inSecond]

end Legible

/-- The comparison of an ORDER BY is a strict weak order on the cells of a column exactly
when no text of the column tears two of its integers apart. -/
theorem order_by_strict_weak_iff_untorn
    (ext : Externals)
    (cells : List String)
    (direction : Direction)
    (floatless : ∀ cell ∈ cells, ∀ number, newComparable (inferType ext cell) ≠ .float number) :
    StrictWeakOn (fun first second : Value ext => cellLess direction first second = true)
        (inferType ext '' {cell | cell ∈ cells}) ↔
      ComparableValue.Untorn (compared ext cells) := by
  have legible := legible_compared floatless
  rw [← legible.strictWeak_iff, show compared ext cells =
    newComparable '' (inferType ext '' {cell | cell ∈ cells}) from rfl]
  generalize same : inferType ext '' {cell | cell ∈ cells} = values
  have inside : ∀ value ∈ values, newComparable value ∈ compared ext cells := by
    intro value listed
    rw [compared, same]
    exact ⟨value, listed, rfl⟩
  rw [StrictWeakOn.image_iff]
  have ascending : ∀ a ∈ values, ∀ b ∈ values,
      (cellLess .asc a b = true ↔ (newComparable a).lessThan (newComparable b) = true) :=
    fun a inA b inB => by rw [cellLess_asc legible (inside a inA) (inside b inB)]
  cases direction with
  | asc =>
      exact ⟨fun order => order.congr fun a inA b inB => (ascending a inA b inB).symm,
        fun order => order.congr ascending⟩
  | desc =>
      have descending : ∀ a ∈ values, ∀ b ∈ values,
          (cellLess .desc a b = true ↔ (newComparable b).lessThan (newComparable a) = true) :=
        fun a inA b inB => by
          rw [cellLess_desc legible (inside a inA) (inside b inB)]
          exact ascending b inB a inA
      exact ⟨fun order => order.flip.congr fun a inA b inB => (descending b inB a inA).symm,
        fun order => order.flip.congr descending⟩

theorem numbers_and_names_ordered :
    StrictWeakOn
      (fun first second : Value integralExternals => cellLess .asc first second = true)
      (inferType integralExternals '' {cell | cell ∈ ["9", "10", "apple"]}) := by
  refine (order_by_strict_weak_iff_untorn integralExternals ["9", "10", "apple"] .asc ?_).mpr
    (by decide)
  simp only [List.forall_mem_cons]
  exact ⟨fun _ => nofun, fun _ => nofun, fun _ => nofun, fun _ => nofun⟩

/-- The cells `9`, `10` and `1a` are in a cycle. -/
theorem numbers_and_code_in_cycle :
    cellLess .asc (inferType integralExternals "9") (inferType integralExternals "10") = true ∧
      cellLess .asc (inferType integralExternals "10") (inferType integralExternals "1a") = true ∧
      cellLess .asc (inferType integralExternals "1a") (inferType integralExternals "9") =
        true := by
  decide

end Aggregate
end VScale
