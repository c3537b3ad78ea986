import Mathlib.Data.List.MinMax
import Mathlib.Data.List.ReduceOption
import Mathlib.Order.WithBot

/-!
# Extremes of partly missing values

Cells are values with a greatest element for a missing one.  The least cell is
the least present value.  The greatest cell is the greatest present value only
when nothing is missing or nothing is present.
-/

namespace Collections

/-- A value that may be missing, as a cell. -/
def orTop : Option α → WithTop α
  | none => ⊤
  | some value => value

variable {value : Option α} {cells : List (WithTop α)}

theorem orTop_eq_top_iff : orTop value = ⊤ ↔ value = none := by
  cases value with
  | none | some => simp [orTop]

theorem orTop_eq_coe_iff {other : α} : orTop value = other ↔ value = some other := by
  cases value with
  | none | some => simp [orTop]

/-- The values that are present. -/
def present (cells : List (WithTop α)) : List α :=
  List.reduceOption cells

@[simp]
theorem present_top_cons (cells : List (WithTop α)) : present (⊤ :: cells) = present cells :=
  rfl

@[simp]
theorem present_coe_cons
    (value : α)
    (cells : List (WithTop α)) :
    present (value :: cells) = value :: present cells :=
  rfl

theorem present_append (first second : List (WithTop α)) :
    present (first ++ second) = present first ++ present second :=
  List.reduceOption_append first second

theorem present_perm
    {first second : List (WithTop α)}
    (same : first.Perm second) :
    (present first).Perm (present second) :=
  same.filterMap id

theorem mem_present {value : α} : value ∈ present cells ↔ (value : WithTop α) ∈ cells :=
  List.reduceOption_mem_iff

theorem present_eq_nil_iff : present cells = [] ↔ ∀ cell ∈ cells, cell = ⊤ := by
  rw [List.eq_nil_iff_forall_not_mem]
  constructor
  · intro absent cell inside
    cases cell with
    | top => rfl
    | coe value => exact absurd (mem_present.mpr inside) (absent value)
  · intro missing value inside
    exact WithTop.coe_ne_top (missing value (mem_present.mp inside))

/-- The extreme of cells that are all missing is missing. -/
theorem getD_top_of_missing
    {extreme : Option (WithTop α)}
    (missing : ∀ cell ∈ cells, cell = ⊤)
    (among : ∀ cell, extreme = some cell → cell ∈ cells) :
    extreme.getD ⊤ = ⊤ := by
  cases extreme with
  | none => rfl
  | some cell => exact missing cell (among cell rfl)

variable [LinearOrder α]

/-- The greatest element depends on the elements alone. -/
theorem max?_congr
    {first second : List α}
    (same : ∀ value, value ∈ first ↔ value ∈ second) :
    first.max? = second.max? := by
  cases greatest : second.max? with
  | none =>
      rw [List.max?_eq_none_iff] at greatest ⊢
      rw [List.eq_nil_iff_forall_not_mem] at greatest ⊢
      intro value present
      exact greatest value ((same value).mp present)
  | some value =>
      obtain ⟨inside, upper⟩ := List.max?_eq_some_iff.mp greatest
      refine List.max?_eq_some_iff.mpr ⟨(same value).mpr inside, ?_⟩
      intro other present
      exact upper other ((same other).mp present)

theorem min?_congr
    {first second : List α}
    (same : ∀ value, value ∈ first ↔ value ∈ second) :
    first.min? = second.min? :=
  @max?_congr αᵒᵈ _ first second same

theorem min?_getD_top (cells : List (WithTop α)) :
    cells.min?.getD ⊤ = orTop (present cells).min? := by
  cases least : (present cells).min? with
  | none =>
      have missing := present_eq_nil_iff.mp (List.min?_eq_none_iff.mp least)
      exact getD_top_of_missing missing fun cell found => (List.min?_eq_some_iff.mp found).1
  | some value =>
      obtain ⟨inside, lower⟩ := List.min?_eq_some_iff.mp least
      have found : cells.min? = some (value : WithTop α) := by
        rw [List.min?_eq_some_iff]
        refine ⟨mem_present.mp inside, ?_⟩
        intro cell there
        cases cell with
        | top => exact le_top
        | coe other => exact WithTop.coe_le_coe.mpr (lower other (mem_present.mpr there))
      rw [found]
      rfl

theorem max?_getD_top_iff (cells : List (WithTop α)) :
    cells.max?.getD ⊤ = orTop (present cells).max? ↔
      ⊤ ∉ cells ∨ ∀ cell ∈ cells, cell = ⊤ := by
  cases greatest : (present cells).max? with
  | none =>
      have missing := present_eq_nil_iff.mp (List.max?_eq_none_iff.mp greatest)
      have top := getD_top_of_missing missing fun cell found => (List.max?_eq_some_iff.mp found).1
      exact iff_of_true top (.inr missing)
  | some value =>
      obtain ⟨inside, upper⟩ := List.max?_eq_some_iff.mp greatest
      have there := mem_present.mp inside
      have someValue : ¬ ∀ cell ∈ cells, cell = ⊤ := fun missing =>
        WithTop.coe_ne_top (missing value there)
      rw [or_iff_left someValue]
      constructor
      · intro same missing
        have found : cells.max? = some ⊤ := by
          rw [List.max?_eq_some_iff]
          exact ⟨missing, fun _ _ => le_top⟩
        rw [found] at same
        exact WithTop.top_ne_coe same
      · intro complete
        have found : cells.max? = some (value : WithTop α) := by
          rw [List.max?_eq_some_iff]
          refine ⟨there, ?_⟩
          intro cell listed
          cases cell with
          | top => exact absurd listed complete
          | coe other => exact WithTop.coe_le_coe.mpr (upper other (mem_present.mpr listed))
        rw [found]
        rfl

/-- The greatest of the greatest values of the parts. -/
theorem max?_present_map_max? (parts : List (List α)) :
    (present (parts.map fun part => orTop part.max?)).max? = parts.flatten.max? := by
  cases greatest : parts.flatten.max? with
  | none =>
      rw [List.max?_eq_none_iff, List.flatten_eq_nil_iff] at greatest
      rw [List.max?_eq_none_iff, present_eq_nil_iff]
      intro cell inside
      obtain ⟨part, listed, rfl⟩ := List.mem_map.mp inside
      rw [greatest part listed]
      rfl
  | some value =>
      obtain ⟨inside, upper⟩ := List.max?_eq_some_iff.mp greatest
      obtain ⟨part, listed, there⟩ := List.mem_flatten.mp inside
      rw [List.max?_eq_some_iff]
      constructor
      · refine mem_present.mpr (List.mem_map.mpr ⟨part, listed, ?_⟩)
        rw [orTop_eq_coe_iff]
        exact List.max?_eq_some_iff.mpr ⟨there, fun other among =>
          upper other (List.mem_flatten.mpr ⟨part, listed, among⟩)⟩
      · intro other found
        obtain ⟨source, sourceListed, best⟩ := List.mem_map.mp (mem_present.mp found)
        have member := (List.max?_eq_some_iff.mp (orTop_eq_coe_iff.mp best)).1
        exact upper other (List.mem_flatten.mpr ⟨source, sourceListed, member⟩)

/-- The least of the least values of the parts. -/
theorem min?_present_map_min? (parts : List (List α)) :
    (present (parts.map fun part => orTop part.min?)).min? = parts.flatten.min? :=
  @max?_present_map_max? αᵒᵈ _ parts

end Collections
