import Mathlib.Data.List.AList
import Mathlib.Data.List.OfFn
import Mathlib.Data.List.FinRange

/-!
# Iteration over maps in an unspecified order

A map is an association list without repeated keys.  A loop over a map visits
its entries in an order the language leaves open, so every loop takes a
permutation for each possible size as an argument, and results quantify over it.
-/

namespace Collections

/-- A map from keys to values. -/
abbrev Map (κ ν : Type) := AList fun _ : κ => ν

/-- The order in which loops over a map of each size visit its entries. -/
structure RangeOrder where
  /-- The permutation used for a map of the given size. -/
  order : (size : Nat) → Equiv.Perm (Fin size)

namespace RangeOrder

/-- Visit entries as they are stored. -/
def stored : RangeOrder where
  order := fun _ => Equiv.refl _

/-- The entries of a list in the order in which a loop visits them. -/
def visit (range : RangeOrder) (entries : List α) : List α :=
  List.ofFn fun index => entries.get (range.order entries.length index)

/-- A loop visits every entry exactly once. -/
theorem visit_perm
    (range : RangeOrder)
    (entries : List α) :
    (range.visit entries).Perm entries := by
  have permuted := Equiv.Perm.ofFn_comp_perm
    (range.order entries.length) (fun index => entries.get index)
  have restored : List.ofFn (fun index => entries.get index) = entries :=
    List.ofFn_get entries
  rw [restored] at permuted
  exact permuted

variable {entries : List α} {entry : α}

@[simp] theorem mem_visit (range : RangeOrder) : entry ∈ range.visit entries ↔ entry ∈ entries :=
  (range.visit_perm entries).mem_iff

@[simp] theorem length_visit
    (range : RangeOrder)
    (entries : List α) :
    (range.visit entries).length = entries.length :=
  (range.visit_perm entries).length_eq

/-- Visit entries as they are stored, except that two of them change places. -/
def swapping (first second : Nat) : RangeOrder where
  order := fun size =>
    if inside : first < size ∧ second < size then
      Equiv.swap ⟨first, inside.1⟩ ⟨second, inside.2⟩
    else Equiv.refl _

/-- A loop may visit any entry at any place. -/
theorem exists_visit_getElem
    (present : entry ∈ entries)
    {place : Nat}
    (inside : place < entries.length) :
    ∃ range : RangeOrder, (range.visit entries)[place]? = some entry := by
  obtain ⟨index, bound, found⟩ := List.getElem_of_mem present
  refine ⟨swapping place index, ?_⟩
  have moved : (swapping place index).order entries.length ⟨place, inside⟩ = ⟨index, bound⟩ := by
    simp [swapping, inside, bound]
  simp only [visit, List.getElem?_ofFn, inside, dif_pos, moved]
  exact congrArg some found

theorem exists_visit_head? (present : entry ∈ entries) :
    ∃ range : RangeOrder, (range.visit entries).head? = some entry := by
  obtain ⟨range, visited⟩ := exists_visit_getElem present (List.length_pos_of_mem present)
  exact ⟨range, by rw [List.head?_eq_getElem?, visited]⟩

theorem exists_visit_getLast? (present : entry ∈ entries) :
    ∃ range : RangeOrder, (range.visit entries).getLast? = some entry := by
  have some_left := List.length_pos_of_mem present
  obtain ⟨range, visited⟩ := exists_visit_getElem present (Nat.sub_one_lt_of_lt some_left)
  exact ⟨range, by rw [List.getLast?_eq_getElem?, length_visit, visited]⟩

end RangeOrder

end Collections
