import Mathlib.Data.List.Perm.Basic

/-!
# Maps over rearranged lists

A map that settles after two applications and only rearranges a list fixes
every element of it.
-/

namespace Collections

variable {f : α → α} {items : List α}

/-- Every element is a second image, and second images are fixed. -/
theorem fixed_of_map_perm
    (settles : ∀ item, f (f (f item)) = f (f item))
    (rearranged : (items.map f).Perm items) :
    ∀ item ∈ items, f item = item := by
  intro item present
  have image := ((rearranged.map f).trans rearranged).mem_iff.mpr present
  rw [List.map_map] at image
  obtain ⟨origin, _, reached⟩ := List.mem_map.mp image
  rw [← reached]
  exact settles origin

/-- The statement for a map applied inside every list of a list of lists. -/
theorem cells_fixed_of_map_perm
    {rows : List (List α)}
    (settles : ∀ item, f (f (f item)) = f (f item))
    (rearranged : (rows.map fun row => row.map f).Perm rows) :
    ∀ row ∈ rows, ∀ item ∈ row, f item = item := by
  have settlesRow : ∀ row : List α,
      ((row.map f).map f).map f = (row.map f).map f := by
    intro row
    simp only [List.map_map]
    apply List.map_congr_left
    intro item _
    exact settles item
  intro row present item inside
  have fixed : row.map f = row := fixed_of_map_perm settlesRow rearranged row present
  have same : row.map f = row.map id := by
    rw [fixed, List.map_id]
  exact List.map_inj_left.mp same item inside

variable {all : List α}

/-- Mapping keeps a selection of a list a selection of its image. -/
theorem map_subperm_map
    {selected : List α}
    (g : α → β)
    (within : selected.Subperm all) :
    (selected.map g).Subperm (all.map g) := by
  obtain ⟨middle, same, sub⟩ := within
  exact ⟨middle.map g, same.map g, sub.map g⟩

/-- A selection of an image is the image of a selection. -/
theorem exists_map_of_subperm
    {selected : List β}
    {g : α → β}
    (within : selected.Subperm (all.map g)) :
    ∃ chosen : List α, chosen.Subperm all ∧ chosen.map g = selected := by
  obtain ⟨middle, same, sub⟩ := within
  obtain ⟨kept, keptSub, rfl⟩ := List.sublist_map_iff.mp sub
  obtain ⟨chosen, image, order⟩ :=
    (congrFun (congrFun (List.eq_map_comp_perm g) selected) kept).mpr same.symm
  exact ⟨chosen, order.subperm.trans keptSub.subperm, image.symm⟩

end Collections
