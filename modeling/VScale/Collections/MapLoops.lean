import VScale.Collections.RangeOrder

/-!
# Loops that change a map

A loop that files items under their keys leaves under each key what it makes of
the items with that key, in order.  A loop that changes every value of a map
leaves the changed values.  A loop that erases entries leaves the others.
-/

namespace Collections
namespace Map

variable {κ ν α : Type} [DecidableEq κ]

/-- File an item under its key, together with what is already there. -/
def file (key : α → κ) (add : Option ν → α → ν) (map : Map κ ν) (item : α) : Map κ ν :=
  map.insert (key item) (add (map.lookup (key item)) item)

/-- What is left under a key is made of the items with that key. -/
theorem lookup_foldl_file
    (key : α → κ)
    (add : Option ν → α → ν)
    (items : List α)
    (map : Map κ ν)
    (sought : κ) :
    (items.foldl (file key add) map).lookup sought =
      (items.filter fun item => key item = sought).foldl (fun found item => some (add found item))
        (map.lookup sought) := by
  induction items generalizing map with
  | nil => rfl
  | cons item items ih =>
      rw [List.foldl_cons, ih, file]
      by_cases same : key item = sought
      · rw [List.filter_cons_of_pos (by simpa using same), List.foldl_cons, ← same,
          AList.lookup_insert]
      · rw [List.filter_cons_of_neg (by simpa using same), AList.lookup_insert_ne (Ne.symm same)]

/-- Change every value that a loop meets. -/
theorem lookup_foldl_change
    (change : ν → ν)
    (entries : List (Sigma fun _ : κ => ν))
    (distinct : (entries.map Sigma.fst).Nodup)
    (map : Map κ ν)
    (sought : κ) :
    (entries.foldl (fun map entry => map.insert entry.1 (change entry.2)) map).lookup sought =
      match entries.find? fun entry => entry.1 = sought with
      | some entry => some (change entry.2)
      | none => map.lookup sought := by
  induction entries generalizing map with
  | nil => rfl
  | cons entry entries ih =>
      obtain ⟨fresh, rest⟩ := List.nodup_cons.mp distinct
      rw [List.foldl_cons, ih rest]
      by_cases same : entry.1 = sought
      · have absent : entries.find? (fun other => other.1 = sought) = none := by
          rw [List.find?_eq_none]
          intro other listed found
          apply fresh
          rw [same, ← of_decide_eq_true found]
          exact List.mem_map_of_mem listed
        rw [List.find?_cons_of_pos (by simpa using same), absent, ← same]
        exact AList.lookup_insert ..
      · rw [List.find?_cons_of_neg (by simpa using same), AList.lookup_insert_ne (Ne.symm same)]

/-- A loop over a whole map changes every value. -/
theorem lookup_change
    (range : RangeOrder)
    (change : ν → ν)
    (map : Map κ ν)
    (sought : κ) :
    ((range.visit map.entries).foldl (fun map entry => map.insert entry.1 (change entry.2))
      map).lookup sought = (map.lookup sought).map change := by
  have distinct : ((range.visit map.entries).map Sigma.fst).Nodup :=
    ((range.visit_perm map.entries).map Sigma.fst).nodup_iff.mpr map.nodupKeys
  rw [lookup_foldl_change change _ distinct]
  cases found : (range.visit map.entries).find? fun entry => entry.1 = sought with
  | some entry =>
      have same : entry.1 = sought := by simpa using List.find?_some found
      have stored := (range.mem_visit).mp (List.mem_of_find?_eq_some found)
      have known : map.lookup entry.1 = some entry.2 := AList.mem_lookup_iff.mpr stored
      rw [← same, known]
      rfl
  | none =>
      cases known : map.lookup sought with
      | none => rfl
      | some value =>
          have stored : (⟨sought, value⟩ : Sigma fun _ : κ => ν) ∈ range.visit map.entries :=
            range.mem_visit.mpr (AList.mem_lookup_iff.mp known)
          exact absurd (decide_eq_true rfl) (List.find?_eq_none.mp found _ stored)

/-- An entry apart from the rest of its map. -/
theorem entries_perm_erase
    {map : Map κ ν}
    {key : κ}
    {value : ν}
    (found : map.lookup key = some value) :
    map.entries.Perm (⟨key, value⟩ :: (map.erase key).entries) := by
  have present : key ∈ map.entries.keys :=
    AList.lookup_isSome.mp (Option.isSome_iff_exists.mpr ⟨value, found⟩)
  obtain ⟨stored, before, after, _, split, rest⟩ := List.exists_of_kerase present
  have listed : (⟨key, stored⟩ : Sigma fun _ : κ => ν) ∈ map.entries := by
    rw [split]
    exact List.mem_append_right before List.mem_cons_self
  have same : stored = value := by
    have known := AList.mem_lookup_iff.mpr listed
    rw [Option.mem_def, found] at known
    exact (Option.some.inj known).symm
  have erased : (map.erase key).entries = before ++ after := rest
  rw [erased, split, same]
  exact List.perm_middle

theorem lookup_foldl_erase
    (keys : List κ)
    (map : Map κ ν)
    (sought : κ) :
    (keys.foldl (fun map key => map.erase key) map).lookup sought =
      if sought ∈ keys then none else map.lookup sought := by
  induction keys generalizing map with
  | nil => simp
  | cons key keys ih =>
      rw [List.foldl_cons, ih]
      by_cases same : sought = key
      · subst same
        simp
      · simp [same, AList.lookup_erase_ne same]

/-- Erased entries and the rest make up a map. -/
theorem entries_perm_foldl_erase
    (entries : List (Sigma fun _ : κ => ν))
    (map : Map κ ν)
    (distinct : (entries.map Sigma.fst).Nodup)
    (stored : ∀ entry ∈ entries, map.lookup entry.1 = some entry.2) :
    map.entries.Perm
      (entries ++ ((entries.map Sigma.fst).foldl (fun map key => map.erase key) map).entries) := by
  induction entries generalizing map with
  | nil => exact List.Perm.refl _
  | cons entry entries ih =>
      obtain ⟨fresh, rest⟩ := List.nodup_cons.mp distinct
      refine (entries_perm_erase (stored entry List.mem_cons_self)).trans ?_
      apply List.Perm.cons entry
      apply ih (map.erase entry.1) rest
      intro other listed
      have different : other.1 ≠ entry.1 := by
        intro same
        exact fresh (same ▸ List.mem_map_of_mem listed)
      rw [AList.lookup_erase_ne different]
      exact stored other (List.mem_cons_of_mem entry listed)

end Map
end Collections
