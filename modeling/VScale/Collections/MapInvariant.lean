import VScale.Collections.RangeOrder

/-!
# Properties of all entries of a map

A property of every entry survives inserting an entry that has it and erasing
any entry, and therefore every loop made of such steps.
-/

namespace Collections

/-- A loop over the map meets every key once. -/
theorem Map.nodup_visited
    {κ ν : Type}
    (range : RangeOrder)
    (map : Map κ ν) :
    ((range.visit map.entries).map fun entry => (entry.1, entry.2)).Pairwise
      fun first second => first.1 ≠ second.1 := by
  have distinct : (map.entries.map fun entry => (entry.1, entry.2)).Pairwise
      fun first second => first.1 ≠ second.1 :=
    List.pairwise_map.mpr (List.pairwise_map.mp map.nodupKeys)
  exact distinct.perm ((range.visit_perm map.entries).symm.map _) fun different => different.symm

variable {κ ν : Type} [DecidableEq κ]

/-- Every entry of a map has a property. -/
def Map.All (property : κ → ν → Prop) (map : Map κ ν) : Prop :=
  ∀ key value, map.lookup key = some value → property key value

namespace Map

variable {property : κ → ν → Prop} {map : Map κ ν}

theorem all_empty : All property (∅ : Map κ ν) := by
  intro key value present
  rw [AList.lookup_empty] at present
  cases present

theorem all_insert
    (holds : map.All property)
    (new : property key value) :
    All property (AList.insert key value map) := by
  intro other found present
  by_cases same : other = key
  · subst same
    rw [AList.lookup_insert] at present
    injection present with equal
    rw [← equal]
    exact new
  · rw [AList.lookup_insert_ne same] at present
    exact holds other found present

theorem All.imp
    {weaker : κ → ν → Prop}
    (holds : map.All property)
    (implies : ∀ key value, property key value → weaker key value) :
    map.All weaker := by
  intro key value present
  exact implies key value (holds key value present)

/-- An entry met by a loop over the map has the property. -/
theorem All.of_mem_entries
    (holds : map.All property)
    {entry : Sigma fun _ : κ => ν}
    (present : entry ∈ map.entries) :
    property entry.1 entry.2 :=
  holds entry.1 entry.2 (AList.mem_lookup_iff.mpr present)

/-- The pairs a loop over the map meets are those that lookups find. -/
theorem mem_visited
    (range : RangeOrder)
    (map : Map κ ν)
    (key : κ)
    (value : ν) :
    (key, value) ∈ (range.visit map.entries).map (fun entry => (entry.1, entry.2)) ↔
      map.lookup key = some value := by
  rw [List.mem_map]
  constructor
  · rintro ⟨⟨other, held⟩, visited, same⟩
    obtain ⟨rfl, rfl⟩ := Prod.mk.inj same
    exact AList.mem_lookup_iff.mpr (range.mem_visit.mp visited)
  · intro found
    exact ⟨⟨key, value⟩, range.mem_visit.mpr (AList.mem_lookup_iff.mp found), rfl⟩

end Map

end Collections
