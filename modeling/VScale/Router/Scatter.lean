import VScale.Router.Routing

/-!
# The tablets of a scatter

A scatter picks one tablet in every known group and drops the groups whose
picked tablet has no client.
-/

namespace VScale
namespace Router

open Collections Tree

/-- The tablet that a scatter picks for each of a list of groups. -/
def scatterPicks
    (r : Router)
    (qtype : QueryType)
    (inTransaction : Bool) :
    Nat → List String → List (String × Tablet)
  | _, [] => []
  | cursor, key :: keys =>
      match r.shardGroups.lookup key with
      | none => r.scatterPicks qtype inTransaction cursor keys
      | some group =>
          (key, pickedTablet qtype inTransaction cursor group) ::
            r.scatterPicks qtype inTransaction
              (r.pickOne qtype inTransaction cursor group).2 keys

variable (r : Router) (qtype : QueryType) (inTransaction : Bool)

theorem scatterTablets_eq
    (cursor : Nat)
    (keys : List String) :
    (r.scatterTablets qtype inTransaction cursor keys).1 =
      (r.scatterPicks qtype inTransaction cursor keys).filterMap fun pick =>
        r.clients.lookup pick.2.addr := by
  induction keys generalizing cursor with
  | nil => rfl
  | cons key keys ih =>
      unfold scatterTablets scatterPicks
      cases r.shardGroups.lookup key with
      | none => exact ih cursor
      | some group =>
          simp only [pickOne_fst, ih, List.filterMap_cons]
          cases r.clients.lookup (pickedTablet qtype inTransaction cursor group).addr with
          | none | some => rfl

theorem scatterPicks_keys
    (cursor : Nat)
    {keys : List String}
    (known : ∀ key ∈ keys, key ∈ r.shardGroups) :
    (r.scatterPicks qtype inTransaction cursor keys).map Prod.fst = keys := by
  induction keys generalizing cursor with
  | nil => rfl
  | cons key keys ih =>
      obtain ⟨group, found⟩ := Option.isSome_iff_exists.mp
        (AList.lookup_isSome.mpr (known key List.mem_cons_self))
      unfold scatterPicks
      rw [found]
      simp only [List.map_cons]
      rw [ih _ fun other present =>
        known other (List.mem_cons_of_mem key present)]

variable {want : Map String Tablet}

/-- A picked record is registered for its group, or the group has no primary. -/
theorem scatterPicks_registered
    (consistent : Consistent want r)
    (cursor : Nat)
    (keys : List String) :
    ∀ pick ∈ r.scatterPicks qtype inTransaction cursor keys,
      pick.2 = default ∨
        (want.lookup pick.2.addr = some pick.2 ∧ pick.2.groupKey = pick.1) := by
  induction keys generalizing cursor with
  | nil => exact nofun
  | cons key keys ih =>
      unfold scatterPicks
      cases found : r.shardGroups.lookup key with
      | none => exact ih cursor
      | some group =>
          intro pick present
          rcases List.mem_cons.mp present with first | later
          · rw [first]
            exact pickedTablet_registered (consistent.groups key group found)
              qtype inTransaction cursor
          · exact ih _ pick later

/-- A scattered write picks the primary of every group. -/
theorem mem_scatterPicks_write
    (cursor : Nat)
    (keys : List String)
    (pick : String × Tablet) :
    pick ∈ r.scatterPicks .write inTransaction cursor keys ↔
      pick.1 ∈ keys ∧ ∃ group, r.shardGroups.lookup pick.1 = some group ∧
        pick.2 = group.primary := by
  have primary : ∀ cursor group,
      pickedTablet .write inTransaction cursor group = group.primary := by
    intro cursor group
    simp [pickedTablet]
  induction keys generalizing cursor with
  | nil => exact ⟨nofun, fun holds => nomatch holds.1⟩
  | cons key keys ih =>
      unfold scatterPicks
      cases found : r.shardGroups.lookup key with
      | none =>
          simp only [ih, List.mem_cons]
          constructor
          · rintro ⟨listed, rest⟩
            exact ⟨Or.inr listed, rest⟩
          · rintro ⟨first | later, group, known, isPrimary⟩
            · rw [first, found] at known
              cases known
            · exact ⟨later, group, known, isPrimary⟩
      | some group =>
          simp only [List.mem_cons, ih, primary]
          constructor
          · rintro (rfl | ⟨listed, rest⟩)
            · exact ⟨Or.inl rfl, group, found, rfl⟩
            · exact ⟨Or.inr listed, rest⟩
          · rintro ⟨first | later, other, known, isPrimary⟩
            · left
              rw [first, found] at known
              injection known with same
              exact Prod.ext first (isPrimary.trans (by rw [same]))
            · exact Or.inr ⟨later, other, known, isPrimary⟩

/-- The addresses a scatter reaches are those of the picks that have a client. -/
theorem scatterTablets_targets
    (consistent : Consistent want r)
    (cursor : Nat)
    (keys : List String) :
    (r.scatterTablets qtype inTransaction cursor keys).1.map TabletClient.target =
      ((r.scatterPicks qtype inTransaction cursor keys).filter fun pick =>
        (r.clients.lookup pick.2.addr).isSome).map fun pick => pick.2.addr := by
  rw [scatterTablets_eq]
  induction r.scatterPicks qtype inTransaction cursor keys with
  | nil => rfl
  | cons pick picks ih =>
      rw [List.filterMap_cons]
      cases found : r.clients.lookup pick.2.addr with
      | none =>
          rw [List.filter_cons_of_neg (by rw [found]; exact nofun)]
          exact ih
      | some tc =>
          obtain ⟨own, _⟩ := consistent.clients pick.2.addr tc found
          rw [List.filter_cons_of_pos (by rw [found]; rfl)]
          simp only [List.map_cons, own, ih]

/-- Every group picks a tablet that is connected and registered for it. -/
def EveryPickServed (tablets : List Tablet) (cursor : Nat) : Prop :=
  ∀ pick ∈ r.scatterPicks qtype inTransaction cursor r.orderedKeys,
    (r.clients.lookup pick.2.addr).isSome ∧ shardAt tablets pick.2.addr = some pick.1

instance (tablets : List Tablet) (cursor : Nat) :
    Decidable (r.EveryPickServed qtype inTransaction tablets cursor) :=
  inferInstanceAs (Decidable (∀ pick ∈ _, _))

/-- Exactly one of the addresses belongs to each known group. -/
def CoversOnce (tablets : List Tablet) (addrs : List String) : Prop :=
  ∀ shard ∈ r.shardGroups, addrs.countP (fun addr => shardAt tablets addr = some shard) = 1

section Covering

variable {r} {tablets : List Tablet} {cursor : Nat}

theorem scatterPicks_nodup
    (cursor : Nat)
    (consistent : Consistent (wanted tablets) r) :
    ((r.scatterPicks qtype inTransaction cursor r.orderedKeys).map Prod.fst).Nodup ∧
      ∀ shard, shard ∈ (r.scatterPicks qtype inTransaction cursor r.orderedKeys).map Prod.fst ↔
        shard ∈ r.shardGroups := by
  have known : ∀ key ∈ r.orderedKeys, key ∈ r.shardGroups := by
    intro key present
    exact consistent.ordered.mem_iff.mp present
  rw [scatterPicks_keys r qtype inTransaction cursor known]
  exact ⟨consistent.ordered.nodup_iff.mpr r.shardGroups.keys_nodup,
    fun shard => consistent.ordered.mem_iff⟩

section Consistent

variable (consistent : Consistent (wanted tablets) r)
include consistent

/-- A scatter whose picks are all served covers every group once. -/
theorem coversOnce_of_served
    (served : r.EveryPickServed qtype inTransaction tablets cursor) :
    r.CoversOnce tablets
      ((r.scatterTablets qtype inTransaction cursor r.orderedKeys).1.map TabletClient.target) := by
  intro shard known
  obtain ⟨nodup, listed⟩ := scatterPicks_nodup qtype inTransaction cursor consistent
  rw [scatterTablets_targets r qtype inTransaction consistent,
    List.filter_eq_self.mpr fun pick present => (served pick present).1, List.countP_map]
  have own : ∀ pick ∈ r.scatterPicks qtype inTransaction cursor r.orderedKeys,
      ((decide (shardAt tablets pick.2.addr = some shard)) = true ↔
        (pick.1 == shard) = true) := by
    intro pick present
    rw [(served pick present).2]
    simp
  calc
    _ = (r.scatterPicks qtype inTransaction cursor r.orderedKeys).countP
        (fun pick => pick.1 == shard) := List.countP_congr own
    _ = ((r.scatterPicks qtype inTransaction cursor r.orderedKeys).map Prod.fst).count shard := by
      rw [List.count, List.countP_map]
      rfl
    _ = 1 := List.count_eq_one_of_mem nodup ((listed shard).mpr known)

/-- A pick that is registered elsewhere has the empty address. -/
theorem addr_of_foreign_pick
    {pick : String × Tablet}
    (present : pick ∈ r.scatterPicks qtype inTransaction cursor r.orderedKeys)
    (foreign : shardAt tablets pick.2.addr ≠ some pick.1) :
    pick.2.addr = "" := by
  rcases scatterPicks_registered r qtype inTransaction consistent cursor r.orderedKeys pick present
    with missing | ⟨recorded, belongs⟩
  · rw [missing]
    rfl
  · exact absurd (by rw [shardAt, recorded, Option.map_some, belongs]) foreign

/-- A scatter that covers every group has served every pick. -/
theorem served_of_coversOnce
    (covers : r.CoversOnce tablets
      ((r.scatterTablets qtype inTransaction cursor r.orderedKeys).1.map TabletClient.target)) :
    r.EveryPickServed qtype inTransaction tablets cursor := by
  obtain ⟨nodup, listed⟩ := scatterPicks_nodup qtype inTransaction cursor consistent
  have unique : ∀ first ∈ r.scatterPicks qtype inTransaction cursor r.orderedKeys,
      ∀ second ∈ r.scatterPicks qtype inTransaction cursor r.orderedKeys,
        first.1 = second.1 → first = second := by
    intro first firstPresent second secondPresent same
    exact List.inj_on_of_nodup_map nodup firstPresent secondPresent same
  have covered : ∀ pick ∈ r.scatterPicks qtype inTransaction cursor r.orderedKeys,
      ∃ other ∈ r.scatterPicks qtype inTransaction cursor r.orderedKeys,
        (r.clients.lookup other.2.addr).isSome ∧
          shardAt tablets other.2.addr = some pick.1 := by
    intro pick present
    have once := covers pick.1 ((listed pick.1).mp (List.mem_map_of_mem present))
    rw [scatterTablets_targets r qtype inTransaction consistent] at once
    obtain ⟨addr, reached, there⟩ := List.countP_pos_iff.mp (by rw [once]; exact Nat.one_pos)
    obtain ⟨other, kept, rfl⟩ := List.mem_map.mp reached
    obtain ⟨otherPresent, connected⟩ := List.mem_filter.mp kept
    exact ⟨other, otherPresent, connected, of_decide_eq_true there⟩
  have own : ∀ pick ∈ r.scatterPicks qtype inTransaction cursor r.orderedKeys,
      (r.clients.lookup pick.2.addr).isSome → shardAt tablets pick.2.addr = some pick.1 := by
    intro pick present _
    by_contra foreign
    obtain ⟨other, otherPresent, _, there⟩ := covered pick present
    have different : other ≠ pick := by
      rintro rfl
      exact foreign there
    have otherForeign : shardAt tablets other.2.addr ≠ some other.1 := by
      rw [there]
      intro same
      injection same with equal
      exact different (unique other otherPresent pick present equal.symm)
    rw [addr_of_foreign_pick qtype inTransaction consistent otherPresent otherForeign,
      ← addr_of_foreign_pick qtype inTransaction consistent present foreign] at there
    exact foreign there
  intro pick present
  obtain ⟨other, otherPresent, connected, there⟩ := covered pick present
  have belongs := own other otherPresent connected
  rw [there] at belongs
  injection belongs with equal
  have same := unique other otherPresent pick present equal.symm
  rw [same] at connected there
  exact ⟨connected, there⟩

/-- A scattered write reaches the connected primaries, each shard once. -/
theorem scatterTablets_write (cursor : Nat) :
    ∃ served : List (String × Tablet),
      (r.scatterTablets .write inTransaction cursor r.orderedKeys).1.map TabletClient.target =
          served.map (fun pick => pick.2.addr) ∧
        (served.map Prod.fst).Nodup ∧
        ∀ pick, pick ∈ served ↔
          ∃ group, r.shardGroups.lookup pick.1 = some group ∧ pick.2 = group.primary ∧
            (r.clients.lookup group.primary.addr).isSome := by
  refine ⟨_, scatterTablets_targets r .write inTransaction consistent cursor r.orderedKeys,
    (scatterPicks_nodup .write inTransaction cursor consistent).1.sublist
      (List.filter_sublist.map Prod.fst), ?_⟩
  intro pick
  rw [List.mem_filter, mem_scatterPicks_write]
  constructor
  · rintro ⟨⟨_, group, known, isPrimary⟩, connected⟩
    rw [isPrimary] at connected
    exact ⟨group, known, isPrimary, connected⟩
  · rintro ⟨group, known, isPrimary, connected⟩
    have listed : pick.1 ∈ r.orderedKeys := consistent.ordered.mem_iff.mpr
      (AList.lookup_isSome.mp (Option.isSome_iff_exists.mpr ⟨group, known⟩))
    rw [← isPrimary] at connected
    exact ⟨⟨listed, group, known, isPrimary⟩, connected⟩

end Consistent

end Covering

/-- The tablets of a statement that is scattered. -/
theorem route_of_scatter
    (exprString : Expr → String)
    (range : RangeOrder)
    (stmt : Statement)
    (rest : List Statement)
    (plain : Parser.isTxControl stmt = false)
    (scattered : (r.route exprString range (.ok (stmt :: rest)) inTransaction).1.scatter = true) :
    (r.route exprString range (.ok (stmt :: rest)) inTransaction).1.tablets =
      (r.scatterTablets (queryTypeOf stmt) inTransaction
        (scatterCursor exprString r range stmt inTransaction) r.orderedKeys).1 := by
  have known : r.orderedKeys ≠ [] := by
    intro empty
    rw [route, if_pos empty] at scattered
    cases scattered
  rcases route_cases exprString r range stmt rest inTransaction known plain with
    ⟨tc, _, routed⟩ | routed
  · rw [routed] at scattered
    cases scattered
  · rw [routed]
    rfl

theorem route_uncontrolled
    (exprString : Expr → String)
    (range : RangeOrder)
    (stmt : Statement)
    (rest : List Statement)
    (plain : Parser.isTxControl stmt = false) :
    (r.route exprString range (.ok (stmt :: rest)) inTransaction).1.txControl = false := by
  by_cases known : r.orderedKeys = []
  · unfold route
    rw [if_pos known]
  · rcases route_cases exprString r range stmt rest inTransaction known plain with
      ⟨tc, _, routed⟩ | routed
    · rw [routed]
    · rw [routed]
      rfl

end Router
end VScale
