import VScale.Collections.MapInvariant
import VScale.Router.Defs

/-!
# Router states reached by topology updates

After any sequence of updates every client belongs to a registered address, and
every tablet of a shard group is the record registered under its address.
-/

namespace VScale
namespace Router

open Collections

/-- The shard of the tablet registered under an address. -/
def shardAt (tablets : List Tablet) (addr : String) : Option String :=
  ((wanted tablets).lookup addr).map Tablet.groupKey

/-- Router states after updates, the last of them with the given records.
Reads in between advance the replica cursor. -/
inductive Reached : List Tablet → Router → Prop
  | start (vs : VSchema) : Reached [] (newRouter vs)
  | turn {tablets : List Tablet} {r : Router} (cursor : Nat) (earlier : Reached tablets r) :
      Reached tablets { r with replicaCursor := cursor }
  | sync {previous : List Tablet} {r : Router} (order : SyncOrder) (dials : String → Bool)
      (tablets : List Tablet) (earlier : Reached previous r) :
      Reached tablets (r.sync order dials tablets)

/-- A group whose tablets are registered records of its shard. -/
structure GroupOf (want : Map String Tablet) (key : String) (group : ShardGroup) : Prop where
  primary : group.primary = default ∨
    (want.lookup group.primary.addr = some group.primary ∧ group.primary.groupKey = key)
  replicas : ∀ tablet ∈ group.replicas,
    want.lookup tablet.addr = some tablet ∧ tablet.groupKey = key

/-- A client that reaches the registered address it is kept under. -/
def ClientOf (want : Map String Tablet) (addr : String) (tc : TabletClient) : Prop :=
  tc.target = addr ∧ addr ∈ want

/-- What holds of a router after an update to the given records. -/
structure Consistent (want : Map String Tablet) (r : Router) : Prop where
  ordered : r.orderedKeys.Perm r.shardGroups.keys
  clients : r.clients.All (ClientOf want)
  groups : r.shardGroups.All (GroupOf want)

/-- Records are found under their own address. -/
theorem wanted_all (tablets : List Tablet) :
    (wanted tablets).All fun addr tablet => tablet.addr = addr ∧ tablet ∈ tablets := by
  unfold wanted
  apply List.foldlRecOn
  · exact Map.all_empty
  · intro want holds tablet present
    exact Map.all_insert holds ⟨rfl, present⟩

variable {want : Map String Tablet}

theorem groupOf_addToGroup
    {groups : Map String ShardGroup}
    {tablet : Tablet}
    (holds : groups.All (GroupOf want))
    (registered : want.lookup tablet.addr = some tablet) :
    (addToGroup groups tablet).All (GroupOf want) := by
  have base : GroupOf want tablet.groupKey ((groups.lookup tablet.groupKey).getD
      { keyspace := tablet.keyspace
        shard := tablet.shard
        keyRangeStart := tablet.keyRangeStart
        keyRangeEnd := tablet.keyRangeEnd }) := by
    cases found : groups.lookup tablet.groupKey with
    | none =>
        refine ⟨Or.inl rfl, ?_⟩
        intro replica present
        cases present
    | some group => exact holds tablet.groupKey group found
  unfold addToGroup
  apply Map.all_insert holds
  split
  · exact ⟨Or.inr ⟨registered, rfl⟩, base.replicas⟩
  · refine ⟨base.primary, ?_⟩
    intro replica present
    rcases List.mem_append.mp present with earlier | new
    · exact base.replicas replica earlier
    · rw [List.mem_singleton.mp new]
      exact ⟨registered, rfl⟩

/-- Settling the range changes no tablet. -/
theorem settleRange_tablets (group : ShardGroup) :
    (settleRange group).primary = group.primary ∧
      (settleRange group).replicas = group.replicas := by
  unfold settleRange
  split
  · split
    · exact ⟨rfl, rfl⟩
    · exact ⟨rfl, rfl⟩
  · split
    · exact ⟨rfl, rfl⟩
    · split
      · exact ⟨rfl, rfl⟩
      · exact ⟨rfl, rfl⟩

theorem groupOf_settleRange
    {key : String}
    {group : ShardGroup}
    (holds : GroupOf want key group) :
    GroupOf want key (settleRange group) := by
  obtain ⟨samePrimary, sameReplicas⟩ := settleRange_tablets group
  refine ⟨?_, ?_⟩
  · rw [samePrimary]
    exact holds.primary
  · rw [sameReplicas]
    exact holds.replicas

theorem newGroups_all
    (order : SyncOrder)
    (recorded : want.All fun addr tablet => tablet.addr = addr) :
    (newGroups order want).All (GroupOf want) := by
  have built : ((order.wanted.visit want.entries).foldl
      (fun groups entry => addToGroup groups entry.2)
      (∅ : Map String ShardGroup)).All (GroupOf want) := by
    apply List.foldlRecOn
    · exact Map.all_empty
    · intro groups holds entry present
      apply groupOf_addToGroup holds
      have stored : entry ∈ want.entries := (RangeOrder.mem_visit _).mp present
      have found := AList.mem_lookup_iff.mpr stored
      have own : entry.2.addr = entry.1 := recorded.of_mem_entries stored
      rw [own]
      exact found
  unfold newGroups
  apply List.foldlRecOn
  · exact built
  · intro groups holds entry present
    apply Map.all_insert holds
    exact groupOf_settleRange (built.of_mem_entries ((RangeOrder.mem_visit _).mp present))

/-- After the loop over the old clients only registered addresses are left. -/
theorem clientOf_dropClients
    (entries : List (Sigma fun _ : String => TabletClient))
    (r : Router)
    (listed : r.clients.All fun addr tc =>
      tc.target = addr ∧ (addr ∈ want ∨ addr ∈ entries.map Sigma.fst)) :
    (entries.foldl (dropClient want) r).clients.All (ClientOf want) := by
  induction entries generalizing r with
  | nil =>
      intro addr tc found
      obtain ⟨own, registered | absent⟩ := listed addr tc found
      · exact ⟨own, registered⟩
      · cases absent
  | cons entry entries ih =>
      rw [List.foldl_cons]
      apply ih
      unfold dropClient
      split
      · rename_i registered
        intro addr tc found
        obtain ⟨own, known | position⟩ := listed addr tc found
        · exact ⟨own, Or.inl known⟩
        · rcases List.mem_cons.mp position with head | tail
          · rw [head] at own ⊢
            exact ⟨own, Or.inl registered⟩
          · exact ⟨own, Or.inr tail⟩
      · intro addr tc found
        by_cases same : addr = entry.1
        · rw [same, AList.lookup_erase] at found
          cases found
        · rw [AList.lookup_erase_ne same] at found
          obtain ⟨own, known | position⟩ := listed addr tc found
          · exact ⟨own, Or.inl known⟩
          · rcases List.mem_cons.mp position with head | tail
            · exact absurd head same
            · exact ⟨own, Or.inr tail⟩

theorem clientOf_addClients
    (dials : String → Bool)
    (addrs : List String)
    (r : Router)
    (holds : r.clients.All (ClientOf want))
    (registered : ∀ addr ∈ addrs, addr ∈ want) :
    (addrs.foldl (addClient dials) r).clients.All (ClientOf want) := by
  refine List.foldlRecOn (motive := fun current => current.clients.All (ClientOf want))
    addrs (addClient dials) holds ?_
  intro current kept addr present
  unfold addClient
  split
  · exact kept
  · split
    · exact Map.all_insert kept ⟨rfl, registered addr present⟩
    · exact kept

variable {r : Router}

/-- One update makes the router consistent with the new records. -/
theorem sync_consistent
    (order : SyncOrder)
    (dials : String → Bool)
    (tablets : List Tablet)
    (targets : r.clients.All fun addr tc => tc.target = addr) :
    Consistent (wanted tablets) (r.sync order dials tablets) := by
  have dropped : ((order.dropped.visit r.clients.entries).foldl
      (dropClient (wanted tablets)) r).clients.All (ClientOf (wanted tablets)) := by
    apply clientOf_dropClients
    intro addr tc found
    refine ⟨targets addr tc found, Or.inr (List.mem_map.mpr ⟨⟨addr, tc⟩, ?_, rfl⟩)⟩
    exact (RangeOrder.mem_visit _).mpr (AList.mem_lookup_iff.mp found)
  have connected := clientOf_addClients dials
    (order.added.visit (wanted tablets).keys) _ dropped (by
      intro addr present
      exact (RangeOrder.mem_visit _).mp present)
  refine ⟨RangeOrder.visit_perm _ _, connected, ?_⟩
  exact newGroups_all order ((wanted_all tablets).imp fun _ _ known => known.1)

theorem Reached.consistent
    {tablets : List Tablet}
    (reached : Reached tablets r) :
    Consistent (wanted tablets) r := by
  induction reached with
  | start vs => exact ⟨List.Perm.refl _, Map.all_empty, Map.all_empty⟩
  | turn cursor _ ih =>
      exact ⟨ih.ordered, ih.clients,
        ih.groups⟩
  | sync order dials tablets _ ih =>
      exact sync_consistent order dials tablets
        (ih.clients.imp fun _ _ known => known.1)

end Router
end VScale
