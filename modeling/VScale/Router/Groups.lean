import Mathlib.Data.List.Induction
import VScale.Collections.MapLoops
import VScale.Router.Sync

/-!
# The shard groups of a topology

The group of a shard is made of the records with its key in the order in which
they are visited: the first one gives the range, the last primary is the primary,
and all others are the replicas.
-/

namespace VScale
namespace Router

open Collections

/-- A record of a primary. -/
def isPrimary (tablet : Tablet) : Bool :=
  tablet.type = "PRIMARY"

/-- The group of records that are visited in order, if there are any. -/
def groupOf (records : List Tablet) : Option ShardGroup :=
  records.head?.map fun first =>
    { keyspace := first.keyspace
      shard := first.shard
      keyRangeStart := first.keyRangeStart
      keyRangeEnd := first.keyRangeEnd
      primary := ((records.filter isPrimary).getLast?).getD default
      replicas := records.filter fun tablet => !isPrimary tablet }

/-- One more record of a group. -/
def enroll (found : Option ShardGroup) (tablet : Tablet) : ShardGroup :=
  let group := found.getD
    { keyspace := tablet.keyspace
      shard := tablet.shard
      keyRangeStart := tablet.keyRangeStart
      keyRangeEnd := tablet.keyRangeEnd }
  if tablet.type = "PRIMARY" then { group with primary := tablet }
  else { group with replicas := group.replicas ++ [tablet] }

theorem enroll_groupOf
    (records : List Tablet)
    (tablet : Tablet) :
    some (enroll (groupOf records) tablet) = groupOf (records ++ [tablet]) := by
  cases records with
  | nil =>
      by_cases primary : tablet.type = "PRIMARY"
      · simp [enroll, groupOf, isPrimary, primary]
      · simp [enroll, groupOf, isPrimary, primary]
  | cons first records =>
      rw [groupOf, groupOf, List.filter_append, List.filter_append]
      by_cases primary : tablet.type = "PRIMARY"
      · simp [enroll, isPrimary, primary]
      · simp [enroll, isPrimary, primary]

theorem foldl_enroll (records : List Tablet) :
    records.foldl (fun found tablet => some (enroll found tablet)) none = groupOf records := by
  induction records using List.reverseRecOn with
  | nil => rfl
  | append_singleton records tablet ih =>
      rw [List.foldl_append, ih]
      exact enroll_groupOf records tablet

/-- The records in the order in which the first loop of an update visits them. -/
def visited (range : RangeOrder) (want : Map String Tablet) : List Tablet :=
  (range.visit want.entries).map Sigma.snd

/-- The visited records of one shard. -/
def recordsOf (range : RangeOrder) (want : Map String Tablet) (key : String) : List Tablet :=
  (visited range want).filter fun tablet => tablet.groupKey = key

/-- The group of every shard after an update. -/
theorem newGroups_lookup
    (order : SyncOrder)
    (want : Map String Tablet)
    (key : String) :
    (newGroups order want).lookup key =
      (groupOf (recordsOf order.wanted want key)).map settleRange := by
  unfold newGroups
  rw [Map.lookup_change]
  have filed : (order.wanted.visit want.entries).foldl
      (fun groups entry => addToGroup groups entry.2) ∅ =
      (visited order.wanted want).foldl (Map.file Tablet.groupKey enroll) ∅ := by
    rw [visited, List.foldl_map]
    rfl
  rw [filed, Map.lookup_foldl_file, AList.lookup_empty, foldl_enroll]
  rfl

/-- The last record with an address. -/
theorem wanted_lookup
    (tablets : List Tablet)
    (addr : String) :
    (wanted tablets).lookup addr =
      (tablets.filter fun tablet => tablet.addr = addr).getLast? := by
  have filed : wanted tablets = tablets.foldl (Map.file Tablet.addr fun _ tablet => tablet) ∅ := rfl
  rw [filed, Map.lookup_foldl_file, AList.lookup_empty]
  generalize tablets.filter (fun tablet => tablet.addr = addr) = records
  induction records using List.reverseRecOn with
  | nil => rfl
  | append_singleton records tablet _ =>
      rw [List.foldl_append, List.getLast?_concat]
      rfl

section Records

variable {tablets : List Tablet} {range : RangeOrder} {key : String} {tablet : Tablet}

/-- The records of an update are visited once each. -/
theorem mem_visited_iff :
    tablet ∈ visited range (wanted tablets) ↔
      (wanted tablets).lookup tablet.addr = some tablet := by
  constructor
  · intro listed
    obtain ⟨entry, stored, rfl⟩ := List.mem_map.mp listed
    have found := AList.mem_lookup_iff.mpr (range.mem_visit.mp stored)
    have own := (wanted_all tablets entry.1 entry.2 found).1
    rw [own]
    exact found
  · intro found
    exact List.mem_map.mpr ⟨⟨tablet.addr, tablet⟩,
      range.mem_visit.mpr (AList.mem_lookup_iff.mp found), rfl⟩

theorem nodup_visited : (visited range (wanted tablets)).Nodup := by
  have addresses : ((visited range (wanted tablets)).map Tablet.addr).Nodup := by
    have same : (visited range (wanted tablets)).map Tablet.addr =
        (range.visit (wanted tablets).entries).map Sigma.fst := by
      rw [visited, List.map_map]
      apply List.map_congr_left
      intro entry stored
      have found := AList.mem_lookup_iff.mpr (range.mem_visit.mp stored)
      exact (wanted_all tablets entry.1 entry.2 found).1
    rw [same]
    exact ((range.visit_perm _).map Sigma.fst).nodup_iff.mpr (wanted tablets).nodupKeys
  exact addresses.of_map

theorem mem_recordsOf_iff :
    tablet ∈ recordsOf range (wanted tablets) key ↔
      (wanted tablets).lookup tablet.addr = some tablet ∧ tablet.groupKey = key := by
  rw [recordsOf, List.mem_filter, mem_visited_iff, decide_eq_true_iff]

theorem nodup_recordsOf : (recordsOf range (wanted tablets) key).Nodup :=
  nodup_visited.filter _

/-- A record that is kept is in the list. -/
theorem mem_of_wanted
    {addr : String}
    (found : (wanted tablets).lookup addr = some tablet) :
    tablet ∈ tablets :=
  (wanted_all tablets addr tablet found).2

end Records

/-- The group that an update makes of the records of a shard. -/
theorem group_of_lookup
    {order : SyncOrder}
    {want : Map String Tablet}
    {key : String}
    {group : ShardGroup}
    (known : (newGroups order want).lookup key = some group) :
    ∃ first, (recordsOf order.wanted want key).head? = some first ∧
      group.primary =
        (((recordsOf order.wanted want key).filter isPrimary).getLast?).getD default ∧
      group.replicas =
        (recordsOf order.wanted want key).filter fun tablet => !isPrimary tablet := by
  rw [newGroups_lookup] at known
  obtain ⟨unsettled, made, rfl⟩ := Option.map_eq_some_iff.mp known
  obtain ⟨first, head, rfl⟩ := Option.map_eq_some_iff.mp made
  obtain ⟨primary, replicas⟩ := settleRange_tablets
    { keyspace := first.keyspace
      shard := first.shard
      keyRangeStart := first.keyRangeStart
      keyRangeEnd := first.keyRangeEnd
      primary := (((recordsOf order.wanted want key).filter isPrimary).getLast?).getD default
      replicas := (recordsOf order.wanted want key).filter fun tablet => !isPrimary tablet }
  exact ⟨first, head, primary, replicas⟩

section Members

variable {tablets : List Tablet} {order : SyncOrder} {key : String} {group : ShardGroup}

section Known

variable (known : (newGroups order (wanted tablets)).lookup key = some group)
include known

/-- A group has no primary, or its primary is a record of a primary of the shard. -/
theorem primary_of_lookup :
    group.primary = default ∨
      (wanted tablets).lookup group.primary.addr = some group.primary ∧
        group.primary.groupKey = key ∧ group.primary.type = "PRIMARY" := by
  obtain ⟨_, _, primary, _⟩ := group_of_lookup known
  cases last : ((recordsOf order.wanted (wanted tablets) key).filter isPrimary).getLast? with
  | none =>
      left
      rw [primary, last]
      rfl
  | some record =>
      right
      rw [last, Option.getD_some] at primary
      obtain ⟨listed, isPrimary⟩ := List.mem_filter.mp (List.mem_of_getLast? last)
      obtain ⟨kept, belongs⟩ := mem_recordsOf_iff.mp listed
      rw [primary]
      exact ⟨kept, belongs, of_decide_eq_true isPrimary⟩

/-- The replicas of a group are the other records of the shard. -/
theorem mem_replicas_iff
    {tablet : Tablet} :
    tablet ∈ group.replicas ↔
      (wanted tablets).lookup tablet.addr = some tablet ∧
        tablet.groupKey = key ∧ tablet.type ≠ "PRIMARY" := by
  obtain ⟨_, _, _, replicas⟩ := group_of_lookup known
  rw [replicas, List.mem_filter, mem_recordsOf_iff, isPrimary, and_assoc]
  simp

theorem nodup_replicas :
    group.replicas.Nodup := by
  obtain ⟨_, _, _, replicas⟩ := group_of_lookup known
  rw [replicas]
  exact nodup_recordsOf.filter _

end Known

end Members

/-- The groups of a router are those of the last update. -/
theorem Reached.groups
    {tablets : List Tablet}
    {r : Router}
    (reached : Reached tablets r) :
    ∃ order, r.shardGroups = newGroups order (wanted tablets) := by
  induction reached with
  | start vs => exact ⟨⟨.stored, .stored, .stored, .stored, .stored⟩, rfl⟩
  | turn cursor _ ih => exact ih
  | sync order dials tablets _ _ => exact ⟨order, rfl⟩

end Router
end VScale
