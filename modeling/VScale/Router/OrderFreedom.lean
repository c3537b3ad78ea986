import VScale.Router.Groups

/-!
# Topologies that determine the shard groups

An update goes through its records in the order of a list and then in the order of
a map.  The groups it makes are the same for all orders exactly if no two records
share an address, no shard has two primaries, and the records of a shard whose own
range counts agree on it.
-/

namespace VScale

/-- The range that a record announces. -/
def Tablet.keyRange (tablet : Tablet) : Int × Int :=
  (tablet.keyRangeStart, tablet.keyRangeEnd)

/-- The range of a group. -/
def ShardGroup.keyRange (group : ShardGroup) : Int × Int :=
  (group.keyRangeStart, group.keyRangeEnd)

namespace Router

open Collections

/-- Groups with the same primary, the same range and the same replicas. -/
structure SameGroup (first second : ShardGroup) : Prop where
  primary : first.primary = second.primary
  keyRange : first.keyRange = second.keyRange
  replicas : first.replicas.Perm second.replicas

/-- Updates to the records in any order, with any order of all maps, make the same
groups. -/
def OrderFree (tablets : List Tablet) : Prop :=
  ∀ (first second : List Tablet), first.Perm tablets → second.Perm tablets →
    ∀ (r other : Router) (order otherOrder : SyncOrder) (dials otherDials : String → Bool)
      (key : String),
      Option.Rel SameGroup
        ((r.sync order dials first).shardGroups.lookup key)
        ((other.sync otherOrder otherDials second).shardGroups.lookup key)

/-- A record whose own range does not count: it announces none, and the range of its
group is taken from another record. -/
def Defers (tablets : List Tablet) (tablet : Tablet) : Prop :=
  tablet.keyRange = (0, 0) ∧
    (tablet.type = "PRIMARY" ∧ tablet.addr = "" ∨
      ∃ primary ∈ tablets, primary ≠ tablet ∧ primary.groupKey = tablet.groupKey ∧
        primary.type = "PRIMARY" ∧ primary.addr ≠ "")

/-- Records that leave no choice to the order of loops. -/
structure Unambiguous (tablets : List Tablet) : Prop where
  addresses : ∀ tablet ∈ tablets, ∀ other ∈ tablets, tablet.addr = other.addr → tablet = other
  primaries : ∀ tablet ∈ tablets, ∀ other ∈ tablets, tablet.groupKey = other.groupKey →
    tablet.type = "PRIMARY" → other.type = "PRIMARY" → tablet = other
  ranges : ∀ tablet ∈ tablets, ∀ other ∈ tablets, tablet.groupKey = other.groupKey →
    ¬ Defers tablets tablet → ¬ Defers tablets other → tablet.keyRange = other.keyRange

theorem keyRange_settleRange (group : ShardGroup) :
    (settleRange group).keyRange =
      if group.keyRange = (0, 0) then
        if group.primary.addr ≠ "" then group.primary.keyRange
        else (group.replicas.head?.map Tablet.keyRange).getD (0, 0)
      else group.keyRange := by
  unfold settleRange ShardGroup.keyRange Tablet.keyRange
  by_cases addressed : group.primary.addr ≠ ""
  · by_cases missing : group.keyRangeStart = 0 ∧ group.keyRangeEnd = 0
    · simp [addressed, missing]
    · simp [addressed, missing]
  · cases group.replicas with
    | nil | cons =>
        by_cases missing : group.keyRangeStart = 0 ∧ group.keyRangeEnd = 0
        · simp [addressed, missing]
        · simp [addressed, missing]

variable {group : ShardGroup} {records tablets : List Tablet}

/-- What a group is made of. -/
theorem groupOf_eq_some (made : groupOf records = some group) :
    ∃ first rest, records = first :: rest ∧ group.keyRange = first.keyRange ∧
      group.primary = ((records.filter isPrimary).getLast?).getD default ∧
      group.replicas = records.filter fun tablet => !isPrimary tablet := by
  obtain ⟨first, head, rfl⟩ := Option.map_eq_some_iff.mp made
  obtain ⟨rest, rfl⟩ := List.head?_eq_some_iff.mp head
  exact ⟨first, rest, rfl, rfl, rfl, rfl⟩

/-- A primary with an address is one of the records. -/
theorem primary_mem_of_addressed
    (made : groupOf records = some group)
    (addressed : group.primary.addr ≠ "") :
    group.primary ∈ records ∧ group.primary.type = "PRIMARY" := by
  obtain ⟨_, _, _, _, chosen, _⟩ := groupOf_eq_some made
  cases last : (records.filter isPrimary).getLast? with
  | none =>
      rw [chosen, last] at addressed
      exact absurd rfl addressed
  | some primary =>
      rw [last, Option.getD_some] at chosen
      obtain ⟨present, isPrimary⟩ := List.mem_filter.mp (List.mem_of_getLast? last)
      rw [chosen]
      exact ⟨present, of_decide_eq_true isPrimary⟩

section Ranges

variable {tablets records : List Tablet} {key : String} {group : ShardGroup}
variable (listed : ∀ tablet, tablet ∈ records ↔ tablet ∈ tablets ∧ tablet.groupKey = key)
variable (single : ∀ tablet ∈ tablets, ∀ other ∈ tablets, tablet.groupKey = other.groupKey →
  tablet.type = "PRIMARY" → other.type = "PRIMARY" → tablet = other)
variable (made : groupOf records = some group)

include listed single

variable {tablet : Tablet}

/-- The only primary of a shard counts if it has an address. -/
theorem not_defers_of_primary
    (present : tablet ∈ records)
    (primary : tablet.type = "PRIMARY")
    (addressed : tablet.addr ≠ "") :
    ¬ Defers tablets tablet := by
  rintro ⟨_, ⟨_, unaddressed⟩ | ⟨other, known, different, same, isPrimary, _⟩⟩
  · exact addressed unaddressed
  · exact different
      (single other known tablet ((listed tablet).mp present).1 same isPrimary primary)

include made

/-- The only primary of a shard is the primary of its group. -/
theorem primary_of_mem
    (present : tablet ∈ records)
    (primary : tablet.type = "PRIMARY") : group.primary = tablet := by
  obtain ⟨_, _, _, _, chosen, _⟩ := groupOf_eq_some made
  have kept : tablet ∈ records.filter isPrimary :=
    List.mem_filter.mpr ⟨present, decide_eq_true primary⟩
  obtain ⟨last, found⟩ := Option.isSome_iff_exists.mp
    (List.getLast?_isSome.mpr (List.ne_nil_of_mem kept))
  rw [found, Option.getD_some] at chosen
  obtain ⟨lastPresent, lastPrimary⟩ := List.mem_filter.mp (List.mem_of_getLast? found)
  obtain ⟨known, belongs⟩ := (listed tablet).mp present
  obtain ⟨lastKnown, lastBelongs⟩ := (listed last).mp lastPresent
  rw [chosen]
  exact single last lastKnown tablet known (lastBelongs.trans belongs.symm)
    (of_decide_eq_true lastPrimary) primary

/-- Replicas count if the primary is missing or has no address. -/
theorem not_defers_of_replica
    (present : tablet ∈ records)
    (secondary : tablet.type ≠ "PRIMARY")
    (unaddressed : group.primary.addr = "") :
    ¬ Defers tablets tablet := by
  rintro ⟨_, ⟨primary, _⟩ | ⟨primary, known, _, same, isPrimary, addressed⟩⟩
  · exact secondary primary
  · have sibling : primary ∈ records :=
      (listed primary).mpr ⟨known, same.trans ((listed tablet).mp present).2⟩
    rw [primary_of_mem listed single made sibling isPrimary] at unaddressed
    exact addressed unaddressed

/-- A record whose range counts gives it to its group when it is visited first. -/
theorem keyRange_of_first
    {first : Tablet}
    {rest : List Tablet}
    (begins : records = first :: rest)
    (counts : ¬ Defers tablets first) : (settleRange group).keyRange = first.keyRange := by
  obtain ⟨head, tail, split, range, chosen, replicas⟩ := groupOf_eq_some made
  obtain ⟨rfl, rfl⟩ := List.cons.inj (split.symm.trans begins)
  have present : head ∈ records := by
    rw [split]
    exact List.mem_cons_self
  rw [keyRange_settleRange, range]
  by_cases missing : head.keyRange = (0, 0)
  · rw [if_pos missing]
    by_cases primary : head.type = "PRIMARY"
    · have own := primary_of_mem listed single made present primary
      rw [own, if_pos]
      intro unaddressed
      exact counts ⟨missing, Or.inl ⟨primary, unaddressed⟩⟩
    · by_cases addressed : group.primary.addr ≠ ""
      · obtain ⟨member, isPrimary⟩ := primary_mem_of_addressed made addressed
        obtain ⟨known, belongs⟩ := (listed group.primary).mp member
        have different : group.primary ≠ head := by
          rintro same
          exact primary (same ▸ isPrimary)
        exact absurd ⟨missing, Or.inr ⟨group.primary, known, different,
          belongs.trans ((listed head).mp present).2.symm, isPrimary, addressed⟩⟩ counts
      · rw [if_neg addressed, replicas, split, List.filter_cons_of_pos (by simpa [isPrimary])]
        rfl
  · rw [if_neg missing]

/-- The range of a group is that of a record that counts, or of the only record. -/
theorem keyRange_of_record :
    ∃ tablet ∈ records, (settleRange group).keyRange = tablet.keyRange ∧
      (¬ Defers tablets tablet ∨ ∀ other ∈ records, other = tablet) := by
  obtain ⟨first, rest, split, range, chosen, replicas⟩ := groupOf_eq_some made
  have present : first ∈ records := by
    rw [split]
    exact List.mem_cons_self
  by_cases defers : Defers tablets first
  · have missing := defers.1
    have settled := keyRange_settleRange group
    rw [range, if_pos missing] at settled
    by_cases addressed : group.primary.addr ≠ ""
    · obtain ⟨member, isPrimary⟩ := primary_mem_of_addressed made addressed
      rw [if_pos addressed] at settled
      exact ⟨group.primary, member, settled,
        Or.inl (not_defers_of_primary listed single member isPrimary addressed)⟩
    · rw [if_neg addressed] at settled
      cases found : group.replicas.head? with
      | some replica =>
          rw [found] at settled
          have kept := List.mem_of_head? found
          rw [replicas] at kept
          obtain ⟨member, secondary⟩ := List.mem_filter.mp kept
          refine ⟨replica, member, settled, Or.inl ?_⟩
          apply not_defers_of_replica listed single made member
          · simpa [isPrimary] using secondary
          · exact not_not.mp addressed
      | none =>
          rw [found] at settled
          have primaries : ∀ tablet ∈ records, tablet.type = "PRIMARY" := by
            intro tablet member
            by_contra secondary
            have kept : tablet ∈ group.replicas := by
              rw [replicas]
              exact List.mem_filter.mpr ⟨member, by simpa [isPrimary] using secondary⟩
            rw [List.head?_eq_none_iff.mp found] at kept
            cases kept
          refine ⟨first, present, settled.trans missing.symm, Or.inr ?_⟩
          intro other member
          obtain ⟨known, belongs⟩ := (listed other).mp member
          obtain ⟨firstKnown, firstBelongs⟩ := (listed first).mp present
          exact single other known first firstKnown (belongs.trans firstBelongs.symm)
            (primaries other member) (primaries first present)
  · exact ⟨first, present, keyRange_of_first listed single made split defers, Or.inl defers⟩

end Ranges

/-- Records with different addresses are all kept. -/
theorem wanted_of_mem
    (addresses : ∀ tablet ∈ tablets, ∀ other ∈ tablets, tablet.addr = other.addr → tablet = other)
    {tablet : Tablet}
    (present : tablet ∈ tablets) :
    (wanted tablets).lookup tablet.addr = some tablet := by
  have kept : tablet ∈ tablets.filter fun other => other.addr = tablet.addr :=
    List.mem_filter.mpr ⟨present, decide_eq_true rfl⟩
  obtain ⟨last, found⟩ := Option.isSome_iff_exists.mp
    (List.getLast?_isSome.mpr (List.ne_nil_of_mem kept))
  obtain ⟨lastPresent, same⟩ := List.mem_filter.mp (List.mem_of_getLast? found)
  rw [wanted_lookup, found,
    addresses last lastPresent tablet present (of_decide_eq_true same)]

/-- The records of a shard, whatever the order of the list. -/
theorem mem_recordsOf_perm
    {listing : List Tablet}
    (addresses : ∀ tablet ∈ tablets, ∀ other ∈ tablets, tablet.addr = other.addr → tablet = other)
    (same : listing.Perm tablets)
    (range : RangeOrder)
    (key : String)
    (tablet : Tablet) :
    tablet ∈ recordsOf range (wanted listing) key ↔ tablet ∈ tablets ∧ tablet.groupKey = key := by
  rw [mem_recordsOf_iff]
  apply and_congr_left'
  rw [← same.mem_iff]
  constructor
  · exact mem_of_wanted
  · apply wanted_of_mem
    intro first firstPresent second secondPresent
    exact addresses first (same.mem_iff.mp firstPresent) second (same.mem_iff.mp secondPresent)

/-- Unambiguous records make one group in all orders. -/
theorem sameGroup_of_perm
    {others : List Tablet}
    {key : String}
    {other : ShardGroup}
    (clear : Unambiguous tablets)
    (listed : ∀ tablet, tablet ∈ records ↔ tablet ∈ tablets ∧ tablet.groupKey = key)
    (same : records.Perm others)
    (made : groupOf records = some group)
    (otherMade : groupOf others = some other) :
    SameGroup (settleRange group) (settleRange other) := by
  have otherListed : ∀ tablet, tablet ∈ others ↔ tablet ∈ tablets ∧ tablet.groupKey = key := by
    intro tablet
    rw [← same.mem_iff, listed]
  obtain ⟨_, _, _, _, chosen, replicas⟩ := groupOf_eq_some made
  obtain ⟨_, _, _, _, otherChosen, otherReplicas⟩ := groupOf_eq_some otherMade
  refine ⟨?_, ?_, ?_⟩
  · rw [(settleRange_tablets group).1, (settleRange_tablets other).1]
    cases primaries : records.filter isPrimary with
    | nil =>
        have noOthers : others.filter isPrimary = [] := by
          have permuted := same.filter isPrimary
          rw [primaries] at permuted
          exact permuted.nil_eq.symm
        rw [chosen, otherChosen, primaries, noOthers]
    | cons primary rest =>
        have found : primary ∈ records.filter isPrimary := by
          rw [primaries]
          exact List.mem_cons_self
        obtain ⟨present, marked⟩ := List.mem_filter.mp found
        rw [primary_of_mem listed clear.primaries made present (of_decide_eq_true marked),
          primary_of_mem otherListed clear.primaries otherMade (same.mem_iff.mp present)
            (of_decide_eq_true marked)]
  · obtain ⟨tablet, present, range, counts | only⟩ :=
      keyRange_of_record listed clear.primaries made
    · obtain ⟨second, otherPresent, otherRange, otherCounts | otherOnly⟩ :=
        keyRange_of_record otherListed clear.primaries otherMade
      · obtain ⟨known, belongs⟩ := (listed tablet).mp present
        obtain ⟨otherKnown, otherBelongs⟩ := (otherListed second).mp otherPresent
        rw [range, otherRange]
        exact clear.ranges tablet known second otherKnown (belongs.trans otherBelongs.symm)
          counts otherCounts
      · rw [range, otherRange, otherOnly tablet (same.mem_iff.mp present)]
    · obtain ⟨second, otherPresent, otherRange, _⟩ :=
        keyRange_of_record otherListed clear.primaries otherMade
      rw [range, otherRange, only second (same.mem_iff.mpr otherPresent)]
  · rw [(settleRange_tablets group).2, (settleRange_tablets other).2, replicas, otherReplicas]
    exact same.filter _

theorem orderFree_of_unambiguous (clear : Unambiguous tablets) : OrderFree tablets := by
  intro first second firstSame secondSame r other order otherOrder dials otherDials key
  have listed := mem_recordsOf_perm clear.addresses firstSame order.wanted key
  have same : (recordsOf order.wanted (wanted first) key).Perm
      (recordsOf otherOrder.wanted (wanted second) key) := by
    rw [List.perm_ext_iff_of_nodup nodup_recordsOf nodup_recordsOf]
    intro tablet
    rw [listed, mem_recordsOf_perm clear.addresses secondSame]
  change Option.Rel SameGroup ((newGroups order (wanted first)).lookup key)
    ((newGroups otherOrder (wanted second)).lookup key)
  rw [newGroups_lookup, newGroups_lookup]
  generalize recordsOf order.wanted (wanted first) key = records at listed same
  generalize recordsOf otherOrder.wanted (wanted second) key = others at same
  cases records with
  | nil =>
      rw [same.nil_eq.symm]
      exact .none
  | cons tablet rest =>
      cases others with
      | nil => exact absurd same.eq_nil nofun
      | cons head tail => exact .some (sameGroup_of_perm clear listed same rfl rfl)

/-- An update whose first loop visits the records in a given order. -/
def visiting (range : RangeOrder) : SyncOrder :=
  ⟨range, .stored, .stored, .stored, .stored⟩

section Chosen

variable {listing : List Tablet} {tablet : Tablet}

section Kept

variable (kept : (wanted listing).lookup tablet.addr = some tablet)
include kept

/-- Some update visits a record first among those of its shard. -/
theorem exists_recordsOf_head? :
    ∃ range : RangeOrder,
      (recordsOf range (wanted listing) tablet.groupKey).head? = some tablet := by
  obtain ⟨range, visitedFirst⟩ := RangeOrder.exists_visit_head? (AList.mem_lookup_iff.mp kept)
  obtain ⟨rest, split⟩ := List.head?_eq_some_iff.mp visitedFirst
  refine ⟨range, ?_⟩
  rw [recordsOf, visited, split, List.map_cons]
  simp

/-- Some update visits a record last. -/
theorem exists_recordsOf_getLast? :
    ∃ range : RangeOrder,
      (recordsOf range (wanted listing) tablet.groupKey).getLast? = some tablet := by
  obtain ⟨range, visitedLast⟩ := RangeOrder.exists_visit_getLast? (AList.mem_lookup_iff.mp kept)
  obtain ⟨before, split⟩ := List.getLast?_eq_some_iff.mp visitedLast
  refine ⟨range, ?_⟩
  rw [recordsOf, visited, split, List.map_append, List.filter_append]
  simp

/-- Some update makes a group in which a record is the primary or a replica. -/
theorem exists_group_of_kept :
    ∃ range group, (newGroups (visiting range) (wanted listing)).lookup tablet.groupKey =
        some group ∧
      (tablet.type = "PRIMARY" → group.primary = tablet) ∧
      (tablet.type ≠ "PRIMARY" → tablet ∈ group.replicas) := by
  obtain ⟨range, last⟩ := exists_recordsOf_getLast? kept
  obtain ⟨before, split⟩ := List.getLast?_eq_some_iff.mp last
  have present : tablet ∈ recordsOf range (wanted listing) tablet.groupKey :=
    List.mem_of_getLast? last
  cases found : (newGroups (visiting range) (wanted listing)).lookup tablet.groupKey with
  | none =>
      rw [newGroups_lookup, Option.map_eq_none_iff, groupOf, Option.map_eq_none_iff,
        List.head?_eq_none_iff] at found
      exact absurd found (List.ne_nil_of_mem present)
  | some group =>
      refine ⟨range, group, found, ?_, ?_⟩
      · intro primary
        obtain ⟨_, _, chosen, _⟩ := group_of_lookup found
        rw [chosen]
        change ((recordsOf range (wanted listing) tablet.groupKey).filter isPrimary).getLast?.getD
          default = tablet
        rw [split, List.filter_append]
        simp [isPrimary, primary]
      · intro secondary
        exact (mem_replicas_iff found).mpr ⟨kept, rfl, secondary⟩

end Kept

end Chosen

section Necessary

variable {tablets : List Tablet} (free : OrderFree tablets)

include free

/-- What two updates that visit records in different orders have in common. -/
theorem sameGroup_of_orderFree
    {first second : List Tablet}
    (firstSame : first.Perm tablets)
    (secondSame : second.Perm tablets)
    {range : RangeOrder}
    (otherRange : RangeOrder)
    {key : String}
    {group : ShardGroup}
    (found : (newGroups (visiting range) (wanted first)).lookup key = some group) :
    ∃ other, (newGroups (visiting otherRange) (wanted second)).lookup key = some other ∧
      SameGroup group other := by
  have related := free first second firstSame secondSame (newRouter ⟨"", ∅⟩) (newRouter ⟨"", ∅⟩)
    (visiting range) (visiting otherRange) (fun _ => true) (fun _ => true) key
  change Option.Rel SameGroup ((newGroups (visiting range) (wanted first)).lookup key)
    ((newGroups (visiting otherRange) (wanted second)).lookup key) at related
  rw [found] at related
  cases other : (newGroups (visiting otherRange) (wanted second)).lookup key with
  | none =>
      rw [other] at related
      cases related
  | some otherGroup =>
      rw [other] at related
      cases related with
      | some same => exact ⟨otherGroup, rfl, same⟩

/-- A record that is moved to the end of the list is kept. -/
theorem addresses_of_orderFree :
    ∀ tablet ∈ tablets, ∀ other ∈ tablets, tablet.addr = other.addr → tablet = other := by
  intro tablet present other otherPresent same
  by_contra different
  have moved : ∀ last ∈ tablets, (tablets.erase last ++ [last]).Perm tablets ∧
      (wanted (tablets.erase last ++ [last])).lookup last.addr = some last := by
    intro last listed
    constructor
    · exact (List.perm_append_singleton _ _).trans (List.perm_cons_erase listed).symm
    · rw [wanted_lookup, List.filter_append]
      simp
  obtain ⟨firstSame, kept⟩ := moved tablet present
  obtain ⟨secondSame, otherKept⟩ := moved other otherPresent
  obtain ⟨range, group, found, isPrimary, isReplica⟩ := exists_group_of_kept kept
  obtain ⟨otherGroup, otherFound, equal⟩ :=
    sameGroup_of_orderFree free firstSame secondSame .stored found
  have dropped : (wanted (tablets.erase other ++ [other])).lookup tablet.addr ≠ some tablet := by
    rw [same, otherKept]
    intro kept
    exact different (Option.some.inj kept).symm
  by_cases primary : tablet.type = "PRIMARY"
  · have chosen := (isPrimary primary).symm.trans equal.primary
    rcases primary_of_lookup otherFound with missing | ⟨recorded, _⟩
    · rw [chosen, missing] at primary
      exact absurd primary (by decide)
    · rw [← chosen] at recorded
      exact dropped recorded
  · have listed := equal.replicas.mem_iff.mp (isReplica primary)
    exact dropped ((mem_replicas_iff otherFound).mp listed).1

theorem primaries_of_orderFree :
    ∀ tablet ∈ tablets, ∀ other ∈ tablets, tablet.groupKey = other.groupKey →
      tablet.type = "PRIMARY" → other.type = "PRIMARY" → tablet = other := by
  intro tablet present other otherPresent sameKey primary otherPrimary
  have addresses := addresses_of_orderFree free
  obtain ⟨range, group, found, chosen, _⟩ := exists_group_of_kept (wanted_of_mem addresses present)
  obtain ⟨otherRange, otherGroup, otherFound, otherChosen, _⟩ :=
    exists_group_of_kept (wanted_of_mem addresses otherPresent)
  obtain ⟨second, secondFound, equal⟩ :=
    sameGroup_of_orderFree free (.refl _) (.refl _) otherRange found
  rw [sameKey, otherFound] at secondFound
  rw [← chosen primary, equal.primary, ← Option.some.inj secondFound]
  exact otherChosen otherPrimary

/-- Some update gives the range of a record that counts to its group. -/
theorem exists_group_of_counting
    {tablet : Tablet}
    (present : tablet ∈ tablets)
    (counts : ¬ Defers tablets tablet) :
    ∃ range group, (newGroups (visiting range) (wanted tablets)).lookup tablet.groupKey =
      some group ∧ group.keyRange = tablet.keyRange := by
  have addresses := addresses_of_orderFree free
  obtain ⟨range, head⟩ := exists_recordsOf_head? (wanted_of_mem addresses present)
  obtain ⟨rest, begins⟩ := List.head?_eq_some_iff.mp head
  have listed := mem_recordsOf_perm addresses (List.Perm.refl tablets) range tablet.groupKey
  cases made : groupOf (recordsOf range (wanted tablets) tablet.groupKey) with
  | none =>
      rw [groupOf, head] at made
      cases made
  | some group =>
      refine ⟨range, settleRange group, ?_,
        keyRange_of_first listed (primaries_of_orderFree free) made begins counts⟩
      rw [newGroups_lookup]
      exact congrArg (Option.map settleRange) made

theorem ranges_of_orderFree :
    ∀ tablet ∈ tablets, ∀ other ∈ tablets, tablet.groupKey = other.groupKey →
      ¬ Defers tablets tablet → ¬ Defers tablets other → tablet.keyRange = other.keyRange := by
  intro tablet present other otherPresent sameKey counts otherCounts
  obtain ⟨range, group, found, own⟩ := exists_group_of_counting free present counts
  obtain ⟨otherRange, otherGroup, otherFound, otherOwn⟩ :=
    exists_group_of_counting free otherPresent otherCounts
  obtain ⟨second, secondFound, equal⟩ :=
    sameGroup_of_orderFree free (.refl _) (.refl _) otherRange found
  rw [sameKey, otherFound] at secondFound
  rw [← own, equal.keyRange, ← Option.some.inj secondFound]
  exact otherOwn

end Necessary

/-- The primary, the range and the replicas of every group are the same for all
orders exactly if the records leave no choice. -/
theorem groups_order_free_iff_unambiguous (tablets : List Tablet) :
    OrderFree tablets ↔ Unambiguous tablets := by
  constructor
  · intro free
    exact ⟨addresses_of_orderFree free, primaries_of_orderFree free, ranges_of_orderFree free⟩
  · exact orderFree_of_unambiguous

/-- A shard during a failover: the old primary and the new one are registered. -/
def failover : List Tablet :=
  [{ keyspace := "main", shard := "shard-0", type := "PRIMARY", addr := "a:1"
     keyRangeStart := 0, keyRangeEnd := 5000 },
    { keyspace := "main", shard := "shard-0", type := "PRIMARY", addr := "b:1"
      keyRangeStart := 0, keyRangeEnd := 5000 }]

/-- The same update makes either of two records the primary. -/
theorem failover_primary_depends_on_order :
    ¬ OrderFree failover := by
  intro free
  have related := free failover failover (.refl _) (.refl _) (newRouter ⟨"main", ∅⟩)
    (newRouter ⟨"main", ∅⟩) (visiting .stored) (visiting (.swapping 0 1)) (fun _ => true)
    (fun _ => true) "main/shard-0"
  cases related with
  | some same => exact absurd same.primary (by decide)

end Router
end VScale
