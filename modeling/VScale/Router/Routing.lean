import VScale.Router.Sync

/-!
# What a routing decision says

A statement is routed to the tablet picked in the group that contains its key,
or scattered to the tablet picked in every group.
-/

namespace VScale
namespace Router

open Collections Tree

/-- Different shards are responsible for different keys. -/
def RangesDisjoint (r : Router) : Prop :=
  ∀ shard other group second key,
    r.shardGroups.lookup shard = some group →
    r.shardGroups.lookup other = some second →
    group.contains key = true → second.contains key = true → shard = other

/-- The record whose address `pickOne` looks up. -/
def pickedTablet
    (qtype : QueryType)
    (inTransaction : Bool)
    (cursor : Nat)
    (group : ShardGroup) :
    Tablet :=
  if inTransaction || qtype == .write then group.primary
  else (group.replicas[cursor % group.replicas.length]?).getD group.primary

theorem pickOne_fst
    (r : Router)
    (qtype : QueryType)
    (inTransaction : Bool)
    (cursor : Nat)
    (group : ShardGroup) :
    (r.pickOne qtype inTransaction cursor group).1 =
      r.clients.lookup (pickedTablet qtype inTransaction cursor group).addr := by
  unfold pickOne pickedTablet
  by_cases writing : (inTransaction || qtype == .write) = true
  · rw [if_pos writing, if_pos writing]
    rfl
  · rw [if_neg writing, if_neg writing]
    unfold pickOneForRead
    cases group.replicas[cursor % group.replicas.length]? with
    | none | some => rfl

/-- A write goes to the primary. -/
theorem pickOne_write
    (r : Router)
    (inTransaction : Bool)
    (cursor : Nat)
    (group : ShardGroup) :
    (r.pickOne .write inTransaction cursor group).1 = r.clients.lookup group.primary.addr := by
  simp [pickOne, pickOneForWrite]

theorem pickedTablet_mem
    (qtype : QueryType)
    (inTransaction : Bool)
    (cursor : Nat)
    (group : ShardGroup) :
    pickedTablet qtype inTransaction cursor group = group.primary ∨
      pickedTablet qtype inTransaction cursor group ∈ group.replicas := by
  unfold pickedTablet
  split
  · exact Or.inl rfl
  · cases found : group.replicas[cursor % group.replicas.length]? with
    | none => exact Or.inl rfl
    | some replica => exact Or.inr (List.mem_of_getElem? found)

/-- A picked record is registered for its group, or the group has no primary. -/
theorem pickedTablet_registered
    {want : Map String Tablet}
    {key : String}
    {group : ShardGroup}
    (grouped : GroupOf want key group)
    (qtype : QueryType)
    (inTransaction : Bool)
    (cursor : Nat) :
    pickedTablet qtype inTransaction cursor group = default ∨
      (want.lookup (pickedTablet qtype inTransaction cursor group).addr =
          some (pickedTablet qtype inTransaction cursor group) ∧
        (pickedTablet qtype inTransaction cursor group).groupKey = key) := by
  rcases pickedTablet_mem qtype inTransaction cursor group with isPrimary | isReplica
  · rw [isPrimary]
    exact grouped.primary
  · exact Or.inr (grouped.replicas _ isReplica)

section Addressed

variable {tablets : List Tablet} {r : Router}

/-- Among records with addresses, no client is kept under the empty one. -/
theorem clients_lookup_empty
    (consistent : Consistent (wanted tablets) r)
    (addressed : ∀ tablet ∈ tablets, tablet.addr ≠ "") :
    r.clients.lookup "" = none := by
  cases found : r.clients.lookup "" with
  | none => rfl
  | some tc =>
      obtain ⟨_, registered⟩ := consistent.clients "" tc found
      obtain ⟨tablet, recorded⟩ := Option.isSome_iff_exists.mp (AList.lookup_isSome.mpr registered)
      obtain ⟨own, present⟩ := wanted_all tablets "" tablet recorded
      exact absurd own (addressed tablet present)

/-- The client picked in a group reaches a tablet of that group's shard. -/
theorem shardAt_of_pickOne
    (consistent : Consistent (wanted tablets) r)
    (addressed : ∀ tablet ∈ tablets, tablet.addr ≠ "")
    {shard : String}
    {group : ShardGroup}
    {tc : TabletClient}
    {qtype : QueryType}
    {inTransaction : Bool}
    {cursor : Nat}
    (known : r.shardGroups.lookup shard = some group)
    (picked : (r.pickOne qtype inTransaction cursor group).1 = some tc) :
    shardAt tablets tc.target = some shard := by
  rw [pickOne_fst] at picked
  obtain ⟨own, _⟩ := consistent.clients _ tc picked
  rcases pickedTablet_registered (consistent.groups shard group known)
    qtype inTransaction cursor with missing | ⟨recorded, belongs⟩
  · rw [missing] at picked
    exact absurd picked (by
      rw [show (default : Tablet).addr = "" from rfl, clients_lookup_empty consistent addressed]
      exact nofun)
  · rw [own, shardAt, recorded, Option.map_some, belongs]

end Addressed

section Decision

variable (exprString : Expr → String) (r : Router) (range : RangeOrder)
variable (stmt : Statement) (rest : List Statement) (inTransaction : Bool)

/-- The kind of access a statement asks for. -/
def queryTypeOf (stmt : Statement) : QueryType :=
  if Parser.isWrite stmt then .write else .read

/-- A group found for a key is known under its shard and contains the key. -/
theorem group_of_visited
    {key : Int}
    {entry : Sigma fun _ : String => ShardGroup}
    (visited : (range.visit r.shardGroups.entries).find? (fun entry => entry.2.contains key) =
      some entry) :
    r.shardGroups.lookup entry.1 = some entry.2 ∧ entry.2.contains key = true := by
  have contains : entry.2.contains key = true :=
    List.find?_some (p := fun entry : Sigma fun _ => ShardGroup => entry.2.contains key) visited
  have stored := List.mem_of_find?_eq_some visited
  exact ⟨AList.mem_lookup_iff.mpr ((RangeOrder.mem_visit _).mp stored), contains⟩

variable {tc : TabletClient}

/-- A client found for a key is the one picked in a group that contains it. -/
theorem tabletForKeyLocked_some
    (key : Int)
    {qtype : QueryType}
    {cursor : Nat}
    (found : r.tabletForKeyLocked range key qtype inTransaction = (some tc, cursor)) :
    ∃ shard group, r.shardGroups.lookup shard = some group ∧ group.contains key = true ∧
      (r.pickOne qtype inTransaction r.replicaCursor group).1 = some tc := by
  unfold tabletForKeyLocked at found
  cases visited : (range.visit r.shardGroups.entries).find? fun entry =>
      entry.2.contains key with
  | none =>
      rw [visited] at found
      cases congrArg Prod.fst found
  | some entry =>
      rw [visited] at found
      obtain ⟨stored, contains⟩ := group_of_visited r range visited
      exact ⟨entry.1, entry.2, stored, contains, congrArg Prod.fst found⟩

/-- The group and the client that a point-routed statement goes to. -/
structure PointTarget (tc : TabletClient) : Prop where
  target : ∃ key shard group,
    r.routingKey exprString stmt = some key ∧
      r.shardGroups.lookup shard = some group ∧
      group.contains key = true ∧
      (r.pickOne (queryTypeOf stmt) inTransaction r.replicaCursor group).1 = some tc

/-- The replica cursor with which a scatter starts: a point lookup that found
no client may have advanced it. -/
def scatterCursor : Nat :=
  match r.routingKey exprString stmt with
  | none => r.replicaCursor
  | some key => (r.tabletForKeyLocked range key (queryTypeOf stmt) inTransaction).2

/-- A statement is routed to one tablet or scattered. -/
theorem route_cases
    (known : r.orderedKeys ≠ [])
    (plain : Parser.isTxControl stmt = false) :
    (∃ tc, PointTarget exprString r stmt inTransaction tc ∧
      (r.route exprString range (.ok (stmt :: rest)) inTransaction).1 =
        { tablets := [tc], write := Parser.isWrite stmt }) ∨
      r.route exprString range (.ok (stmt :: rest)) inTransaction =
        r.scatterResult (scatterCursor exprString r range stmt inTransaction)
          (queryTypeOf stmt) inTransaction := by
  unfold route scatterCursor
  rw [if_neg known]
  simp only [plain, Bool.false_eq_true, if_false]
  cases keyed : r.routingKey exprString stmt with
  | none => exact Or.inr rfl
  | some key =>
      unfold queryTypeOf
      simp only
      cases found : r.tabletForKeyLocked range key
          (if Parser.isWrite stmt then .write else .read) inTransaction with
      | mk client cursor =>
          cases client with
          | none => exact Or.inr rfl
          | some tc =>
              obtain ⟨shard, group, stored, contains, picked⟩ :=
                tabletForKeyLocked_some r range inTransaction key found
              exact Or.inl ⟨tc, ⟨key, shard, group, keyed, stored, contains, picked⟩, rfl⟩

/-- Among disjoint ranges a statement with a point target is routed to it. -/
theorem route_of_pointTarget
    (known : r.orderedKeys ≠ [])
    (plain : Parser.isTxControl stmt = false)
    (disjoint : r.RangesDisjoint)
    (target : PointTarget exprString r stmt inTransaction tc) :
    (r.route exprString range (.ok (stmt :: rest)) inTransaction).1 =
      { tablets := [tc], write := Parser.isWrite stmt } := by
  obtain ⟨key, shard, group, keyed, stored, contains, picked⟩ := target
  have lookup : ∃ cursor,
      r.tabletForKeyLocked range key (queryTypeOf stmt) inTransaction = (some tc, cursor) := by
    unfold tabletForKeyLocked
    cases visited : (range.visit r.shardGroups.entries).find? fun entry =>
        entry.2.contains key with
    | none =>
        have listed : (⟨shard, group⟩ : Sigma fun _ : String => ShardGroup) ∈
            range.visit r.shardGroups.entries :=
          (RangeOrder.mem_visit _).mpr (AList.mem_lookup_iff.mp stored)
        exact absurd contains (List.find?_eq_none.mp visited _ listed)
    | some entry =>
        obtain ⟨entryStored, entryContains⟩ := group_of_visited r range visited
        have sameShard := disjoint entry.1 shard entry.2 group key entryStored stored
          entryContains contains
        rw [sameShard, stored] at entryStored
        injection entryStored with sameGroup
        refine ⟨(r.pickOne (queryTypeOf stmt) inTransaction r.replicaCursor group).2, ?_⟩
        simp only
        rw [← sameGroup, ← picked]
  obtain ⟨cursor, found⟩ := lookup
  unfold route
  rw [if_neg known]
  unfold queryTypeOf at found
  simp only [plain, Bool.false_eq_true, if_false, keyed, found]

theorem scatterResult_scatter
    (cursor : Nat)
    (qtype : QueryType) :
    (r.scatterResult cursor qtype inTransaction).1.scatter = true := rfl

end Decision

/-- Routing changes no client. -/
theorem route_clients
    (exprString : Expr → String)
    (r : Router)
    (range : RangeOrder)
    (query : SqlText)
    (inTransaction : Bool) :
    (r.route exprString range query inTransaction).2.clients = r.clients := by
  unfold route
  split
  · rfl
  · split
    · rfl
    · rfl
    · split
      · rfl
      · simp only
        split
        · rfl
        · split
          · rfl
          · rfl

end Router
end VScale
