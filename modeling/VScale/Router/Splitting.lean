import VScale.Router.Groups
import VScale.Router.PointRouting
import VScale.Router.Scatter

/-!
# Reads and writes

Writes and the statements of a transaction go to primaries.  Other reads go to
replicas, except in groups that have none.
-/

namespace VScale
namespace Router

open Collections Tree

/-- The client kept for a record of the last update. -/
structure ClientFor
    (tablets : List Tablet)
    (r : Router)
    (tablet : Tablet)
    (tc : TabletClient) :
    Prop where
  recorded : (wanted tablets).lookup tablet.addr = some tablet
  kept : r.clients.lookup tablet.addr = some tc
  reaches : tc.target = tablet.addr

/-- The tablet of a group that the statements of a kind may use. -/
def Eligible (writing : Bool) (group : ShardGroup) (tablet : Tablet) : Prop :=
  if writing ∨ group.replicas = [] then tablet = group.primary ∧ tablet.type = "PRIMARY"
  else tablet ∈ group.replicas ∧ tablet.type ≠ "PRIMARY"

/-- A client that may serve a statement in its shard. -/
def Serves (tablets : List Tablet) (r : Router) (writing : Bool) (tc : TabletClient) : Prop :=
  ∃ key group tablet, r.shardGroups.lookup key = some group ∧
    shardAt tablets tc.target = some key ∧
    Eligible writing group tablet ∧ ClientFor tablets r tablet tc

section Picks

variable {r : Router} {qtype : QueryType} {inTransaction : Bool}

/-- A scatter picks in known groups. -/
theorem group_of_mem_scatterPicks
    {cursor : Nat}
    {keys : List String}
    {pick : String × Tablet}
    (present : pick ∈ r.scatterPicks qtype inTransaction cursor keys) :
    ∃ turn group, r.shardGroups.lookup pick.1 = some group ∧
      pick.2 = pickedTablet qtype inTransaction turn group := by
  induction keys generalizing cursor with
  | nil => cases present
  | cons key keys ih =>
      unfold scatterPicks at present
      cases found : r.shardGroups.lookup key with
      | none =>
          rw [found] at present
          exact ih present
      | some group =>
          rw [found] at present
          rcases List.mem_cons.mp present with rfl | later
          · exact ⟨cursor, group, found, rfl⟩
          · exact ih later

/-- A routed statement reaches clients that are picked in known groups. -/
theorem picked_of_route
    {exprString : Expr → String}
    {range : RangeOrder}
    {stmt : Statement}
    {rest : List Statement}
    (plain : Parser.isTxControl stmt = false)
    {tc : TabletClient}
    (routed : tc ∈ (r.route exprString range (.ok (stmt :: rest)) inTransaction).1.tablets) :
    ∃ key group turn, r.shardGroups.lookup key = some group ∧
      (r.pickOne (queryTypeOf stmt) inTransaction turn group).1 = some tc := by
  by_cases known : r.orderedKeys = []
  · rw [route, if_pos known] at routed
    cases routed
  · rcases route_cases exprString r range stmt rest inTransaction known plain with
      ⟨target, ⟨_, shard, group, _, found, _, picked⟩, point⟩ | scattered
    · rw [point] at routed
      rw [List.mem_singleton.mp routed]
      exact ⟨shard, group, r.replicaCursor, found, picked⟩
    · rw [scattered, scatterResult, scatterTablets_eq] at routed
      obtain ⟨pick, present, kept⟩ := List.mem_filterMap.mp routed
      obtain ⟨turn, group, found, isPick⟩ := group_of_mem_scatterPicks present
      refine ⟨pick.1, group, turn, found, ?_⟩
      rw [pickOne_fst, ← isPick]
      exact kept

end Picks

section Reading

variable {tablets : List Tablet} {r : Router} {key : String} {group : ShardGroup}
variable {tc : TabletClient}

section Reached

variable
  (reached : Reached tablets r)
  (addressed : ∀ tablet ∈ tablets, tablet.addr ≠ "")
  (known : r.shardGroups.lookup key = some group)
include reached addressed known

/-- A client looked up for the primary of a group belongs to a primary. -/
theorem clientFor_primary
    (kept : r.clients.lookup group.primary.addr = some tc) :
    group.primary.type = "PRIMARY" ∧ ClientFor tablets r group.primary tc := by
  have consistent := reached.consistent
  obtain ⟨order, same⟩ := reached.groups
  rw [same] at known
  rcases primary_of_lookup known with missing | ⟨recorded, _, isPrimary⟩
  · rw [missing, show (default : Tablet).addr = "" from rfl,
      clients_lookup_empty consistent addressed] at kept
    cases kept
  · exact ⟨isPrimary, recorded, kept, (consistent.clients _ tc kept).1⟩

/-- A picked client belongs to a tablet that may be used. -/
theorem eligible_of_pickOne
    {qtype : QueryType}
    {inTransaction : Bool}
    {turn : Nat}
    (picked : (r.pickOne qtype inTransaction turn group).1 = some tc) :
    ∃ tablet, Eligible (inTransaction || qtype == .write) group tablet ∧
      ClientFor tablets r tablet tc := by
  rw [pickOne_fst, pickedTablet] at picked
  unfold Eligible
  by_cases writing : (inTransaction || qtype == .write) = true
  · rw [if_pos writing] at picked
    obtain ⟨isPrimary, client⟩ := clientFor_primary reached addressed known picked
    rw [writing]
    exact ⟨group.primary, by simpa using isPrimary, client⟩
  · rw [if_neg writing] at picked
    cases found : group.replicas[turn % group.replicas.length]? with
    | none =>
        rw [found] at picked
        obtain ⟨isPrimary, client⟩ := clientFor_primary reached addressed known picked
        have none_left : group.replicas = [] := by
          by_contra some_left
          have inside := Nat.mod_lt turn (List.length_pos_iff.mpr some_left)
          rw [List.getElem?_eq_getElem inside] at found
          cases found
        refine ⟨group.primary, ?_, client⟩
        rw [if_pos (Or.inr none_left)]
        exact ⟨rfl, isPrimary⟩
    | some replica =>
        rw [found, Option.getD_some] at picked
        have listed := List.mem_of_getElem? found
        obtain ⟨order, same⟩ := reached.groups
        rw [same] at known
        obtain ⟨recorded, _, secondary⟩ := (mem_replicas_iff known).mp listed
        refine ⟨replica, ?_, recorded, picked, (reached.consistent.clients _ tc picked).1⟩
        rw [if_neg (by simp [writing, List.ne_nil_of_mem listed])]
        exact ⟨listed, secondary⟩

end Reached

end Reading

/-- Whatever the updates so far and the turn of the replicas, writes and the
statements of a transaction reach primaries of the last update; a read outside a
transaction reaches replicas, and the primary of a group without replicas. -/
theorem route_splits_reads_from_writes
    (exprString : Expr → String)
    {tablets : List Tablet}
    {r : Router}
    (reached : Reached tablets r)
    (addressed : ∀ tablet ∈ tablets, tablet.addr ≠ "")
    (range : RangeOrder)
    (stmt : Statement)
    (rest : List Statement)
    (plain : Parser.isTxControl stmt = false)
    (inTransaction : Bool) :
    ∀ tc ∈ (r.route exprString range (.ok (stmt :: rest)) inTransaction).1.tablets,
      Serves tablets r (inTransaction || Parser.isWrite stmt) tc := by
  intro tc routed
  obtain ⟨key, group, turn, known, picked⟩ := picked_of_route plain routed
  obtain ⟨tablet, eligible, client⟩ := eligible_of_pickOne reached addressed known picked
  have kind : (queryTypeOf stmt == .write) = Parser.isWrite stmt := by
    unfold queryTypeOf
    cases Parser.isWrite stmt with
    | false | true => rfl
  rw [kind] at eligible
  exact ⟨key, group, tablet, known, shardAt_of_pickOne reached.consistent addressed known picked,
    eligible, client⟩

/-- Two shards, the first of them with a replica. -/
def replicatedShards : List Tablet :=
  { keyspace := "main", shard := "shard-0", type := "REPLICA", addr := "c:1"
    keyRangeStart := 0, keyRangeEnd := 5000 } :: twoShards

/-- The router of these shards. -/
def replicatedRouter : Router :=
  (newRouter usersSchema).sync .stored (fun _ => true) replicatedShards

/-- `SELECT id FROM users`. -/
def readUsers : Statement :=
  ⟨.select
    { select := .selectClause
        { exprs := [⟨.unresolvedName ["id"], ""⟩], tables := [.listed "users"] } },
    "SELECT id FROM users"⟩

theorem readUsers_reach_replica_and_lone_primary :
    (replicatedRouter.route integralExternals.exprString .stored (.ok [readUsers])
        false).1.tablets = [⟨0, "b:1"⟩, ⟨2, "c:1"⟩] ∧
      Serves replicatedShards replicatedRouter false ⟨0, "b:1"⟩ ∧
      Serves replicatedShards replicatedRouter false ⟨2, "c:1"⟩ := by
  have routed : (replicatedRouter.route integralExternals.exprString .stored (.ok [readUsers])
      false).1.tablets = [⟨0, "b:1"⟩, ⟨2, "c:1"⟩] := by decide
  have reached : Reached replicatedShards replicatedRouter :=
    .sync .stored (fun _ => true) _ (.start usersSchema)
  have splits := route_splits_reads_from_writes integralExternals.exprString reached
    (by decide) .stored readUsers [] (by decide) false
  refine ⟨routed, splits _ ?_, splits _ ?_⟩
  · exact routed ▸ List.mem_cons_self
  · exact routed ▸ List.mem_cons_of_mem _ List.mem_cons_self

end Router
end VScale
