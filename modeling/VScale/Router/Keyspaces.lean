import VScale.Router.Groups
import VScale.Router.PointRouting
import VScale.Router.Scatter

/-!
# Several keyspaces

The router searches and scatters over the groups of all keyspaces.  A statement
stays in the keyspace of the schema exactly if no group of another keyspace could
be met on its way.
-/

namespace VScale
namespace Router

open Collections Tree

/-- The address of a record of the keyspace that the schema is about. -/
def Native (tablets : List Tablet) (r : Router) (addr : String) : Prop :=
  ∃ tablet, (wanted tablets).lookup addr = some tablet ∧ tablet.keyspace = r.vs.keyspace

/-- Within each keyspace, different shards are responsible for different keys. -/
def KeyspacesDisjoint (r : Router) : Prop :=
  ∀ shard other group second key,
    r.shardGroups.lookup shard = some group → r.shardGroups.lookup other = some second →
    group.keyspace = second.keyspace →
    group.contains key = true → second.contains key = true → shard = other

/-- The group at which the search for a key stops. -/
def chosen
    (r : Router)
    (range : RangeOrder)
    (key : Int) :
    Option (Sigma fun _ : String => ShardGroup) :=
  (range.visit r.shardGroups.entries).find? fun entry => entry.2.contains key

section Statements

variable (exprString : Expr → String) (tablets : List Tablet) (r : Router)
variable (stmt : Statement) (rest : List Statement) (inTransaction : Bool)

/-- The shard chosen for a key: the only one of its keyspace, whatever the order in
which the groups are visited. -/
structure RightShard (key : Int) (shard : String) (group : ShardGroup) : Prop where
  keyspace : group.keyspace = r.vs.keyspace
  unique : ∀ other second, r.shardGroups.lookup other = some second →
    second.keyspace = r.vs.keyspace → second.contains key = true → other = shard
  orderless : ∀ range, r.chosen range key = some ⟨shard, group⟩

/-- A statement reaches only tablets of the keyspace, and a routed key reaches the
right shard, whatever the order in which the groups are visited. -/
structure StaysInKeyspace : Prop where
  native : ∀ range,
    ∀ tc ∈ (r.route exprString range (.ok (stmt :: rest)) inTransaction).1.tablets,
      Native tablets r tc.target
  point : ∀ range key shard group,
    r.routingKey exprString stmt = some key → r.chosen range key = some ⟨shard, group⟩ →
    (r.route exprString range (.ok (stmt :: rest)) inTransaction).1.scatter = false →
    ∀ tc ∈ (r.route exprString range (.ok (stmt :: rest)) inTransaction).1.tablets,
      RightShard r key shard group ∧ shardAt tablets tc.target = some shard

/-- Every group whose turn falls on a connected tablet is in the keyspace there. -/
def ScattersNatively (cursor : Nat) : Prop :=
  ∀ pick ∈ r.scatterPicks (queryTypeOf stmt) inTransaction cursor r.orderedKeys,
    pick.2.addr ∈ r.clients → Native tablets r pick.2.addr

/-- The tablet whose turn it is in a group. -/
def turnOf (group : ShardGroup) : Tablet :=
  pickedTablet (queryTypeOf stmt) inTransaction r.replicaCursor group

/-- A group in the keyspace that shares a key with no other group of any keyspace. -/
structure OwnsAlone (key : Int) (shard : String) (group : ShardGroup) : Prop where
  keyspace : group.keyspace = r.vs.keyspace
  tablet : ∃ tablet,
    (wanted tablets).lookup (r.turnOf stmt inTransaction group).addr = some tablet ∧
    tablet.keyspace = r.vs.keyspace ∧ tablet.groupKey = shard
  alone : ∀ other second, r.shardGroups.lookup other = some second →
    second.contains key = true → other = shard

/-- No group of another keyspace is met: not by the search for a key, and not by the
scatter that follows when there is no key, no group for it or no client there. -/
def KeptApart : Prop :=
  match r.routingKey exprString stmt with
  | none => ScattersNatively tablets r stmt inTransaction r.replicaCursor
  | some key =>
      ((∀ shard group, r.shardGroups.lookup shard = some group → group.contains key = false) →
        ScattersNatively tablets r stmt inTransaction r.replicaCursor) ∧
      ∀ shard group, r.shardGroups.lookup shard = some group → group.contains key = true →
        if (r.turnOf stmt inTransaction group).addr ∈ r.clients then
          OwnsAlone tablets r stmt inTransaction key shard group
        else
          ScattersNatively tablets r stmt inTransaction
            (r.pickOne (queryTypeOf stmt) inTransaction r.replicaCursor group).2

end Statements

section Search

variable {r : Router} {range : RangeOrder} {key : Int}

variable {group : ShardGroup} {shard : String}

theorem chosen_some (found : r.chosen range key = some ⟨shard, group⟩) :
    r.shardGroups.lookup shard = some group ∧ group.contains key = true :=
  group_of_visited r range found

theorem chosen_none
    (missing : r.chosen range key = none)
    (known : r.shardGroups.lookup shard = some group) : group.contains key = false := by
  have listed : (⟨shard, group⟩ : Sigma fun _ : String => ShardGroup) ∈
      range.visit r.shardGroups.entries :=
    (RangeOrder.mem_visit _).mpr (AList.mem_lookup_iff.mp known)
  exact Bool.not_eq_true _ ▸ List.find?_eq_none.mp missing _ listed

/-- Every group with the key may be the one at which the search stops. -/
theorem exists_chosen
    (known : r.shardGroups.lookup shard = some group)
    (contains : group.contains key = true) :
    ∃ range, r.chosen range key = some ⟨shard, group⟩ := by
  obtain ⟨range, first⟩ := RangeOrder.exists_visit_head? (AList.mem_lookup_iff.mp known)
  obtain ⟨rest, split⟩ := List.head?_eq_some_iff.mp first
  refine ⟨range, ?_⟩
  rw [chosen, split]
  exact List.find?_cons_of_pos contains

/-- A group that has a key alone is the one at which every search stops. -/
theorem chosen_of_alone
    (known : r.shardGroups.lookup shard = some group)
    (contains : group.contains key = true)
    (alone : ∀ other second, r.shardGroups.lookup other = some second →
      second.contains key = true → other = shard) :
    r.chosen range key = some ⟨shard, group⟩ := by
  cases found : r.chosen range key with
  | none => exact absurd contains (by rw [chosen_none found known]; exact nofun)
  | some entry =>
      obtain ⟨other, second⟩ := entry
      obtain ⟨otherKnown, otherContains⟩ := chosen_some found
      have same := alone other second otherKnown otherContains
      subst same
      rw [known] at otherKnown
      rw [Option.some.inj otherKnown]

end Search

section Routing

variable {exprString : Expr → String} {r : Router} {range : RangeOrder}
variable {stmt : Statement} {rest : List Statement} {inTransaction : Bool}

theorem route_of_keyless
    (known : r.orderedKeys ≠ [])
    (plain : Parser.isTxControl stmt = false)
    (keyless : r.routingKey exprString stmt = none) :
    r.route exprString range (.ok (stmt :: rest)) inTransaction =
      r.scatterResult r.replicaCursor (queryTypeOf stmt) inTransaction := by
  simp only [route, if_neg known, plain, Bool.false_eq_true, if_false, keyless]
  rfl

variable {key : Int}

theorem route_of_unchosen
    (known : r.orderedKeys ≠ [])
    (plain : Parser.isTxControl stmt = false)
    (keyed : r.routingKey exprString stmt = some key)
    (missing : r.chosen range key = none) :
    r.route exprString range (.ok (stmt :: rest)) inTransaction =
      r.scatterResult r.replicaCursor (queryTypeOf stmt) inTransaction := by
  have nowhere : ∀ qtype, r.tabletForKeyLocked range key qtype inTransaction =
      (none, r.replicaCursor) := by
    intro qtype
    unfold chosen at missing
    rw [tabletForKeyLocked, missing]
  simp only [route, if_neg known, plain, Bool.false_eq_true, if_false, keyed, nowhere]
  rfl

theorem route_of_chosen
    {entry : Sigma fun _ : String => ShardGroup}
    (rest : List Statement)
    (inTransaction : Bool)
    (known : r.orderedKeys ≠ [])
    (plain : Parser.isTxControl stmt = false)
    (keyed : r.routingKey exprString stmt = some key)
    (found : r.chosen range key = some entry) :
    (∃ tc, r.clients.lookup (r.turnOf stmt inTransaction entry.2).addr = some tc ∧
      (r.route exprString range (.ok (stmt :: rest)) inTransaction).1 =
        { tablets := [tc], write := Parser.isWrite stmt }) ∨
      (r.turnOf stmt inTransaction entry.2).addr ∉ r.clients ∧
        r.route exprString range (.ok (stmt :: rest)) inTransaction =
          r.scatterResult
            (r.pickOne (queryTypeOf stmt) inTransaction r.replicaCursor entry.2).2
            (queryTypeOf stmt) inTransaction := by
  have there : r.tabletForKeyLocked range key (queryTypeOf stmt) inTransaction =
      (r.clients.lookup (r.turnOf stmt inTransaction entry.2).addr,
        (r.pickOne (queryTypeOf stmt) inTransaction r.replicaCursor entry.2).2) := by
    unfold chosen at found
    rw [tabletForKeyLocked, found, turnOf, ← pickOne_fst]
  unfold queryTypeOf at there ⊢
  cases client : r.clients.lookup (r.turnOf stmt inTransaction entry.2).addr with
  | some tc =>
      left
      refine ⟨tc, rfl, ?_⟩
      rw [client] at there
      simp only [route, if_neg known, plain, Bool.false_eq_true, if_false, keyed, there]
  | none =>
      right
      refine ⟨AList.lookup_eq_none.mp client, ?_⟩
      rw [client] at there
      simp only [route, if_neg known, plain, Bool.false_eq_true, if_false, keyed, there]

variable {tablets : List Tablet}

/-- A scatter reaches the keyspace only, exactly if every connected turn is in it. -/
theorem native_scatter_iff
    (consistent : Consistent (wanted tablets) r)
    (cursor : Nat) :
    (∀ tc ∈ (r.scatterResult cursor (queryTypeOf stmt) inTransaction).1.tablets,
      Native tablets r tc.target) ↔ ScattersNatively tablets r stmt inTransaction cursor := by
  unfold ScattersNatively
  rw [scatterResult, scatterTablets_eq]
  constructor
  · intro native pick present connected
    obtain ⟨tc, kept⟩ := Option.isSome_iff_exists.mp (AList.lookup_isSome.mpr connected)
    have reached := native tc (List.mem_filterMap.mpr ⟨pick, present, kept⟩)
    rw [(consistent.clients _ tc kept).1] at reached
    exact reached
  · intro native tc routed
    obtain ⟨pick, present, kept⟩ := List.mem_filterMap.mp routed
    rw [(consistent.clients _ tc kept).1]
    exact native pick present
      (AList.lookup_isSome.mp (Option.isSome_iff_exists.mpr ⟨tc, kept⟩))

/-- Nothing is sent for transaction control or without groups. -/
theorem stays_of_unrouted (unrouted : Parser.isTxControl stmt = true ∨ r.orderedKeys = []) :
    StaysInKeyspace exprString tablets r stmt rest inTransaction := by
  have nothing : ∀ range,
      (r.route exprString range (.ok (stmt :: rest)) inTransaction).1.tablets = [] := by
    intro range
    unfold route
    split
    · rfl
    · rename_i known
      simp only [if_pos (unrouted.resolve_right known)]
  constructor
  · intro range tc routed
    rw [nothing range] at routed
    cases routed
  · intro range key shard group _ _ _ tc routed
    rw [nothing range] at routed
    cases routed

/-- Without groups no other keyspace is met. -/
theorem keptApart_of_empty
    (consistent : Consistent (wanted tablets) r)
    (empty : r.orderedKeys = []) : KeptApart exprString tablets r stmt inTransaction := by
  have scatters : ∀ cursor, ScattersNatively tablets r stmt inTransaction cursor := by
    intro cursor pick present
    rw [empty] at present
    cases present
  unfold KeptApart
  split
  · exact scatters _
  · refine ⟨fun _ => scatters _, ?_⟩
    intro shard group known
    rw [lookup_eq_none_of_orderedKeys consistent empty] at known
    cases known

section Known

variable {tablets : List Tablet} (consistent : Consistent (wanted tablets) r)
variable (known : r.orderedKeys ≠ []) (plain : Parser.isTxControl stmt = false)

include consistent known plain

theorem keptApart_of_stays (stays : StaysInKeyspace exprString tablets r stmt rest inTransaction) :
    KeptApart exprString tablets r stmt inTransaction := by
  have native := stays.native
  unfold KeptApart
  cases keyed : r.routingKey exprString stmt with
  | none =>
      rw [← native_scatter_iff consistent, ← route_of_keyless known plain keyed]
      exact native .stored
  | some key =>
      refine ⟨?_, ?_⟩
      · intro nowhere
        have missing : r.chosen .stored key = none := by
          cases found : r.chosen .stored key with
          | none => rfl
          | some entry =>
              obtain ⟨stored, contains⟩ := chosen_some found
              rw [nowhere entry.1 entry.2 stored] at contains
              cases contains
        rw [← native_scatter_iff consistent, ← route_of_unchosen known plain keyed missing]
        exact native .stored
      · intro shard group stored contains
        obtain ⟨range, found⟩ := exists_chosen stored contains
        rcases route_of_chosen rest inTransaction known plain keyed
          found with ⟨tc, kept, routed⟩ | ⟨unconnected, routed⟩
        · rw [if_pos (AList.lookup_isSome.mp (Option.isSome_iff_exists.mpr ⟨tc, kept⟩))]
          have reaches : tc ∈
              (r.route exprString range (.ok (stmt :: rest)) inTransaction).1.tablets := by
            rw [routed]
            exact List.mem_singleton.mpr rfl
          obtain ⟨right, there⟩ := stays.point range key shard group keyed found
            (by rw [routed]) tc reaches
          obtain ⟨tablet, recorded, inKeyspace⟩ := native range tc reaches
          rw [(consistent.clients _ tc kept).1] at recorded there
          rw [shardAt, recorded] at there
          refine ⟨right.keyspace, ⟨tablet, recorded, inKeyspace, Option.some.inj there⟩, ?_⟩
          intro other second otherStored otherContains
          obtain ⟨otherRange, otherFound⟩ := exists_chosen otherStored otherContains
          rw [right.orderless otherRange] at otherFound
          exact (congrArg Sigma.fst (Option.some.inj otherFound)).symm
        · rw [if_neg unconnected, ← native_scatter_iff consistent, ← routed]
          exact native range

theorem stays_of_keptApart (apart : KeptApart exprString tablets r stmt inTransaction) :
    StaysInKeyspace exprString tablets r stmt rest inTransaction := by
  unfold KeptApart at apart
  cases keyed : r.routingKey exprString stmt with
  | none =>
      rw [keyed] at apart
      constructor
      · intro range
        rw [route_of_keyless known plain keyed]
        exact (native_scatter_iff consistent _).mpr apart
      · intro range key shard group found
        rw [keyed] at found
        cases found
  | some key =>
      rw [keyed] at apart
      obtain ⟨nowhere, somewhere⟩ := apart
      constructor
      · intro range
        cases found : r.chosen range key with
        | none =>
            rw [route_of_unchosen known plain keyed found]
            exact (native_scatter_iff consistent _).mpr
              (nowhere fun shard group stored => chosen_none found stored)
        | some entry =>
            obtain ⟨stored, contains⟩ := chosen_some found
            have met := somewhere entry.1 entry.2 stored contains
            rcases route_of_chosen rest inTransaction known plain keyed
              found with ⟨tc, kept, routed⟩ | ⟨unconnected, routed⟩
            · rw [if_pos (AList.lookup_isSome.mp (Option.isSome_iff_exists.mpr ⟨tc, kept⟩))] at met
              obtain ⟨tablet, recorded, inKeyspace, _⟩ := met.tablet
              rw [routed]
              intro client listed
              rw [List.mem_singleton.mp listed, (consistent.clients _ tc kept).1]
              exact ⟨tablet, recorded, inKeyspace⟩
            · rw [if_neg unconnected] at met
              rw [routed]
              exact (native_scatter_iff consistent _).mpr met
      · intro range other shard group sameKey found direct
        obtain rfl : key = other := Option.some.inj (keyed.symm.trans sameKey)
        obtain ⟨stored, contains⟩ := chosen_some found
        have met := somewhere shard group stored contains
        rcases route_of_chosen rest inTransaction known plain keyed
          found with ⟨tc, kept, routed⟩ | ⟨_, routed⟩
        · rw [if_pos (AList.lookup_isSome.mp (Option.isSome_iff_exists.mpr ⟨tc, kept⟩))] at met
          obtain ⟨tablet, recorded, _, belongs⟩ := met.tablet
          rw [routed]
          intro client listed
          rw [List.mem_singleton.mp listed]
          refine ⟨⟨met.keyspace, ?_, ?_⟩, ?_⟩
          · intro second secondGroup secondStored _ secondContains
            exact met.alone second secondGroup secondStored secondContains
          · intro otherRange
            exact chosen_of_alone stored contains met.alone
          · rw [(consistent.clients _ tc kept).1, shardAt, recorded]
            exact congrArg some belongs
        · rw [routed, scatterResult_scatter] at direct
          cases direct

end Known

end Routing

/-- A statement stays in the keyspace of the schema, whatever the order in which the
groups are visited, exactly if it is not routed at all or no group of another keyspace
is met on its way. -/
theorem route_stays_in_keyspace_iff
    (exprString : Expr → String)
    {tablets : List Tablet}
    {r : Router}
    (reached : Reached tablets r)
    (stmt : Statement)
    (rest : List Statement)
    (inTransaction : Bool) :
    StaysInKeyspace exprString tablets r stmt rest inTransaction ↔
      Parser.isTxControl stmt = true ∨ KeptApart exprString tablets r stmt inTransaction := by
  have consistent := reached.consistent
  cases plain : Parser.isTxControl stmt with
  | true => exact ⟨fun _ => Or.inl rfl, fun _ => stays_of_unrouted (Or.inl plain)⟩
  | false =>
      by_cases empty : r.orderedKeys = []
      · exact ⟨fun _ => Or.inr (keptApart_of_empty consistent empty),
          fun _ => stays_of_unrouted (Or.inr empty)⟩
      · constructor
        · intro stays
          exact Or.inr (keptApart_of_stays consistent empty plain stays)
        · rintro (control | apart)
          · cases control
          · exact stays_of_keptApart consistent empty plain apart

/-- The key of a statement lies in the range of one of two shards. -/
theorem insert_stays_in_keyspace :
    StaysInKeyspace integralExternals.exprString twoShards twoShardRouter (insertUser "1") []
      false := by
  refine (route_stays_in_keyspace_iff integralExternals.exprString twoShardRouter_reached
    (insertUser "1") [] false).mpr (Or.inr ?_)
  have keyed :
      twoShardRouter.routingKey integralExternals.exprString (insertUser "1") = some 1 := by
    decide
  have alone : ∀ other second, twoShardRouter.shardGroups.lookup other = some second →
      second.contains 1 = true → other = "main/shard-0" := by
    intro other second known contains
    exact twoShardRouter_rangesDisjoint other "main/shard-0" second _ 1 known rfl contains
      (by decide)
  rw [KeptApart, keyed]
  refine ⟨fun nowhere => absurd (nowhere "main/shard-0" _ rfl) (by decide), ?_⟩
  intro shard group known contains
  obtain rfl := alone shard group known contains
  obtain rfl := Option.some.inj known
  rw [if_pos (by decide)]
  exact ⟨rfl, ⟨_, rfl, rfl, rfl⟩, alone⟩

/-- One shard in each of two keyspaces, with the same range. -/
def twoKeyspaces : List Tablet :=
  [{ keyspace := "main", shard := "shard-0", type := "PRIMARY", addr := "a:1"
     keyRangeStart := 0, keyRangeEnd := 5000 },
    { keyspace := "other", shard := "shard-0", type := "PRIMARY", addr := "b:1"
      keyRangeStart := 0, keyRangeEnd := 5000 }]

/-- The router of both keyspaces. -/
def twoKeyspaceRouter : Router :=
  (newRouter usersSchema).sync .stored (fun _ => true) twoKeyspaces

/-- A statement on the keyspace of the schema is sent to a tablet of another one. -/
theorem insert_leaves_keyspace :
    Reached twoKeyspaces twoKeyspaceRouter ∧ twoKeyspaceRouter.KeyspacesDisjoint ∧
      ¬ StaysInKeyspace integralExternals.exprString twoKeyspaces twoKeyspaceRouter
        (insertUser "1") [] false := by
  refine ⟨.sync _ _ _ (.start usersSchema), ?_, ?_⟩
  · have apart : ∀ first ∈ twoKeyspaceRouter.shardGroups.entries,
        ∀ second ∈ twoKeyspaceRouter.shardGroups.entries,
          first.2.keyspace = second.2.keyspace → first.1 = second.1 := by decide
    intro shard other group second key known otherKnown same _ _
    exact apart ⟨shard, group⟩ (AList.mem_lookup_iff.mp known) ⟨other, second⟩
      (AList.mem_lookup_iff.mp otherKnown) same
  · intro stays
    obtain ⟨tablet, recorded, inKeyspace⟩ := stays.native .stored ⟨0, "b:1"⟩ (by decide)
    rw [show (wanted twoKeyspaces).lookup "b:1" = some twoKeyspaces[1] from rfl] at recorded
    rw [← Option.some.inj recorded] at inKeyspace
    exact absurd inKeyspace (by decide)

end Router
end VScale
