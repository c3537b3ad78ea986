import VScale.Collections.Turns
import VScale.Router.Splitting

/-!
# How reads are spread over replicas

All groups take their turns from one cursor.  A scattered read advances it once
for each group with replicas, so the replicas of one group take turns in steps
of the number of such groups.
-/

namespace VScale
namespace Router

open Collections

/-- The results of routing reads outside a transaction, one after the other. -/
def readRun (exprString : Tree.Expr → String) :
    Router → List (RangeOrder × SqlText) → List RouteResult
  | _, [] => []
  | r, read :: reads =>
      (r.route exprString read.1 read.2 false).1 ::
        readRun exprString (r.route exprString read.1 read.2 false).2 reads

/-- Whether a shard has replicas. -/
def hasReplicas (r : Router) (shard : String) : Bool :=
  ((r.shardGroups.lookup shard).elim 0 fun group => group.replicas.length) != 0

/-- The number of groups among some shards that take a turn in a scattered read. -/
def advance (r : Router) (shards : List String) : Nat :=
  shards.countP r.hasReplicas

/-- A tablet receives a query. -/
def Selected (result : RouteResult) (addr : String) : Prop :=
  ∃ tc ∈ result.tablets, tc.target = addr

instance (result : RouteResult) (addr : String) : Decidable (Selected result addr) :=
  inferInstanceAs (Decidable (∃ tc ∈ _, _))

/-- The index that a pick computes from the cursor in the 64-bit integers of the source.
It can be negative once the cursor has wrapped around. -/
def replicaIndex (cursor replicas : Nat) : Int :=
  (Decimal.wrap64 (Decimal.wrap64 (cursor + 1) - 1)).tmod replicas

/-- Before the cursor wraps around, the index is that of an unbounded cursor. -/
theorem replicaIndex_eq
    {cursor : Nat}
    (unwrapped : cursor < 2 ^ 63)
    (replicas : Nat) :
    replicaIndex cursor replicas = (cursor % replicas : Nat) := by
  have fits : Decimal.InInt64 (cursor : Int) := by
    unfold Decimal.InInt64 Decimal.minInt64 Decimal.maxInt64
    omega
  rw [replicaIndex, Int.sub_eq_add_neg, Decimal.wrap64_wrap64_add, Int.add_neg_cancel_right,
    Decimal.wrap64_of_inInt64 fits, Int.ofNat_tmod]

section Cursor

variable {r : Router} {cursor : Nat}

theorem pickOne_cursor
    {shard : String}
    {group : ShardGroup}
    (known : r.shardGroups.lookup shard = some group) :
    (r.pickOne .read false cursor group).2 = cursor + [shard].countP r.hasReplicas := by
  have listed : r.hasReplicas shard = (group.replicas.length != 0) := by
    rw [hasReplicas, known]
    rfl
  have reading : (false || QueryType.read == .write) = false := rfl
  rw [List.countP_singleton, listed, pickOne, reading, if_neg Bool.false_ne_true, pickOneForRead]
  cases replicas : group.replicas with
  | nil => rfl
  | cons replica others =>
      have inside : cursor % (replica :: others).length < (replica :: others).length :=
        Nat.mod_lt cursor (Nat.zero_lt_succ _)
      rw [List.getElem?_eq_getElem inside]
      rfl

theorem scatterTablets_cursor (keys : List String) :
    (r.scatterTablets .read false cursor keys).2 = cursor + r.advance keys := by
  induction keys generalizing cursor with
  | nil => rfl
  | cons shard keys ih =>
      have parts : r.advance (shard :: keys) = [shard].countP r.hasReplicas + r.advance keys := by
        rw [advance, advance, ← List.countP_append]
        rfl
      rw [scatterTablets, parts]
      cases known : r.shardGroups.lookup shard with
      | none =>
          have unlisted : r.hasReplicas shard = false := by
            rw [hasReplicas, known]
            rfl
          rw [List.countP_singleton, unlisted, if_neg Bool.false_ne_true, Nat.zero_add]
          exact ih
      | some group =>
          simp only
          rw [ih, pickOne_cursor known, Nat.add_assoc]

end Cursor

section Picks

variable {r : Router} {tablets : List Tablet}

/-- A group that a scattered read visits has a registered tablet for it. -/
theorem pickedTablet_known
    (reached : Reached tablets r)
    {shard : String}
    {group : ShardGroup}
    (known : r.shardGroups.lookup shard = some group)
    (cursor : Nat) :
    (wanted tablets).lookup (pickedTablet .read false cursor group).addr =
        some (pickedTablet .read false cursor group) ∧
      (pickedTablet .read false cursor group).groupKey = shard := by
  obtain ⟨order, groups⟩ := reached.groups
  rw [groups] at known
  cases found : group.replicas[cursor % group.replicas.length]? with
  | some replica =>
      have picked : pickedTablet .read false cursor group = replica := by
        simp [pickedTablet, found]
      obtain ⟨kept, belongs, _⟩ := (mem_replicas_iff known).mp (List.mem_of_getElem? found)
      rw [picked]
      exact ⟨kept, belongs⟩
  | none =>
      have picked : pickedTablet .read false cursor group = group.primary := by
        simp [pickedTablet, found]
      rw [picked]
      obtain ⟨first, head, primary, replicas⟩ := group_of_lookup known
      have noReplica : group.replicas = [] := by
        by_contra some
        rw [List.getElem?_eq_getElem (Nat.mod_lt cursor (List.length_pos_iff.mpr some))] at found
        cases found
      have firstIsPrimary : isPrimary first = true := by
        by_contra other
        have listed : first ∈ group.replicas := by
          rw [replicas]
          exact List.mem_filter.mpr ⟨List.mem_of_head? head, by simpa using other⟩
        rw [noReplica] at listed
        cases listed
      have some : (recordsOf order.wanted (wanted tablets) shard).filter isPrimary ≠ [] :=
        List.ne_nil_of_mem (List.mem_filter.mpr ⟨List.mem_of_head? head, firstIsPrimary⟩)
      rw [List.getLast?_eq_some_getLast some, Option.getD_some] at primary
      rw [primary]
      exact mem_recordsOf_iff.mp (List.mem_filter.mp (List.getLast_mem some)).1

/-- A scattered read picks in a group by the cursor and the groups that come before. -/
theorem mem_scatterPicks_read
    {shard : String}
    {group : ShardGroup}
    {tablet : Tablet}
    (known : r.shardGroups.lookup shard = some group)
    (cursor : Nat)
    {keys : List String}
    (all : ∀ key ∈ keys, key ∈ r.shardGroups)
    (listed : shard ∈ keys)
    (distinct : keys.Nodup) :
    (shard, tablet) ∈ r.scatterPicks .read false cursor keys ↔
      tablet = pickedTablet .read false
        (cursor + r.advance (keys.takeWhile fun other => other != shard)) group := by
  induction keys generalizing cursor with
  | nil => cases listed
  | cons key keys ih =>
      obtain ⟨fresh, rest⟩ := List.nodup_cons.mp distinct
      obtain ⟨here, there⟩ := List.forall_mem_cons.mp all
      by_cases same : key = shard
      · subst same
        have later : ∀ turn, (key, tablet) ∉ r.scatterPicks .read false turn keys := by
          intro turn present
          have inside := List.mem_map_of_mem (f := Prod.fst) present
          rw [scatterPicks_keys r .read false turn there] at inside
          exact fresh inside
        rw [scatterPicks, known]
        simp only [List.mem_cons, Prod.mk.injEq, true_and, later, or_false]
        simp [advance]
      · obtain ⟨other, otherKnown⟩ := Option.isSome_iff_exists.mp (AList.lookup_isSome.mpr here)
        have different : (shard, tablet) ≠ (key, pickedTablet .read false cursor other) :=
          fun equal => same (congrArg Prod.fst equal).symm
        have further := (List.mem_cons.mp listed).resolve_left fun equal => same equal.symm
        rw [scatterPicks, otherKnown]
        simp only [List.mem_cons, different, false_or]
        rw [ih _ there further rest, pickOne_cursor otherKnown,
          List.takeWhile_cons_of_pos (by simpa using same), Nat.add_assoc, advance, advance,
          ← List.countP_append]
        rfl

/-- The number of turns taken before a shard in every scattered read. -/
def placeOf (r : Router) (shard : String) : Nat :=
  r.advance (r.orderedKeys.takeWhile fun other => other != shard)

variable (reached : Reached tablets r) (connected : ∀ addr ∈ wanted tablets, addr ∈ r.clients)
  {shard : String} {group : ShardGroup} (known : r.shardGroups.lookup shard = some group)

include reached connected

theorem targets_of_read (cursor : Nat) :
    (r.scatterTablets .read false cursor r.orderedKeys).1.map TabletClient.target =
      (r.scatterPicks .read false cursor r.orderedKeys).map fun pick => pick.2.addr := by
  rw [scatterTablets_targets r .read false reached.consistent, List.filter_eq_self.mpr]
  intro pick present
  obtain ⟨turn, group, known, picked⟩ := group_of_mem_scatterPicks present
  obtain ⟨recorded, _⟩ := pickedTablet_known reached known turn
  rw [← picked] at recorded
  exact AList.lookup_isSome.mpr
    (connected _ (AList.lookup_isSome.mp (Option.isSome_iff_exists.mpr ⟨_, recorded⟩)))

include known

/-- A replica receives a scattered read when the cursor comes to its place. -/
theorem selected_iff
    (cursor : Nat)
    {index : Nat}
    (inside : index < group.replicas.length) :
    Selected (r.scatterResult cursor .read false).1 group.replicas[index].addr ↔
      (cursor + r.placeOf shard) % group.replicas.length = index := by
  have consistent := reached.consistent
  have listed : shard ∈ r.orderedKeys := consistent.ordered.mem_iff.mpr
    (AList.lookup_isSome.mp (Option.isSome_iff_exists.mpr ⟨group, known⟩))
  have distinct : r.orderedKeys.Nodup := consistent.ordered.nodup_iff.mpr r.shardGroups.keys_nodup
  obtain ⟨recorded, belongs⟩ := (consistent.groups shard group known).replicas _
    (List.getElem_mem inside)
  have received : Selected (r.scatterResult cursor .read false).1 group.replicas[index].addr ↔
      (shard, group.replicas[index]) ∈ r.scatterPicks .read false cursor r.orderedKeys := by
    have target : Selected (r.scatterResult cursor .read false).1 group.replicas[index].addr ↔
        group.replicas[index].addr ∈
          (r.scatterTablets .read false cursor r.orderedKeys).1.map TabletClient.target :=
      List.mem_map.symm
    rw [target, targets_of_read reached connected, List.mem_map]
    constructor
    · rintro ⟨pick, present, same⟩
      obtain ⟨turn, other, otherKnown, picked⟩ := group_of_mem_scatterPicks present
      obtain ⟨pickRecorded, pickBelongs⟩ := pickedTablet_known reached otherKnown turn
      rw [← picked, same, recorded] at pickRecorded
      injection pickRecorded with equal
      rw [← picked, ← equal, belongs] at pickBelongs
      rwa [equal, pickBelongs]
    · intro present
      exact ⟨_, present, rfl⟩
  have bound : (cursor + r.placeOf shard) % group.replicas.length < group.replicas.length :=
    Nat.mod_lt _ (Nat.zero_lt_of_lt inside)
  have turn : pickedTablet .read false (cursor + r.placeOf shard) group =
      group.replicas[(cursor + r.placeOf shard) % group.replicas.length] := by
    simp [pickedTablet, List.getElem?_eq_getElem bound]
  have different : group.replicas.Nodup := by
    obtain ⟨order, groups⟩ := reached.groups
    rw [groups] at known
    exact nodup_replicas known
  rw [received, mem_scatterPicks_read known cursor
    (fun key present => consistent.ordered.mem_iff.mp present) listed distinct]
  change _ = pickedTablet .read false (cursor + r.placeOf shard) group ↔ _
  rw [turn, different.getElem_inj_iff, eq_comm]

end Picks

section Run

variable {exprString : Tree.Expr → String} {r : Router} {tablets : List Tablet}
  (connected : ∀ addr ∈ wanted tablets, addr ∈ r.clients)

/-- Picking depends on the cursor that it is given alone. -/
theorem scatterTablets_turn
    (turn cursor : Nat)
    (keys : List String) :
    ({ r with replicaCursor := turn } : Router).scatterTablets .read false cursor keys =
      r.scatterTablets .read false cursor keys := by
  induction keys generalizing cursor with
  | nil => rfl
  | cons key keys ih =>
      unfold scatterTablets
      cases r.shardGroups.lookup key with
      | none => exact ih cursor
      | some group =>
          simp only [ih]
          rfl

variable (reached : Reached tablets r)

include reached connected

variable {range : RangeOrder}

/-- With all clients, a lookup by key that fails has not moved the cursor. -/
theorem tabletForKeyLocked_none
    {key : Int}
    {cursor : Nat}
    (failed : r.tabletForKeyLocked range key .read false = (none, cursor)) :
    cursor = r.replicaCursor := by
  unfold tabletForKeyLocked at failed
  split at failed
  · rename_i entry visited
    obtain ⟨known, _⟩ := group_of_visited r range visited
    obtain ⟨recorded, _⟩ := pickedTablet_known reached known r.replicaCursor
    have client := connected _ (AList.lookup_isSome.mp (Option.isSome_iff_exists.mpr ⟨_, recorded⟩))
    have picked := congrArg Prod.fst failed
    rw [pickOne_fst] at picked
    rw [← AList.lookup_isSome, picked] at client
    cases client
  · exact (congrArg Prod.snd failed).symm

theorem route_of_scattered_read
    {query : SqlText}
    (scattered : (r.route exprString range query false).1.scatter = true)
    (reading : (r.route exprString range query false).1.write = false) :
    r.route exprString range query false = r.scatterResult r.replicaCursor .read false := by
  by_cases empty : r.orderedKeys = []
  · simp [route, empty] at scattered
  rcases query with failure | _ | ⟨stmt, rest⟩
  · simp [route, empty]
  · simp [route, empty]
  · by_cases control : Parser.isTxControl stmt = true
    · simp [route, empty, control] at scattered
    unfold route at scattered reading ⊢
    rw [if_neg empty] at scattered reading ⊢
    simp only [control, Bool.false_eq_true, if_false] at scattered reading ⊢
    have kind : ∀ cursor, (r.scatterResult cursor (if Parser.isWrite stmt = true then .write
        else .read) false).1.write = false → (if Parser.isWrite stmt = true then QueryType.write
        else .read) = .read := by
      intro cursor unwritten
      split at unwritten
      · cases unwritten
      · rename_i plain
        rw [if_neg plain]
    cases keyed : r.routingKey exprString stmt with
    | none =>
        simp only [keyed] at reading ⊢
        rw [kind _ reading]
    | some key =>
        simp only [keyed] at scattered reading ⊢
        cases found : r.tabletForKeyLocked range key
            (if Parser.isWrite stmt = true then .write else .read) false with
        | mk client cursor =>
            rw [found] at scattered reading
            cases client with
            | some tc => cases scattered
            | none =>
                have isRead := kind cursor reading
                simp only [isRead] at found ⊢
                rw [tabletForKeyLocked_none connected reached found]

/-- Every read of a run starts where the one before has left the cursor. -/
theorem readRun_eq
    (reads : List (RangeOrder × SqlText))
    (scattered : ∀ result ∈ r.readRun exprString reads,
      result.scatter = true ∧ result.write = false) :
    r.readRun exprString reads =
      (List.range reads.length).map fun round =>
        (r.scatterResult (r.replicaCursor + round * r.advance r.orderedKeys) .read false).1 := by
  induction reads generalizing r with
  | nil => rfl
  | cons read reads ih =>
      obtain ⟨here, there⟩ := List.forall_mem_cons.mp scattered
      have routed := route_of_scattered_read connected reached here.1 here.2
      have turned : (r.route exprString read.1 read.2 false).2 =
          { r with replicaCursor := r.replicaCursor + r.advance r.orderedKeys } := by
        rw [routed, scatterResult, scatterTablets_cursor]
      rw [turned] at there
      have rest := ih
        (r := { r with replicaCursor := r.replicaCursor + r.advance r.orderedKeys })
        connected (.turn _ reached) there
      rw [readRun, turned, rest, routed, List.length_cons, List.range_succ_eq_map, List.map_cons,
        List.map_map, Nat.zero_mul, Nat.add_zero]
      congr 1
      apply List.map_congr_left
      intro round _
      have next : r.replicaCursor + r.advance r.orderedKeys + round * r.advance r.orderedKeys =
          r.replicaCursor + round.succ * r.advance r.orderedKeys := by
        rw [Nat.succ_mul]
        omega
      rw [Function.comp_apply, ← next, scatterResult, scatterResult]
      simp only [scatterTablets_turn]
      rfl

end Run

/-- Replicas take scattered reads in turn exactly when, in every group with replicas, their
number is coprime to the number of such groups or the reads do not go beyond one period. -/
theorem reads_spread_over_replicas_iff
    (exprString : Tree.Expr → String)
    {tablets : List Tablet}
    {r : Router}
    (reached : Reached tablets r)
    (connected : ∀ addr ∈ wanted tablets, addr ∈ r.clients)
    (reads : List (RangeOrder × SqlText))
    (scattered : ∀ result ∈ r.readRun exprString reads,
      result.scatter = true ∧ result.write = false)
    (unwrapped : r.replicaCursor + reads.length * r.advance r.orderedKeys ≤ 2 ^ 63) :
    (∀ pick < reads.length * r.advance r.orderedKeys, ∀ replicas,
      replicaIndex (r.replicaCursor + pick) replicas =
        ((r.replicaCursor + pick) % replicas : Nat)) ∧
    ((∀ shard group, r.shardGroups.lookup shard = some group → ∀ replica ∈ group.replicas,
      reads.length / group.replicas.length ≤
          (r.readRun exprString reads).countP (fun result => Selected result replica.addr) ∧
        (r.readRun exprString reads).countP (fun result => Selected result replica.addr) ≤
          (reads.length + group.replicas.length - 1) / group.replicas.length) ↔
      ∀ shard group, r.shardGroups.lookup shard = some group → group.replicas ≠ [] →
        Nat.Coprime (r.advance r.orderedKeys) group.replicas.length ∨
          reads.length * Nat.gcd (r.advance r.orderedKeys) group.replicas.length ≤
            group.replicas.length) := by
  refine ⟨fun pick inside => replicaIndex_eq (by omega), ?_⟩
  have counted : ∀ shard group, r.shardGroups.lookup shard = some group →
      ∀ index (inside : index < group.replicas.length),
        (r.readRun exprString reads).countP
            (fun result => Selected result group.replicas[index].addr) =
          turns (r.replicaCursor + r.placeOf shard) (r.advance r.orderedKeys)
            group.replicas.length reads.length index := by
    intro shard group known index inside
    rw [readRun_eq connected reached reads scattered, List.countP_map, turns]
    apply List.countP_congr
    intro round _
    simp only [Function.comp_apply, decide_eq_true_eq]
    rw [selected_iff reached connected known, Nat.add_right_comm]
  have spread : ∀ shard group, r.shardGroups.lookup shard = some group →
      ((∀ replica ∈ group.replicas,
        reads.length / group.replicas.length ≤
            (r.readRun exprString reads).countP (fun result => Selected result replica.addr) ∧
          (r.readRun exprString reads).countP (fun result => Selected result replica.addr) ≤
            (reads.length + group.replicas.length - 1) / group.replicas.length) ↔
        EvenlySpread (r.replicaCursor + r.placeOf shard) (r.advance r.orderedKeys)
          group.replicas.length reads.length) := by
    intro shard group known
    constructor
    · intro even index inside
      rw [← counted shard group known index inside]
      exact even _ (List.getElem_mem inside)
    · intro even replica present
      obtain ⟨index, inside, rfl⟩ := List.mem_iff_getElem.mp present
      rw [counted shard group known index inside]
      exact even index inside
  refine forall_congr' fun shard => forall_congr' fun group => imp_congr_right fun known => ?_
  rw [spread shard group known]
  by_cases none : group.replicas = []
  · refine iff_of_true ?_ (absurd none)
    intro index inside
    rw [none] at inside
    cases inside
  · rw [evenlySpread_iff (List.length_pos_iff.mpr none)]
    exact ⟨fun spreads _ => spreads, fun spreads => spreads none⟩

/-- A replica of one of two shards. -/
def replicaOf (shard addr : String) : Tablet :=
  { keyspace := "main", shard := shard, type := "REPLICA", addr := addr }

/-- Two shards of which one has two replicas. -/
def unevenShards : List Tablet :=
  replicaOf "shard-0" "c:1" :: replicaOf "shard-0" "d:1" :: twoShards

/-- The router of these shards. -/
def unevenRouter : Router :=
  (newRouter usersSchema).sync .stored (fun _ => true) unevenShards

/-- Of three reads each of the two replicas takes one or two. -/
theorem reads_alternate_with_one_replicated_shard :
    1 ≤ (unevenRouter.readRun integralExternals.exprString
          (List.replicate 3 (.stored, .ok [readUsers]))).countP
          (fun result => Selected result "c:1") ∧
      (unevenRouter.readRun integralExternals.exprString
          (List.replicate 3 (.stored, .ok [readUsers]))).countP
          (fun result => Selected result "c:1") ≤ 2 := by
  have replicas : (unevenRouter.shardGroups.lookup "main/shard-0").map ShardGroup.replicas =
      some [replicaOf "shard-0" "d:1", replicaOf "shard-0" "c:1"] := by decide
  obtain ⟨group, known, listed⟩ := Option.map_eq_some_iff.mp replicas
  have one : unevenRouter.advance unevenRouter.orderedKeys = 1 := by decide
  have even := (reads_spread_over_replicas_iff integralExternals.exprString
    (.sync .stored (fun _ => true) unevenShards (.start usersSchema)) (by decide)
    (List.replicate 3 (.stored, .ok [readUsers])) (by decide) (by decide)).2.mpr
    (fun _ _ _ _ => .inl (one ▸ Nat.coprime_one_left _))
    "main/shard-0" group known (replicaOf "shard-0" "c:1") (by rw [listed]; decide)
  rw [listed] at even
  exact even

/-- Two shards with two replicas each. -/
def pairedShards : List Tablet :=
  replicaOf "shard-1" "e:1" :: replicaOf "shard-1" "f:1" :: unevenShards

/-- The router of these shards. -/
def pairedRouter : Router :=
  (newRouter usersSchema).sync .stored (fun _ => true) pairedShards

/-- All reads go to the same replica of each shard, and none to the other one. -/
theorem paired_replicas_starve :
    (pairedRouter.shardGroups.lookup "main/shard-0").map ShardGroup.replicas =
        some [replicaOf "shard-0" "d:1", replicaOf "shard-0" "c:1"] ∧
      (pairedRouter.readRun integralExternals.exprString
          (List.replicate 4 (.stored, .ok [readUsers]))).map
          (fun result => (result.scatter, result.tablets.map TabletClient.target)) =
        List.replicate 4 (true, ["d:1", "e:1"]) ∧
      (pairedRouter.readRun integralExternals.exprString
          (List.replicate 4 (.stored, .ok [readUsers]))).countP
          (fun result => Selected result "c:1") = 0 := by
  decide

end Router
end VScale
