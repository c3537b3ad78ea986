import VScale.Externals
import VScale.Router.Routing
import VScale.Sql.Condition

/-!
# Point routing misses no row

A statement that is not scattered reaches the only shard on which a selected
row can be stored.
-/

namespace VScale
namespace Router

open Collections Tree

variable {Row : Type}

/-- Each stored row lies on a shard whose range contains its key. -/
def Placed (r : Router) (sem : RowSemantics Row) (stored : String → Row → Prop) : Prop :=
  ∀ shard row, stored shard row →
    ∃ group, r.shardGroups.lookup shard = some group ∧ group.contains (sem.key row) = true

variable {r : Router}

/-- A router without ordered keys knows no shard group. -/
theorem lookup_eq_none_of_orderedKeys
    {want : Map String Tablet}
    (consistent : Consistent want r)
    (empty : r.orderedKeys = [])
    (shard : String) :
    r.shardGroups.lookup shard = none := by
  have keys : r.shardGroups.keys = [] := by
    have same := consistent.ordered
    rw [empty] at same
    exact same.nil_eq.symm
  rw [AList.lookup_eq_none]
  intro present
  have listed : shard ∈ r.shardGroups.keys := present
  rw [keys] at listed
  cases listed

/-- The routing key of a statement is the key of every row its condition selects. -/
theorem key_of_routingKey
    {exprString : Expr → String}
    {stmt : Statement}
    {table column : String}
    {filter : Option Expr}
    (single : SingleTable stmt table filter)
    (sharded : r.vs.shardKeyColumn table = some column)
    {sem : RowSemantics Row}
    (literals : sem.KeyLiterals exprString column)
    {key : Int}
    (keyed : r.routingKey exprString stmt = some key)
    {row : Row}
    (selected : sem.Selects filter row) :
    sem.key row = key := by
  unfold routingKey at keyed
  split at keyed
  · cases keyed
  · rename_i found named
    obtain rfl := single.table_eq named
    simp only [sharded, single.equalityValue] at keyed
    split at keyed
    · cases keyed
    obtain ⟨text, found, parsed⟩ := Option.bind_eq_some_iff.mp keyed
    obtain ⟨expr, given, equality⟩ := Option.bind_eq_some_iff.mp found
    exact RowSemantics.key_of_equalityInExpr literals equality parsed (selected expr given)

/-- When a statement on a sharded table is not scattered, every row it selects,
on any shard, is stored on the shard of a tablet it is sent to. -/
theorem point_routing_reaches_selected_rows
    (ext : Externals)
    {tablets : List Tablet}
    {r : Router}
    (reached : Reached tablets r)
    (addressed : ∀ tablet ∈ tablets, tablet.addr ≠ "")
    (disjoint : r.RangesDisjoint)
    {stmt : Statement}
    {table column : String}
    {filter : Option Expr}
    (single : SingleTable stmt table filter)
    (sharded : r.vs.shardKeyColumn table = some column)
    (sem : RowSemantics Row)
    (literals : sem.KeyLiterals ext.exprString column)
    (stored : String → Row → Prop)
    (placed : r.Placed sem stored)
    (range : RangeOrder)
    (rest : List Statement)
    (inTransaction : Bool)
    (direct : (r.route ext.exprString range (.ok (stmt :: rest)) inTransaction).1.scatter = false)
    (shard : String)
    (row : Row)
    (present : stored shard row)
    (selected : sem.Selects filter row) :
    ∃ tc ∈ (r.route ext.exprString range (.ok (stmt :: rest)) inTransaction).1.tablets,
      shardAt tablets tc.target = some shard := by
  have consistent := reached.consistent
  obtain ⟨group, known, contains⟩ := placed shard row present
  have some_keys : r.orderedKeys ≠ [] := by
    intro empty
    rw [lookup_eq_none_of_orderedKeys consistent empty] at known
    cases known
  rcases route_cases ext.exprString r range stmt rest inTransaction some_keys
    single.not_isTxControl with
    ⟨tc, ⟨key, home, homeGroup, keyed, homeKnown, holds, picked⟩, routed⟩ | scattered
  · rw [routed]
    refine ⟨tc, List.mem_singleton.mpr rfl, ?_⟩
    have sameKey := key_of_routingKey single sharded literals keyed selected
    rw [sameKey] at contains
    have sameShard : shard = home := disjoint shard home group homeGroup key known homeKnown
      contains holds
    rw [sameShard]
    exact shardAt_of_pickOne consistent addressed homeKnown picked
  · rw [scattered, scatterResult_scatter] at direct
    cases direct

/-- Ranges are disjoint when of any two shards one ends before the other starts. -/
theorem rangesDisjoint_of_entries
    (apart : ∀ first ∈ r.shardGroups.entries, ∀ second ∈ r.shardGroups.entries,
      first.1 = second.1 ∨
        first.2.keyRangeEnd ≤ second.2.keyRangeStart ∨
        second.2.keyRangeEnd ≤ first.2.keyRangeStart) :
    r.RangesDisjoint := by
  intro shard other group second key known otherKnown contains otherContains
  have first : (⟨shard, group⟩ : Sigma fun _ : String => ShardGroup) ∈ r.shardGroups.entries :=
    AList.mem_lookup_iff.mp known
  have last : (⟨other, second⟩ : Sigma fun _ : String => ShardGroup) ∈ r.shardGroups.entries :=
    AList.mem_lookup_iff.mp otherKnown
  simp only [ShardGroup.contains, Bool.and_eq_true, decide_eq_true_eq] at contains otherContains
  rcases apart _ first _ last with same | before | after
  · exact same
  · simp only at before
    omega
  · simp only at after
    omega

/-- Visit every map as it is stored. -/
def SyncOrder.stored : SyncOrder :=
  ⟨.stored, .stored, .stored, .stored, .stored⟩

/-- Users are sharded by their id. -/
def usersSchema : VSchema where
  keyspace := "main"
  shardedTables := AList.insert "users" "id" ∅

/-- A primary for each half of the ids below 10000. -/
def twoShards : List Tablet :=
  [{ keyspace := "main", shard := "shard-0", type := "PRIMARY", addr := "a:1"
     keyRangeStart := 0, keyRangeEnd := 5000 },
    { keyspace := "main", shard := "shard-1", type := "PRIMARY", addr := "b:1"
      keyRangeStart := 5000, keyRangeEnd := 10000 }]

/-- The router after an update to two shards, all of them connected. -/
def twoShardRouter : Router :=
  (newRouter usersSchema).sync .stored (fun _ => true) twoShards

theorem twoShardRouter_reached : Reached twoShards twoShardRouter :=
  .sync _ _ _ (.start usersSchema)

theorem twoShardRouter_rangesDisjoint : twoShardRouter.RangesDisjoint :=
  rangesDisjoint_of_entries (by decide)

/-- Rows that consist of their key, where an equality compares with a printed
integer and everything else is unknown. -/
def keyRows (exprString : Expr → String) : RowSemantics Int where
  key := id
  atom := fun row expr =>
    match expr with
    | .comparisonExpr .eq (.unresolvedName _) right =>
        if Decimal.parseInt (Parser.stripQuotes (exprString right)) = some row then .true
        else .false
    | _ => .unknown

theorem keyRows_keyLiterals
    (exprString : Expr → String)
    (column : String) :
    (keyRows exprString).KeyLiterals exprString column := by
  intro row parts right value _ parsed holds
  simp only [keyRows, parsed] at holds
  split at holds
  · rename_i same
    injection same with equal
    exact equal.symm
  · cases holds

/-- The tree of `INSERT INTO users (id) VALUES (...), ...` for the given ids. -/
def insertUsers (ids : List Expr) (sql : String) : Statement where
  ast := .insert
    { table := .tableName ⟨none, "users"⟩
      columns := ["id"]
      rows := { select := .valuesClause (ids.map fun id => [id]) }
      returning := false }
  sql := sql

/-- `INSERT INTO users (id) VALUES (...)` for one id. -/
def insertUser (id : String) : Statement :=
  insertUsers [.numVal id] ("INSERT INTO users (id) VALUES (" ++ id ++ ")")

/-- The condition `id = 1`. -/
def idIsOne : Expr :=
  .comparisonExpr .eq (.unresolvedName ["id"]) (.numVal "1")

/-- The clause `SELECT id FROM users WHERE id = 1`. -/
def userOneClause : SelectClause where
  exprs := [{ expr := .unresolvedName ["id"], as := "" }]
  tables := [.listed "users"]
  filter := some idIsOne

/-- `SELECT id FROM users WHERE id = 1`. -/
def selectUserOne : Statement :=
  ⟨.select { select := .selectClause userOneClause }, "SELECT id FROM users WHERE id = 1"⟩

theorem point_routing_reaches_user_one :
    ∃ tc ∈ (twoShardRouter.route integralExternals.exprString .stored
        (.ok [selectUserOne]) false).1.tablets,
      shardAt twoShards tc.target = some "main/shard-0" :=
  point_routing_reaches_selected_rows integralExternals twoShardRouter_reached (by decide)
    twoShardRouter_rangesDisjoint
    (@SingleTable.select _ userOneClause _ ⟨none, "users"⟩ _ rfl rfl rfl)
    (show twoShardRouter.vs.shardKeyColumn "users" = some "id" by decide)
    (keyRows integralExternals.exprString) (keyRows_keyLiterals _ _)
    (fun shard row => shard = "main/shard-0" ∧ row = 1)
    (by
      rintro shard row ⟨rfl, rfl⟩
      exact ⟨_, rfl, by decide⟩)
    .stored [] false (by decide) "main/shard-0" 1 ⟨rfl, rfl⟩ (by
      intro expr given
      injection given with same
      rw [← same]
      decide)

end Router
end VScale
