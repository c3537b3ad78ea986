import VScale.Gate.ScatterCoverage

/-!
# Where inserted rows end up

An INSERT with literal rows puts every row on the shard that owns its key when
it can be routed to that shard, or when a single primary is connected and owns
all keys.  In every other case it is scattered to all connected primaries.
-/

namespace VScale

open Collections Effects Router Tree

/-- An INSERT of literal rows into a table, with or without an alias. -/
structure InsertValues
    (stmt : Statement)
    (table : String)
    (columns : List String)
    (rows : List (List Expr)) : Prop where
  parsed : ∃ ins name, stmt.ast = .insert ins ∧ ins.table.named = some name ∧
    name.table = table ∧ ins.columns = columns ∧ ins.rows.select = .valuesClause rows
  nonempty : rows ≠ []

namespace InsertValues

variable {stmt : Statement} {table : String} {columns : List String} {rows : List (List Expr)}

theorem not_isTxControl (insert : InsertValues stmt table columns rows) :
    Parser.isTxControl stmt = false := by
  obtain ⟨ins, name, ast, _⟩ := insert.parsed
  simp [Parser.isTxControl, Parser.isBegin, Parser.isCommit, Parser.isRollback, ast,
    Ast.statementTag]

theorem queryTypeOf (insert : InsertValues stmt table columns rows) :
    queryTypeOf stmt = .write := by
  obtain ⟨ins, name, ast, _⟩ := insert.parsed
  simp [Router.queryTypeOf, Parser.isWrite, ast, Ast.canWriteData]

/-- A routing key comes from the only row, at the position of the key column. -/
theorem row_of_routingKey
    (insert : InsertValues stmt table columns rows)
    {exprString : Expr → String}
    {r : Router}
    {column : String}
    {key : Int}
    (sharded : r.vs.shardKeyColumn table = some column)
    (keyed : r.routingKey exprString stmt = some key) :
    ∃ index row expr, Parser.columnIndex columns column = some index ∧ rows = [row] ∧
      row[index]? = some expr ∧
      Decimal.parseInt (Parser.stripQuotes (exprString expr)) = some key := by
  obtain ⟨ins, name, ast, target, rfl, rfl, values⟩ := insert.parsed
  unfold routingKey at keyed
  split at keyed
  · cases keyed
  · rename_i found tableFound
    have same : found = name.table := by
      simp only [Parser.getTableName, ast] at tableFound
      split at tableFound
      · rename_i bare
        rw [bare] at target
        rw [← Except.ok.inj tableFound, ← Option.some.inj target]
      · cases tableFound
    simp only [same, sharded, Parser.equalityValue, ast] at keyed
    split at keyed
    · cases keyed
    obtain ⟨text, found, parsed⟩ := Option.bind_eq_some_iff.mp keyed
    cases position : Parser.columnIndex ins.columns column with
    | none =>
        rw [position] at found
        cases found
    | some index =>
        rw [position, values] at found
        simp only at found
        split at found
        · rename_i row single
          injection single with oneRow
          obtain ⟨expr, cell, rfl⟩ := Option.map_eq_some_iff.mp found
          exact ⟨index, row, expr, rfl, oneRow, cell, parsed⟩
        · cases found

end InsertValues

/-- The key each row gets on a tablet.  Where the row gives a literal for the
key column, that literal is the key. -/
def LiteralKeys
    (exprString : Expr → String)
    (column : String)
    (columns : List String)
    (rows : List (List Expr))
    (keyAt : String → Nat → Option Int) : Prop :=
  ∀ index i row expr value,
    Parser.columnIndex columns column = some index →
    rows[i]? = some row → row[index]? = some expr →
    Decimal.parseInt (Parser.stripQuotes (exprString expr)) = some value →
    ∀ addr, keyAt addr i = some value

/-- The tablet at an address belongs to the shard that owns a row's key. -/
def OwnsRow
    (tablets : List Tablet)
    (r : Router)
    (keyAt : String → Nat → Option Int)
    (addr : String)
    (i : Nat) : Prop :=
  ∃ shard group key, shardAt tablets addr = some shard ∧
    r.shardGroups.lookup shard = some group ∧
    keyAt addr i = some key ∧ group.contains key = true

/-- Some shard with a connected primary would own the row. -/
def ReachableOwner (r : Router) (keyAt : String → Nat → Option Int) (i : Nat) : Prop :=
  ∃ shard group tc key, r.shardGroups.lookup shard = some group ∧
    r.clients.lookup group.primary.addr = some tc ∧
    keyAt tc.target i = some key ∧ group.contains key = true

/-- In every run the statement is executed at most once, only by a tablet that
owns all rows, and it is answered with an error if some row has no reachable
owner. -/
def InsertsOnOwner
    (ext : Externals)
    (tablets : List Tablet)
    (r : Router)
    (range : RangeOrder)
    (stmt : Statement)
    (size : Nat)
    (keyAt : String → Nat → Option Int)
    (transactionId : Int) :
    Prop :=
  ∀ (caller : Caller) (w : World) (strategy : Strategy gate World Choice Move),
    w.log = [] → DecidedBy ext r range caller strategy ⟨.ok [stmt], transactionId⟩ w →
      (∀ addr ∈ (serve ext caller strategy ⟨.ok [stmt], transactionId⟩ w).2.executions,
        ∀ i < size, OwnsRow tablets r keyAt addr i) ∧
      (serve ext caller strategy ⟨.ok [stmt], transactionId⟩ w).2.executions.length ≤ 1 ∧
      ((∃ i < size, ¬ ReachableOwner r keyAt i) →
        ¬ (serve ext caller strategy ⟨.ok [stmt], transactionId⟩ w).1.Answered)

/-- A single shard has a connected primary, and it owns every row. -/
def SoleOwner (r : Router) (size : Nat) (keyAt : String → Nat → Option Int) : Prop :=
  ∃ shard group tc, r.shardGroups.lookup shard = some group ∧
    r.clients.lookup group.primary.addr = some tc ∧
    (∀ other second, r.shardGroups.lookup other = some second →
      (r.clients.lookup second.primary.addr).isSome → other = shard) ∧
    ∀ i < size, ∃ key, keyAt tc.target i = some key ∧ group.contains key = true

section Placement

variable {ext : Externals} {tablets : List Tablet} {r : Router} {range : RangeOrder}
variable {stmt : Statement} {keyAt : String → Nat → Option Int}

variable {transactionId : Int} {tc : TabletClient}

/-- The statement is placed correctly when its only target owns every row. -/
theorem insertsOnOwner_of_target
    (plain : Parser.isTxControl stmt = false)
    {size : Nat}
    {addr : String}
    (routed : RouteResult.targets
      (r.route ext.exprString range (.ok [stmt]) (decide (transactionId ≠ 0))).1 = [addr])
    (owns : ∀ i < size, OwnsRow tablets r keyAt addr i)
    (reachable : ∀ i < size, ReachableOwner r keyAt i) :
    InsertsOnOwner ext tablets r range stmt size keyAt transactionId := by
  intro caller w strategy fresh decided
  obtain ⟨selected, _⟩ := executions_of_targets ext plain routed fresh decided
  refine ⟨?_, selected.length_le, ?_⟩
  · intro executed present i within
    rw [List.mem_singleton.mp (selected.subset present)]
    exact owns i within
  · rintro ⟨i, within, unreachable⟩
    exact absurd (reachable i within) unreachable

/-- Without known groups nothing is executed and the request fails. -/
theorem insertsOnOwner_of_no_groups
    (plain : Parser.isTxControl stmt = false)
    (transactionId : Int)
    (size : Nat)
    (empty : r.orderedKeys = []) :
    InsertsOnOwner ext tablets r range stmt size keyAt transactionId := by
  have decision : (r.route ext.exprString range (.ok [stmt])
      (decide (transactionId ≠ 0))).1 = {} := by
    rw [route, if_pos empty]
  intro caller w strategy fresh decided
  have targets : RouteResult.targets
      (r.route ext.exprString range (.ok [stmt]) (decide (transactionId ≠ 0))).1 = [] := by
    rw [decision]
    rfl
  obtain ⟨selected, _⟩ := executions_of_targets ext plain targets fresh decided
  obtain ⟨_, possible⟩ := delivered_serve ext plain decided
  rw [List.sublist_nil.mp selected]
  refine ⟨List.forall_mem_nil _, Nat.zero_le 1, ?_⟩
  intro _ answered
  rw [decision] at possible
  rcases possible answered with some | scatter
  · exact some rfl
  · cases scatter

section Consistent

variable
  (consistent : Consistent (wanted tablets) r)
  (addressed : ∀ tablet ∈ tablets, tablet.addr ≠ "")
include consistent addressed

/-- The tablet that a connected primary's client reaches owns what its group
contains. -/
theorem ownsRow_of_primary
    {shard : String}
    {group : ShardGroup}
    {i : Nat}
    {key : Int}
    (known : r.shardGroups.lookup shard = some group)
    (connected : r.clients.lookup group.primary.addr = some tc)
    (keyed : keyAt tc.target i = some key)
    (contains : group.contains key = true) :
    OwnsRow tablets r keyAt tc.target i := by
  exact ⟨shard, group, key, shardAt_primary consistent addressed known connected, known, keyed,
    contains⟩

variable {table column : String} {columns : List String} {rows : List (List Expr)}

theorem insertsOnOwner_of_pointTarget
    (disjoint : r.RangesDisjoint)
    (insert : InsertValues stmt table columns rows)
    (sharded : r.vs.shardKeyColumn table = some column)
    (literal : LiteralKeys ext.exprString column columns rows keyAt)
    (known : r.orderedKeys ≠ [])
    (point : PointTarget ext.exprString r stmt (decide (transactionId ≠ 0)) tc) :
    InsertsOnOwner ext tablets r range stmt rows.length keyAt transactionId := by
  have routed := route_of_pointTarget ext.exprString r range stmt [] (decide (transactionId ≠ 0))
    known insert.not_isTxControl disjoint point
  obtain ⟨key, shard, group, keyed, stored, contains, picked⟩ := point
  rw [insert.queryTypeOf, pickOne_write] at picked
  obtain ⟨index, row, expr, position, single, cell, parsed⟩ :=
    insert.row_of_routingKey sharded keyed
  have rowKey : ∀ i < rows.length, ∀ addr, keyAt addr i = some key := by
    intro i within addr
    rw [single, List.length_singleton] at within
    have first : i = 0 := by omega
    subst first
    exact literal index 0 row expr key position (by rw [single]; rfl) cell parsed addr
  apply insertsOnOwner_of_target insert.not_isTxControl
  · rw [routed]
    rfl
  · intro i within
    exact ownsRow_of_primary consistent addressed stored picked (rowKey i within _) contains
  · intro i within
    exact ⟨shard, group, tc, key, stored, picked, rowKey i within _, contains⟩

theorem insertsOnOwner_of_soleOwner
    (insert : InsertValues stmt table columns rows)
    (known : r.orderedKeys ≠ [])
    (nowhere : ¬ ∃ tc, PointTarget ext.exprString r stmt (decide (transactionId ≠ 0)) tc)
    (sole : SoleOwner r rows.length keyAt) :
    InsertsOnOwner ext tablets r range stmt rows.length keyAt transactionId := by
  obtain ⟨shard, group, tc, stored, connected, only, keys⟩ := sole
  obtain ⟨served, targets, distinct, members⟩ :=
    targets_of_scatter ext consistent insert.not_isTxControl insert.queryTypeOf range _
      (scattered_of_no_pointTarget ext insert.not_isTxControl range known _ nowhere)
  have one : served = [(shard, group.primary)] := by
    have present : (shard, group.primary) ∈ served :=
      (members _).mpr ⟨group, stored, rfl, by rw [connected]; rfl⟩
    have all : ∀ pick ∈ served, pick = (shard, group.primary) := by
      intro pick listed
      obtain ⟨second, found, isPrimary, reachable⟩ := (members pick).mp listed
      have sameShard := only pick.1 second found reachable
      rw [sameShard, stored] at found
      injection found with sameGroup
      exact Prod.ext sameShard (by rw [isPrimary, sameGroup])
    have copies := List.eq_replicate_of_mem all
    rw [copies] at distinct present ⊢
    have single : served.length = 1 := by
      have few := List.nodup_replicate.mp (List.map_replicate ▸ distinct)
      have some := List.length_pos_of_mem present
      rw [List.length_replicate] at some
      omega
    rw [single, List.replicate_one]
  obtain ⟨own, _⟩ := consistent.clients group.primary.addr tc connected
  apply insertsOnOwner_of_target insert.not_isTxControl
  · rw [targets, one]
    rfl
  · intro i within
    obtain ⟨key, keyed, contains⟩ := keys i within
    have owned := ownsRow_of_primary consistent addressed stored connected keyed contains
    rw [own] at owned
    exact owned
  · intro i within
    obtain ⟨key, keyed, contains⟩ := keys i within
    exact ⟨shard, group, tc, key, stored, connected, keyed, contains⟩

/-- Conversely, a scattered INSERT is placed correctly only by a sole owner. -/
theorem soleOwner_of_insertsOnOwner
    (insert : InsertValues stmt table columns rows)
    (known : r.orderedKeys ≠ [])
    (nowhere : ¬ ∃ tc, PointTarget ext.exprString r stmt (decide (transactionId ≠ 0)) tc)
    (placed : InsertsOnOwner ext tablets r range stmt rows.length keyAt transactionId) :
    SoleOwner r rows.length keyAt := by
  have plain := insert.not_isTxControl
  have scattered := scattered_of_no_pointTarget ext plain range known _ nowhere
  obtain ⟨served, targets, _, members⟩ :=
    targets_of_scatter ext consistent plain insert.queryTypeOf range _ scattered
  let caller : Caller := ⟨0, none⟩
  have answered := (responds_execute ext range caller plain r transactionId
    (Or.inr scattered) (route_uncontrolled r _ ext.exprString range stmt [] plain)).1
  have decided := decidedBy_constant ext r (calm range) caller plain transactionId
    (w := openWorld r) rfl
  have executed := (executions_of_targets ext plain targets rfl decided).2 answered
  obtain ⟨owned, once, refused⟩ := placed caller (openWorld r)
    (Strategy.constant (calm range)) rfl decided
  rw [executed] at owned once
  cases served with
  | nil =>
      refine absurd answered (refused ⟨0, List.length_pos_iff.mpr insert.nonempty, ?_⟩)
      rintro ⟨shard, group, tc, key, stored, connected, _⟩
      have listed := (members (shard, group.primary)).mpr
        ⟨group, stored, rfl, by rw [connected]; rfl⟩
      cases listed
  | cons pick others =>
      have alone : others = [] := by
        rw [List.map_cons, List.length_cons, List.length_map] at once
        exact List.length_eq_zero_iff.mp (by omega)
      subst alone
      obtain ⟨group, stored, isPrimary, reachable⟩ := (members pick).mp List.mem_cons_self
      obtain ⟨tc, connected⟩ := Option.isSome_iff_exists.mp reachable
      obtain ⟨own, _⟩ := consistent.clients group.primary.addr tc connected
      have home : shardAt tablets tc.target = some pick.1 :=
        shardAt_primary consistent addressed stored connected
      refine ⟨pick.1, group, tc, stored, connected, ?_, ?_⟩
      · intro other second found otherReachable
        have listed := (members (other, second.primary)).mpr ⟨second, found, rfl, otherReachable⟩
        exact congrArg Prod.fst (List.mem_singleton.mp listed)
      · intro i within
        have present : tc.target ∈ [pick].map fun pick => pick.2.addr := by
          rw [own, List.map_singleton, isPrimary]
          exact List.mem_singleton.mpr rfl
        obtain ⟨shard, second, key, there, found, keyed, contains⟩ :=
          owned tc.target present i within
        rw [home] at there
        injection there with sameShard
        rw [← sameShard, stored] at found
        injection found with sameGroup
        rw [← sameGroup] at contains
        exact ⟨key, keyed, contains⟩

end Consistent

/-- An INSERT of literal rows into a sharded table is placed correctly in every
run exactly when no shard is known, the statement has a point target, or a
single connected primary owns all rows. -/
theorem insert_on_owner_iff
    (ext : Externals)
    {tablets : List Tablet}
    {r : Router}
    (reached : Reached tablets r)
    (addressed : ∀ tablet ∈ tablets, tablet.addr ≠ "")
    (disjoint : r.RangesDisjoint)
    {stmt : Statement}
    {table column : String}
    {columns : List String}
    {rows : List (List Expr)}
    (insert : InsertValues stmt table columns rows)
    (sharded : r.vs.shardKeyColumn table = some column)
    {keyAt : String → Nat → Option Int}
    (literal : LiteralKeys ext.exprString column columns rows keyAt)
    (range : RangeOrder)
    (transactionId : Int) :
    InsertsOnOwner ext tablets r range stmt rows.length keyAt transactionId ↔
      r.orderedKeys = [] ∨
        (∃ tc, PointTarget ext.exprString r stmt (decide (transactionId ≠ 0)) tc) ∨
        SoleOwner r rows.length keyAt := by
  have consistent := reached.consistent
  by_cases empty : r.orderedKeys = []
  · exact ⟨fun _ => Or.inl empty, fun _ =>
      insertsOnOwner_of_no_groups insert.not_isTxControl transactionId rows.length empty⟩
  · by_cases point :
        ∃ tc, PointTarget ext.exprString r stmt (decide (transactionId ≠ 0)) tc
    · obtain ⟨tc, target⟩ := point
      exact ⟨fun _ => Or.inr (Or.inl ⟨tc, target⟩), fun _ =>
        insertsOnOwner_of_pointTarget consistent addressed disjoint insert sharded literal empty
          target⟩
    · constructor
      · intro placed
        exact Or.inr (Or.inr
          (soleOwner_of_insertsOnOwner consistent addressed insert empty point placed))
      · rintro (none | target | sole)
        · exact absurd none empty
        · exact absurd target point
        · exact insertsOnOwner_of_soleOwner consistent addressed insert empty point sole

end Placement

theorem insertUsers_insertValues
    {ids : List Expr}
    (sql : String)
    (nonempty : ids ≠ []) :
    InsertValues (insertUsers ids sql) "users" ["id"] (ids.map fun id => [id]) where
  parsed := ⟨_, _, rfl, rfl, rfl, rfl, rfl⟩
  nonempty := by
    rw [Ne, List.map_eq_nil_iff]
    exact nonempty

/-- The integer literals of a list of expressions, by position. -/
def literalKeys
    (exprString : Expr → String)
    (ids : List Expr)
    (_ : String)
    (i : Nat) :
    Option Int :=
  (ids[i]?).bind fun id => Decimal.parseInt (Parser.stripQuotes (exprString id))

theorem literalKeys_literal
    (exprString : Expr → String)
    (ids : List Expr) :
    LiteralKeys exprString "id" ["id"] (ids.map fun id => [id]) (literalKeys exprString ids) := by
  intro index i row expr value position found cell parsed addr
  have first : index = 0 := by
    have known : Parser.columnIndex ["id"] "id" = some 0 := by decide
    rw [known] at position
    injection position with same
    exact same.symm
  rw [List.getElem?_map] at found
  obtain ⟨id, present, rfl⟩ := Option.map_eq_some_iff.mp found
  rw [first] at cell
  injection cell with same
  rw [literalKeys, present, same]
  exact parsed

theorem insert_of_user_one_on_owner :
    InsertsOnOwner integralExternals twoShards twoShardRouter .stored
      (insertUsers [.numVal "1"] "INSERT INTO users (id) VALUES (1)") 1
      (literalKeys integralExternals.exprString [.numVal "1"]) 0 :=
  (insert_on_owner_iff integralExternals twoShardRouter_reached (by decide)
    twoShardRouter_rangesDisjoint
    (insertUsers_insertValues "INSERT INTO users (id) VALUES (1)" (List.cons_ne_nil _ _))
    (show twoShardRouter.vs.shardKeyColumn "users" = some "id" by decide)
    (literalKeys_literal integralExternals.exprString [.numVal "1"]) .stored 0).mpr
    (Or.inr (Or.inl ⟨⟨1, "a:1"⟩, ⟨1, "main/shard-0", _, by decide, rfl, by decide, by decide⟩⟩))

/-- Two users whose ids belong to different shards are both inserted on both shards. -/
theorem insert_of_two_users_duplicates :
    ∃ final : Outcome × World,
      serve integralExternals ⟨0, none⟩ (Strategy.constant (calm .stored))
          ⟨.ok [insertUsers [.numVal "1", .numVal "7000"]
            "INSERT INTO users (id) VALUES (1), (7000)"], 0⟩
          (openWorld twoShardRouter) = final ∧
        final.1 = .ok
          { results := [{ sql := "INSERT INTO users (id) VALUES (1), (7000)" },
              { sql := "INSERT INTO users (id) VALUES (1), (7000)" }] } ∧
        final.2.executions = ["b:1", "a:1"] ∧
        ¬ InsertsOnOwner integralExternals twoShards twoShardRouter .stored
          (insertUsers [.numVal "1", .numVal "7000"] "INSERT INTO users (id) VALUES (1), (7000)") 2
          (literalKeys integralExternals.exprString [.numVal "1", .numVal "7000"]) 0 := by
  have executed : (serve integralExternals ⟨0, none⟩ (Strategy.constant (calm .stored))
      ⟨.ok [insertUsers [.numVal "1", .numVal "7000"]
        "INSERT INTO users (id) VALUES (1), (7000)"], 0⟩
      (openWorld twoShardRouter)).2.executions = ["b:1", "a:1"] := by decide
  refine ⟨_, rfl, by decide, executed, ?_⟩
  intro placed
  have once := (placed ⟨0, none⟩ (openWorld twoShardRouter) (Strategy.constant (calm .stored))
    rfl (decidedBy_constant integralExternals _ (calm .stored) _ rfl 0 rfl)).2.1
  rw [executed] at once
  exact absurd once (by decide)

end VScale
