import VScale.Gate.ScatterCoverage

/-!
# Where updated rows end up

An UPDATE changes the selected rows of every shard that executes it and moves
none of them.  Rows stay on their owner exactly when no selected row is given a
key outside the range of its shard.
-/

namespace VScale

open Collections Effects Router Tree

variable {Row : Type}

/-- The rows of one table, by shard. -/
abbrev Database (Row : Type) := String → List Row

/-- Whether a condition selects a row. -/
def RowSemantics.selects (sem : RowSemantics Row) (filter : Option Expr) (row : Row) : Bool :=
  filter.all fun expr => decide (sem.truth row expr = .true)

/-- What a database makes of one item of a SET list: the shard, the item, the row
before the statement and the row with the items before assigned. -/
abbrev Assignment (Row : Type) := String → UpdateExpr → Row → Row → Row

/-- An UPDATE as the database executes it: its condition and its SET list, whose
expressions are evaluated on the row before the statement. -/
structure RowUpdate (Row : Type) where
  sem : RowSemantics Row
  filter : Option Expr
  exprs : List UpdateExpr
  set : Assignment Row

/-- The statement as the database executes it. -/
def Tree.Update.executed
    (upd : Update)
    (sem : RowSemantics Row)
    (set : Assignment Row) :
    RowUpdate Row :=
  ⟨sem, upd.filter, upd.exprs, set⟩

/-- An item assigns only to the columns it names. -/
def Assignment.KeepsOthers
    (set : Assignment Row)
    (sem : RowSemantics Row)
    (column : String) :
    Prop :=
  ∀ shard item before row, column ∉ item.names → sem.key (set shard item before row) = sem.key row

namespace RowUpdate

variable (change : RowUpdate Row)

/-- A row of a shard with the whole SET list assigned. -/
def assign (shard : String) (row : Row) : Row :=
  change.exprs.foldl (fun new item => change.set shard item row new) row

/-- A SET list that does not name the key column keeps the key. -/
theorem key_assign
    {column : String}
    (keeps : change.set.KeepsOthers change.sem column)
    (unassigned : ∀ item ∈ change.exprs, column ∉ item.names)
    (shard : String)
    (row : Row) :
    change.sem.key (change.assign shard row) = change.sem.key row := by
  have assigned : ∀ items : List UpdateExpr, (∀ item ∈ items, column ∉ item.names) → ∀ new,
      change.sem.key (items.foldl (fun new item => change.set shard item row new) new) =
        change.sem.key new := by
    intro items
    induction items with
    | nil => exact fun _ _ => rfl
    | cons item items ih =>
        intro others new
        obtain ⟨here, there⟩ := List.forall_mem_cons.mp others
        rw [List.foldl_cons, ih there, keeps shard item row new here]
  exact assigned change.exprs unassigned row

/-- The rows of a shard after it has executed the statement. -/
def updateRows (shard : String) (rows : List Row) : List Row :=
  rows.map fun row => if change.sem.selects change.filter row then change.assign shard row else row

/-- The database after the tablet at an address has executed the statement. -/
def executeAt (tablets : List Tablet) (db : Database Row) (addr : String) : Database Row :=
  match shardAt tablets addr with
  | none => db
  | some shard => Function.update db shard (change.updateRows shard (db shard))

/-- The database after tablets have executed the statement in turn. -/
def executeAll (tablets : List Tablet) (addrs : List String) (db : Database Row) : Database Row :=
  addrs.foldl (change.executeAt tablets) db

/-- Tablets of different shards update one shard each. -/
theorem executeAll_apply
    (tablets : List Tablet)
    {addrs homes : List String}
    (located : addrs.map (shardAt tablets) = homes.map some)
    (distinct : homes.Nodup)
    (db : Database Row)
    (shard : String) :
    change.executeAll tablets addrs db shard =
      if shard ∈ homes then change.updateRows shard (db shard) else db shard := by
  induction addrs generalizing homes db with
  | nil =>
      have none : homes = [] := List.map_eq_nil_iff.mp located.symm
      rw [none, if_neg (List.not_mem_nil)]
      rfl
  | cons addr addrs ih =>
      cases homes with
      | nil => cases located
      | cons home homes =>
          injection located with first rest
          obtain ⟨fresh, distinct⟩ := List.nodup_cons.mp distinct
          have executed : change.executeAt tablets db addr =
              Function.update db home (change.updateRows home (db home)) := by
            simp only [executeAt, first]
          rw [executeAll, List.foldl_cons, executed, ← executeAll,
            ih rest distinct]
          by_cases same : shard = home
          · subst same
            rw [if_neg fresh, Function.update_self, if_pos List.mem_cons_self]
          · rw [Function.update_of_ne same]
            simp only [List.mem_cons, same, false_or]

end RowUpdate

/-- After every run that answers with a response, all rows lie on their owners. -/
def UpdateKeepsOwners
    (ext : Externals)
    (tablets : List Tablet)
    (r : Router)
    (range : RangeOrder)
    (stmt : Statement)
    (transactionId : Int)
    (change : RowUpdate Row)
    (db : Database Row) : Prop :=
  ∀ (caller : Caller) (w : World) (strategy : Strategy gate World Choice Move),
    w.log = [] → DecidedBy ext r range caller strategy ⟨.ok [stmt], transactionId⟩ w →
      ∀ resp, (serve ext caller strategy ⟨.ok [stmt], transactionId⟩ w).1 = .ok resp →
        r.Placed change.sem fun shard row =>
          row ∈ change.executeAll tablets
            (serve ext caller strategy ⟨.ok [stmt], transactionId⟩ w).2.executions db shard

/-- On the shards of the given tablets, every selected row is given a key in the
range of its shard. -/
def AssignsOwnedKeys
    (tablets : List Tablet)
    (r : Router)
    (targets : List String)
    (change : RowUpdate Row)
    (db : Database Row) : Prop :=
  ∀ addr ∈ targets, ∀ shard group,
    shardAt tablets addr = some shard → r.shardGroups.lookup shard = some group →
      ∀ row ∈ db shard, change.sem.selects change.filter row = true →
        group.contains (change.sem.key (change.assign shard row)) = true

section Placement

variable {ext : Externals} {tablets : List Tablet} {r : Router} {range : RangeOrder}
variable {stmt : Statement} {change : RowUpdate Row} {db : Database Row}

variable {targets homes : List String}

/-- Rows stay placed when the executing shards assign their own keys only. -/
theorem placed_executeAll
    (placed : r.Placed change.sem fun shard row => row ∈ db shard)
    (located : targets.map (shardAt tablets) = homes.map some)
    (distinct : homes.Nodup)
    (owned : AssignsOwnedKeys tablets r targets change db) :
    r.Placed change.sem fun shard row => row ∈ change.executeAll tablets targets db shard := by
  intro shard row present
  simp only [change.executeAll_apply tablets located distinct] at present
  by_cases home : shard ∈ homes
  · rw [if_pos home] at present
    obtain ⟨old, stored, rfl⟩ := List.mem_map.mp present
    obtain ⟨group, known, contains⟩ := placed shard old stored
    refine ⟨group, known, ?_⟩
    split
    · rename_i selected
      have listed : some shard ∈ targets.map (shardAt tablets) := by
        rw [located]
        exact List.mem_map_of_mem home
      obtain ⟨addr, target, there⟩ := List.mem_map.mp listed
      exact owned addr target shard group there known old stored selected
    · exact contains
  · rw [if_neg home] at present
    exact placed shard row present

/-- Conversely, rows that are still placed were given keys of their own shard. -/
theorem assignsOwnedKeys_of_placed
    (located : targets.map (shardAt tablets) = homes.map some)
    (distinct : homes.Nodup)
    (placed : r.Placed change.sem fun shard row =>
      row ∈ change.executeAll tablets targets db shard) :
    AssignsOwnedKeys tablets r targets change db := by
  intro addr target shard group there known row stored selected
  have home : shard ∈ homes := by
    have listed := List.mem_map_of_mem (f := shardAt tablets) target
    rw [located, there] at listed
    obtain ⟨other, present, same⟩ := List.mem_map.mp listed
    injection same with same
    rw [← same]
    exact present
  have written : change.assign shard row ∈ change.executeAll tablets targets db shard := by
    rw [change.executeAll_apply tablets located distinct, if_pos home]
    exact List.mem_map.mpr ⟨row, stored, by rw [if_pos selected]⟩
  obtain ⟨second, found, contains⟩ := placed shard _ written
  rw [known] at found
  injection found with same
  rw [same]
  exact contains

/-- Without an assignment to the key column, rows keep the keys they are placed by. -/
theorem assignsOwnedKeys_of_unassigned
    {column : String}
    (placed : r.Placed change.sem fun shard row => row ∈ db shard)
    (keeps : change.set.KeepsOthers change.sem column)
    (unassigned : ∀ item ∈ change.exprs, column ∉ item.names) :
    AssignsOwnedKeys tablets r targets change db := by
  intro addr _ shard group _ known row stored _
  obtain ⟨second, found, contains⟩ := placed shard row stored
  obtain rfl := Option.some.inj (known.symm.trans found)
  rw [change.key_assign keeps unassigned]
  exact contains

end Placement

section Statements

variable (ext : Externals) {tablets : List Tablet} {r : Router}
variable (upd : Update) (sql : String) (sem : RowSemantics Row) (set : Assignment Row)

theorem isTxControl_update : Parser.isTxControl ⟨.update upd, sql⟩ = false := rfl

theorem queryTypeOf_update : queryTypeOf ⟨.update upd, sql⟩ = .write := rfl

variable {db : Database Row}

theorem updateKeepsOwners_of_assignsOwnedKeys
    (reached : Reached tablets r)
    (addressed : ∀ tablet ∈ tablets, tablet.addr ≠ "")
    (placed : r.Placed sem fun shard row => row ∈ db shard)
    (range : RangeOrder)
    (transactionId : Int)
    (owned : AssignsOwnedKeys tablets r
      (RouteResult.targets (r.route ext.exprString range (.ok [⟨.update upd, sql⟩])
        (decide (transactionId ≠ 0))).1) (upd.executed sem set) db) :
    UpdateKeepsOwners ext tablets r range ⟨.update upd, sql⟩ transactionId
      (upd.executed sem set) db := by
  obtain ⟨homes, distinct, located⟩ := homes_of_write ext reached.consistent addressed
    (isTxControl_update upd sql) (queryTypeOf_update upd sql) range (decide (transactionId ≠ 0))
  intro caller w strategy fresh decided resp answered
  have executed := (executions_of_targets ext (isTxControl_update upd sql) rfl fresh decided).2
    (by rw [answered]; exact fun _ => nofun)
  rw [executed]
  exact placed_executeAll placed located distinct owned

/-- An acknowledged UPDATE keeps every row on its owner exactly when each row it
selects on a shard it is routed to is given a key of that shard. -/
theorem update_keeps_owners_iff
    (reached : Reached tablets r)
    (addressed : ∀ tablet ∈ tablets, tablet.addr ≠ "")
    (placed : r.Placed sem fun shard row => row ∈ db shard)
    (range : RangeOrder)
    (transactionId : Int) :
    UpdateKeepsOwners ext tablets r range ⟨.update upd, sql⟩ transactionId
        (upd.executed sem set) db ↔
      AssignsOwnedKeys tablets r
        (RouteResult.targets (r.route ext.exprString range (.ok [⟨.update upd, sql⟩])
          (decide (transactionId ≠ 0))).1) (upd.executed sem set) db := by
  constructor
  · intro keeps
    by_cases some : (r.route ext.exprString range (.ok [⟨.update upd, sql⟩])
        (decide (transactionId ≠ 0))).1.tablets = []
    · intro addr target
      rw [RouteResult.targets, some] at target
      cases target
    · let caller : Caller := ⟨0, none⟩
      have decided := decidedBy_constant ext r (calm range) caller (isTxControl_update upd sql)
        transactionId (w := openWorld r) rfl
      obtain ⟨resp, answered⟩ := (responds_execute ext range caller
        (isTxControl_update upd sql) r transactionId (Or.inl some)
        (route_uncontrolled r _ ext.exprString range ⟨.update upd, sql⟩ [] rfl)).ok (by rintro ⟨⟩)
      have executed := (executions_of_targets ext (isTxControl_update upd sql) rfl rfl decided).2
        (by rw [serve, answered]; rintro _ ⟨⟩)
      have still := keeps caller (openWorld r) (Strategy.constant (calm range)) rfl decided resp
        answered
      rw [executed] at still
      obtain ⟨homes, distinct, located⟩ := homes_of_write ext reached.consistent addressed
        (isTxControl_update upd sql) (queryTypeOf_update upd sql) range
        (decide (transactionId ≠ 0))
      exact assignsOwnedKeys_of_placed located distinct still
  · exact updateKeepsOwners_of_assignsOwnedKeys ext upd sql sem set reached addressed placed
      range transactionId

end Statements

/-- Users with an id and a name. -/
def userRows (exprString : Expr → String) : RowSemantics (Int × String) where
  key := Prod.fst
  atom := fun row => (keyRows exprString).atom row.1

/-- Literals are assigned to the id or to the name of a user. -/
def setLiteral (exprString : Expr → String) : Assignment (Int × String) :=
  fun _ item _ row =>
    if item.names = ["id"] then ((Decimal.parseInt (exprString item.expr)).getD row.1, row.2)
    else if item.names = ["name"] then (row.1, Parser.stripQuotes (exprString item.expr))
    else row

theorem setLiteral_keepsOthers (exprString : Expr → String) :
    (setLiteral exprString).KeepsOthers (userRows exprString) "id" := by
  intro shard item before row other
  have notId : item.names ≠ ["id"] := by
    intro same
    rw [same] at other
    exact other List.mem_cons_self
  simp only [setLiteral, if_neg notId, userRows]
  split
  · rfl
  · rfl

/-- The tree of `UPDATE users SET ... WHERE id = 1`. -/
def updateUserOne (column : String) (value : Expr) : Update where
  table := .listed "users"
  exprs := [{ names := [column], expr := value }]
  filter := some idIsOne
  returning := false

/-- One user, stored on the first shard. -/
def userOne : Database (Int × String) :=
  Function.update (fun _ => []) "main/shard-0" [(1, "ann")]

theorem userOne_placed :
    twoShardRouter.Placed (userRows integralExternals.exprString) fun shard row =>
      row ∈ userOne shard := by
  intro shard row present
  by_cases first : shard = "main/shard-0"
  · subst first
    rw [userOne, Function.update_self, List.mem_singleton] at present
    refine ⟨_, rfl, ?_⟩
    rw [present]
    decide
  · rw [userOne, Function.update_of_ne first] at present
    cases present

/-- A user is renamed. -/
theorem update_of_user_one_keeps_owners :
    UpdateKeepsOwners integralExternals twoShards twoShardRouter .stored
      ⟨.update (updateUserOne "name" (.strVal "bob")),
        "UPDATE users SET name = 'bob' WHERE id = 1"⟩ 0
      ((updateUserOne "name" (.strVal "bob")).executed (userRows integralExternals.exprString)
        (setLiteral integralExternals.exprString)) userOne :=
  (update_keeps_owners_iff integralExternals (updateUserOne "name" (.strVal "bob"))
    "UPDATE users SET name = 'bob' WHERE id = 1" (userRows integralExternals.exprString)
    (setLiteral integralExternals.exprString) twoShardRouter_reached (by decide) userOne_placed
    .stored 0).mpr
    (assignsOwnedKeys_of_unassigned userOne_placed (setLiteral_keepsOthers _) (by decide))

/-- `UPDATE users SET id = 7000 WHERE id = 1` in autocommit, where both shards answer. -/
def movesUserOne : Outcome × World :=
  serve integralExternals ⟨0, none⟩ (Strategy.constant (calm .stored))
    ⟨.ok [⟨.update (updateUserOne "id" (.numVal "7000")),
      "UPDATE users SET id = 7000 WHERE id = 1"⟩], 0⟩
    (openWorld twoShardRouter)

/-- A user whose new id belongs to the other shard stays where it was. -/
theorem update_of_user_one_strands_row :
    movesUserOne.1 = .ok { results :=
        [{ sql := "UPDATE users SET id = 7000 WHERE id = 1" },
          { sql := "UPDATE users SET id = 7000 WHERE id = 1" }] } ∧
      movesUserOne.2.executions = ["b:1", "a:1"] ∧
      ((updateUserOne "id" (.numVal "7000")).executed (userRows integralExternals.exprString)
        (setLiteral integralExternals.exprString)).executeAll twoShards movesUserOne.2.executions
          userOne "main/shard-0" = [(7000, "ann")] ∧
      ¬ UpdateKeepsOwners integralExternals twoShards twoShardRouter .stored
        ⟨.update (updateUserOne "id" (.numVal "7000")),
          "UPDATE users SET id = 7000 WHERE id = 1"⟩ 0
        ((updateUserOne "id" (.numVal "7000")).executed (userRows integralExternals.exprString)
          (setLiteral integralExternals.exprString)) userOne := by
  have answered : movesUserOne.1 = .ok { results :=
      [{ sql := "UPDATE users SET id = 7000 WHERE id = 1" },
        { sql := "UPDATE users SET id = 7000 WHERE id = 1" }] } := by decide
  have stranded : ((updateUserOne "id" (.numVal "7000")).executed
      (userRows integralExternals.exprString) (setLiteral integralExternals.exprString)).executeAll
        twoShards movesUserOne.2.executions userOne "main/shard-0" = [(7000, "ann")] := by decide
  refine ⟨answered, by decide, stranded, ?_⟩
  intro keeps
  have there : ((7000, "ann") : Int × String) ∈ [(7000, "ann")] := List.mem_singleton.mpr rfl
  rw [← stranded] at there
  obtain ⟨group, known, contains⟩ := keeps ⟨0, none⟩ (openWorld twoShardRouter)
    (Strategy.constant (calm .stored)) rfl
    (decidedBy_constant integralExternals _ (calm .stored) _ rfl 0 rfl) _
    answered "main/shard-0" (7000, "ann") there
  injection known with same
  rw [← same] at contains
  exact absurd contains (by decide)

end VScale
