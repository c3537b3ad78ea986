import VScale.Gate.CalmRun
import VScale.Router.PointRouting
import VScale.Router.Scatter

/-!
# A scatter reaches every shard

A scattered statement that is not answered with an error has been executed on
exactly one tablet of every shard group, provided that each group picks a
connected tablet.  Groups without one are skipped silently.
-/

namespace VScale

open Collections Effects Router Tree

/-- Run a request of the gate. -/
def serve
    (ext : Externals)
    (caller : Caller)
    (strategy : Strategy gate World Choice Move)
    (req : QueryRequest)
    (w : World) : Outcome × World :=
  (Gateway.execute ext req).run (World.machine ext) caller strategy w

/-- The routing decision of a request is made by a router in a given state. -/
def DecidedBy
    (ext : Externals)
    (r : Router)
    (range : RangeOrder)
    (caller : Caller)
    (strategy : Strategy gate World Choice Move)
    (req : QueryRequest)
    (w : World) : Prop :=
  ∀ entry ∈ (Gateway.execute ext req).trace (World.machine ext) caller strategy w,
    Decides ext r range entry.1 entry.2

variable {w : World}

variable {stmt : Statement}

/-- A request with one statement executes it where the router says. -/
theorem delivered_serve
    (ext : Externals)
    {r : Router}
    {range : RangeOrder}
    {caller : Caller}
    {strategy : Strategy gate World Choice Move}
    (plain : Parser.isTxControl stmt = false)
    {transactionId : Int}
    (decided : DecidedBy ext r range caller strategy ⟨.ok [stmt], transactionId⟩ w) :
    Delivered (r.route ext.exprString range (.ok [stmt]) (decide (transactionId ≠ 0))).1 w
      (serve ext caller strategy ⟨.ok [stmt], transactionId⟩ w).1
      (serve ext caller strategy ⟨.ok [stmt], transactionId⟩ w).2 := by
  have delivered : (Gateway.execute ext ⟨.ok [stmt], transactionId⟩).wp executing
      (World.StepsRouting ext r range caller)
      (Delivered (r.route ext.exprString range (.ok [stmt]) (decide (transactionId ≠ 0))).1 w) w :=
    delivered_execute plain transactionId w
  exact Prog.run_of_wp_trace (fun before _ => executions_disturbed ext _ before) decided delivered

/-- Routing decisions. -/
def GateOp.Routes : GateOp → Prop
  | .route _ _ => True
  | _ => False

theorem decides_of_not_routes
    (ext : Externals)
    (r : Router)
    (range : RangeOrder)
    {op : GateOp}
    (answer : op.Answer)
    (direct : ¬ op.Routes) :
    Decides ext r range op answer := by
  cases op with
  | route sql inTransaction => exact absurd trivial direct
  | _ => exact trivial

/-- A program that makes no routing decision agrees with every router. -/
theorem decides_of_only
    (ext : Externals)
    (r : Router)
    (range : RangeOrder)
    (caller : Caller)
    (strategy : Strategy gate World Choice Move)
    {program : GateM α}
    (direct : program.Only fun op => ¬ GateOp.Routes op)
    (w : World) :
    ∀ entry ∈ program.trace (World.machine ext) caller strategy w,
      Decides ext r range entry.1 entry.2 := by
  intro entry present
  exact decides_of_not_routes ext r range entry.2
    ((Prog.follows_run (World.machine ext) caller strategy program w).allowed_of_only direct
      entry present)

theorem direct_rollbacks (session : Int) : Coordinator.Rollbacks (fun op => ¬ op.Routes) session :=
  ⟨not_false, fun _ => not_false, fun _ _ => not_false⟩

theorem direct_executes
    (session : Int)
    (sql : SqlText) :
    Coordinator.Executes (fun op => ¬ op.Routes) session sql :=
  ⟨fun _ => not_false, fun _ _ => not_false⟩

/-- What follows the routing decision of an autocommit statement. -/
theorem decides_executeAutocommit
    (ext : Externals)
    (r : Router)
    (choice : Choice)
    (caller : Caller)
    (sql : SqlText)
    (routed : w.router = r) :
    ∀ entry ∈ (Gateway.executeAutocommit ext sql).trace (World.machine ext) caller
        (Strategy.constant choice) w,
      Decides ext r choice.order entry.1 entry.2 := by
  refine Prog.forall_trace_constant (congrArg
    (fun router => (Router.route ext.exprString router choice.order sql false).1) routed) ?_
  exact decides_of_only ext r choice.order caller _
    (Gateway.only_executeRouted ext (fun _ => not_false) (fun _ => not_false) _) _

theorem direct_routed
    (ext : Externals)
    (session : Int)
    (sql : SqlText) :
    Coordinator.Routed ext (fun op => ¬ op.Routes) session sql :=
  ⟨direct_rollbacks session, direct_executes session sql, direct_executes session _,
    fun _ => not_false, fun _ => not_false, fun _ _ => not_false⟩

/-- What follows the routing decision of a statement in a transaction. -/
theorem decides_coordinatorExecute
    (ext : Externals)
    (r : Router)
    (choice : Choice)
    (caller : Caller)
    (session : Int)
    (sql : SqlText)
    (routed : w.router = r) :
    ∀ entry ∈ (Coordinator.execute ext session sql).trace (World.machine ext) caller
        (Strategy.constant choice) w,
      Decides ext r choice.order entry.1 entry.2 := by
  refine Prog.forall_trace_constant trivial ?_
  split
  · apply decides_of_only
    exact ⟨not_false, fun _ => trivial⟩
  · refine Prog.forall_trace_constant (congrArg
      (fun router => (Router.route ext.exprString router choice.order sql true).1) routed) ?_
    apply decides_of_only
    split
    · exact trivial
    · exact Coordinator.only_executeRouted (direct_routed ext session sql) _

/-- Nothing intervenes before the routing decision of a request that runs alone. -/
theorem decidedBy_constant
    (ext : Externals)
    (r : Router)
    (choice : Choice)
    (caller : Caller)
    (plain : Parser.isTxControl stmt = false)
    (transactionId : Int)
    (routed : w.router = r) :
    DecidedBy ext r choice.order caller (Strategy.constant choice) ⟨.ok [stmt], transactionId⟩
      w := by
  unfold DecidedBy
  rw [Gateway.execute_plain ext plain]
  by_cases autocommit : transactionId = 0
  · rw [if_pos autocommit]
    exact decides_executeAutocommit ext r choice caller _ routed
  · rw [if_neg autocommit]
    refine Prog.forall_trace_constant trivial ?_
    split
    · exact decides_coordinatorExecute ext r choice caller transactionId _ routed
    · exact List.forall_mem_nil _

section Targets

variable (ext : Externals) {tablets : List Tablet} {r : Router} {stmt : Statement}

/-- What a run executes, given where the statement is routed. -/
theorem executions_of_targets
    (plain : Parser.isTxControl stmt = false)
    {range : RangeOrder}
    {transactionId : Int}
    {targets : List String}
    (routed : RouteResult.targets
      (r.route ext.exprString range (.ok [stmt]) (decide (transactionId ≠ 0))).1 = targets)
    {caller : Caller}
    {w : World}
    {strategy : Strategy gate World Choice Move}
    (fresh : w.log = [])
    (decided : DecidedBy ext r range caller strategy ⟨.ok [stmt], transactionId⟩ w) :
    (serve ext caller strategy ⟨.ok [stmt], transactionId⟩ w).2.executions.Sublist targets ∧
      ((serve ext caller strategy ⟨.ok [stmt], transactionId⟩ w).1.Answered →
        (serve ext caller strategy ⟨.ok [stmt], transactionId⟩ w).2.executions = targets) := by
  obtain ⟨⟨done, selected, added, all⟩, _⟩ := delivered_serve ext plain decided
  have before : w.executions = [] := by
    simp [World.executions, fresh]
  rw [routed] at selected all
  rw [added, before, List.nil_append]
  exact ⟨selected, all⟩

/-- A statement without a point target is scattered. -/
theorem scattered_of_no_pointTarget
    (plain : Parser.isTxControl stmt = false)
    (range : RangeOrder)
    (known : r.orderedKeys ≠ [])
    (inTransaction : Bool)
    (nowhere : ¬ ∃ tc, PointTarget ext.exprString r stmt inTransaction tc) :
    (r.route ext.exprString range (.ok [stmt]) inTransaction).1.scatter = true := by
  rcases route_cases ext.exprString r range stmt [] inTransaction known plain
    with ⟨tc, point, _⟩ | routed
  · exact absurd ⟨tc, point⟩ nowhere
  · rw [routed]
    rfl

/-- The targets of a scattered write are the connected primaries. -/
theorem targets_of_scatter
    (consistent : Consistent (wanted tablets) r)
    (plain : Parser.isTxControl stmt = false)
    (write : queryTypeOf stmt = .write)
    (range : RangeOrder)
    (inTransaction : Bool)
    (scattered : (r.route ext.exprString range (.ok [stmt]) inTransaction).1.scatter = true) :
    ∃ served : List (String × Tablet),
      RouteResult.targets (r.route ext.exprString range (.ok [stmt]) inTransaction).1 =
        served.map (fun pick => pick.2.addr) ∧
      (served.map Prod.fst).Nodup ∧
      ∀ pick, pick ∈ served ↔
        ∃ group, r.shardGroups.lookup pick.1 = some group ∧ pick.2 = group.primary ∧
          (r.clients.lookup group.primary.addr).isSome := by
  unfold RouteResult.targets
  rw [route_of_scatter r _ ext.exprString range stmt [] plain scattered, write]
  exact scatterTablets_write inTransaction consistent _

/-- A connected primary is a tablet of its group. -/
theorem shardAt_primary
    (consistent : Consistent (wanted tablets) r)
    (addressed : ∀ tablet ∈ tablets, tablet.addr ≠ "")
    {shard : String}
    {group : ShardGroup}
    {tc : TabletClient}
    (known : r.shardGroups.lookup shard = some group)
    (connected : r.clients.lookup group.primary.addr = some tc) :
    shardAt tablets tc.target = some shard := by
  have picked : (r.pickOne .write false 0 group).1 = some tc := by
    rw [pickOne_write, connected]
  exact shardAt_of_pickOne consistent addressed known picked

/-- The targets of a write belong to different shards. -/
theorem homes_of_write
    (consistent : Consistent (wanted tablets) r)
    (addressed : ∀ tablet ∈ tablets, tablet.addr ≠ "")
    (plain : Parser.isTxControl stmt = false)
    (write : queryTypeOf stmt = .write)
    (range : RangeOrder)
    (inTransaction : Bool) :
    ∃ homes : List String, homes.Nodup ∧
      (RouteResult.targets (r.route ext.exprString range (.ok [stmt]) inTransaction).1).map
        (shardAt tablets) = homes.map some := by
  by_cases empty : r.orderedKeys = []
  · refine ⟨[], List.nodup_nil, ?_⟩
    rw [route, if_pos empty]
    rfl
  rcases route_cases ext.exprString r range stmt [] inTransaction empty plain
    with ⟨tc, ⟨_, shard, group, _, known, _, picked⟩, routed⟩ | routed
  · refine ⟨[shard], List.nodup_singleton shard, ?_⟩
    rw [routed]
    exact congrArg (· :: []) (shardAt_of_pickOne consistent addressed known picked)
  · obtain ⟨served, targets, distinct, members⟩ :=
      targets_of_scatter ext consistent plain write range inTransaction
        (congrArg (fun result => result.1.scatter) routed)
    refine ⟨served.map Prod.fst, distinct, ?_⟩
    rw [targets, List.map_map, List.map_map]
    apply List.map_congr_left
    intro pick listed
    obtain ⟨group, known, isPrimary, reachable⟩ := (members pick).mp listed
    obtain ⟨tc, connected⟩ := Option.isSome_iff_exists.mp reachable
    obtain ⟨own, _⟩ := consistent.clients group.primary.addr tc connected
    have home := shardAt_primary consistent addressed known connected
    rw [own] at home
    simp only [Function.comp_apply, isPrimary, home]

end Targets

/-- In every run, a scattered statement is answered with an error or executed on
exactly one tablet of every known shard group. -/
def ScatterIsComplete
    (ext : Externals)
    (tablets : List Tablet)
    (r : Router)
    (range : RangeOrder)
    (stmt : Statement)
    (transactionId : Int) : Prop :=
  ∀ (caller : Caller) (w : World) (strategy : Strategy gate World Choice Move),
    w.log = [] → DecidedBy ext r range caller strategy ⟨.ok [stmt], transactionId⟩ w →
      ¬ (serve ext caller strategy ⟨.ok [stmt], transactionId⟩ w).1.Answered ∨
        r.CoversOnce tablets
          (serve ext caller strategy ⟨.ok [stmt], transactionId⟩ w).2.executions

/-- For a statement that is scattered this holds exactly when every known group
picks a tablet that has a client and is registered for the group. -/
theorem scatter_complete_iff_every_pick_served
    (ext : Externals)
    {tablets : List Tablet}
    {r : Router}
    (reached : Reached tablets r)
    (range : RangeOrder)
    {stmt : Statement}
    (plain : Parser.isTxControl stmt = false)
    (transactionId : Int)
    (scattered : (r.route ext.exprString range (.ok [stmt])
      (decide (transactionId ≠ 0))).1.scatter = true) :
    ScatterIsComplete ext tablets r range stmt transactionId ↔
      r.EveryPickServed (queryTypeOf stmt) (decide (transactionId ≠ 0)) tablets
        (scatterCursor ext.exprString r range stmt (decide (transactionId ≠ 0))) := by
  have consistent := reached.consistent
  have targets := route_of_scatter r (decide (transactionId ≠ 0)) ext.exprString range stmt []
    plain scattered
  have executed : ∀ (caller : Caller) (w : World) (strategy : Strategy gate World Choice Move),
      w.log = [] → DecidedBy ext r range caller strategy ⟨.ok [stmt], transactionId⟩ w →
      (serve ext caller strategy ⟨.ok [stmt], transactionId⟩ w).1.Answered →
      (serve ext caller strategy ⟨.ok [stmt], transactionId⟩ w).2.executions =
        (r.scatterTablets (queryTypeOf stmt) (decide (transactionId ≠ 0))
          (scatterCursor ext.exprString r range stmt (decide (transactionId ≠ 0)))
          r.orderedKeys).1.map TabletClient.target := by
    intro caller w strategy fresh decided answered
    obtain ⟨⟨done, _, added, all⟩, _⟩ := delivered_serve ext plain decided
    rw [added, all answered, RouteResult.targets, targets]
    simp [World.executions, fresh]
  constructor
  · intro complete
    let caller : Caller := ⟨0, none⟩
    have answered := (responds_execute ext range caller plain r transactionId
      (Or.inr scattered) (route_uncontrolled r _ ext.exprString range stmt [] plain)).1
    have decided := decidedBy_constant ext r (calm range) caller plain transactionId
      (w := openWorld r) rfl
    have covered := complete caller (openWorld r) (Strategy.constant (calm range)) rfl decided
    rcases covered with refused | covers
    · exact absurd answered refused
    · rw [executed caller (openWorld r) _ rfl decided answered] at covers
      exact served_of_coversOnce _ _ consistent covers
  · intro served caller w strategy fresh decided
    by_cases answered : (serve ext caller strategy ⟨.ok [stmt], transactionId⟩ w).1.Answered
    · right
      rw [executed caller w strategy fresh decided answered]
      exact coversOnce_of_served _ _ consistent served
    · exact Or.inl answered

/-- `DELETE FROM users`. -/
def deleteAllUsers : Statement where
  ast := .delete { table := .listed "users", filter := none, returning := false }
  sql := "DELETE FROM users"

theorem scatter_complete_of_two_primaries :
    ScatterIsComplete integralExternals twoShards twoShardRouter .stored deleteAllUsers 0 :=
  (scatter_complete_iff_every_pick_served integralExternals twoShardRouter_reached .stored
    (by decide) 0 (by decide)).mpr (by decide)

/-- The second shard has only a replica. -/
def lostPrimary : List Tablet :=
  [{ keyspace := "main", shard := "shard-0", type := "PRIMARY", addr := "a:1"
     keyRangeStart := 0, keyRangeEnd := 5000 },
    { keyspace := "main", shard := "shard-1", type := "REPLICA", addr := "c:1"
      keyRangeStart := 5000, keyRangeEnd := 10000 }]

/-- The router of these shards. -/
def lostPrimaryRouter : Router :=
  (newRouter usersSchema).sync .stored (fun _ => true) lostPrimary

/-- A DELETE on all users is acknowledged after it was executed on one of two shards. -/
theorem scatter_skips_shard_without_primary :
    ∃ final : Outcome × World,
      serve integralExternals ⟨0, none⟩ (Strategy.constant (calm .stored))
          ⟨.ok [deleteAllUsers], 0⟩ (openWorld lostPrimaryRouter) = final ∧
        final.1 = .ok { results := [{ sql := "DELETE FROM users" }] } ∧
        final.2.executions = ["a:1"] ∧
        ¬ ScatterIsComplete integralExternals lostPrimary lostPrimaryRouter .stored
          deleteAllUsers 0 := by
  have acknowledged : (serve integralExternals ⟨0, none⟩ (Strategy.constant (calm .stored))
      ⟨.ok [deleteAllUsers], 0⟩ (openWorld lostPrimaryRouter)).1 =
        .ok { results := [{ sql := "DELETE FROM users" }] } := by decide
  refine ⟨_, rfl, acknowledged, by decide, ?_⟩
  intro complete
  rcases complete ⟨0, none⟩ (openWorld lostPrimaryRouter) (Strategy.constant (calm .stored))
    rfl (decidedBy_constant integralExternals _ (calm .stored) _ (by decide) 0 rfl)
    with refused | covers
  · rw [acknowledged] at refused
    exact refused (fun _ => nofun)
  · exact absurd (covers "main/shard-1" (by decide)) (by decide)

end VScale
