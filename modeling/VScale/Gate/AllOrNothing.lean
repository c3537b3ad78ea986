import VScale.Gate.ScatterCoverage

/-!
# Autocommit statements on several shards

Outside a transaction every shard applies a statement on its own, one after the
other, until one of them fails.  What the statement does to the data of a shard
is left open; the shards that have applied it before a failure keep its effect.
-/

namespace VScale

open Aggregate Collections Effects Tree

variable {Data : Type}

/-- What an event does to the data of the shards, outside transactions. -/
def Event.changeData
    (effect : Statement → Data → Data)
    (data : String → Data) :
    Event → String → Data
  | .tablet _ addr (.ran none stmt true) =>
      Function.update data addr (effect stmt (data addr))
  | _ => data

/-- The data of the shards after everything that has happened. -/
def World.data
    (w : World)
    (effect : Statement → Data → Data)
    (start : String → Data) :
    String → Data :=
  w.log.foldr (fun event data => event.changeData effect data) start

/-- A pattern says for each shard what becomes of the call to it. -/
def failurePattern
    (range : RangeOrder)
    (pattern : TabletClient → Choice) :
    Strategy gate World Choice Move where
  moves := fun _ _ => []
  choice := fun _ op =>
    match op with
    | .execute tc _ _ => pattern tc
    | _ => { order := range }

theorem failurePattern_quiet
    (range : RangeOrder)
    (pattern : TabletClient → Choice) :
    (failurePattern range pattern).Quiet :=
  fun _ _ => rfl

/-- The shard runs the statement without an error. -/
def Runs (caller : Caller) (choice : Choice) (stmt : Statement) (e : Executor) : Bool :=
  (TabletHandler.execute caller choice.verdicts (.ok [stmt]) TxID.zero e).answer.isOk

/-- The call reaches the shard, and the shard runs the statement. -/
def Applies (caller : Caller) (choice : Choice) (stmt : Statement) (e : Executor) : Bool :=
  match choice.network with
  | .lost _ => false
  | .replyLost _ => Runs caller choice stmt e
  | .answered => Runs caller choice stmt e

/-- The gate is told that the shard has run the statement. -/
def Confirms (caller : Caller) (choice : Choice) (stmt : Statement) (e : Executor) : Bool :=
  match choice.network with
  | .lost _ => false
  | .replyLost _ => false
  | .answered => Runs caller choice stmt e

section Shard

variable {caller : Caller} {choice : Choice} {stmt : Statement} {w : World}
variable {effect : Statement → Data → Data} {start : String → Data}

/-- How a shard answers a statement outside any transaction. -/
inductive OutsideReply
    (e : Executor)
    (stmt : Statement) : Reply Executor QueryResponse → Prop
  | ran (resp : QueryResponse) : OutsideReply e stmt ⟨.ok resp, e, [.ran none stmt true]⟩
  | failed (failure : String) (events : List TabletEvent)
      (none : events = [] ∨ events = [.ran none stmt false]) :
      OutsideReply e stmt ⟨.error failure, e, events⟩

theorem outsideReply
    (plain : Parser.isTxControl stmt = false)
    (caller : Caller)
    (verdicts : Nat → Verdict)
    (e : Executor) :
    OutsideReply e stmt (TabletHandler.execute caller verdicts (.ok [stmt]) TxID.zero e) := by
  have replies := TabletHandler.execute_plain caller verdicts TxID.zero e
    (List.forall_mem_singleton.mpr plain)
  generalize TabletHandler.execute caller verdicts (.ok [stmt]) TxID.zero e = reply at replies
  cases replies with
  | done results ready counted => exact .ran _
  | stopped failure finished culprit tail events split ready last =>
      cases finished with
      | nil =>
          obtain ⟨rfl, _⟩ := List.cons.inj split
          exact .failed failure events last
      | cons first others =>
          have lengths := congrArg List.length split
          simp at lengths

variable {addr : String} {reply : Reply Executor QueryResponse}

theorem data_absorb
    {e : Executor}
    (answered : OutsideReply e stmt reply) :
    (w.absorb caller addr reply).data effect start =
      if reply.answer.isOk then
        Function.update (w.data effect start) addr (effect stmt (w.data effect start addr))
      else w.data effect start := by
  cases answered with
  | ran resp => rfl
  | failed failure events none =>
      rcases none with rfl | rfl
      · rfl
      · rfl

theorem tablets_absorb (answered : OutsideReply (w.tablets addr) stmt reply) :
    (w.absorb caller addr reply).tablets = w.tablets := by
  cases answered with
  | ran | failed => exact Function.update_eq_self _ _

/-- What a call to a shard does, and what the gate is told. -/
structure Called
    (caller : Caller)
    (choice : Choice)
    (stmt : Statement)
    (w : World)
    (effect : Statement → Data → Data)
    (start : String → Data)
    (addr : String)
    (result : Except String QueryResponse × World) : Prop where
  tablets : result.2.tablets = w.tablets
  data : result.2.data effect start =
    if Applies caller choice stmt (w.tablets addr) then
      Function.update (w.data effect start) addr (effect stmt (w.data effect start addr))
    else w.data effect start
  told : result.1.isOk = Confirms caller choice stmt (w.tablets addr)

theorem isOk_mapError (answer : Except String QueryResponse) :
    (answer.mapError rpcError).isOk = answer.isOk := by
  cases answer with
  | error | ok => rfl

theorem called_execute
    (ext : Externals)
    (plain : Parser.isTxControl stmt = false)
    (tc : TabletClient) :
    Called caller choice stmt w effect start tc.target
      (w.act ext caller (.execute tc (.ok [stmt]) TxID.zero) choice) := by
  have replied : OutsideReply ((w.addEvent (.sent caller tc.target (.ok [stmt]))).tablets tc.target)
      stmt _ := outsideReply plain caller choice.verdicts (w.tablets tc.target)
  rw [World.act_execute, World.callTablet]
  cases network : choice.network with
  | lost failure =>
      refine ⟨rfl, ?_, ?_⟩
      · simp only [Applies, network]
        rfl
      · simp only [Confirms, network]
        rfl
  | replyLost failure =>
      refine ⟨tablets_absorb replied, ?_, ?_⟩
      · simp only [Applies, network]
        exact data_absorb replied
      · simp only [Confirms, network]
        rfl
  | answered =>
      refine ⟨tablets_absorb replied, ?_, ?_⟩
      · simp only [Applies, network]
        exact data_absorb replied
      · simp only [Confirms, network, Runs]
        exact isOk_mapError _

end Shard

section Shards

variable (caller : Caller) (pattern : TabletClient → Choice) (stmt : Statement)

/-- The shards on which the statement is applied: all that confirm it before the
first that does not, and that one if only its answer is lost. -/
def applied (tablets : String → Executor) : List TabletClient → List TabletClient
  | [] => []
  | tc :: rest =>
      if Confirms caller (pattern tc) stmt (tablets tc.target) then tc :: applied tablets rest
      else if Applies caller (pattern tc) stmt (tablets tc.target) then [tc]
      else []

/-- The data after the statement has been applied on some shards in turn. -/
def applyAt
    (effect : Statement → Data → Data)
    (targets : List TabletClient)
    (data : String → Data) : String → Data :=
  targets.foldl (fun data tc => Function.update data tc.target (effect stmt (data tc.target))) data

variable {caller pattern stmt}
variable {ext : Externals} {range : RangeOrder}
variable {effect : Statement → Data → Data} {start : String → Data}

/-- A call that is confirmed has been applied. -/
theorem applies_of_confirms
    {choice : Choice}
    {e : Executor}
    (confirmed : Confirms caller choice stmt e = true) : Applies caller choice stmt e = true := by
  unfold Confirms at confirmed
  unfold Applies
  cases network : choice.network with
  | answered =>
      rw [network] at confirmed
      exact confirmed
  | lost | replyLost =>
      rw [network] at confirmed
      cases confirmed

/-- What the calls to some shards do, and what the gate is told. -/
structure CalledInTurn
    (caller : Caller)
    (pattern : TabletClient → Choice)
    (stmt : Statement)
    (effect : Statement → Data → Data)
    (start : String → Data)
    (w : World)
    (targets : List TabletClient)
    (succeeded : Bool)
    (final : World) : Prop where
  data : final.data effect start =
    applyAt stmt effect (applied caller pattern stmt w.tablets targets) (w.data effect start)
  told : succeeded = true ↔
    ∀ tc ∈ targets, Confirms caller (pattern tc) stmt (w.tablets tc.target) = true

theorem calledInTurn_nil (w : World) :
    CalledInTurn caller pattern stmt effect start w [] true w where
  data := rfl
  told := ⟨fun _ => List.forall_mem_nil _, fun _ => rfl⟩

variable {result : Except String QueryResponse × World} {tc : TabletClient} {w : World}

/-- The first shard does not confirm the statement, and the loop stops. -/
theorem calledInTurn_stop
    (called : Called caller (pattern tc) stmt w effect start tc.target result)
    (failed : result.1.isOk = false)
    (rest : List TabletClient) :
    CalledInTurn caller pattern stmt effect start w (tc :: rest) false result.2 := by
  have unconfirmed : Confirms caller (pattern tc) stmt (w.tablets tc.target) = false :=
    called.told.symm.trans failed
  constructor
  · rw [called.data, applied, unconfirmed]
    cases Applies caller (pattern tc) stmt (w.tablets tc.target) with
    | true | false => rfl
  · constructor
    · exact fun impossible => nomatch impossible
    · intro confirmed
      rw [confirmed tc List.mem_cons_self] at unconfirmed
      cases unconfirmed

/-- The first shard confirms the statement, and the loop goes on. -/
theorem calledInTurn_cons
    {final : World}
    {rest : List TabletClient}
    {succeeded : Bool}
    (called : Called caller (pattern tc) stmt w effect start tc.target result)
    (answered : result.1.isOk = true)
    (later : CalledInTurn caller pattern stmt effect start result.2 rest succeeded final) :
    CalledInTurn caller pattern stmt effect start w (tc :: rest) succeeded final := by
  have confirmed : Confirms caller (pattern tc) stmt (w.tablets tc.target) = true :=
    called.told.symm.trans answered
  have changed := called.data
  rw [if_pos (applies_of_confirms confirmed)] at changed
  constructor
  · rw [later.data, called.tablets, changed, applied, if_pos confirmed]
    rfl
  · rw [later.told, called.tablets, List.forall_mem_cons]
    exact ⟨fun others => ⟨confirmed, others⟩, And.right⟩

/-- Running a call to one shard. -/
theorem run_execute
    (plain : Parser.isTxControl stmt = false)
    (tc : TabletClient)
    (next : Except String QueryResponse → GateM α)
    (w : World) :
    ∃ result, Called caller (pattern tc) stmt w effect start tc.target result ∧
      (Prog.perform (.execute tc (.ok [stmt]) TxID.zero) next : GateM α).run (World.machine ext)
          caller (failurePattern range pattern) w =
        (next result.1).run (World.machine ext) caller (failurePattern range pattern) result.2 :=
  ⟨_, called_execute ext plain tc,
    Prog.run_perform_of_quiet (failurePattern_quiet range pattern) ..⟩

/-- Running the loop over the shards. -/
theorem calledInTurn_scatterLoop
    (plain : Parser.isTxControl stmt = false)
    (targets : List TabletClient)
    (w : World) :
    let final := (Gateway.scatterLoop (.ok [stmt]) targets).run (World.machine ext) caller
      (failurePattern range pattern) w
    CalledInTurn caller pattern stmt effect start w targets final.1.isOk final.2 := by
  induction targets generalizing w with
  | nil => exact calledInTurn_nil w
  | cons tc rest ih =>
      obtain ⟨⟨answer, after⟩, called, ran⟩ := run_execute plain tc _ w
      rw [Gateway.scatterLoop, ran]
      cases answer with
      | error failure => exact calledInTurn_stop called rfl rest
      | ok resp =>
          have later := calledInTurn_cons called rfl (ih after)
          simp only [Prog.run_bind]
          generalize (Gateway.scatterLoop (.ok [stmt]) rest).run (World.machine ext) caller
            (failurePattern range pattern) after = gathered at later
          obtain ⟨results, final⟩ := gathered
          cases results with
          | error | ok => exact later

end Shards

section Writes

variable {stmt : Statement}

/-- A statement that writes has no plan. -/
theorem extractPlan_write
    (ext : Externals)
    (writes : Parser.isWrite stmt = true) :
    extractPlan ext (.ok [stmt]) = {} := by
  obtain ⟨ast, text⟩ := stmt
  cases ast with
  | select sel => cases writes
  | insert | update | delete | beginTransaction | commitTransaction | rollbackTransaction
  | other => rfl

variable {ext : Externals} {caller : Caller} {range : RangeOrder}
variable {pattern : TabletClient → Choice}
variable {effect : Statement → Data → Data} {start : String → Data}

/-- A write is applied on its shards in turn, and answered without an error when
all of them confirm it. -/
theorem calledInTurn_forward
    (plain : Parser.isTxControl stmt = false)
    (writes : Parser.isWrite stmt = true)
    (targets : List TabletClient)
    (w : World) :
    let final := (Gateway.forward ext (.ok [stmt]) targets).run (World.machine ext) caller
      (failurePattern range pattern) w
    CalledInTurn caller pattern stmt effect start w targets final.1.isOk final.2 := by
  have noPlan := extractPlan_write ext writes
  have sameText : Coordinator.shardText ext (.ok [stmt]) = .ok [stmt] := by
    rw [Coordinator.shardText, noPlan]
    rfl
  have gathers : ∀ results, Gateway.gather ext (.ok [stmt]) results =
      .ok { results := results } := by
    intro results
    rw [Gateway.gather, noPlan]
    rfl
  fun_cases Gateway.forward ext (.ok [stmt]) targets with
  | case1 tc =>
      obtain ⟨⟨answer, final⟩, called, ran⟩ := run_execute plain tc _ w
      rw [ran]
      cases answer with
      | error failure => exact calledInTurn_stop called rfl []
      | ok resp => exact calledInTurn_cons called rfl (calledInTurn_nil final)
  | case2 targets several =>
      have called := @calledInTurn_scatterLoop Data caller pattern stmt ext range effect start
        plain targets w
      rw [sameText, Prog.run_bind]
      generalize (Gateway.scatterLoop (.ok [stmt]) targets).run (World.machine ext) caller
        (failurePattern range pattern) w = gathered at called
      obtain ⟨results, final⟩ := gathered
      cases results with
      | error failure => exact called
      | ok results =>
          simp only [gathers]
          exact called

variable {decision : RouteResult × Router} {sql : SqlText} {w : World}

section Decided

variable (decided : w.router.route ext.exprString range sql false = decision)
include decided

/-- The router is asked first. -/
theorem run_route
    (next : RouteResult → GateM Outcome) :
    (Prog.perform (.route sql false) next : GateM Outcome).run (World.machine ext) caller
        (failurePattern range pattern) w =
      (next decision.1).run (World.machine ext) caller (failurePattern range pattern)
        { w with router := decision.2 } := by
  rw [Prog.run_perform_of_quiet (failurePattern_quiet range pattern), ← decided]
  rfl

/-- A statement with shards is forwarded to them. -/
theorem run_executeAutocommit_routed
    (routed : decision.1.tablets ≠ [])
    (uncontrolled : decision.1.txControl = false) :
    (Gateway.executeAutocommit ext sql).run (World.machine ext) caller
        (failurePattern range pattern) w =
      (Gateway.forward ext sql decision.1.tablets).run (World.machine ext) caller
        (failurePattern range pattern) { w with router := decision.2 } := by
  rw [Gateway.executeAutocommit, run_route decided]
  simp only [routed, uncontrolled, false_and, if_false, Bool.false_eq_true]
  rfl

/-- A statement without shards reaches none. -/
theorem data_executeAutocommit_nowhere
    (nowhere : decision.1.tablets = []) :
    ((Gateway.executeAutocommit ext sql).run (World.machine ext) caller
        (failurePattern range pattern) w).2.data effect start = w.data effect start := by
  rw [Gateway.executeAutocommit, run_route decided]
  simp only [nowhere, true_and]
  split
  · rfl
  · split
    · rfl
    · rfl

end Decided

/-- Transaction control is sent to no shard. -/
theorem route_control_nowhere
    (exprString : Expr → String)
    (r : Router)
    (range : RangeOrder)
    (control : Parser.isTxControl stmt = true) :
    (r.route exprString range (.ok [stmt]) false).1.tablets = [] := by
  simp only [Router.route, control, if_true]
  split
  · rfl
  · rfl

/-- A write outside a transaction that is answered with an error leaves the data
of every shard as it was exactly when all shards confirm it, or the shards that
have applied it before the first failure do not change by it. -/
theorem autocommit_all_or_nothing_iff
    (ext : Externals)
    (caller : Caller)
    (range : RangeOrder)
    (pattern : TabletClient → Choice)
    (effect : Statement → Data → Data)
    (start : String → Data)
    (stmt : Statement)
    (writes : Parser.isWrite stmt = true)
    (w : World) :
    let targets := (w.router.route ext.exprString range (.ok [stmt]) false).1.tablets
    let final := (Gateway.executeAutocommit ext (.ok [stmt])).run (World.machine ext) caller
      (failurePattern range pattern) w
    ((∃ failure, final.1 = .error failure) →
        final.2.data effect start = w.data effect start) ↔
      (∀ tc ∈ targets, Confirms caller (pattern tc) stmt (w.tablets tc.target) = true) ∨
        applyAt stmt effect (applied caller pattern stmt w.tablets targets)
          (w.data effect start) = w.data effect start := by
  intro targets final
  by_cases routed : targets = []
  · have unchanged : final.2.data effect start = w.data effect start :=
      data_executeAutocommit_nowhere rfl routed
    refine iff_of_true (fun _ => unchanged) (Or.inl ?_)
    rw [routed]
    exact List.forall_mem_nil _
  · have plain : Parser.isTxControl stmt = false := by
      cases control : Parser.isTxControl stmt with
      | false => rfl
      | true => exact absurd (route_control_nowhere ext.exprString w.router range control) routed
    have forwarded : final = _ :=
      run_executeAutocommit_routed rfl routed
        (Router.route_uncontrolled w.router false ext.exprString range stmt [] plain)
    have called : CalledInTurn caller pattern stmt effect start
        { w with router := (w.router.route ext.exprString range (.ok [stmt]) false).2 } targets
        final.1.isOk final.2 := by
      rw [forwarded]
      exact calledInTurn_forward plain writes targets _
    obtain ⟨data, told⟩ := called
    have told : final.1.isOk = true ↔
      ∀ tc ∈ targets, Confirms caller (pattern tc) stmt (w.tablets tc.target) = true := told
    have data : final.2.data effect start = applyAt stmt effect
      (applied caller pattern stmt w.tablets targets) (w.data effect start) := data
    rw [← told, ← data]
    cases answered : final.1 with
    | ok resp =>
        refine iff_of_true ?_ (Or.inl rfl)
        rintro ⟨failure, impossible⟩
        cases impossible
    | error failure =>
        constructor
        · exact fun kept => Or.inr (kept ⟨failure, rfl⟩)
        · rintro (impossible | kept)
          · cases impossible
          · exact fun _ => kept

/-- The call to one shard is lost. -/
def unreachable (addr : String) (tc : TabletClient) : Choice :=
  if tc.target = addr then { network := .lost "connection refused" } else {}

/-- `DELETE FROM users` fails because the first of two shards it is sent to cannot be
reached, and no shard has lost a row. -/
theorem delete_everywhere_or_nowhere :
    let final := (Gateway.executeAutocommit integralExternals (.ok [deleteAllUsers])).run
      (World.machine integralExternals) ⟨1, none⟩ (failurePattern .stored (unreachable "b:1"))
      (openWorld Router.twoShardRouter)
    final.1 = .error (.error
        "gateway: scatter query failed on one tablet: connection refused") ∧
      final.2.data (fun _ _ => 0) (fun _ => 3) =
        (openWorld Router.twoShardRouter).data (fun _ _ => 0) (fun _ => 3) := by
  intro final
  have failed : final.1 = .error (.error
      "gateway: scatter query failed on one tablet: connection refused") := by decide
  refine ⟨failed, (autocommit_all_or_nothing_iff integralExternals ⟨1, none⟩ .stored
    (unreachable "b:1") (fun _ _ => 0) (fun _ => 3) deleteAllUsers rfl
    (openWorld Router.twoShardRouter)).mpr (Or.inr ?_) ⟨_, failed⟩⟩
  rfl

/-- `DELETE FROM users` fails because the second of two shards it is sent to
cannot be reached, and the first has lost its three rows. -/
theorem delete_stops_halfway :
    let final := (Gateway.executeAutocommit integralExternals (.ok [deleteAllUsers])).run
      (World.machine integralExternals) ⟨1, none⟩ (failurePattern .stored (unreachable "a:1"))
      (openWorld Router.twoShardRouter)
    final.1 = .error (.error
        "gateway: scatter query failed on one tablet: connection refused") ∧
      (openWorld Router.twoShardRouter).data (fun _ _ => 0) (fun _ => 3) "b:1" = 3 ∧
      final.2.data (fun _ _ => 0) (fun _ => 3) "b:1" = 0 ∧
      final.2.data (fun _ _ => 0) (fun _ => 3) "a:1" = 3 := by
  decide

end Writes

end VScale
