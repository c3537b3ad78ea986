import VScale.Effects.Trace
import VScale.Gate.Operations
import VScale.Tablet.Behaviour

/-!
# Where a request is executed

The log tells on which tablets statements have been executed successfully.  A
request with a single statement executes it on tablets it was routed to, at most
once on each, and on all of them unless it is answered with an error.
-/

namespace VScale

open Collections Effects Tree

/-- The address at which an event is a successful execution of a statement. -/
def Event.execution : Event → Option String
  | .tablet (some _) addr (.ran _ _ true) => some addr
  | _ => none

namespace World

/-- The tablets on which statements have been executed, oldest first. -/
def executions (w : World) : List String :=
  (w.log.filterMap Event.execution).reverse

theorem executions_absorb
    (w : World)
    (caller : Option Caller)
    (addr : String)
    (reply : Reply Executor α) :
    (w.absorb caller addr reply).executions =
      w.executions ++
        reply.events.filterMap fun event => (Event.tablet caller addr event).execution := by
  simp [executions, absorb, List.filterMap_append, List.filterMap_reverse, List.filterMap_map]

/-- A silent handler executes nothing. -/
theorem executions_callTablet_of_silent
    (w : World)
    (caller : Caller)
    (choice : Choice)
    (addr : String)
    {handler : Executor → Reply Executor α}
    (silent : ∀ e, ∀ event ∈ (handler e).events,
      (Event.tablet (some caller) addr event).execution = none) :
    (w.callTablet caller choice addr handler).2.executions = w.executions := by
  have absorbed : (w.absorb caller addr (handler (w.tablets addr))).executions =
      w.executions := by
    rw [executions_absorb, List.filterMap_eq_nil_iff.mpr (silent (w.tablets addr)),
      List.append_nil]
  unfold callTablet
  cases choice.network with
  | answered | replyLost => exact absorbed
  | lost failure => rfl

end World

/-- Operations that execute no statement. -/
def GateOp.Silent : GateOp → Prop
  | .execute _ _ _ => False
  | .prepare _ _ => False
  | _ => True

variable {e : Executor}

theorem endReply_silent
    {id : TxID}
    {verdict : Verdict}
    {outcome : TxStatus}
    {accept : Option String → β}
    {reply : Reply Executor β}
    (ended : TabletHandler.EndReply e id verdict outcome accept reply)
    (caller : Caller)
    (addr : String) :
    ∀ event ∈ reply.events, (Event.tablet (some caller) addr event).execution = none := by
  cases ended with
  | ignored | unknown => exact List.forall_mem_nil _
  | ended nonzero tx active =>
      intro event present
      rw [List.mem_singleton.mp present]
      rfl

theorem beginReply_silent
    {owner : Caller}
    {reply : Reply Executor QueryResponse}
    (begun : TabletHandler.BeginReply owner e reply)
    (caller : Caller)
    (addr : String) :
    ∀ event ∈ reply.events, (Event.tablet (some caller) addr event).execution = none := by
  cases begun with
  | refused failure => exact List.forall_mem_nil _
  | begun verdict granted =>
      intro event present
      rw [List.mem_singleton.mp present]
      rfl

/-- Silent operations leave the executions as they are. -/
theorem executions_of_silent
    (ext : Externals)
    (caller : Caller)
    (choice : Choice)
    (w : World)
    {op : GateOp}
    (silent : op.Silent) :
    (World.act ext caller op choice w).2.executions = w.executions := by
  cases op with
  | create | get | getState => rfl
  | setState session state =>
      simp only [World.act]
      split
      · rfl
      · rfl
  | shardCount | isParticipating | getLocalTxID | setLocalTxID | participatingShardsMap
  | clearParticipants | route | getClient => rfl
  | begin tc =>
      rw [World.act_begin]
      apply World.executions_callTablet_of_silent
      intro e
      exact beginReply_silent (TabletHandler.execute_begin caller choice.verdicts e) caller
        tc.target
  | execute | prepare => exact absurd silent id
  | commit tc txID =>
      rw [World.act_commit]
      apply World.executions_callTablet_of_silent
      intro e
      exact endReply_silent (TabletHandler.commit_reply choice.verdicts txID e) caller tc.target
  | rollback tc txID =>
      rw [World.act_rollback]
      apply World.executions_callTablet_of_silent
      intro e
      exact endReply_silent (TabletHandler.rollback_reply choice.verdicts txID e) caller tc.target

variable {stmt : Statement}

/-- A single statement is executed, or its reply is an error. -/
theorem plainReplies_single
    {txID : TxID}
    {respond : List Result → α}
    {reply : Reply Executor α}
    (ran : e.PlainReplies txID [stmt] respond reply)
    (caller : Caller)
    (addr : String) :
    (reply.events.filterMap fun event => (Event.tablet (some caller) addr event).execution) =
        [addr] ∨
      (reply.events.filterMap fun event => (Event.tablet (some caller) addr event).execution) =
          [] ∧
        ∃ failure, reply.answer = .error failure := by
  cases ran with
  | done results ready counted => exact Or.inl rfl
  | stopped failure finished culprit tail events split ready last =>
      cases finished with
      | nil =>
          rcases last with none | one
          · rw [none]
            exact Or.inr ⟨rfl, failure, rfl⟩
          · rw [one]
            exact Or.inr ⟨rfl, failure, rfl⟩
      | cons first others =>
          have lengths := congrArg List.length split
          simp at lengths

/-- One statement sent to a tablet is executed there, or the call fails. -/
theorem execute_single
    (ext : Externals)
    (caller : Caller)
    (choice : Choice)
    (w : World)
    (tc : TabletClient)
    (txID : TxID)
    (plain : Parser.isTxControl stmt = false) :
    (World.act ext caller (.execute tc (.ok [stmt]) txID) choice w).2.executions =
        w.executions ++ [tc.target] ∨
      (World.act ext caller (.execute tc (.ok [stmt]) txID) choice w).2.executions =
          w.executions ∧
        ∃ failure,
          (World.act ext caller (.execute tc (.ok [stmt]) txID) choice w).1 = .error failure := by
  have ran := plainReplies_single
    (TabletHandler.execute_plain caller choice.verdicts txID (w.tablets tc.target)
      (List.forall_mem_singleton.mpr plain)) caller tc.target
  have sent : (w.addEvent (.sent caller tc.target (.ok [stmt]))).executions = w.executions := rfl
  simp only [World.act, World.callTablet]
  cases choice.network with
  | lost failure => exact Or.inr ⟨rfl, failure, rfl⟩
  | answered =>
      simp only
      rw [World.executions_absorb, sent]
      rcases ran with executed | ⟨skipped, failure, failed⟩
      · exact Or.inl (congrArg _ executed)
      · refine Or.inr ⟨(congrArg _ skipped).trans (List.append_nil _), rpcError failure, ?_⟩
        rw [show (w.addEvent _).tablets = w.tablets from rfl, failed]
        rfl
  | replyLost failure =>
      simp only
      rw [World.executions_absorb, sent]
      rcases ran with executed | ⟨skipped, _⟩
      · exact Or.inl (congrArg _ executed)
      · exact Or.inr ⟨(congrArg _ skipped).trans (List.append_nil _), failure, rfl⟩

theorem silent_rollbacks (session : Int) : Coordinator.Rollbacks GateOp.Silent session :=
  ⟨trivial, fun _ => trivial, fun _ _ => trivial⟩

/-- Routing decisions are those of one router, whose maps are visited in a given
order. -/
def Decides
    (ext : Externals)
    (r : Router)
    (range : RangeOrder)
    (op : GateOp)
    (answer : op.Answer) : Prop :=
  match op, answer with
  | .route sql inTransaction, result =>
      result = (r.route ext.exprString range sql inTransaction).1
  | _, _ => True

/-- The steps of a caller with such decisions. -/
def World.StepsRouting
    (ext : Externals)
    (r : Router)
    (range : RangeOrder)
    (caller : Caller)
    (op : GateOp)
    (before : World)
    (answer : op.Answer)
    (after : World) : Prop :=
  (World.machine ext).StepsWhen
    (fun step => Decides ext r range step.op (step.answer (World.machine ext) caller))
    caller op before answer after

/-- Others execute no statement. -/
def executing : Contract World where
  rely := fun before after => after.executions = before.executions
  guarantee := fun _ _ => True
  rely_refl := fun _ => rfl
  rely_trans := fun first second => second.trans first

/-- The environment executes no statement on its own. -/
theorem executions_disturb
    (move : Move)
    (w : World) :
    (w.disturb move).executions = w.executions := by
  cases move with
  | reap addr id =>
      simp only [World.disturb]
      rw [World.executions_absorb]
      have none : ∀ event : TabletEvent,
          (Event.tablet none addr event).execution = Option.none := fun _ => rfl
      simp only [none, List.filterMap_none, List.append_nil]
  | restart | sync | reapSession => rfl

theorem executions_disturbed
    (ext : Externals)
    (moves : List Move)
    (w : World) :
    (moves.foldl (fun w move => (World.machine ext).disturb move w) w).executions =
      w.executions := by
  induction moves generalizing w with
  | nil => rfl
  | cons move moves ih =>
      rw [List.foldl_cons, ih]
      exact executions_disturb move w

/-- An outcome other than an error message: a response, or no answer at all. -/
def Outcome.Answered (outcome : Outcome) : Prop :=
  ∀ message, outcome ≠ .error (.error message)

theorem not_answered (message : String) : ¬ Outcome.Answered (.error (.error message)) :=
  fun answered => answered message rfl

/-- Executions were added on some of the targets, and on all if `complete`. -/
def Spread (targets : List String) (complete : Prop) (w later : World) : Prop :=
  ∃ done : List String, done.Sublist targets ∧ later.executions = w.executions ++ done ∧
    (complete → done = targets)

namespace Spread

variable {targets : List String} {complete stronger : Prop} {w middle later : World}

theorem skipped
    (same : later.executions = w.executions)
    (incomplete : ¬ complete) :
    Spread targets complete w later :=
  ⟨[], List.nil_sublist targets, by rw [same, List.append_nil], fun done => absurd done incomplete⟩

theorem all_none (same : later.executions = w.executions) : Spread [] complete w later :=
  ⟨[], List.Sublist.refl [], by rw [same, List.append_nil], fun _ => rfl⟩

variable {addr : String}

theorem of_one
    (step : later.executions = w.executions ++ [addr] ∨
      later.executions = w.executions ∧ ¬ complete) :
    Spread [addr] complete w later := by
  rcases step with executed | ⟨same, incomplete⟩
  · exact ⟨[addr], List.Sublist.refl _, executed, fun _ => rfl⟩
  · exact skipped same incomplete

theorem cons_executed
    (first : middle.executions = w.executions ++ [addr])
    (rest : Spread targets complete middle later)
    (implied : stronger → complete) :
    Spread (addr :: targets) stronger w later := by
  obtain ⟨done, selected, added, all⟩ := rest
  refine ⟨addr :: done, selected.cons_cons addr, ?_, ?_⟩
  · rw [added, first, List.append_assoc]
    rfl
  · intro holds
    rw [all (implied holds)]

theorem cons_skipped
    (first : middle.executions = w.executions)
    (rest : Spread targets complete middle later)
    (incomplete : ¬ stronger) :
    Spread (addr :: targets) stronger w later := by
  obtain ⟨done, selected, added, _⟩ := rest
  exact ⟨done, selected.cons addr, by rw [added, first], fun holds => absurd holds incomplete⟩

theorem after_silent
    (same : middle.executions = w.executions)
    (rest : Spread targets complete middle later) :
    Spread targets complete w later := by
  obtain ⟨done, selected, added, all⟩ := rest
  exact ⟨done, selected, by rw [added, same], all⟩

theorem before_silent
    (first : Spread targets complete w middle)
    (same : later.executions = middle.executions)
    (implied : stronger → complete) :
    Spread targets stronger w later := by
  obtain ⟨done, selected, added, all⟩ := first
  exact ⟨done, selected, by rw [same, added], fun holds => all (implied holds)⟩

end Spread

/-- What a program executes under a fixed topology. -/
abbrev Traced
    (ext : Externals)
    (r : Router)
    (range : RangeOrder)
    (caller : Caller)
    (program : GateM α)
    (post : α → World → Prop)
    (w : World) : Prop :=
  program.wp executing (World.StepsRouting ext r range caller) post w

section Single

variable {ext : Externals} {r : Router} {range : RangeOrder} {caller : Caller}
variable {stmt : Statement}

variable {w middle : World} {result : RouteResult}

variable {post : α → World → Prop}

/-- A silent operation may be passed over. -/
theorem wp_silent
    {op : GateOp}
    {next : op.Answer → GateM α}
    (silent : op.Silent)
    (follows : ∀ answer after, after.executions = w.executions →
      Traced ext r range caller (next answer) post after) :
    Traced ext r range caller (Prog.perform op next) post w := by
  refine Prog.wp_perform_when ?_
  intro before choice reached _
  exact follows _ _ ((executions_of_silent ext caller choice before silent).trans reached)

/-- A program of silent operations leaves the executions as they are. -/
theorem executions_of_only_silent
    {program : GateM α}
    (silent : program.Only GateOp.Silent) :
    Traced ext r range caller program (fun _ later => later.executions = w.executions) w := by
  have stable : ∀ before after : World, executing.rely before after →
      before.executions = w.executions → after.executions = w.executions :=
    fun _ _ reached same => Eq.trans reached same
  refine Prog.wp_of_only stable ?_ silent rfl
  rintro op before _ _ quietly ⟨choice, _, stepped⟩ same
  obtain ⟨_, rfl⟩ := Prod.ext_iff.mp stepped
  exact ⟨trivial, (executions_of_silent ext caller choice before quietly).trans same⟩

/-- A routing decision. -/
theorem wp_route
    {sql : SqlText}
    {inTransaction : Bool}
    {next : RouteResult → GateM α}
    (follows : ∀ after, after.executions = w.executions →
      Traced ext r range caller (next (r.route ext.exprString range sql inTransaction).1)
        post after) :
    Traced ext r range caller (Prog.perform (.route sql inTransaction) next) post w := by
  refine Prog.wp_perform_when ?_
  intro before choice reached decided
  have routes : GateOp.Silent (.route sql inTransaction) := trivial
  have answered : ((World.machine ext).act caller (.route sql inTransaction) choice before).1 =
      (r.route ext.exprString range sql inTransaction).1 := decided
  rw [answered]
  exact follows _ ((executions_of_silent ext caller choice before routes).trans reached)

/-- Execute one statement on one tablet. -/
theorem wp_execute
    (plain : Parser.isTxControl stmt = false)
    {tc : TabletClient}
    {txID : TxID}
    {next : Except String QueryResponse → GateM α}
    (follows : ∀ answer after,
      (after.executions = w.executions ++ [tc.target] ∨
        after.executions = w.executions ∧ ∃ failure, answer = .error failure) →
      Traced ext r range caller (next answer) post after) :
    Traced ext r range caller (Prog.perform (.execute tc (.ok [stmt]) txID) next) post w := by
  refine Prog.wp_perform_when ?_
  intro before choice reached _
  have executed := execute_single ext caller choice before tc txID plain
  rw [show before.executions = w.executions from reached] at executed
  exact follows _ _ executed

/-- What has been executed stays executed while others act. -/
theorem wp_spread
    {value : α}
    {complete : α → Prop}
    {targets : List String}
    (holds : Spread targets (complete value) w middle) :
    Traced ext r range caller (Prog.pure value : GateM α)
      (fun value later => Spread targets (complete value) w later) middle :=
  fun _ still => holds.before_silent still id

/-- A scatter executes on its tablets in order. -/
theorem spread_gatewayLoop
    (plain : Parser.isTxControl stmt = false)
    (tablets : List TabletClient)
    (w : World) :
    Traced ext r range caller (Gateway.scatterLoop (.ok [stmt]) tablets) (fun gathered later =>
        Spread (tablets.map TabletClient.target) (∃ results, gathered = .ok results) w later)
      w := by
  induction tablets generalizing w with
  | nil => exact wp_spread (Spread.all_none rfl)
  | cons tc tablets ih =>
      apply wp_execute plain
      intro answer after executed
      cases answer with
      | error failure =>
          apply wp_spread
          have incomplete : ¬ ∃ results : List QueryResult,
              (Except.error ("gateway: scatter query failed on one tablet: " ++ failure) :
                Except String (List QueryResult)) = .ok results := nofun
          rcases executed with one | ⟨same, _⟩
          · exact Spread.cons_executed one (Spread.skipped rfl id : Spread _ False after after)
              (fun done => incomplete done)
          · exact Spread.skipped same incomplete
      | ok resp =>
          have one : after.executions = w.executions ++ [tc.target] := by
            rcases executed with one | ⟨_, failure, failed⟩
            · exact one
            · cases failed
          apply Prog.wp_seq (ih after)
          intro gathered later rest
          apply wp_spread
          apply Spread.cons_executed one rest
          rintro ⟨results, mapped⟩
          cases gathered with
          | error failure => cases mapped
          | ok found => exact ⟨found, rfl⟩

theorem spread_coordinatorLoop
    (plain : Parser.isTxControl stmt = false)
    (session : Int)
    (tablets : List TabletClient)
    (w : World) :
    Traced ext r range caller (Coordinator.scatterLoop session (.ok [stmt]) tablets)
      (fun gathered later =>
        Spread (tablets.map TabletClient.target) (gathered.1 = none) w later) w := by
  induction tablets generalizing w with
  | nil => exact wp_spread (Spread.all_none rfl)
  | cons tc tablets ih =>
      apply wp_silent (show GateOp.Silent (.getLocalTxID session tc.target) from trivial)
      intro held looked same
      apply wp_execute plain
      intro answer after executed
      rw [same] at executed
      apply Prog.wp_seq (ih after)
      intro gathered later rest
      cases answer with
      | error failure =>
          apply wp_spread
          rcases executed with one | ⟨unchanged, _⟩
          · exact Spread.cons_executed one rest nofun
          · exact Spread.cons_skipped unchanged rest nofun
      | ok resp =>
          apply wp_spread
          rcases executed with one | ⟨_, failure, failed⟩
          · exact Spread.cons_executed one rest fun none => none
          · cases failed

/-- Where a routing decision sends a statement. -/
def RouteResult.targets (result : RouteResult) : List String :=
  result.tablets.map TabletClient.target

/-- A request executes its statement on tablets of one routing decision, and on
all of them unless it is answered with an error. -/
def Delivered (result : RouteResult) (w : World) (outcome : Outcome) (later : World) : Prop :=
  Spread result.targets outcome.Answered w later ∧
    (outcome.Answered → result.tablets ≠ [] ∨ result.scatter = true)

theorem delivered_of_failure
    {later : World}
    (message : String)
    (same : later.executions = w.executions) :
    Delivered result w (.error (.error message)) later :=
  ⟨Spread.skipped same (not_answered message),
    fun answered => absurd answered (not_answered message)⟩

theorem wp_delivered
    {outcome : Outcome}
    (holds : Delivered result w outcome middle) :
    Traced ext r range caller (Prog.pure outcome : GateM Outcome) (Delivered result w) middle :=
  fun _ still => ⟨holds.1.before_silent still id, holds.2⟩

/-- What the shards of a scatter receive is a single statement again. -/
theorem shardText_single
    (ext : Externals)
    (plain : Parser.isTxControl stmt = false) :
    ∃ sent, Coordinator.shardText ext (.ok [stmt]) = .ok [sent] ∧
      Parser.isTxControl sent = false := by
  unfold Coordinator.shardText
  split
  · unfold Aggregate.stripForScatter
    split
    · split
      · exact ⟨_, rfl, rfl⟩
      · exact ⟨_, rfl, plain⟩
    · exact ⟨_, rfl, plain⟩
  · exact ⟨_, rfl, plain⟩

section Plain

variable (plain : Parser.isTxControl stmt = false)
include plain

/-- A statement is executed where it is routed. -/
theorem delivered_executeAutocommit (w : World) :
    Traced ext r range caller (Gateway.executeAutocommit ext (.ok [stmt]))
      (Delivered (r.route ext.exprString range (.ok [stmt]) false).1 w) w := by
  apply wp_route
  intro routed same
  generalize (r.route ext.exprString range (.ok [stmt]) false).1 = result
  split
  · exact wp_delivered (delivered_of_failure _ same)
  · rename_i some
    split
    · exact wp_delivered (delivered_of_failure _ same)
    · have possible : result.tablets ≠ [] ∨ result.scatter = true := by
        by_cases empty : result.tablets = []
        · exact Or.inr (by simpa [empty] using some)
        · exact Or.inl empty
      split
      · rename_i tc single
        apply wp_execute plain
        intro answer after executed
        apply wp_delivered
        refine ⟨?_, fun _ => possible⟩
        have target : result.targets = [tc.target] := by
          unfold RouteResult.targets
          rw [single]
          rfl
        rw [target]
        apply Spread.of_one
        rw [same] at executed
        rcases executed with one | ⟨unchanged, failure, failed⟩
        · exact Or.inl one
        · rw [failed]
          exact Or.inr ⟨unchanged, not_answered failure⟩
      · obtain ⟨sent, sentText, sentPlain⟩ := shardText_single ext plain
        rw [sentText]
        apply Prog.wp_seq (spread_gatewayLoop sentPlain result.tablets routed)
        intro gathered later spread
        cases gathered with
        | error failure =>
            apply wp_delivered
            refine ⟨?_, fun answered => absurd answered (not_answered failure)⟩
            exact (spread.after_silent same).before_silent rfl
              (fun answered => absurd answered (not_answered failure))
        | ok results =>
            apply wp_delivered
            refine ⟨?_, fun _ => possible⟩
            exact (spread.after_silent same).before_silent rfl fun _ => ⟨results, rfl⟩

theorem spread_executeScatter
    (session : Int)
    (tablets : List TabletClient)
    (w : World) :
    Traced ext r range caller (Coordinator.executeScatter ext session (.ok [stmt]) tablets)
      (fun outcome later =>
        Spread (tablets.map TabletClient.target) outcome.Answered w later) w := by
  have aborted : ∀ (complete : Prop) (message : String) (middle : World),
      Spread (tablets.map TabletClient.target) complete w middle →
      Traced ext r range caller (Coordinator.abort session message) (fun outcome later =>
          Spread (tablets.map TabletClient.target) outcome.Answered w later) middle := by
    intro complete message middle spread
    apply Prog.wp_seq (executions_of_only_silent
      (Coordinator.only_rollbackAll (silent_rollbacks session)))
    intro complaint later same
    exact wp_spread (spread.before_silent same
      fun answered => absurd answered (not_answered message))
  obtain ⟨sent, sentText, sentPlain⟩ := shardText_single ext plain
  unfold Coordinator.executeScatter
  rw [sentText]
  apply Prog.wp_seq (spread_coordinatorLoop sentPlain session tablets w)
  intro gathered middle spread
  obtain ⟨failure, results⟩ := gathered
  cases failure with
  | some message => exact aborted _ message middle spread
  | none =>
      simp only
      split
      · split
        · exact aborted _ _ middle spread
        · exact wp_spread (spread.before_silent rfl fun _ => rfl)
        · exact wp_spread (spread.before_silent rfl fun _ => rfl)
      · exact wp_spread (spread.before_silent rfl fun _ => rfl)

theorem spread_executeSingle
    (session : Int)
    (tc : TabletClient)
    (w : World) :
    Traced ext r range caller (Coordinator.executeSingle session (.ok [stmt]) tc)
      (fun outcome later => Spread [tc.target] outcome.Answered w later) w := by
  apply wp_silent (show GateOp.Silent (.getLocalTxID session tc.target) from trivial)
  intro held looked same
  apply wp_execute plain
  intro answer after executed
  apply wp_spread
  apply Spread.of_one
  rw [same] at executed
  rcases executed with one | ⟨unchanged, failure, failed⟩
  · exact Or.inl one
  · rw [failed]
    exact Or.inr ⟨unchanged, not_answered failure⟩

/-- So is a statement of a session. -/
theorem delivered_coordinatorExecute
    (session : Int)
    (w : World) :
    Traced ext r range caller (Coordinator.execute ext session (.ok [stmt]))
      (Delivered (r.route ext.exprString range (.ok [stmt]) true).1 w) w := by
  apply wp_silent (show GateOp.Silent (.getState session) from trivial)
  intro state checked unchecked
  split
  · apply wp_silent (show GateOp.Silent (.getState session) from trivial)
    intro printed later same
    exact wp_delivered (delivered_of_failure _ (same.trans unchecked))
  · apply wp_route
    intro routed unrouted
    have same := unrouted.trans unchecked
    generalize (r.route ext.exprString range (.ok [stmt]) true).1 = result
    split
    · exact wp_delivered (delivered_of_failure _ same)
    · rename_i some
      have possible : result.tablets ≠ [] ∨ result.scatter = true := by
        by_cases empty : result.tablets = []
        · exact Or.inr (by simpa [empty] using some)
        · exact Or.inl empty
      apply Prog.wp_seq (executions_of_only_silent (Coordinator.only_beginOnAll
        (silent_rollbacks session) (fun _ => trivial) (fun _ => trivial) (fun _ _ => trivial) _))
      intro failed begun unchanged
      rw [same] at unchanged
      cases failed with
      | some failure => exact wp_delivered (delivered_of_failure _ unchanged)
      | none =>
          have delivered : ∀ outcome later,
              Spread result.targets outcome.Answered begun later →
              Delivered result w outcome later := by
            intro outcome later spread
            exact ⟨spread.after_silent unchanged, fun _ => possible⟩
          simp only
          split
          · rename_i tc single _
            apply Prog.wp_mono (spread_executeSingle plain session tc begun)
            intro outcome later spread
            apply delivered
            unfold RouteResult.targets
            rw [single]
            exact spread
          · apply Prog.wp_mono (spread_executeScatter plain session result.tablets begun)
            exact delivered

/-- A request with one statement executes it where the router says. -/
theorem delivered_execute
    (transactionId : Int)
    (w : World) :
    Traced ext r range caller (Gateway.execute ext ⟨.ok [stmt], transactionId⟩)
      (Delivered (r.route ext.exprString range (.ok [stmt]) (decide (transactionId ≠ 0))).1 w)
      w := by
  rw [Gateway.execute_plain ext plain]
  by_cases autocommit : transactionId = 0
  · rw [if_pos autocommit, show decide (transactionId ≠ 0) = false by simp [autocommit]]
    exact delivered_executeAutocommit plain w
  · rw [if_neg autocommit, show decide (transactionId ≠ 0) = true by simp [autocommit]]
    apply wp_silent (show GateOp.Silent (.get transactionId) from trivial)
    intro found checked unchecked
    cases found with
    | true =>
        apply Prog.wp_mono (delivered_coordinatorExecute plain transactionId checked)
        intro outcome later delivered
        exact ⟨delivered.1.after_silent unchecked, delivered.2⟩
    | false => exact wp_delivered (delivered_of_failure _ unchecked)

end Plain

end Single

end VScale
