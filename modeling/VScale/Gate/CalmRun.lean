import VScale.Gate.Executions

/-!
# A run without failures

When every tablet accepts writes, every call is answered and the database
reports success without rows, a request that is routed somewhere is answered.
-/

namespace VScale

open Aggregate Collections Effects Tree

/-- Every call is answered, and the database reports success without rows. -/
def calm (range : RangeOrder) : Choice :=
  { order := range }

/-- Participants of the session are active, and every tablet accepts writes. -/
structure Calm (session : Int) (w : World) : Prop where
  writable : ∀ addr, (w.tablets addr).tabletType = .primary
  active : ∀ addr id, (w.sessions session).shardTxIDs.lookup addr = some id →
    id.id ≠ 0 ∧ ∃ tx, (w.tablets addr).tx.get id = some tx

/-- A world in which every session is in a transaction that touched no shard. -/
def openWorld (r : Router) : World where
  router := r
  sessions := fun _ => { state := .inTransaction }
  present := fun _ => true

theorem openWorld_calm (r : Router) (session : Int) : Calm session (openWorld r) where
  writable := fun _ => rfl
  active := by
    intro addr id found
    rw [show ((openWorld r).sessions session).shardTxIDs = ∅ from rfl, AList.lookup_empty]
      at found
    cases found

/-- The rows a list of results carries. -/
def rowsOf (results : List QueryResult) : List (List String) :=
  results.flatMap QueryResult.rows

variable {e : Executor} {txID : TxID} {results : List QueryResult}

theorem executePlain_calm
    (stmt : Statement)
    (writable : e.tabletType = .primary)
    (ready : e.Ready txID) :
    ∃ result : Result, result.rows = [] ∧
      (e.executePlain {} txID stmt).answer = .ok (result, txID) := by
  have accepts : e.isReadOnlyTablet = false := by
    simp [Executor.isReadOnlyTablet, writable]
  unfold Executor.executePlain
  rw [accepts, Bool.false_and, if_neg Bool.false_ne_true]
  rcases ready with zero | ⟨tx, found⟩
  · rw [if_neg (not_ne_iff.mpr zero)]
    split
    · exact ⟨_, rfl, rfl⟩
    · exact ⟨_, rfl, rfl⟩
  · split
    · split
      · simp only [TxManager.query, TxManager.run, found]
        exact ⟨_, rfl, rfl⟩
      · simp only [TxManager.execute, TxManager.run, found]
        exact ⟨_, rfl, rfl⟩
    · split
      · exact ⟨_, rfl, rfl⟩
      · exact ⟨_, rfl, rfl⟩

variable {stmt : Statement}

/-- A calm tablet answers a statement without rows. -/
theorem execute_calm
    (owner : Caller)
    (plain : Parser.isTxControl stmt = false)
    (writable : e.tabletType = .primary)
    (ready : e.Ready txID) :
    ∃ resp : QueryResponse, rowsOf resp.results = [] ∧
      (TabletHandler.execute owner (fun _ => {}) (.ok [stmt]) txID e).answer = .ok resp := by
  obtain ⟨result, rowless, done⟩ := executePlain_calm stmt writable ready
  rw [← Executor.executeStatement_plain owner {} e txID plain] at done
  refine ⟨{ results := [TabletHandler.renderResult result], transactionId := txID }, ?_, ?_⟩
  · simp [rowsOf, TabletHandler.renderResult, rowless]
  · simp only [TabletHandler.execute, Executor.executeSQL, Executor.executeStatements, done]
    rfl

/-- A call in a calm world is answered and changes neither sessions nor tablets. -/
theorem act_execute_calm
    (ext : Externals)
    (range : RangeOrder)
    (caller : Caller)
    {w : World}
    (tc : TabletClient)
    (plain : Parser.isTxControl stmt = false)
    (writable : ∀ addr, (w.tablets addr).tabletType = .primary)
    (ready : (w.tablets tc.target).Ready txID) :
    ∃ resp : QueryResponse, rowsOf resp.results = [] ∧
      (w.act ext caller (.execute tc (.ok [stmt]) txID) (calm range)).1 = .ok resp ∧
      (w.act ext caller (.execute tc (.ok [stmt]) txID) (calm range)).2.sessions = w.sessions ∧
      (w.act ext caller (.execute tc (.ok [stmt]) txID) (calm range)).2.tablets = w.tablets := by
  obtain ⟨resp, rowless, answered⟩ := execute_calm caller plain (writable tc.target) ready
  have unchanged := (TabletHandler.execute_plain caller (fun _ => {}) txID
    (w.tablets tc.target) (List.forall_mem_singleton.mpr plain)).state_eq
  refine ⟨resp, rowless, ?_, rfl, ?_⟩
  · change Except.mapError rpcError (TabletHandler.execute caller (fun _ => {}) (.ok [stmt]) txID
      (w.tablets tc.target)).answer = _
    rw [answered]
    rfl
  · change Function.update w.tablets tc.target (TabletHandler.execute caller (fun _ => {})
      (.ok [stmt]) txID (w.tablets tc.target)).state = _
    rw [unchanged, Function.update_eq_self]

/-- What a program does without failures and on its own. -/
abbrev Untroubled
    (ext : Externals)
    (range : RangeOrder)
    (caller : Caller)
    (program : GateM α)
    (post : α → World → Prop)
    (w : World) : Prop :=
  program.wp (Contract.alone World) ((World.machine ext).StepsBy (calm range) caller) post w

section Loops

variable {ext : Externals} {range : RangeOrder} {caller : Caller} {stmt : Statement}

/-- A calm scatter gathers no rows. -/
theorem calm_gatewayLoop
    (plain : Parser.isTxControl stmt = false)
    (tablets : List TabletClient)
    (w : World)
    (writable : ∀ addr, (w.tablets addr).tabletType = .primary) :
    Untroubled ext range caller (Gateway.scatterLoop (.ok [stmt]) tablets)
      (fun gathered _ => ∃ results, gathered = .ok results ∧ rowsOf results = []) w := by
  induction tablets generalizing w with
  | nil => exact Prog.wp_pure_alone ⟨[], rfl, rfl⟩
  | cons tc tablets ih =>
      obtain ⟨resp, rowless, answered, _, tablets_eq⟩ :=
        act_execute_calm ext range caller tc plain writable
          (Or.inl rfl : Executor.Ready _ TxID.zero)
      refine Prog.wp_perform_by (Prod.ext answered rfl) ?_
      apply Prog.wp_seq (ih _ fun addr =>
        (congrArg (fun tablets => (tablets addr).tabletType) tablets_eq).trans (writable addr))
      rintro gathered later ⟨results, rfl, rest⟩
      apply Prog.wp_pure_alone
      refine ⟨resp.results ++ results, rfl, ?_⟩
      rw [rowsOf, List.flatMap_append]
      exact List.append_eq_nil_iff.mpr ⟨rowless, rest⟩

variable {session : Int} {w : World}

/-- The id a calm session holds for a tablet can be used there. -/
theorem Calm.ready
    (peaceful : Calm session w)
    (addr : String) :
    (w.tablets addr).Ready (((w.sessions session).shardTxIDs.lookup addr).getD TxID.zero) := by
  cases found : (w.sessions session).shardTxIDs.lookup addr with
  | none => exact Or.inl rfl
  | some id => exact Or.inr (peaceful.active addr id found).2

/-- A statement sent under the session's own id keeps the session calm. -/
theorem Calm.execute
    (ext : Externals)
    (range : RangeOrder)
    (caller : Caller)
    (peaceful : Calm session w)
    (plain : Parser.isTxControl stmt = false)
    (tc : TabletClient) :
    let sent := w.act ext caller (.execute tc (.ok [stmt])
      (((w.sessions session).shardTxIDs.lookup tc.target).getD TxID.zero)) (calm range)
    ∃ resp : QueryResponse, rowsOf resp.results = [] ∧ sent.1 = .ok resp ∧ Calm session sent.2 := by
  obtain ⟨resp, rowless, answered, sessions_eq, tablets_eq⟩ :=
    act_execute_calm ext range caller tc plain peaceful.writable (peaceful.ready tc.target)
  refine ⟨resp, rowless, answered, ?_, ?_⟩
  · rw [tablets_eq]
    exact peaceful.writable
  · rw [sessions_eq, tablets_eq]
    exact peaceful.active

theorem calm_coordinatorLoop
    (plain : Parser.isTxControl stmt = false)
    (session : Int)
    (tablets : List TabletClient)
    (w : World)
    (peaceful : Calm session w) :
    Untroubled ext range caller (Coordinator.scatterLoop session (.ok [stmt]) tablets)
      (fun gathered later => gathered.1 = none ∧ rowsOf gathered.2 = [] ∧ Calm session later)
      w := by
  induction tablets generalizing w with
  | nil => exact Prog.wp_pure_alone ⟨rfl, rfl, peaceful⟩
  | cons tc tablets ih =>
      obtain ⟨resp, rowless, answered, still⟩ := peaceful.execute ext range caller plain tc
      refine Prog.wp_perform_by rfl (Prog.wp_perform_by (Prod.ext answered rfl) ?_)
      apply Prog.wp_seq (ih _ still)
      rintro gathered later ⟨unfailed, rest, calmly⟩
      apply Prog.wp_pure_alone
      refine ⟨unfailed, ?_, calmly⟩
      rw [rowsOf, List.flatMap_append]
      exact List.append_eq_nil_iff.mpr ⟨rowless, rest⟩

/-- Beginning on a tablet and recording its id. -/
theorem calm_begin
    (ext : Externals)
    (range : RangeOrder)
    (caller : Caller)
    (peaceful : Calm session w)
    (tc : TabletClient) :
    ∃ resp : QueryResponse,
      (w.act ext caller (.begin tc) (calm range)).1 = .ok resp ∧
        Calm session ((w.act ext caller (.begin tc) (calm range)).2.updateSession session
          fun s => { s with shardTxIDs := s.shardTxIDs.insert tc.target resp.transactionId }) := by
  have granted : (TabletHandler.execute caller (fun _ => {}) beginText TxID.zero
      (w.tablets tc.target)) =
        ⟨.ok { results := [{ sql := "BEGIN" }]
               transactionId :=
                ⟨(w.tablets tc.target).tx.nextID + 1, (w.tablets tc.target).tx.epoch⟩ },
          { w.tablets tc.target with tx := ((w.tablets tc.target).tx.begin caller {}).state },
          [.opened ⟨(w.tablets tc.target).tx.nextID + 1, (w.tablets tc.target).tx.epoch⟩]⟩ := rfl
  have acted : w.act ext caller (.begin tc) (calm range) =
      (.ok { results := [{ sql := "BEGIN" }]
             transactionId :=
              ⟨(w.tablets tc.target).tx.nextID + 1, (w.tablets tc.target).tx.epoch⟩ },
        w.absorb caller tc.target (TabletHandler.execute caller (fun _ => {}) beginText
          TxID.zero (w.tablets tc.target))) := by
    simp only [World.act, World.callTablet, calm, granted]
    rfl
  rw [acted, granted]
  refine ⟨_, rfl, ?_, ?_⟩
  · intro addr
    by_cases same : addr = tc.target
    · subst same
      simp [World.updateSession, World.absorb, peaceful.writable]
    · simp [World.updateSession, World.absorb, same, peaceful.writable]
  · intro addr id found
    simp only [World.updateSession, World.absorb, Function.update_self] at found ⊢
    by_cases same : addr = tc.target
    · subst same
      rw [AList.lookup_insert] at found
      injection found with isNew
      subst isNew
      refine ⟨Nat.succ_ne_zero _, ⟨caller, .active⟩, ?_⟩
      simp [TxManager.get, TxManager.begin, TxManager.resolve]
    · rw [AList.lookup_insert_ne same] at found
      rw [Function.update_of_ne same]
      exact peaceful.active addr id found

/-- A calm session begins everywhere. -/
theorem calm_beginOnAll
    (session : Int)
    (tablets : List TabletClient)
    (w : World)
    (peaceful : Calm session w) :
    Untroubled ext range caller (Coordinator.beginOnAll session tablets)
      (fun failed later => failed = none ∧ Calm session later) w := by
  induction tablets generalizing w with
  | nil => exact Prog.wp_pure_alone ⟨rfl, peaceful⟩
  | cons tc tablets ih =>
      refine Prog.wp_perform_by rfl ?_
      split
      · exact ih w peaceful
      · obtain ⟨resp, answered, recorded⟩ := calm_begin ext range caller peaceful tc
        refine Prog.wp_perform_by (Prod.ext answered rfl) ?_
        exact Prog.wp_perform_by rfl (ih _ recorded)

end Loops

/-- Cutting to the window panics for the single row of an aggregation, or without one for
no rows. -/
def MergeCrashes (ext : Externals) (stmt : Statement) : Prop :=
  let plan := extractPlan ext (.ok [stmt])
  windowStep plan (if plan.hasAgg then [()] else []) = .error .crash

/-- Whether a window panics depends on the number of rows only. -/
theorem windowStep_crash_iff
    (plan : QueryPlan)
    {rows : List α}
    {others : List β}
    (same : rows.length = others.length) :
    windowStep plan rows = .error .crash ↔ windowStep plan others = .error .crash := by
  unfold windowStep applyLimitOffset
  rw [same]
  split
  · simp only
    split
    · exact iff_of_false nofun nofun
    · exact iff_of_true rfl rfl
  · exact iff_of_false nofun nofun

theorem flattenResults_of_no_rows
    (ext : Externals)
    (rowless : rowsOf results = []) :
    (flattenResults ext { results := results }).1 = [] := by
  unfold flattenResults
  split
  · rfl
  · rename_i first rest shape
    have shape : results = first :: rest := shape
    rw [← shape, ← List.map_flatMap]
    exact List.map_eq_nil_iff.mpr rowless

/-- Without rows a merge cuts the row of an aggregation or none. -/
theorem mergeRows_nil
    (ext : Externals)
    (plan : QueryPlan)
    (cols : List String) :
    mergeRows plan cols ([] : List (Row ext)) =
      windowStep plan (collectStep plan cols ([] : List (Row ext))) := by
  have short : (collectStep plan cols ([] : List (Row ext))).length ≤ 1 :=
    length_collectStep_nil plan cols
  rw [mergeRows, orderStep, if_neg (by omega)]

/-- Merging no rows never produces an error message. -/
theorem merge_of_no_rows
    (ext : Externals)
    (plan : QueryPlan)
    (rowless : rowsOf results = [])
    (message : String) :
    mergeScatterResponses ext (some plan) { results := results } ≠ .error (.error message) := by
  unfold mergeScatterResponses
  simp only [flattenResults_of_no_rows ext rowless, Option.getD_some, mergeRows_nil]
  split
  · rename_i fault failed
    intro same
    injection same with same
    rw [same] at failed
    exact windowStep_ne_error plan _ message failed
  · rintro ⟨⟩

/-- A merge without rows crashes for the plan alone. -/
theorem mergeCrashes_of_no_rows
    {ext : Externals}
    (rowless : rowsOf results = [])
    (crashed : mergeScatterResponses ext (some (extractPlan ext (.ok [stmt])))
      { results := results } = .error .crash) : MergeCrashes ext stmt := by
  unfold mergeScatterResponses at crashed
  simp only [flattenResults_of_no_rows ext rowless, Option.getD_some, mergeRows_nil] at crashed
  split at crashed
  · rename_i fault failed
    injection crashed with same
    rw [same] at failed
    exact (windowStep_crash_iff _ (length_collectStep_of_no_rows _ _)).mp failed
  · cases crashed

section Requests

variable {ext : Externals} {range : RangeOrder} {caller : Caller} {stmt : Statement}

/-- No error message, and a response unless the merge of no rows panics. -/
def Outcome.Responds (ext : Externals) (stmt : Statement) (outcome : Outcome) : Prop :=
  outcome.Answered ∧
    (outcome = .error .crash →
      (extractPlan ext (.ok [stmt])).needsMerge = true ∧ MergeCrashes ext stmt)

theorem Outcome.Responds.ok
    {outcome : Outcome}
    (responds : outcome.Responds ext stmt)
    (calmly : (extractPlan ext (.ok [stmt])).needsMerge = true → ¬ MergeCrashes ext stmt) :
    ∃ resp, outcome = .ok resp := by
  cases outcome with
  | ok resp => exact ⟨resp, rfl⟩
  | error fault =>
      cases fault with
      | error message => exact absurd rfl (responds.1 message)
      | crash =>
          obtain ⟨merged, crashes⟩ := responds.2 rfl
          exact absurd crashes (calmly merged)

theorem responds_ok (resp : QueryResponse) : Outcome.Responds ext stmt (.ok resp) :=
  ⟨fun _ => nofun, nofun⟩

theorem responds_crash
    (merged : (extractPlan ext (.ok [stmt])).needsMerge = true)
    (crashes : MergeCrashes ext stmt) :
    Outcome.Responds ext stmt (.error .crash) :=
  ⟨fun _ => nofun, fun _ => ⟨merged, crashes⟩⟩

theorem responds_gather
    {results : List QueryResult}
    (rowless : rowsOf results = []) :
    Outcome.Responds ext stmt (Gateway.gather ext (.ok [stmt]) results) := by
  unfold Gateway.gather
  simp only
  split
  · rename_i merged
    split
    · rename_i message failed
      exact absurd failed (merge_of_no_rows ext _ rowless message)
    · rename_i crashed
      exact responds_crash merged (mergeCrashes_of_no_rows rowless crashed)
    · exact responds_ok _
  · exact responds_ok _

/-- A routing decision that names a tablet or scatters. -/
def RouteResult.Possible (result : RouteResult) : Prop :=
  result.tablets ≠ [] ∨ result.scatter = true

theorem RouteResult.Possible.not_nowhere
    {result : RouteResult}
    (possible : result.Possible) :
    ¬ (result.tablets = [] ∧ result.scatter = false) := by
  rintro ⟨empty, direct⟩
  rcases possible with some | scatter
  · exact some empty
  · cases direct.symm.trans scatter

section Plain

variable (plain : Parser.isTxControl stmt = false)
include plain

/-- A calm statement outside a transaction is answered. -/
theorem responds_executeAutocommit
    (w : World)
    (writable : ∀ addr, (w.tablets addr).tabletType = .primary)
    (possible : (w.router.route ext.exprString range (.ok [stmt]) false).1.Possible)
    (uncontrolled : (w.router.route ext.exprString range (.ok [stmt]) false).1.txControl = false) :
    Untroubled ext range caller (Gateway.executeAutocommit ext (.ok [stmt]))
      (fun outcome _ => outcome.Responds ext stmt) w := by
  have decision : (w.act ext caller (.route (.ok [stmt]) false) (calm range)).1 =
    (w.router.route ext.exprString range (.ok [stmt]) false).1 := rfl
  refine Prog.wp_perform_by (Prod.ext decision rfl) ?_
  rw [if_neg possible.not_nowhere, if_neg (by rw [uncontrolled]; exact nofun)]
  split
  · rename_i tc _
    obtain ⟨resp, _, answered, _, _⟩ := act_execute_calm ext range caller tc plain writable
      (Or.inl rfl : Executor.Ready _ TxID.zero)
    exact Prog.wp_perform_by (Prod.ext answered rfl) (Prog.wp_pure_alone (responds_ok resp))
  · obtain ⟨sent, sentText, sentPlain⟩ := shardText_single ext plain
    rw [sentText]
    refine Prog.wp_seq (calm_gatewayLoop sentPlain _ _ ?_) ?_
    · exact writable
    rintro gathered later ⟨results, rfl, rowless⟩
    exact Prog.wp_pure_alone (responds_gather rowless)

theorem responds_executeScatter
    (session : Int)
    (tablets : List TabletClient)
    (w : World)
    (peaceful : Calm session w) :
    Untroubled ext range caller (Coordinator.executeScatter ext session (.ok [stmt]) tablets)
      (fun outcome later => outcome.Responds ext stmt ∧ Calm session later) w := by
  obtain ⟨sent, sentText, sentPlain⟩ := shardText_single ext plain
  unfold Coordinator.executeScatter
  rw [sentText]
  apply Prog.wp_seq (calm_coordinatorLoop sentPlain session tablets w peaceful)
  rintro ⟨failed, results⟩ later ⟨unfailed, rowless, still⟩
  have unfailed : failed = none := unfailed
  subst unfailed
  simp only
  split
  · rename_i merged
    split
    · rename_i message failed
      exact absurd failed (merge_of_no_rows ext _ rowless message)
    · rename_i crashed
      exact Prog.wp_pure_alone
        ⟨responds_crash merged (mergeCrashes_of_no_rows rowless crashed), still⟩
    · exact Prog.wp_pure_alone ⟨responds_ok _, still⟩
  · exact Prog.wp_pure_alone ⟨responds_ok _, still⟩

theorem responds_executeSingle
    (session : Int)
    (tc : TabletClient)
    (w : World)
    (peaceful : Calm session w) :
    Untroubled ext range caller (Coordinator.executeSingle session (.ok [stmt]) tc)
      (fun outcome later => outcome.Responds ext stmt ∧ Calm session later) w := by
  obtain ⟨resp, _, answered, still⟩ := peaceful.execute ext range caller plain tc
  refine Prog.wp_perform_by rfl (Prog.wp_perform_by (Prod.ext answered rfl) ?_)
  exact Prog.wp_pure_alone ⟨responds_ok resp, still⟩

/-- So is one inside a transaction. -/
theorem responds_coordinatorExecute
    (w : World)
    (session : Int)
    (inside : (w.sessions session).state = .inTransaction)
    (peaceful : Calm session w)
    (possible : (w.router.route ext.exprString range (.ok [stmt]) true).1.Possible) :
    Untroubled ext range caller (Coordinator.execute ext session (.ok [stmt]))
      (fun outcome later => outcome.Responds ext stmt ∧ Calm session later) w := by
  have decision : (w.act ext caller (.route (.ok [stmt]) true) (calm range)).1 =
    (w.router.route ext.exprString range (.ok [stmt]) true).1 := rfl
  refine Prog.wp_perform_by rfl ?_
  rw [if_neg (not_ne_iff.mpr inside)]
  refine Prog.wp_perform_by (Prod.ext decision rfl) ?_
  rw [if_neg possible.not_nowhere]
  refine Prog.wp_seq (calm_beginOnAll session _ _ ?_) ?_
  · exact ⟨peaceful.writable, peaceful.active⟩
  rintro failed begun ⟨rfl, still⟩
  simp only
  split
  · rename_i tc _ _
    exact responds_executeSingle plain session tc begun still
  · exact responds_executeScatter plain session _ begun still

end Plain

/-- Where a request with this id can be served: the session is in a transaction, or none
is needed. -/
def Serviceable (transactionId : Int) (w : World) : Prop :=
  (∀ addr, (w.tablets addr).tabletType = .primary) ∧
    (transactionId ≠ 0 → Calm transactionId w ∧ w.present transactionId = true ∧
      (w.sessions transactionId).state = .inTransaction)

section Requests

variable
  (ext : Externals)
  (range : RangeOrder)
  (caller : Caller)
  (plain : Parser.isTxControl stmt = false)
include plain

/-- A request that the router sends somewhere can be answered. -/
theorem responds_run
    {w : World}
    {transactionId : Int}
    (serviceable : Serviceable transactionId w)
    (possible : (w.router.route ext.exprString range (.ok [stmt])
      (decide (transactionId ≠ 0))).1.Possible)
    (uncontrolled : (w.router.route ext.exprString range (.ok [stmt])
      (decide (transactionId ≠ 0))).1.txControl = false) :
    Outcome.Responds ext stmt
        ((Gateway.execute ext ⟨.ok [stmt], transactionId⟩).run (World.machine ext) caller
          (Strategy.constant (calm range)) w).1 ∧
      (transactionId ≠ 0 → Calm transactionId
        ((Gateway.execute ext ⟨.ok [stmt], transactionId⟩).run (World.machine ext) caller
          (Strategy.constant (calm range)) w).2) := by
  have answered : Untroubled ext range caller (Gateway.execute ext ⟨.ok [stmt], transactionId⟩)
    (fun outcome later => outcome.Responds ext stmt ∧
        (transactionId ≠ 0 → Calm transactionId later)) w := by
    rw [Gateway.execute_plain ext plain]
    by_cases autocommit : transactionId = 0
    · have mode : decide (transactionId ≠ 0) = false := by simp [autocommit]
      rw [mode] at possible uncontrolled
      rw [if_pos autocommit]
      apply Prog.wp_mono (responds_executeAutocommit plain w serviceable.1 possible uncontrolled)
      exact fun outcome later responds => ⟨responds, fun nonzero => absurd autocommit nonzero⟩
    · have mode : decide (transactionId ≠ 0) = true := by simp [autocommit]
      obtain ⟨peaceful, present, inside⟩ := serviceable.2 autocommit
      rw [mode] at possible
      rw [if_neg autocommit]
      refine Prog.wp_perform_by rfl ?_
      simp only [present, if_true]
      apply Prog.wp_mono (responds_coordinatorExecute plain w transactionId inside peaceful
        possible)
      exact fun outcome later responds => ⟨responds.1, fun _ => responds.2⟩
  exact Prog.run_constant_of_wp answered

theorem responds_execute
    (r : Router)
    (transactionId : Int)
    (possible : (r.route ext.exprString range (.ok [stmt])
      (decide (transactionId ≠ 0))).1.Possible)
    (uncontrolled :
      (r.route ext.exprString range (.ok [stmt]) (decide (transactionId ≠ 0))).1.txControl =
        false) :
    Outcome.Responds ext stmt
      ((Gateway.execute ext ⟨.ok [stmt], transactionId⟩).run (World.machine ext) caller
        (Strategy.constant (calm range)) (openWorld r)).1 :=
  (responds_run ext range caller plain
    ⟨fun _ => rfl, fun _ => ⟨openWorld_calm r transactionId, rfl, rfl⟩⟩ possible uncontrolled).1

end Requests

end Requests

end VScale
