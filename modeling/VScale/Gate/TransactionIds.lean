import VScale.Gate.Evolution
import VScale.Gate.ScatterCoverage

/-!
# Transaction ids in responses

The gate answers BEGIN with the id of a session, and COMMIT, ROLLBACK and merged
scatters with zero.  A statement for a single tablet is answered with the
tablet's own response, and the id in it is the local transaction in which the
text ended.
-/

namespace VScale

open Effects Tree

namespace Executor

/-- The number of the transaction in force after statements have succeeded, at a
tablet that has handed out numbers up to `last`. -/
def inForce : Nat → Nat → List Statement → Nat
  | _, number, [] => number
  | last, number, stmt :: stmts =>
      if Parser.isBegin stmt then inForce (last + 1) (last + 1) stmts
      else if Parser.isCommit stmt || Parser.isRollback stmt then inForce last 0 stmts
      else inForce last number stmts

variable {e : Executor} {txID after : TxID} {verdict : Verdict} {owner : Caller}

/-- Ending a transaction leaves the counter alone. -/
theorem afterTx_terminate
    {outcome : TxStatus}
    {value : Unit → β}
    {given : β}
    (done : (e.afterTx (e.tx.terminate verdict outcome txID) value).answer = .ok given) :
    given = value () ∧
      (e.afterTx (e.tx.terminate verdict outcome txID) value).state.tx.nextID = e.tx.nextID := by
  refine ⟨?_, TxManager.nextID_terminate e.tx verdict outcome txID⟩
  revert done
  simp only [afterTx, TxManager.terminate]
  cases e.tx.get txID with
  | none => rintro ⟨⟩
  | some tx =>
      cases verdict.failure with
      | some failure => rintro ⟨⟩
      | none =>
          intro done
          exact (Except.ok.inj done).symm

/-- One statement moves the number in force and the counter as `inForce` says. -/
theorem executeStatement_inForce
    {stmt : Statement}
    {result : Result}
    (done : (e.executeStatement owner verdict txID stmt).answer = .ok (result, after))
    (stmts : List Statement) :
    inForce (e.executeStatement owner verdict txID stmt).state.tx.nextID after.id stmts =
      inForce e.tx.nextID txID.id (stmt :: stmts) := by
  rw [inForce]
  unfold executeStatement at done ⊢
  by_cases begins : Parser.isBegin stmt = true
  · simp only [begins, if_true, afterTx, TxManager.begin] at done ⊢
    revert done
    cases verdict.failure with
    | some failure => rintro ⟨⟩
    | none =>
        intro done
        obtain ⟨_, rfl⟩ := Prod.mk.inj (Except.ok.inj done)
        rfl
  · simp only [begins, Bool.false_eq_true, if_false] at done ⊢
    by_cases commits : Parser.isCommit stmt = true
    · simp only [commits, if_true, Bool.true_or] at done ⊢
      obtain ⟨given, last⟩ := afterTx_terminate done
      obtain ⟨_, rfl⟩ := Prod.mk.inj given
      exact congrArg (fun last => inForce last 0 stmts) last
    · simp only [commits, Bool.false_eq_true, if_false, Bool.false_or] at done ⊢
      by_cases rolls : Parser.isRollback stmt = true
      · simp only [rolls, if_true] at done ⊢
        obtain ⟨given, last⟩ := afterTx_terminate done
        obtain ⟨_, rfl⟩ := Prod.mk.inj given
        exact congrArg (fun last => inForce last 0 stmts) last
      · simp only [rolls, Bool.false_eq_true, if_false] at done ⊢
        have plain := plainReply_executePlain verdict e txID stmt
        generalize e.executePlain verdict txID stmt = reply at plain done
        cases plain with
        | refused | failed => cases done
        | done result ready =>
            obtain ⟨_, rfl⟩ := Prod.mk.inj (Except.ok.inj done)
            rfl

/-- The id in force after the statements of a text. -/
theorem executeStatements_inForce
    {verdicts : Nat → Verdict}
    {stmts : List Statement}
    {results : List Result}
    (done : (executeStatements owner verdicts e txID stmts).answer = .ok (results, after)) :
    after.id = inForce e.tx.nextID txID.id stmts := by
  induction stmts generalizing verdicts e txID results with
  | nil =>
      obtain ⟨_, rfl⟩ := Prod.mk.inj (Except.ok.inj done)
      rfl
  | cons stmt stmts ih =>
      rw [executeStatements] at done
      simp only at done
      split at done
      · cases done
      · rename_i result between first
        rw [← executeStatement_inForce first stmts]
        cases rest : (executeStatements owner (fun index => verdicts (index + 1))
            (e.executeStatement owner (verdicts 0) txID stmt).state between stmts).answer with
        | error failure =>
            rw [rest] at done
            cases done
        | ok later =>
            rw [rest] at done
            obtain ⟨_, rfl⟩ := Prod.mk.inj (Except.ok.inj done)
            exact ih rest

end Executor

/-- The number in force after a text has succeeded at a tablet that has handed out
numbers up to `last` and starts it in transaction `number`. -/
def SqlText.inForce (sql : SqlText) (last number : Nat) : Nat :=
  Executor.inForce last number (sql.toOption.getD [])

variable {resp : QueryResponse} {sql : SqlText} {txID : TxID} {caller : Caller} {ext : Externals}
variable {tc : TabletClient} {message missing failed : String} {trace : Trace gate}
variable {req : QueryRequest} {rest : GateM Outcome} {result : RouteResult} {session : Int}

/-- A tablet answers with the transaction in force at the end of the text. -/
theorem TabletHandler.execute_inForce
    {owner : Caller}
    {verdicts : Nat → Verdict}
    {e : Executor}
    (done : (TabletHandler.execute owner verdicts sql txID e).answer = .ok resp) :
    resp.transactionId.id = sql.inForce e.tx.nextID txID.id := by
  simp only [TabletHandler.execute] at done
  cases sql with
  | error failure => cases done
  | ok stmts =>
      simp only [Executor.executeSQL] at done
      cases ran : (Executor.executeStatements owner verdicts e txID stmts).answer with
      | error failure =>
          rw [ran] at done
          cases done
      | ok given =>
          rw [ran] at done
          rw [← Except.ok.inj done]
          exact Executor.executeStatements_inForce ran

namespace World

variable {choice : Choice} {w later : World} {addr : String}

theorem act_execute_inForce
    (ext : Externals)
    (answered : (w.act ext caller (.execute tc sql txID) choice).1 = .ok resp) :
    resp.transactionId.id = sql.inForce (w.tablets tc.target).tx.nextID txID.id := by
  rw [act_execute] at answered
  exact TabletHandler.execute_inForce (answered_of_callTablet (Prod.ext answered rfl)).1

/-- A begin that is answered hands out the next number. -/
theorem act_begin_counts
    (ext : Externals)
    (stepped : w.act ext caller (.begin tc) choice = (.ok resp, later)) :
    resp.transactionId.id = (w.tablets tc.target).tx.nextID + 1 ∧
      (later.tablets tc.target).tx.nextID = (w.tablets tc.target).tx.nextID + 1 := by
  rw [act_begin] at stepped
  obtain ⟨answered, rfl⟩ := answered_of_callTablet stepped
  simp only [absorb, Function.update_self]
  have begun := TabletHandler.execute_begin caller choice.verdicts (w.tablets tc.target)
  generalize TabletHandler.execute caller choice.verdicts beginText TxID.zero
    (w.tablets tc.target) = reply at begun answered ⊢
  cases begun with
  | refused failure => cases answered
  | begun verdict granted =>
      rw [← Except.ok.inj answered]
      refine ⟨rfl, ?_⟩
      simp [TxManager.begin, granted]

/-- Two worlds agree on the sessions and on the counters of all tablets. -/
structure SameBooks (w later : World) : Prop where
  sessions : later.sessions = w.sessions
  counters : ∀ addr, (later.tablets addr).tx.nextID = (w.tablets addr).tx.nextID

theorem SameBooks.refl (w : World) : SameBooks w w :=
  ⟨rfl, fun _ => rfl⟩

theorem SameBooks.trans
    {final : World}
    (first : SameBooks w later)
    (second : SameBooks later final) : SameBooks w final :=
  ⟨second.sessions.trans first.sessions,
    fun addr => (second.counters addr).trans (first.counters addr)⟩

theorem SameBooks.act_route
    (ext : Externals)
    (caller : Caller)
    (sql : SqlText)
    (inTransaction : Bool)
    (choice : Choice)
    (w : World) :
    SameBooks w (w.act ext caller (.route sql inTransaction) choice).2 :=
  ⟨rfl, fun _ => rfl⟩

/-- The counter of a tablet and the number it starts a statement of a session in:
the recorded one, or the next one when none is recorded. -/
def joins (w : World) (session : Int) (addr : String) : Nat × Nat :=
  let last := (w.tablets addr).tx.nextID
  match (w.sessions session).shardTxIDs.lookup addr with
  | some id => (last, id.id)
  | none => (last + 1, last + 1)

/-- The number with which a tablet answers the text of a request. -/
def answeredNumber (w : World) (req : QueryRequest) (addr : String) : Nat :=
  if req.transactionId = 0 then req.sql.inForce (w.tablets addr).tx.nextID 0
  else req.sql.inForce (w.joins req.transactionId addr).1 (w.joins req.transactionId addr).2

theorem SameBooks.joins
    (same : SameBooks w later)
    (session : Int)
    (addr : String) : later.joins session addr = w.joins session addr := by
  unfold World.joins
  rw [same.sessions, same.counters]

end World

/-- The gate answers with the response of the single tablet it chose. -/
def RouteResult.Forwards (result : RouteResult) (inTransaction : Bool) : Prop :=
  (∃ tc, result.tablets = [tc]) ∧ (inTransaction = true → result.scatter = false)

/-- The number of no transaction, of the session the request names, or of the one
it has created. -/
def OwnNumber (req : QueryRequest) (trace : Trace gate) (number : Nat) : Prop :=
  number = 0 ∨ (number : Int) = req.transactionId ∨
    ∃ session : Int, ⟨.create, session⟩ ∈ trace ∧ (number : Int) = session

/-- A session takes part on a tablet, or joins it now. -/
inductive Joined
    (session : Int)
    (tc : TabletClient) : Trace gate → Prop
  | held : Joined session tc [⟨.isParticipating session tc.target, true⟩]
  | begun (resp : QueryResponse) :
      Joined session tc
        [⟨.isParticipating session tc.target, false⟩, ⟨.begin tc, .ok resp⟩,
          ⟨.setLocalTxID session tc.target resp.transactionId, ()⟩]

/-- The request ends with the response of a tablet to its own text. -/
inductive Forwarded (req : QueryRequest) : Trace gate → QueryResponse → Prop
  | outside {result : RouteResult} {tc : TabletClient} {resp : QueryResponse}
      (unnamed : req.transactionId = 0)
      (single : result.tablets = [tc]) :
      Forwarded req
        [⟨.route req.sql false, result⟩, ⟨.execute tc req.sql TxID.zero, .ok resp⟩] resp
  | inside {state : SessionState} {result : RouteResult} {tc : TabletClient} {begins : Trace gate}
      {held : Option TxID} {resp : QueryResponse}
      (named : req.transactionId ≠ 0)
      (single : result.tablets = [tc])
      (pointed : result.scatter = false)
      (joined : Joined req.transactionId tc begins) :
      Forwarded req
        (⟨.get req.transactionId, true⟩ :: ⟨.getState req.transactionId, state⟩ ::
          ⟨.route req.sql true, result⟩ :: (begins ++
            [⟨.getLocalTxID req.transactionId tc.target, held⟩,
              ⟨.execute tc req.sql (held.getD TxID.zero), .ok resp⟩])) resp

/-- The request ends with a response of the gate. -/
def Composed (req : QueryRequest) (trace : Trace gate) (resp : QueryResponse) : Prop :=
  OwnNumber req trace resp.transactionId.id ∧
    ∀ inTransaction result, ⟨.route req.sql inTransaction, result⟩ ∈ trace →
      ¬ RouteResult.Forwards result inTransaction

variable {value : α}

theorem Composed.cons
    {req : QueryRequest}
    {trace : Trace gate}
    {resp : QueryResponse}
    (composed : Composed req trace resp)
    {entry : Sigma GateOp.Answer}
    (direct : ¬ entry.1.Routes) :
    Composed req (entry :: trace) resp := by
  refine ⟨?_, ?_⟩
  · rcases composed.1 with zero | named | ⟨session, created, same⟩
    · exact .inl zero
    · exact .inr (.inl named)
    · exact .inr (.inr ⟨session, List.mem_cons_of_mem entry created, same⟩)
  · intro inTransaction result present
    rcases List.mem_cons.mp present with rfl | inside
    · exact absurd trivial direct
    · exact composed.2 inTransaction result inside

section Forwarded

variable {w : World}

/-- Once a session has joined a tablet, its id is recorded. -/
theorem Joined.recorded
    {begins later : Trace gate}
    (joined : Joined session tc begins)
    (happens : Prog.Happens (World.machine ext) caller World.SameBooks w (begins ++ later)) :
    ∃ (after : World) (id : TxID),
      (after.sessions session).shardTxIDs.lookup tc.target = some id ∧
        w.joins session tc.target = ((after.tablets tc.target).tx.nextID, id.id) ∧
        Prog.Happens (World.machine ext) caller World.SameBooks after later := by
  cases joined with
  | held =>
      obtain ⟨before, choice, reached, answered, continued⟩ := happens
      obtain ⟨id, found⟩ := Option.isSome_iff_exists.mp answered
      refine ⟨before, id, found, ?_, continued⟩
      rw [← reached.joins, World.joins, found]
  | begun resp =>
      obtain ⟨before, _, reached, answered, asked, _, between, begun, recorded⟩ := happens
      obtain ⟨_, _, kept, _, continued⟩ := recorded
      have unknown : (before.sessions session).shardTxIDs.lookup tc.target = none :=
        Option.isNone_iff_eq_none.mp (Option.isSome_eq_false_iff.mp answered)
      obtain ⟨number, counted⟩ := World.act_begin_counts ext (Prod.ext begun rfl)
      have same : (asked.tablets tc.target).tx.nextID = (before.tablets tc.target).tx.nextID :=
        between.counters tc.target
      refine ⟨_, resp.transactionId, ?_, ?_, continued⟩
      · exact (congrArg (fun s : Session => s.shardTxIDs.lookup tc.target)
          (Function.update_self ..)).trans (AList.lookup_insert _)
      · rw [← reached.joins, World.joins, unknown, number, ← same]
        exact congrArg (·, (asked.tablets tc.target).tx.nextID + 1)
          ((kept.counters tc.target).trans counted).symm

/-- A forwarded response carries the number of the tablet. -/
theorem Forwarded.answered
    (forwarded : Forwarded req trace resp)
    (happens : Prog.Happens (World.machine ext) caller World.SameBooks w trace) :
    ∃ inTransaction result tc,
      ⟨.route req.sql inTransaction, result⟩ ∈ trace ∧
        RouteResult.Forwards result inTransaction ∧
        result.tablets = [tc] ∧
        resp.transactionId.id = w.answeredNumber req tc.target := by
  cases forwarded with
  | @outside result tc resp unnamed single =>
      obtain ⟨before, choice, reached, _, found, _, kept, answered, _⟩ := happens
      refine ⟨false, result, tc, List.mem_cons_self, ⟨⟨tc, single⟩, nofun⟩, single, ?_⟩
      have number : resp.transactionId.id = req.sql.inForce (found.tablets tc.target).tx.nextID 0 :=
        World.act_execute_inForce ext answered
      have books : w.SameBooks found :=
        (reached.trans (.act_route ext caller req.sql false choice before)).trans kept
      rw [World.answeredNumber, if_pos unnamed, number, books.counters]
  | @inside state result tc begins held resp named single pointed joined =>
      obtain ⟨_, _, first, _, _, _, second, _, before, choice, third, _, continued⟩ := happens
      obtain ⟨after, id, recorded, standing, rest⟩ := joined.recorded continued
      obtain ⟨_, _, fourth, looked, found, _, fifth, answered, _⟩ := rest
      refine ⟨true, result, tc, by simp, ⟨⟨tc, single⟩, fun _ => pointed⟩, single, ?_⟩
      have known : held = some id := by
        rw [← recorded, ← fourth.sessions]
        exact looked.symm
      subst known
      have number : resp.transactionId.id =
          req.sql.inForce (found.tablets tc.target).tx.nextID id.id :=
        World.act_execute_inForce ext answered
      have books : w.SameBooks (before.act ext caller (.route req.sql true) choice).2 :=
        ((first.trans second).trans third).trans (.act_route ..)
      have starts : w.joins req.transactionId tc.target =
          ((after.tablets tc.target).tx.nextID, id.id) :=
        (books.joins req.transactionId tc.target).symm.trans standing
      rw [World.answeredNumber, if_neg named, starts, number, (fourth.trans fifth).counters]

/-- A forwarded request creates no session and is routed once. -/
theorem Forwarded.entries
    (forwarded : Forwarded req trace resp) :
    (∀ session, ⟨.create, session⟩ ∉ trace) ∧
      ∃ inTransaction result, ∀ later other, ⟨.route req.sql later, other⟩ ∈ trace →
        later = inTransaction ∧ other = result := by
  cases forwarded with
  | @outside result tc resp unnamed single => exact ⟨by simp, false, result, by simp⟩
  | @inside state result tc begins held resp named single pointed joined =>
      cases joined with
      | held | begun => exact ⟨by simp, true, result, by simp⟩

end Forwarded

end VScale
