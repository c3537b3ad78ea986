import VScale.Tablet.Handler

/-!
# What tablet requests do

One description for each request of the tablet service: the events it causes,
how it changes the transactions, and what its answer says about them.
-/

namespace VScale

open Tree

namespace TxManager

/-- Transactions keep their owner and, once ended, their outcome. -/
structure Later (before after : TxManager) : Prop where
  kept : ∀ id tx, before.txns id = some tx →
    ∃ tx', after.txns id = some tx' ∧ tx'.owner = tx.owner ∧
      (tx.status ≠ .active → tx' = tx)

theorem Later.refl (m : TxManager) : Later m m where
  kept := fun _ tx found => ⟨tx, found, rfl, fun _ => rfl⟩

theorem Later.trans
    {first second third : TxManager}
    (one : Later first second)
    (other : Later second third) : Later first third where
  kept := by
    intro id tx found
    obtain ⟨middle, middleFound, sameOwner, ended⟩ := one.kept id tx found
    obtain ⟨last, lastFound, lastOwner, lastEnded⟩ := other.kept id middle middleFound
    refine ⟨last, lastFound, lastOwner.trans sameOwner, ?_⟩
    intro past
    have sameMiddle := ended past
    rw [sameMiddle] at lastEnded
    exact lastEnded past

variable {id : TxID} {m : TxManager} {tx : LocalTx}

theorem get_eq_some_iff :
    m.get id = some tx ↔ m.txns (m.resolve id) = some tx ∧ tx.status = .active := by
  simp [get, Option.filter_eq_some_iff]

/-- Ending an open transaction keeps every other one. -/
theorem later_finish
    (active : m.get id = some tx)
    (outcome : TxStatus) :
    Later m (m.finish id outcome) where
  kept := by
    obtain ⟨found, status⟩ := get_eq_some_iff.mp active
    intro other held present
    by_cases same : other = m.resolve id
    · subst same
      rw [found] at present
      injection present with equal
      subst equal
      refine ⟨{ tx with status := outcome }, ?_, rfl, fun ended => absurd status ended⟩
      simp [finish, found]
    · refine ⟨held, ?_, rfl, fun _ => rfl⟩
      simp [finish, same, present]

/-- A BEGIN keeps the transactions there are. -/
theorem later_begin
    (m : TxManager)
    (owner : Caller)
    (verdict : Verdict) :
    Later m (m.begin owner verdict).state := by
  unfold begin
  cases verdict.failure with
  | some failure => exact Later.refl m
  | none =>
      refine ⟨fun id tx found => ⟨tx, ?_, rfl, fun _ => rfl⟩⟩
      have other : id ≠ ⟨m.nextID + 1, m.epoch⟩ := by
        rintro rfl
        have unused := m.unused ⟨m.nextID + 1, m.epoch⟩ 
          (Or.inr (Or.inr ⟨rfl, Nat.lt_succ_self _⟩))
        rw [unused] at found
        cases found
      simp [other, found]

section Terminate

variable (m : TxManager) (verdict : Verdict) (outcome : TxStatus) (id : TxID)

theorem later_terminate :
    Later m (m.terminate verdict outcome id).state := by
  unfold terminate
  cases active : m.get id with
  | none => exact Later.refl m
  | some tx => exact later_finish active outcome

theorem epoch_terminate :
    (m.terminate verdict outcome id).state.epoch = m.epoch := by
  unfold terminate
  cases m.get id with
  | none | some => rfl

theorem nextID_terminate :
    (m.terminate verdict outcome id).state.nextID = m.nextID := by
  unfold terminate
  cases m.get id with
  | none | some => rfl

end Terminate

/-- A restart loses no outcome. -/
theorem later_restart (m : TxManager) : Later m m.restart where
  kept := by
    intro id tx found
    by_cases active : tx.status = .active
    · refine ⟨{ tx with status := .rolledBack }, ?_, rfl, fun ended => absurd active ended⟩
      simp [restart, found, active]
    · refine ⟨tx, ?_, rfl, fun _ => rfl⟩
      simp [restart, found, active]

end TxManager

namespace Executor

/-- Where a statement with this id runs: in a transaction, or outside any. -/
def place (e : Executor) (txID : TxID) : Option TxID :=
  if txID.id = 0 then none else some (e.tx.resolve txID)

/-- The id is zero or denotes an active transaction. -/
def Ready (e : Executor) (txID : TxID) : Prop :=
  txID.id = 0 ∨ ∃ tx, e.tx.get txID = some tx

/-- How a statement may go: refused, failed in the database, or done. -/
inductive PlainReply
    (e : Executor)
    (txID : TxID)
    (stmt : Statement) :
    Reply Executor (Result × TxID) → Prop
  | refused (failure : String) :
      PlainReply e txID stmt ⟨.error failure, e, []⟩
  | failed (failure : String) (ready : e.Ready txID) :
      PlainReply e txID stmt ⟨.error failure, e, [.ran (e.place txID) stmt false]⟩
  | done (result : Result) (ready : e.Ready txID) :
      PlainReply e txID stmt ⟨.ok (result, txID), e, [.ran (e.place txID) stmt true]⟩

variable {e : Executor} {txID : TxID} {stmt : Statement} {stmts : List Statement}

theorem plainReply_run
    (inside : txID.id ≠ 0)
    (verdict : Verdict)
    (stmt : Statement)
    (result : Result) :
    PlainReply e txID stmt
      (e.afterTx (e.tx.run verdict stmt result txID) fun result => (result, txID)) := by
  unfold TxManager.run
  cases active : e.tx.get txID with
  | none => exact .refused TxManager.errNoSuchTransaction
  | some tx =>
      have placed : e.place txID = some (e.tx.resolve txID) := if_neg inside
      have ready : e.Ready txID := Or.inr ⟨tx, active⟩
      cases verdict.failure with
      | some failure =>
          change PlainReply e txID stmt
            ⟨.error failure, e, [.ran (some (e.tx.resolve txID)) stmt false]⟩
          rw [← placed]
          exact .failed failure ready
      | none =>
          change PlainReply e txID stmt
            ⟨.ok (result, txID), e, [.ran (some (e.tx.resolve txID)) stmt true]⟩
          rw [← placed]
          exact .done result ready

theorem plainReply_runOutside
    (outside : txID.id = 0)
    (verdict : Verdict)
    (stmt : Statement)
    (result : Result) :
    let reply := e.runOutside verdict stmt result
    PlainReply e txID stmt
      ⟨reply.answer.map fun result => (result, txID), reply.state, reply.events⟩ := by
  have placed : e.place txID = none := if_pos outside
  unfold runOutside
  cases verdict.failure with
  | some failure =>
      change PlainReply e txID stmt ⟨.error failure, e, [.ran none stmt false]⟩
      rw [← placed]
      exact .failed failure (Or.inl outside)
  | none =>
      change PlainReply e txID stmt ⟨.ok (result, txID), e, [.ran none stmt true]⟩
      rw [← placed]
      exact .done result (Or.inl outside)

/-- A plain statement leaves the tablet as it is. -/
theorem plainReply_executePlain
    (verdict : Verdict)
    (e : Executor)
    (txID : TxID)
    (stmt : Statement) :
    PlainReply e txID stmt (e.executePlain verdict txID stmt) := by
  unfold executePlain
  split
  · exact .refused errReadOnly
  · split
    · rename_i inside
      split
      · exact plainReply_run inside verdict stmt _
      · exact plainReply_run inside verdict stmt _
    · rename_i inside
      have outside : txID.id = 0 := not_ne_iff.mp inside
      split
      · exact plainReply_runOutside outside verdict stmt _
      · exact plainReply_runOutside outside verdict stmt _

theorem executeStatement_plain
    (owner : Caller)
    (verdict : Verdict)
    (e : Executor)
    (txID : TxID)
    (plain : Parser.isTxControl stmt = false) :
    e.executeStatement owner verdict txID stmt = e.executePlain verdict txID stmt := by
  simp only [Parser.isTxControl, Bool.or_eq_false_iff] at plain
  simp [executeStatement, plain]

/-- How a list of statements may go: all are done, or one of them stops the rest. -/
inductive PlainReplies
    (e : Executor)
    (txID : TxID)
    (stmts : List Statement)
    (respond : List Result → α) : Reply Executor α → Prop
  | done (results : List Result) (ready : stmts ≠ [] → e.Ready txID)
      (counted : results.length = stmts.length) :
      PlainReplies e txID stmts respond
        ⟨.ok (respond results), e, stmts.map fun stmt => .ran (e.place txID) stmt true⟩
  | stopped (failure : String) (finished : List Statement) (stmt : Statement)
      (tail : List Statement) (events : List TabletEvent)
      (split : stmts = finished ++ stmt :: tail)
      (ready : finished ≠ [] ∨ events ≠ [] → e.Ready txID)
      (last : events = [] ∨ events = [.ran (e.place txID) stmt false]) :
      PlainReplies e txID stmts respond
        ⟨.error failure, e,
          (finished.map fun stmt => .ran (e.place txID) stmt true) ++ events⟩

theorem PlainReplies.state_eq
    {respond : List Result → α}
    {reply : Reply Executor α}
    (replies : PlainReplies e txID stmts respond reply) :
    reply.state = e := by
  cases replies with
  | done | stopped => rfl

/-- A batch of plain statements stops at the first failure. -/
theorem executeStatements_plain
    (owner : Caller)
    (verdicts : Nat → Verdict)
    (e : Executor)
    (txID : TxID)
    (plain : ∀ stmt ∈ stmts, Parser.isTxControl stmt = false) :
    PlainReplies e txID stmts (fun results => (results, txID))
      (executeStatements owner verdicts e txID stmts) := by
  induction stmts generalizing verdicts with
  | nil => exact .done [] (fun nonempty => absurd rfl nonempty) rfl
  | cons stmt stmts ih =>
      have first := plainReply_executePlain (verdicts 0) e txID stmt
      rw [← executeStatement_plain owner (verdicts 0) e txID (plain stmt List.mem_cons_self)]
        at first
      have rest := ih (fun index => verdicts (index + 1))
        (fun other present => plain other (List.mem_cons_of_mem stmt present))
      rw [executeStatements]
      generalize e.executeStatement owner (verdicts 0) txID stmt = reply at first
      cases first with
      | refused failure =>
          exact .stopped failure [] stmt stmts [] rfl
            (fun some => some.elim (absurd rfl) (absurd rfl)) (Or.inl rfl)
      | failed failure ready =>
          exact .stopped failure [] stmt stmts _ rfl (fun _ => ready) (Or.inr rfl)
      | done result ready =>
          simp only
          generalize executeStatements owner (fun index => verdicts (index + 1)) e txID stmts =
            later at rest
          cases rest with
          | done results _ counted =>
              exact .done (result :: results) (fun _ => ready)
                (by rw [List.length_cons, List.length_cons, counted])
          | stopped failure finished culprit tail events split _ last =>
              exact .stopped failure (stmt :: finished) culprit tail events (by rw [split]; rfl)
                (fun _ => ready) last

end Executor

namespace TabletHandler

theorem execute_plain
    (owner : Caller)
    (verdicts : Nat → Verdict)
    (txID : TxID)
    (e : Executor)
    {stmts : List Statement}
    (plain : ∀ stmt ∈ stmts, Parser.isTxControl stmt = false) :
    e.PlainReplies txID stmts
      (fun results => { results := results.map renderResult, transactionId := txID })
      (execute owner verdicts (.ok stmts) txID e) := by
  have ran := Executor.executeStatements_plain owner verdicts e txID plain
  simp only [execute, Executor.executeSQL]
  generalize Executor.executeStatements owner verdicts e txID stmts = reply at ran
  cases ran with
  | done results ready counted => exact .done results ready counted
  | stopped failure finished stmt tail events split ready last =>
      exact .stopped failure finished stmt tail events split ready last

/-- How a begin may go. -/
inductive BeginReply
    (owner : Caller)
    (e : Executor) : Reply Executor QueryResponse → Prop
  | refused (failure : String) : BeginReply owner e ⟨.error failure, e, []⟩
  | begun (verdict : Verdict) (granted : verdict.failure = none) :
      BeginReply owner e
        ⟨.ok { results := [{ sql := "BEGIN" }], transactionId := ⟨e.tx.nextID + 1, e.tx.epoch⟩ },
          { e with tx := (e.tx.begin owner verdict).state },
          [.opened ⟨e.tx.nextID + 1, e.tx.epoch⟩]⟩

/-- The tablet answers a BEGIN with the id of a new transaction. -/
theorem execute_begin
    (owner : Caller)
    (verdicts : Nat → Verdict)
    (e : Executor) :
    BeginReply owner e (execute owner verdicts beginText TxID.zero e) := by
  have dispatched : e.executeStatement owner (verdicts 0) TxID.zero
      ⟨.beginTransaction, "BEGIN"⟩ =
        e.afterTx (e.tx.begin owner (verdicts 0)) fun id => ({ sql := "BEGIN" }, id) := rfl
  simp only [execute, Executor.executeSQL, beginText, Executor.executeStatements, dispatched]
  cases granted : (verdicts 0).failure with
  | some failure =>
      simp only [Executor.afterTx, TxManager.begin, granted]
      exact .refused failure
  | none =>
      have reply : BeginReply owner e _ := .begun (verdicts 0) granted
      simp only [TxManager.begin, granted] at reply
      simp only [Executor.afterTx, TxManager.begin, granted]
      exact reply

/-- A begin that is answered has begun the transaction it names. -/
theorem BeginReply.found
    {owner : Caller}
    {e : Executor}
    {reply : Reply Executor QueryResponse}
    (begun : BeginReply owner e reply)
    {resp : QueryResponse}
    (answered : reply.answer = .ok resp) :
    reply.state.tx.txns resp.transactionId = some ⟨owner, .active⟩ ∧
      resp.transactionId.id ≠ 0 ∧ resp.transactionId.epoch = e.tx.epoch := by
  cases begun with
  | refused failure => cases answered
  | begun verdict granted =>
      injection answered with same
      rw [← same]
      refine ⟨?_, Nat.succ_ne_zero _, rfl⟩
      simp [TxManager.begin, granted]

/-- How ending a transaction may go; `accept` builds the response from the
failure. -/
inductive EndReply
    (e : Executor)
    (id : TxID)
    (verdict : Verdict)
    (outcome : TxStatus)
    (accept : Option String → β) : Reply Executor β → Prop
  | ignored (zero : id.id = 0) : EndReply e id verdict outcome accept ⟨.ok (accept none), e, []⟩
  | unknown (nonzero : id.id ≠ 0) (missing : e.tx.get id = none) :
      EndReply e id verdict outcome accept
        ⟨.ok (accept (some TxManager.errNoSuchTransaction)), e, []⟩
  | ended (nonzero : id.id ≠ 0) (tx : LocalTx) (active : e.tx.get id = some tx) :
      EndReply e id verdict outcome accept
        ⟨.ok (accept verdict.failure), { e with tx := e.tx.finish id outcome },
          [.ended (e.tx.resolve id) outcome]⟩

theorem endReply_phase
    (accept : Option String → β)
    (verdict : Verdict)
    (outcome : TxStatus)
    (id : TxID)
    (e : Executor) :
    EndReply e id verdict outcome accept
      (phase accept id e (e.tx.terminate verdict outcome id)) := by
  unfold phase
  split
  · rename_i zero
    exact .ignored zero
  · rename_i nonzero
    unfold TxManager.terminate
    cases active : e.tx.get id with
    | none => exact .unknown nonzero active
    | some tx =>
        have reply : EndReply e id verdict outcome accept _ := .ended nonzero tx active
        cases failed : verdict.failure with
        | none | some =>
            rw [failed] at reply
            exact reply

/-- What the tablet answers to a COMMIT. -/
theorem commit_reply
    (verdicts : Nat → Verdict)
    (id : TxID)
    (e : Executor) :
    EndReply e id (verdicts 0) (TxManager.commitOutcome (verdicts 0))
      (fun failure => { committed := failure.isNone, error := failure.getD "" })
      (commit verdicts id e) :=
  endReply_phase _ _ _ id e

/-- What the tablet answers to a ROLLBACK. -/
theorem rollback_reply
    (verdicts : Nat → Verdict)
    (id : TxID)
    (e : Executor) :
    EndReply e id (verdicts 0) .rolledBack
      (fun failure => { rolledBack := failure.isNone, error := failure.getD "" })
      (rollback verdicts id e) :=
  endReply_phase _ _ _ id e

/-- How a prepare may go. -/
inductive PrepareReply
    (e : Executor)
    (id : TxID) : Reply Executor PrepareResponse → Prop
  | ignored (zero : id.id = 0) : PrepareReply e id ⟨.ok { prepared := true }, e, []⟩
  | unknown (nonzero : id.id ≠ 0) (missing : e.tx.get id = none) :
      PrepareReply e id
        ⟨.ok { prepared := false, error := TxManager.errNoSuchTransaction }, e, []⟩
  | probed (nonzero : id.id ≠ 0) (tx : LocalTx) (active : e.tx.get id = some tx)
      (response : PrepareResponse) :
      PrepareReply e id
        ⟨.ok response, e, [.ran (some (e.tx.resolve id)) selectOne response.prepared]⟩

/-- What the tablet answers to a prepare. -/
theorem prepare_reply
    (verdicts : Nat → Verdict)
    (id : TxID)
    (e : Executor) :
    PrepareReply e id (prepare verdicts id e) := by
  unfold prepare phase
  split
  · rename_i zero
    exact .ignored zero
  · rename_i nonzero
    unfold TxManager.query TxManager.run
    cases active : e.tx.get id with
    | none => exact .unknown nonzero active
    | some tx =>
        cases (verdicts 0).failure with
        | none => exact .probed nonzero tx active { prepared := true }
        | some failure => exact .probed nonzero tx active { prepared := false, error := failure }

end TabletHandler

end VScale
