import VScale.Tablet.Confinement

/-!
# Transactions a request leaves open

A request to a tablet threads the transaction in force through its statements
and tells the caller the last one.  A transaction it has begun is lost to the
caller when another BEGIN follows or a later statement fails.
-/

namespace VScale

open Tree

namespace Executor

/-- Whether the transaction in force has been begun by the request. -/
def ownAfter (own : Bool) (stmt : Statement) : Bool :=
  if Parser.isBegin stmt then true
  else if Parser.isCommit stmt || Parser.isRollback stmt then false
  else own

/-- A statement does not lose the transaction it is executed in. -/
def keeps (readOnly : Bool) (verdict : Verdict) (stmt : Statement) : Bool :=
  !Parser.isBegin stmt &&
    (Parser.isCommit stmt || Parser.isRollback stmt ||
      !(readOnly && Parser.isWrite stmt) && verdict.failure.isNone)

/-- How a statement may go: it begins a transaction, ends the one in force, or
runs in it. -/
inductive StatementReply
    (owner : Caller)
    (verdict : Verdict)
    (e : Executor)
    (txID : TxID)
    (stmt : Statement) : Reply Executor (Result × TxID) → Prop
  | begun (begins : Parser.isBegin stmt = true) (granted : verdict.failure = none)
      (result : Result) (events : List TabletEvent) :
      StatementReply owner verdict e txID stmt
        ⟨.ok (result, ⟨e.tx.nextID + 1, e.tx.epoch⟩),
          { e with tx := (e.tx.begin owner verdict).state }, events⟩
  | refused (begins : Parser.isBegin stmt = true) (failure : String) :
      StatementReply owner verdict e txID stmt ⟨.error failure, e, []⟩
  | ended (begins : Parser.isBegin stmt = false)
      (ends : (Parser.isCommit stmt || Parser.isRollback stmt) = true)
      (outcome : TxStatus) (ended : outcome ≠ .active) (tx : LocalTx)
      (active : e.tx.get txID = some tx)
      (answer : Except String (Result × TxID))
      (zero : ∀ result after, answer = .ok (result, after) → after = TxID.zero)
      (events : List TabletEvent) :
      StatementReply owner verdict e txID stmt
        ⟨answer, { e with tx := e.tx.finish txID outcome }, events⟩
  | unknown (begins : Parser.isBegin stmt = false)
      (ends : (Parser.isCommit stmt || Parser.isRollback stmt) = true)
      (missing : e.tx.get txID = none) (failure : String) :
      StatementReply owner verdict e txID stmt ⟨.error failure, e, []⟩
  | ran (begins : Parser.isBegin stmt = false)
      (stays : (Parser.isCommit stmt || Parser.isRollback stmt) = false)
      (answer : Except String (Result × TxID)) (events : List TabletEvent)
      (same : ∀ result after, answer = .ok (result, after) → after = txID)
      (inside : ∀ tx, e.tx.get txID = some tx →
        answer.isOk = keeps e.isReadOnlyTablet verdict stmt) :
      StatementReply owner verdict e txID stmt ⟨answer, e, events⟩

variable {owner : Caller} {verdict : Verdict} {e : Executor} {txID : TxID} {stmt : Statement}

theorem statementReply_begin (begins : Parser.isBegin stmt = true) :
    StatementReply owner verdict e txID stmt
      (e.afterTx (e.tx.begin owner verdict) fun id => ({ sql := stmt.sql }, id)) := by
  cases granted : verdict.failure with
  | some failure =>
      simp only [afterTx, TxManager.begin, granted]
      exact .refused begins failure
  | none =>
      have reply : StatementReply owner verdict e txID stmt _ :=
        .begun begins granted { sql := stmt.sql } [.opened ⟨e.tx.nextID + 1, e.tx.epoch⟩]
      simp only [TxManager.begin, granted] at reply
      simp only [afterTx, TxManager.begin, granted]
      exact reply

variable {outcome : TxStatus} {tx : LocalTx} {reply : Reply Executor (Result × TxID)}

theorem statementReply_terminate
    (begins : Parser.isBegin stmt = false)
    (ends : (Parser.isCommit stmt || Parser.isRollback stmt) = true)
    (ended : outcome ≠ .active) :
    StatementReply owner verdict e txID stmt
      (e.afterTx (e.tx.terminate verdict outcome txID)
        fun _ => ({ sql := stmt.sql }, TxID.zero)) := by
  unfold TxManager.terminate
  cases active : e.tx.get txID with
  | none => exact .unknown begins ends active TxManager.errNoSuchTransaction
  | some tx =>
      refine .ended begins ends outcome ended tx active _ ?_ _
      intro result after answered
      cases failed : verdict.failure with
      | some failure =>
          rw [failed] at answered
          cases answered
      | none =>
          rw [failed] at answered
          exact (congrArg Prod.snd (Except.ok.inj answered)).symm

theorem commitOutcome_ne_active (verdict : Verdict) :
    TxManager.commitOutcome verdict ≠ .active := by
  unfold TxManager.commitOutcome
  split
  · rintro ⟨⟩
  · rintro ⟨⟩

/-- Inside an active transaction a statement succeeds unless the tablet refuses
it or the database fails it. -/
theorem isOk_executePlain
    (begins : Parser.isBegin stmt = false)
    (stays : (Parser.isCommit stmt || Parser.isRollback stmt) = false)
    (active : e.tx.get txID = some tx) :
    (e.executePlain verdict txID stmt).answer.isOk = keeps e.isReadOnlyTablet verdict stmt := by
  have inside : (e.tx.resolve txID).id ≠ 0 :=
    TxManager.number_ne_zero (TxManager.get_eq_some_iff.mp active).1
  have inside : txID.id ≠ 0 := inside
  have runs : ∀ result, (e.afterTx (e.tx.run verdict stmt result txID)
      fun result => (result, txID)).answer.isOk = verdict.failure.isNone := by
    intro result
    unfold TxManager.run
    rw [active]
    cases verdict.failure with
    | some | none => rfl
  unfold executePlain keeps
  rw [begins, stays]
  cases e.isReadOnlyTablet && Parser.isWrite stmt with
  | true => rfl
  | false =>
      simp only [Bool.false_eq_true, if_false, if_pos inside]
      split
      · exact runs _
      · exact runs _

theorem statementReply
    (owner : Caller)
    (verdict : Verdict)
    (e : Executor)
    (txID : TxID)
    (stmt : Statement) :
    StatementReply owner verdict e txID stmt (e.executeStatement owner verdict txID stmt) := by
  unfold executeStatement
  cases begins : Parser.isBegin stmt with
  | true => exact statementReply_begin begins
  | false =>
      cases commits : Parser.isCommit stmt with
      | true =>
          exact statementReply_terminate begins (by rw [commits]; rfl)
            (commitOutcome_ne_active verdict)
      | false =>
          cases rolls : Parser.isRollback stmt with
          | true => exact statementReply_terminate begins (by rw [commits, rolls]; rfl) nofun
          | false =>
              have stays : (Parser.isCommit stmt || Parser.isRollback stmt) = false := by
                rw [commits, rolls]
                rfl
              have goes : ∀ tx, e.tx.get txID = some tx →
                  (e.executePlain verdict txID stmt).answer.isOk =
                    keeps e.isReadOnlyTablet verdict stmt :=
                fun tx active => isOk_executePlain begins stays active
              have plain := plainReply_executePlain verdict e txID stmt
              simp only [Bool.false_eq_true, if_false]
              generalize e.executePlain verdict txID stmt = reply at plain goes
              cases plain with
              | refused | failed => exact .ran begins stays _ _ nofun goes
              | done result ready =>
                  refine .ran begins stays _ _ ?_ goes
                  intro given after answered
                  exact (congrArg Prod.snd (Except.ok.inj answered)).symm

/-- Every transaction that is open after a reply and was not before is the one
named in the answer. -/
def NamesOpened (first : Executor) (reply : Reply Executor (α × TxID)) : Prop :=
  ∀ id tx, first.tx.txns id = none → reply.state.tx.txns id = some tx → tx.status = .active →
    ∃ value, reply.answer = .ok (value, id)

/-- No statement loses a transaction that the statements before it have begun. -/
def KeepsOwn
    (owner : Caller)
    (verdicts : Nat → Verdict)
    (e : Executor)
    (txID : TxID)
    (own : Bool)
    (stmts : List Statement) : Prop :=
  ∀ before stmt rest, stmts = before ++ stmt :: rest →
    before.foldl ownAfter own = true →
    (executeStatements owner verdicts e txID before).answer.isOk = true →
    keeps e.isReadOnlyTablet (verdicts before.length) stmt = true

/-- Of the transactions that were not there at first, only the one in force is
open, and only when it is the request's own. -/
structure Holds (first e : Executor) (own : Bool) (txID : TxID) : Prop where
  later : TxManager.Later first.tx e.tx
  only : ∀ id tx, first.tx.txns id = none → e.tx.txns id = some tx → tx.status = .active →
    own = true ∧ id = txID
  held : own = true → first.tx.txns txID = none ∧ e.tx.resolve txID = txID ∧
    ∃ tx, e.tx.get txID = some tx

variable {first : Executor} {own : Bool}

theorem holds_refl (e : Executor) (txID : TxID) : Holds e e false txID where
  later := TxManager.Later.refl e.tx
  only := by
    intro id tx absent present
    rw [absent] at present
    cases present
  held := nofun

theorem Holds.begun
    (holds : Holds first e false txID)
    (owner : Caller)
    (granted : verdict.failure = none) :
    Holds first { e with tx := (e.tx.begin owner verdict).state } true
      ⟨e.tx.nextID + 1, e.tx.epoch⟩ := by
  have state : (e.tx.begin owner verdict).state.txns =
      Function.update e.tx.txns ⟨e.tx.nextID + 1, e.tx.epoch⟩ (some ⟨owner, .active⟩) := by
    simp only [TxManager.begin, granted]
  have epoch : (e.tx.begin owner verdict).state.epoch = e.tx.epoch := by
    simp only [TxManager.begin, granted]
  constructor
  · exact holds.later.trans (TxManager.later_begin e.tx owner verdict)
  · intro id tx absent present active
    by_cases same : id = ⟨e.tx.nextID + 1, e.tx.epoch⟩
    · exact ⟨rfl, same⟩
    · simp only [state, Function.update_of_ne same] at present
      cases (holds.only id tx absent present active).1
  · intro _
    refine ⟨?_, ?_, ⟨owner, .active⟩, ?_⟩
    · cases known : first.tx.txns ⟨e.tx.nextID + 1, e.tx.epoch⟩ with
      | none => rfl
      | some tx =>
          obtain ⟨tx', there, _⟩ := holds.later.kept _ tx known
          rw [e.tx.unused _ (Or.inr (Or.inr ⟨rfl, Nat.lt_succ_self _⟩))] at there
          cases there
    · simp only [TxManager.resolve, epoch]
    · refine TxManager.get_eq_some_iff.mpr ⟨?_, rfl⟩
      simp only [TxManager.resolve, epoch, state, Function.update_self]

theorem Holds.ended
    (holds : Holds first e own txID)
    (active : e.tx.get txID = some tx)
    (ended : outcome ≠ .active) :
    Holds first { e with tx := e.tx.finish txID outcome } false TxID.zero := by
  constructor
  · exact holds.later.trans (TxManager.later_finish active outcome)
  · intro id other absent present running
    by_cases same : id = e.tx.resolve txID
    · simp only [TxManager.finish, same, Function.update_self,
        (TxManager.get_eq_some_iff.mp active).1] at present
      rw [← Option.some.inj present] at running
      exact absurd running ended
    · simp only [TxManager.finish, Function.update_of_ne same] at present
      obtain ⟨mine, rfl⟩ := holds.only id other absent present running
      exact absurd (holds.held mine).2.1.symm same
  · rintro ⟨⟩

section Replied

variable (replied : StatementReply owner verdict e txID stmt reply)
include replied

/-- The tablet keeps its type. -/
theorem StatementReply.isReadOnlyTablet :
    reply.state.isReadOnlyTablet = e.isReadOnlyTablet := by
  cases replied with
  | begun | refused | ended | unknown | ran => rfl

/-- The process keeps running. -/
theorem StatementReply.epoch :
    reply.state.tx.epoch = e.tx.epoch := by
  cases replied with
  | begun begins granted result events => simp only [TxManager.begin, granted]
  | refused | ended | unknown | ran => rfl

/-- A statement that succeeds without losing an own transaction. -/
theorem StatementReply.holds
    (holds : Holds first e own txID)
    (kept : own = true → Parser.isBegin stmt = false)
    {result : Result}
    {after : TxID}
    (answered : reply.answer = .ok (result, after)) :
    Holds first reply.state (ownAfter own stmt) after := by
  unfold ownAfter
  cases replied with
  | begun begins granted given events =>
      obtain ⟨_, rfl⟩ := Prod.mk.inj (Except.ok.inj answered)
      cases own with
      | true => exact absurd (kept rfl) (by rw [begins]; exact nofun)
      | false =>
          rw [if_pos begins]
          exact holds.begun owner granted
  | refused | unknown => cases answered
  | ended begins ends outcome ended tx active answer zero events =>
      obtain rfl := zero result after answered
      rw [begins, if_neg Bool.false_ne_true, if_pos ends]
      exact holds.ended active ended
  | ran begins stays answer events same inside =>
      obtain rfl := same result after answered
      rw [begins, stays, if_neg Bool.false_ne_true, if_neg Bool.false_ne_true]
      exact holds

/-- A statement that fails leaves an own transaction open unless it keeps it. -/
theorem StatementReply.names_failed
    (holds : Holds first e own txID)
    {failure : String}
    (failed : reply.answer = .error failure) :
    (∀ id tx, first.tx.txns id = none → reply.state.tx.txns id = some tx →
        tx.status ≠ .active) ↔
      (own = true → keeps e.isReadOnlyTablet verdict stmt = true) := by
  have unchanged : ∀ keptness : Bool, (own = true → keptness = false) →
      ((∀ id tx, first.tx.txns id = none → e.tx.txns id = some tx → tx.status ≠ .active) ↔
        (own = true → keptness = true)) := by
    intro keptness lost
    cases own with
    | false =>
        refine iff_of_true (fun id tx absent present active => ?_) nofun
        cases (holds.only id tx absent present active).1
    | true =>
        obtain ⟨absent, resolved, tx, active⟩ := holds.held rfl
        obtain ⟨present, status⟩ := TxManager.get_eq_some_iff.mp active
        rw [resolved] at present
        refine iff_of_false (fun none => none txID tx absent present status) ?_
        rw [lost rfl]
        exact fun impossible => nomatch impossible rfl
  cases replied with
  | begun begins granted given events => cases failed
  | refused begins text =>
      refine unchanged _ fun _ => ?_
      rw [keeps, begins]
      rfl
  | ended begins ends outcome ended tx active answer zero events =>
      refine iff_of_true (fun id other absent present running => ?_) fun _ => ?_
      · cases ((holds.ended active ended).only id other absent present running).1
      · rw [keeps, begins, ends]
        rfl
  | unknown begins ends missing text =>
      refine unchanged _ fun mine => ?_
      obtain ⟨_, _, tx, active⟩ := holds.held mine
      rw [missing] at active
      cases active
  | ran begins stays answer events same inside =>
      refine unchanged _ fun mine => ?_
      obtain ⟨_, _, tx, active⟩ := holds.held mine
      rw [← inside tx active, show answer = .error failure from failed]
      rfl

/-- A statement that succeeds in an own transaction keeps it unless it is a BEGIN. -/
theorem StatementReply.keeps_answered
    (holds : Holds first e true txID)
    {given : Result × TxID}
    (answered : reply.answer = .ok given)
    (going : Parser.isBegin stmt = false) :
    keeps e.isReadOnlyTablet verdict stmt = true := by
  cases replied with
  | begun begins granted result events =>
      rw [going] at begins
      cases begins
  | refused | unknown => cases answered
  | ended begins ends outcome ended tx active answer zero events =>
      rw [keeps, begins, ends]
      rfl
  | ran begins stays answer events same inside =>
      obtain ⟨_, _, tx, active⟩ := holds.held rfl
      rw [← inside tx active, show answer = .ok given from answered]
      rfl

end Replied

section Statements

variable {verdicts : Nat → Verdict} {stmts : List Statement}

/-- The statements that follow one that has succeeded. -/
abbrev executeRest
    (owner : Caller)
    (verdicts : Nat → Verdict)
    (e : Executor)
    (txID : TxID)
    (stmt : Statement)
    (after : TxID)
    (stmts : List Statement) :
    Reply Executor (List Result × TxID) :=
  executeStatements owner (fun index => verdicts (index + 1))
    (e.executeStatement owner (verdicts 0) txID stmt).state after stmts

theorem executeStatements_error
    {failure : String}
    (failed : (e.executeStatement owner (verdicts 0) txID stmt).answer = .error failure) :
    executeStatements owner verdicts e txID (stmt :: stmts) =
      ⟨.error failure, (e.executeStatement owner (verdicts 0) txID stmt).state,
        (e.executeStatement owner (verdicts 0) txID stmt).events⟩ := by
  rw [executeStatements]
  simp only [failed]

variable {after : TxID} {result : Result}

theorem executeStatements_ok
    (answered : (e.executeStatement owner (verdicts 0) txID stmt).answer = .ok (result, after)) :
    executeStatements owner verdicts e txID (stmt :: stmts) =
      ⟨(executeRest owner verdicts e txID stmt after stmts).answer.map
          fun later => (result :: later.1, later.2),
        (executeRest owner verdicts e txID stmt after stmts).state,
        (e.executeStatement owner (verdicts 0) txID stmt).events ++
          (executeRest owner verdicts e txID stmt after stmts).events⟩ := by
  rw [executeStatements]
  simp only [answered]

theorem epoch_executeStatements
    (owner : Caller)
    (verdicts : Nat → Verdict)
    (e : Executor)
    (txID : TxID)
    (stmts : List Statement) :
    (executeStatements owner verdicts e txID stmts).state.tx.epoch = e.tx.epoch := by
  induction stmts generalizing verdicts e txID with
  | nil => rfl
  | cons stmt stmts ih =>
      have first := (statementReply owner (verdicts 0) e txID stmt).epoch
      cases answered : (e.executeStatement owner (verdicts 0) txID stmt).answer with
      | error failure =>
          rw [executeStatements_error answered]
          exact first
      | ok given =>
          rw [executeStatements_ok answered]
          exact (ih _ _ _).trans first

theorem namesOpened_ok
    (answered : (e.executeStatement owner (verdicts 0) txID stmt).answer = .ok (result, after)) :
    NamesOpened first (executeStatements owner verdicts e txID (stmt :: stmts)) ↔
      NamesOpened first (executeRest owner verdicts e txID stmt after stmts) := by
  rw [executeStatements_ok answered]
  generalize executeRest owner verdicts e txID stmt after stmts = rest
  obtain ⟨answer, state, events⟩ := rest
  refine forall_congr' fun id => forall_congr' fun tx => ?_
  refine imp_congr_right fun _ => imp_congr_right fun _ => imp_congr_right fun _ => ?_
  cases answer with
  | error failure =>
      refine iff_of_false ?_ ?_
      · rintro ⟨value, impossible⟩
        cases impossible
      · rintro ⟨value, impossible⟩
        cases impossible
  | ok later =>
      obtain ⟨results, left⟩ := later
      constructor
      · rintro ⟨value, same⟩
        obtain ⟨_, rfl⟩ := Prod.mk.inj (Except.ok.inj same)
        exact ⟨results, rfl⟩
      · rintro ⟨value, same⟩
        obtain ⟨_, rfl⟩ := Prod.mk.inj (Except.ok.inj same)
        exact ⟨result :: results, rfl⟩

/-- The statements keep what the first keeps and, if it succeeds, the others. -/
theorem keepsOwn_cons :
    KeepsOwn owner verdicts e txID own (stmt :: stmts) ↔
      (own = true → keeps e.isReadOnlyTablet (verdicts 0) stmt = true) ∧
        ∀ result after,
          (e.executeStatement owner (verdicts 0) txID stmt).answer = .ok (result, after) →
          KeepsOwn owner (fun index => verdicts (index + 1))
            (e.executeStatement owner (verdicts 0) txID stmt).state after (ownAfter own stmt)
            stmts := by
  have tablet := (statementReply owner (verdicts 0) e txID stmt).isReadOnlyTablet
  constructor
  · intro keeping
    refine ⟨fun mine => keeping [] stmt stmts rfl mine rfl, ?_⟩
    intro result after answered before later rest split mine done
    rw [tablet]
    refine keeping (stmt :: before) later rest (congrArg (stmt :: ·) split) mine ?_
    rw [executeStatements_ok answered]
    cases rests : (executeRest owner verdicts e txID stmt after before).answer with
    | error failure =>
        rw [rests] at done
        cases done
    | ok given => rfl
  · rintro ⟨now, others⟩ before later rest split mine done
    cases before with
    | nil =>
        obtain ⟨rfl, rfl⟩ := List.cons.inj split
        exact now mine
    | cons head before =>
        obtain ⟨rfl, tail⟩ := List.cons.inj split
        cases answered : (e.executeStatement owner (verdicts 0) txID stmt).answer with
        | error failure =>
            rw [executeStatements_error answered] at done
            cases done
        | ok given =>
            obtain ⟨result, after⟩ := given
            rw [executeStatements_ok answered] at done
            rw [← tablet]
            refine others result after answered before later rest tail mine ?_
            cases rests : (executeRest owner verdicts e txID stmt after before).answer with
            | error failure =>
                rw [rests] at done
                cases done
            | ok given => rfl

/-- A transaction begun inside another one of the same request hides it. -/
theorem not_namesOpened_begun
    (holds : Holds first e true txID)
    (begins : Parser.isBegin stmt = true)
    (answered : (e.executeStatement owner (verdicts 0) txID stmt).answer = .ok (result, after)) :
    ¬ NamesOpened first (executeRest owner verdicts e txID stmt after stmts) := by
  obtain ⟨absent, resolved, tx, active⟩ := holds.held rfl
  obtain ⟨known, status⟩ := TxManager.get_eq_some_iff.mp active
  rw [resolved] at known
  have begun := statementReply owner (verdicts 0) e txID stmt
  have rest : Spared txID tx (executeRest owner verdicts e txID stmt after stmts) := by
    unfold executeRest
    generalize e.executeStatement owner (verdicts 0) txID stmt = reply at begun answered
    cases begun with
    | begun _ granted given events =>
        obtain ⟨_, rfl⟩ := Prod.mk.inj (Except.ok.inj answered)
        have kept := TxManager.txns_begin owner (verdicts 0) known
        refine spared_executeStatements _ _ _ kept fun same => ?_
        have reused : txID = ⟨e.tx.nextID + 1, e.tx.epoch⟩ := by
          simp only [TxManager.resolve, TxManager.begin, granted] at same
          exact same
        rw [reused, e.tx.unused _ (Or.inr (Or.inr ⟨rfl, Nat.lt_succ_self _⟩))] at known
        cases known
    | refused | unknown => cases answered
    | ended other ends outcome ended tx active answer zero events
    | ran other stays answer events same inside =>
        rw [begins] at other
        cases other
  intro names
  obtain ⟨value, named⟩ := names txID tx absent rest.kept status
  refine rest.other value txID named ?_
  have running : (executeRest owner verdicts e txID stmt after stmts).state.tx.epoch =
      e.tx.epoch := (epoch_executeStatements _ _ _ _ _).trans begun.epoch
  rw [TxManager.resolve, running]
  exact resolved.symm

/-- A request names the transactions it leaves open exactly when none of its
statements loses one. -/
theorem namesOpened_iff
    (stmts : List Statement)
    (holds : Holds first e own txID) :
    NamesOpened first (executeStatements owner verdicts e txID stmts) ↔
      KeepsOwn owner verdicts e txID own stmts := by
  induction stmts generalizing verdicts e txID own with
  | nil =>
      refine iff_of_true ?_ ?_
      · intro id tx absent present active
        obtain ⟨_, rfl⟩ := holds.only id tx absent present active
        exact ⟨[], rfl⟩
      · intro before stmt rest split
        cases List.append_ne_nil_of_right_ne_nil before (List.cons_ne_nil stmt rest) split.symm
  | cons stmt stmts ih =>
      have replied := statementReply owner (verdicts 0) e txID stmt
      rw [keepsOwn_cons]
      cases answered : (e.executeStatement owner (verdicts 0) txID stmt).answer with
      | error failure =>
          have failing := replied.names_failed holds answered
          rw [executeStatements_error answered]
          constructor
          · intro names
            refine ⟨failing.mp ?_, nofun⟩
            intro id tx absent present active
            obtain ⟨value, impossible⟩ := names id tx absent present active
            cases impossible
          · rintro ⟨kept, _⟩ id tx absent present active
            exact absurd active (failing.mpr kept id tx absent present)
      | ok given =>
          obtain ⟨result, after⟩ := given
          rw [namesOpened_ok answered]
          by_cases hides : own = true ∧ Parser.isBegin stmt = true
          · obtain ⟨rfl, begins⟩ := hides
            refine iff_of_false (not_namesOpened_begun holds begins answered) ?_
            rintro ⟨kept, _⟩
            have impossible := kept rfl
            rw [keeps, begins] at impossible
            cases impossible
          · have going : own = true → Parser.isBegin stmt = false :=
              fun mine => Bool.eq_false_iff.mpr fun begins => hides ⟨mine, begins⟩
            rw [ih (replied.holds holds going answered)]
            constructor
            · intro others
              refine ⟨?_, ?_⟩
              · rintro rfl
                exact replied.keeps_answered holds answered (going rfl)
              · intro given left same
                obtain ⟨rfl, rfl⟩ := Prod.mk.inj (Except.ok.inj same)
                exact others
            · exact fun both => both.2 result after rfl

end Statements

end Executor

namespace TabletHandler

/-- Every transaction a request has begun and left open is the one its response
names. -/
def LeavesNoneUnknown (e : Executor) (reply : Reply Executor QueryResponse) : Prop :=
  ∀ id tx, e.tx.txns id = none → reply.state.tx.txns id = some tx → tx.status = .active →
    ∃ resp, reply.answer = .ok resp ∧ resp.transactionId = id

/-- A request leaves no transaction unknown to its caller exactly when, after
statements that have succeeded and whose last BEGIN is not followed by COMMIT or
ROLLBACK, the next one is no BEGIN and does not fail unless it is a COMMIT or a
ROLLBACK. -/
theorem execute_leaves_none_unknown_iff
    (owner : Caller)
    (verdicts : Nat → Verdict)
    (stmts : List Statement)
    (txID : TxID)
    (e : Executor) :
    LeavesNoneUnknown e (execute owner verdicts (.ok stmts) txID e) ↔
      ∀ before stmt rest, stmts = before ++ stmt :: rest →
        before.foldl Executor.ownAfter false = true →
        (Executor.executeStatements owner verdicts e txID before).answer.isOk = true →
        Executor.keeps e.isReadOnlyTablet (verdicts before.length) stmt = true := by
  have named : Executor.NamesOpened e (Executor.executeStatements owner verdicts e txID stmts) ↔
      Executor.KeepsOwn owner verdicts e txID false stmts :=
    Executor.namesOpened_iff stmts (Executor.holds_refl e txID)
  refine Iff.trans ?_ named
  simp only [LeavesNoneUnknown, execute, Executor.executeSQL]
  generalize Executor.executeStatements owner verdicts e txID stmts = reply
  obtain ⟨answer, state, events⟩ := reply
  refine forall_congr' fun id => forall_congr' fun tx => ?_
  refine imp_congr_right fun _ => imp_congr_right fun _ => imp_congr_right fun _ => ?_
  constructor
  · rintro ⟨resp, answered, rfl⟩
    cases answer with
    | error failure => cases answered
    | ok done =>
        refine ⟨done.1, ?_⟩
        rw [← Except.ok.inj answered]
  · rintro ⟨results, answered⟩
    refine ⟨{ results := results.map renderResult, transactionId := id }, ?_, rfl⟩
    rw [show answer = .ok (results, id) from answered]
    rfl

/-- `BEGIN; DELETE FROM users`, where the second statement violates a foreign key. -/
theorem begin_then_failure_leaves_transaction :
    let reply := execute ⟨1, none⟩
      (fun index => if index = 1 then { failure := some "foreign key violation" } else {})
      (.ok [⟨.beginTransaction, "BEGIN"⟩,
        ⟨.delete { table := .listed "users", filter := none, returning := false },
          "DELETE FROM users"⟩])
      TxID.zero {}
    reply.answer = .error "foreign key violation" ∧
      reply.state.tx.txns ⟨1, 0⟩ = some ⟨⟨1, none⟩, .active⟩ ∧
      ¬ LeavesNoneUnknown {} reply := by
  intro reply
  have left : reply.state.tx.txns ⟨1, 0⟩ = some ⟨⟨1, none⟩, .active⟩ := rfl
  refine ⟨rfl, left, fun known => ?_⟩
  obtain ⟨resp, impossible, _⟩ := known ⟨1, 0⟩ _ rfl left rfl
  cases impossible

end TabletHandler

end VScale
