import VScale.Tablet.Behaviour

/-!
# Requests stay within their transactions

A text may hold any statements, among them begins, commits and rollbacks.
Whatever it does is applied to the transaction its id denotes for the running
process, or to transactions it has begun itself; all others keep their owner and
their outcome.
-/

namespace VScale

open Tree

/-- The transaction an event is applied to. -/
def TabletEvent.target : TabletEvent → Option TxID
  | .opened _ => none
  | .ran place _ _ => place
  | .ended id _ => some id

namespace Executor

/-- Transactions are kept, and events are applied to given ones or to those the
owner has begun. -/
structure Confined
    (owner : Caller)
    (given : TxID → Prop)
    (e : Executor)
    (later : Executor)
    (events : List TabletEvent) : Prop where
  kept : TxManager.Later e.tx later.tx
  epoch : later.tx.epoch = e.tx.epoch
  applied : ∀ event ∈ events, ∀ id, event.target = some id →
    given id ∨ ∃ tx, later.tx.txns id = some tx ∧ tx.owner = owner

/-- An id that denotes nothing, a given transaction or one the owner has begun. -/
def Mine (owner : Caller) (given : TxID → Prop) (e : Executor) (txID : TxID) : Prop :=
  txID.id ≠ 0 → given (e.tx.resolve txID) ∨
    ∃ tx, e.tx.txns (e.tx.resolve txID) = some tx ∧ tx.owner = owner

section Confined

variable {owner : Caller} {given : TxID → Prop} {e middle later : Executor}

theorem Confined.refl (e : Executor) : Confined owner given e e [] where
  kept := TxManager.Later.refl e.tx
  epoch := rfl
  applied := fun _ none => nomatch none

theorem owned_later
    {before after : TxManager}
    (kept : TxManager.Later before after)
    {id : TxID}
    (owned : ∃ tx, before.txns id = some tx ∧ tx.owner = owner) :
    ∃ tx, after.txns id = some tx ∧ tx.owner = owner := by
  obtain ⟨tx, found, own⟩ := owned
  obtain ⟨tx', kept, same, _⟩ := kept.kept id tx found
  exact ⟨tx', kept, same.trans own⟩

theorem Confined.trans
    {first second : List TabletEvent}
    (one : Confined owner given e middle first)
    (other : Confined owner given middle later second) :
    Confined owner given e later (first ++ second) where
  kept := one.kept.trans other.kept
  epoch := other.epoch.trans one.epoch
  applied := by
    intro event present id target
    rcases List.mem_append.mp present with earlier | late
    · rcases one.applied event earlier id target with given | owned
      · exact Or.inl given
      · exact Or.inr (owned_later other.kept owned)
    · exact other.applied event late id target

theorem Confined.mono
    {events : List TabletEvent}
    {other : TxID → Prop}
    (confined : Confined owner given e later events)
    (implies : ∀ id, given id → other id) :
    Confined owner other e later events :=
  ⟨confined.kept, confined.epoch, fun event present id target =>
    (confined.applied event present id target).imp_left (implies id)⟩

variable {txID : TxID}

/-- An event on the transaction an id denotes. -/
theorem Confined.of_target
    {event : TabletEvent}
    (mine : Mine owner given e txID)
    (inside : txID.id ≠ 0)
    (target : event.target = some (e.tx.resolve txID))
    (kept : TxManager.Later e.tx later.tx)
    (epoch : later.tx.epoch = e.tx.epoch) :
    Confined owner given e later [event] where
  kept := kept
  epoch := epoch
  applied := by
    intro other present id aimed
    rw [List.mem_singleton.mp present, target] at aimed
    injection aimed with same
    rw [← same]
    rcases mine inside with given | owned
    · exact Or.inl given
    · exact Or.inr (owned_later kept owned)

/-- The number zero denotes no transaction. -/
theorem inside_of_get
    {tx : LocalTx}
    (active : e.tx.get txID = some tx) :
    txID.id ≠ 0 := by
  intro zero
  have found := (TxManager.get_eq_some_iff.mp active).1
  rw [e.tx.unused (e.tx.resolve txID) (Or.inl zero)] at found
  cases found

/-- Ending an own transaction touches no other. -/
theorem confined_terminate
    (mine : Mine owner given e txID)
    (verdict : Verdict)
    (outcome : TxStatus) :
    Confined owner given e { e with tx := (e.tx.terminate verdict outcome txID).state }
      (e.tx.terminate verdict outcome txID).events := by
  have kept := TxManager.later_terminate e.tx verdict outcome txID
  unfold TxManager.terminate at kept ⊢
  cases active : e.tx.get txID with
  | none => exact Confined.refl e
  | some tx =>
      simp only [active] at kept
      exact Confined.of_target mine (inside_of_get active) rfl kept rfl

/-- A BEGIN touches no transaction of others. -/
theorem confined_begin (verdict : Verdict) :
    Confined owner given e { e with tx := (e.tx.begin owner verdict).state }
      (e.tx.begin owner verdict).events := by
  have kept := TxManager.later_begin e.tx owner verdict
  unfold TxManager.begin at kept ⊢
  cases granted : verdict.failure with
  | some failure => exact Confined.refl e
  | none =>
      simp only [granted] at kept
      refine ⟨kept, rfl, ?_⟩
      intro event present id target
      rw [List.mem_singleton.mp present] at target
      cases target

theorem confined_plainReply
    (mine : Mine owner given e txID)
    {stmt : Statement}
    {reply : Reply Executor (Result × TxID)}
    (plain : PlainReply e txID stmt reply) :
    Confined owner given e reply.state reply.events := by
  have ran : ∀ succeeded, Confined owner given e e [.ran (e.place txID) stmt succeeded] := by
    intro succeeded
    by_cases outside : txID.id = 0
    · refine ⟨TxManager.Later.refl e.tx, rfl, ?_⟩
      intro event present id target
      rw [List.mem_singleton.mp present, place, if_pos outside] at target
      cases target
    · exact Confined.of_target mine outside (if_neg outside) (TxManager.Later.refl e.tx) rfl
  cases plain with
  | refused failure => exact Confined.refl e
  | failed failure ready => exact ran false
  | done result ready => exact ran true

/-- A reply is confined, and so is the id it leaves in force. -/
def ConfinedReply
    (owner : Caller)
    (given : TxID → Prop)
    (e : Executor)
    (reply : Reply Executor (α × TxID)) : Prop :=
  Confined owner given e reply.state reply.events ∧
    ∀ result txID, reply.answer = .ok (result, txID) → Mine owner given reply.state txID

theorem mine_zero : Mine owner given e TxID.zero :=
  fun inside => absurd rfl inside

theorem mine_begun
    (verdict : Verdict)
    (stmt : Statement)
    {result : Result}
    (answered : (e.afterTx (e.tx.begin owner verdict)
      fun id => (({ sql := stmt.sql } : Result), id)).answer = .ok (result, txID)) :
    Mine owner given { e with tx := (e.tx.begin owner verdict).state } txID := by
  unfold afterTx TxManager.begin at answered
  unfold TxManager.begin
  cases granted : verdict.failure with
  | some failure =>
      simp only [granted, Except.map] at answered
      cases answered
  | none =>
      simp only [granted, Except.map, Except.ok.injEq, Prod.mk.injEq] at answered
      intro _
      rw [← answered.2]
      exact Or.inr ⟨⟨owner, .active⟩, Function.update_self .., rfl⟩

/-- A statement touches own transactions only. -/
theorem confined_executeStatement
    (mine : Mine owner given e txID)
    (verdict : Verdict)
    (stmt : Statement) :
    ConfinedReply owner given e (e.executeStatement owner verdict txID stmt) := by
  unfold executeStatement
  split
  · exact ⟨confined_begin verdict, fun _ _ answered => mine_begun verdict stmt answered⟩
  · have zero : ∀ {reply : Reply TxManager Unit} {result : Result} {left : TxID},
        (e.afterTx reply fun _ => (({ sql := stmt.sql } : Result), TxID.zero)).answer =
          .ok (result, left) → left = TxID.zero := by
      intro reply result left answered
      unfold afterTx at answered
      cases answer : reply.answer with
      | error failure =>
          rw [answer] at answered
          cases answered
      | ok done =>
          rw [answer] at answered
          injection answered with same
          exact (congrArg Prod.snd same).symm
    split
    · refine ⟨confined_terminate mine verdict _, ?_⟩
      intro result left answered
      rw [zero answered]
      exact mine_zero
    · split
      · refine ⟨confined_terminate mine verdict _, ?_⟩
        intro result left answered
        rw [zero answered]
        exact mine_zero
      · have plain := plainReply_executePlain verdict e txID stmt
        refine ⟨confined_plainReply mine plain, ?_⟩
        intro result left answered
        generalize e.executePlain verdict txID stmt = reply at plain answered
        cases plain with
        | refused | failed => cases answered
        | done outcome ready =>
            injection answered with same
            have left_eq : txID = left := congrArg Prod.snd same
            rw [← left_eq]
            exact mine

/-- Whatever the statements of a text do, they stay within their own transactions. -/
theorem confined_executeStatements
    (mine : Mine owner given e txID)
    (verdicts : Nat → Verdict)
    (stmts : List Statement) :
    Confined owner given e (executeStatements owner verdicts e txID stmts).state
      (executeStatements owner verdicts e txID stmts).events := by
  induction stmts generalizing verdicts e txID with
  | nil => exact Confined.refl e
  | cons stmt stmts ih =>
      obtain ⟨first, left⟩ := confined_executeStatement mine (verdicts 0) stmt
      rw [executeStatements]
      cases answer : (e.executeStatement owner (verdicts 0) txID stmt).answer with
      | error failure => exact first
      | ok value =>
          exact first.trans
            (ih (left value.1 value.2 answer) fun index => verdicts (index + 1))

end Confined

end Executor

namespace TabletHandler

/-- The transaction a request is sent for. -/
def Aimed (e : Executor) (txID id : TxID) : Prop :=
  txID.id ≠ 0 ∧ id = e.tx.resolve txID

section Confined

variable {owner : Caller}

theorem mine_aimed (e : Executor) (txID : TxID) : e.Mine owner (Aimed e txID) txID :=
  fun inside => Or.inl ⟨inside, rfl⟩

/-- So does a whole text. -/
theorem confined_execute
    (verdicts : Nat → Verdict)
    (sql : SqlText)
    (txID : TxID)
    (e : Executor) :
    e.Confined owner (Aimed e txID) (execute owner verdicts sql txID e).state
      (execute owner verdicts sql txID e).events := by
  cases sql with
  | error failure => exact Executor.Confined.refl e
  | ok stmts => exact Executor.confined_executeStatements (mine_aimed e txID) verdicts stmts

variable {e : Executor} {id : TxID}

theorem confined_endReply
    {verdict : Verdict}
    {outcome : TxStatus}
    {accept : Option String → β}
    {reply : Reply Executor β}
    (ended : EndReply e id verdict outcome accept reply) :
    e.Confined owner (Aimed e id) reply.state reply.events := by
  cases ended with
  | ignored | unknown => exact Executor.Confined.refl e
  | ended nonzero tx active =>
      exact Executor.Confined.of_target (mine_aimed e id) nonzero rfl
        (TxManager.later_finish active outcome) rfl

theorem confined_prepareReply
    {reply : Reply Executor PrepareResponse}
    (probed : PrepareReply e id reply) :
    e.Confined owner (Aimed e id) reply.state reply.events := by
  cases probed with
  | ignored | unknown => exact Executor.Confined.refl e
  | probed nonzero tx active response =>
      exact Executor.Confined.of_target (mine_aimed e id) nonzero rfl
        (TxManager.Later.refl e.tx) rfl

end Confined

end TabletHandler

namespace TxManager

variable {m : TxManager} {id : TxID} {tx : LocalTx}

theorem number_ne_zero (known : m.txns id = some tx) : id.id ≠ 0 := by
  intro zero
  rw [m.unused id (Or.inl zero)] at known
  cases known

theorem txns_begin
    (owner : Caller)
    (verdict : Verdict)
    (known : m.txns id = some tx) :
    (m.begin owner verdict).state.txns id = some tx := by
  unfold begin
  cases verdict.failure with
  | some failure => exact known
  | none =>
      have different : id ≠ ⟨m.nextID + 1, m.epoch⟩ := by
        rintro rfl
        rw [m.unused _ (Or.inr (Or.inr ⟨rfl, Nat.lt_succ_self _⟩))] at known
        cases known
      exact (Function.update_of_ne different _ _).trans known

theorem txns_terminate
    (verdict : Verdict)
    (outcome : TxStatus)
    {txID : TxID}
    (known : m.txns id = some tx)
    (spared : id ≠ m.resolve txID) :
    (m.terminate verdict outcome txID).state.txns id = some tx := by
  unfold terminate
  cases m.get txID with
  | none => exact known
  | some active => exact (Function.update_of_ne spared _ _).trans known

end TxManager

namespace Executor

/-- A transaction is kept as it is, and the id left in force denotes another one. -/
structure Spared (id : TxID) (tx : LocalTx) (reply : Reply Executor (α × TxID)) : Prop where
  kept : reply.state.tx.txns id = some tx
  other : ∀ value left, reply.answer = .ok (value, left) → id ≠ reply.state.tx.resolve left

variable {e : Executor} {id txID : TxID} {tx : LocalTx}

/-- An answer of the transaction manager that leaves a fixed id in force. -/
theorem spared_afterTx
    {reply : Reply TxManager α}
    {value : α → β × TxID}
    (kept : reply.state.txns id = some tx)
    (other : ∀ done, reply.answer = .ok done → id ≠ reply.state.resolve (value done).2) :
    Spared id tx (e.afterTx reply value) := by
  refine ⟨kept, ?_⟩
  intro result left answered
  unfold afterTx at answered
  cases answer : reply.answer with
  | error failure =>
      rw [answer] at answered
      cases answered
  | ok done =>
      rw [answer] at answered
      injection answered with same
      rw [show left = (value done).2 from (congrArg Prod.snd same).symm]
      exact other done answer

/-- A statement spares the transactions it does not name. -/
theorem spared_executeStatement
    (owner : Caller)
    (verdict : Verdict)
    (stmt : Statement)
    (known : e.tx.txns id = some tx)
    (spared : id ≠ e.tx.resolve txID) :
    Spared id tx (e.executeStatement owner verdict txID stmt) := by
  unfold executeStatement
  split
  · refine spared_afterTx (TxManager.txns_begin owner verdict known) ?_
    intro begun answered
    unfold TxManager.begin at answered ⊢
    cases granted : verdict.failure with
    | some failure =>
        rw [granted] at answered
        cases answered
    | none =>
        rw [granted] at answered
        injection answered with same
        rintro rfl
        rw [← same] at known
        rw [e.tx.unused _ (Or.inr (Or.inr ⟨rfl, Nat.lt_succ_self _⟩))] at known
        cases known
  · have ends : ∀ outcome, Spared id tx (e.afterTx (e.tx.terminate verdict outcome txID)
        fun _ => (({ sql := stmt.sql } : Result), TxID.zero)) := by
      intro outcome
      have kept := TxManager.txns_terminate verdict outcome known spared
      exact spared_afterTx kept fun _ _ same => TxManager.number_ne_zero kept
        (congrArg TxID.id same)
    split
    · exact ends _
    · split
      · exact ends _
      · have plain := plainReply_executePlain verdict e txID stmt
        generalize e.executePlain verdict txID stmt = reply at plain
        cases plain with
        | refused | failed => exact ⟨known, nofun⟩
        | done result ready =>
            refine ⟨known, fun value left answered => ?_⟩
            injection answered with same
            have left_eq : txID = left := congrArg Prod.snd same
            rw [← left_eq]
            exact spared

/-- The statements of a text leave every transaction alone that their id does not
denote. -/
theorem spared_executeStatements
    (owner : Caller)
    (verdicts : Nat → Verdict)
    (stmts : List Statement)
    (known : e.tx.txns id = some tx)
    (spared : id ≠ e.tx.resolve txID) :
    Spared id tx (executeStatements owner verdicts e txID stmts) := by
  induction stmts generalizing verdicts e txID with
  | nil =>
      refine ⟨known, fun value left answered => ?_⟩
      rw [← show txID = left from congrArg Prod.snd (Except.ok.inj answered)]
      exact spared
  | cons stmt stmts ih =>
      have first := spared_executeStatement owner (verdicts 0) stmt known spared
      rw [executeStatements]
      cases answer : (e.executeStatement owner (verdicts 0) txID stmt).answer with
      | error failure => exact ⟨first.kept, by rintro _ _ ⟨⟩⟩
      | ok value =>
          obtain ⟨result, after⟩ := value
          have rest := ih (fun index => verdicts (index + 1)) first.kept
            (first.other result after answer)
          simp only
          generalize executeStatements owner (fun index => verdicts (index + 1))
            (e.executeStatement owner (verdicts 0) txID stmt).state after stmts = later at rest
          obtain ⟨later, state, events⟩ := later
          cases later with
          | error failure => exact ⟨rest.kept, by rintro _ _ ⟨⟩⟩
          | ok given =>
              refine ⟨rest.kept, fun results left answered => ?_⟩
              rw [← show given.2 = left from congrArg Prod.snd (Except.ok.inj answered)]
              exact rest.other given.1 given.2 rfl

end Executor

namespace TabletHandler

variable {e : Executor} {id txID : TxID} {tx : LocalTx}

theorem ne_resolve_of_not_aimed
    (known : e.tx.txns id = some tx)
    (spared : ¬ Aimed e txID id) :
    id ≠ e.tx.resolve txID := by
  intro same
  by_cases zero : txID.id = 0
  · exact TxManager.number_ne_zero known (by rw [same]; exact zero)
  · exact spared ⟨zero, same⟩

/-- A text spares the transactions it is not aimed at. -/
theorem txns_execute
    (owner : Caller)
    (verdicts : Nat → Verdict)
    (sql : SqlText)
    (known : e.tx.txns id = some tx)
    (spared : ¬ Aimed e txID id) :
    (execute owner verdicts sql txID e).state.tx.txns id = some tx := by
  cases sql with
  | error failure => exact known
  | ok stmts =>
      exact (Executor.spared_executeStatements owner verdicts stmts known
        (ne_resolve_of_not_aimed known spared)).kept

theorem txns_endReply
    {verdict : Verdict}
    {outcome : TxStatus}
    {accept : Option String → β}
    {reply : Reply Executor β}
    (ended : EndReply e txID verdict outcome accept reply)
    (known : e.tx.txns id = some tx)
    (spared : ¬ Aimed e txID id) :
    reply.state.tx.txns id = some tx := by
  cases ended with
  | ignored | unknown => exact known
  | ended nonzero active found =>
      exact (Function.update_of_ne (ne_resolve_of_not_aimed known spared) _ _).trans known

theorem state_prepareReply
    {reply : Reply Executor PrepareResponse}
    (probed : PrepareReply e txID reply) : reply.state = e := by
  cases probed with
  | ignored | unknown | probed => rfl

end TabletHandler

end VScale
