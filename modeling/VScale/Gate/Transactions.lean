import VScale.Effects.Trace
import VScale.Gate.Operations
import VScale.Router.PointRouting
import VScale.Router.Sync
import VScale.Tablet.Behaviour

/-!
# Committed transactions

Which transactions have been committed changes only when a commit reaches the
process that holds the transaction and the database accepts it.
-/

namespace VScale

open Collections Effects

namespace TxManager

/-- The transaction has been committed. -/
def Committed (m : TxManager) (id : TxID) : Prop :=
  ∃ tx, m.txns id = some tx ∧ tx.status = .committed

variable {id : TxID}

/-- What is committed stays committed. -/
theorem Later.committed
    {before after : TxManager}
    (later : Later before after)
    (committed : before.Committed id) : after.Committed id := by
  obtain ⟨tx, found, status⟩ := committed
  obtain ⟨same, kept, _, ended⟩ := later.kept id tx found
  rw [ended (by rw [status]; exact nofun)] at kept
  exact ⟨tx, kept, status⟩

/-- Only the transaction that ends may be committed. -/
theorem committed_finish
    {m : TxManager}
    {tx : LocalTx}
    (active : m.get id = some tx)
    (outcome : TxStatus)
    (other : TxID) :
    (m.finish id outcome).Committed other ↔
      m.Committed other ∨ other = m.resolve id ∧ outcome = .committed := by
  obtain ⟨found, status⟩ := get_eq_some_iff.mp active
  unfold Committed finish
  by_cases same : other = m.resolve id
  · subst same
    simp only [Function.update_self, found, Option.map_some, Option.some.injEq, exists_eq_left',
      status, reduceCtorEq, false_or, true_and]
  · simp only [Function.update_of_ne same, same, false_and, or_false]

theorem committed_begin
    (m : TxManager)
    (owner : Caller)
    (verdict : Verdict)
    (id : TxID) :
    (m.begin owner verdict).state.Committed id ↔ m.Committed id := by
  constructor
  · unfold begin Committed
    cases verdict.failure with
    | some failure => exact fun committed => committed
    | none =>
        rintro ⟨tx, found, status⟩
        by_cases same : id = ⟨m.nextID + 1, m.epoch⟩
        · simp only [same, Function.update_self, Option.some.injEq] at found
          rw [← found] at status
          cases status
        · simp only [Function.update_of_ne same] at found
          exact ⟨tx, found, status⟩
  · exact (later_begin m owner verdict).committed

theorem committed_restart
    (m : TxManager)
    (id : TxID) :
    m.restart.Committed id ↔ m.Committed id := by
  constructor
  · rintro ⟨tx, found, status⟩
    obtain ⟨old, held, same⟩ := Option.map_eq_some_iff.mp found
    split at same
    · rw [← same] at status
      cases status
    · rw [same] at held
      exact ⟨tx, held, status⟩
  · exact (later_restart m).committed

theorem committed_rollback
    (m : TxManager)
    (verdict : Verdict)
    (id other : TxID) :
    (m.rollback verdict id).state.Committed other ↔ m.Committed other := by
  unfold rollback terminate
  cases active : m.get id with
  | none => exact Iff.rfl
  | some tx =>
      simp only [committed_finish active, reduceCtorEq, and_false, or_false]

end TxManager

/-- The call reaches the tablet. -/
def Network.delivers : Network → Bool
  | .lost _ => false
  | _ => true

namespace World

/-- A transaction of the tablet at an address has been committed. -/
def Committed (w : World) (addr : String) (id : TxID) : Prop :=
  (w.tablets addr).tx.Committed id

section Calls

variable (w : World) (caller : Caller) (choice : Choice) (addr : String)

/-- A call changes only the tablet it is sent to, and only when it is delivered. -/
theorem callTablet_tablets
    (handler : Executor → Reply Executor α) :
    (w.callTablet caller choice addr handler).2.tablets =
      if choice.network.delivers then
        Function.update w.tablets addr (handler (w.tablets addr)).state
      else w.tablets := by
  unfold callTablet
  cases choice.network with
  | answered | lost | replyLost => rfl

/-- A call to a tablet leaves sessions and router alone. -/
theorem callTablet_frame
    (handler : Executor → Reply Executor α) :
    (w.callTablet caller choice addr handler).2.sessions = w.sessions ∧
      (w.callTablet caller choice addr handler).2.router = w.router ∧
      (w.callTablet caller choice addr handler).2.present = w.present ∧
      (w.callTablet caller choice addr handler).2.nextID = w.nextID := by
  unfold callTablet
  cases choice.network with
  | answered | lost | replyLost => exact ⟨rfl, rfl, rfl, rfl⟩

/-- A call commits what its handler commits. -/
theorem committed_callTablet
    (handler : Executor → Reply Executor α)
    (other : String)
    (id : TxID) :
    (w.callTablet caller choice addr handler).2.Committed other id ↔
      if choice.network.delivers = true ∧ other = addr then
        (handler (w.tablets addr)).state.tx.Committed id
      else w.Committed other id := by
  unfold Committed
  rw [callTablet_tablets]
  by_cases delivered : choice.network.delivers = true
  · by_cases same : other = addr
    · subst same
      rw [if_pos delivered, if_pos ⟨delivered, rfl⟩, Function.update_self]
    · rw [if_pos delivered, if_neg (fun both => same both.2), Function.update_of_ne same]
  · rw [if_neg delivered, if_neg (fun both => delivered both.1)]

end Calls

end World

/-- The step commits a transaction: a commit is delivered to the process that
holds it active, and the database accepts it. -/
def CommitTakes (step : Step gate World Choice) (addr : String) (id : TxID) : Prop :=
  match step.op with
  | .commit tc txID =>
      tc.target = addr ∧ (step.before.tablets addr).tx.resolve txID = id ∧ txID.id ≠ 0 ∧
        ((step.before.tablets addr).tx.get txID).isSome = true ∧
        TxManager.commitOutcome (step.choice.verdicts 0) = .committed ∧
        step.choice.network.delivers = true
  | _ => False

instance (addr : String) (id : TxID) :
    ∀ step : Step gate World Choice, Decidable (CommitTakes step addr id)
  | ⟨_, .commit _ _, _⟩ => inferInstanceAs (Decidable (_ = addr ∧ _ = id ∧ _ ≠ 0 ∧ _ ∧ _ ∧ _))
  | ⟨_, .create, _⟩ | ⟨_, .get _, _⟩ | ⟨_, .getState _, _⟩ | ⟨_, .setState _ _, _⟩
  | ⟨_, .shardCount _, _⟩ | ⟨_, .isParticipating _ _, _⟩ | ⟨_, .participatingShardsMap _, _⟩
  | ⟨_, .clearParticipants _, _⟩ | ⟨_, .setLocalTxID _ _ _, _⟩ | ⟨_, .getLocalTxID _ _, _⟩
  | ⟨_, .route _ _, _⟩ | ⟨_, .getClient _, _⟩ | ⟨_, .begin _, _⟩ | ⟨_, .execute _ _ _, _⟩
  | ⟨_, .prepare _ _, _⟩ | ⟨_, .rollback _ _, _⟩ => .isFalse fun taken => taken

/-- The answer to a request that ends a transaction, read for commits. -/
theorem committed_endReply
    {e : Executor}
    {id : TxID}
    {verdict : Verdict}
    {outcome : TxStatus}
    {accept : Option String → β}
    {reply : Reply Executor β}
    (ended : TabletHandler.EndReply e id verdict outcome accept reply)
    (other : TxID) :
    reply.state.tx.Committed other ↔
      e.tx.Committed other ∨
        e.tx.resolve id = other ∧ id.id ≠ 0 ∧ (e.tx.get id).isSome = true ∧
          outcome = .committed := by
  cases ended with
  | ignored zero => simp [zero]
  | unknown nonzero missing => simp [missing]
  | ended nonzero tx active =>
      rw [TxManager.committed_finish active]
      simp [nonzero, active, eq_comm]

/-- Operations other than executions commit what `CommitTakes` says. -/
theorem committed_act
    (ext : Externals)
    (caller : Caller)
    {op : GateOp}
    (choice : Choice)
    (w : World)
    (idle : op.Idle)
    (addr : String)
    (id : TxID) :
    (w.act ext caller op choice).2.Committed addr id ↔
      w.Committed addr id ∨ CommitTakes ⟨w, op, choice⟩ addr id := by
  have untouched : ∀ {later : World}, later.tablets = w.tablets →
      (later.Committed addr id ↔ w.Committed addr id ∨ False) := by
    intro later same
    rw [World.Committed, same, or_false]
    rfl
  cases op with
  | execute tc sql txID => exact False.elim idle
  | setState session state =>
      apply untouched
      simp only [World.act]
      split
      · rfl
      · rfl
  | begin tc =>
      rw [World.act_begin, World.committed_callTablet]
      have begun := TabletHandler.execute_begin caller choice.verdicts (w.tablets tc.target)
      split
      · rename_i reached
        rw [reached.2]
        change _ ↔ w.Committed tc.target id ∨ False
        rw [or_false]
        generalize TabletHandler.execute caller choice.verdicts beginText TxID.zero
          (w.tablets tc.target) = reply at begun ⊢
        cases begun with
        | refused failure => exact Iff.rfl
        | begun verdict granted => exact TxManager.committed_begin _ _ _ _
      · exact (or_iff_left not_false).symm
  | prepare tc txID =>
      rw [World.act_prepare, World.committed_callTablet]
      have probed := TabletHandler.prepare_reply choice.verdicts txID (w.tablets tc.target)
      split
      · rename_i reached
        rw [reached.2]
        change _ ↔ w.Committed tc.target id ∨ False
        rw [or_false]
        generalize TabletHandler.prepare choice.verdicts txID (w.tablets tc.target) = reply
          at probed ⊢
        cases probed with
        | ignored | unknown | probed => exact Iff.rfl
      · exact (or_iff_left not_false).symm
  | commit tc txID =>
      rw [World.act_commit, World.committed_callTablet]
      have ended := committed_endReply
        (TabletHandler.commit_reply choice.verdicts txID (w.tablets tc.target)) id
      split
      · rename_i reached
        obtain ⟨delivered, rfl⟩ := reached
        rw [ended]
        simp [CommitTakes, World.Committed, delivered]
      · rename_i unreached
        have none : ¬ CommitTakes ⟨w, .commit tc txID, choice⟩ addr id := by
          rintro ⟨same, _, _, _, _, delivered⟩
          exact unreached ⟨delivered, same.symm⟩
        rw [or_iff_left none]
  | rollback tc txID =>
      rw [World.act_rollback, World.committed_callTablet]
      have ended := committed_endReply
        (TabletHandler.rollback_reply choice.verdicts txID (w.tablets tc.target)) id
      split
      · rename_i reached
        rw [reached.2, ended]
        simp [CommitTakes, World.Committed]
      · exact (or_iff_left not_false).symm
  | _ => exact untouched rfl

/-- Every client reaches the address it is kept under. -/
def Router.TargetsOwn (r : Router) : Prop :=
  r.clients.All fun addr tc => tc.target = addr

/-- The environment commits nothing on its own. -/
theorem committed_disturb
    (move : Move)
    (w : World)
    (addr : String)
    (id : TxID) :
    (w.disturb move).Committed addr id ↔ w.Committed addr id := by
  cases move with
  | reap target victim =>
      unfold World.Committed
      by_cases same : addr = target
      · subst same
        simp only [World.disturb, World.absorb, Function.update_self]
        exact TxManager.committed_rollback _ _ _ _
      · simp only [World.disturb, World.absorb, Function.update_of_ne same]
  | restart target =>
      unfold World.Committed
      by_cases same : addr = target
      · subst same
        simp only [World.disturb, Function.update_self]
        exact TxManager.committed_restart _ _
      · simp only [World.disturb, Function.update_of_ne same]
  | sync | reapSession => exact Iff.rfl

theorem sessions_disturb
    (move : Move)
    (w : World) :
    (w.disturb move).sessions = w.sessions := by
  cases move with
  | reap | restart | sync | reapSession => rfl

theorem targetsOwn_disturb
    (move : Move)
    {w : World}
    (own : w.router.TargetsOwn) :
    (w.disturb move).router.TargetsOwn := by
  cases move with
  | reap | restart | reapSession => exact own
  | sync order dials tablets =>
      exact (Router.sync_consistent order dials tablets own).clients.imp fun _ _ known => known.1

theorem targetsOwn_of_entries
    {r : Router}
    (own : ∀ entry ∈ r.clients.entries, entry.2.target = entry.1) : r.TargetsOwn :=
  fun addr tc found => own ⟨addr, tc⟩ (AList.mem_lookup_iff.mp found)

/-- Two shards whose tablets have begun nothing. -/
def twoShardWorld : World :=
  { router := Router.twoShardRouter }

/-- `BEGIN`. -/
def beginStatement : Tree.Statement :=
  ⟨.beginTransaction, "BEGIN"⟩

/-- `COMMIT`. -/
def commitStatement : Tree.Statement :=
  ⟨.commitTransaction, "COMMIT"⟩

end VScale
