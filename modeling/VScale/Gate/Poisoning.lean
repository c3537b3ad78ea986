import VScale.Gate.AccountedRequests
import VScale.Gate.Goroutines

/-!
# Failed statements and the commit that follows

A session begins, executes any number of statements and commits, while requests
of other sessions and the environment go on.  When a statement fails, the commit
should fail as well.

It does so when the failure leaves a recorded participant behind that can no
longer be committed: one whose transaction is over, or inside which PostgreSQL
has seen a statement fail.  A begin that is refused before anything was recorded
leaves no such participant.
-/

namespace VScale

open Collections Effects Tree

/-- A statement has failed inside a transaction. -/
def World.Aborted (w : World) (addr : String) (id : TxID) : Prop :=
  ∃ caller stmt, Event.tablet caller addr (.ran (some id) stmt false) ∈ w.log

/-- PostgreSQL refuses to commit a transaction inside which a statement has
failed. -/
def RefusesAborted (step : Step gate World Choice) : Prop :=
  match step.op with
  | .commit tc txID =>
      step.before.Aborted tc.target ((step.before.tablets tc.target).tx.resolve txID) →
        (step.choice.verdicts 0).failure ≠ none
  | _ => True

/-- The statements of one session since its begin, among other requests.  The
outcomes are listed newest first; nothing follows a crash. -/
inductive Statements
    (ext : Externals)
    (session : Int)
    (others : World → World → Prop)
    (allowed : Step gate World Choice → Prop) : World → List Outcome → Prop
  | begun {w : World} (own : w.router.TargetsOwn)
      (opened : w.sessions session = { state := .inTransaction }) :
      Statements ext session others allowed w []
  | others {w later : World} {outcomes : List Outcome}
      (earlier : Statements ext session others allowed w outcomes) (change : others w later) :
      Statements ext session others allowed later outcomes
  | execute {w later : World} {outcomes : List Outcome} {outcome : Outcome} (caller : Caller)
      (sql : SqlText) (earlier : Statements ext session others allowed w outcomes)
      (returns : (Coordinator.execute ext session sql).Returns (World.machine ext) caller others
        allowed w outcome later)
      (survived : outcome ≠ .error .crash) :
      Statements ext session others allowed later (outcome :: outcomes)

/-- The commit of a session returns. -/
abbrev CommitReturns
    (ext : Externals)
    (caller : Caller)
    (session : Int)
    (others : World → World → Prop)
    (w : World)
    (outcome : Outcome)
    (later : World) : Prop :=
  (Coordinator.commit session).Returns (World.machine ext) caller others RefusesAborted w outcome
    later

/-- After a failed statement no commit succeeds, whatever others do. -/
def FailuresPoison
    (ext : Externals)
    (session : Int)
    (others : World → World → Prop)
    (allowed : Step gate World Choice → Prop) : Prop :=
  ∀ w outcomes caller outcome later,
    Statements ext session others (fun step => RefusesAborted step ∧ allowed step) w outcomes →
      (∃ failure, .error failure ∈ outcomes) →
        CommitReturns ext caller session others w outcome later → ∀ resp, outcome ≠ .ok resp

/-! ### What others do -/

/-- Transactions and events are kept, and no process is replaced. -/
structure World.Proceeds (before after : World) : Prop where
  kept : before.Keeps after
  epochs : ∀ addr, (after.tablets addr).tx.epoch = (before.tablets addr).tx.epoch
  logged : before.log ⊆ after.log
  own : before.router.TargetsOwn → after.router.TargetsOwn

namespace World.Proceeds

theorem refl (w : World) : w.Proceeds w :=
  ⟨fun _ => TxManager.Later.refl _, fun _ => rfl, List.Subset.refl _, id⟩

theorem trans
    {first second third : World}
    (one : first.Proceeds second)
    (other : second.Proceeds third) : first.Proceeds third where
  kept := fun addr => (one.kept addr).trans (other.kept addr)
  epochs := fun addr => (other.epochs addr).trans (one.epochs addr)
  logged := List.Subset.trans one.logged other.logged
  own := fun own => other.own (one.own own)

theorem act
    (ext : Externals)
    (caller : Caller)
    (op : GateOp)
    (choice : Choice)
    (w : World) :
    w.Proceeds (w.act ext caller op choice).2 := by
  have evolves := World.evolves_act ext caller op choice w
  obtain ⟨new, logged, _⟩ := evolves.logged
  refine ⟨evolves.kept, evolves.epochs, ?_, World.targetsOwn_act ext caller op choice⟩
  rw [logged]
  exact List.subset_append_right new w.log

end World.Proceeds

/-- What others do while no tablet restarts. -/
def Calmly (ext : Externals) (session : Int) (before after : World) : Prop :=
  Elsewhere ext session before after ∧
    ∀ addr, (after.tablets addr).tx.epoch = (before.tablets addr).tx.epoch

/-- A call relies on its session being left alone. -/
def undisturbed (session : Int) : Contract World where
  rely := fun before after =>
    before.Proceeds after ∧ after.sessions session = before.sessions session
  guarantee := fun _ _ => True
  rely_refl := fun w => ⟨World.Proceeds.refl w, rfl⟩
  rely_trans := fun one other => ⟨one.1.trans other.1, other.2.trans one.2⟩

variable {ext : Externals} {session : Int} {w : World}

theorem undisturbed_of_calmly
    {before after : World}
    (calmly : Calmly ext session before after) : (undisturbed session).rely before after := by
  obtain ⟨elsewhere, epochs⟩ := calmly
  obtain ⟨same, own⟩ := elsewhere_keeps elsewhere
  refine ⟨?_, same⟩
  cases elsewhere with
  | move move =>
      obtain ⟨new, logged, _⟩ := World.log_disturb move before
      refine ⟨World.kept_disturb move before, epochs, ?_, own⟩
      rw [logged]
      exact List.subset_append_right new before.log
  | act caller op choice apart => exact World.Proceeds.act ext caller op choice before

/-- Own operations that change no session are like those of others. -/
theorem undisturbed_of_inert
    (ext : Externals)
    (caller : Caller)
    (session : Int)
    {op : GateOp}
    (inert : op.Inert)
    (choice : Choice)
    (w : World) :
    (undisturbed session).rely w (w.act ext caller op choice).2 :=
  ⟨World.Proceeds.act ext caller op choice w,
    World.sessions_act ext caller op choice w (untouched_of_inert inert w session)⟩

variable {allowed : Step gate World Choice → Prop} {outcomes : List Outcome}

/-- What others keep is kept by a program that changes no session. -/
theorem wp_undisturbed
    {caller : Caller}
    {good : World → Prop}
    (stable : ∀ before after, (undisturbed session).rely before after → good before → good after)
    {program : GateM α}
    (inert : program.Only GateOp.Inert)
    (start : good w) :
    program.wp (undisturbed session) ((World.machine ext).StepsWhen allowed caller)
      (fun _ later => good later) w := by
  refine Prog.wp_of_only stable ?_ inert start
  rintro op before answer after quiet ⟨choice, _, stepped⟩ holds
  obtain ⟨_, rfl⟩ := Prod.ext_iff.mp stepped
  have reached := undisturbed_of_inert ext caller session quiet choice before
  exact ⟨trivial, stable before _ reached holds⟩

/-- One operation that changes no session. -/
theorem wp_inert
    {caller : Caller}
    {op : GateOp}
    {next : op.Answer → GateM α}
    {post : α → World → Prop}
    (follows : ∀ (before : World) choice, (undisturbed session).rely w before →
      allowed ⟨before, op, choice⟩ →
      (undisturbed session).rely before (before.act ext caller op choice).2 →
      (next (before.act ext caller op choice).1).wp (undisturbed session)
        ((World.machine ext).StepsWhen allowed caller) post (before.act ext caller op choice).2)
    (inert : op.Inert := by trivial) :
    (Prog.perform op next).wp (undisturbed session) ((World.machine ext).StepsWhen allowed caller)
      post w := by
  refine Prog.wp_perform_when ?_
  intro before choice reached permitted
  exact follows before choice reached permitted
    (undisturbed_of_inert ext caller session inert choice before)

/-! ### Spoilt participants -/

namespace World

/-- The transaction is over, or cannot be committed. -/
def Spoilt (w : World) (addr : String) (id : TxID) : Prop :=
  (∃ tx, (w.tablets addr).tx.txns id = some tx ∧ tx.status ≠ .active) ∨ w.Aborted addr id

/-- The session is in a transaction, and its participants are known to the
running tablets. -/
structure Open (w : World) (session : Int) : Prop where
  own : w.router.TargetsOwn
  state : (w.sessions session).state = .inTransaction
  known : ∀ addr id, w.Recorded session addr id → id.id ≠ 0 ∧
    id.epoch = (w.tablets addr).tx.epoch ∧ ∃ tx, (w.tablets addr).tx.txns id = some tx

/-- A participant is spoilt. -/
def Poisoned (w : World) (session : Int) : Prop :=
  ∃ addr id, w.Recorded session addr id ∧ w.Spoilt addr id

variable {before after : World} {session : Int} {addr : String} {id : TxID}

theorem Spoilt.proceeds
    (spoilt : before.Spoilt addr id)
    (proceeds : before.Proceeds after) :
    after.Spoilt addr id := by
  rcases spoilt with ⟨tx, found, past⟩ | ⟨caller, stmt, failed⟩
  · obtain ⟨later, foundLater, _, same⟩ := (proceeds.kept addr).kept id tx found
    exact Or.inl ⟨later, foundLater, by rw [same past]; exact past⟩
  · exact Or.inr ⟨caller, stmt, proceeds.logged failed⟩

theorem Recorded.rely
    (recorded : before.Recorded session addr id)
    (reached : (undisturbed session).rely before after) : after.Recorded session addr id := by
  rw [Recorded, reached.2]
  exact recorded

/-- A poisoned session stays poisoned. -/
theorem Poisoned.rely
    (poisoned : before.Poisoned session)
    (reached : (undisturbed session).rely before after) : after.Poisoned session := by
  obtain ⟨addr, id, recorded, spoilt⟩ := poisoned
  exact ⟨addr, id, recorded.rely reached, spoilt.proceeds reached.1⟩

/-- What is known of a transaction stays known. -/
theorem Proceeds.known
    (proceeds : before.Proceeds after)
    (known : id.id ≠ 0 ∧ id.epoch = (before.tablets addr).tx.epoch ∧
      ∃ tx, (before.tablets addr).tx.txns id = some tx) :
    id.id ≠ 0 ∧ id.epoch = (after.tablets addr).tx.epoch ∧
      ∃ tx, (after.tablets addr).tx.txns id = some tx := by
  obtain ⟨nonzero, current, tx, found⟩ := known
  obtain ⟨later, foundLater, _⟩ := (proceeds.kept addr).kept id tx found
  exact ⟨nonzero, by rw [proceeds.epochs]; exact current, later, foundLater⟩

theorem Open.rely
    (opened : before.Open session)
    (reached : (undisturbed session).rely before after) : after.Open session where
  own := reached.1.own opened.own
  state := by
    rw [reached.2]
    exact opened.state
  known := by
    intro addr id recorded
    rw [Recorded, reached.2] at recorded
    exact reached.1.known (opened.known addr id recorded)

/-- Participants belong to the running processes. -/
theorem Open.resolve
    (opened : before.Open session)
    (recorded : before.Recorded session addr id) :
    (before.tablets addr).tx.resolve id = id := by
  rw [TxManager.resolve, ← (opened.known addr id recorded).2.1]

/-- A participant that its tablet does not find is over. -/
theorem Open.spoilt_of_missing
    (opened : before.Open session)
    (recorded : before.Recorded session addr id)
    (missing : (before.tablets addr).tx.get id = none) : before.Spoilt addr id := by
  obtain ⟨_, _, tx, found⟩ := opened.known addr id recorded
  refine Or.inl ⟨tx, found, fun active => ?_⟩
  have present := TxManager.get_eq_some_iff.mpr
    ⟨by rw [opened.resolve recorded]; exact found, active⟩
  rw [missing] at present
  cases present

end World

/-! ### Requests that spoil a participant -/

/-- A tablet takes writes, or the statement is none. -/
def Executor.Accepts (e : Executor) (stmt : Statement) : Prop :=
  (e.isReadOnlyTablet && Parser.isWrite stmt) = false

instance (e : Executor) (stmt : Statement) : Decidable (e.Accepts stmt) :=
  inferInstanceAs (Decidable (_ = false))

/-- The text is one statement that the tablet takes and that does not control
transactions. -/
def Executor.Takes (e : Executor) : SqlText → Prop
  | .ok [stmt] => Parser.isTxControl stmt = false ∧ e.Accepts stmt
  | _ => False

instance (e : Executor) : ∀ sql, Decidable (e.Takes sql)
  | .ok [stmt] => inferInstanceAs (Decidable (Parser.isTxControl stmt = false ∧ e.Accepts stmt))
  | .ok [] | .ok (_ :: _ :: _) | .error _ => .isFalse id

/-- The call reaches the tablet. -/
def Network.Arrives : Network → Prop
  | .lost _ => False
  | _ => True

instance : ∀ network : Network, Decidable network.Arrives
  | .lost _ => .isFalse id
  | .answered | .replyLost _ => .isTrue trivial

section Requests

variable {ext : Externals} {caller : Caller} {session : Int} {w : World}
variable {tc : TabletClient} {id : TxID} {choice : Choice}

/-- A rollback that arrives ends the transaction. -/
theorem spoilt_of_rollback
    (ext : Externals)
    (caller : Caller)
    (opened : w.Open session)
    (recorded : w.Recorded session tc.target id)
    (arrives : choice.network.Arrives) :
    (w.act ext caller (.rollback tc id) choice).2.Spoilt tc.target id := by
  obtain ⟨nonzero, _, tx, found⟩ := opened.known tc.target id recorded
  have absorbed : (w.absorb caller tc.target
      (TabletHandler.rollback choice.verdicts id (w.tablets tc.target))).Spoilt tc.target id := by
    have reply := TabletHandler.rollback_reply choice.verdicts id (w.tablets tc.target)
    generalize TabletHandler.rollback choice.verdicts id (w.tablets tc.target) = ended at reply
    cases reply with
    | ignored zero => exact absurd zero nonzero
    | unknown _ missing =>
        obtain ⟨past, foundOver, ended⟩ | aborted := opened.spoilt_of_missing recorded missing
        · exact Or.inl ⟨past, by simpa [World.absorb] using foundOver, ended⟩
        · exact Or.inr aborted
    | ended _ held active =>
        refine Or.inl ⟨{ tx with status := .rolledBack }, ?_, by rintro ⟨⟩⟩
        simp [World.absorb, TxManager.finish, opened.resolve recorded, found]
  rw [World.act_rollback]
  unfold World.callTablet
  cases network : choice.network with
  | answered | replyLost => exact absorbed
  | lost failure =>
      rw [network] at arrives
      exact False.elim arrives

variable {e : Executor} {failure : String} {stmt : Statement}

/-- A statement that a tablet accepts fails inside its transaction, unless the
transaction is over. -/
theorem failed_of_executePlain
    {verdict : Verdict}
    (nonzero : id.id ≠ 0)
    (accepts : e.Accepts stmt)
    (failed : (e.executePlain verdict id stmt).answer = .error failure) :
    e.tx.get id = none ∨
      (e.executePlain verdict id stmt).events = [.ran (some (e.tx.resolve id)) stmt false] := by
  have ran : ∀ result,
      (e.afterTx (e.tx.run verdict stmt result id) fun result => (result, id)).answer =
        .error failure → e.tx.get id = none ∨
      (e.afterTx (e.tx.run verdict stmt result id) fun result => (result, id)).events =
        [.ran (some (e.tx.resolve id)) stmt false] := by
    intro result failed
    unfold TxManager.run at failed ⊢
    cases active : e.tx.get id with
    | none => exact Or.inl rfl
    | some tx =>
        right
        cases answered : verdict.failure with
        | some reason => rfl
        | none =>
            rw [active, answered] at failed
            cases failed
  unfold Executor.executePlain at failed ⊢
  rw [Executor.Accepts] at accepts
  simp only [accepts, Bool.false_eq_true, if_false, if_pos nonzero] at failed ⊢
  split at failed
  · rename_i returning
    rw [if_pos returning]
    exact ran _ failed
  · rename_i returning
    rw [if_neg returning]
    exact ran _ failed

/-- A single statement that fails is answered so by the tablet. -/
theorem failed_of_execute
    {owner : Caller}
    {verdicts : Nat → Verdict}
    (plain : Parser.isTxControl stmt = false)
    (failed : (TabletHandler.execute owner verdicts (.ok [stmt]) id e).answer = .error failure) :
    (e.executePlain (verdicts 0) id stmt).answer = .error failure ∧
      (TabletHandler.execute owner verdicts (.ok [stmt]) id e).events =
        (e.executePlain (verdicts 0) id stmt).events := by
  rw [← Executor.executeStatement_plain owner (verdicts 0) e id plain]
  simp only [TabletHandler.execute, Executor.executeSQL, Executor.executeStatements] at failed ⊢
  cases answered : (e.executeStatement owner (verdicts 0) id stmt).answer with
  | error reason =>
      rw [answered] at failed
      injection failed with same
      exact ⟨congrArg _ same, rfl⟩
  | ok result =>
      rw [answered] at failed
      cases failed

/-- A failed statement spoils the transaction it was sent for. -/
theorem spoilt_of_execute
    {after : World}
    (opened : w.Open session)
    (recorded : w.Recorded session tc.target id)
    (answered : choice.network = .answered)
    (plain : Parser.isTxControl stmt = false)
    (accepts : (w.tablets tc.target).Accepts stmt)
    (stepped : w.act ext caller (.execute tc (.ok [stmt]) id) choice = (.error failure, after)) :
    after.Spoilt tc.target id := by
  have proceeds : w.Proceeds after := by
    have proceeds := World.Proceeds.act ext caller (.execute tc (.ok [stmt]) id) choice w
    rwa [stepped] at proceeds
  have nonzero := (opened.known tc.target id recorded).1
  rw [World.act_execute] at stepped
  simp only [World.callTablet, answered] at stepped
  obtain ⟨failed, absorbed⟩ := Prod.mk.inj stepped
  cases reply : (TabletHandler.execute caller choice.verdicts (.ok [stmt]) id
      (w.tablets tc.target)).answer with
  | ok resp =>
      have same : (w.addEvent (.sent caller tc.target (.ok [stmt]))).tablets = w.tablets := rfl
      rw [same, reply] at failed
      cases failed
  | error reason =>
      obtain ⟨reasoned, events⟩ := failed_of_execute plain reply
      rcases failed_of_executePlain nonzero accepts reasoned with missing | ran
      · exact (opened.spoilt_of_missing recorded missing).proceeds proceeds
      · refine Or.inr ⟨caller, stmt, ?_⟩
        rw [← absorbed]
        refine List.mem_append_left _ (List.mem_reverse.mpr (List.mem_map.mpr ⟨_, ?_, rfl⟩))
        change _ ∈ (TabletHandler.execute caller choice.verdicts (.ok [stmt]) id
          (w.tablets tc.target)).events
        rw [events, ran, opened.resolve recorded]
        exact List.mem_singleton.mpr rfl

end Requests

/-! ### Statements -/

/-- A step after which a failed statement has spoilt a participant: a route picks
a tablet, a begin is granted unless a participant is recorded already, clients are
found, rollbacks arrive, and a statement that does not control transactions
reaches a tablet that takes it and answers. -/
def Careful (ext : Externals) (session : Int) (step : Step gate World Choice) : Prop :=
  match step.op with
  | .route sql inTransaction =>
      (step.before.router.route ext.exprString step.choice.order sql inTransaction).1.tablets ≠ []
  | .begin _ =>
      step.choice.network = .answered ∧ (step.choice.verdicts 0).failure = none ∨
        (step.before.sessions session).shardTxIDs.entries ≠ []
  | .getClient addr => step.before.router.getClient addr ≠ none
  | .rollback _ _ => step.choice.network.Arrives
  | .execute tc sql _ =>
      step.choice.network = .answered ∧ (step.before.tablets tc.target).Takes sql
  | _ => True

instance (ext : Externals) (session : Int) :
    ∀ step : Step gate World Choice, Decidable (Careful ext session step)
  | ⟨_, .route _ _, _⟩ => inferInstanceAs (Decidable (_ ≠ []))
  | ⟨_, .begin _, _⟩ => inferInstanceAs (Decidable (_ ∧ _ ∨ _ ≠ []))
  | ⟨_, .getClient _, _⟩ => inferInstanceAs (Decidable (_ ≠ none))
  | ⟨_, .rollback _ _, choice⟩ => inferInstanceAs (Decidable choice.network.Arrives)
  | ⟨_, .execute _ sql _, _⟩ => inferInstanceAs (Decidable (_ ∧ Executor.Takes _ sql))
  | ⟨_, .create, _⟩ | ⟨_, .get _, _⟩ | ⟨_, .getState _, _⟩ | ⟨_, .setState _ _, _⟩
  | ⟨_, .shardCount _, _⟩ | ⟨_, .isParticipating _ _, _⟩ | ⟨_, .participatingShardsMap _, _⟩
  | ⟨_, .clearParticipants _, _⟩ | ⟨_, .setLocalTxID _ _ _, _⟩ | ⟨_, .getLocalTxID _ _, _⟩
  | ⟨_, .prepare _ _, _⟩ | ⟨_, .commit _ _, _⟩ => .isTrue trivial

/-- The program runs in a session left alone, by careful steps. -/
abbrev Carefully
    (ext : Externals)
    (caller : Caller)
    (session : Int)
    (program : GateM α)
    (post : α → World → Prop)
    (w : World) : Prop :=
  program.wp (undisturbed session)
    ((World.machine ext).StepsWhen (fun step => RefusesAborted step ∧ Careful ext session step)
      caller) post w

/-- A session that is poisoned if something has failed. -/
structure World.Tainted (w : World) (session : Int) (failed : Prop) : Prop where
  opened : w.Open session
  poisoned : failed → w.Poisoned session

section Statements

variable {ext : Externals} {caller : Caller} {session : Int} {w : World} {failed : Prop}

variable {before after : World} {addr : String} {id : TxID} {tc : TabletClient} {outcome : Outcome}
variable {sql : SqlText}

theorem World.Tainted.rely
    (tainted : before.Tainted session failed)
    (reached : (undisturbed session).rely before after) : after.Tainted session failed :=
  ⟨tainted.opened.rely reached, fun failure => (tainted.poisoned failure).rely reached⟩

theorem carefully_perform
    {op : GateOp}
    {next : op.Answer → GateM α}
    {post : α → World → Prop}
    (follows : ∀ (before : World) choice, (undisturbed session).rely w before →
      Careful ext session ⟨before, op, choice⟩ →
      Carefully ext caller session (next (before.act ext caller op choice).1) post
        (before.act ext caller op choice).2) :
    Carefully ext caller session (Prog.perform op next) post w := by
  refine Prog.wp_perform_when ?_
  intro before choice reached careful
  exact follows before choice reached careful.2

/-- One careful operation that changes no session. -/
theorem carefully_inert
    {op : GateOp}
    {next : op.Answer → GateM α}
    {post : α → World → Prop}
    (follows : ∀ (before : World) choice, (undisturbed session).rely w before →
      Careful ext session ⟨before, op, choice⟩ →
      (undisturbed session).rely w (before.act ext caller op choice).2 →
      Carefully ext caller session (next (before.act ext caller op choice).1) post
        (before.act ext caller op choice).2)
    (inert : op.Inert := by trivial) :
    Carefully ext caller session (Prog.perform op next) post w := by
  refine wp_inert ?_ inert
  intro before choice reached careful kept
  exact follows before choice reached careful.2 ((undisturbed session).rely_trans reached kept)

/-- Rolling back on a participant spoils it. -/
theorem carefully_rollbackShard
    (opened : w.Open session)
    (recorded : w.Recorded session addr id) :
    Carefully ext caller session (Coordinator.rollbackShard addr id)
      (fun _ later => later.Tainted session True) w := by
  refine carefully_inert ?_
  intro before choice reached careful _
  cases known : (before.act ext caller (.getClient addr) choice).1 with
  | none => exact absurd known careful
  | some tc =>
      obtain rfl : tc.target = addr := (opened.rely reached).own addr tc known
      refine carefully_inert ?_
      intro asked choice reachedAsked arrives kept
      have now := (undisturbed session).rely_trans reached reachedAsked
      have later := (undisturbed session).rely_trans reached kept
      have tainted : (asked.act ext caller (.rollback tc id) choice).2.Tainted session True :=
        ⟨opened.rely later, fun _ => ⟨tc.target, id, recorded.rely later,
          spoilt_of_rollback ext caller (opened.rely now) (recorded.rely now) arrives⟩⟩
      refine wp_undisturbed (fun _ _ reached tainted => tainted.rely reached) ?_ tainted
      cases (asked.act ext caller (.rollback tc id) choice).1 with
      | error failure => exact trivial
      | ok resp =>
          obtain ⟨rolledBack, reason⟩ := resp
          cases rolledBack with
          | true | false => exact trivial

/-- Rolling back on all participants spoils one of them, if there is one. -/
theorem carefully_rollbackAll
    (opened : w.Open session)
    (some : ∃ addr id, w.Recorded session addr id) :
    Carefully ext caller session (Coordinator.rollbackAll session)
      (fun _ later => later.Tainted session True) w := by
  refine carefully_inert ?_
  intro before choice reached _ now
  have listed : ∀ addr id,
      List.Mem (addr, id) (before.act ext caller (.participatingShardsMap session) choice).1 ↔
        w.Recorded session addr id := by
    intro addr id
    rw [World.Recorded, ← reached.2, ← Map.mem_visited choice.order]
    exact Iff.rfl
  apply Prog.wp_bind
  generalize (before.act ext caller (.participatingShardsMap session) choice).1 = shards
    at listed ⊢
  cases shards with
  | nil =>
      obtain ⟨addr, id, recorded⟩ := some
      cases (listed addr id).mpr recorded
  | cons shard rest =>
      have recorded := (listed shard.1 shard.2).mp List.mem_cons_self
      apply Prog.wp_seq (carefully_rollbackShard (opened.rely now) (recorded.rely now))
      intro complaint later tainted
      have keeps : ∀ before after : World, (undisturbed session).rely before after →
          before.Tainted session True → after.Tainted session True :=
        fun _ _ reached tainted => tainted.rely reached
      have others : (Coordinator.fanOut Coordinator.rollbackShard rest).Only GateOp.Inert := by
        apply Coordinator.only_fanOut
        intro addr id
        apply Coordinator.only_askShard (fun _ => trivial)
        intro tc id
        exact ⟨trivial, fun _ => trivial⟩
      apply Prog.wp_seq (wp_undisturbed keeps others tainted)
      intro complaints final still last reachedLast next reachedNext
      exact (still.rely reachedLast).rely reachedNext

theorem carefully_abort
    (opened : w.Open session)
    (some : ∃ addr id, w.Recorded session addr id)
    (message : String) :
    Carefully ext caller session (Coordinator.abort session message)
      (fun _ later => later.Tainted session True) w := by
  apply Prog.wp_seq (carefully_rollbackAll opened some)
  intro complaint later tainted final reached
  exact tainted.rely reached

/-! ### Beginning -/

/-- Recording a new participant keeps the session open, and poisoned. -/
theorem World.Tainted.record
    (ext : Externals)
    (caller : Caller)
    (choice : Choice)
    (tainted : w.Tainted session failed)
    (fresh : (w.sessions session).shardTxIDs.lookup addr = none)
    (known : id.id ≠ 0 ∧ id.epoch = (w.tablets addr).tx.epoch ∧
      ∃ tx, (w.tablets addr).tx.txns id = some tx) :
    (w.act ext caller (.setLocalTxID session addr id) choice).2.Tainted session failed ∧
      ∀ other held,
        (w.act ext caller (.setLocalTxID session addr id) choice).2.Recorded session other held ↔
          w.Recorded session other held ∨ other = addr ∧ held = id := by
  have recorded : ∀ other held,
      (w.act ext caller (.setLocalTxID session addr id) choice).2.Recorded session other held ↔
        w.Recorded session other held ∨ other = addr ∧ held = id := by
    intro other held
    rw [World.recorded_setLocalTxID_iff]
    by_cases same : other = addr
    · subst same
      simp [World.Recorded, fresh, eq_comm]
    · simp [same]
  refine ⟨⟨⟨tainted.opened.own, ?_, ?_⟩, ?_⟩, recorded⟩
  · simp only [World.act, World.updateSession, Function.update_self]
    exact tainted.opened.state
  · intro other held found
    rcases (recorded other held).mp found with old | ⟨rfl, rfl⟩
    · exact tainted.opened.known other held old
    · exact known
  · intro failure
    obtain ⟨other, held, old, spoilt⟩ := tainted.poisoned failure
    exact ⟨other, held, (recorded other held).mpr (Or.inl old), spoilt⟩

/-- A session is tainted, and tablets are recorded unless they remain to be begun
on. -/
structure Begun
    (session : Int)
    (failed : Prop)
    (tablets remaining : List TabletClient)
    (w : World) : Prop where
  tainted : w.Tainted session failed
  recorded : ∀ tc ∈ tablets, tc ∈ remaining ∨ ∃ id, w.Recorded session tc.target id

variable {tablets remaining : List TabletClient}

theorem Begun.rely
    (begun : Begun session failed tablets remaining before)
    (reached : (undisturbed session).rely before after) :
    Begun session failed tablets remaining after :=
  ⟨begun.tainted.rely reached, fun tc listed => (begun.recorded tc listed).imp_right
    fun ⟨id, recorded⟩ => ⟨id, recorded.rely reached⟩⟩

theorem Begun.step
    (begun : Begun session failed tablets (tc :: remaining) w)
    (recorded : w.Recorded session tc.target id) : Begun session failed tablets remaining w := by
  refine ⟨begun.tainted, ?_⟩
  intro other listed
  exact pending_or_done (begun.recorded other listed) (by rintro rfl; exact ⟨id, recorded⟩)

/-- A begin that is granted is answered. -/
theorem answered_of_granted
    {choice : Choice}
    {answer : Except String QueryResponse}
    (answered : choice.network = .answered)
    (granted : (choice.verdicts 0).failure = none)
    (stepped : w.act ext caller (.begin tc) choice = (answer, after)) :
    ∃ resp, answer = .ok resp := by
  rw [World.act_begin] at stepped
  simp only [World.callTablet, answered] at stepped
  obtain ⟨rfl, _⟩ := Prod.mk.inj stepped
  have dispatched : (w.tablets tc.target).executeStatement caller (choice.verdicts 0) TxID.zero
      ⟨.beginTransaction, "BEGIN"⟩ =
        (w.tablets tc.target).afterTx ((w.tablets tc.target).tx.begin caller (choice.verdicts 0))
          fun id => ({ sql := "BEGIN" }, id) := rfl
  simp only [TabletHandler.execute, Executor.executeSQL, beginText, Executor.executeStatements,
    dispatched, Executor.afterTx, TxManager.begin, granted]
  exact ⟨_, rfl⟩

/-- Beginning taints the session when it fails. -/
theorem carefully_beginOnAll (begun : Begun session failed tablets remaining w) :
    Carefully ext caller session (Coordinator.beginOnAll session remaining)
      (fun complaint later =>
        match complaint with
        | some _ => later.Tainted session True
        | none => Begun session failed tablets [] later) w := by
  induction remaining generalizing w with
  | nil => exact fun later reached => begun.rely reached
  | cons tc remaining ih =>
      refine carefully_inert ?_
      intro before choice reached _ _
      have now := begun.rely reached
      cases found : (before.act ext caller (.isParticipating session tc.target) choice).1 with
      | true =>
          obtain ⟨id, recorded⟩ := Option.isSome_iff_exists.mp found
          exact ih (now.step recorded)
      | false =>
          refine carefully_inert ?_
          intro asked choice reachedAsked careful kept
          have still := now.rely kept
          have begins : GateOp.Inert (.begin tc) := trivial
          have same := World.sessions_act ext caller (.begin tc) choice asked
            (untouched_of_inert begins asked session)
          cases answered : (asked.act ext caller (.begin tc) choice).1 with
          | error failure =>
              have recorded : ∃ addr id,
                  (asked.act ext caller (.begin tc) choice).2.Recorded session addr id := by
                rcases careful with ⟨reached, granted⟩ | some
                · obtain ⟨resp, succeeded⟩ :=
                    answered_of_granted reached granted (Prod.ext answered rfl)
                  cases succeeded
                · obtain ⟨entry, rest, listed⟩ := List.exists_cons_of_ne_nil some
                  refine ⟨entry.1, entry.2, ?_⟩
                  rw [World.Recorded, same]
                  refine AList.mem_lookup_iff.mpr ?_
                  rw [listed]
                  exact List.mem_cons_self
              apply Prog.wp_seq (carefully_rollbackAll still.tainted.opened recorded)
              intro complaint later tainted final reachedFinal
              exact tainted.rely reachedFinal
          | ok resp =>
              obtain ⟨active, nonzero, epoch⟩ := World.begun_of_act (Prod.ext answered rfl)
              have epochs := (World.evolves_act ext caller (.begin tc) choice asked).epochs
              apply carefully_perform
              intro later choice reachedLater _
              have known := reachedLater.1.known
                ⟨nonzero, by rw [epochs]; exact epoch, _, active⟩
              have fresh : (later.sessions session).shardTxIDs.lookup tc.target = none := by
                rw [reachedLater.2, kept.2]
                exact Option.isNone_iff_eq_none.mp (Option.isSome_eq_false_iff.mp found)
              have waiting := still.rely reachedLater
              obtain ⟨tainted, recorded⟩ := waiting.tainted.record ext caller choice fresh known
              have all : Begun session failed tablets (tc :: remaining) _ :=
                ⟨tainted, fun other listed => (waiting.recorded other listed).imp_right
                  (Exists.imp fun id old => (recorded other.target id).mpr (Or.inl old))⟩
              exact ih
                (all.step ((recorded tc.target resp.transactionId).mpr (Or.inr ⟨rfl, rfl⟩)))

/-! ### Executing -/

/-- What an outcome says about the session, unless the gate has crashed. -/
def Judged (session : Int) (failed : Prop) (outcome : Outcome) (w : World) : Prop :=
  outcome ≠ .error .crash → w.Tainted session (failed ∨ ∃ failure, outcome = .error failure)

theorem judged_of_success
    {resp : QueryResponse}
    (tainted : w.Tainted session failed) :
    Judged session failed (.ok resp) w := by
  intro _
  refine ⟨tainted.opened, ?_⟩
  rintro (earlier | ⟨failure, same⟩)
  · exact tainted.poisoned earlier
  · cases same

theorem judged_of_poisoned (tainted : w.Tainted session True) : Judged session failed outcome w :=
  fun _ => ⟨tainted.opened, fun _ => tainted.poisoned trivial⟩

theorem carefully_failed (tainted : w.Tainted session True) :
    Carefully ext caller session (Prog.pure outcome) (Judged session failed) w :=
  fun _ reached => judged_of_poisoned (tainted.rely reached)

theorem carefully_aborted
    (opened : w.Open session)
    (some : ∃ addr id, w.Recorded session addr id)
    (message : String) :
    Carefully ext caller session (Coordinator.abort session message) (Judged session failed) w :=
  Prog.wp_mono (carefully_abort opened some message) fun _ _ tainted => judged_of_poisoned tainted

/-- A statement that fails taints the session. -/
theorem carefully_executeSingle
    (tainted : w.Tainted session failed)
    (recorded : w.Recorded session tc.target id) :
    Carefully ext caller session (Coordinator.executeSingle session sql tc)
      (Judged session failed) w := by
  refine carefully_inert ?_
  intro before choice reached _ _
  have here : (before.act ext caller (.getLocalTxID session tc.target) choice).1 = some id :=
    recorded.rely reached
  rw [here]
  refine carefully_inert ?_
  intro sent choice reachedSent careful kept
  have now := (undisturbed session).rely_trans reached reachedSent
  have later := (undisturbed session).rely_trans reached kept
  obtain ⟨answered, takes⟩ := careful
  obtain ⟨stmt, rfl, plain, accepts⟩ : ∃ stmt, sql = .ok [stmt] ∧
      Parser.isTxControl stmt = false ∧ (sent.tablets tc.target).Accepts stmt := by
    simp only [Executor.Takes] at takes
    split at takes
    · rename_i stmt
      exact ⟨stmt, rfl, takes⟩
    · exact False.elim takes
  cases replied :
      (sent.act ext caller (.execute tc (.ok [stmt]) ((some id).getD .zero)) choice).1 with
  | error failure =>
      exact carefully_failed ⟨tainted.opened.rely later, fun _ => ⟨tc.target, id,
        recorded.rely later, spoilt_of_execute (tainted.opened.rely now) (recorded.rely now)
          answered plain accepts (Prod.ext replied rfl)⟩⟩
  | ok resp =>
      intro final reachedFinal
      exact judged_of_success ((tainted.rely later).rely reachedFinal)

theorem carefully_executeScatter
    (tainted : w.Tainted session failed)
    (some : ∃ addr id, w.Recorded session addr id) :
    Carefully ext caller session (Coordinator.executeScatter ext session sql tablets)
      (Judged session failed) w := by
  have keeps : ∀ before after : World, (undisturbed session).rely before after →
      before.Tainted session failed ∧ (∃ addr id, before.Recorded session addr id) →
      after.Tainted session failed ∧ ∃ addr id, after.Recorded session addr id :=
    fun _ _ reached ⟨tainted, addr, id, recorded⟩ =>
      ⟨tainted.rely reached, addr, id, recorded.rely reached⟩
  apply Prog.wp_seq (wp_undisturbed keeps
    (Coordinator.only_scatterLoop ⟨fun _ => trivial, fun _ _ => trivial⟩ tablets)
    ⟨tainted, some⟩)
  rintro ⟨complaint, results⟩ later ⟨taintedLater, someLater⟩
  have succeeds : ∀ resp, Carefully ext caller session (Prog.pure (.ok resp))
      (Judged session failed) later :=
    fun _ _ reached => judged_of_success (taintedLater.rely reached)
  cases complaint with
  | some failure => exact carefully_aborted taintedLater.opened someLater failure
  | none =>
      simp only
      split
      · split
        · exact carefully_aborted taintedLater.opened someLater _
        · exact fun _ _ survived => absurd rfl survived
        · exact succeeds _
      · exact succeeds _

/-- A statement that fails has spoilt a participant. -/
theorem carefully_execute
    (sql : SqlText)
    (tainted : w.Tainted session failed) :
    Carefully ext caller session (Coordinator.execute ext session sql)
      (Judged session failed) w := by
  refine carefully_inert ?_
  intro before choice reached _ _
  have now := tainted.rely reached
  rw [if_neg fun closed => closed now.opened.state]
  refine carefully_inert ?_
  intro asked choice _ careful kept
  have picked : (asked.act ext caller (.route sql true) choice).1.tablets ≠ [] := careful
  have routed := now.rely kept
  generalize asked.act ext caller (.route sql true) choice = routing at picked routed
  obtain ⟨result, after⟩ := routing
  rw [if_neg fun none => picked none.1]
  have begun : Begun session failed result.tablets result.tablets after :=
    ⟨routed, fun _ listed => Or.inl listed⟩
  apply Prog.wp_seq (carefully_beginOnAll begun)
  intro complaint later done
  cases complaint with
  | some failure => exact carefully_failed done
  | none =>
      have recorded : ∀ tc ∈ result.tablets, ∃ id, later.Recorded session tc.target id := by
        intro tc listed
        rcases done.recorded tc listed with pending | done
        · cases pending
        · exact done
      have some : ∃ addr id, later.Recorded session addr id := by
        obtain ⟨tc, rest, listed⟩ := List.exists_cons_of_ne_nil picked
        obtain ⟨id, held⟩ := recorded tc (by rw [listed]; exact List.mem_cons_self)
        exact ⟨tc.target, id, held⟩
      simp only
      split
      · rename_i tc one _
        obtain ⟨id, held⟩ := recorded tc (by rw [one]; exact List.mem_cons_self)
        exact carefully_executeSingle done.tainted held
      · exact carefully_executeScatter done.tainted some

end Statements

/-! ### The commit -/

section Commit

variable {ext : Externals} {caller : Caller} {session : Int} {w : World}

theorem harmless_undisturbed
    {steps : (op : GateOp) → World → op.Answer → World → Prop}
    (program : GateM α) : Harmless (undisturbed session) steps program := by
  intro w
  induction program generalizing w with
  | pure value => exact fun _ _ => trivial
  | perform op next ih =>
      exact fun _ _ answer after _ => ⟨trivial, ih answer after⟩

variable {after : World}

/-- A spoilt participant does not confirm its commit. -/
theorem unconfirmed_of_spoilt
    {tc : TabletClient}
    {id : TxID}
    {choice : Choice}
    {resp : CommitResponse}
    (opened : w.Open session)
    (recorded : w.Recorded session tc.target id)
    (spoilt : w.Spoilt tc.target id)
    (refuses : RefusesAborted ⟨w, .commit tc id, choice⟩)
    (stepped : w.act ext caller (.commit tc id) choice = (.ok resp, after)) :
    resp.committed = false := by
  have nonzero := (opened.known tc.target id recorded).1
  have resolved := opened.resolve recorded
  rw [World.act_commit] at stepped
  obtain ⟨answered, _⟩ := World.answered_of_callTablet stepped
  have reply := TabletHandler.commit_reply choice.verdicts id (w.tablets tc.target)
  generalize TabletHandler.commit choice.verdicts id (w.tablets tc.target) = ended
    at reply answered
  cases reply with
  | ignored zero => exact absurd zero nonzero
  | unknown _ missing =>
      injection answered with same
      rw [← same]
      rfl
  | ended _ tx active =>
      injection answered with same
      rw [← same]
      obtain ⟨found, status⟩ := TxManager.get_eq_some_iff.mp active
      rw [resolved] at found
      rcases spoilt with ⟨past, foundOver, ended⟩ | aborted
      · rw [found] at foundOver
        injection foundOver with same
        exact absurd (same ▸ status) ended
      · have failed : (choice.verdicts 0).failure ≠ none :=
          refuses (by rw [resolved]; exact aborted)
        simpa [Option.isSome_iff_ne_none] using failed

/-- A spoilt participant is among those that remain to be asked. -/
def Remains (session : Int) (shards : List (String × TxID)) (w : World) : Prop :=
  w.Open session ∧
    ∃ addr id, (addr, id) ∈ shards ∧ w.Recorded session addr id ∧ w.Spoilt addr id

theorem Remains.rely
    {shards : List (String × TxID)}
    {before : World}
    (remains : Remains session shards before)
    (reached : (undisturbed session).rely before after) :
    Remains session shards after := by
  obtain ⟨opened, addr, id, listed, recorded, spoilt⟩ := remains
  exact ⟨opened.rely reached, addr, id, listed, recorded.rely reached, spoilt.proceeds reached.1⟩

/-- A spoilt participant does not confirm. -/
theorem remains_commitOn
    (shard : String × TxID)
    (rest : List (String × TxID))
    (remains : Remains session (shard :: rest) w) :
    (Coordinator.commitOn shard.1 shard.2).wp (undisturbed session)
      ((World.machine ext).StepsWhen RefusesAborted caller)
      (fun answer later => Coordinator.confirmed answer = true → Remains session rest later) w := by
  obtain ⟨place, held⟩ := shard
  refine wp_inert ?_
  intro before choice reached _ _
  have now := remains.rely reached
  cases known : (before.act ext caller (.getClient place) choice).1 with
  | none => exact fun _ _ unconfirmed => nomatch unconfirmed
  | some tc =>
      obtain rfl : tc.target = place := now.1.own place tc known
      refine wp_inert ?_
      intro asked choice reachedAsked refuses kept final reachedFinal confirmed
      refine ((?_ : Remains session rest asked).rely kept).rely reachedFinal
      obtain ⟨opened, addr, id, listed, recorded, spoilt⟩ := now.rely reachedAsked
      refine ⟨opened, addr, id, ?_, recorded, spoilt⟩
      rcases List.mem_cons.mp listed with same | later
      · cases same
        cases answered : (asked.act ext caller (.commit tc held) choice).1 with
        | error failure =>
            rw [answered] at confirmed
            cases confirmed
        | ok resp =>
            have refused := unconfirmed_of_spoilt opened recorded spoilt refuses
              (Prod.ext answered rfl)
            rw [answered, Coordinator.confirmed, refused] at confirmed
            cases confirmed
      · exact later

theorem committing_remains :
    Coordinator.Committing (undisturbed session)
      ((World.machine ext).StepsWhen RefusesAborted caller) session (Remains session) where
  stable := fun _ _ _ reached remains => remains.rely reached
  harmless := fun _ _ => harmless_undisturbed _
  aborts := harmless_undisturbed _
  asks := fun shard rest _ remains => remains_commitOn shard rest remains

theorem not_remains_nil : ¬ Remains session [] w :=
  fun ⟨_, _, _, listed, _⟩ => nomatch listed

theorem remains_of_visited
    (order : RangeOrder)
    (opened : w.Open session)
    (poisoned : w.Poisoned session) :
    Remains session ((order.visit (w.sessions session).shardTxIDs.entries).map
      fun entry => (entry.1, entry.2)) w := by
  obtain ⟨addr, id, recorded, spoilt⟩ := poisoned
  exact ⟨opened, addr, id, (Map.mem_visited order _ addr id).mpr recorded, recorded, spoilt⟩

theorem wp_commitInPhases_poisoned
    (opened : w.Open session)
    (poisoned : w.Poisoned session) :
    (Coordinator.commitInPhases session).wp (undisturbed session)
      ((World.machine ext).StepsWhen RefusesAborted caller) (OnSuccess fun _ => False) w := by
  have keeps : ∀ before after : World, (undisturbed session).rely before after →
      before.Open session ∧ before.Poisoned session →
      after.Open session ∧ after.Poisoned session :=
    fun _ _ reached ⟨opened, poisoned⟩ => ⟨opened.rely reached, poisoned.rely reached⟩
  have prepares : (Coordinator.prepareAll session).Only GateOp.Inert :=
    Coordinator.only_prepareAll trivial (fun _ => trivial) fun _ _ => trivial
  apply Prog.wp_seq (wp_undisturbed keeps prepares ⟨opened, poisoned⟩)
  rintro unprepared later ⟨openedLater, poisonedLater⟩
  cases unprepared with
  | some failure => exact Coordinator.wp_abort (harmless_undisturbed _) failure later
  | none =>
      apply Prog.wp_bind
      refine wp_inert ?_
      intro before choice reached _ kept
      have start := (remains_of_visited choice.order (openedLater.rely reached)
        (poisonedLater.rely reached)).rely kept
      apply Prog.wp_seq (Coordinator.wp_commitShards committing_remains start)
      intro complaint final satisfied last reachedLast
      cases complaint with
      | some reason => exact wp_failure _ last
      | none => exact absurd (satisfied rfl) not_remains_nil

/-- A commit of a poisoned session does not succeed. -/
theorem wp_commit_poisoned
    (opened : w.Open session)
    (poisoned : w.Poisoned session) :
    (Coordinator.commit session).wp (undisturbed session)
      ((World.machine ext).StepsWhen RefusesAborted caller) (OnSuccess fun _ => False) w := by
  refine wp_inert ?_
  intro before choice reached _ _
  have active : (before.sessions session).state = .inTransaction := (opened.rely reached).state
  rw [if_neg fun closed => closed active]
  refine wp_inert ?_
  intro asked choice reachedAsked _ kept
  have openedNow := ((opened.rely reached).rely reachedAsked).rely kept
  have poisonedNow := ((poisoned.rely reached).rely reachedAsked).rely kept
  have some : (asked.act ext caller (.shardCount session) choice).1 ≠ 0 := by
    obtain ⟨addr, id, recorded, _⟩ := (poisoned.rely reached).rely reachedAsked
    intro none
    exact List.ne_nil_of_mem (AList.mem_lookup_iff.mp recorded) (List.length_eq_zero_iff.mp none)
  rw [if_neg some]
  split
  · refine wp_inert ?_
    intro listing choice reachedListing _ keptListing
    have start := (remains_of_visited choice.order (openedNow.rely reachedListing)
      (poisonedNow.rely reachedListing)).rely keptListing
    exact Coordinator.wp_commitEach committing_remains
      (fun _ nothing => absurd nothing not_remains_nil) start
  · exact wp_commitInPhases_poisoned openedNow poisonedNow

end Commit

/-! ### Whole transactions -/

/-- Careful statements leave the session poisoned once one of them has failed. -/
theorem tainted_of_statements (statements : Statements ext session (Calmly ext session)
      (fun step => RefusesAborted step ∧ Careful ext session step) w outcomes) :
    w.Tainted session (∃ failure, .error failure ∈ outcomes) := by
  induction statements with
  | begun own opened =>
      refine ⟨⟨own, by rw [opened], ?_⟩, fun ⟨_, listed⟩ => nomatch listed⟩
      intro addr id recorded
      rw [World.Recorded, opened] at recorded
      cases recorded
  | others _ change ih =>
      exact ih.rely (undisturbed_of_calmly change)
  | execute caller sql _ returns survived ih =>
      have judged := returns.post (fun _ _ calmly => undisturbed_of_calmly calmly)
        (carefully_execute sql ih) survived
      refine ⟨judged.opened, ?_⟩
      rintro ⟨failure, listed⟩
      rcases List.mem_cons.mp listed with same | earlier
      · exact judged.poisoned (Or.inr ⟨failure, same.symm⟩)
      · exact judged.poisoned (Or.inl ⟨failure, earlier⟩)

/-- Failed statements poison the transaction in every run by careful steps during
which no tablet restarts. -/
theorem failures_poison_when_careful
    (ext : Externals)
    (session : Int) :
    FailuresPoison ext session (Calmly ext session) (Careful ext session) := by
  intro w outcomes caller outcome later statements failed returns resp succeeded
  have tainted := tainted_of_statements statements
  exact returns.post (fun _ _ calmly => undisturbed_of_calmly calmly)
    (wp_commit_poisoned tainted.opened (tainted.poisoned failed)) resp succeeded

/-! ### A session of two shards -/

/-- A session has begun. -/
def begunWorld : World :=
  (Coordinator.begin.run (World.machine integralExternals) ⟨0, none⟩ (Strategy.constant {})
    twoShardWorld).2

/-- The operation commits on a tablet. -/
def GateOp.isCommit : GateOp → Bool
  | .commit _ _ => true
  | _ => false

theorem refusesAborted_of_refused
    {step : Step gate World Choice}
    (refused : step.op.isCommit = false ∨ (step.choice.verdicts 0).failure ≠ none) :
    RefusesAborted step := by
  obtain ⟨before, op, choice⟩ := step
  cases op with
  | commit tc txID =>
      rcases refused with other | refused
      · cases other
      · exact fun _ => refused
  | _ => exact trivial

/-- The tablets have no connection left for a transaction. -/
def noConnections : Strategy gate World Choice Move where
  moves := fun _ _ => []
  choice := fun _ op =>
    match op with
    | .begin _ => { verdicts := fun _ => { failure := some "too many clients already" } }
    | _ => {}

/-- A statement is executed alone. -/
theorem Statements.alone
    {others : World → World → Prop}
    (earlier : Statements ext session others allowed w outcomes)
    (caller : Caller)
    {strategy : Strategy gate World Choice Move}
    (quiet : strategy.Quiet)
    (sql : SqlText)
    (all : ∀ step ∈ (Coordinator.execute ext session sql).steps (World.machine ext) caller
      strategy w, allowed step)
    (survived : ((Coordinator.execute ext session sql).run (World.machine ext) caller
      strategy w).1 ≠ .error .crash) :
    Statements ext session others allowed
      ((Coordinator.execute ext session sql).run (World.machine ext) caller strategy w).2
      (((Coordinator.execute ext session sql).run (World.machine ext) caller strategy w).1 ::
        outcomes) :=
  .execute caller sql earlier (.of_run quiet all) survived

theorem begunWorld_begun
    (others : World → World → Prop)
    (allowed : Step gate World Choice → Prop) :
    Statements integralExternals 1 others allowed begunWorld [] :=
  .begun (targetsOwn_of_entries (by decide)) rfl

/-- The world after a statement for which no transaction could be begun. -/
def refusedWorld : World :=
  ((Coordinator.execute integralExternals 1 (.ok [Router.insertUser "1"])).run
    (World.machine integralExternals) ⟨1, some 1⟩ noConnections begunWorld).2

/-- The first begin of a session fails, and its commit succeeds. -/
theorem refused_begin_commits :
    ¬ FailuresPoison integralExternals 1 (Elsewhere integralExternals 1) fun _ => True := by
  intro poison
  have failed : ((Coordinator.execute integralExternals 1 (.ok [Router.insertUser "1"])).run
      (World.machine integralExternals) ⟨1, some 1⟩ noConnections begunWorld).1 =
        .error (.error ("coordinator: failed to begin on shard a:1: " ++
          rpcError "too many clients already")) := by decide
  have committed : ((Coordinator.commit 1).run (World.machine integralExternals) ⟨2, some 1⟩
      (Strategy.constant {}) refusedWorld).1 = .ok (Coordinator.acknowledge "COMMIT") := by decide
  have plain : ∀ step ∈ (Coordinator.execute integralExternals 1 (.ok [Router.insertUser "1"])
      ).steps (World.machine integralExternals) ⟨1, some 1⟩ noConnections begunWorld,
      step.op.isCommit = false := by decide
  have silent : ∀ step ∈ (Coordinator.commit 1).steps (World.machine integralExternals)
      ⟨2, some 1⟩ (Strategy.constant {}) refusedWorld, step.op.isCommit = false := by decide
  have statements := (begunWorld_begun (Elsewhere integralExternals 1)
    (fun step => RefusesAborted step ∧ True)).alone ⟨1, some 1⟩ (fun _ _ => rfl)
      (.ok [Router.insertUser "1"])
      (fun step present => ⟨refusesAborted_of_refused (Or.inl (plain step present)), trivial⟩)
      (by rw [failed]; exact nofun)
  have returns : CommitReturns integralExternals ⟨2, some 1⟩ 1 (Elsewhere integralExternals 1)
      refusedWorld _ _ :=
    .of_run (Strategy.constant_quiet {}) fun step present =>
      refusesAborted_of_refused (Or.inl (silent step present))
  exact poison _ _ ⟨2, some 1⟩ _ _ statements ⟨_, by rw [failed]; exact List.mem_cons_self⟩
    returns _ committed

/-- The database fails a statement, and then refuses to commit. -/
def deadlocked : Strategy gate World Choice Move where
  moves := fun _ _ => []
  choice := fun _ op =>
    match op with
    | .execute _ _ _ => { verdicts := fun _ => { failure := some "deadlock detected" } }
    | .commit _ _ =>
        { verdicts := fun _ => { failure := some "commit unexpectedly resulted in rollback" } }
    | _ => {}

/-- The world after a statement that has failed in the database. -/
def deadlockedWorld : World :=
  ((Coordinator.execute integralExternals 1 (.ok [Router.insertUser "1"])).run
    (World.machine integralExternals) ⟨1, some 1⟩ deadlocked begunWorld).2

/-- An INSERT that fails with a deadlock. -/
theorem deadlocked_insert_poisons :
    ∃ failure outcome later,
      Statements integralExternals 1 (Calmly integralExternals 1)
          (fun step => RefusesAborted step ∧ Careful integralExternals 1 step) deadlockedWorld
          [.error failure] ∧
        CommitReturns integralExternals ⟨2, some 1⟩ 1 (Calmly integralExternals 1)
          deadlockedWorld outcome later ∧
        ∀ resp, outcome ≠ .ok resp := by
  have failed : ((Coordinator.execute integralExternals 1 (.ok [Router.insertUser "1"])).run
      (World.machine integralExternals) ⟨1, some 1⟩ deadlocked begunWorld).1 =
        .error (.error (rpcError "deadlock detected")) := by decide
  have careful : ∀ step ∈ (Coordinator.execute integralExternals 1 (.ok [Router.insertUser "1"])
      ).steps (World.machine integralExternals) ⟨1, some 1⟩ deadlocked begunWorld,
      step.op.isCommit = false ∧ Careful integralExternals 1 step := by decide
  have refused : ∀ step ∈ (Coordinator.commit 1).steps (World.machine integralExternals)
      ⟨2, some 1⟩ deadlocked deadlockedWorld,
      step.op.isCommit = false ∨ (step.choice.verdicts 0).failure ≠ none := by decide
  have statements := (begunWorld_begun (Calmly integralExternals 1)
    (fun step => RefusesAborted step ∧ Careful integralExternals 1 step)).alone ⟨1, some 1⟩
      (fun _ _ => rfl) (.ok [Router.insertUser "1"])
      (fun step present => ⟨refusesAborted_of_refused (Or.inl (careful step present).1),
        (careful step present).2⟩)
      (by rw [failed]; exact nofun)
  rw [failed] at statements
  have returns : CommitReturns integralExternals ⟨2, some 1⟩ 1 (Calmly integralExternals 1)
      deadlockedWorld _ _ :=
    .of_run (fun _ _ => rfl) fun step present => refusesAborted_of_refused (refused step present)
  exact ⟨_, _, _, statements, returns, failures_poison_when_careful integralExternals 1 _ _ _ _ _
    statements ⟨_, List.mem_cons_self⟩ returns⟩

end VScale
