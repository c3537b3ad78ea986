import VScale.Gate.Custody

/-!
# Requests keep the record of what they open

Whatever a request opens is recorded in its session before the request goes on,
and a session forgets its participants only after all of them are over.  So
everything a call has open is entrusted to the session it acts for, and a session
whose transaction was ended holds nothing that is open.
-/

namespace VScale

open Aggregate Collections Effects

/-- Careful steps of a caller in worlds that are in order, with every call answered. -/
def StepsInOrder
    (ext : Externals)
    (caller : Caller)
    (op : GateOp)
    (before : World)
    (answer : op.Answer)
    (after : World) : Prop :=
  before.InOrder ∧ before.Careful op ∧
    ∃ choice : Choice, choice.network = .answered ∧
      before.act ext caller op choice = (answer, after)

/-- The program of a call that acts for a session. -/
abbrev Entrusted
    (ext : Externals)
    (caller : Caller)
    (session : Int)
    (program : GateM α)
    (post : α → World → Prop)
    (w : World) : Prop :=
  program.wp (custody session caller.call) (StepsInOrder ext caller) post w

section Programs

variable {ext : Externals} {caller : Caller} {session : Int} {w : World}

variable {post : α → World → Prop} {program : GateM α} {next : Unit → GateM α}

/-- One operation that honours the sessions when it happens. -/
theorem entrusted_perform
    {op : GateOp}
    {next : op.Answer → GateM α}
    (follows : ∀ (before : World) choice answer after, (custody session caller.call).rely w before →
      before.InOrder → before.Careful op → choice.network = .answered →
      before.act ext caller op choice = (answer, after) →
      World.Honours session caller.call before after ∧
        Entrusted ext caller session (next answer) post after) :
    Entrusted ext caller session (Prog.perform op next) post w := by
  rintro before reached answer after ⟨inOrder, careful, choice, answered, stepped⟩
  exact follows before choice answer after reached inOrder careful answered stepped

/-- One steady operation. -/
theorem entrusted_read
    {op : GateOp}
    {next : op.Answer → GateM α}
    (follows : ∀ (before : World) (choice : Choice) after,
      (custody session caller.call).rely w before → before.InOrder → before.Careful op →
      choice.network = .answered → after = (before.act ext caller op choice).2 →
      (custody session caller.call).rely w after →
      Entrusted ext caller session (next (before.act ext caller op choice).1) post after)
    (steady : op.Steady := by trivial) :
    Entrusted ext caller session (Prog.perform op next) post w := by
  apply entrusted_perform
  intro before choice answer after reached inOrder careful answered stepped
  obtain ⟨rfl, rfl⟩ := Prod.mk.inj stepped
  have relied : (custody session caller.call).rely before (before.act ext caller op choice).2 :=
    World.rely_of_steady steady careful answered
  exact ⟨.inert inOrder (GateOp.inert_of_steady steady) careful answered,
    follows before choice _ reached inOrder careful answered rfl
      ((custody session caller.call).rely_trans reached relied)⟩

/-- A program of steady operations does no more than others may do. -/
theorem entrusted_steady
    (only : program.Only GateOp.Steady)
    (w : World) :
    Entrusted ext caller session program
      (fun _ later => (custody session caller.call).rely w later) w := by
  refine Prog.wp_of_only ?_ ?_ only ((custody session caller.call).rely_refl w)
  · exact fun _ _ relied reached => (custody session caller.call).rely_trans reached relied
  · rintro op before answer after steady ⟨inOrder, careful, choice, answered, stepped⟩ reached
    obtain ⟨rfl, rfl⟩ := Prod.mk.inj stepped
    exact ⟨.inert inOrder (GateOp.inert_of_steady steady) careful answered,
      (custody session caller.call).rely_trans reached
        (World.rely_of_steady steady careful answered)⟩

/-- What others cannot change, steady programs do not change either. -/
theorem entrusted_keeps
    {good : World → Prop}
    (only : program.Only GateOp.Steady)
    (stable : ∀ before after, (custody session caller.call).rely before after →
      good before → good after)
    (holds : good w) :
    Entrusted ext caller session program (fun _ later => good later) w :=
  Prog.wp_mono (entrusted_steady only w) fun _ later reached => stable w later reached holds

variable {addr : String} {id : TxID} {op : TabletClient → TxID → GateOp} {before after : World}
variable {shards rest : List (String × TxID)} {tc : TabletClient} {state : SessionState}
variable {resp : QueryResponse} {choice : Choice}

/-- The client of a participant is found. -/
theorem entrusted_getClient
    {next : Option TabletClient → GateM α}
    (follows : ∀ tc later, tc.target = addr → (custody session caller.call).rely w later →
      Entrusted ext caller session (next (some tc)) post later) :
    Entrusted ext caller session (Prog.perform (.getClient addr) next) post w := by
  refine entrusted_read ?_
  intro before choice after _ inOrder found _ _ reachedAfter
  change Entrusted ext caller session (next (before.router.getClient addr)) post after
  cases known : before.router.getClient addr with
  | none => exact absurd known found
  | some tc => exact follows tc after (inOrder.own addr tc known) reachedAfter

/-! ### Ending participants -/

/-- Operations that end a transaction. -/
def Finishes (op : TabletClient → TxID → GateOp) : Prop :=
  (∀ tc id, (op tc id).Steady) ∧ ∀ ext caller choice (w : World) tc id,
    choice.network = .answered → (w.tablets tc.target).tx.txns id ≠ none →
    (w.OpenAt tc.target id → id.epoch = (w.tablets tc.target).tx.epoch) →
    (w.act ext caller (op tc id) choice).2.EndedAt tc.target id

theorem endedAt_of_endReply
    (owner : Caller)
    {e : Executor}
    {tx : LocalTx}
    {verdict : Verdict}
    {outcome : TxStatus}
    {accept : Option String → β}
    {reply : Reply Executor β}
    (ended : TabletHandler.EndReply e id verdict outcome accept reply)
    (past : outcome ≠ .active)
    (known : e.tx.txns id = some tx)
    (current : tx.status = .active → id.epoch = e.tx.epoch) :
    ∃ last, reply.state.tx.txns id = some last ∧ last.status ≠ .active := by
  by_cases active : tx.status = .active
  · have same : e.tx.resolve id = id := by
      rw [TxManager.resolve, ← current active]
    have found : e.tx.get id = some tx :=
      TxManager.get_eq_some_iff.mpr ⟨by rw [same]; exact known, active⟩
    cases ended with
    | ignored zero => exact absurd zero (TxManager.number_ne_zero known)
    | unknown nonzero missing =>
        rw [found] at missing
        cases missing
    | ended nonzero other running =>
        refine ⟨{ tx with status := outcome }, ?_, past⟩
        simp only [TxManager.finish, same, Function.update_self, known, Option.map_some]
  · have later : TxManager.Later e.tx reply.state.tx :=
      (TabletHandler.confined_endReply ended : e.Confined owner _ _ _).kept
    obtain ⟨last, still, _, kept⟩ := later.kept id tx known
    rw [kept active] at still
    exact ⟨tx, still, active⟩

theorem finishes_of_reply
    (steady : ∀ tc id, (op tc id).Steady)
    (replies : ∀ ext caller choice (w : World) tc id, choice.network = .answered →
      ∃ (β : Type) (reply : Reply Executor β) (verdict : Verdict) (outcome : TxStatus)
        (accept : Option String → β), outcome ≠ .active ∧
        TabletHandler.EndReply (w.tablets tc.target) id verdict outcome accept reply ∧
        (w.act ext caller (op tc id) choice).2.tablets tc.target = reply.state) :
    Finishes op := by
  refine ⟨steady, ?_⟩
  intro ext caller choice w tc id answered known current
  obtain ⟨tx, found⟩ := Option.ne_none_iff_exists'.mp known
  obtain ⟨_, reply, verdict, outcome, accept, past, ended, same⟩ :=
    replies ext caller choice w tc id answered
  rw [World.EndedAt, same]
  exact endedAt_of_endReply caller ended past found fun active => current ⟨tx, found, active⟩

theorem finishes_rollback : Finishes .rollback := by
  have steady : ∀ tc id, GateOp.Steady (.rollback tc id) := fun _ _ => trivial
  apply finishes_of_reply steady
  intro ext caller choice w tc id answered
  refine ⟨_, _, _, .rolledBack, _, nofun, TabletHandler.rollback_reply choice.verdicts id _, ?_⟩
  rw [World.act_rollback]
  simp only [World.callTablet, answered, World.absorb, Function.update_self]

theorem finishes_commit : Finishes .commit := by
  have steady : ∀ tc id, GateOp.Steady (.commit tc id) := fun _ _ => trivial
  apply finishes_of_reply steady
  intro ext caller choice w tc id answered
  refine ⟨_, _, _, _, _, ?_, TabletHandler.commit_reply choice.verdicts id _, ?_⟩
  · unfold TxManager.commitOutcome
    split
    · rintro ⟨⟩
    · rintro ⟨⟩
  · rw [World.act_commit]
    simp only [World.callTablet, answered, World.absorb, Function.update_self]

/-- Some participants of a session may still be open. -/
structure Ending (session : Int) (shards : List (String × TxID)) (w : World) : Prop where
  present : w.present session = true
  covered : ∀ addr id, w.Recorded session addr id → w.EndedAt addr id ∨ (addr, id) ∈ shards

theorem Ending.rely
    (ending : Ending session shards before)
    (reached : (custody session caller.call).rely before after) : Ending session shards after where
  present := (reached.2.1 ending.present).present
  covered := fun addr id recorded =>
    (ending.covered addr id ((custody_recorded reached ending.present).mp recorded)).imp_left
      reached.1.endedAt

theorem Ending.closed (ending : Ending session [] w) : w.Closed session :=
  ⟨ending.present, fun addr id recorded =>
    (ending.covered addr id recorded).resolve_right List.not_mem_nil⟩

/-- A request that ends transactions takes its participant off the list. -/
theorem entrusted_finish
    (finishes : Finishes op)
    {next : (op tc id).Answer → GateM α}
    (ending : Ending session ((tc.target, id) :: rest) w)
    (follows : ∀ answer later, Ending session rest later →
      (custody session caller.call).rely w later →
      Entrusted ext caller session (next answer) post later) :
    Entrusted ext caller session (Prog.perform (op tc id) next) post w := by
  refine entrusted_read ?_ (finishes.1 tc id)
  intro before choice after reached inOrder careful answered same reachedAfter
  refine follows _ after ?_ reachedAfter
  have step : (custody session caller.call).rely before after := by
    rw [same]
    exact World.rely_of_steady (finishes.1 tc id) careful answered
  have waiting := ending.rely reached
  refine ⟨(step.2.1 waiting.present).present, ?_⟩
  intro addr held recorded
  have earlier := (custody_recorded step waiting.present).mp recorded
  rcases waiting.covered addr held earlier with ended | listed
  · exact Or.inl (step.1.endedAt ended)
  · rcases List.mem_cons.mp listed with here | there
    · obtain ⟨rfl, rfl⟩ := Prod.mk.inj here
      rw [same]
      exact Or.inl (finishes.2 ext caller choice before tc held answered
        (inOrder.issued session tc.target held earlier) (inOrder.current tc.target held))
    · exact Or.inr there

theorem entrusted_askShard
    (finishes : Finishes op)
    (judge : ∀ tc id, (op tc id).Answer → Except String (Option String))
    (step refusal : String)
    {shard : String × TxID}
    (ending : Ending session (shard :: rest) w) :
    Entrusted ext caller session
      (Coordinator.askShard step refusal
        (fun tc id => .perform (op tc id) fun answer => .pure (judge tc id answer)) shard.1 shard.2)
      (fun _ later => Ending session rest later) w := by
  obtain ⟨addr, id⟩ := shard
  apply entrusted_getClient
  rintro tc later rfl reached
  apply entrusted_finish finishes (ending.rely reached)
  intro answer done waiting _
  refine Prog.wp_bind ?_
  intro last reachedLast
  have still := waiting.rely reachedLast
  split
  · exact fun _ reached => still.rely reached
  · exact fun _ reached => still.rely reached
  · exact fun _ reached => still.rely reached

/-- When every participant has been asked to end, all of them are over. -/
theorem entrusted_askAll
    (finishes : Finishes op)
    (judge : ∀ tc id, (op tc id).Answer → Except String (Option String))
    (sentinel step refusal : String)
    (present : w.present session = true) :
    Entrusted ext caller session
      (Coordinator.askAll sentinel
        (Coordinator.askShard step refusal
          fun tc id => .perform (op tc id) fun answer => .pure (judge tc id answer)) session)
      (fun _ later => later.Closed session) w := by
  refine entrusted_read ?_
  intro before choice after reached _ _ _ same reachedAfter
  have listed : ∀ addr id, after.Recorded session addr id →
      (addr, id) ∈ (choice.order.visit (before.sessions session).shardTxIDs.entries).map
        fun entry => (entry.1, entry.2) := by
    intro addr id recorded
    rw [same] at recorded
    exact (Map.mem_visited choice.order _ addr id).mpr recorded
  have start : Ending session
      ((choice.order.visit (before.sessions session).shardTxIDs.entries).map
        fun entry => (entry.1, entry.2)) after :=
    ⟨(reachedAfter.2.1 present).present, fun addr id recorded => Or.inr (listed addr id recorded)⟩
  have stable : ∀ shards before after, (custody session caller.call).rely before after →
      Ending session shards before → Ending session shards after :=
    fun _ _ _ reached ending => ending.rely reached
  have asks : ∀ shard rest v, Ending session (shard :: rest) v →
      Entrusted ext caller session
        (Coordinator.askShard step refusal
          (fun tc id => .perform (op tc id) fun answer => .pure (judge tc id answer))
          shard.1 shard.2)
        (fun _ later => True ∧ Ending session rest later) v :=
    fun shard rest v ending => Prog.wp_mono (entrusted_askShard finishes judge step refusal ending)
      fun _ _ waiting => ⟨trivial, waiting⟩
  apply Prog.wp_seq (Coordinator.wp_fanOut_each stable trivial (fun _ _ _ _ => trivial) asks start)
  rintro complaint later ⟨_, ending⟩ final reachedFinal
  exact (ending.rely reachedFinal).closed

theorem entrusted_rollbackAll (present : w.present session = true) :
    Entrusted ext caller session (Coordinator.rollbackAll session)
      (fun _ later => later.Closed session) w :=
  entrusted_askAll finishes_rollback
    (fun _ _ answer => answer.map fun resp => if resp.rolledBack then none else some resp.error)
    _ _ _ present

theorem entrusted_commitAll (present : w.present session = true) :
    Entrusted ext caller session (Coordinator.commitAll session)
      (fun _ later => later.Closed session) w :=
  entrusted_askAll finishes_commit
    (fun _ _ answer => answer.map fun resp => if resp.committed then none else some resp.error)
    _ _ _ present

/-! ### Ending a transaction -/

/-- Everything a call has open is entrusted to its session, and after a success
something more is known. -/
def Leaves
    (call : Nat)
    (session : Int)
    (success : QueryResponse → World → Prop)
    (outcome : Outcome)
    (w : World) : Prop :=
  w.Entrusts call session ∧ ∀ resp, outcome = .ok resp → success resp w

/-- After a success nothing is open. -/
abbrev Releases (call : Nat) (session : Int) : Outcome → World → Prop :=
  Leaves call session fun _ later => later.Free call

/-- After a success nothing is open, or the response names the session. -/
abbrev Settles (call : Nat) (session : Int) : Outcome → World → Prop :=
  Leaves call session fun resp later =>
    later.Free call ∨ (resp.transactionId.id : Int) = session

variable {success : QueryResponse → World → Prop}

theorem steady_rollbackAll (session : Int) : (Coordinator.rollbackAll session).Only GateOp.Steady :=
  Coordinator.only_rollbackAll ⟨trivial, fun _ => trivial, fun _ _ => trivial⟩

theorem entrusted_fail
    (message : String)
    (entrusts : w.Entrusts caller.call session) :
    Entrusted ext caller session (GateM.fail message) (Leaves caller.call session success) w :=
  fun _ reached => ⟨entrusts.rely reached, nofun⟩

theorem entrusted_abort
    (message : String)
    (entrusts : w.Entrusts caller.call session) :
    Entrusted ext caller session (Coordinator.abort session message)
      (Leaves caller.call session success) w := by
  apply Prog.wp_seq (entrusted_steady (steady_rollbackAll session) w)
  intro complaint later reached
  exact entrusted_fail message (entrusts.rely reached)

section Closed

variable (closed : w.Closed session) (entrusts : w.Entrusts caller.call session)
include closed entrusts

/-- The participants of a closed session are forgotten. -/
theorem entrusted_clear
    (follows : ∀ later : World, later.Free caller.call →
      Entrusted ext caller session (next ()) post later) :
    Entrusted ext caller session (Prog.perform (.clearParticipants session) next) post w := by
  apply entrusted_perform
  intro before choice answer after reached inOrder _ _ stepped
  obtain ⟨rfl, rfl⟩ := Prod.mk.inj stepped
  have honours : World.Honours session caller.call before
      (before.act ext caller (.clearParticipants session) choice).2 :=
    .clear inOrder (closed.rely reached)
  have free : before.Free caller.call := (entrusts.rely reached).free (closed.rely reached)
  exact ⟨honours, follows _ (free.same rfl)⟩

/-- A closed session changes its state. -/
theorem entrusted_setState
    (follows : ∀ later : World, later.Closed session → later.Entrusts caller.call session →
      Entrusted ext caller session (next ()) post later) :
    Entrusted ext caller session (Prog.perform (.setState session state) next) post w := by
  apply entrusted_perform
  intro before choice answer after reached inOrder _ _ stepped
  obtain ⟨rfl, rfl⟩ := Prod.mk.inj stepped
  obtain ⟨_, tablets, present, _⟩ := (World.setState_frame session state :
    (before.act ext caller (.setState session state) choice).2.router = before.router ∧ _)
  have found := congrFun present session
  have participants : ((before.act ext caller (.setState session state) choice).2.sessions
      session).shardTxIDs = (before.sessions session).shardTxIDs :=
    World.participants_setState session state session
  have honours : World.Honours session caller.call before
      (before.act ext caller (.setState session state) choice).2 :=
    .setState inOrder (Or.inr ⟨rfl, closed.rely reached⟩)
  exact ⟨honours, follows _ ((closed.rely reached).same found participants tablets)
    ((entrusts.rely reached).same found participants tablets)⟩

/-- A closed session leaves its transaction. -/
theorem entrusted_conclude :
    Entrusted ext caller session
      (.perform (.setState session state) fun _ =>
        .perform (.clearParticipants session) fun _ => .pure (.ok resp))
      (Releases caller.call session) w := by
  apply entrusted_setState closed entrusts
  intro changed closedThen entrustsThen
  apply entrusted_clear closedThen entrustsThen
  intro cleared free later reached
  exact ⟨(free.rely reached).entrusts session, fun _ _ => free.rely reached⟩

end Closed

/-- So does a rollback. -/
theorem entrusted_rollback
    (present : w.present session = true)
    (entrusts : w.Entrusts caller.call session) :
    Entrusted ext caller session (Coordinator.rollback session)
      (Releases caller.call session) w := by
  refine entrusted_read ?_
  intro _ _ asked _ _ _ _ _ reachedAsked
  simp only
  split
  · refine entrusted_read ?_
    intro _ _ printed _ _ _ _ _ reachedPrinted
    exact entrusted_fail _ ((entrusts.rely reachedAsked).rely reachedPrinted)
  · apply Prog.wp_seq (Prog.wp_and (entrusted_rollbackAll (reachedAsked.2.1 present).present)
      (entrusted_steady (steady_rollbackAll session) asked))
    rintro complaint later ⟨closed, reached⟩
    exact entrusted_conclude closed ((entrusts.rely reachedAsked).rely reached)

theorem entrusted_commitEach
    (ending : Ending session shards w)
    (entrusts : w.Entrusts caller.call session) :
    Entrusted ext caller session (Coordinator.commitEach session shards)
      (Releases caller.call session) w := by
  induction shards generalizing w with
  | nil => exact entrusted_conclude ending.closed entrusts
  | cons shard rest ih =>
      obtain ⟨addr, id⟩ := shard
      apply entrusted_getClient
      rintro tc later rfl reached
      apply entrusted_finish finishes_commit (ending.rely reached)
      intro answer done waiting reachedDone
      have still := (entrusts.rely reached).rely reachedDone
      cases answer with
      | error failure => exact entrusted_abort _ still
      | ok resp =>
          simp only
          split
          · exact ih waiting still
          · exact entrusted_abort _ still

theorem entrusted_commitInPhases
    (present : w.present session = true)
    (entrusts : w.Entrusts caller.call session) :
    Entrusted ext caller session (Coordinator.commitInPhases session)
      (Releases caller.call session) w := by
  have prepares : (Coordinator.prepareAll session).Only GateOp.Steady :=
    Coordinator.only_prepareAll trivial (fun _ => trivial) fun _ _ => trivial
  have commits : (Coordinator.commitAll session).Only GateOp.Steady :=
    Coordinator.only_commitAll trivial (fun _ => trivial) fun _ _ => trivial
  apply Prog.wp_seq (entrusted_steady prepares w)
  intro unprepared prepared reached
  cases unprepared with
  | some failure => exact entrusted_abort failure (entrusts.rely reached)
  | none =>
      apply Prog.wp_seq (Prog.wp_and (entrusted_commitAll (reached.2.1 present).present)
        (entrusted_steady commits prepared))
      rintro uncommitted later ⟨closed, reachedLater⟩
      have still := (entrusts.rely reached).rely reachedLater
      cases uncommitted with
      | some failure => exact entrusted_fail failure still
      | none => exact entrusted_conclude closed still

/-- A commit keeps what is open with its session. -/
theorem entrusted_commit
    (present : w.present session = true)
    (entrusts : w.Entrusts caller.call session) :
    Entrusted ext caller session (Coordinator.commit session)
      (Releases caller.call session) w := by
  refine entrusted_read ?_
  intro _ _ asked _ _ _ _ _ reachedAsked
  have entrustsAsked := entrusts.rely reachedAsked
  simp only
  split
  · refine entrusted_read ?_
    intro _ _ printed _ _ _ _ _ reachedPrinted
    exact entrusted_fail _ (entrustsAsked.rely reachedPrinted)
  · refine entrusted_read ?_
    intro before choice counted _ _ _ _ same reachedCounted
    have found := (reachedCounted.2.1 (reachedAsked.2.1 present).present).present
    have entrustsCounted := entrustsAsked.rely reachedCounted
    split
    · rename_i none
      have closed : counted.Closed session := by
        refine ⟨found, ?_⟩
        intro addr id recorded
        rw [same] at recorded
        have listed : ⟨addr, id⟩ ∈ (before.sessions session).shardTxIDs.entries :=
          AList.mem_lookup_iff.mp recorded
        rw [List.length_eq_zero_iff.mp none] at listed
        cases listed
      apply entrusted_setState closed entrustsCounted
      intro changed closedThen entrustsThen later reached
      exact ⟨entrustsThen.rely reached, fun _ _ =>
        (entrustsThen.rely reached).free (closedThen.rely reached)⟩
    · split
      · refine entrusted_read ?_
        intro shardsBefore order listed _ _ _ _ sameListed reachedListed
        refine entrusted_commitEach ?_ (entrustsCounted.rely reachedListed)
        refine ⟨(reachedListed.2.1 found).present, fun addr id recorded => Or.inr ?_⟩
        rw [sameListed] at recorded
        exact (Map.mem_visited order.order _ addr id).mpr recorded
      · exact entrusted_commitInPhases found entrustsCounted

/-! ### Beginning a transaction -/

/-- A session that the manager has just created enters a transaction. -/
theorem entrusted_begin (free : w.Free caller.call) :
    Entrusted ext caller 0 Coordinator.begin (fun _ later => later.Free caller.call) w := by
  apply entrusted_perform
  intro before choice answer after reached inOrder _ _ stepped
  obtain ⟨rfl, rfl⟩ := Prod.mk.inj stepped
  have created : World.Honours 0 caller.call before (before.act ext caller .create choice).2 :=
    .create inOrder
  refine ⟨created, ?_⟩
  apply entrusted_perform
  intro later order _ entered reachedLater inOrderLater _ _ stepped
  obtain ⟨rfl, rfl⟩ := Prod.mk.inj stepped
  have entered : World.Honours 0 caller.call later (later.act ext caller
      (.setState (before.nextID + 1) .inTransaction) order).2 :=
    .setState inOrderLater (Or.inl rfl)
  refine ⟨entered, ?_⟩
  intro last reachedLast
  have freeCreated : (before.act ext caller .create choice).2.Free caller.call :=
    (free.rely reached).same rfl
  have freeEntered : (later.act ext caller
      (.setState (before.nextID + 1) .inTransaction) order).2.Free caller.call :=
    (freeCreated.rely reachedLater).same (World.setState_frame _ _).2.1
  exact freeEntered.rely reachedLast

theorem entrusted_handleBegin (entrusts : w.Entrusts caller.call session) :
    Entrusted ext caller session (Gateway.handleBegin session)
      (Settles caller.call session) w := by
  unfold Gateway.handleBegin
  split
  · have looks : GateOp.Steady (.get session) := trivial
    refine entrusted_read ?_
    intro before choice looked _ inOrder _ _ same reachedLooked
    have entrustsLooked := entrusts.rely reachedLooked
    change Entrusted ext caller session (if before.present session = true then _ else _) _ _
    split
    · rename_i found
      have present : looked.present session = true := by
        rw [same]
        exact found
      have positive := (inOrder.numbered session found).1
      have acknowledged : ((Gateway.acknowledgeBegin session).transactionId.id : Int) = session :=
        Int.toNat_of_nonneg (Int.le_of_lt positive)
      have acknowledge : ∀ {later : World}, later.Entrusts caller.call session →
          Settles caller.call session (.ok (Gateway.acknowledgeBegin session)) later := by
        intro later entrusts
        refine ⟨entrusts, ?_⟩
        intro resp answered
        injection answered with same
        rw [← same]
        exact Or.inr acknowledged
      refine entrusted_read ?_
      intro beforeAsked _ asked reachedBefore inOrderAsked _ _ sameAsked reachedAsked
      have entrustsAsked := entrustsLooked.rely reachedAsked
      change Entrusted ext caller session
        (if (beforeAsked.sessions session).state = .inTransaction then _ else _) _ _
      split
      · exact fun _ reached => acknowledge (entrustsAsked.rely reached)
      · rename_i outside
        have closed : asked.Closed session := by
          rw [sameAsked]
          exact inOrderAsked.closed (reachedBefore.2.1 present).present outside
        apply entrusted_setState closed entrustsAsked
        intro changed closedThen entrustsThen
        apply entrusted_clear closedThen entrustsThen
        intro cleared free later reached
        exact acknowledge ((free.rely reached).entrusts session)
    · exact entrusted_fail _ entrustsLooked
  · rename_i outside
    obtain rfl : session = 0 := not_ne_iff.mp outside
    apply Prog.wp_seq (entrusted_begin entrusts.free_of_zero)
    intro created later free last reached
    exact ⟨(free.rely reached).entrusts 0, fun _ _ => Or.inl (free.rely reached)⟩

/-! ### Statements -/

/-- The manager finds a session in a transaction. -/
structure Inside (session : Int) (w : World) : Prop where
  present : w.present session = true
  state : (w.sessions session).state = .inTransaction

theorem Inside.rely
    (inside : Inside session before)
    (reached : (custody session caller.call).rely before after) : Inside session after := by
  obtain ⟨present, _, state⟩ := reached.2.1 inside.present
  exact ⟨present, state.elim (fun same => same.trans inside.state) fun now => now⟩

/-- What a call has open after a begin is what it had open before, and what was begun. -/
theorem openBy_of_begin
    {answer : Except String QueryResponse}
    (answered : choice.network = .answered)
    (stepped : before.act ext caller (.begin tc) choice = (answer, after))
    {call : Nat}
    (opened : after.OpenBy call addr id) :
    before.OpenBy call addr id ∨ GateOp.Begins (.begin tc) answer addr id := by
  have careful : before.Careful (.begin tc) := trivial
  have keeps : before.Keeps (before.act ext caller (.begin tc) choice).2 :=
    (World.evolves_act ext caller (.begin tc) choice before).kept
  have found : (before.act ext caller (.begin tc) choice).2.OpenAt addr id →
      before.OpenAt addr id ∨ GateOp.Begins (.begin tc)
        (before.act ext caller (.begin tc) choice).1 addr id :=
    World.openAt_act careful answered
  rw [stepped] at keeps found
  exact (found opened.openAt).imp_left fun earlier => keeps.openBy earlier opened

/-- A transaction that was begun is recorded at once. -/
theorem entrusted_record
    (nonzero : session ≠ 0)
    (inside : Inside session before)
    (entrusts : before.Entrusts caller.call session)
    (new : (before.sessions session).shardTxIDs.lookup tc.target = none)
    (answered : choice.network = .answered)
    (stepped : before.act ext caller (.begin tc) choice = (.ok resp, after))
    (follows : ∀ later, Inside session later → later.Entrusts caller.call session →
      Entrusted ext caller session (next ()) post later) :
    Entrusted ext caller session
      (Prog.perform (.setLocalTxID session tc.target resp.transactionId) next) post after := by
  have begins : GateOp.Inert (.begin tc) := trivial
  have kept : World.SessionKept session before
      (before.act ext caller (.begin tc) choice).2 :=
    World.sessionKept_of_inert begins inside.present
  have heldThen : ∀ addr id, (before.act ext caller (.begin tc) choice).2.Holds session addr id ↔
      before.Holds session addr id := fun _ _ => World.holds_of_inert begins
  have sessions : (before.act ext caller (.begin tc) choice).2.sessions = before.sessions :=
    World.sessions_of_inert begins
  rw [stepped] at kept heldThen sessions
  obtain ⟨begun, _⟩ := World.begun_of_act stepped
  have insideThen : Inside session after := ⟨kept.present, by rw [sessions]; exact inside.state⟩
  apply entrusted_perform
  intro asked order answer later reached inOrder _ _ recorded
  have insideAsked := insideThen.rely reached
  have newAsked : (asked.sessions session).shardTxIDs.lookup tc.target = none := by
    rw [(reached.2.1 kept.present).participants, sessions]
    exact new
  have known : (asked.tablets tc.target).tx.txns resp.transactionId ≠ none := by
    apply reached.1.known
    rw [begun]
    exact Option.some_ne_none _
  have honours : World.Honours session caller.call asked (asked.act ext caller
      (.setLocalTxID session tc.target resp.transactionId) order).2 :=
    .record inOrder insideAsked.present insideAsked.state newAsked known
  have insideLater : Inside session (asked.act ext caller
      (.setLocalTxID session tc.target resp.transactionId) order).2 := by
    refine ⟨insideAsked.present, ?_⟩
    simp only [World.act, World.updateSession, Function.update_self]
    exact insideAsked.state
  have entrustsLater : (asked.act ext caller
      (.setLocalTxID session tc.target resp.transactionId) order).2.Entrusts caller.call
        session := by
    intro addr id opened
    refine ⟨nonzero, ?_⟩
    have still : asked.OpenBy caller.call addr id := opened
    rcases openBy_of_begin answered stepped (reached.2.2 addr id still) with earlier | here
    · have holds := (heldThen addr id).mpr (entrusts addr id earlier).2
      exact honours.held addr id (custody_holds reached holds) opened.openAt
    · cases here with
      | begun =>
          exact ⟨insideAsked.present, World.recorded_self⟩
  rw [recorded] at honours insideLater entrustsLater
  exact ⟨honours, follows later insideLater entrustsLater⟩

/-- A refused begin opens nothing. -/
theorem entrusts_of_refused
    {failure : String}
    (entrusts : before.Entrusts caller.call session)
    (answered : choice.network = .answered)
    (stepped : before.act ext caller (.begin tc) choice = (.error failure, after)) :
    after.Entrusts caller.call session := by
  have begins : GateOp.Inert (.begin tc) := trivial
  have heldThen : ∀ addr id, (before.act ext caller (.begin tc) choice).2.Holds session addr id ↔
      before.Holds session addr id := fun _ _ => World.holds_of_inert begins
  rw [stepped] at heldThen
  intro addr id opened
  rcases openBy_of_begin answered stepped opened with earlier | here
  · exact (entrusts addr id earlier).imp_right (heldThen addr id).mpr
  · cases here

/-- Rolling back whatever was begun opens nothing. -/
theorem entrusted_giveUp
    (value : α)
    (entrusts : w.Entrusts caller.call session) :
    Entrusted ext caller session (Coordinator.rollbackAll session >>= fun _ => .pure value)
      (fun _ later => later.Entrusts caller.call session) w := by
  apply Prog.wp_seq (entrusted_steady (steady_rollbackAll session) w)
  intro complaint later reached last reachedLast
  exact (entrusts.rely reached).rely reachedLast

/-- What is begun is recorded in the session. -/
theorem entrusted_beginOnAll
    (nonzero : session ≠ 0)
    (tablets : List TabletClient)
    (inside : Inside session w)
    (entrusts : w.Entrusts caller.call session) :
    Entrusted ext caller session (Coordinator.beginOnAll session tablets)
      (fun _ later => later.Entrusts caller.call session) w := by
  induction tablets generalizing w with
  | nil => exact fun _ reached => entrusts.rely reached
  | cons tc rest ih =>
      refine entrusted_read ?_
      intro before choice after _ _ _ _ same reached
      have insideNow := inside.rely reached
      have entrustsNow := entrusts.rely reached
      change Entrusted ext caller session
        (if ((before.sessions session).shardTxIDs.lookup tc.target).isSome = true then _ else _) _ _
      split
      · exact ih insideNow entrustsNow
      · rename_i absent
        have new : (after.sessions session).shardTxIDs.lookup tc.target = none := by
          rw [same]
          exact Option.not_isSome_iff_eq_none.mp absent
        apply entrusted_perform
        intro asked order answer begun reachedAsked inOrder careful answered stepped
        have begins : GateOp.Inert (.begin tc) := trivial
        have honours : World.Honours session caller.call asked
            (asked.act ext caller (.begin tc) order).2 :=
          .inert inOrder begins careful answered
        rw [stepped] at honours
        refine ⟨honours, ?_⟩
        have newAsked : (asked.sessions session).shardTxIDs.lookup tc.target = none := by
          rw [(reachedAsked.2.1 insideNow.present).participants]
          exact new
        cases answer with
        | ok resp =>
            exact entrusted_record nonzero (insideNow.rely reachedAsked)
              (entrustsNow.rely reachedAsked) newAsked answered stepped
              fun _ insideLater entrustsLater => ih insideLater entrustsLater
        | error failure =>
            exact entrusted_giveUp _
              (entrusts_of_refused (entrustsNow.rely reachedAsked) answered stepped)

theorem steady_executes
    (session : Int)
    (sql : SqlText) :
    Coordinator.Executes GateOp.Steady session sql :=
  ⟨fun _ => trivial, fun _ _ => trivial⟩

/-- A statement keeps what is open with its session. -/
theorem entrusted_execute
    (nonzero : session ≠ 0)
    (sql : SqlText)
    (present : w.present session = true)
    (entrusts : w.Entrusts caller.call session) :
    Entrusted ext caller session (Coordinator.execute ext session sql)
      (fun _ later => later.Entrusts caller.call session) w := by
  have stable : ∀ before after, (custody session caller.call).rely before after →
      before.Entrusts caller.call session → after.Entrusts caller.call session :=
    fun _ _ reached kept => kept.rely reached
  have checks : GateOp.Steady (.getState session) := trivial
  refine entrusted_read ?_
  intro before choice asked reachedBefore _ _ _ same reachedAsked
  have entrustsAsked := entrusts.rely reachedAsked
  change Entrusted ext caller session
    (if (before.sessions session).state ≠ .inTransaction then _ else _) _ _
  split
  · exact entrusted_keeps ⟨checks, fun _ => trivial⟩ stable entrustsAsked
  · rename_i inside
    have insideAsked : Inside session asked := by
      rw [same]
      exact ⟨(reachedBefore.2.1 present).present, not_ne_iff.mp inside⟩
    refine entrusted_read ?_
    intro chosen order routed _ _ _ _ _ reachedRouted
    generalize (chosen.act ext caller (.route sql true) order).1 = result
    split
    · exact fun _ reached => (entrustsAsked.rely reachedRouted).rely reached
    · apply Prog.wp_seq (entrusted_beginOnAll nonzero result.tablets
        (insideAsked.rely reachedRouted) (entrustsAsked.rely reachedRouted))
      intro failed later kept
      cases failed with
      | some failure => exact fun _ reached => kept.rely reached
      | none =>
          simp only
          split
          · exact entrusted_keeps
              (Coordinator.only_executeSingle (steady_executes session sql) _) stable kept
          · exact entrusted_keeps
              (Coordinator.only_executeScatter ext (steady_executes session _)
                ⟨trivial, fun _ => trivial, fun _ _ => trivial⟩ _) stable kept

/-! ### The gateway -/

theorem entrusted_withSession
    {rest : GateM Outcome}
    {post : Outcome → World → Prop}
    (missing : String)
    (follows : ∀ later : World, (custody session caller.call).rely w later →
      later.present session = true → Entrusted ext caller session rest post later)
    (fails : ∀ message later, (custody session caller.call).rely w later →
      Entrusted ext caller session (GateM.fail message) post later) :
    Entrusted ext caller session (Gateway.withSession session missing rest) post w := by
  refine entrusted_read ?_
  intro before choice looked _ _ _ _ same reached
  change Entrusted ext caller session (if before.present session = true then _ else _) _ _
  split
  · rename_i found
    exact follows looked reached (by rw [same]; exact found)
  · exact fails _ looked reached

/-- Reporting the end of a transaction. -/
theorem entrusted_concludeWith
    {program : GateM Outcome}
    (failed : String)
    (ends : Entrusted ext caller session program (Releases caller.call session) w) :
    Entrusted ext caller session
      (program >>= fun outcome => .pure (Gateway.concludeWith failed outcome))
      (Settles caller.call session) w := by
  apply Prog.wp_seq ends
  rintro outcome later ⟨entrusts, free⟩ last reached
  refine ⟨entrusts.rely reached, ?_⟩
  intro resp answered
  cases outcome with
  | ok value => exact Or.inl ((free value rfl).rely reached)
  | error fault =>
      cases fault with
      | error | crash => cases answered

theorem entrusted_handleCommit (entrusts : w.Entrusts caller.call session) :
    Entrusted ext caller session (Gateway.handleCommit session) (Settles caller.call session)
      w := by
  unfold Gateway.handleCommit
  split
  · exact entrusted_fail _ entrusts
  · refine entrusted_withSession _ ?_ fun message _ reached =>
      entrusted_fail message (entrusts.rely reached)
    intro later reached present
    exact entrusted_concludeWith _ (entrusted_commit present (entrusts.rely reached))

theorem entrusted_handleRollback (entrusts : w.Entrusts caller.call session) :
    Entrusted ext caller session (Gateway.handleRollback session)
      (Settles caller.call session) w := by
  unfold Gateway.handleRollback
  split
  · exact entrusted_fail _ entrusts
  · refine entrusted_withSession _ ?_ fun message _ reached =>
      entrusted_fail message (entrusts.rely reached)
    intro later reached present
    exact entrusted_concludeWith _ (entrusted_rollback present (entrusts.rely reached))

/-- The first statement of a text controls transactions. -/
def Controls (sql : SqlText) : Prop :=
  ∃ stmt rest, sql = .ok (stmt :: rest) ∧ Parser.isTxControl stmt = true

/-- Everything a request has open is entrusted to its session, and after transaction
control nothing is open unless the response names that session. -/
theorem entrusted_gateway
    (req : QueryRequest)
    (entrusts : w.Entrusts caller.call req.transactionId) :
    Entrusted ext caller req.transactionId (Gateway.execute ext req)
      (fun outcome later => later.Entrusts caller.call req.transactionId ∧
        (Controls req.sql → Settles caller.call req.transactionId outcome later)) w := by
  obtain ⟨sql, session⟩ := req
  have uncontrolled : ∀ {program : GateM Outcome}, ¬ Controls sql →
      Entrusted ext caller session program (fun _ later => later.Entrusts caller.call session) w →
      Entrusted ext caller session program
        (fun outcome later => later.Entrusts caller.call session ∧
          (Controls sql → Settles caller.call session outcome later)) w :=
    fun plain kept => Prog.wp_mono kept fun _ _ entrusts =>
      ⟨entrusts, fun controls => absurd controls plain⟩
  have controlled : ∀ {program : GateM Outcome},
      Entrusted ext caller session program (Settles caller.call session) w →
      Entrusted ext caller session program
        (fun outcome later => later.Entrusts caller.call session ∧
          (Controls sql → Settles caller.call session outcome later)) w :=
    fun settled => Prog.wp_mono settled fun _ _ settles => ⟨settles.1, fun _ => settles⟩
  cases sql with
  | error failure => exact controlled (entrusted_fail _ entrusts)
  | ok stmts =>
      cases stmts with
      | nil =>
          refine uncontrolled ?_ fun _ reached => entrusts.rely reached
          rintro ⟨stmt, rest, same, _⟩
          cases same
      | cons stmt rest =>
          unfold Gateway.execute
          simp only
          split
          · exact controlled (entrusted_handleBegin entrusts)
          · split
            · exact controlled (entrusted_handleCommit entrusts)
            · split
              · exact controlled (entrusted_handleRollback entrusts)
              · rename_i notBegin notCommit notRollback
                have plain : ¬ Controls (.ok (stmt :: rest)) := by
                  rintro ⟨first, others, same, controls⟩
                  injection same with same
                  obtain ⟨rfl, rfl⟩ := List.cons.inj same
                  simp [Parser.isTxControl, notBegin, notCommit, notRollback] at controls
                apply uncontrolled plain
                split
                · exact entrusted_keeps (Gateway.only_executeAutocommit ext trivial
                    (fun _ => trivial) fun _ => trivial)
                    (fun _ _ reached kept => kept.rely reached) entrusts
                · rename_i nonzero
                  refine entrusted_withSession _ ?_ fun message _ reached last reachedLast =>
                    (entrusts.rely reached).rely reachedLast
                  intro later reached present
                  exact entrusted_execute nonzero _ present (entrusts.rely reached)

end Programs

end VScale
