import VScale.Gate.CommitAtomicity
import VScale.Gate.Poisoning

/-!
# Recorded participants are live

Requests are served one after the other, and tablets neither restart nor time
transactions out.  Between two requests every id that a session in a transaction
records should denote a transaction that is still open.

The error paths of the coordinator roll the participants back and leave the
session as it is, so the ids stay recorded.  Requests keep the participants live
as long as none of them takes such a path.
-/

namespace VScale

open Aggregate Collections Effects Tree

/-- What goes on besides requests while tablets keep their transactions. -/
inductive Housekeeping (w : World) : World → Prop
  | sync (order : Router.SyncOrder) (dials : String → Bool) (tablets : List Tablet) :
      Housekeeping w (w.disturb (.sync order dials tablets))
  | reapSession (session : Int) : Housekeeping w (w.disturb (.reapSession session))

/-- Requests that do not overlap, with every call to a tablet answered.  The runs
start before anything is recorded, and nothing follows a crash. -/
inductive Requests
    (ext : Externals)
    (allowed : Caller → QueryRequest → Step gate World Choice → Prop) : World → Prop
  | start {w : World} (own : w.router.TargetsOwn)
      (unrecorded : ∀ session, (w.sessions session).shardTxIDs = ∅) : Requests ext allowed w
  | housekeeping {w later : World} (earlier : Requests ext allowed w)
      (change : Housekeeping w later) : Requests ext allowed later
  | request {w later : World} {outcome : Outcome} (caller : Caller) (req : QueryRequest)
      (earlier : Requests ext allowed w)
      (returns : (Gateway.execute ext req).Returns (World.machine ext) caller Housekeeping
        (fun step => step.choice.network = .answered ∧ allowed caller req step) w outcome later)
      (survived : outcome ≠ .error .crash) : Requests ext allowed later

/-- The ids a session in a transaction records denote open transactions. -/
def World.Live (w : World) : Prop :=
  ∀ session addr id, (w.sessions session).state = .inTransaction → w.Recorded session addr id →
    ∃ tx, (w.tablets addr).tx.get id = some tx

/-! ### Steps that take no error path -/

/-- A tablet answers a text with results that can be sorted for the query. -/
def Executor.Answers
    (ext : Externals)
    (caller : Caller)
    (query : SqlText)
    (verdicts : Nat → Verdict)
    (text : SqlText)
    (txID : TxID)
    (e : Executor) : Prop :=
  match (TabletHandler.execute caller verdicts text txID e).answer with
  | .error _ => False
  | .ok resp => ∀ result ∈ resp.results, (extractPlan ext query).Sortable ext result.columns

instance (ext : Externals) (caller : Caller) (query : SqlText) (verdicts : Nat → Verdict)
    (text : SqlText) (txID : TxID) (e : Executor) :
    Decidable (e.Answers ext caller query verdicts text txID) := by
  dsimp only [Executor.Answers]
  cases (TabletHandler.execute caller verdicts text txID e).answer <;> infer_instance

/-- No statement of a text controls transactions. -/
def Uncontrolled (sql : SqlText) : Prop :=
  match sql with
  | .error _ => False
  | .ok stmts => ∀ stmt ∈ stmts, Parser.isTxControl stmt = false

instance : ∀ sql, Decidable (Uncontrolled sql)
  | .error _ => .isFalse id
  | .ok stmts => inferInstanceAs (Decidable (∀ stmt ∈ stmts, Parser.isTxControl stmt = false))

/-- A step of a request that takes no error path after a participant was recorded:
a begin is granted unless nothing is recorded, clients are found, prepares and
commits succeed, and inside a session tablets answer texts without transaction
control. -/
def Smooth
    (ext : Externals)
    (caller : Caller)
    (req : QueryRequest)
    (step : Step gate World Choice) : Prop :=
  match step.op with
  | .begin _ =>
      (step.choice.verdicts 0).failure = none ∨
        (step.before.sessions req.transactionId).shardTxIDs.entries = []
  | .getClient addr => step.before.router.getClient addr ≠ none
  | .execute tc sql txID =>
      req.transactionId = 0 ∨ Uncontrolled sql ∧
        (step.before.tablets tc.target).Answers ext caller req.sql step.choice.verdicts sql txID
  | .prepare _ _ => (step.choice.verdicts 0).failure = none
  | .commit _ _ => (step.choice.verdicts 0).failure = none
  | _ => True

instance (ext : Externals) (caller : Caller) (req : QueryRequest) :
    ∀ step : Step gate World Choice, Decidable (Smooth ext caller req step)
  | ⟨_, .begin _, _⟩ => inferInstanceAs (Decidable (_ = none ∨ _ = []))
  | ⟨_, .getClient _, _⟩ => inferInstanceAs (Decidable (_ ≠ none))
  | ⟨_, .execute _ sql _, _⟩ =>
      inferInstanceAs (Decidable (_ = (0 : Int) ∨ Uncontrolled sql ∧ Executor.Answers ..))
  | ⟨_, .prepare _ _, _⟩ | ⟨_, .commit _ _, _⟩ => inferInstanceAs (Decidable (_ = none))
  | ⟨_, .create, _⟩ | ⟨_, .get _, _⟩ | ⟨_, .getState _, _⟩ | ⟨_, .setState _ _, _⟩
  | ⟨_, .shardCount _, _⟩ | ⟨_, .isParticipating _ _, _⟩ | ⟨_, .participatingShardsMap _, _⟩
  | ⟨_, .clearParticipants _, _⟩ | ⟨_, .setLocalTxID _ _ _, _⟩ | ⟨_, .getLocalTxID _ _, _⟩
  | ⟨_, .route _ _, _⟩ | ⟨_, .rollback _ _, _⟩ => .isTrue trivial

/-! ### Healthy worlds -/

namespace World

/-- A transaction is open on a tablet. -/
def OpenAt (w : World) (addr : String) (id : TxID) : Prop :=
  ∃ tx, (w.tablets addr).tx.txns id = some tx ∧ tx.status = .active

/-- Recorded ids belong to running processes and to one session each, and their
transactions are open unless the session is ending. -/
structure Healthy (w : World) (ending : Option Int) : Prop where
  own : w.router.TargetsOwn
  current : ∀ session addr id, w.Recorded session addr id → id.epoch = (w.tablets addr).tx.epoch
  opened : ∀ session addr id, ending ≠ some session → w.Recorded session addr id →
    w.OpenAt addr id
  apart : ∀ session other addr id, w.Recorded session addr id → w.Recorded other addr id →
    session = other

variable {w : World} {ending : Option Int} {session : Int} {addr : String} {id : TxID}

theorem Healthy.resolve
    (healthy : w.Healthy ending)
    (recorded : w.Recorded session addr id) :
    (w.tablets addr).tx.resolve id = id := by
  rw [TxManager.resolve, ← healthy.current session addr id recorded]

/-- An open transaction is found by its tablet. -/
theorem Healthy.found
    (healthy : w.Healthy ending)
    (recorded : w.Recorded session addr id)
    (opened : w.OpenAt addr id) : ∃ tx, (w.tablets addr).tx.get id = some tx := by
  obtain ⟨tx, found, active⟩ := opened
  refine ⟨tx, TxManager.get_eq_some_iff.mpr ⟨?_, active⟩⟩
  rw [healthy.resolve recorded]
  exact found

theorem Healthy.live (healthy : w.Healthy none) : w.Live :=
  fun session addr id _ recorded =>
    healthy.found recorded (healthy.opened session addr id nofun recorded)

variable {later : World} {op : GateOp}

/-- The tablets stay as they are and nothing new is recorded. -/
theorem Healthy.fewer
    {still : Option Int}
    (healthy : w.Healthy ending)
    (own : later.router.TargetsOwn)
    (tablets : later.tablets = w.tablets)
    (recorded : ∀ session addr id, later.Recorded session addr id → w.Recorded session addr id)
    (spared : ∀ session addr id, later.Recorded session addr id → still ≠ some session →
      ending ≠ some session) :
    later.Healthy still := by
  refine ⟨own, ?_, ?_, ?_⟩
  · intro session addr id here
    rw [tablets]
    exact healthy.current session addr id (recorded session addr id here)
  · intro session addr id other here
    rw [OpenAt, tablets]
    exact healthy.opened session addr id (spared session addr id here other)
      (recorded session addr id here)
  · intro session other addr id here there
    exact healthy.apart session other addr id (recorded session addr id here)
      (recorded other addr id there)

theorem Healthy.same
    (healthy : w.Healthy ending)
    (own : later.router.TargetsOwn)
    (sessions : later.sessions = w.sessions)
    (tablets : later.tablets = w.tablets) : later.Healthy ending := by
  refine healthy.fewer own tablets ?_ fun _ _ _ _ other => other
  intro session addr id recorded
  rw [Recorded, sessions] at recorded
  exact recorded

/-- While a session ends, less is asked of it. -/
theorem Healthy.relax (healthy : w.Healthy none) (session : Int) : w.Healthy (some session) :=
  healthy.fewer healthy.own rfl (fun _ _ _ recorded => recorded) fun _ _ _ _ _ => nofun

theorem recorded_of_inert
    (ext : Externals)
    (caller : Caller)
    (inert : op.Inert)
    (choice : Choice) :
    (w.act ext caller op choice).2.Recorded session addr id ↔ w.Recorded session addr id := by
  rw [Recorded, sessions_act ext caller op choice w (untouched_of_inert inert w session)]
  exact Iff.rfl

/-- An operation keeps the participants it does not aim at. -/
theorem Healthy.act
    (healthy : w.Healthy ending)
    (ext : Externals)
    (caller : Caller)
    (inert : op.Inert)
    (choice : Choice)
    (spares : ∀ session addr id, ending ≠ some session → w.Recorded session addr id →
      ¬ op.Aims w addr id) :
    (w.act ext caller op choice).2.Healthy ending := by
  have evolves := evolves_act ext caller op choice w
  refine ⟨targetsOwn_act ext caller op choice healthy.own, ?_, ?_, ?_⟩
  · intro session addr id recorded
    rw [recorded_of_inert ext caller inert] at recorded
    rw [evolves.epochs]
    exact healthy.current session addr id recorded
  · intro session addr id other recorded
    rw [recorded_of_inert ext caller inert] at recorded
    obtain ⟨tx, found, active⟩ := healthy.opened session addr id other recorded
    exact ⟨tx, txns_act ext caller op choice w found (spares session addr id other recorded),
      active⟩
  · intro session other addr id here there
    rw [recorded_of_inert ext caller inert] at here there
    exact healthy.apart session other addr id here there

/-- A request sent for a participant aims at that participant only. -/
theorem Healthy.aims
    (healthy : w.Healthy ending)
    (sent : op.request = some (addr, id))
    (recorded : w.Recorded session addr id)
    {other : String}
    {held : TxID}
    (aims : op.Aims w other held) : other = addr ∧ held = id := by
  obtain ⟨txID, requested, _, resolved⟩ := aims
  rw [sent] at requested
  obtain ⟨rfl, rfl⟩ := Prod.mk.inj (Option.some.inj requested)
  exact ⟨rfl, resolved.trans (healthy.resolve recorded)⟩

/-- Requests for participants of the ending session keep all others. -/
theorem Healthy.request
    (healthy : w.Healthy (some session))
    (ext : Externals)
    (caller : Caller)
    (inert : op.Inert)
    (choice : Choice)
    (sent : op.request = some (addr, id))
    (recorded : w.Recorded session addr id) :
    (w.act ext caller op choice).2.Healthy (some session) := by
  apply healthy.act ext caller inert choice
  intro other target held different found aims
  obtain ⟨rfl, rfl⟩ := healthy.aims sent recorded aims
  exact different (congrArg some (healthy.apart session other target held recorded found))

theorem Healthy.setState
    (healthy : w.Healthy ending)
    (ext : Externals)
    (caller : Caller)
    (session : Int)
    (state : SessionState)
    (choice : Choice) :
    (w.act ext caller (.setState session state) choice).2.Healthy ending := by
  refine healthy.fewer (targetsOwn_act ext caller _ choice healthy.own) ?_ ?_
    fun _ _ _ _ other => other
  · simp only [World.act]
    split
    · rfl
    · rfl
  · intro other addr id recorded
    by_cases same : other = session
    · subst same
      rw [Recorded, session_setState] at recorded
      exact recorded
    · rw [Recorded, sessions_act ext caller (.setState session state) choice w same] at recorded
      exact recorded

theorem Healthy.create
    (healthy : w.Healthy ending)
    (ext : Externals)
    (caller : Caller)
    (choice : Choice) : (w.act ext caller .create choice).2.Healthy ending := by
  refine healthy.fewer healthy.own rfl ?_ fun _ _ _ _ other => other
  exact fun other addr id recorded => (recorded_of_create recorded).2

/-- A session without participants is healthy, however it ended. -/
theorem Healthy.clear
    (healthy : w.Healthy (some session))
    (ext : Externals)
    (caller : Caller)
    (choice : Choice) :
    (w.act ext caller (.clearParticipants session) choice).2.Healthy none := by
  refine healthy.fewer healthy.own rfl (fun other addr id recorded =>
    (recorded_of_clear recorded).2) ?_
  intro other addr id recorded _ same
  exact (recorded_of_clear recorded).1 (Option.some.inj same).symm

/-- Recording a new open transaction. -/
theorem Healthy.record
    (healthy : w.Healthy none)
    (ext : Externals)
    (caller : Caller)
    (choice : Choice)
    (current : id.epoch = (w.tablets addr).tx.epoch)
    (opened : w.OpenAt addr id)
    (new : ∀ other, ¬ w.Recorded other addr id) :
    (w.act ext caller (.setLocalTxID session addr id) choice).2.Healthy none := by
  have recorded : ∀ other target held,
      (w.act ext caller (.setLocalTxID session addr id) choice).2.Recorded other target held →
        w.Recorded other target held ∨ other = session ∧ target = addr ∧ held = id := by
    intro other target held recorded
    rw [recorded_setLocalTxID_iff] at recorded
    split at recorded
    · rename_i here
      exact Or.inr ⟨here.1, here.2, recorded.symm⟩
    · exact Or.inl recorded
  refine ⟨healthy.own, ?_, ?_, ?_⟩
  · intro other target held found
    rcases recorded other target held found with old | ⟨rfl, rfl, rfl⟩
    · exact healthy.current other target held old
    · exact current
  · intro other target held _ found
    rcases recorded other target held found with old | ⟨rfl, rfl, rfl⟩
    · exact healthy.opened other target held (by rintro ⟨⟩) old
    · exact opened
  · intro first second target held here there
    rcases recorded first target held here with old | ⟨rfl, rfl, rfl⟩
    · rcases recorded second target held there with oldThere | ⟨rfl, rfl, rfl⟩
      · exact healthy.apart first second target held old oldThere
      · exact absurd old (new first)
    · rcases recorded second target held there with oldThere | ⟨rfl, _, _⟩
      · exact absurd oldThere (new second)
      · rfl

/-! ### Calls to tablets -/

section Calls

variable {ext : Externals} {caller : Caller} {tc : TabletClient} {choice : Choice}

/-- A begin answers with an id that no session can have recorded. -/
theorem unknown_of_begun
    {resp : QueryResponse}
    {after : World}
    (stepped : w.act ext caller (.begin tc) choice = (.ok resp, after)) :
    (w.tablets tc.target).tx.txns resp.transactionId = none := by
  rw [act_begin] at stepped
  obtain ⟨answered, rfl⟩ := answered_of_callTablet stepped
  have begun := TabletHandler.execute_begin caller choice.verdicts (w.tablets tc.target)
  generalize TabletHandler.execute caller choice.verdicts beginText TxID.zero
    (w.tablets tc.target) = reply at begun answered
  cases begun with
  | refused failure => cases answered
  | begun verdict granted =>
      injection answered with same
      rw [← same]
      exact (w.tablets tc.target).tx.unused _ (Or.inr (Or.inr ⟨rfl, Nat.lt_succ_self _⟩))

/-- A text without transaction control leaves the tablets as they are. -/
theorem tablets_execute
    {sql : SqlText}
    (plain : Plain sql)
    (answered : choice.network = .answered) :
    (w.act ext caller (.execute tc sql id) choice).2.tablets = w.tablets := by
  have same := (runs_execute plain caller choice.verdicts id (w.tablets tc.target)).same
  rw [act_execute]
  simp only [callTablet, answered, absorb, addEvent, same, Function.update_eq_self]

theorem tablets_prepare (answered : choice.network = .answered) :
    (w.act ext caller (.prepare tc id) choice).2.tablets = w.tablets := by
  have same := TabletHandler.state_prepareReply
    (TabletHandler.prepare_reply choice.verdicts id (w.tablets tc.target))
  rw [act_prepare]
  simp only [callTablet, answered, absorb, same, Function.update_eq_self]

variable {tx : LocalTx}

section Found

variable
  (found : (w.tablets tc.target).tx.get id = some tx)
  (answered : choice.network = .answered)
  (granted : (choice.verdicts 0).failure = none)
include found answered granted

/-- An open transaction is prepared unless its probe fails. -/
theorem prepared_of_found :
    (w.act ext caller (.prepare tc id) choice).1 = .ok { prepared := true } := by
  have nonzero := Executor.inside_of_get found
  rw [act_prepare]
  simp only [callTablet, answered, TabletHandler.prepare, TabletHandler.phase, if_neg nonzero,
    TxManager.query, TxManager.run, found, granted]
  rfl

/-- An open transaction is committed unless its commit fails. -/
theorem committed_of_found :
    (w.act ext caller (.commit tc id) choice).1 = .ok { committed := true } := by
  have nonzero := Executor.inside_of_get found
  rw [act_commit]
  simp only [callTablet, answered, TabletHandler.commit, TabletHandler.phase, if_neg nonzero,
    TxManager.commit, TxManager.terminate, found, granted]
  rfl

end Found

end Calls

end World

/-! ### Programs -/

/-- A call relies on sessions and tablets being left alone. -/
def housekept : Contract World where
  rely := fun before after =>
    after.sessions = before.sessions ∧ after.tablets = before.tablets ∧
      (before.router.TargetsOwn → after.router.TargetsOwn)
  guarantee := fun _ _ => True
  rely_refl := fun _ => ⟨rfl, rfl, id⟩
  rely_trans := fun one other =>
    ⟨other.1.trans one.1, other.2.1.trans one.2.1, fun own => other.2.2 (one.2.2 own)⟩

theorem housekept_of_housekeeping
    {before after : World}
    (change : Housekeeping before after) :
    housekept.rely before after := by
  cases change with
  | sync order dials tablets =>
      exact ⟨rfl, rfl, targetsOwn_disturb (.sync order dials tablets)⟩
  | reapSession session => exact ⟨rfl, rfl, id⟩

/-- Operations that only read. -/
def GateOp.Reads : GateOp → Prop
  | .get _ => True
  | .getState _ => True
  | .shardCount _ => True
  | .isParticipating _ _ => True
  | .getLocalTxID _ _ => True
  | .participatingShardsMap _ => True
  | .route _ _ => True
  | .getClient _ => True
  | _ => False

theorem housekept_of_reads
    (ext : Externals)
    (caller : Caller)
    {op : GateOp}
    (reads : op.Reads)
    (choice : Choice)
    (w : World) : housekept.rely w (w.act ext caller op choice).2 := by
  have own := World.targetsOwn_act ext caller op choice (w := w)
  cases op with
  | get | getState | shardCount | isParticipating | getLocalTxID | participatingShardsMap
  | route | getClient => exact ⟨rfl, rfl, own⟩
  | _ => exact False.elim reads

/-- The program runs by smooth steps of a request. -/
abbrev Smoothly
    (ext : Externals)
    (caller : Caller)
    (req : QueryRequest)
    (program : GateM α)
    (post : α → World → Prop)
    (w : World) : Prop :=
  program.wp housekept
    ((World.machine ext).StepsWhen
      (fun step => step.choice.network = .answered ∧ Smooth ext caller req step) caller) post w

/-- The program leaves the participants live. -/
abbrev Healthily
    (ext : Externals)
    (caller : Caller)
    (req : QueryRequest)
    (program : GateM α)
    (w : World) : Prop :=
  Smoothly ext caller req program (fun _ later => later.Healthy none) w

section Programs

variable {ext : Externals} {caller : Caller} {req : QueryRequest} {w : World}
variable {ending : Option Int} {session : Int}

variable {before after : World} {addr : String} {id : TxID} {op : GateOp}
variable {shards rest : List (String × TxID)} {shard : String × TxID} {choice : Choice}
variable {tc : TabletClient} {sql : SqlText}

/-- Housekeeping keeps the world healthy. -/
theorem World.Healthy.rely
    (healthy : before.Healthy ending)
    (reached : housekept.rely before after) : after.Healthy ending :=
  healthy.same (reached.2.2 healthy.own) reached.1 reached.2.1

theorem recorded_rely (reached : housekept.rely before after) :
    after.Recorded session addr id ↔ before.Recorded session addr id := by
  rw [World.Recorded, reached.1]
  exact Iff.rfl

theorem openAt_rely
    (reached : housekept.rely before after)
    (opened : before.OpenAt addr id) : after.OpenAt addr id := by
  rw [World.OpenAt, reached.2.1]
  exact opened

theorem smoothly_pure
    {value : α}
    (healthy : w.Healthy ending) :
    Smoothly ext caller req (.pure value) (fun _ later => later.Healthy ending) w :=
  fun _ reached => healthy.rely reached

variable {post : α → World → Prop} {next : Unit → GateM α}

theorem smoothly_perform
    {next : op.Answer → GateM α}
    (follows : ∀ (before : World) choice answer after, housekept.rely w before →
      choice.network = .answered → Smooth ext caller req ⟨before, op, choice⟩ →
      before.act ext caller op choice = (answer, after) →
      Smoothly ext caller req (next answer) post after) :
    Smoothly ext caller req (Prog.perform op next) post w := by
  refine Prog.wp_perform_when ?_
  intro before choice reached ⟨answered, smooth⟩
  exact follows before choice _ _ reached answered smooth rfl

/-- One operation that only reads. -/
theorem smoothly_read
    {next : op.Answer → GateM α}
    (follows : ∀ (before : World) choice after, housekept.rely w before →
      housekept.rely w after → Smooth ext caller req ⟨before, op, choice⟩ →
      Smoothly ext caller req (next (before.act ext caller op choice).1) post after)
    (reads : op.Reads := by trivial) :
    Smoothly ext caller req (Prog.perform op next) post w := by
  apply smoothly_perform
  intro before choice answer after reached _ smooth stepped
  obtain ⟨rfl, rfl⟩ := Prod.ext_iff.mp stepped
  have kept := housekept_of_reads ext caller reads choice before
  exact follows before choice _ reached (housekept.rely_trans reached kept) smooth

/-- The client of a participant is found. -/
theorem smoothly_getClient
    {next : Option TabletClient → GateM α}
    (own : w.router.TargetsOwn)
    (follows : ∀ tc later, tc.target = addr → housekept.rely w later →
      Smoothly ext caller req (next (some tc)) post later) :
    Smoothly ext caller req (Prog.perform (.getClient addr) next) post w := by
  refine smoothly_read ?_
  intro before choice after reached reachedAfter found
  change Smoothly ext caller req (next (before.router.getClient addr)) post after
  cases known : before.router.getClient addr with
  | none => exact absurd known found
  | some tc => exact follows tc after (reached.2.2 own addr tc known) reachedAfter

/-! ### Rolling back -/

/-- Participants of the ending session wait to be rolled back. -/
def RollingBack
    (session : Int)
    (ending : Option Int)
    (shards : List (String × TxID))
    (w : World) : Prop :=
  w.Healthy ending ∧
    ∀ shard ∈ shards, w.Recorded session shard.1 shard.2 ∧ ending = some session

theorem RollingBack.rely
    (waiting : RollingBack session ending shards before)
    (reached : housekept.rely before after) :
    RollingBack session ending shards after :=
  ⟨waiting.1.rely reached, fun shard listed =>
    ⟨(recorded_rely reached).mpr (waiting.2 shard listed).1, (waiting.2 shard listed).2⟩⟩

theorem smoothly_rollbackShard (waiting : RollingBack session ending (shard :: rest) w) :
    Smoothly ext caller req (Coordinator.rollbackShard shard.1 shard.2)
      (fun _ later => RollingBack session ending rest later) w := by
  obtain ⟨addr, id⟩ := shard
  apply smoothly_getClient waiting.1.own
  rintro tc later rfl reached
  apply smoothly_perform
  intro before choice answer after reachedBefore _ _ stepped
  obtain ⟨healthy, recorded⟩ := (waiting.rely reached).rely reachedBefore
  obtain ⟨⟨here, rfl⟩, there⟩ := List.forall_mem_cons.mp recorded
  obtain ⟨_, rfl⟩ := Prod.ext_iff.mp stepped
  have inert : GateOp.Inert (.rollback tc id) := trivial
  have finish : ∀ complaint : Option String, Smoothly ext caller req (.pure complaint)
      (fun _ later => RollingBack session (some session) rest later)
      (before.act ext caller (.rollback tc id) choice).2 := by
    refine fun _ _ => RollingBack.rely ⟨healthy.request ext caller inert choice rfl here, ?_⟩
    intro shard listed
    exact ⟨(World.recorded_of_inert ext caller inert choice).mpr (there shard listed).1, rfl⟩
  cases answer with
  | error failure => exact finish _
  | ok resp =>
      obtain ⟨rolledBack, reason⟩ := resp
      cases rolledBack with
      | true | false => exact finish _

/-- Rolling back an ending session keeps the world healthy. -/
theorem smoothly_rollbackAll
    (healthy : w.Healthy ending)
    (only : ∀ addr id, w.Recorded session addr id → ending = some session) :
    Smoothly ext caller req (Coordinator.rollbackAll session)
      (fun _ later => later.Healthy ending) w := by
  refine smoothly_read ?_
  intro before choice after reached reachedAfter _
  have start : RollingBack session ending
      ((choice.order.visit (before.sessions session).shardTxIDs.entries).map
        fun entry => (entry.1, entry.2)) after := by
    refine ⟨healthy.rely reachedAfter, ?_⟩
    rintro ⟨addr, id⟩ listed
    have recorded : w.Recorded session addr id :=
      (recorded_rely reached).mp ((Map.mem_visited choice.order _ addr id).mp listed)
    exact ⟨(recorded_rely reachedAfter).mpr recorded, only addr id recorded⟩
  have stable : ∀ shards before after, housekept.rely before after →
      RollingBack session ending shards before → RollingBack session ending shards after :=
    fun _ _ _ reached waiting => waiting.rely reached
  have asks : ∀ shard rest v, RollingBack session ending (shard :: rest) v →
      Smoothly ext caller req (Coordinator.rollbackShard shard.1 shard.2)
        (fun _ later => True ∧ RollingBack session ending rest later) v :=
    fun shard rest v waiting => Prog.wp_mono (smoothly_rollbackShard waiting)
      fun _ _ kept => ⟨trivial, kept⟩
  apply Prog.wp_seq (Coordinator.wp_fanOut_each stable trivial (fun _ _ _ _ => trivial) asks start)
  rintro complaint later ⟨_, kept⟩
  exact smoothly_pure kept.1

/-! ### Statements -/

/-- A granted begin opens a transaction that nobody has recorded yet. -/
theorem smoothly_recordBegun
    {resp : QueryResponse}
    (healthy : before.Healthy none)
    (stepped : before.act ext caller (.begin tc) choice = (.ok resp, after))
    (follows : ∀ later : World, later.Healthy none → Smoothly ext caller req (next ()) post later) :
    Smoothly ext caller req
      (Prog.perform (.setLocalTxID session tc.target resp.transactionId) next) post after := by
  obtain ⟨found, _, current⟩ := World.begun_of_act stepped
  have unknown := World.unknown_of_begun stepped
  have begins : GateOp.Inert (.begin tc) := trivial
  have kept := healthy.act ext caller begins choice fun _ _ _ _ _ aims => nomatch aims.choose_spec.1
  have epochs := (World.evolves_act ext caller (.begin tc) choice before).epochs tc.target
  obtain ⟨_, rfl⟩ := Prod.ext_iff.mp stepped
  apply smoothly_perform
  intro asked recordChoice answer later reached _ _ recorded
  obtain ⟨_, rfl⟩ := Prod.ext_iff.mp recorded
  have new : ∀ other, ¬ asked.Recorded other tc.target resp.transactionId := by
    intro other already
    have earlier := (World.recorded_of_inert ext caller begins choice).mp
      ((recorded_rely reached).mp already)
    obtain ⟨tx, known, _⟩ := healthy.opened other tc.target resp.transactionId nofun earlier
    rw [unknown] at known
    cases known
  have opened : asked.OpenAt tc.target resp.transactionId :=
    openAt_rely reached ⟨_, found, rfl⟩
  have running : resp.transactionId.epoch = (asked.tablets tc.target).tx.epoch := by
    rw [reached.2.1, current, epochs]
  exact follows _ ((kept.rely reached).record ext caller recordChoice running opened new)

/-- Without participants a refused begin changes nothing. -/
theorem smoothly_beginRefused
    {failure : String}
    (healthy : before.Healthy none)
    (nothing : (before.sessions session).shardTxIDs.entries = [])
    (stepped : before.act ext caller (.begin tc) choice = (.error failure, after))
    (value : α) :
    Healthily ext caller req (Coordinator.rollbackAll session >>= fun _ => .pure value) after := by
  have begins : GateOp.Inert (.begin tc) := trivial
  have kept := healthy.act ext caller begins choice fun _ _ _ _ _ aims => nomatch aims.choose_spec.1
  obtain ⟨_, rfl⟩ := Prod.ext_iff.mp stepped
  have unrecorded : ∀ addr id, ¬ before.Recorded session addr id := by
    intro addr id recorded
    have listed := AList.mem_lookup_iff.mp recorded
    rw [nothing] at listed
    cases listed
  apply Prog.wp_seq (smoothly_rollbackAll kept fun addr id recorded =>
    absurd ((World.recorded_of_inert ext caller begins choice).mp recorded) (unrecorded addr id))
  intro _ later keptLater
  exact smoothly_pure keptLater

/-- Beginning keeps the world healthy. -/
theorem smoothly_beginOnAll
    (tablets : List TabletClient)
    (healthy : w.Healthy none) :
    Healthily ext caller req (Coordinator.beginOnAll req.transactionId tablets) w := by
  induction tablets generalizing w with
  | nil => exact smoothly_pure healthy
  | cons tc rest ih =>
      refine smoothly_read ?_
      intro before choice after reached reachedAfter _
      simp only
      split
      · exact ih (healthy.rely reachedAfter)
      · apply smoothly_perform
        intro asked choice answer begun reachedAsked answered smooth stepped
        have healthyNow := (healthy.rely reachedAfter).rely reachedAsked
        cases answer with
        | ok resp => exact smoothly_recordBegun healthyNow stepped fun _ => ih
        | error failure =>
            rcases smooth with granted | nothing
            · obtain ⟨resp, same⟩ := answered_of_granted answered granted stepped
              cases same
            · exact smoothly_beginRefused healthyNow nothing stepped _

section Inside

variable (inside : req.transactionId ≠ 0)
include inside

/-- A text that a tablet answers leaves the world healthy. -/
theorem answers_of_smooth
    {answer : Except String QueryResponse}
    (healthy : w.Healthy none)
    (answered : choice.network = .answered)
    (smooth : Smooth ext caller req ⟨w, .execute tc sql id, choice⟩)
    (stepped : w.act ext caller (.execute tc sql id) choice = (answer, after)) :
    after.Healthy none ∧ ∃ resp, answer = .ok resp ∧
      ∀ result ∈ resp.results, (extractPlan ext req.sql).Sortable ext result.columns := by
  obtain ⟨uncontrolled, answers⟩ := smooth.resolve_left inside
  have plain : World.Plain sql := by
    rintro stmts rfl
    exact uncontrolled
  have executes : GateOp.Inert (.execute tc sql id) := trivial
  have own := World.targetsOwn_act ext caller (.execute tc sql id) choice healthy.own
  have sessions := funext fun session => World.sessions_act ext caller (.execute tc sql id) choice w
    (untouched_of_inert executes w session)
  have told : answer = ((TabletHandler.execute caller choice.verdicts sql id
      (w.tablets tc.target)).answer).mapError rpcError := by
    rw [World.act_execute, World.callTablet, answered] at stepped
    exact (congrArg Prod.fst stepped).symm
  obtain ⟨_, rfl⟩ := Prod.ext_iff.mp stepped
  refine ⟨healthy.same own sessions (World.tablets_execute plain answered), ?_⟩
  unfold Executor.Answers at answers
  cases reply :
      (TabletHandler.execute caller choice.verdicts sql id (w.tablets tc.target)).answer with
  | error failure =>
      rw [reply] at answers
      exact False.elim answers
  | ok resp =>
      rw [reply] at answers told
      exact ⟨resp, told, answers⟩

/-- A text sent by a request inside a session is answered. -/
theorem smoothly_executeOn (healthy : w.Healthy none) :
    Smoothly ext caller req (Coordinator.executeOn session sql tc)
      (fun answer later => later.Healthy none ∧ ∃ resp, answer = .ok resp ∧
        ∀ result ∈ resp.results, (extractPlan ext req.sql).Sortable ext result.columns) w := by
  refine smoothly_read ?_
  intro before choice after reached reachedAfter _
  apply smoothly_perform
  intro asked choice answer done reachedAsked answered smooth stepped last reachedLast
  obtain ⟨kept, resp, same, sortable⟩ := answers_of_smooth inside
    ((healthy.rely reachedAfter).rely reachedAsked) answered smooth stepped
  exact ⟨kept.rely reachedLast, resp, same, sortable⟩

theorem smoothly_scatterLoop
    (tablets : List TabletClient)
    (healthy : w.Healthy none) :
    Smoothly ext caller req (Coordinator.scatterLoop session sql tablets)
      (fun gathered later => later.Healthy none ∧ gathered.1 = none ∧
        ∀ result ∈ gathered.2, (extractPlan ext req.sql).Sortable ext result.columns) w := by
  induction tablets generalizing w with
  | nil => exact fun later reached => ⟨healthy.rely reached, rfl, List.forall_mem_nil _⟩
  | cons tc rest ih =>
      rw [Coordinator.scatterLoop_cons]
      apply Prog.wp_seq (smoothly_executeOn inside healthy)
      rintro answer later ⟨kept, resp, rfl, sortable⟩
      apply Prog.wp_seq (ih kept)
      rintro ⟨failed, results⟩ final ⟨keptFinal, rfl, sortableRest⟩ last reached
      exact ⟨keptFinal.rely reached, rfl, List.forall_mem_append.mpr ⟨sortable, sortableRest⟩⟩

theorem smoothly_executeScatter
    (tablets : List TabletClient)
    (healthy : w.Healthy none) :
    Healthily ext caller req (Coordinator.executeScatter ext session req.sql tablets) w := by
  apply Prog.wp_seq (smoothly_scatterLoop inside tablets healthy)
  rintro ⟨failed, results⟩ later ⟨kept, rfl, sortable⟩
  simp only
  split
  · split
    · rename_i failure merged
      exact absurd merged (merge_ne_error sortable failure)
    · exact smoothly_pure kept
    · exact smoothly_pure kept
  · exact smoothly_pure kept

theorem smoothly_executeSingle
    (tc : TabletClient)
    (healthy : w.Healthy none) :
    Healthily ext caller req (Coordinator.executeSingle session req.sql tc) w := by
  have single : Coordinator.executeSingle session req.sql tc =
      Coordinator.executeOn session req.sql tc >>= fun answer =>
        .pure (answer.mapError Fault.error) := rfl
  rw [single]
  apply Prog.wp_seq (smoothly_executeOn inside healthy)
  rintro answer final ⟨kept, _⟩
  exact smoothly_pure kept

/-- So does a statement of a session. -/
theorem smoothly_execute (healthy : w.Healthy none) :
    Healthily ext caller req (Coordinator.execute ext req.transactionId req.sql) w := by
  refine smoothly_read ?_
  intro _ _ after _ reachedAfter _
  simp only
  split
  · refine smoothly_read ?_
    intro _ _ printed _ reachedPrinted _
    exact smoothly_pure ((healthy.rely reachedAfter).rely reachedPrinted)
  · refine smoothly_read ?_
    intro before choice routed _ reachedRouted _
    have healthyNow := (healthy.rely reachedAfter).rely reachedRouted
    generalize (before.act ext caller (.route req.sql true) choice).1 = result
    split
    · exact smoothly_pure healthyNow
    · apply Prog.wp_seq (smoothly_beginOnAll result.tablets healthyNow)
      intro failed later kept
      cases failed with
      | some failure => exact smoothly_pure kept
      | none =>
          simp only
          split
          · exact smoothly_executeSingle inside _ kept
          · exact smoothly_executeScatter inside _ kept

end Inside

/-! ### Ending a transaction -/

theorem smoothly_clear
    (healthy : w.Healthy (some session))
    (follows : ∀ later : World, later.Healthy none → Smoothly ext caller req (next ()) post later) :
    Smoothly ext caller req (Prog.perform (.clearParticipants session) next) post w := by
  apply smoothly_perform
  intro before choice answer after reached _ _ stepped
  obtain ⟨_, rfl⟩ := Prod.ext_iff.mp stepped
  exact follows _ ((healthy.rely reached).clear ext caller choice)

theorem smoothly_setState
    {state : SessionState}
    (healthy : w.Healthy ending)
    (follows : ∀ later : World, later.Healthy ending →
      Smoothly ext caller req (next ()) post later) :
    Smoothly ext caller req (Prog.perform (.setState session state) next) post w := by
  apply smoothly_perform
  intro before choice answer after reached _ _ stepped
  obtain ⟨_, rfl⟩ := Prod.ext_iff.mp stepped
  exact follows _ ((healthy.rely reached).setState ext caller session state choice)

theorem smoothly_concludeCommit (healthy : w.Healthy (some session)) :
    Healthily ext caller req (Coordinator.concludeCommit session) w := by
  apply smoothly_setState healthy
  intro _ healthyDone
  apply smoothly_clear healthyDone
  intro _ cleared
  exact smoothly_pure cleared

/-- So does a rollback of a session. -/
theorem smoothly_rollback (healthy : w.Healthy none) :
    Healthily ext caller req (Coordinator.rollback session) w := by
  refine smoothly_read ?_
  intro _ _ after _ reachedAfter _
  simp only
  split
  · refine smoothly_read ?_
    intro _ _ printed _ reachedPrinted _
    exact smoothly_pure ((healthy.rely reachedAfter).rely reachedPrinted)
  · apply Prog.wp_seq (smoothly_rollbackAll ((healthy.rely reachedAfter).relax session)
      fun _ _ _ => rfl)
    intro _ later kept
    apply smoothly_setState kept
    intro _ healthyDone
    apply smoothly_clear healthyDone
    intro _ cleared
    exact smoothly_pure cleared

/-- Participants that all answer without a complaint. -/
theorem wp_fanOut_silent
    {ask : String → TxID → GateM (Option String)}
    {pending : List (String × TxID) → World → Prop}
    (stable : ∀ shards before after, housekept.rely before after →
      pending shards before → pending shards after)
    (asks : ∀ shard rest v, pending (shard :: rest) v →
      Smoothly ext caller req (ask shard.1 shard.2)
        (fun complaint later => complaint = none ∧ pending rest later) v)
    (start : pending shards w) :
    Smoothly ext caller req (Coordinator.fanOut ask shards)
      (fun complaint later => complaint = none ∧ pending [] later) w := by
  have joined : ∀ first second : Option String, first = none → second = none →
      first.or second = none := by
    rintro _ _ rfl rfl
    rfl
  refine Coordinator.wp_fanOut_each stable ?_ joined asks start
  rfl

/-- Participants of the ending session wait to be committed. -/
structure Waiting (session : Int) (shards : List (String × TxID)) (w : World) : Prop where
  healthy : w.Healthy (some session)
  distinct : shards.Pairwise fun first second => first.1 ≠ second.1
  recorded : ∀ shard ∈ shards, w.Recorded session shard.1 shard.2
  opened : ∀ shard ∈ shards, w.OpenAt shard.1 shard.2

theorem Waiting.rely
    (waiting : Waiting session shards before)
    (reached : housekept.rely before after) :
    Waiting session shards after where
  healthy := waiting.healthy.rely reached
  distinct := waiting.distinct
  recorded := fun shard listed => (recorded_rely reached).mpr (waiting.recorded shard listed)
  opened := fun shard listed => openAt_rely reached (waiting.opened shard listed)

/-- All participants of a healthy session wait. -/
theorem waiting_of_visited
    (order : RangeOrder)
    (healthy : w.Healthy none) :
    Waiting session ((order.visit (w.sessions session).shardTxIDs.entries).map
      fun entry => (entry.1, entry.2)) w := by
  have recorded : ∀ shard ∈ (order.visit (w.sessions session).shardTxIDs.entries).map
      (fun entry => (entry.1, entry.2)), w.Recorded session shard.1 shard.2 :=
    fun shard listed => (Map.mem_visited order _ shard.1 shard.2).mp listed
  exact ⟨healthy.relax session, Map.nodup_visited order _, recorded, fun shard listed =>
    healthy.opened session shard.1 shard.2 nofun (recorded shard listed)⟩

/-- The commit of the first participant succeeds and keeps the others waiting. -/
theorem smoothly_commitFirst
    {next : Except String CommitResponse → GateM α}
    (waiting : Waiting session ((tc.target, id) :: rest) w)
    (follows : ∀ later, Waiting session rest later →
      Smoothly ext caller req (next (.ok { committed := true })) post later) :
    Smoothly ext caller req (Prog.perform (.commit tc id) next) post w := by
  apply smoothly_perform
  intro before choice answer after reached answered granted stepped
  have now := waiting.rely reached
  have here := now.recorded _ List.mem_cons_self
  obtain ⟨tx, found⟩ := now.healthy.found here (now.opened _ List.mem_cons_self)
  obtain ⟨rfl, rfl⟩ := Prod.ext_iff.mp stepped
  have commits : GateOp.Inert (.commit tc id) := trivial
  have healthy := now.healthy.request ext caller commits choice rfl here
  obtain ⟨apart, distinct⟩ := List.pairwise_cons.mp now.distinct
  have succeeded : (before.act ext caller (.commit tc id) choice).1 = .ok { committed := true } :=
    World.committed_of_found found answered granted
  rw [succeeded]
  apply follows
  refine ⟨healthy, distinct, ?_, ?_⟩
  · intro shard listed
    exact (World.recorded_of_inert ext caller commits choice).mpr
      (now.recorded shard (List.mem_cons_of_mem _ listed))
  · intro shard listed
    obtain ⟨tx, known, active⟩ := now.opened shard (List.mem_cons_of_mem _ listed)
    refine ⟨tx, World.txns_act ext caller (.commit tc id) choice before known ?_, active⟩
    intro aims
    exact apart shard listed (now.healthy.aims rfl here aims).1.symm

theorem smoothly_commitShard (waiting : Waiting session (shard :: rest) w) :
    Smoothly ext caller req (Coordinator.commitShard shard.1 shard.2)
      (fun complaint later => complaint = none ∧ Waiting session rest later) w := by
  obtain ⟨addr, id⟩ := shard
  apply smoothly_getClient waiting.healthy.own
  rintro tc later rfl reached
  apply smoothly_commitFirst (waiting.rely reached)
  intro committed still last reachedLast
  exact ⟨rfl, still.rely reachedLast⟩

theorem smoothly_commitEach (waiting : Waiting session shards w) :
    Healthily ext caller req (Coordinator.commitEach session shards) w := by
  induction shards generalizing w with
  | nil => exact smoothly_concludeCommit waiting.healthy
  | cons shard rest ih =>
      obtain ⟨addr, id⟩ := shard
      apply smoothly_getClient waiting.healthy.own
      rintro tc later rfl reached
      exact smoothly_commitFirst (waiting.rely reached) fun _ still => ih still

/-- Participants of a healthy session are prepared without a complaint. -/
theorem smoothly_prepareShard
    (healthy : w.Healthy none)
    (recorded : w.Recorded session addr id) :
    Smoothly ext caller req (Coordinator.prepareShard addr id)
      (fun complaint later => complaint = none ∧ housekept.rely w later) w := by
  apply smoothly_getClient healthy.own
  rintro tc later rfl reached
  apply smoothly_perform
  intro before choice answer after reachedBefore answered granted stepped
  have now := housekept.rely_trans reached reachedBefore
  have here := (recorded_rely now).mpr recorded
  have healthyNow := healthy.rely now
  obtain ⟨tx, found⟩ := healthyNow.found here
    (healthyNow.opened session tc.target id nofun here)
  obtain ⟨rfl, rfl⟩ := Prod.ext_iff.mp stepped
  have succeeded : (before.act ext caller (.prepare tc id) choice).1 = .ok { prepared := true } :=
    World.prepared_of_found found answered granted
  have prepares : GateOp.Inert (.prepare tc id) := trivial
  have kept : housekept.rely before (before.act ext caller (.prepare tc id) choice).2 :=
    ⟨funext fun session => World.sessions_act ext caller (.prepare tc id) choice before
      (untouched_of_inert prepares before session), World.tablets_prepare answered,
      World.targetsOwn_act ext caller (.prepare tc id) choice⟩
  rw [succeeded]
  intro last reachedLast
  exact ⟨rfl, housekept.rely_trans now (housekept.rely_trans kept reachedLast)⟩

theorem smoothly_prepareAll (healthy : w.Healthy none) :
    Smoothly ext caller req (Coordinator.prepareAll session)
      (fun complaint later => complaint = none ∧ later.Healthy none) w := by
  refine smoothly_read ?_
  intro before choice after reached reachedAfter _
  have stable : ∀ (shards : List (String × TxID)) (before after : World),
      housekept.rely before after →
      (before.Healthy none ∧ ∀ shard ∈ shards, before.Recorded session shard.1 shard.2) →
      after.Healthy none ∧ ∀ shard ∈ shards, after.Recorded session shard.1 shard.2 :=
    fun _ _ _ reached pending => ⟨pending.1.rely reached, fun shard listed =>
      (recorded_rely reached).mpr (pending.2 shard listed)⟩
  have asks : ∀ (shard : String × TxID) (rest : List (String × TxID)) (v : World),
      (v.Healthy none ∧ ∀ other ∈ shard :: rest, v.Recorded session other.1 other.2) →
      Smoothly ext caller req (Coordinator.prepareShard shard.1 shard.2)
        (fun complaint later => complaint = none ∧
          (later.Healthy none ∧ ∀ other ∈ rest, later.Recorded session other.1 other.2)) v := by
    rintro shard rest v ⟨healthy, recorded⟩
    apply Prog.wp_mono (smoothly_prepareShard healthy (recorded shard List.mem_cons_self))
    rintro complaint later ⟨silent, kept⟩
    exact ⟨silent, healthy.rely kept, fun other listed =>
      (recorded_rely kept).mpr (recorded other (List.mem_cons_of_mem _ listed))⟩
  have start : after.Healthy none ∧
      ∀ shard ∈ (choice.order.visit (before.sessions session).shardTxIDs.entries).map
        (fun entry => (entry.1, entry.2)), after.Recorded session shard.1 shard.2 := by
    refine ⟨healthy.rely reachedAfter, fun shard listed => (recorded_rely reachedAfter).mpr ?_⟩
    exact (recorded_rely reached).mp ((Map.mem_visited choice.order _ shard.1 shard.2).mp listed)
  apply Prog.wp_seq (wp_fanOut_silent stable asks start)
  rintro complaint later ⟨rfl, kept, _⟩ last reachedLast
  exact ⟨rfl, kept.rely reachedLast⟩

theorem smoothly_commitInPhases (healthy : w.Healthy none) :
    Healthily ext caller req (Coordinator.commitInPhases session) w := by
  apply Prog.wp_seq (smoothly_prepareAll healthy)
  rintro complaint prepared ⟨rfl, healthyPrepared⟩
  apply Prog.wp_bind
  refine smoothly_read ?_
  intro before choice after reached reachedAfter _
  have start : Waiting session
      ((choice.order.visit (before.sessions session).shardTxIDs.entries).map
        fun entry => (entry.1, entry.2)) after := by
    rw [reached.1, ← reachedAfter.1]
    exact waiting_of_visited choice.order (healthyPrepared.rely reachedAfter)
  have stable : ∀ shards before after, housekept.rely before after →
      Waiting session shards before → Waiting session shards after :=
    fun _ _ _ reached waiting => waiting.rely reached
  have asks : ∀ shard rest v, Waiting session (shard :: rest) v →
      Smoothly ext caller req (Coordinator.commitShard shard.1 shard.2)
        (fun complaint later => complaint = none ∧ Waiting session rest later) v :=
    fun _ _ _ waiting => smoothly_commitShard waiting
  apply Prog.wp_seq (wp_fanOut_silent stable asks start)
  rintro complaint later ⟨rfl, done⟩ last reachedLast
  exact smoothly_concludeCommit (done.healthy.rely reachedLast)

/-- So does a commit. -/
theorem smoothly_commit (healthy : w.Healthy none) :
    Healthily ext caller req (Coordinator.commit session) w := by
  refine smoothly_read ?_
  intro _ _ after _ reachedAfter _
  simp only
  split
  · refine smoothly_read ?_
    intro _ _ printed _ reachedPrinted _
    exact smoothly_pure ((healthy.rely reachedAfter).rely reachedPrinted)
  · refine smoothly_read ?_
    intro _ _ counted _ reachedCounted _
    have healthyNow := (healthy.rely reachedAfter).rely reachedCounted
    split
    · apply smoothly_setState healthyNow
      intro _ done
      exact smoothly_pure done
    · split
      · refine smoothly_read ?_
        intro before choice listed reached reachedListed _
        apply smoothly_commitEach
        change Waiting session
          ((choice.order.visit (before.sessions session).shardTxIDs.entries).map
            fun entry => (entry.1, entry.2)) listed
        rw [reached.1, ← reachedListed.1]
        exact waiting_of_visited choice.order (healthyNow.rely reachedListed)
      · exact smoothly_commitInPhases healthyNow

/-! ### Requests -/

theorem smoothly_withSession
    (txID : Int)
    (missing : String)
    {rest : GateM Outcome}
    (follows : ∀ later : World, later.Healthy none → Healthily ext caller req rest later)
    (healthy : w.Healthy none) :
    Healthily ext caller req (Gateway.withSession txID missing rest) w := by
  refine smoothly_read ?_
  intro _ _ after _ reachedAfter _
  split
  · exact follows after (healthy.rely reachedAfter)
  · exact smoothly_pure (healthy.rely reachedAfter)

/-- So does a BEGIN. -/
theorem smoothly_handleBegin
    (txID : Int)
    (healthy : w.Healthy none) :
    Healthily ext caller req (Gateway.handleBegin txID) w := by
  unfold Gateway.handleBegin
  split
  · refine smoothly_withSession _ _ ?_ healthy
    intro later healthyLater
    refine smoothly_read ?_
    intro _ _ after _ reachedAfter _
    have healthyNow := healthyLater.rely reachedAfter
    simp only
    split
    · exact smoothly_pure healthyNow
    · apply smoothly_setState healthyNow
      intro _ begun
      apply smoothly_clear (begun.relax txID)
      intro _ cleared
      exact smoothly_pure cleared
  · apply smoothly_perform
    intro before choice session after reached _ _ stepped
    obtain ⟨_, rfl⟩ := Prod.ext_iff.mp stepped
    apply smoothly_setState ((healthy.rely reached).create ext caller choice)
    intro _ begun
    exact smoothly_pure begun

/-- Operations that change no session and are sent for no transaction. -/
def GateOp.Aimless (op : GateOp) : Prop :=
  op.Inert ∧ ∀ w addr id, ¬ op.Aims w addr id

theorem aimless_zero
    (tc : TabletClient)
    (sql : SqlText) :
    GateOp.Aimless (.execute tc sql TxID.zero) := by
  refine ⟨trivial, ?_⟩
  rintro w addr id ⟨txID, requested, nonzero, _⟩
  injection requested with same
  exact nonzero (congrArg TxID.id (congrArg Prod.snd same).symm)

/-- So does a statement outside a transaction. -/
theorem smoothly_executeAutocommit
    (sql : SqlText)
    (healthy : w.Healthy none) :
    Healthily ext caller req (Gateway.executeAutocommit ext sql) w := by
  have aimless : (Gateway.executeAutocommit ext sql).Only GateOp.Aimless :=
    Gateway.only_executeAutocommit ext ⟨trivial, fun _ _ _ aims => nomatch aims.choose_spec.1⟩
      (fun _ => aimless_zero _ _) (fun _ => aimless_zero _ _)
  refine Prog.wp_of_only (fun _ _ reached healthy => healthy.rely reached) ?_ aimless healthy
  rintro op before answer after ⟨inert, aimless⟩ ⟨choice, _, stepped⟩ healthyBefore
  obtain ⟨_, rfl⟩ := Prod.ext_iff.mp stepped
  exact ⟨trivial, healthyBefore.act ext caller inert choice fun _ addr id _ _ =>
    aimless before addr id⟩

/-- A request of smooth steps keeps the world healthy. -/
theorem smoothly_request (healthy : w.Healthy none) :
    Healthily ext caller req (Gateway.execute ext req) w := by
  have parts : Gateway.Assembles ext req fun program =>
      ∀ w : World, w.Healthy none → Healthily ext caller req program w := by
    constructor
    case answers => exact fun _ _ healthy => smoothly_pure healthy
    case looks => exact fun txID missing _ follows _ => smoothly_withSession txID missing follows
    case concludes =>
      intro failed program follows w healthy
      apply Prog.wp_seq (follows w healthy)
      intro outcome final kept
      exact smoothly_pure kept
    case begins => exact fun _ => smoothly_handleBegin _
    case commits => exact fun _ _ healthy => smoothly_commit healthy
    case rollbacks => exact fun _ _ healthy => smoothly_rollback healthy
    case forwards => exact fun _ => smoothly_executeAutocommit _
    case executes => exact fun inside _ => smoothly_execute inside
  exact parts.request w healthy

end Programs

/-! ### Whole runs -/

variable {ext : Externals} {w : World}

theorem healthy_of_requests (requests : Requests ext (Smooth ext) w) : w.Healthy none := by
  induction requests with
  | @start w own unrecorded =>
      have nothing : ∀ session addr id, ¬ w.Recorded session addr id := by
        intro session addr id recorded
        rw [World.Recorded, unrecorded session] at recorded
        cases recorded
      exact ⟨own, fun session addr id recorded => absurd recorded (nothing session addr id),
        fun session addr id _ recorded => absurd recorded (nothing session addr id),
        fun session _ addr id recorded => absurd recorded (nothing session addr id)⟩
  | housekeeping _ change ih =>
      exact ih.rely (housekept_of_housekeeping change)
  | request caller req _ returns _ ih =>
      exact returns.post (fun _ _ change => housekept_of_housekeeping change)
        (smoothly_request ih)

/-- Recorded participants are live in every run of smooth requests. -/
theorem participants_live_when_smooth
    (ext : Externals)
    (w : World)
    (requests : Requests ext (Smooth ext) w) : w.Live :=
  (healthy_of_requests requests).live

/-! ### Two shards -/

/-- A request is served alone. -/
theorem Requests.alone
    {allowed : Caller → QueryRequest → Step gate World Choice → Prop}
    (earlier : Requests ext allowed w)
    (caller : Caller)
    (req : QueryRequest)
    {strategy : Strategy gate World Choice Move}
    (quiet : strategy.Quiet)
    (all : ∀ step ∈ (Gateway.execute ext req).steps (World.machine ext) caller strategy w,
      step.choice.network = .answered ∧ allowed caller req step)
    (survived : (serve ext caller strategy req w).1 ≠ .error .crash) :
    Requests ext allowed (serve ext caller strategy req w).2 :=
  .request caller req earlier (.of_run quiet all) survived

theorem twoShardWorld_starts (allowed : Caller → QueryRequest → Step gate World Choice → Prop) :
    Requests integralExternals allowed twoShardWorld :=
  .start (targetsOwn_of_entries (by decide)) fun _ => rfl

/-- A session in a transaction without participants. -/
def newSession : World :=
  (serve integralExternals ⟨0, none⟩ (Strategy.constant {}) ⟨.ok [beginStatement], 0⟩
    twoShardWorld).2

/-- A session that has deleted on both shards holds live participants. -/
theorem twoParticipants_live :
    Requests integralExternals (Smooth integralExternals) twoParticipants ∧
      (twoParticipants.sessions 1).state = .inTransaction ∧
      twoParticipants.Recorded 1 "a:1" ⟨1, 0⟩ ∧ twoParticipants.Recorded 1 "b:1" ⟨1, 0⟩ ∧
      twoParticipants.Live := by
  have begun : Requests integralExternals (Smooth integralExternals) newSession :=
    (twoShardWorld_starts (Smooth integralExternals)).alone ⟨0, none⟩ _
      (fun _ _ => rfl) (by decide) (by decide)
  have deleted : Requests integralExternals (Smooth integralExternals) twoParticipants :=
    begun.alone ⟨1, some 1⟩ _ (fun _ _ => rfl) (by decide) (by decide)
  exact ⟨deleted, by decide, rfl, rfl,
    participants_live_when_smooth integralExternals twoParticipants deleted⟩

/-- A statement fails on one tablet. -/
def failsAt (addr : String) : Strategy gate World Choice Move where
  moves := fun _ _ => []
  choice := fun _ op =>
    match op with
    | .execute tc _ _ =>
        if tc.target = addr then { verdicts := fun _ => { failure := some "deadlock detected" } }
        else {}
    | _ => {}

/-- The world after a scatter that has failed on the second shard. -/
def failedScatter : World :=
  (serve integralExternals ⟨1, some 1⟩ (failsAt "b:1") ⟨.ok [deleteAllUsers], 1⟩ newSession).2

/-- A failed scatter leaves the session in its transaction with the ids of
transactions that were rolled back. -/
theorem failed_scatter_keeps_dead_participants :
    ∃ w, Requests integralExternals (fun _ _ _ => True) w ∧
      (w.sessions 1).state = .inTransaction ∧ w.Recorded 1 "a:1" ⟨1, 0⟩ ∧
      ((w.tablets "a:1").tx.txns ⟨1, 0⟩).map LocalTx.status = some .rolledBack ∧ ¬ w.Live := by
  have begun : Requests integralExternals (fun _ _ _ => True) newSession :=
    (twoShardWorld_starts fun _ _ _ => True).alone ⟨0, none⟩ _
      (fun _ _ => rfl) (by decide) (by decide)
  have failed : Requests integralExternals (fun _ _ _ => True) failedScatter :=
    begun.alone ⟨1, some 1⟩ _ (fun _ _ => rfl) (by decide) (by decide)
  have recorded : failedScatter.Recorded 1 "a:1" ⟨1, 0⟩ := rfl
  have gone : (failedScatter.tablets "a:1").tx.get ⟨1, 0⟩ = none := by decide
  refine ⟨failedScatter, failed, by decide, recorded, by decide, ?_⟩
  intro live
  obtain ⟨tx, found⟩ := live 1 "a:1" ⟨1, 0⟩ (by decide) recorded
  rw [gone] at found
  cases found

end VScale
