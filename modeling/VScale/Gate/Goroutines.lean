import VScale.Effects.ForkJoin
import VScale.Gate.Coordinator

/-!
# The commit with its goroutines

The phases of a commit start one goroutine for every participant, wait for all
of them and then drain a channel of errors that has room for one error from
each.  Running the goroutines one after the other gives back the programs of the
coordinator.
-/

namespace VScale

open Effects

/-- A program of the gate with goroutines that may report an error. -/
abbrev GateJob := Job gate String

namespace Coordinator

namespace Goroutines

/-- Start a goroutine for every participant and wait for all of them. -/
def askAll
    (sentinel : String)
    (ask : String → TxID → GateM (Option String))
    (session : Int) :
    GateJob (Option String) :=
  .perform (.participatingShardsMap session) fun shards =>
    .fork shards.length (shards.map fun shard => ask shard.1 shard.2) fun complaint =>
      .pure (complaint.map fun reason => sentinel ++ ": " ++ reason)

/-- The first phase, with one goroutine for each participant. -/
def prepareAll (session : Int) : GateJob (Option String) :=
  askAll errPrepareFailed prepareShard session

/-- The second phase, with one goroutine for each participant. -/
def commitAll (session : Int) : GateJob (Option String) :=
  askAll errCommitFailed commitShard session

/-- The rollback, with one goroutine for each participant. -/
def rollbackAll (session : Int) : GateJob (Option String) :=
  askAll errRollbackFailed rollbackShard session

/-- Return an error. -/
def fail (message : String) : GateJob Outcome :=
  .pure (.error (.error message))

/-- Roll everything back, ignoring complaints, and report a failure. -/
def abort (session : Int) (message : String) : GateJob Outcome := do
  let _ ← rollbackAll session
  fail message

/-- Record that the session is committed. -/
def concludeCommit (session : Int) : GateJob Outcome :=
  .perform (.setState session .committed) fun _ =>
    .perform (.clearParticipants session) fun _ =>
      .pure (.ok (acknowledge "COMMIT"))

/-- The loop of a commit with a single participant. -/
def commitEach (session : Int) : List (String × TxID) → GateJob Outcome
  | [] => concludeCommit session
  | (addr, txID) :: rest =>
      .perform (.getClient addr) fun client =>
        match client with
        | none => fail ("coordinator: tablet " ++ addr ++ " not available for commit")
        | some tc =>
            .perform (.commit tc txID) fun answer =>
              match answer with
              | .error failure =>
                  abort session ("coordinator: commit on " ++ addr ++ " failed: " ++ failure)
              | .ok resp =>
                  if resp.committed then commitEach session rest
                  else
                    abort session
                      ("coordinator: commit on " ++ addr ++ " rejected: " ++ resp.error)

/-- Two phases over all participants. -/
def commitInPhases (session : Int) : GateJob Outcome := do
  let unprepared ← prepareAll session
  match unprepared with
  | some failure => abort session failure
  | none => do
      let uncommitted ← commitAll session
      match uncommitted with
      | some failure => fail failure
      | none => concludeCommit session

/-- A commit whose phases run goroutines. -/
def commit (session : Int) : GateJob Outcome :=
  .perform (.getState session) fun (state : SessionState) =>
    if state ≠ .inTransaction then
      .perform (.getState session) fun (printed : SessionState) =>
        fail ("coordinator: cannot commit, session state=" ++
          Decimal.formatInt printed.number)
    else
      .perform (.shardCount session) fun (shardCount : Nat) =>
        if shardCount = 0 then
          .perform (.setState session .committed) fun _ =>
            .pure (.ok (acknowledge "COMMIT"))
        else if shardCount = 1 then
          .perform (.participatingShardsMap session) fun shards => commitEach session shards
        else
          commitInPhases session

theorem oneByOne_map
    (ask : String → TxID → GateM (Option String))
    (shards : List (String × TxID)) :
    Job.oneByOne (shards.map fun shard => ask shard.1 shard.2) = fanOut ask shards := by
  induction shards with
  | nil => rfl
  | cons shard shards ih =>
      rw [List.map_cons, Job.oneByOne, ih]
      rfl

/-- One after the other, the goroutines ask as the loop does. -/
theorem sequential_askAll
    (sentinel : String)
    (ask : String → TxID → GateM (Option String))
    (session : Int) :
    (askAll sentinel ask session).sequential = Coordinator.askAll sentinel ask session := by
  refine congrArg (Prog.perform _) (funext fun shards => ?_)
  rw [Job.sequential, oneByOne_map]
  rfl

theorem sequential_abort
    (session : Int)
    (message : String) :
    (abort session message).sequential = Coordinator.abort session message := by
  rw [abort, Job.sequential_bind, rollbackAll, sequential_askAll]
  rfl

theorem sequential_commitEach
    (session : Int)
    (shards : List (String × TxID)) :
    (commitEach session shards).sequential = Coordinator.commitEach session shards := by
  induction shards with
  | nil => rfl
  | cons shard shards ih =>
      refine congrArg (Prog.perform _) (funext fun client => ?_)
      cases client with
      | none => rfl
      | some tc =>
          refine congrArg (Prog.perform _) (funext fun answer => ?_)
          cases answer with
          | error failure => exact sequential_abort session _
          | ok resp =>
              dsimp only
              split
              · exact ih
              · exact sequential_abort session _

theorem sequential_commitInPhases (session : Int) :
    (commitInPhases session).sequential = Coordinator.commitInPhases session := by
  rw [commitInPhases, Job.sequential_bind, prepareAll, sequential_askAll]
  refine congrArg (Bind.bind _) (funext fun unprepared => ?_)
  cases unprepared with
  | some failure => exact sequential_abort session failure
  | none =>
      dsimp only
      rw [Job.sequential_bind, commitAll, sequential_askAll]
      refine congrArg (Bind.bind _) (funext fun uncommitted => ?_)
      cases uncommitted with
      | some | none => rfl

/-- Running its goroutines one after the other, the commit is the program of the
coordinator. -/
theorem sequential_commit (session : Int) :
    (commit session).sequential = Coordinator.commit session := by
  refine congrArg (Prog.perform _) (funext fun state => ?_)
  by_cases outside : state ≠ .inTransaction
  · simp only [if_pos outside]
    rfl
  · simp only [if_neg outside]
    refine congrArg (Prog.perform _) (funext fun shardCount => ?_)
    by_cases none : shardCount = 0
    · simp only [if_pos none]
      rfl
    · by_cases single : shardCount = 1
      · simp only [if_neg none, if_pos single]
        exact congrArg (Prog.perform _) (funext (sequential_commitEach session))
      · simp only [if_neg none, if_neg single]
        exact sequential_commitInPhases session

/-- The channel has room for the error of each goroutine. -/
theorem roomy_askAll
    (sentinel : String)
    (ask : String → TxID → GateM (Option String))
    (session : Int) :
    (askAll sentinel ask session).Roomy := by
  intro shards
  exact ⟨Nat.le_of_eq (List.length_map _), fun _ => trivial⟩

theorem roomy_abort (session : Int) (message : String) : (abort session message).Roomy :=
  Job.roomy_bind (roomy_askAll _ _ _) fun _ => trivial

theorem roomy_commitEach
    (session : Int)
    (shards : List (String × TxID)) :
    (commitEach session shards).Roomy := by
  induction shards with
  | nil => exact fun _ _ => trivial
  | cons shard shards ih =>
      intro client
      cases client with
      | none => exact trivial
      | some tc =>
          intro answer
          cases answer with
          | error failure => exact roomy_abort session _
          | ok resp =>
              dsimp only
              split
              · exact ih
              · exact roomy_abort session _

theorem roomy_commitInPhases (session : Int) : (commitInPhases session).Roomy := by
  apply Job.roomy_bind (roomy_askAll _ _ _)
  intro unprepared
  cases unprepared with
  | some failure => exact roomy_abort session failure
  | none =>
      apply Job.roomy_bind (roomy_askAll _ _ _)
      intro uncommitted
      cases uncommitted with
      | some failure => exact trivial
      | none => exact fun _ _ => trivial

/-- Every goroutine of a commit finds room for its error. -/
theorem roomy_commit (session : Int) : (commit session).Roomy := by
  intro state
  dsimp only
  split
  · exact fun _ => trivial
  · intro shardCount
    dsimp only
    split
    · exact fun _ => trivial
    · split
      · exact fun shards => roomy_commitEach session shards
      · exact roomy_commitInPhases session

end Goroutines

section Operations

variable {allowed : GateOp → Prop} {session : Int}

theorem only_askShard
    {request : TabletClient → TxID → GateM (Except String (Option String))}
    (looks : ∀ addr, allowed (.getClient addr))
    (requests : ∀ tc txID, (request tc txID).Only allowed)
    (step refusal addr : String)
    (txID : TxID) :
    (askShard step refusal request addr txID).Only allowed := by
  refine ⟨looks addr, ?_⟩
  intro client
  cases client with
  | none => exact trivial
  | some tc =>
      apply Prog.only_bind (requests tc txID)
      intro answer
      cases answer with
      | error failure => exact trivial
      | ok reason =>
          cases reason with
          | none | some => exact trivial

/-- The operations of a rollback on all participants. -/
structure Rollbacks (allowed : GateOp → Prop) (session : Int) : Prop where
  reads : allowed (.participatingShardsMap session)
  looks : ∀ addr, allowed (.getClient addr)
  rolls : ∀ tc txID, allowed (.rollback tc txID)

/-- The operations of a commit. -/
structure Commits
    (allowed : GateOp → Prop)
    (session : Int) : Prop extends
    Rollbacks allowed session where
  checks : allowed (.getState session)
  counts : allowed (.shardCount session)
  prepares : ∀ tc txID, allowed (.prepare tc txID)
  commits : ∀ tc txID, allowed (.commit tc txID)
  concludes : allowed (.setState session .committed)
  clears : allowed (.clearParticipants session)

namespace Goroutines

section Reads

variable
  (reads : allowed (.participatingShardsMap session))
  (looks : ∀ addr, allowed (.getClient addr))
include reads looks

/-- Every participant is asked with the operations of its request. -/
theorem only_askAll
    {sentinel step refusal : String}
    {request : TabletClient → TxID → GateM (Except String (Option String))}
    (requests : ∀ tc txID, (request tc txID).Only allowed) :
    (askAll sentinel (askShard step refusal request) session).Only allowed := by
  refine ⟨reads, fun shards => ⟨?_, fun _ => trivial⟩⟩
  intro program present
  obtain ⟨shard, _, rfl⟩ := List.mem_map.mp present
  exact only_askShard looks requests step refusal shard.1 shard.2

theorem only_prepareAll
    (prepares : ∀ tc txID, allowed (.prepare tc txID)) :
    (prepareAll session).Only allowed :=
  only_askAll reads looks fun tc txID => ⟨prepares tc txID, fun _ => trivial⟩

theorem only_commitAll
    (commits : ∀ tc txID, allowed (.commit tc txID)) :
    (commitAll session).Only allowed :=
  only_askAll reads looks fun tc txID => ⟨commits tc txID, fun _ => trivial⟩

end Reads

theorem only_rollbackAll (may : Rollbacks allowed session) : (rollbackAll session).Only allowed :=
  only_askAll may.reads may.looks fun tc txID => ⟨may.rolls tc txID, fun _ => trivial⟩

theorem only_abort
    (may : Rollbacks allowed session)
    (message : String) :
    (abort session message).Only allowed :=
  Job.only_bind (only_rollbackAll may) fun _ => trivial

theorem only_concludeCommit (may : Commits allowed session) :
    (concludeCommit session).Only allowed :=
  ⟨may.concludes, fun _ => ⟨may.clears, fun _ => trivial⟩⟩

theorem only_commitEach
    (may : Commits allowed session)
    (shards : List (String × TxID)) :
    (commitEach session shards).Only allowed := by
  induction shards with
  | nil => exact only_concludeCommit may
  | cons shard shards ih =>
      refine ⟨may.looks shard.1, ?_⟩
      intro client
      cases client with
      | none => exact trivial
      | some tc =>
          refine ⟨may.commits tc shard.2, ?_⟩
          intro answer
          cases answer with
          | error failure => exact only_abort may.toRollbacks _
          | ok resp =>
              dsimp only
              split
              · exact ih
              · exact only_abort may.toRollbacks _

theorem only_commitInPhases (may : Commits allowed session) :
    (commitInPhases session).Only allowed := by
  apply Job.only_bind (only_prepareAll may.reads may.looks may.prepares)
  intro unprepared
  cases unprepared with
  | some failure => exact only_abort may.toRollbacks failure
  | none =>
      apply Job.only_bind (only_commitAll may.reads may.looks may.commits)
      intro uncommitted
      cases uncommitted with
      | some failure => exact trivial
      | none => exact only_concludeCommit may

theorem only_commit (may : Commits allowed session) : (commit session).Only allowed := by
  refine ⟨may.checks, fun state => ?_⟩
  dsimp only
  split
  · exact ⟨may.checks, fun _ => trivial⟩
  · refine ⟨may.counts, fun shardCount => ?_⟩
    dsimp only
    split
    · exact ⟨may.concludes, fun _ => trivial⟩
    · split
      · exact ⟨may.reads, fun shards => only_commitEach may shards⟩
      · exact only_commitInPhases may

end Goroutines

end Operations

end Coordinator

end VScale
