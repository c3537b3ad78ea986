import VScale.Gate.ScatterCoverage
import VScale.Gate.Transactions

/-!
# Committing on all participants or on none

A transaction over several shards is committed in two phases, but a tablet that
has prepared promises nothing.  The participants end together as long as the
commits of one call all take effect, on a client that is found, or none does.
-/

namespace VScale

open Collections Effects

/-- Operations of a commit or a rollback. -/
def GateOp.Ends : GateOp → Prop
  | .getState _ | .setState _ _ | .shardCount _ | .participatingShardsMap _
  | .clearParticipants _ | .getClient _ | .prepare _ _ | .commit _ _ | .rollback _ _ => True
  | _ => False

/-- Those of them that neither commit nor forget participants. -/
def GateOp.Keeps : GateOp → Prop
  | .clearParticipants _ | .commit _ _ => False
  | op => op.Ends

/-- Those of them that do not commit. -/
def GateOp.Spares : GateOp → Prop
  | .commit _ _ => False
  | op => op.Ends

/-- What others do during such a call. -/
def ending : Contract World where
  rely := fun before after =>
    after.sessions = before.sessions ∧
      (∀ addr id, after.Committed addr id ↔ before.Committed addr id) ∧
      (before.router.TargetsOwn → after.router.TargetsOwn)
  guarantee := fun _ _ => True
  rely_refl := fun _ => ⟨rfl, fun _ _ => Iff.rfl, id⟩
  rely_trans := fun one other =>
    ⟨other.1.trans one.1, fun addr id => (other.2.1 addr id).trans (one.2.1 addr id),
      fun own => other.2.2 (one.2.2 own)⟩

theorem ending_disturbed
    (ext : Externals)
    (moves : List Move)
    (w : World) :
    ending.rely w (moves.foldl (fun w move => (World.machine ext).disturb move w) w) := by
  induction moves generalizing w with
  | nil => exact ending.rely_refl w
  | cons move moves ih =>
      have first : ending.rely w (w.disturb move) :=
        ⟨sessions_disturb move w, committed_disturb move w, targetsOwn_disturb move⟩
      exact ending.rely_trans first (ih (w.disturb move))

variable {op : GateOp}

theorem idle_of_ends (ends : op.Ends) : op.Idle := by
  cases op with
  | execute tc sql txID => exact ends
  | _ => exact trivial

theorem ends_of_keeps (keeps : op.Keeps) : op.Ends := by
  cases op with
  | clearParticipants | commit => exact trivial
  | _ => exact keeps

theorem router_of_ends
    (ext : Externals)
    (caller : Caller)
    (choice : Choice)
    (w : World)
    (ends : op.Ends) :
    (w.act ext caller op choice).2.router = w.router := by
  cases op with
  | setState session state =>
      simp only [World.act]
      split
      · rfl
      · rfl
  | prepare | commit | rollback => exact (World.callTablet_frame _ _ _ _ _).2.1
  | getState | shardCount | participatingShardsMap | clearParticipants | getClient => rfl
  | _ => exact False.elim ends

/-- Participants are kept or forgotten. -/
theorem participants_of_ends
    (ext : Externals)
    (caller : Caller)
    (choice : Choice)
    (w : World)
    (ends : op.Ends)
    (session : Int) :
    ((w.act ext caller op choice).2.sessions session).shardTxIDs =
        (w.sessions session).shardTxIDs ∨
      ((w.act ext caller op choice).2.sessions session).shardTxIDs = ∅ ∧
        op = .clearParticipants session := by
  cases op with
  | setState other state =>
      left
      have same : (Function.update w.sessions other { w.sessions other with state := state }
          session).shardTxIDs = (w.sessions session).shardTxIDs := by
        by_cases here : session = other
        · rw [here, Function.update_self]
        · rw [Function.update_of_ne here]
      simp only [World.act]
      split
      · exact same
      · exact same
  | clearParticipants other =>
      by_cases here : session = other
      · right
        subst here
        refine ⟨?_, rfl⟩
        simp only [World.act, World.updateSession, Function.update_self]
      · left
        simp only [World.act, World.updateSession, Function.update_of_ne here]
  | prepare | commit | rollback =>
      exact Or.inl (congrArg _ (congrFun (World.callTablet_frame _ _ _ _ _).1 _))
  | getState | shardCount | participatingShardsMap | getClient => exact Or.inl rfl
  | _ => exact False.elim ends

/-- No participant has been committed. -/
def NoneCommitted (participants : Map String TxID) (w : World) : Prop :=
  ∀ entry ∈ participants.entries, ¬ w.Committed entry.1 entry.2

/-- All participants have been committed. -/
def AllCommitted (participants : Map String TxID) (w : World) : Prop :=
  ∀ entry ∈ participants.entries, w.Committed entry.1 entry.2

/-- The session holds the participants, or has forgotten them. -/
structure Holding (session : Int) (participants : Map String TxID) (w : World) : Prop where
  own : w.router.TargetsOwn
  held : (w.sessions session).shardTxIDs = participants ∨ (w.sessions session).shardTxIDs = ∅

/-- The step commits no participant. -/
def CommitsNone (participants : Map String TxID) (step : Step gate World Choice) : Prop :=
  ∀ entry ∈ participants.entries, ¬ CommitTakes step entry.1 entry.2

/-- A commit takes effect on the transaction it names, and a client is found. -/
def Reaches (step : Step gate World Choice) : Prop :=
  match step.op with
  | .commit tc txID => CommitTakes step tc.target txID
  | .getClient addr => (step.before.router.getClient addr).isSome = true
  | _ => True

/-- What a program of the coordinator does to the participants when its steps are allowed. -/
abbrev Finishing
    (ext : Externals)
    (caller : Caller)
    (allowed : Step gate World Choice → Prop)
    (program : GateM α)
    (post : α → World → Prop)
    (w : World) : Prop :=
  program.wp ending ((World.machine ext).StepsWhen allowed caller) post w

instance : ∀ step : Step gate World Choice, Decidable (Reaches step)
  | ⟨before, .commit tc txID, choice⟩ =>
      inferInstanceAs (Decidable (CommitTakes ⟨before, .commit tc txID, choice⟩ tc.target txID))
  | ⟨_, .getClient _, _⟩ => inferInstanceAs (Decidable (_ = true))
  | ⟨_, .create, _⟩ | ⟨_, .get _, _⟩ | ⟨_, .getState _, _⟩ | ⟨_, .setState _ _, _⟩
  | ⟨_, .shardCount _, _⟩ | ⟨_, .isParticipating _ _, _⟩ | ⟨_, .participatingShardsMap _, _⟩
  | ⟨_, .clearParticipants _, _⟩ | ⟨_, .setLocalTxID _ _ _, _⟩ | ⟨_, .getLocalTxID _ _, _⟩
  | ⟨_, .route _ _, _⟩ | ⟨_, .begin _, _⟩ | ⟨_, .execute _ _ _, _⟩ | ⟨_, .prepare _ _, _⟩
  | ⟨_, .rollback _ _, _⟩ => .isTrue trivial

section Invariants

variable {ext : Externals} {caller : Caller} {session : Int} {participants : Map String TxID}
variable {allowed : Step gate World Choice → Prop} {w before after : World}

theorem Holding.stable
    (holding : Holding session participants before)
    (reached : ending.rely before after) : Holding session participants after :=
  ⟨reached.2.2 holding.own, by rw [reached.1]; exact holding.held⟩

variable {op : GateOp}

variable (ext caller) in
theorem Holding.act
    (holding : Holding session participants w)
    (ends : op.Ends)
    (choice : Choice) : Holding session participants (w.act ext caller op choice).2 := by
  refine ⟨?_, ?_⟩
  · rw [router_of_ends ext caller choice w ends]
    exact holding.own
  · rcases participants_of_ends ext caller choice w ends session with same | ⟨empty, _⟩
    · rw [same]
      exact holding.held
    · exact Or.inr empty

theorem NoneCommitted.stable
    (none : NoneCommitted participants before)
    (reached : ending.rely before after) : NoneCommitted participants after :=
  fun entry present committed => none entry present ((reached.2.1 _ _).mp committed)

theorem NoneCommitted.act
    (none : NoneCommitted participants w)
    (idle : op.Idle)
    {choice : Choice}
    (commitsNone : CommitsNone participants ⟨w, op, choice⟩) :
    NoneCommitted participants (w.act ext caller op choice).2 := by
  intro entry present committed
  rcases (committed_act ext caller choice w idle entry.1 entry.2).mp committed with old | new
  · exact none entry present old
  · exact commitsNone entry present new

theorem AllCommitted.stable
    (all : AllCommitted participants before)
    (reached : ending.rely before after) : AllCommitted participants after :=
  fun entry present => (reached.2.1 _ _).mpr (all entry present)

theorem AllCommitted.act
    (all : AllCommitted participants w)
    (idle : op.Idle)
    (choice : Choice) : AllCommitted participants (w.act ext caller op choice).2 :=
  fun entry present =>
    (committed_act ext caller choice w idle entry.1 entry.2).mpr (Or.inl (all entry present))

variable {program : GateM α}

/-- Once all participants are committed they stay so. -/
theorem wp_all_committed
    (ends : program.Only GateOp.Ends)
    (holding : Holding session participants w)
    (all : AllCommitted participants w) :
    Finishing ext caller allowed program
      (fun _ later => Holding session participants later ∧ AllCommitted participants later) w := by
  refine Prog.wp_of_only (fun _ _ reached kept => ⟨kept.1.stable reached, kept.2.stable reached⟩) ?_
    ends ⟨holding, all⟩
  rintro op before _ _ ends ⟨choice, _, stepped⟩ ⟨held, committed⟩
  obtain ⟨_, rfl⟩ := Prod.ext_iff.mp stepped
  exact ⟨trivial, held.act ext caller ends choice, committed.act (idle_of_ends ends) choice⟩

/-- Steps that commit no participant leave none committed. -/
theorem wp_none_committed
    {kind : GateOp → Prop}
    (only : program.Only kind)
    (ends : ∀ op, kind op → op.Ends)
    (none : ∀ step, kind step.op → allowed step → CommitsNone participants step)
    (holding : Holding session participants w)
    (fresh : NoneCommitted participants w) :
    Finishing ext caller allowed program
      (fun _ later => Holding session participants later ∧ NoneCommitted participants later) w := by
  refine Prog.wp_of_only (fun _ _ reached kept => ⟨kept.1.stable reached, kept.2.stable reached⟩) ?_
    only ⟨holding, fresh⟩
  rintro op before _ _ kindly ⟨choice, permitted, stepped⟩ ⟨held, uncommitted⟩
  obtain ⟨_, rfl⟩ := Prod.ext_iff.mp stepped
  exact ⟨trivial, held.act ext caller (ends op kindly) choice,
    uncommitted.act (idle_of_ends (ends op kindly)) (none _ kindly permitted)⟩

theorem ends_of_spares (op : GateOp) (spares : op.Spares) : op.Ends := by
  cases op with
  | commit tc txID => exact trivial
  | _ => exact spares

/-- A program without commits leaves no participant committed. -/
theorem wp_spares
    (spares : program.Only GateOp.Spares)
    (holding : Holding session participants w)
    (fresh : NoneCommitted participants w) :
    Finishing ext caller allowed program
      (fun _ later => Holding session participants later ∧ NoneCommitted participants later) w := by
  apply wp_none_committed spares ends_of_spares ?_ holding fresh
  rintro ⟨before, op, choice⟩ kindly _ entry _ takes
  cases op with
  | commit tc txID => exact kindly
  | _ => exact takes

end Invariants

/-- The session holds its participants, and some of them have been committed. -/
structure Progress
    (session : Int)
    (participants : Map String TxID)
    (done : List (String × TxID))
    (w : World) : Prop where
  own : w.router.TargetsOwn
  held : (w.sessions session).shardTxIDs = participants
  committed : ∀ entry ∈ done, w.Committed entry.1 entry.2

section Phases

variable {ext : Externals} {caller : Caller} {session : Int} {participants : Map String TxID}
variable {allowed : Step gate World Choice → Prop} {done : List (String × TxID)}
variable {w before after : World}

theorem Progress.stable
    (progress : Progress session participants done before)
    (reached : ending.rely before after) : Progress session participants done after :=
  ⟨reached.2.2 progress.own, by rw [reached.1]; exact progress.held,
    fun entry present => (reached.2.1 _ _).mpr (progress.committed entry present)⟩

variable {op : GateOp}

variable (ext caller) in
theorem Progress.act
    (progress : Progress session participants done w)
    (ends : op.Ends)
    (remembers : op ≠ .clearParticipants session)
    (choice : Choice) :
    Progress session participants done (w.act ext caller op choice).2 := by
  refine ⟨?_, ?_, ?_⟩
  · rw [router_of_ends ext caller choice w ends]
    exact progress.own
  · rcases participants_of_ends ext caller choice w ends session with same | ⟨_, clears⟩
    · rw [same]
      exact progress.held
    · exact absurd clears remembers
  · intro entry present
    exact (committed_act ext caller choice w (idle_of_ends ends) entry.1 entry.2).mpr
      (Or.inl (progress.committed entry present))

theorem Progress.holding (progress : Progress session participants done w) :
    Holding session participants w :=
  ⟨progress.own, Or.inl progress.held⟩

theorem commitsNone_of_keeps
    (keeps : op.Keeps)
    (choice : Choice) :
    CommitsNone participants ⟨w, op, choice⟩ := by
  intro entry _ takes
  cases op with
  | commit tc txID => exact keeps
  | _ => exact takes

/-- A phase that only looks or rolls back commits nothing. -/
theorem wp_keeps
    {program : GateM α}
    (keeps : program.Only GateOp.Keeps)
    (progress : Progress session participants [] w)
    (fresh : NoneCommitted participants w) :
    Finishing ext caller allowed program
      (fun _ later => Progress session participants [] later ∧ NoneCommitted participants later)
      w := by
  refine Prog.wp_of_only (fun _ _ reached kept => ⟨kept.1.stable reached, kept.2.stable reached⟩) ?_
    keeps ⟨progress, fresh⟩
  rintro op before _ _ keeps ⟨choice, _, stepped⟩ ⟨held, uncommitted⟩
  obtain ⟨_, rfl⟩ := Prod.ext_iff.mp stepped
  exact ⟨trivial, held.act ext caller (ends_of_keeps keeps) (by rintro rfl; exact keeps) choice,
    uncommitted.act (idle_of_ends (ends_of_keeps keeps)) (commitsNone_of_keeps keeps choice)⟩

variable {post : α → World → Prop}

/-- The client of a participant is found and reaches it. -/
theorem wp_getClient
    {addr : String}
    {next : Option TabletClient → GateM α}
    (progress : Progress session participants done w)
    (follows : ∀ tc after, tc.target = addr → Progress session participants done after →
      Finishing ext caller Reaches (next (some tc)) post after) :
    Finishing ext caller Reaches (Prog.perform (.getClient addr) next) post w := by
  refine Prog.wp_perform_when ?_
  intro before choice reached found
  have progress := progress.stable reached
  obtain ⟨tc, known⟩ := Option.isSome_iff_exists.mp
    (show ((World.machine ext).act caller (.getClient addr) choice before).1.isSome = true
      from found)
  rw [known]
  exact follows tc before (progress.own addr tc known) progress

/-- A commit takes effect on the participant. -/
theorem wp_commit_takes
    {tc : TabletClient}
    {txID : TxID}
    {next : Except String CommitResponse → GateM α}
    (progress : Progress session participants done w)
    (follows : ∀ answer after,
      Progress session participants ((tc.target, txID) :: done) after →
      Finishing ext caller Reaches (next answer) post after) :
    Finishing ext caller Reaches (Prog.perform (.commit tc txID) next) post w := by
  refine Prog.wp_perform_when ?_
  intro before choice reached takes
  have ends : GateOp.Ends (.commit tc txID) := trivial
  have moved := (progress.stable reached).act ext caller ends nofun choice
  have committed := (committed_act ext caller choice before (idle_of_ends ends) tc.target txID).mpr
    (Or.inr takes)
  exact follows _ _
    ⟨moved.own, moved.held, List.forall_mem_cons.mpr ⟨committed, moved.committed⟩⟩

/-- The commit of one participant. -/
theorem wp_commit_ask
    (addr : String)
    (txID : TxID)
    (progress : Progress session participants done w) :
    Finishing ext caller Reaches (Coordinator.commitShard addr txID)
      (fun _ later => Progress session participants ((addr, txID) :: done) later) w := by
  apply wp_getClient progress
  intro tc found target progress
  apply Prog.wp_bind
  apply wp_commit_takes progress
  intro answer after progress
  rw [target] at progress
  intro middle reached
  have progress := progress.stable reached
  cases answer with
  | error failure => exact fun later reached => progress.stable reached
  | ok resp =>
      simp only [Except.map]
      split
      · exact fun later reached => progress.stable reached
      · exact fun later reached => progress.stable reached
      · exact fun later reached => progress.stable reached

/-- The second phase commits every participant it visits. -/
theorem wp_commit_fanOut
    (shards : List (String × TxID))
    (progress : Progress session participants done w) :
    Finishing ext caller Reaches (Coordinator.fanOut Coordinator.commitShard shards)
      (fun _ later => Progress session participants (shards.reverse ++ done) later) w := by
  induction shards generalizing done w with
  | nil => exact fun later reached => progress.stable reached
  | cons shard shards ih =>
      apply Prog.wp_seq (wp_commit_ask shard.1 shard.2 progress)
      intro complaint after progress
      apply Prog.wp_seq (ih progress)
      intro complaints final progress later reached
      rw [List.reverse_cons, List.append_assoc]
      exact progress.stable reached

/-- What a read of the participants returns. -/
theorem wp_participatingShardsMap
    {next : List (String × TxID) → GateM α}
    (progress : Progress session participants done w)
    (follows : ∀ shards after,
      shards.Perm (participants.entries.map fun entry => (entry.1, entry.2)) →
      Progress session participants done after →
      (∀ addr id, after.Committed addr id ↔ w.Committed addr id) →
      Finishing ext caller allowed (next shards) post after) :
    Finishing ext caller allowed (Prog.perform (.participatingShardsMap session) next) post w := by
  refine Prog.wp_perform_when ?_
  intro before choice reached _
  have progress := progress.stable reached
  have ends : GateOp.Ends (.participatingShardsMap session) := trivial
  refine follows _ _ ?_ (progress.act ext caller ends nofun choice) reached.2.1
  rw [← progress.held]
  exact (RangeOrder.visit_perm _ _).map _

/-- A visit of all participants commits them all. -/
theorem Progress.all
    {shards : List (String × TxID)}
    (visited : shards.Perm (participants.entries.map fun entry => (entry.1, entry.2)))
    (progress : Progress session participants (shards.reverse ++ done) w) :
    AllCommitted participants w := by
  intro entry present
  apply progress.committed (entry.1, entry.2)
  apply List.mem_append_left
  rw [List.mem_reverse, visited.mem_iff]
  exact List.mem_map_of_mem present

end Phases

/-- Either no participant has been committed or all have. -/
def Together (participants : Map String TxID) (w : World) : Prop :=
  NoneCommitted participants w ∨ AllCommitted participants w

theorem ends_commits (session : Int) : Coordinator.Commits GateOp.Ends session where
  reads := trivial
  looks := fun _ => trivial
  rolls := fun _ _ => trivial
  checks := trivial
  counts := trivial
  prepares := fun _ _ => trivial
  commits := fun _ _ => trivial
  concludes := trivial
  clears := trivial

theorem ends_commit (session : Int) : (Coordinator.commit session).Only GateOp.Ends :=
  Coordinator.only_commit (ends_commits session)

theorem keeps_rollbacks (session : Int) : Coordinator.Rollbacks GateOp.Keeps session :=
  ⟨trivial, fun _ => trivial, fun _ _ => trivial⟩

section Calls

variable {ext : Externals} {caller : Caller} {session : Int} {participants : Map String TxID}
variable {w : World}

variable {allowed : Step gate World Choice → Prop}

variable {program : GateM α}

/-- After the participants have been committed, the rest of a call changes nothing. -/
theorem wp_conclude
    (ends : program.Only GateOp.Ends)
    (holding : Holding session participants w)
    (all : AllCommitted participants w) :
    Finishing ext caller allowed program
      (fun _ later => Holding session participants later ∧ Together participants later) w :=
  Prog.wp_mono (wp_all_committed ends holding all)
    fun _ _ settled => ⟨settled.1, Or.inr settled.2⟩

/-- A program that only looks or rolls back leaves the participants together. -/
theorem wp_give_up
    (keeps : program.Only GateOp.Keeps)
    (progress : Progress session participants [] w)
    (fresh : NoneCommitted participants w) :
    Finishing ext caller allowed program
      (fun _ later => Holding session participants later ∧ Together participants later) w :=
  Prog.wp_mono (wp_keeps keeps progress fresh)
    fun _ _ kept => ⟨kept.1.holding, Or.inl kept.2⟩

/-- The commit of a single participant. -/
theorem wp_commitEach
    {shards : List (String × TxID)}
    (visited : shards.Perm (participants.entries.map fun entry => (entry.1, entry.2)))
    (single : shards.length = 1)
    (progress : Progress session participants [] w) :
    Finishing ext caller Reaches (Coordinator.commitEach session shards)
      (fun _ later => Holding session participants later ∧ Together participants later) w := by
  obtain ⟨⟨addr, txID⟩, rfl⟩ := List.length_eq_one_iff.mp single
  apply wp_getClient progress
  intro tc found target progress
  apply wp_commit_takes progress
  intro answer after progress
  rw [target] at progress
  have all : AllCommitted participants after := Progress.all visited progress
  have aborts : ∀ message, (Coordinator.abort session message).Only GateOp.Ends :=
    Coordinator.only_abort (ends_commits session).toRollbacks
  cases answer with
  | error failure => exact wp_conclude (aborts _) progress.holding all
  | ok resp =>
      simp only
      split
      · exact wp_conclude (Coordinator.only_concludeCommit (ends_commits session))
          progress.holding all
      · exact wp_conclude (aborts _) progress.holding all

/-- The commit of several participants. -/
theorem wp_commitInPhases
    (progress : Progress session participants [] w)
    (fresh : NoneCommitted participants w) :
    Finishing ext caller Reaches (Coordinator.commitInPhases session)
      (fun _ later => Holding session participants later ∧ Together participants later) w := by
  have prepares : (Coordinator.prepareAll session).Only GateOp.Keeps :=
    Coordinator.only_prepareAll trivial (fun _ => trivial) (fun _ _ => trivial)
  apply Prog.wp_seq (wp_keeps prepares progress fresh)
  rintro unprepared prepared ⟨progress, fresh⟩
  cases unprepared with
  | some failure =>
      exact wp_give_up (Coordinator.only_abort (keeps_rollbacks session) failure) progress fresh
  | none =>
      apply Prog.wp_bind
      apply wp_participatingShardsMap progress
      intro shards read visited progress _
      apply Prog.wp_seq (wp_commit_fanOut shards progress)
      intro complaint committed progress later reached
      have progress := progress.stable reached
      have all := Progress.all visited progress
      cases complaint with
      | some reason => exact wp_conclude trivial progress.holding all
      | none =>
          exact wp_conclude (Coordinator.only_concludeCommit (ends_commits session))
            progress.holding all

/-- A commit whose commits all take effect keeps the participants together. -/
theorem wp_commit_reaches
    (holding : Holding session participants w)
    (fresh : NoneCommitted participants w) :
    Finishing ext caller Reaches (Coordinator.commit session)
      (fun _ later => Holding session participants later ∧ Together participants later) w := by
  have spared : ∀ {program : GateM Outcome} {w : World}, program.Only GateOp.Spares →
      Holding session participants w → NoneCommitted participants w →
      Finishing ext caller Reaches program
        (fun _ later => Holding session participants later ∧ Together participants later) w :=
    fun spares holding fresh => Prog.wp_mono (wp_spares spares holding fresh)
      fun _ _ kept => ⟨kept.1, Or.inl kept.2⟩
  refine Prog.wp_perform_when ?_
  intro before _ reached _
  replace holding := holding.stable reached
  replace fresh := fresh.stable reached
  simp only
  split
  · exact spared ⟨trivial, fun _ => trivial⟩ holding fresh
  · refine Prog.wp_perform_when ?_
    intro later choice still _
    replace holding := holding.stable still
    replace fresh : NoneCommitted participants _ := fresh.stable still
    have ends : GateOp.Ends (.shardCount session) := trivial
    have counted := holding.act ext caller ends choice
    simp only
    split
    · exact spared ⟨trivial, fun _ => trivial⟩ counted fresh
    · rename_i some
      have held : (later.sessions session).shardTxIDs = participants := by
        refine holding.held.resolve_right fun empty => some ?_
        exact congrArg (fun map : Map String TxID => map.entries.length) empty
      have progress : Progress session participants []
          (later.act ext caller (.shardCount session) choice).2 :=
        ⟨counted.own, held, List.forall_mem_nil _⟩
      split
      · rename_i single
        apply wp_participatingShardsMap progress
        intro shards read visited progress _
        apply wp_commitEach visited ?_ progress
        rw [visited.length_eq, List.length_map, ← held]
        exact single
      · exact wp_commitInPhases progress fresh

end Calls

/-- A transaction that a commit could still reach. -/
def World.CanCommit (w : World) (addr : String) (id : TxID) : Prop :=
  ∃ tx, (w.tablets addr).tx.txns id = some tx ∧ tx.status = .active ∧
    id.epoch = (w.tablets addr).tx.epoch

/-- No participant is committed while another one no longer can be. -/
def Atomic (participants : Map String TxID) (w : World) : Prop :=
  ∀ first ∈ participants.entries, ∀ second ∈ participants.entries,
    w.Committed first.1 first.2 → w.Committed second.1 second.2 ∨ w.CanCommit second.1 second.2

/-- Within one call no commit takes effect on a participant, or all commits take
effect and every client is found. -/
def CommitsTogether
    (participants : Map String TxID)
    (steps : List (Step gate World Choice)) :
    Prop :=
  (∀ step ∈ steps, CommitsNone participants step) ∨ ∀ step ∈ steps, Reaches step

/-- The worlds after commits and rollbacks of one session, each commit of which
commits together. -/
inductive AfterCalls
    (ext : Externals)
    (session : Int)
    (participants : Map String TxID)
    (w : World) : World → Prop
  | start : AfterCalls ext session participants w w
  | move {middle : World} (earlier : AfterCalls ext session participants w middle)
      (move : Move) : AfterCalls ext session participants w (middle.disturb move)
  | commit {middle : World} (earlier : AfterCalls ext session participants w middle)
      (caller : Caller) (strategy : Strategy gate World Choice Move)
      (together : CommitsTogether participants
        ((Coordinator.commit session).steps (World.machine ext) caller strategy middle)) :
      AfterCalls ext session participants w
        ((Coordinator.commit session).run (World.machine ext) caller strategy middle).2
  | rollback {middle : World} (earlier : AfterCalls ext session participants w middle)
      (caller : Caller) (strategy : Strategy gate World Choice Move) :
      AfterCalls ext session participants w
        ((Coordinator.rollback session).run (World.machine ext) caller strategy middle).2

section Sequences

variable {ext : Externals} {session : Int} {participants : Map String TxID} {w : World}

theorem Together.atomic (together : Together participants w) : Atomic participants w := by
  intro first present second listed committed
  rcases together with none | all
  · exact absurd committed (none first present)
  · exact Or.inl (all second listed)

/-- A call of known steps keeps what its weakest precondition says. -/
theorem together_of_wp
    {program : GateM Outcome}
    {allowed : Step gate World Choice → Prop}
    {caller : Caller}
    {strategy : Strategy gate World Choice Move}
    (all : ∀ step ∈ program.steps (World.machine ext) caller strategy w, allowed step)
    (holds : Finishing ext caller allowed program
      (fun _ later => Holding session participants later ∧ Together participants later) w) :
    Holding session participants (program.run (World.machine ext) caller strategy w).2 ∧
      Together participants (program.run (World.machine ext) caller strategy w).2 :=
  Prog.run_of_wp_steps (fun before _ => ending_disturbed ext _ before) all holds

theorem together_commit
    (caller : Caller)
    (strategy : Strategy gate World Choice Move)
    (commits : CommitsTogether participants
      ((Coordinator.commit session).steps (World.machine ext) caller strategy w))
    (holding : Holding session participants w)
    (together : Together participants w) :
    Holding session participants
        ((Coordinator.commit session).run (World.machine ext) caller strategy w).2 ∧
      Together participants
        ((Coordinator.commit session).run (World.machine ext) caller strategy w).2 := by
  rcases together with fresh | all
  · rcases commits with none | reaches
    · apply together_of_wp none
      exact Prog.wp_mono (wp_none_committed (ends_commit session) (fun _ ends => ends)
        (fun _ _ none => none) holding fresh) fun _ _ kept => ⟨kept.1, Or.inl kept.2⟩
    · exact together_of_wp reaches (wp_commit_reaches holding fresh)
  · exact together_of_wp (fun _ _ => trivial) (wp_conclude (ends_commit session) holding all)

theorem together_rollback
    (caller : Caller)
    (strategy : Strategy gate World Choice Move)
    (holding : Holding session participants w)
    (together : Together participants w) :
    Holding session participants
        ((Coordinator.rollback session).run (World.machine ext) caller strategy w).2 ∧
      Together participants
        ((Coordinator.rollback session).run (World.machine ext) caller strategy w).2 := by
  have spares : (Coordinator.rollback session).Only GateOp.Spares :=
    Coordinator.only_rollback ⟨trivial, fun _ => trivial, fun _ _ => trivial⟩ trivial trivial
      trivial
  have ends : (Coordinator.rollback session).Only GateOp.Ends :=
    Coordinator.only_rollback (ends_commits session).toRollbacks trivial trivial trivial
  rcases together with fresh | all
  · apply together_of_wp (fun _ _ => trivial)
    exact Prog.wp_mono (wp_spares spares holding fresh) fun _ _ kept => ⟨kept.1, Or.inl kept.2⟩
  · exact together_of_wp (fun _ _ => trivial) (wp_conclude ends holding all)

/-- Participants end together after any sequence of calls. -/
theorem AfterCalls.together
    {later : World}
    (calls : AfterCalls ext session participants w later)
    (holding : Holding session participants w)
    (fresh : NoneCommitted participants w) :
    Holding session participants later ∧ Together participants later := by
  induction calls with
  | start => exact ⟨holding, Or.inl fresh⟩
  | @move middle earlier move ih =>
      obtain ⟨held, together⟩ := ih
      have reached : ending.rely middle (middle.disturb move) :=
        ⟨sessions_disturb move middle, committed_disturb move middle, targetsOwn_disturb move⟩
      refine ⟨held.stable reached, ?_⟩
      rcases together with none | all
      · exact Or.inl (none.stable reached)
      · exact Or.inr (all.stable reached)
  | commit earlier caller strategy commits ih =>
      exact together_commit caller strategy commits ih.1 ih.2
  | rollback earlier caller strategy ih =>
      exact together_rollback caller strategy ih.1 ih.2

end Sequences

/-- When each commit call commits together, no call leaves one participant
committed while another one is lost. -/
theorem commit_atomic_of_commits_together
    (ext : Externals)
    (session : Int)
    {w later : World}
    (own : w.router.TargetsOwn)
    (fresh : NoneCommitted (w.sessions session).shardTxIDs w)
    (calls : AfterCalls ext session (w.sessions session).shardTxIDs w later) :
    Atomic (w.sessions session).shardTxIDs later :=
  (calls.together ⟨own, Or.inl rfl⟩ fresh).2.atomic

/-- A session that has deleted on both shards. -/
def twoParticipants : World :=
  (serve integralExternals ⟨1, some 1⟩ (Strategy.constant {}) ⟨.ok [deleteAllUsers], 1⟩
    (serve integralExternals ⟨0, none⟩ (Strategy.constant {}) ⟨.ok [beginStatement], 0⟩
      twoShardWorld).2).2

theorem twoParticipants_entries :
    (twoParticipants.sessions 1).shardTxIDs.entries = [⟨"a:1", ⟨1, 0⟩⟩, ⟨"b:1", ⟨1, 0⟩⟩] := by
  decide

/-- The database refuses the commit on one tablet. -/
def refusedAt (addr : String) : Strategy gate World Choice Move where
  moves := fun _ _ => []
  choice := fun _ op =>
    match op with
    | .commit tc _ =>
        if tc.target = addr then
          { verdicts := fun _ => { failure := some "could not serialize access" } }
        else {}
    | _ => {}

theorem twoParticipants_fresh :
    NoneCommitted (twoParticipants.sessions 1).shardTxIDs twoParticipants := by
  have active : ∀ entry ∈ (twoParticipants.sessions 1).shardTxIDs.entries,
      ((twoParticipants.tablets entry.1).tx.txns entry.2).map LocalTx.status =
        some .active := by decide
  rintro entry present ⟨tx, found, status⟩
  have known := active entry present
  rw [found] at known
  injection known with known
  cases known.symm.trans status

/-- A commit of two participants. -/
theorem commit_of_two_participants_atomic :
    Atomic (twoParticipants.sessions 1).shardTxIDs
      ((Coordinator.commit 1).run (World.machine integralExternals) ⟨2, some 1⟩
        (Strategy.constant {}) twoParticipants).2 :=
  commit_atomic_of_commits_together integralExternals 1 (targetsOwn_of_entries (by decide))
    twoParticipants_fresh
    (.commit .start ⟨2, some 1⟩ (Strategy.constant {}) (Or.inr (by decide)))

/-- One participant is committed, the other one is rolled back. -/
theorem commit_tears_two_participants :
    ∃ final : Outcome × World,
      (Coordinator.commit 1).run (World.machine integralExternals) ⟨2, some 1⟩ (refusedAt "a:1")
          twoParticipants = final ∧
        ((final.2.tablets "a:1").tx.txns ⟨1, 0⟩).map LocalTx.status = some .rolledBack ∧
        ((final.2.tablets "b:1").tx.txns ⟨1, 0⟩).map LocalTx.status = some .committed ∧
        ¬ Atomic (twoParticipants.sessions 1).shardTxIDs final.2 := by
  generalize finished : (Coordinator.commit 1).run (World.machine integralExternals)
    ⟨2, some 1⟩ (refusedAt "a:1") twoParticipants = final
  have lost : ((final.2.tablets "a:1").tx.txns ⟨1, 0⟩).map LocalTx.status =
      some .rolledBack := by
    rw [← finished]
    decide
  have kept : ((final.2.tablets "b:1").tx.txns ⟨1, 0⟩).map LocalTx.status =
      some .committed := by
    rw [← finished]
    decide
  refine ⟨final, rfl, lost, kept, ?_⟩
  intro atomic
  obtain ⟨tx, found, status⟩ := Option.map_eq_some_iff.mp kept
  have spread := atomic ⟨"b:1", ⟨1, 0⟩⟩ (by rw [twoParticipants_entries]; decide)
    ⟨"a:1", ⟨1, 0⟩⟩ (by rw [twoParticipants_entries]; decide) ⟨tx, found, status⟩
  rcases spread with ⟨other, present, committed⟩ | ⟨other, present, active, _⟩
  · rw [present] at lost
    injection lost with lost
    cases lost.symm.trans committed
  · rw [present] at lost
    injection lost with lost
    cases lost.symm.trans active

end VScale
