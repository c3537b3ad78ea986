import VScale.Gate.Acknowledgement
import VScale.Gate.AccountedRequests

/-!
# Statements that overlap a commit

Calls of `Coordinator.execute` and one `Coordinator.commit` share a session.  A
transaction is safe as long as it is recorded there, or once the commit has
ended it.  What a statement ran stays safe when no recorded transaction is
replaced, the commit leaves the transaction with the participants it has read,
and no statement looks for a participant that is gone.
-/

namespace VScale
namespace Overlap

open Aggregate Collections Effects Tree

/-- What is asked of the coordinator for the session. -/
inductive SessionCall
  | execute (sql : SqlText)
  | commit

/-- The coordinator serving one session. -/
def sessionService
    (ext : Externals)
    (session : Int) :
    Service gate SessionCall Outcome Caller World Choice Move where
  toMachine := World.machine ext
  program
    | .execute sql => Coordinator.execute ext session sql
    | .commit => Coordinator.commit session
  caller := fun number _ => ⟨number, some session⟩
  conclude := fun caller outcome w => w.addEvent (.returned caller outcome)

/-- The calls of one session, in any state. -/
abbrev SessionPool := Pool gate SessionCall Outcome World

/-- A step of one of the calls, or of the environment. -/
abbrev SessionLabel := Label SessionCall Choice Move

/-- The commit is the first call; it may take its first step at any time. -/
def committer (session : Int) : Caller := ⟨0, some session⟩

/-- The commit has committed a transaction. -/
def Ended (session : Int) (w : World) (addr : String) (id : TxID) : Prop :=
  Event.tablet (some (committer session)) addr (.ended id .committed) ∈ w.log

/-- A transaction is recorded, or the commit has committed it. -/
def Safe (session : Int) (w : World) (addr : String) (id : TxID) : Prop :=
  w.Recorded session addr id ∨ Ended session w addr id

/-- Participants have numbers of running processes, and are committed once the
session is. -/
structure Tidy (session : Int) (w : World) : Prop where
  own : w.router.TargetsOwn
  numbered : (w.sessions session).shardTxIDs.All fun addr id =>
    id.id ≠ 0 ∧ id.epoch = (w.tablets addr).tx.epoch
  settled : (w.sessions session).state = .committed →
    ∀ addr id, w.Recorded session addr id → Ended session w addr id

/-- What is safe stays safe, and a committed session stays committed. -/
structure Grows (session : Int) (before after : World) : Prop where
  safe : ∀ addr id, Safe session before addr id → Safe session after addr id
  state : (before.sessions session).state = .committed →
    (after.sessions session).state = .committed

theorem Grows.refl (session : Int) (w : World) : Grows session w w :=
  ⟨fun _ _ safe => safe, fun state => state⟩

variable {session : Int}

theorem Grows.trans
    {before middle after : World}
    (first : Grows session before middle)
    (second : Grows session middle after) :
    Grows session before after :=
  ⟨fun addr id safe => second.safe addr id (first.safe addr id safe),
    fun state => second.state (first.state state)⟩

/-! ### Operations -/

/-- What an operation of a call does. -/
structure Advances (session : Int) (caller : Caller) (before after : World) : Prop where
  kept : before.Keeps after
  epochs : ∀ addr, (after.tablets addr).tx.epoch = (before.tablets addr).tx.epoch
  logged : ∃ new, after.log = new ++ before.log ∧
    ∀ event ∈ new, event.caller = some caller ∧ event.Inner
  grows : Grows session before after
  tidy : Tidy session after

/-- The operation replaces no participant, and forgets only committed ones. -/
def Orderly (session : Int) (op : GateOp) (w : World) : Prop :=
  match op with
  | .create => False
  | .setState other state =>
      other = session ∧ state = .committed ∧
        ∀ addr id, w.Recorded session addr id → Ended session w addr id
  | .setLocalTxID other addr id =>
      other = session ∧ (w.sessions session).shardTxIDs.lookup addr = none ∧
        (w.sessions session).state ≠ .committed ∧
        id.id ≠ 0 ∧ id.epoch = (w.tablets addr).tx.epoch
  | .clearParticipants other => other = session ∧ (w.sessions session).state = .committed
  | _ => True

theorem orderly_of_inert
    {op : GateOp}
    (inert : op.Inert)
    (w : World) :
    Orderly session op w := by
  cases op with
  | create | setState | setLocalTxID | clearParticipants => exact False.elim inert
  | _ => exact trivial

section Operations

variable (ext : Externals) {session : Int} {caller : Caller} {op : GateOp} (choice : Choice)
variable {w : World}

/-- What has ended stays ended. -/
theorem Ended.later
    {before after : World}
    {addr : String}
    {id : TxID}
    (ended : Ended session before addr id)
    {new : List Event}
    (logged : after.log = new ++ before.log) : Ended session after addr id := by
  unfold Ended
  rw [logged]
  exact List.mem_append_right new ended

/-- What an orderly operation leaves of the session. -/
theorem session_act
    (tidy : Tidy session w)
    (orderly : Orderly session op w) :
    (∀ addr id, w.Recorded session addr id →
        (w.act ext caller op choice).2.Recorded session addr id ∨ Ended session w addr id) ∧
      ((w.sessions session).state = .committed →
        ((w.act ext caller op choice).2.sessions session).state = .committed) ∧
      ((((w.act ext caller op choice).2.sessions session).shardTxIDs).All fun addr id =>
        id.id ≠ 0 ∧ id.epoch = (w.tablets addr).tx.epoch) ∧
      (((w.act ext caller op choice).2.sessions session).state = .committed →
        ∀ addr id, (w.act ext caller op choice).2.Recorded session addr id →
          Ended session w addr id) := by
  by_cases touches : op.Touches w session
  · cases op with
    | create => exact False.elim orderly
    | setState other state =>
        obtain ⟨rfl, rfl, ended⟩ := orderly
        unfold World.Recorded
        rw [World.session_setState]
        exact ⟨fun _ _ recorded => Or.inl recorded, fun _ => rfl, tidy.numbered,
          fun _ => ended⟩
    | setLocalTxID other addr id =>
        obtain ⟨rfl, fresh, running, proper⟩ := orderly
        refine ⟨fun place held recorded => Or.inl (recorded.kept fresh), ?_⟩
        simp only [World.act, World.updateSession, Function.update_self]
        exact ⟨fun state => state, Map.all_insert tidy.numbered proper,
          fun state => absurd state running⟩
    | clearParticipants other =>
        obtain ⟨rfl, state⟩ := orderly
        simp only [World.Recorded, World.act, World.updateSession, Function.update_self]
        refine ⟨fun addr id recorded => Or.inr (tidy.settled state addr id recorded),
          fun still => still, Map.all_empty, ?_⟩
        intro _ addr id recorded
        rw [AList.lookup_empty] at recorded
        cases recorded
    | _ => exact False.elim touches
  · unfold World.Recorded
    rw [World.sessions_act ext caller op choice w touches]
    exact ⟨fun _ _ recorded => Or.inl recorded, fun state => state, tidy.numbered, tidy.settled⟩

/-- Orderly operations keep the session tidy and everything safe. -/
theorem advances_act
    (tidy : Tidy session w)
    (orderly : Orderly session op w) :
    Advances session caller w (w.act ext caller op choice).2 := by
  have evolves := World.evolves_act ext caller op choice w
  obtain ⟨new, logged, own⟩ := evolves.logged
  obtain ⟨recorded, committed, numbered, settled⟩ := session_act ext choice tidy orderly
  refine ⟨evolves.kept, evolves.epochs, ⟨new, logged, ?_⟩, ⟨?_, committed⟩,
    World.targetsOwn_act ext caller op choice tidy.own, ?_, ?_⟩
  · exact fun event present => ⟨(own event present).1, (own event present).2.1⟩
  · rintro addr id (known | ended)
    · exact (recorded addr id known).imp_right fun ended => ended.later logged
    · exact Or.inr (ended.later logged)
  · refine numbered.imp fun addr id proper => ?_
    rw [evolves.epochs addr]
    exact proper
  · exact fun state addr id known => (settled state addr id known).later logged

end Operations

/-! ### Steps -/

/-- The participants a call reads. -/
def reading (caller : Caller) : Event → Option (Map String TxID)
  | .read other _ shards => if other = caller then some shards else none
  | _ => none

/-- The participants a call has read last. -/
def lastRead (w : World) (caller : Caller) : Option (Map String TxID) :=
  w.log.findSome? (reading caller)

/-- No participant is replaced or recorded late, no statement looks for one that is
gone, and the commit leaves the transaction with the participants it has read. -/
def Permitted (caller : Caller) (op : GateOp) (w : World) : Prop :=
  match op with
  | .setLocalTxID session addr _ =>
      (w.sessions session).shardTxIDs.lookup addr = none ∧
        (w.sessions session).state ≠ .committed
  | .getLocalTxID session addr =>
      ((w.sessions session).shardTxIDs.lookup addr).isSome = true
  | .setState session .committed =>
      lastRead w caller = some (w.sessions session).shardTxIDs
  | _ => True

/-- Calls rely on safe transactions staying safe. -/
def overlapping (session : Int) (caller : Caller) : Contract World where
  rely := fun before after => World.Others caller before after ∧ Grows session before after
  guarantee := Advances session caller
  rely_refl := fun w => ⟨World.Others.refl caller w, Grows.refl session w⟩
  rely_trans := fun first second => ⟨first.1.trans second.1, first.2.trans second.2⟩

/-- Steps of a call that meet the condition in a tidy state. -/
def StepsPermitted
    (ext : Externals)
    (session : Int)
    (caller : Caller)
    (op : GateOp)
    (before : World)
    (answer : op.Answer)
    (after : World) : Prop :=
  Tidy session before ∧ Permitted caller op before ∧
    ∃ choice, before.act ext caller op choice = (answer, after)

/-- The program keeps everything safe and establishes its postcondition. -/
abbrev Overlaps
    (ext : Externals)
    (session : Int)
    (caller : Caller)
    (program : GateM α)
    (post : α → World → Prop)
    (w : World) : Prop :=
  program.wp (overlapping session caller) (StepsPermitted ext session caller) post w

section Programs

variable {ext : Externals} {session : Int} {caller : Caller} {w : World}

variable {op : GateOp} {before after : World} {sql : SqlText}

variable {next : op.Answer → GateM α} {post : α → World → Prop}

/-- One operation that is orderly when it happens. -/
theorem overlaps_orderly
    (orderly : ∀ before, (overlapping session caller).rely w before → Tidy session before →
      Permitted caller op before → Orderly session op before)
    (follows : ∀ (before : World) choice,
      (overlapping session caller).rely w before → Tidy session before →
      Permitted caller op before →
      Advances session caller before (before.act ext caller op choice).2 →
      Overlaps ext session caller (next (before.act ext caller op choice).1) post
        (before.act ext caller op choice).2) :
    Overlaps ext session caller (Prog.perform op next) post w := by
  rintro before reached answer after ⟨tidy, permitted, choice, stepped⟩
  obtain ⟨rfl, rfl⟩ := Prod.ext_iff.mp stepped
  have advances : Advances session caller before (before.act ext caller op choice).2 :=
    advances_act ext choice tidy (orderly before reached tidy permitted)
  exact ⟨advances, follows before choice reached tidy permitted advances⟩

theorem overlaps_inert
    (follows : ∀ (before : World) choice,
      (overlapping session caller).rely w before → Tidy session before →
      Permitted caller op before →
      Advances session caller before (before.act ext caller op choice).2 →
      Overlaps ext session caller (next (before.act ext caller op choice).1) post
        (before.act ext caller op choice).2)
    (inert : op.Inert := by trivial) :
    Overlaps ext session caller (Prog.perform op next) post w :=
  overlaps_orderly (fun before _ _ _ => orderly_of_inert inert before) follows

theorem harmless_of_inert
    {program : GateM α}
    (inert : program.Only GateOp.Inert) :
    Harmless (overlapping session caller) (StepsPermitted ext session caller) program := by
  apply harmless_of_only _ inert
  rintro op before answer after quiet ⟨tidy, _, choice, stepped⟩
  obtain ⟨rfl, rfl⟩ := Prod.ext_iff.mp stepped
  exact advances_act ext choice tidy (orderly_of_inert quiet before)

/-! ### Statements -/

/-- What a call ran, it ran in safe transactions, wherever it was sent. -/
def SafelyRan (session : Int) (caller : Caller) (w : World) : Prop :=
  w.RanInside caller (Safe session w) ∧ w.RanAll caller

/-- Others do not endanger what has run. -/
theorem SafelyRan.rely
    (ran : SafelyRan session caller before)
    (reached : (overlapping session caller).rely before after) :
    SafelyRan session caller after :=
  ⟨(reached.1.ranInside ran.1).mono reached.2.safe, reached.1.ranAll ran.2⟩

theorem SafelyRan.silent
    {choice : Choice}
    (ran : SafelyRan session caller before)
    (silent : op.Silent)
    (advances : Advances session caller before (before.act ext caller op choice).2) :
    SafelyRan session caller (before.act ext caller op choice).2 :=
  ⟨(ran.1.silent silent).mono advances.grows.safe, ran.2.silent silent⟩

/-- Operations that neither run anything nor change the session. -/
theorem overlaps_silent
    (ran : SafelyRan session caller w)
    (follows : ∀ (before : World) choice,
      Advances session caller before (before.act ext caller op choice).2 →
      SafelyRan session caller (before.act ext caller op choice).2 →
      Overlaps ext session caller (next (before.act ext caller op choice).1) post
        (before.act ext caller op choice).2)
    (inert : op.Inert := by trivial)
    (silent : op.Silent := by trivial) :
    Overlaps ext session caller (Prog.perform op next) post w := by
  refine overlaps_inert ?_
  intro before choice reached _ _ advances
  exact follows before choice advances ((ran.rely reached).silent silent advances)

/-- A BEGIN without complaint keeps what has run safe. -/
theorem overlaps_beginOnAll
    (tablets : List TabletClient)
    (ran : SafelyRan session caller w) :
    Overlaps ext session caller (Coordinator.beginOnAll session tablets)
      (fun complaint later => complaint = none → SafelyRan session caller later) w := by
  induction tablets generalizing w with
  | nil => exact fun later reached _ => ran.rely reached
  | cons tc tablets ih =>
      refine overlaps_silent ran ?_
      intro before choice _ still
      split
      · exact ih still
      · refine overlaps_silent still ?_
        intro asked choice advancesBegin ranBegun
        cases answered : (asked.act ext caller (.begin tc) choice).1 with
        | error failure =>
            apply (harmless_of_inert (inert_rollbackAll session)).bind
            intro _ _ _ _ none
            cases none
        | ok resp =>
            obtain ⟨_, nonzero, epoch⟩ := World.begun_of_act (Prod.ext answered rfl)
            apply overlaps_orderly
            · intro later reached _ permitted
              refine ⟨rfl, permitted.1, permitted.2, nonzero, ?_⟩
              rw [reached.1.epochs tc.target, advancesBegin.epochs tc.target]
              exact epoch
            · intro later choice reached _ _ advancesRecord
              have silent : GateOp.Silent
                  (.setLocalTxID session tc.target resp.transactionId) := trivial
              exact ih ((ranBegun.rely reached).silent silent advancesRecord)

/-- A statement runs in the transaction recorded for its tablet. -/
theorem executing_overlapping
    (plain : World.Plain sql)
    (tablets : List TabletClient) :
    Coordinator.Executing (overlapping session caller) (StepsPermitted ext session caller)
      session sql tablets (SafelyRan session caller) where
  stable := fun _ _ reached ran => ran.rely reached
  harmless := fun _ => harmless_of_inert ⟨trivial, fun _ => ⟨trivial, fun _ => trivial⟩⟩
  runs := by
    intro tc _ w ran
    refine overlaps_inert ?_
    intro before choice reached tidy known _
    obtain ⟨id, recorded⟩ := Option.isSome_iff_exists.mp known
    obtain ⟨nonzero, current⟩ := tidy.numbered tc.target id recorded
    have held : (before.act ext caller (.getLocalTxID session tc.target) choice).1 = some id :=
      recorded
    rw [held]
    refine overlaps_inert ?_
    intro sent choice reachedSent _ _ advances
    have ranSent := (ran.rely reached).rely reachedSent
    have resolved : (sent.tablets tc.target).tx.resolve id = id := by
      rw [TxManager.resolve, reachedSent.1.epochs tc.target]
      exact congrArg (TxID.mk id.id) current.symm
    have inside : (sent.act ext caller (.execute tc sql id) choice).2.RanInside caller
        (Safe session sent) := by
      apply ranSent.1.execute plain nonzero
      rw [resolved]
      exact reachedSent.2.safe tc.target id (Or.inl recorded)
    intro last reachedLast resp answered
    have done : SafelyRan session caller (sent.act ext caller (.execute tc sql id) choice).2 :=
      ⟨inside.mono advances.grows.safe, ranSent.2.execute plain answered⟩
    exact done.rely reachedLast

theorem plain_shardText (plain : World.Plain sql) :
    World.Plain (Coordinator.shardText ext sql) := by
  unfold Coordinator.shardText
  split
  · unfold stripForScatter
    split
    · split
      · exact World.plain_single rfl
      · exact plain
    · exact plain
  · exact plain

/-- A statement that succeeds ran safely. -/
theorem overlaps_execute
    (plain : World.Plain sql)
    (ran : SafelyRan session caller w) :
    Overlaps ext session caller (Coordinator.execute ext session sql)
      (OnSuccess (SafelyRan session caller)) w := by
  refine overlaps_silent ran ?_
  intro before choice _ still
  split
  · refine overlaps_inert ?_
    intro _ _ _ _ _ _
    exact wp_failure _ _
  · refine overlaps_silent still ?_
    intro asked choice _ ranRouted
    generalize (asked.act ext caller (.route sql true) choice).1 = result
    split
    · exact wp_failure _ _
    · apply Prog.wp_seq (overlaps_beginOnAll result.tablets ranRouted)
      intro failed begun ready
      cases failed with
      | some failure => exact wp_failure _ begun
      | none =>
          simp only
          split
          · rename_i tc one _
            exact Coordinator.wp_executeSingle (executing_overlapping plain [tc])
              List.mem_cons_self (ready rfl)
          · exact Coordinator.wp_executeScatter
              (executing_overlapping (plain_shardText plain) _)
              (harmless_of_inert (inert_rollbackAll session)) (ready rfl)

/-! ### Commit -/

/-- Other events leave what a commit last read. -/
theorem lastRead_append
    {new : List Event}
    (logged : after.log = new ++ before.log)
    (unread : ∀ event ∈ new, reading caller event = none) :
    lastRead after caller = lastRead before caller := by
  unfold lastRead
  rw [logged, List.findSome?_append, List.findSome?_eq_none_iff.mpr unread, Option.none_or]

theorem lastRead_rely (reached : (overlapping session caller).rely before after) :
    lastRead after caller = lastRead before caller := by
  obtain ⟨new, logged, others⟩ := reached.1.logged
  apply lastRead_append logged
  intro event present
  have foreign := (others event present).1
  cases event with
  | read other place shards =>
      exact if_neg fun same => foreign (congrArg some same)
  | _ => rfl

/-- Calls to tablets read no participants. -/
theorem lastRead_callTablet
    (caller : Caller)
    (choice : Choice)
    (addr : String)
    (handler : Executor → Reply Executor α)
    (w : World) :
    lastRead (w.callTablet caller choice addr handler).2 caller = lastRead w caller := by
  have absorbed : lastRead (w.absorb caller addr (handler (w.tablets addr))) caller =
      lastRead w caller := by
    apply lastRead_append rfl
    intro event present
    obtain ⟨done, _, rfl⟩ := List.mem_map.mp (List.mem_reverse.mp present)
    rfl
  unfold World.callTablet
  cases choice.network with
  | answered | replyLost => exact absorbed
  | lost failure => rfl

/-- The participants last read by the commit are committed unless they remain. -/
structure Pending
    (session : Int)
    (shards : Map String TxID)
    (remaining : List (String × TxID))
    (w : World) : Prop where
  read : lastRead w (committer session) = some shards
  numbered : ∀ shard ∈ remaining,
    shard.2.id ≠ 0 ∧ shard.2.epoch = (w.tablets shard.1).tx.epoch
  ended : ∀ addr id, shards.lookup addr = some id →
    (addr, id) ∈ remaining ∨ Ended session w addr id

variable {shards : Map String TxID} {remaining : List (String × TxID)}

theorem Pending.later
    (pending : Pending session shards remaining before)
    (read : lastRead after (committer session) = lastRead before (committer session))
    (epochs : ∀ addr, (after.tablets addr).tx.epoch = (before.tablets addr).tx.epoch)
    (logged : ∃ new, after.log = new ++ before.log) :
    Pending session shards remaining after := by
  obtain ⟨new, logged⟩ := logged
  refine ⟨read.trans pending.read, ?_, ?_⟩
  · intro shard listed
    rw [epochs shard.1]
    exact pending.numbered shard listed
  · intro addr id known
    exact (pending.ended addr id known).imp_right fun ended => ended.later logged

theorem Pending.rely
    (pending : Pending session shards remaining before)
    (reached : (overlapping session (committer session)).rely before after) :
    Pending session shards remaining after := by
  obtain ⟨new, logged, _⟩ := reached.1.logged
  exact pending.later (lastRead_rely reached) reached.1.epochs ⟨new, logged⟩

theorem Pending.advances
    (pending : Pending session shards remaining before)
    (advances : Advances session (committer session) before after)
    (read : lastRead after (committer session) = lastRead before (committer session)) :
    Pending session shards remaining after := by
  obtain ⟨new, logged, _⟩ := advances.logged
  exact pending.later read advances.epochs ⟨new, logged⟩

/-- A participant that has ended need not be asked any more. -/
theorem Pending.step
    {shard : String × TxID}
    (pending : Pending session shards (shard :: remaining) w)
    (ended : Ended session w shard.1 shard.2) : Pending session shards remaining w := by
  refine ⟨pending.read, ?_, ?_⟩
  · intro other listed
    exact pending.numbered other (List.mem_cons_of_mem shard listed)
  · intro addr id known
    exact pending_or_done (pending.ended addr id known) (by rintro rfl; exact ended)

/-- A participant that confirms has ended. -/
theorem overlaps_commitOn
    (shard : String × TxID)
    (pending : Pending session shards (shard :: remaining) w) :
    Overlaps ext session (committer session) (Coordinator.commitOn shard.1 shard.2)
      (fun answer later => Coordinator.confirmed answer = true →
        Pending session shards remaining later) w := by
  refine overlaps_inert ?_
  intro before choice reached tidy _ _
  cases found : (before.act ext (committer session) (.getClient shard.1) choice).1 with
  | none => exact fun _ _ unconfirmed => nomatch unconfirmed
  | some tc =>
      have target : tc.target = shard.1 := tidy.own shard.1 tc found
      refine overlaps_inert ?_
      intro asked choice reachedAsked _ _ advances
      have now := (pending.rely reached).rely reachedAsked
      have unread := lastRead_callTablet (committer session) choice tc.target
        (TabletHandler.commit choice.verdicts shard.2) asked
      intro final reachedFinal accepted
      apply ((now.advances advances unread).rely reachedFinal).step
      cases answered : (asked.act ext (committer session) (.commit tc shard.2) choice).1 with
      | error failure =>
          rw [answered] at accepted
          cases accepted
      | ok resp =>
          rw [answered] at accepted
          obtain ⟨nonzero, current⟩ := now.numbered shard List.mem_cons_self
          have ended := (World.committed_of_act (Prod.ext answered rfl) accepted nonzero).2
          rw [target, TxManager.resolve, ← current] at ended
          obtain ⟨new, logged, _⟩ := reachedFinal.1.logged
          exact Ended.later ended logged

/-- A commit overlaps with the statements of its session. -/
theorem committing_overlapping (shards : Map String TxID) :
    Coordinator.Committing (overlapping session (committer session))
      (StepsPermitted ext session (committer session)) session (Pending session shards) where
  stable := fun _ _ _ reached pending => pending.rely reached
  harmless := fun addr id => harmless_of_inert (inert_commitOn addr id)
  aborts := harmless_of_inert (inert_rollbackAll session)
  asks := fun shard _ _ pending => overlaps_commitOn shard pending

/-- The session is committed. -/
def IsCommitted (session : Int) (w : World) : Prop :=
  (w.sessions session).state = .committed

/-- Leave the transaction with the participants that were read. -/
theorem overlaps_setCommitted
    {next : Unit → GateM Outcome}
    (pending : Pending session shards [] w)
    (follows : ∀ later, IsCommitted session later →
      Overlaps ext session (committer session) (next ()) (OnSuccess (IsCommitted session)) later) :
    Overlaps ext session (committer session)
      (Prog.perform (.setState session .committed) next) (OnSuccess (IsCommitted session)) w := by
  apply overlaps_orderly
  · intro before reached _ permitted
    have same : shards = (before.sessions session).shardTxIDs :=
      Option.some.inj ((pending.rely reached).read.symm.trans permitted)
    refine ⟨rfl, rfl, ?_⟩
    intro addr id recorded
    rw [World.Recorded, ← same] at recorded
    rcases (pending.rely reached).ended addr id recorded with waiting | done
    · cases waiting
    · exact done
  · intro before choice _ _ _ _
    exact follows _ (congrArg Session.state
      (World.session_setState ext (committer session) session .committed choice before))

theorem overlaps_committed
    {resp : QueryResponse}
    (committed : IsCommitted session w) :
    Overlaps ext session (committer session) (.pure (.ok resp) : GateM Outcome)
      (OnSuccess (IsCommitted session)) w :=
  fun _ reached _ _ => reached.2.state committed

theorem overlaps_concludeCommit (pending : Pending session shards [] w) :
    Overlaps ext session (committer session) (Coordinator.concludeCommit session)
      (OnSuccess (IsCommitted session)) w := by
  apply overlaps_setCommitted pending
  intro left committed
  apply overlaps_orderly
  · intro before reached _ _
    exact ⟨rfl, reached.2.state committed⟩
  · intro before choice reached _ _ advances
    exact overlaps_committed (advances.grows.state (reached.2.state committed))

theorem overlaps_participatingShardsMap
    {next : List (String × TxID) → GateM α}
    (follows : ∀ shards remaining later, Pending session shards remaining later →
      Overlaps ext session (committer session) (next remaining) post later) :
    Overlaps ext session (committer session)
      (Prog.perform (.participatingShardsMap session) next) post w := by
  refine overlaps_inert ?_
  intro before choice _ tidy _ _
  have member := Map.mem_visited choice.order (before.sessions session).shardTxIDs
  apply follows (before.sessions session).shardTxIDs
  refine ⟨?_, ?_, fun addr id known => Or.inl ((member addr id).mpr known)⟩
  · simp [lastRead, World.act, World.addEvent, reading]
  · intro shard listed
    exact tidy.numbered shard.1 shard.2 ((member shard.1 shard.2).mp listed)

theorem overlaps_commitAll :
    Overlaps ext session (committer session) (Coordinator.commitAll session)
      (fun complaint later => complaint = none →
        ∃ shards, Pending session shards [] later) w := by
  apply overlaps_participatingShardsMap
  intro shards remaining later pending
  apply Prog.wp_seq (Coordinator.wp_commitShards (committing_overlapping shards) pending)
  intro complaint after satisfied final reached none
  cases complaint with
  | none => exact ⟨shards, (satisfied rfl).rely reached⟩
  | some reason => cases none

/-- Two phases that succeed end what they read. -/
theorem overlaps_commitInPhases :
    Overlaps ext session (committer session) (Coordinator.commitInPhases session)
      (OnSuccess (IsCommitted session)) w := by
  have prepares : (Coordinator.prepareAll session).Only GateOp.Inert :=
    Coordinator.only_prepareAll trivial (fun _ => trivial) fun _ _ => trivial
  apply (harmless_of_inert prepares).bind
  intro unprepared prepared
  cases unprepared with
  | some failure =>
      exact Coordinator.wp_abort (harmless_of_inert (inert_rollbackAll session)) failure prepared
  | none =>
      apply Prog.wp_seq overlaps_commitAll
      intro uncommitted later committed
      cases uncommitted with
      | some failure => exact wp_failure _ later
      | none =>
          obtain ⟨shards, pending⟩ := committed rfl
          exact overlaps_concludeCommit pending

/-- A commit that succeeds ends what it read. -/
theorem overlaps_commit :
    Overlaps ext session (committer session) (Coordinator.commit session)
      (OnSuccess (IsCommitted session)) w := by
  refine overlaps_inert ?_
  intro _ _ _ _ _ _
  split
  · refine overlaps_inert ?_
    intro _ _ _ _ _ _
    exact wp_failure _ _
  · refine overlaps_inert ?_
    intro before choice _ _ _ _
    split
    · rename_i none
      have empty : (before.sessions session).shardTxIDs = ∅ :=
        AList.ext (List.length_eq_zero_iff.mp none)
      have pending : Pending session ∅ []
          (before.act ext (committer session) (.shardCount session) choice).2 := by
        refine ⟨?_, List.forall_mem_nil _, ?_⟩
        · simp [lastRead, World.act, World.addEvent, reading, empty]
        · intro addr id known
          rw [AList.lookup_empty] at known
          cases known
      exact overlaps_setCommitted pending fun _ committed => overlaps_committed committed
    · split
      · apply overlaps_participatingShardsMap
        intro shards remaining later pending
        exact Coordinator.wp_commitEach (committing_overlapping shards)
          (fun _ all => overlaps_concludeCommit all) pending
      · exact overlaps_commitInPhases

end Programs

/-! ### Interleaved calls -/

/-- The call is a commit. -/
def SessionCall.isCommit : SessionCall → Bool
  | .execute _ => false
  | .commit => true

/-- Any number of statements and one commit, on tablets that do not restart. -/
structure OneCommit (pool : SessionPool) (label : SessionLabel) (_ : SessionPool) : Prop where
  first : ∀ req, label = .invoke req → (req.isCommit = true ↔ pool.started = 0)
  running : ∀ addr, label ≠ .move (.restart addr)

/-- Texts have no transaction control, and all operations are permitted. -/
structure Careful
    (session : Int)
    (pool : SessionPool)
    (label : SessionLabel)
    (later : SessionPool) : Prop extends OneCommit pool label later where
  plain : ∀ sql, label = .invoke (.execute sql) → World.Plain sql
  permitted : ∀ step ∈ pool.operation label, Permitted ⟨step.1, some session⟩ step.2 pool.world

/-- The session is tidy, what succeeded is safe, and the session is committed once
the commit has succeeded. -/
structure Register (session : Int) (pool : SessionPool) : Prop where
  tidy : Tidy session pool.world
  calls : CallLog pool
  roles : ∀ number call, pool.calls number = some call →
    (call.request.isCommit = true ↔ number = 0)
  ran : ∀ number resp, number ≠ 0 →
    Event.returned ⟨number, some session⟩ (.ok resp) ∈ pool.world.log →
      SafelyRan session ⟨number, some session⟩ pool.world
  committed : ∀ resp, Event.returned (committer session) (.ok resp) ∈ pool.world.log →
    IsCommitted session pool.world

/-- What a call has established when it succeeds. -/
def Achieved (session : Int) (number : Nat) (call : SessionCall) : World → Prop :=
  match call with
  | .execute _ => SafelyRan session ⟨number, some session⟩
  | .commit => IsCommitted session

/-- All calls keep everything safe. -/
def safeDiscipline (ext : Externals) (session : Int) : Discipline (sessionService ext session) where
  invariant := Register session
  contract := fun number _ => overlapping session ⟨number, some session⟩
  steps := fun number _ => StepsPermitted ext session ⟨number, some session⟩
  post := fun number call => OnSuccess (Achieved session number call)

section Discipline

variable {ext : Externals} {session : Int}

variable {before after : World} {new : List Event} {caller : Caller} {pool : SessionPool}

theorem grows_of_same
    (sessions : after.sessions = before.sessions)
    (logged : after.log = new ++ before.log) : Grows session before after := by
  refine ⟨?_, ?_⟩
  · rintro addr id (recorded | ended)
    · refine Or.inl ?_
      rw [World.Recorded, sessions]
      exact recorded
    · exact Or.inr (ended.later logged)
  · rw [sessions]
    exact fun state => state

/-- What a past call ran stays safe. -/
theorem SafelyRan.past
    {other : Caller}
    {resp : QueryResponse}
    (ran : SafelyRan session other before)
    (returned : Event.returned other (.ok resp) ∈ before.log)
    (others : World.Others caller before after)
    (grows : Grows session before after) :
    SafelyRan session other after :=
  ⟨(others.ranInside_of_over returned ran.1).mono grows.safe,
    others.ranAll_of_over returned ran.2⟩

theorem SafelyRan.returned
    {w : World}
    (ran : SafelyRan session caller w)
    {past : Caller}
    {outcome : Outcome} :
    SafelyRan session caller (w.addEvent (.returned past outcome)) := by
  have logged : (w.addEvent (.returned past outcome)).log = [.returned past outcome] ++ w.log := rfl
  have foreign := World.runsNothing_returned past outcome caller
  have grows : Grows session w (w.addEvent (.returned past outcome)) := grows_of_same rfl logged
  exact ⟨(ran.1.append logged foreign).mono grows.safe, ran.2.append logged foreign⟩

/-- What has returned keeps what it has established. -/
theorem Register.later
    (register : Register session pool)
    {later : SessionPool}
    (tidy : Tidy session later.world)
    (calls : CallLog later)
    (roles : ∀ number call, later.calls number = some call →
      (call.request.isCommit = true ↔ number = 0))
    (logged : later.world.log = new ++ pool.world.log)
    (inner : ∀ event ∈ new, event.Inner)
    (caller : Caller)
    (others : World.Others caller pool.world later.world)
    (grows : Grows session pool.world later.world) : Register session later where
  tidy := tidy
  calls := calls
  roles := roles
  ran := by
    intro number resp statement returned
    rw [logged] at returned
    rcases List.mem_append.mp returned with now | earlier
    · exact (inner _ now).elim
    · exact (register.ran number resp statement earlier).past earlier others grows
  committed := by
    intro resp returned
    rw [logged] at returned
    rcases List.mem_append.mp returned with now | earlier
    · exact (inner _ now).elim
    · exact grows.state (register.committed resp earlier)

theorem tidy_of_same
    (tidy : Tidy session before)
    (own : after.router.TargetsOwn)
    (sessions : after.sessions = before.sessions)
    (epochs : ∀ addr, (after.tablets addr).tx.epoch = (before.tablets addr).tx.epoch)
    (logged : after.log = new ++ before.log) : Tidy session after := by
  refine ⟨own, ?_, ?_⟩
  · rw [sessions]
    refine tidy.numbered.imp fun addr id proper => ?_
    rw [epochs addr]
    exact proper
  · unfold World.Recorded
    rw [sessions]
    exact fun state addr id recorded => (tidy.settled state addr id recorded).later logged

/-- A call comes in. -/
theorem register_enter
    {request : SessionCall}
    {later : SessionPool}
    (careful : Careful session pool (.invoke request) later)
    (register : Register session pool) :
    Register session (pool.enter ⟨request, (sessionService ext session).program request⟩) ∧
      (safeDiscipline ext session).Meets pool.started
        ⟨request, (sessionService ext session).program request⟩ pool.world := by
  have first := careful.first request rfl
  refine ⟨⟨register.tidy, register.calls.enter _, Pool.forall_enter first register.roles,
    register.ran, register.committed⟩, ?_⟩
  cases request with
  | execute sql =>
      exact overlaps_execute (careful.plain sql rfl)
        (World.ran_of_fresh (register.calls.fresh rfl))
  | commit =>
      have zero : pool.started = 0 := first.mp rfl
      unfold Discipline.Meets
      rw [zero]
      exact overlaps_commit

section Step

variable {number : Nat} {request : SessionCall}

/-- An operation of a call. -/
theorem register_advance
    {rest next : GateM Outcome}
    (found : pool.calls number = some ⟨request, rest⟩)
    (register : Register session pool)
    (advances : Advances session ⟨number, some session⟩ pool.world after) :
    Register session (pool.proceed number (Pool.lt_of_found found) after (some ⟨request, next⟩)) ∧
      (safeDiscipline ext session).Spares pool number after := by
  obtain ⟨new, logged, own⟩ := Advances.logged advances
  have ofCall : ∀ event ∈ new, event.caller = some ⟨number, some session⟩ :=
    fun event present => (own event present).1
  have role : request.isCommit = true ↔ number = 0 := register.roles number _ found
  have others : ∀ other : Caller, other.call ≠ number → World.Others other pool.world after :=
    fun other different => register.calls.others found rfl different advances.kept
      advances.epochs logged ofCall
  refine ⟨register.later advances.tidy
    (register.calls.proceed found _ rfl logged ofCall
      fun event present => Or.inl (own event present).2)
    (Pool.forall_proceed (by rintro _ ⟨⟩; exact role) fun other call _ => register.roles other call)
    logged (fun event present => (own event present).2) ⟨number + 1, none⟩
    (others ⟨number + 1, none⟩ (Nat.succ_ne_self number)) advances.grows, ?_⟩
  intro other rival different _
  exact ⟨others ⟨other, some session⟩ different, advances.grows⟩

variable {value : Outcome}

/-- What has returned by now has established what it was to. -/
theorem register_returned
    (found : pool.calls number = some ⟨request, .pure value⟩)
    (register : Register session pool)
    (achieved : OnSuccess (Achieved session number request) value pool.world) :
    Register session (pool.proceed number (Pool.lt_of_found found)
      (pool.world.addEvent (.returned ⟨number, some session⟩ value)) none) := by
  have logged : (pool.world.addEvent (.returned ⟨number, some session⟩ value)).log =
      [Event.returned ⟨number, some session⟩ value] ++ pool.world.log := rfl
  have grows : Grows session pool.world
      (pool.world.addEvent (.returned ⟨number, some session⟩ value)) := grows_of_same rfl logged
  have role := register.roles number _ found
  refine ⟨tidy_of_same register.tidy register.tidy.own rfl (fun _ => rfl) logged,
    register.calls.proceed found _ rfl logged (List.forall_mem_singleton.mpr rfl)
      fun _ _ => Or.inr rfl,
    Pool.forall_proceed (by rintro _ ⟨⟩) fun other call _ => register.roles other call, ?_, ?_⟩
  · intro other resp statement returned
    apply SafelyRan.returned
    rcases List.mem_cons.mp returned with now | earlier
    · injection now with caller_eq value_eq
      injection caller_eq with number_eq
      subst number_eq
      cases request with
      | execute sql => exact achieved resp value_eq.symm
      | commit => exact absurd (role.mp rfl) statement
    · exact register.ran other resp statement earlier
  · intro resp returned
    apply grows.state
    rcases List.mem_cons.mp returned with now | earlier
    · injection now with caller_eq value_eq
      injection caller_eq with number_eq
      cases request with
      | execute sql => cases role.mpr number_eq.symm
      | commit => exact achieved resp value_eq.symm
    · exact register.committed resp earlier

/-- What other calls rely on when one returns. -/
theorem spares_returned
    (found : pool.calls number = some ⟨request, .pure value⟩)
    (register : Register session pool) :
    (safeDiscipline ext session).Spares pool number
      (pool.world.addEvent (.returned ⟨number, some session⟩ value)) := by
  have logged : (pool.world.addEvent (.returned ⟨number, some session⟩ value)).log =
      [Event.returned ⟨number, some session⟩ value] ++ pool.world.log := rfl
  intro other rival different _
  exact ⟨register.calls.others found rfl different (fun _ => TxManager.Later.refl _)
    (fun _ => rfl) logged (List.forall_mem_singleton.mpr rfl), grows_of_same rfl logged⟩

end Step

/-- A move of the environment. -/
theorem register_move
    {move : Move}
    (running : ∀ addr, move ≠ .restart addr)
    (register : Register session pool) :
    Register session { pool with world := pool.world.disturb move } ∧
      ∀ caller, (overlapping session caller).rely pool.world (pool.world.disturb move) := by
  obtain ⟨new, logged, nobody⟩ := World.log_disturb move pool.world
  have grows : Grows session pool.world (pool.world.disturb move) :=
    grows_of_same (sessions_disturb move pool.world) logged
  have inner : ∀ event ∈ new, event.Inner := by
    intro event present
    have own := nobody event present
    cases event with
    | returned past outcome => cases own
    | _ => exact trivial
  have tidy : Tidy session (pool.world.disturb move) :=
    tidy_of_same register.tidy (targetsOwn_disturb move register.tidy.own)
      (sessions_disturb move pool.world) (epochs_disturb running pool.world) logged
  refine ⟨register.later tidy (register.calls.disturb move) register.roles logged inner
    ⟨0, none⟩ (others_disturb running ⟨0, none⟩ pool.world) grows, ?_⟩
  exact fun caller => ⟨others_disturb running caller pool.world, grows⟩

/-- The discipline keeps what every call has run safe. -/
theorem safeDiscipline_sound :
    (safeDiscipline ext session).Sound (Careful session) where
  invoked := register_enter
  stepped := by
    intro pool number choice later request op next careful found register
    exact ⟨register.tidy, careful.permitted _ (Pool.operation_advance found choice), choice, rfl⟩
  shared := fun found _ register advances => register_advance found register advances
  finished := fun found _ register achieved =>
    ⟨register_returned found register achieved, spares_returned found register⟩
  moved := by
    intro pool move careful register
    have running : ∀ addr, move ≠ .restart addr :=
      fun addr same => careful.running addr (congrArg Label.move same)
    obtain ⟨kept, relied⟩ := register_move running register
    exact ⟨kept, fun _ _ _ => relied _⟩

end Discipline

/-- A session in a transaction, before any of the calls. -/
structure Opened (session : Int) (w : World) : Prop where
  own : w.router.TargetsOwn
  state : (w.sessions session).state = .inTransaction
  numbered : (w.sessions session).shardTxIDs.All fun addr id =>
    id.id ≠ 0 ∧ id.epoch = (w.tablets addr).tx.epoch
  log : w.log = []

theorem Opened.register
    {w : World}
    (opened : Opened session w) :
    Register session (Pool.initial w) where
  tidy := by
    refine ⟨opened.own, opened.numbered, fun state => ?_⟩
    rw [show (Pool.initial w : SessionPool).world = w from rfl, opened.state] at state
    cases state
  calls := CallLog.initial opened.log
  roles := fun _ _ found => nomatch found
  ran := by
    intro number resp _ returned
    rw [show (Pool.initial w : SessionPool).world.log = [] from opened.log] at returned
    cases returned
  committed := by
    intro resp returned
    rw [show (Pool.initial w : SessionPool).world.log = [] from opened.log] at returned
    cases returned

/-- When the commit has succeeded, every statement that has succeeded ran inside
transactions that this commit has committed. -/
theorem no_statement_lost_when_careful
    (ext : Externals)
    {session : Int}
    {w : World}
    (opened : Opened session w)
    {pool : SessionPool}
    (reaches : (sessionService ext session).Reaches (Careful session) (Pool.initial w) pool)
    {done resp : QueryResponse}
    {number : Nat}
    (statement : number ≠ 0)
    (committed : Event.returned ⟨0, some session⟩ (.ok done) ∈ pool.world.log)
    (succeeded : Event.returned ⟨number, some session⟩ (.ok resp) ∈ pool.world.log) :
    pool.world.RanAll ⟨number, some session⟩ ∧
      pool.world.RanInside ⟨number, some session⟩ fun addr id =>
        Event.tablet (some ⟨0, some session⟩) addr (.ended id .committed) ∈ pool.world.log := by
  have register := (Discipline.governs_of_reaches safeDiscipline_sound opened.register reaches).1
  obtain ⟨inside, all⟩ := register.ran number resp statement succeeded
  refine ⟨all, inside.mono ?_⟩
  rintro addr id (recorded | ended)
  · exact register.tidy.settled (register.committed done committed) addr id recorded
  · exact ended

/-! ### Runs that are decided -/

/-- Maps are compared by their entries. -/
theorem entries_eq_iff
    (found : Option (Map String TxID))
    (map : Map String TxID) :
    found.map (fun other => other.entries.map fun entry => (entry.1, entry.2)) =
        some (map.entries.map fun entry => (entry.1, entry.2)) ↔
      found = some map := by
  have injective : Function.Injective
      (List.map fun entry : Sigma fun _ : String => TxID => (entry.1, entry.2)) :=
    List.map_injective_iff.mpr fun one other same => by
      obtain ⟨key, value⟩ := Prod.mk.inj same
      exact Sigma.ext key (heq_of_eq value)
  constructor
  · intro same
    obtain ⟨other, rfl, equal⟩ := Option.map_eq_some_iff.mp same
    rw [AList.ext (injective equal)]
  · rintro rfl
    rfl

instance (caller : Caller) (op : GateOp) (w : World) : Decidable (Permitted caller op w) :=
  match op with
  | .setLocalTxID session addr _ =>
      inferInstanceAs (Decidable ((w.sessions session).shardTxIDs.lookup addr = none ∧
        (w.sessions session).state ≠ .committed))
  | .getLocalTxID session addr =>
      inferInstanceAs (Decidable (((w.sessions session).shardTxIDs.lookup addr).isSome = true))
  | .setState session .committed =>
      decidable_of_iff _ (entries_eq_iff (lastRead w caller) (w.sessions session).shardTxIDs)
  | .setState _ .idle | .setState _ .inTransaction | .setState _ .rolledBack
  | .create | .get _ | .getState _ | .shardCount _ | .isParticipating _ _
  | .participatingShardsMap _ | .clearParticipants _ | .route _ _ | .getClient _
  | .begin _ | .execute _ _ _ | .prepare _ _ | .commit _ _ | .rollback _ _ => isTrue trivial

instance (sql : SqlText) : Decidable (World.Plain sql) :=
  match sql with
  | .error _ => isTrue nofun
  | .ok stmts => decidable_of_iff (∀ stmt ∈ stmts, Parser.isTxControl stmt = false)
      ⟨fun all _ same => Except.ok.inj same ▸ all, fun plain => plain stmts rfl⟩

instance (pool : SessionPool) (label : SessionLabel) (later : SessionPool) :
    Decidable (OneCommit pool label later) :=
  match label with
  | .invoke req => decidable_of_iff (req.isCommit = true ↔ pool.started = 0)
      ⟨fun first => ⟨fun _ same => Label.invoke.inj same ▸ first, nofun⟩,
        fun one => one.first req rfl⟩
  | .move (.restart addr) => isFalse fun one => one.running addr rfl
  | .move (.reap _ _) | .move (.sync _ _ _) | .move (.reapSession _)
  | .advance _ _ | .finish _ => isTrue ⟨nofun, nofun⟩

instance (session : Int) (pool : SessionPool) (label : SessionLabel) (later : SessionPool) :
    Decidable (Careful session pool label later) :=
  match label with
  | .invoke (.execute sql) => decidable_of_iff
      (OneCommit pool (.invoke (.execute sql)) later ∧ World.Plain sql)
      ⟨fun ⟨one, plain⟩ =>
          ⟨one, fun _ same => SessionCall.execute.inj (Label.invoke.inj same) ▸ plain, nofun⟩,
        fun careful => ⟨careful.toOneCommit, careful.plain sql rfl⟩⟩
  | .invoke .commit => decidable_of_iff (OneCommit pool (.invoke .commit) later)
      ⟨fun one => ⟨one, nofun, nofun⟩, fun careful => careful.toOneCommit⟩
  | .advance number choice => decidable_of_iff
      (∀ step ∈ pool.operation (.advance number choice),
        Permitted ⟨step.1, some session⟩ step.2 pool.world)
      ⟨fun permitted => ⟨⟨nofun, nofun⟩, nofun, permitted⟩, fun careful => careful.permitted⟩
  | .finish _ => isTrue ⟨⟨nofun, nofun⟩, nofun, nofun⟩
  | .move move => decidable_of_iff (OneCommit pool (.move move) later)
      ⟨fun one => ⟨one, nofun, nofun⟩, fun careful => careful.toOneCommit⟩

/-- A session in a transaction without participants. -/
def openSession : World :=
  { twoShardWorld with sessions := Function.update twoShardWorld.sessions 1 ⟨.inTransaction, ∅⟩ }

/-- Operations of a call that go well. -/
def advances (number count : Nat) : List SessionLabel :=
  List.replicate count (.advance number {})

/-- A statement that has succeeded while the commit had begun. -/
def insertDuringCommit : List SessionLabel :=
  .invoke .commit :: .invoke (.execute (.ok [Router.insertUser "1"])) ::
    (advances 0 1 ++ advances 1 7 ++ [.finish 1] ++ advances 0 6 ++ [.finish 0])

/-- An INSERT during a commit of its session is kept. -/
theorem insert_during_commit_kept :
    ∃ pool done resp,
      (sessionService integralExternals 1).runs (Careful 1) insertDuringCommit
          (Pool.initial openSession) = some pool ∧
        Event.returned ⟨0, some 1⟩ (.ok done) ∈ pool.world.log ∧
        Event.returned ⟨1, some 1⟩ (.ok resp) ∈ pool.world.log ∧
        pool.world.RanAll ⟨1, some 1⟩ ∧
        pool.world.RanInside ⟨1, some 1⟩ fun addr id =>
          Event.tablet (some ⟨0, some 1⟩) addr (.ended id .committed) ∈ pool.world.log := by
  have ran : ((sessionService integralExternals 1).runs (Careful 1) insertDuringCommit
      (Pool.initial openSession)).map
        (fun pool => (pool.world.log.any (Event.acknowledges ⟨0, some 1⟩),
          pool.world.log.any (Event.acknowledges ⟨1, some 1⟩))) = some (true, true) := by decide
  obtain ⟨pool, reached, found⟩ := Option.map_eq_some_iff.mp ran
  obtain ⟨committed, succeeded⟩ := Prod.mk.inj found
  obtain ⟨done, committed⟩ := returned_of_any committed
  obtain ⟨resp, succeeded⟩ := returned_of_any succeeded
  exact ⟨pool, done, resp, reached, committed, succeeded,
    no_statement_lost_when_careful integralExternals
      ⟨targetsOwn_of_entries (by decide), rfl, Map.all_empty, rfl⟩
      (Service.reaches_of_runs _ .start reached) (by decide) committed succeeded⟩

/-- Two statements begin on the same tablet, and the first to run is forgotten. -/
def twoFirstTouches : List SessionLabel :=
  .invoke .commit :: .invoke (.execute (.ok [Router.insertUser "1"])) ::
    .invoke (.execute (.ok [Router.insertUser "2"])) ::
    (advances 1 3 ++ advances 2 7 ++ [.finish 2] ++ advances 1 4 ++ [.finish 1] ++
      advances 0 7 ++ [.finish 0])

/-- A call runs a statement in a transaction. -/
def runsIn
    (caller : Caller)
    (addr : String)
    (id : TxID) : Event → Bool
  | .tablet (some other) place (.ran (some held) _ _) =>
      other = caller && place = addr && held = id
  | _ => false

/-- A transaction is committed. -/
def commits
    (addr : String)
    (id : TxID) : Event → Bool
  | .tablet _ place (.ended held .committed) => place = addr && held = id
  | _ => false

/-- A statement that succeeded ran in a transaction the commit does not know. -/
theorem first_touches_lose_a_statement :
    ∃ pool done resp,
      (sessionService integralExternals 1).Reaches OneCommit (Pool.initial openSession) pool ∧
        Event.returned ⟨0, some 1⟩ (.ok done) ∈ pool.world.log ∧
        Event.returned ⟨2, some 1⟩ (.ok resp) ∈ pool.world.log ∧
        ¬ pool.world.RanInside ⟨2, some 1⟩ fun addr id =>
          Event.tablet (some ⟨0, some 1⟩) addr (.ended id .committed) ∈ pool.world.log := by
  have ran : ((sessionService integralExternals 1).runs OneCommit twoFirstTouches
      (Pool.initial openSession)).map
        (fun pool => (pool.world.log.any (Event.acknowledges ⟨0, some 1⟩),
          pool.world.log.any (Event.acknowledges ⟨2, some 1⟩),
          pool.world.log.any (runsIn ⟨2, some 1⟩ "a:1" ⟨1, 0⟩),
          pool.world.log.any (commits "a:1" ⟨1, 0⟩))) =
      some (true, true, true, false) := by decide
  obtain ⟨pool, reached, found⟩ := Option.map_eq_some_iff.mp ran
  simp only [Prod.mk.injEq] at found
  obtain ⟨committed, succeeded, inside, uncommitted⟩ := found
  obtain ⟨done, committed⟩ := returned_of_any committed
  obtain ⟨resp, succeeded⟩ := returned_of_any succeeded
  refine ⟨pool, done, resp, Service.reaches_of_runs _ .start reached, committed, succeeded, ?_⟩
  intro all
  obtain ⟨event, present, runs⟩ := List.any_eq_true.mp inside
  unfold runsIn at runs
  split at runs
  · rename_i other place held stmt outcome
    simp only [Bool.and_eq_true, decide_eq_true_eq] at runs
    obtain ⟨⟨rfl, rfl⟩, rfl⟩ := runs
    obtain ⟨id, same, ended⟩ := all "a:1" (some ⟨1, 0⟩) stmt outcome present
    obtain rfl : (⟨1, 0⟩ : TxID) = id := Option.some.inj same
    have never := List.any_eq_false.mp uncommitted _ ended
    exact never rfl
  · cases runs

end Overlap
end VScale
