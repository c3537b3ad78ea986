import VScale.Gate.Accounts
import VScale.Gate.Rules

/-!
# Requests that keep the accounts

A request whose session is left alone keeps the accounts of the session.  A
statement that succeeds ran inside recorded transactions, and a commit that
succeeds has committed every participant, and with them everything the session
has acknowledged.
-/

namespace VScale

open Aggregate Collections Effects Tree

/-- A call relies on its session being left alone, and keeps the accounts. -/
def accounting (caller : Caller) : Contract World where
  rely := fun before after => World.Others caller before after ∧
    ∀ session, caller.session = some session → World.Unchanged session before after
  guarantee := World.Serving caller
  rely_refl := fun w =>
    ⟨World.Others.refl caller w, fun session _ => World.Unchanged.refl session w⟩
  rely_trans := fun first second =>
    ⟨first.1.trans second.1, fun session own => (first.2 session own).trans (second.2 session own)⟩

/-- Steps of a running call in worlds that keep the accounts. -/
def StepsAccounted
    (ext : Externals)
    (caller : Caller)
    (op : GateOp)
    (before : World)
    (answer : op.Answer)
    (after : World) : Prop :=
  before.Accounts ∧ (∀ outcome, Event.returned caller outcome ∉ before.log) ∧
    ∃ choice, before.act ext caller op choice = (answer, after)

/-- The program keeps the accounts and establishes its postcondition. -/
abbrev Accounted
    (ext : Externals)
    (caller : Caller)
    (program : GateM α)
    (post : α → World → Prop)
    (w : World) : Prop :=
  program.wp (accounting caller) (StepsAccounted ext caller) post w

/-- Operations that change no session. -/
def GateOp.Inert : GateOp → Prop
  | .create => False
  | .setState _ _ => False
  | .setLocalTxID _ _ _ => False
  | .clearParticipants _ => False
  | _ => True

variable {op : GateOp}

/-- Inert operations are in order at any time. -/
theorem orderly_of_inert
    (inert : op.Inert)
    (caller : Caller)
    (w : World) :
    op.Orderly caller w := by
  cases op with
  | setState | setLocalTxID | clearParticipants => exact False.elim inert
  | _ => exact trivial

theorem untouched_of_inert
    (inert : op.Inert)
    (w : World)
    (session : Int) :
    ¬ op.Touches w session := by
  cases op with
  | create | setState | setLocalTxID | clearParticipants => exact False.elim inert
  | _ => exact id

theorem inert_commitOn
    (addr : String)
    (id : TxID) :
    (Coordinator.commitOn addr id).Only GateOp.Inert := by
  refine ⟨trivial, fun client => ?_⟩
  cases client with
  | none => exact trivial
  | some tc => exact ⟨trivial, fun _ => trivial⟩

theorem inert_rollbackAll (session : Int) : (Coordinator.rollbackAll session).Only GateOp.Inert :=
  Coordinator.only_rollbackAll ⟨trivial, fun _ => trivial, fun _ _ => trivial⟩

section Programs

variable {ext : Externals} {caller : Caller} {session : Int} {w : World}

variable {op : GateOp} {before after : World} {id : TxID} {tc : TabletClient} {choice : Choice}

variable {next : op.Answer → GateM α} {post : α → World → Prop} {program : GateM α}
variable {answer : op.Answer}

/-- One operation that is orderly when it happens. -/
theorem accounted_orderly
    (orderly : ∀ before : World, (accounting caller).rely w before → before.Accounts →
      op.Orderly caller before)
    (follows : ∀ (before : World) choice, (accounting caller).rely w before →
      before.Accounts → Accounted ext caller (next (before.act ext caller op choice).1) post
        (before.act ext caller op choice).2) :
    Accounted ext caller (Prog.perform op next) post w := by
  rintro before reached answer after ⟨accounts, running, choice, stepped⟩
  obtain ⟨rfl, rfl⟩ := Prod.ext_iff.mp stepped
  exact ⟨serving_act ext choice accounts running (orderly before reached accounts),
    follows before choice reached accounts⟩

theorem accounted_inert
    (follows : ∀ (before : World) choice, (accounting caller).rely w before →
      before.Accounts → Accounted ext caller (next (before.act ext caller op choice).1) post
        (before.act ext caller op choice).2)
    (inert : op.Inert := by trivial) :
    Accounted ext caller (Prog.perform op next) post w :=
  accounted_orderly (fun before _ _ => orderly_of_inert inert caller before) follows

theorem harmless_of_inert (inert : program.Only GateOp.Inert) :
    Harmless (accounting caller) (StepsAccounted ext caller) program := by
  apply harmless_of_only _ inert
  rintro op before answer after quiet ⟨accounts, running, choice, stepped⟩
  obtain ⟨rfl, rfl⟩ := Prod.ext_iff.mp stepped
  exact serving_act ext choice accounts running (orderly_of_inert quiet caller before)

/-- The session of a call is changed by its own operations only. -/
theorem accounted_same
    (own : caller.session = some session)
    (inert : program.Only GateOp.Inert) :
    Accounted ext caller program
      (fun _ later => later.sessions session = w.sessions session) w := by
  have stable : ∀ before after : World, (accounting caller).rely before after →
      before.sessions session = w.sessions session →
      after.sessions session = w.sessions session :=
    fun _ _ reached same => (reached.2 session own).same.trans same
  refine Prog.wp_of_only stable ?_ inert rfl
  rintro op before answer after quiet ⟨accounts, running, choice, stepped⟩ same
  obtain ⟨rfl, rfl⟩ := Prod.ext_iff.mp stepped
  have unchanged := World.sessions_act ext caller op choice before
    (untouched_of_inert quiet before session)
  exact ⟨serving_act ext choice accounts running (orderly_of_inert quiet caller before),
    unchanged.trans same⟩

/-! ### Statements -/

theorem World.Backed.rely
    (own : caller.session = some session)
    (backed : before.Backed session caller)
    (reached : (accounting caller).rely before after) :
    after.Backed session caller := by
  refine ⟨(reached.1.ranInside backed.1).mono ?_, reached.1.ranAll backed.2⟩
  intro addr id recorded
  rw [World.Recorded, (reached.2 session own).same]
  exact recorded

theorem World.Backed.silent
    (backed : before.Backed session caller)
    (silent : op.Silent)
    (untouched : ¬ op.Touches before session)
    (choice : Choice) : (before.act ext caller op choice).2.Backed session caller := by
  refine ⟨backed.1.silent silent |>.mono ?_, backed.2.silent silent⟩
  intro addr id recorded
  rw [World.Recorded, World.sessions_act ext caller op choice before untouched]
  exact recorded

/-- A call is backed, and tablets are recorded unless they remain to be begun on. -/
structure Ready
    (caller : Caller)
    (session : Int)
    (tablets remaining : List TabletClient)
    (w : World) : Prop where
  backed : w.Backed session caller
  recorded : ∀ tc ∈ tablets, tc ∈ remaining ∨ ∃ id, w.Recorded session tc.target id

variable {tablets remaining : List TabletClient}

theorem Ready.rely
    (own : caller.session = some session)
    (ready : Ready caller session tablets remaining before)
    (reached : (accounting caller).rely before after) :
    Ready caller session tablets remaining after := by
  refine ⟨ready.backed.rely own reached, ?_⟩
  intro tc listed
  unfold World.Recorded
  rw [(reached.2 session own).same]
  exact ready.recorded tc listed

theorem Ready.silent
    (ready : Ready caller session tablets remaining before)
    (silent : op.Silent)
    (untouched : ¬ op.Touches before session)
    (choice : Choice) :
    Ready caller session tablets remaining (before.act ext caller op choice).2 := by
  refine ⟨ready.backed.silent silent untouched choice, ?_⟩
  intro tc listed
  unfold World.Recorded
  rw [World.sessions_act ext caller op choice before untouched]
  exact ready.recorded tc listed

/-- One more tablet is recorded. -/
theorem Ready.step
    (ready : Ready caller session tablets (tc :: remaining) before)
    (recorded : before.Recorded session tc.target id) :
    Ready caller session tablets remaining before := by
  refine ⟨ready.backed, ?_⟩
  intro other listed
  exact pending_or_done (ready.recorded other listed) (by rintro rfl; exact ⟨id, recorded⟩)

/-- Recording a fresh tablet forgets no other. -/
theorem Ready.record
    (choice : Choice)
    (ready : Ready caller session tablets (tc :: remaining) before)
    (fresh : (before.sessions session).shardTxIDs.lookup tc.target = none) :
    Ready caller session tablets remaining
      (before.act ext caller (.setLocalTxID session tc.target id) choice).2 := by
  have kept : ∀ addr other, before.Recorded session addr other →
      (before.act ext caller (.setLocalTxID session tc.target id) choice).2.Recorded
        session addr other :=
    fun addr other recorded => recorded.kept fresh
  have still : Ready caller session tablets (tc :: remaining)
      (before.act ext caller (.setLocalTxID session tc.target id) choice).2 := by
    refine ⟨⟨ready.backed.1.mono kept, ready.backed.2⟩, ?_⟩
    intro other listed
    exact (ready.recorded other listed).imp_right (Exists.imp (kept other.target))
  exact still.step World.recorded_self

/-- A BEGIN without complaint leaves each tablet recorded. -/
theorem accounted_beginOnAll
    (own : caller.session = some session)
    (ready : Ready caller session tablets remaining w) :
    Accounted ext caller (Coordinator.beginOnAll session remaining)
      (fun complaint later => complaint = none → Ready caller session tablets [] later) w := by
  induction remaining generalizing w with
  | nil => exact fun later reached _ => ready.rely own reached
  | cons tc remaining ih =>
      refine accounted_inert ?_
      intro before choice reached _
      have now := ready.rely own reached
      cases asked : (before.act ext caller (.isParticipating session tc.target) choice).1 with
      | true =>
          obtain ⟨id, recorded⟩ := Option.isSome_iff_exists.mp asked
          exact ih (now.step recorded)
      | false =>
          have fresh := Option.isNone_iff_eq_none.mp (Option.isSome_eq_false_iff.mp asked)
          refine accounted_inert ?_
          intro asked choice reachedAsked _
          have begins : GateOp.Inert (.begin tc) := trivial
          have silent : GateOp.Silent (.begin tc) := trivial
          have untouched := untouched_of_inert begins asked session
          have still : Ready caller session tablets (tc :: remaining)
              (asked.act ext caller (.begin tc) choice).2 :=
            (now.rely own reachedAsked).silent silent untouched choice
          have same := World.sessions_act ext caller (.begin tc) choice asked untouched
          have epochs := (World.evolves_act ext caller (.begin tc) choice asked).epochs tc.target
          cases answered : (asked.act ext caller (.begin tc) choice).1 with
          | error failure =>
              apply (harmless_of_inert (inert_rollbackAll session)).bind
              intro _ _ _ _ none
              cases none
          | ok resp =>
              obtain ⟨_, nonzero, epoch⟩ := World.begun_of_act (Prod.ext answered rfl)
              have unrecorded : ∀ later : World,
                  (accounting caller).rely (asked.act ext caller (.begin tc) choice).2 later →
                  (later.sessions session).shardTxIDs.lookup tc.target = none := by
                intro later reachedLater
                rw [(reachedLater.2 session own).same, same, (reachedAsked.2 session own).same]
                exact fresh
              apply accounted_orderly
              · intro later reachedLater _
                refine ⟨Or.inl own, unrecorded later reachedLater, nonzero, ?_⟩
                rw [reachedLater.1.epochs tc.target, epochs]
                exact epoch
              · intro later choice reachedLater _
                exact ih ((still.rely own reachedLater).record choice
                  (unrecorded later reachedLater))

/-- A statement runs in the transaction recorded for its tablet. -/
theorem executing_accounted
    (own : caller.session = some session)
    {sql : SqlText}
    (plain : World.Plain sql) :
    Coordinator.Executing (accounting caller) (StepsAccounted ext caller) session sql tablets
      (Ready caller session tablets []) where
  stable := fun _ _ reached ready => ready.rely own reached
  harmless := fun _ => harmless_of_inert ⟨trivial, fun _ => ⟨trivial, fun _ => trivial⟩⟩
  runs := by
    intro tc listed w ready
    refine accounted_inert ?_
    intro before choice reached _
    have now := ready.rely own reached
    obtain ⟨id, recorded⟩ : ∃ id, before.Recorded session tc.target id := by
      rcases now.recorded tc listed with pending | done
      · cases pending
      · exact done
    have held : (before.act ext caller (.getLocalTxID session tc.target) choice).1 = some id :=
      recorded
    rw [held]
    have executes : GateOp.Inert (.execute tc sql id) := trivial
    refine accounted_inert ?_
    intro sent choice reachedSent accountsSent
    have readySent := now.rely own reachedSent
    have recordedSent : sent.Recorded session tc.target id := by
      rw [World.Recorded, (reachedSent.2 session own).same]
      exact recorded
    obtain ⟨nonzero, current⟩ := accountsSent.numbered session tc.target id recordedSent
    have resolved : (sent.tablets tc.target).tx.resolve id = id := by
      rw [TxManager.resolve, ← current]
    have same : (sent.act ext caller (.execute tc sql id) choice).2.sessions session =
        sent.sessions session :=
      World.sessions_act ext caller _ choice sent (untouched_of_inert executes sent session)
    have inside : (sent.act ext caller (.execute tc sql id) choice).2.RanInside caller
        (sent.Recorded session) := by
      apply readySent.backed.1.execute plain nonzero
      rw [resolved]
      exact recordedSent
    have recordedLater : ∀ addr other, sent.Recorded session addr other →
        (sent.act ext caller (.execute tc sql id) choice).2.Recorded session addr other := by
      intro addr other there
      rw [World.Recorded, same]
      exact there
    intro last reachedLast resp answered
    have all : (sent.act ext caller (.execute tc sql id) choice).2.RanAll caller :=
      readySent.backed.2.execute plain answered
    have done : Ready caller session tablets []
        (sent.act ext caller (.execute tc sql id) choice).2 :=
      ⟨⟨inside.mono recordedLater, all⟩, fun other present =>
        (readySent.recorded other present).imp_right (Exists.imp (recordedLater other.target))⟩
    exact done.rely own reachedLast

/-- A statement that succeeds ran in recorded transactions. -/
theorem accounted_execute
    (own : caller.session = some session)
    {stmt : Statement}
    (plain : Parser.isTxControl stmt = false)
    (idle : w.Backed session caller) :
    Accounted ext caller (Coordinator.execute ext session (.ok [stmt]))
      (OnSuccess fun later => later.Backed session caller) w := by
  refine accounted_inert ?_
  intro before choice reached _
  have backed := idle.rely own reached
  split
  · refine accounted_inert ?_
    intro _ _ _ _
    exact wp_failure _ _
  · have routes : GateOp.Inert (.route (.ok [stmt]) true) := trivial
    have silent : GateOp.Silent (.route (.ok [stmt]) true) := trivial
    refine accounted_inert ?_
    intro asked choice reachedAsked _
    have still : (asked.act ext caller (.route (.ok [stmt]) true) choice).2.Backed session caller :=
      (backed.rely own reachedAsked).silent silent (untouched_of_inert routes asked session) choice
    generalize asked.act ext caller (.route (.ok [stmt]) true) choice = routing at still
    obtain ⟨result, routed⟩ := routing
    split
    · exact wp_failure _ routed
    · have ready : Ready caller session result.tablets result.tablets routed :=
        ⟨still, fun _ listed => Or.inl listed⟩
      apply Prog.wp_seq (accounted_beginOnAll own ready)
      intro failed begun allBegun
      cases failed with
      | some failure => exact wp_failure _ begun
      | none =>
          have done : ∀ outcome later,
              OnSuccess (Ready caller session result.tablets []) outcome later →
              OnSuccess (fun later => later.Backed session caller)
                (outcome : Outcome) later :=
            fun _ _ succeeded resp ok => (succeeded resp ok).backed
          have single : World.Plain (.ok [stmt]) := World.plain_single plain
          simp only
          split
          · rename_i tc one _
            have listed : tc ∈ result.tablets := by
              rw [one]
              exact List.mem_cons_self
            exact Prog.wp_mono (Coordinator.wp_executeSingle (executing_accounted own single)
              listed (allBegun rfl)) done
          · obtain ⟨sent, sentText, sentPlain⟩ := shardText_single ext plain
            have sentOnly : World.Plain (Coordinator.shardText ext (.ok [stmt])) := by
              rw [sentText]
              exact World.plain_single sentPlain
            exact Prog.wp_mono (Coordinator.wp_executeScatter (executing_accounted own sentOnly)
              (harmless_of_inert (inert_rollbackAll session)) (allBegun rfl)) done

/-! ### Commit -/

/-- Everything acknowledged in the session has been committed. -/
def World.Complete (w : World) (session : Int) : Prop :=
  ∀ other, w.Acknowledged session other → w.RanInside other w.Committed ∧ w.RanAll other

/-- The session is committed, and everything it has acknowledged. -/
structure World.Settled (w : World) (session : Int) : Prop where
  state : (w.sessions session).state = .committed
  complete : w.Complete session

/-- The participants are all recorded, and committed unless they remain. -/
structure Committing (session : Int) (remaining : List (String × TxID)) (w : World) : Prop where
  state : (w.sessions session).state = .inTransaction
  recorded : ∀ shard ∈ remaining, w.Recorded session shard.1 shard.2
  committed : ∀ addr id, w.Recorded session addr id →
    (addr, id) ∈ remaining ∨ w.Committed addr id

variable {shards : List (String × TxID)}

theorem World.Others.committed
    (others : World.Others caller before after)
    {addr : String}
    (committed : before.Committed addr id) :
    after.Committed addr id :=
  (others.kept addr).committed committed

theorem World.Complete.rely
    (own : caller.session = some session)
    (complete : before.Complete session)
    (reached : (accounting caller).rely before after) :
    after.Complete session := by
  intro other acknowledged
  have earlier := ((reached.2 session own).acknowledged other).mp acknowledged
  obtain ⟨resp, returned⟩ := earlier.returned
  obtain ⟨inside, all⟩ := complete other earlier
  refine ⟨(reached.1.ranInside_of_over returned inside).mono ?_,
    reached.1.ranAll_of_over returned all⟩
  intro addr id committed
  exact reached.1.committed committed

/-- What keeps the session and the outcomes keeps what a commit knows. -/
theorem Committing.later
    (committing : Committing session shards before)
    (same : after.sessions session = before.sessions session)
    (kept : ∀ {addr id}, before.Committed addr id → after.Committed addr id) :
    Committing session shards after := by
  refine ⟨by rw [same]; exact committing.state, ?_, ?_⟩
  · intro shard listed
    rw [World.Recorded, same]
    exact committing.recorded shard listed
  · intro addr id recorded
    rw [World.Recorded, same] at recorded
    exact (committing.committed addr id recorded).imp_right kept

theorem Committing.rely
    (own : caller.session = some session)
    (committing : Committing session shards before)
    (reached : (accounting caller).rely before after) : Committing session shards after :=
  committing.later (reached.2 session own).same reached.1.committed

theorem Committing.inert
    (committing : Committing session shards before)
    (ext : Externals)
    (caller : Caller)
    (inert : op.Inert)
    (choice : Choice) : Committing session shards (before.act ext caller op choice).2 := by
  have same := World.sessions_act ext caller op choice before
    (untouched_of_inert inert before session)
  exact committing.later same
    ((World.evolves_act ext caller op choice before).kept _).committed

/-- A participant that is committed need not be asked any more. -/
theorem Committing.step
    {shard : String × TxID}
    (committing : Committing session (shard :: shards) w)
    (committed : w.Committed shard.1 shard.2) : Committing session shards w := by
  refine ⟨committing.state, ?_, ?_⟩
  · intro other listed
    exact committing.recorded other (List.mem_cons_of_mem shard listed)
  · intro addr id recorded
    exact pending_or_done (committing.committed addr id recorded) (by rintro rfl; exact committed)

/-- A participant that confirms has committed. -/
theorem accounted_commitOn
    (own : caller.session = some session)
    (shard : String × TxID)
    (committing : Committing session (shard :: shards) w) :
    Accounted ext caller (Coordinator.commitOn shard.1 shard.2)
      (fun answer later => Coordinator.confirmed answer = true →
        Committing session shards later) w := by
  have looks : GateOp.Inert (.getClient shard.1) := trivial
  refine accounted_inert ?_
  intro before choice reached accounts
  have still := (committing.rely own reached).inert ext caller looks choice
  cases found : (before.act ext caller (.getClient shard.1) choice).1 with
  | none => exact fun _ _ unconfirmed => nomatch unconfirmed
  | some tc =>
      have target : tc.target = shard.1 := accounts.own shard.1 tc found
      have commits : GateOp.Inert (.commit tc shard.2) := trivial
      refine accounted_inert ?_
      intro asked choice reachedAsked accountsAsked
      have now := still.rely own reachedAsked
      have later := now.inert ext caller commits choice
      intro final reachedFinal accepted
      apply (later.rely own reachedFinal).step
      cases answered : (asked.act ext caller (.commit tc shard.2) choice).1 with
      | error failure =>
          rw [answered] at accepted
          cases accepted
      | ok resp =>
          rw [answered] at accepted
          have recorded := now.recorded shard List.mem_cons_self
          obtain ⟨nonzero, current⟩ := accountsAsked.numbered session shard.1 shard.2 recorded
          have committed :=
            (World.committed_of_act (Prod.ext answered rfl) accepted nonzero).1
          rw [target, TxManager.resolve, ← current] at committed
          exact reachedFinal.1.committed committed

theorem committing_accounted (own : caller.session = some session) :
    Coordinator.Committing (accounting caller) (StepsAccounted ext caller) session
      (Committing session) where
  stable := fun _ _ _ reached committing => committing.rely own reached
  harmless := fun addr id => harmless_of_inert (inert_commitOn addr id)
  aborts := harmless_of_inert (inert_rollbackAll session)
  asks := fun shard _ _ committing => accounted_commitOn own shard committing

/-- What holds when a commit has succeeded. -/
def Concluded (session : Int) (w : World) : Prop :=
  w.Settled session ∧ (w.sessions session).shardTxIDs = ∅

theorem concluded_rely
    (own : caller.session = some session)
    (done : Concluded session before)
    (reached : (accounting caller).rely before after) :
    Concluded session after := by
  have same := (reached.2 session own).same
  refine ⟨⟨?_, done.1.complete.rely own reached⟩, ?_⟩
  · rw [same]
    exact done.1.state
  · rw [same]
    exact done.2

/-- Leaving the transaction settles what is committed. -/
theorem settled_setState
    (choice : Choice)
    (accounts : before.Accounts)
    (committing : Committing session [] before) :
    (before.act ext caller (.setState session .committed) choice).2.Settled session := by
  refine ⟨?_, ?_⟩
  · rw [World.session_setState]
  · intro other acknowledged
    obtain ⟨inside, all⟩ := accounts.backed session other committing.state acknowledged
    refine ⟨World.RanInside.mono inside ?_, all⟩
    intro addr id recorded
    rcases committing.committed addr id recorded with pending | done
    · cases pending
    · exact done

section Own

variable (own : caller.session = some session)
include own

/-- A commit is concluded when all participants are committed. -/
theorem accounted_concludeCommit
    (committing : Committing session [] w) :
    Accounted ext caller (Coordinator.concludeCommit session)
      (OnSuccess (Concluded session)) w := by
  apply accounted_orderly
  · intro before _ _
    exact Or.inl own
  · intro before choice reached accounts
    have settled : (before.act ext caller (.setState session .committed) choice).2.Settled
        session := settled_setState choice accounts (committing.rely own reached)
    generalize (before.act ext caller (.setState session .committed) choice).2 = after at settled
    have kept : ∀ later : World, (accounting caller).rely after later →
        (later.sessions session).state = .committed := by
      intro later reachedLater
      rw [(reachedLater.2 session own).same]
      exact settled.state
    apply accounted_orderly
    · intro later reachedLater _
      refine ⟨Or.inl own, fun state => ?_⟩
      rw [kept later reachedLater] at state
      cases state
    · intro later choice reachedLater _
      have complete := settled.complete.rely own reachedLater
      have done : Concluded session
          (later.act ext caller (.clearParticipants session) choice).2 := by
        refine ⟨⟨?_, complete⟩, ?_⟩
        · simp only [World.act, World.updateSession, Function.update_self]
          exact kept later reachedLater
        · simp only [World.act, World.updateSession, Function.update_self]
      exact fun last reachedLast _ _ => concluded_rely own done reachedLast

/-- The participants read from a session are the recorded ones. -/
theorem accounted_participatingShardsMap
    {next : List (String × TxID) → GateM α}
    (inside : (w.sessions session).state = .inTransaction)
    (follows : ∀ shards later, Committing session shards later →
      Accounted ext caller (next shards) post later) :
    Accounted ext caller (Prog.perform (.participatingShardsMap session) next) post w := by
  refine accounted_inert ?_
  intro before choice reached _
  have member := Map.mem_visited choice.order (before.sessions session).shardTxIDs
  exact follows _ _ ⟨(congrArg Session.state (reached.2 session own).same).trans inside,
    fun shard listed => (member _ _).mp listed,
    fun addr id recorded => Or.inl ((member addr id).mpr recorded)⟩

theorem accounted_commitAll
    (inside : (w.sessions session).state = .inTransaction) :
    Accounted ext caller (Coordinator.commitAll session)
      (fun complaint later => complaint = none → Committing session [] later) w := by
  apply accounted_participatingShardsMap own inside
  intro shards read committing
  apply Prog.wp_seq (Coordinator.wp_commitShards (committing_accounted own) committing)
  intro complaint later satisfied final reached none
  cases complaint with
  | none => exact (satisfied rfl).rely own reached
  | some reason => cases none

/-- Two phases that succeed conclude the commit. -/
theorem accounted_commitInPhases
    (inside : (w.sessions session).state = .inTransaction) :
    Accounted ext caller (Coordinator.commitInPhases session)
      (OnSuccess (Concluded session)) w := by
  have prepares : (Coordinator.prepareAll session).Only GateOp.Inert :=
    Coordinator.only_prepareAll trivial (fun _ => trivial) fun _ _ => trivial
  apply Prog.wp_seq (accounted_same own prepares)
  intro unprepared prepared same
  cases unprepared with
  | some failure => exact Coordinator.wp_abort (committing_accounted own).aborts failure prepared
  | none =>
      have still : (prepared.sessions session).state = .inTransaction := by
        rw [same]
        exact inside
      apply Prog.wp_seq (accounted_commitAll own still)
      intro uncommitted later committed
      cases uncommitted with
      | some failure => exact wp_failure _ later
      | none => exact accounted_concludeCommit own (committed rfl)

/-- A commit that succeeds is concluded. -/
theorem accounted_commit :
    Accounted ext caller (Coordinator.commit session) (OnSuccess (Concluded session)) w := by
  refine accounted_inert ?_
  intro before choice reached _
  split
  · refine accounted_inert ?_
    intro _ _ _ _
    exact wp_failure _ _
  · rename_i inside
    refine accounted_inert ?_
    intro counted choice reachedCount _
    have same := (reachedCount.2 session own).same
    have still : ((counted.act ext caller (.shardCount session) choice).2.sessions session).state =
        .inTransaction := (congrArg Session.state same).trans (Decidable.not_not.mp inside)
    split
    · rename_i none
      have empty : (counted.sessions session).shardTxIDs = ∅ :=
        AList.ext (List.length_eq_zero_iff.mp none)
      have committing : Committing session []
          (counted.act ext caller (.shardCount session) choice).2 := by
        refine ⟨still, List.forall_mem_nil _, ?_⟩
        intro addr id recorded
        change (counted.sessions session).shardTxIDs.lookup addr = some id at recorded
        rw [empty, AList.lookup_empty] at recorded
        cases recorded
      apply accounted_orderly
      · intro _ _ _
        exact Or.inl own
      · intro later choice reachedLater accounts
        have settled : (later.act ext caller (.setState session .committed) choice).2.Settled
            session := settled_setState choice accounts (committing.rely own reachedLater)
        have done : Concluded session
            (later.act ext caller (.setState session .committed) choice).2 := by
          refine ⟨settled, ?_⟩
          rw [World.session_setState]
          exact (congrArg Session.shardTxIDs (reachedLater.2 session own).same).trans empty
        exact fun last reachedLast _ _ => concluded_rely own done reachedLast
    · split
      · apply accounted_participatingShardsMap own still
        intro shards later committing
        exact Coordinator.wp_commitEach (committing_accounted own)
          (fun _ all => accounted_concludeCommit own all) committing
      · exact accounted_commitInPhases own still

/-- A rollback that succeeds leaves the session rolled back. -/
theorem accounted_rollback :
    Accounted ext caller (Coordinator.rollback session)
      (OnSuccess fun later => (later.sessions session).state = .rolledBack) w := by
  refine accounted_inert ?_
  intro before choice _ _
  split
  · refine accounted_inert ?_
    intro _ _ _ _
    exact wp_failure _ _
  · apply (harmless_of_inert (inert_rollbackAll session)).bind
    intro _ rolled
    apply accounted_orderly
    · intro _ _ _
      exact Or.inl own
    · intro left choice _ _
      have state := congrArg Session.state
        (World.session_setState ext caller session .rolledBack choice left)
      generalize (left.act ext caller (.setState session .rolledBack) choice).2 = later at state
      have kept : ∀ final : World, (accounting caller).rely later final →
          (final.sessions session).state = .rolledBack :=
        fun final reached =>
          (congrArg Session.state (reached.2 session own).same).trans state
      apply accounted_orderly
      · intro final reached _
        refine ⟨Or.inl own, fun inside => ?_⟩
        rw [kept final reached] at inside
        cases inside
      · intro final choice reached _
        have done : ((final.act ext caller (.clearParticipants session) choice).2.sessions
            session).state = .rolledBack := by
          simp only [World.act, World.updateSession, Function.update_self]
          exact kept final reached
        exact fun last reachedLast _ _ =>
          (congrArg Session.state (reachedLast.2 session own).same).trans done

end Own

/-! ### Begin -/

/-- A call has run nothing so far. -/
def World.RanNothing (w : World) (caller : Caller) : Prop :=
  w.RanInside caller (fun _ _ => False) ∧ w.RanAll caller

theorem World.RanNothing.backed
    (nothing : w.RanNothing caller)
    (session : Int) :
    w.Backed session caller :=
  ⟨nothing.1.mono fun _ _ impossible => impossible.elim, nothing.2⟩

theorem World.RanNothing.rely
    (nothing : before.RanNothing caller)
    (reached : (accounting caller).rely before after) : after.RanNothing caller :=
  ⟨reached.1.ranInside nothing.1, reached.1.ranAll nothing.2⟩

theorem World.RanNothing.silent
    (nothing : before.RanNothing caller)
    (ext : Externals)
    (silent : op.Silent)
    (choice : Choice) : (before.act ext caller op choice).2.RanNothing caller :=
  ⟨nothing.1.silent silent, nothing.2.silent silent⟩

theorem harmless_begin :
    Harmless (accounting caller) (StepsAccounted ext caller) Coordinator.begin := by
  intro w
  apply accounted_orderly
  · intro _ _ _
    exact trivial
  · intro before choice _ _
    apply accounted_orderly
    · intro later reached _
      obtain ⟨new, logged, _⟩ := reached.1.logged
      refine Or.inr ?_
      rw [logged]
      exact List.mem_append_right new List.mem_cons_self
    · exact fun _ _ _ _ _ _ => trivial

theorem accounted_withSession
    {txID : Int}
    {missing : String}
    {rest : GateM Outcome}
    {holds : World → Prop}
    (nothing : w.RanNothing caller)
    (follows : ∀ later, later.RanNothing caller →
      Accounted ext caller rest (OnSuccess holds) later) :
    Accounted ext caller (Gateway.withSession txID missing rest) (OnSuccess holds) w := by
  refine accounted_inert ?_
  intro before choice reached _
  have silent : GateOp.Silent (.get txID) := trivial
  have still := (nothing.rely reached).silent ext silent choice
  split
  · exact follows _ still
  · exact wp_failure _ _

/-- A BEGIN that names a session leaves the call backed. -/
theorem accounted_handleBegin
    (own : caller.session = some session)
    (nonzero : session ≠ 0)
    (nothing : w.RanNothing caller) :
    Accounted ext caller (Gateway.handleBegin session)
      (OnSuccess fun later => later.Backed session caller) w := by
  have stays : ∀ later : World, later.RanNothing caller → ∀ resp : QueryResponse,
      Accounted ext caller (.pure (.ok resp) : GateM Outcome)
        (OnSuccess fun later => later.Backed session caller) later :=
    fun later idle resp last reached _ _ => (idle.rely reached).backed session
  unfold Gateway.handleBegin
  rw [if_pos nonzero]
  apply accounted_withSession nothing
  intro checked idle
  refine accounted_inert ?_
  intro before choice reached _
  have silentCheck : GateOp.Silent (.getState session) := trivial
  have still := (idle.rely reached).silent ext silentCheck choice
  split
  · exact stays _ still _
  · apply accounted_orderly
    · intro _ _ _
      exact Or.inl own
    · intro left choice reachedLeft _
      have silentSet : GateOp.Silent (.setState session .inTransaction) := trivial
      have idleLater := (still.rely reachedLeft).silent ext silentSet choice
      have begun : (left.act ext caller (.setState session .inTransaction) choice).2.log =
          .begun caller session :: left.log := rfl
      apply accounted_orderly
      · intro final reachedFinal _
        refine ⟨Or.inl own, fun _ other acknowledged => ?_⟩
        exact World.not_acknowledged_of_begun begun other
          (((reachedFinal.2 session own).acknowledged other).mp acknowledged)
      · intro final choice reachedFinal _
        have silentClear : GateOp.Silent (.clearParticipants session) := trivial
        exact stays _ ((idleLater.rely reachedFinal).silent ext silentClear choice) _

end Programs

/-! ### Requests -/

/-- The request is a single COMMIT. -/
def QueryRequest.Commits (req : QueryRequest) : Prop :=
  ∃ stmt, req.sql = .ok [stmt] ∧ Parser.isCommit stmt = true

/-- The request has at most one statement. -/
def QueryRequest.Single (req : QueryRequest) : Prop :=
  ∀ stmts, req.sql = .ok stmts → stmts.length ≤ 1

/-- What holds when a request of a session succeeds. -/
structure Served (req : QueryRequest) (caller : Caller) (session : Int) (w : World) : Prop where
  backed : (w.sessions session).state = .inTransaction → w.Backed session caller
  committed : req.Commits → Concluded session w

section Requests

variable {ext : Externals} {caller : Caller} {w : World}

variable {req : QueryRequest} {failed : String} {holds : World → Prop}

/-- Outside sessions nothing is left to say. -/
theorem harmless_outside (outside : req.transactionId = 0) :
    Harmless (accounting caller) (StepsAccounted ext caller) (Gateway.execute ext req) := by
  have answers : ∀ outcome : Outcome, Harmless (accounting caller) (StepsAccounted ext caller)
      (.pure outcome : GateM Outcome) := fun _ _ _ _ => trivial
  unfold Gateway.execute
  rw [outside]
  split
  · exact answers _
  · exact answers _
  · split
    · exact harmless_begin.bind fun _ _ _ _ => trivial
    · split
      · exact answers _
      · split
        · exact answers _
        · exact harmless_of_inert (Gateway.only_executeAutocommit ext trivial (fun _ => trivial)
            fun _ => trivial)

theorem onSuccess_concludeWith
    {outcome : Outcome}
    (succeeded : OnSuccess holds outcome w) :
    OnSuccess holds (Gateway.concludeWith failed outcome) w := by
  intro resp ok
  cases outcome with
  | error fault =>
      cases fault with
      | error | crash => cases ok
  | ok result => exact succeeded result rfl

/-- An ending that has been decided stays so until it is returned. -/
theorem accounted_concludeWith
    {program : GateM Outcome}
    (stable : ∀ before after, (accounting caller).rely before after →
      holds before → holds after)
    (ends : Accounted ext caller program (OnSuccess holds) w) :
    Accounted ext caller (program >>= fun outcome =>
      pure (Gateway.concludeWith failed outcome)) (OnSuccess holds) w := by
  apply Prog.wp_seq ends
  intro outcome later succeeded final reached
  have kept : OnSuccess holds outcome final := fun resp ok =>
    stable later final reached (succeeded resp ok)
  exact onSuccess_concludeWith kept

section Inside

variable {session : Int} (own : caller.session = some session) (nonzero : session ≠ 0)
variable (nothing : w.RanNothing caller)
include own nonzero nothing

theorem accounted_handleCommit :
    Accounted ext caller (Gateway.handleCommit session) (OnSuccess (Concluded session)) w := by
  unfold Gateway.handleCommit
  rw [if_neg nonzero]
  apply accounted_withSession nothing
  intro later _
  exact accounted_concludeWith (fun _ _ reached done => concluded_rely own done reached)
    (accounted_commit own)

theorem accounted_handleRollback :
    Accounted ext caller (Gateway.handleRollback session)
      (OnSuccess fun later => (later.sessions session).state = .rolledBack) w := by
  unfold Gateway.handleRollback
  rw [if_neg nonzero]
  apply accounted_withSession nothing
  intro later _
  exact accounted_concludeWith (fun _ _ reached state =>
    (congrArg Session.state (reached.2 session own).same).trans state) (accounted_rollback own)

/-- What a statement of a session has established when it succeeds. -/
theorem served_statement (stmt : Statement) :
    Accounted ext caller (Gateway.execute ext ⟨.ok [stmt], session⟩)
      (OnSuccess fun later =>
        ((later.sessions session).state = .inTransaction → later.Backed session caller) ∧
          (Parser.isCommit stmt = true → Concluded session later)) w := by
  have backs : ∀ program : GateM Outcome, Parser.isCommit stmt = false →
      Accounted ext caller program (OnSuccess fun later => later.Backed session caller) w →
      Accounted ext caller program (OnSuccess fun later =>
        ((later.sessions session).state = .inTransaction → later.Backed session caller) ∧
          (Parser.isCommit stmt = true → Concluded session later)) w := by
    intro program other accounted
    apply Prog.wp_mono accounted
    intro outcome later succeeded resp ok
    refine ⟨fun _ => succeeded resp ok, fun asked => ?_⟩
    rw [asked] at other
    cases other
  unfold Gateway.execute
  simp only
  split
  · rename_i begins
    apply backs _ _ (accounted_handleBegin own nonzero nothing)
    unfold Parser.isCommit
    rw [eq_of_beq begins]
    rfl
  · rename_i notBegin
    split
    · apply Prog.wp_mono (accounted_handleCommit own nonzero nothing)
      intro outcome later succeeded resp ok
      refine ⟨fun state => ?_, fun _ => succeeded resp ok⟩
      rw [(succeeded resp ok).1.state] at state
      cases state
    · rename_i notCommit
      have other : Parser.isCommit stmt = false := Bool.eq_false_iff.mpr notCommit
      split
      · apply Prog.wp_mono (accounted_handleRollback own nonzero nothing)
        intro outcome later succeeded resp ok
        refine ⟨fun state => ?_, fun asked => absurd asked notCommit⟩
        rw [succeeded resp ok] at state
        cases state
      · rename_i notRollback
        have plain : Parser.isTxControl stmt = false := by
          simp [Parser.isTxControl, notBegin, notCommit, notRollback]
        apply backs _ other
        apply accounted_withSession nothing
        intro later idle
        exact accounted_execute own plain (idle.backed session)

end Inside

/-- What a request of a session has established when it succeeds. -/
theorem served_inside
    (single : req.Single)
    (own : caller.session = some req.transactionId)
    (inside : req.transactionId ≠ 0)
    (nothing : w.RanNothing caller) :
    Accounted ext caller (Gateway.execute ext req)
      (OnSuccess (Served req caller req.transactionId)) w := by
  obtain ⟨sql, session⟩ := req
  cases sql with
  | error failure => exact wp_failure _ w
  | ok stmts =>
      cases stmts with
      | nil =>
          intro later reached _ _
          refine ⟨fun _ => (nothing.rely reached).backed session, ?_⟩
          rintro ⟨stmt, parsed, _⟩
          cases parsed
      | cons stmt rest =>
          obtain rfl : rest = [] := by
            have short := single _ rfl
            rw [List.length_cons] at short
            exact List.length_eq_zero_iff.mp (by omega)
          apply Prog.wp_mono (served_statement own inside nothing stmt)
          intro outcome later succeeded resp ok
          obtain ⟨backed, committed⟩ := succeeded resp ok
          refine ⟨backed, ?_⟩
          rintro ⟨other, parsed, tagged⟩
          injection parsed with same
          injection same with same
          rw [← same] at tagged
          exact committed tagged

/-- What any request has established when it succeeds. -/
theorem served_gateway
    (single : req.Single)
    (number : Nat)
    (nothing : w.RanNothing ((gateService ext).caller number req)) :
    Accounted ext ((gateService ext).caller number req) (Gateway.execute ext req)
      (fun outcome later => ∀ session,
        ((gateService ext).caller number req).session = some session →
        OnSuccess (Served req ((gateService ext).caller number req) session) outcome later) w := by
  by_cases outside : req.transactionId = 0
  · apply Prog.wp_mono (harmless_outside outside w)
    intro _ _ _ session own
    have none : ((gateService ext).caller number req).session = none := if_pos outside
    rw [none] at own
    cases own
  · have own : ((gateService ext).caller number req).session = some req.transactionId :=
      if_neg outside
    apply Prog.wp_mono (served_inside single own outside nothing)
    intro outcome later served session same
    obtain rfl : req.transactionId = session := Option.some.inj (own.symm.trans same)
    exact served

end Requests

end VScale
