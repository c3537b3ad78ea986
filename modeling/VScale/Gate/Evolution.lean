import VScale.Effects.Pool
import VScale.Gate.Transactions
import VScale.Router.Routing
import VScale.Tablet.Confinement

/-!
# What one step of the gate changes

The gate serves its requests as interleaved calls.  Every operation keeps the
transactions of all tablets, adds events of its own caller to the log, and
changes at most the session it names.
-/

namespace VScale

open Collections Effects

/-- The gate as a service. -/
def gateService (ext : Externals) : Service gate QueryRequest Outcome Caller World Choice Move where
  toMachine := World.machine ext
  program := Gateway.execute ext
  caller := fun number req =>
    ⟨number, if req.transactionId = 0 then none else some req.transactionId⟩
  conclude := fun caller outcome w => w.addEvent (.returned caller outcome)

/-- The pools of the gate. -/
abbrev GatePool := Pool gate QueryRequest Outcome World

/-- The steps of the gate. -/
abbrev GateLabel := Label QueryRequest Choice Move

/-- A request that is answered before anything else happens, when it makes this
many operations and none of them fails. -/
def inTurn (number count : Nat) (req : QueryRequest) : List GateLabel :=
  .invoke req :: List.replicate count (.advance number {}) ++ [.finish number]

/-- The call an event belongs to. -/
def Event.caller : Event → Option Caller
  | .created caller _ => some caller
  | .begun caller _ => some caller
  | .read caller _ _ => some caller
  | .sent caller _ _ => some caller
  | .tablet caller _ _ => caller
  | .returned caller _ => some caller

/-- Nothing is returned by this event. -/
def Event.Inner : Event → Prop
  | .returned _ _ => False
  | _ => True

/-- The tablet a request is sent to and the id it carries. -/
def GateOp.request : GateOp → Option (String × TxID)
  | .execute tc _ txID => some (tc.target, txID)
  | .prepare tc txID => some (tc.target, txID)
  | .commit tc txID => some (tc.target, txID)
  | .rollback tc txID => some (tc.target, txID)
  | _ => none

/-- The transaction an operation is sent for. -/
def GateOp.Aims (op : GateOp) (w : World) (addr : String) (id : TxID) : Prop :=
  ∃ txID, op.request = some (addr, txID) ∧ TabletHandler.Aimed (w.tablets addr) txID id

/-- An operation changes a session. -/
def GateOp.Touches (op : GateOp) (w : World) (session : Int) : Prop :=
  match op with
  | .create => session = w.nextID + 1
  | .setState other _ => session = other
  | .setLocalTxID other _ _ => session = other
  | .clearParticipants other => session = other
  | _ => False

/-- An event is applied to a given transaction or to one the caller has begun, or
it begins a given session. -/
def Event.Within
    (caller : Caller)
    (given : String → TxID → Prop)
    (sessions : Int → Prop)
    (w : World) : Event → Prop
  | .tablet _ addr done => ∀ id, done.target = some id →
      given addr id ∨ ∃ tx, (w.tablets addr).tx.txns id = some tx ∧ tx.owner = caller
  | .begun _ session => sessions session
  | _ => True

/-- Transactions are kept on all tablets. -/
def World.Keeps (before after : World) : Prop :=
  ∀ addr, TxManager.Later (before.tablets addr).tx (after.tablets addr).tx

/-- How an operation of a caller may change tablets and log. -/
structure World.Evolves
    (caller : Caller)
    (given : String → TxID → Prop)
    (sessions : Int → Prop)
    (before after : World) : Prop where
  kept : before.Keeps after
  epochs : ∀ addr, (after.tablets addr).tx.epoch = (before.tablets addr).tx.epoch
  logged : ∃ new, after.log = new ++ before.log ∧
    ∀ event ∈ new,
      event.caller = some caller ∧ event.Inner ∧ event.Within caller given sessions after

namespace World

variable {caller : Caller} {given : String → TxID → Prop} {sessions : Int → Prop} {w : World}

variable {after : World} {addr : String} {id : TxID} {tx : LocalTx} {choice : Choice}

/-- An operation that leaves the tablets alone and adds some plain events. -/
theorem Evolves.of_same
    (same : after.tablets = w.tablets)
    (logged : ∃ new, after.log = new ++ w.log ∧
      ∀ event ∈ new, event.caller = some caller ∧ event.Inner ∧
        event.Within caller given sessions after) :
    Evolves caller given sessions w after where
  kept := fun addr => by
    rw [same]
    exact TxManager.Later.refl _
  epochs := fun addr => by rw [same]
  logged := logged

theorem Evolves.of_silent
    (same : after.tablets = w.tablets)
    (silent : after.log = w.log) : Evolves caller given sessions w after :=
  .of_same same ⟨[], silent, List.forall_mem_nil _⟩

theorem Evolves.of_event
    {event : Event}
    (same : after.tablets = w.tablets)
    (logged : after.log = event :: w.log)
    (own : event.caller = some caller ∧ event.Inner ∧ event.Within caller given sessions after) :
    Evolves caller given sessions w after :=
  .of_same same ⟨[event], logged, List.forall_mem_singleton.mpr own⟩

theorem Evolves.trans
    {middle : World}
    (first : Evolves caller given sessions w middle)
    (second : Evolves caller given sessions middle after) :
    Evolves caller given sessions w after where
  kept := fun addr => (first.kept addr).trans (second.kept addr)
  epochs := fun addr => (second.epochs addr).trans (first.epochs addr)
  logged := by
    obtain ⟨early, early_eq, earlyOwn⟩ := first.logged
    obtain ⟨late, late_eq, lateOwn⟩ := second.logged
    refine ⟨late ++ early, by rw [late_eq, early_eq, List.append_assoc], ?_⟩
    intro event present
    rcases List.mem_append.mp present with here | there
    · exact lateOwn event here
    · obtain ⟨own, inner, within⟩ := earlyOwn event there
      refine ⟨own, inner, ?_⟩
      cases event with
      | tablet k addr done =>
          intro id target
          rcases within id target with old | owned
          · exact Or.inl old
          · exact Or.inr (Executor.owned_later (second.kept addr) owned)
      | _ => exact within

variable {handler : Executor → Reply Executor α}

/-- A call to a tablet is confined when its handler is. -/
theorem evolves_callTablet
    (choice : Choice)
    (confined : (w.tablets addr).Confined caller (given addr) (handler (w.tablets addr)).state
      (handler (w.tablets addr)).events) :
    Evolves caller given sessions w (w.callTablet caller choice addr handler).2 := by
  have absorbed : Evolves caller given sessions w
      (w.absorb caller addr (handler (w.tablets addr))) := by
    refine ⟨?_, ?_, _, rfl, ?_⟩
    · intro other
      by_cases same : other = addr
      · subst same
        simp only [absorb, Function.update_self]
        exact confined.kept
      · simp only [absorb, Function.update_of_ne same]
        exact TxManager.Later.refl _
    · intro other
      by_cases same : other = addr
      · subst same
        simp only [absorb, Function.update_self]
        exact confined.epoch
      · simp only [absorb, Function.update_of_ne same]
    · intro event present
      obtain ⟨done, listed, rfl⟩ := List.mem_map.mp (List.mem_reverse.mp present)
      refine ⟨rfl, trivial, ?_⟩
      intro id target
      simp only [absorb, Function.update_self]
      exact confined.applied done listed id target
  unfold callTablet
  cases choice.network with
  | answered | replyLost => exact absorbed
  | lost failure => exact .of_silent rfl rfl

section Operations

variable (ext : Externals) (caller : Caller)

/-- Every operation keeps the transactions and logs its own events. -/
theorem evolves_act
    (op : GateOp)
    (choice : Choice)
    (w : World) :
    Evolves caller (op.Aims w) (op.Touches w) w (w.act ext caller op choice).2 := by
  cases op with
  | create | shardCount | participatingShardsMap => exact .of_event rfl rfl ⟨rfl, trivial, trivial⟩
  | setState session state =>
      simp only [act]
      split
      · exact .of_event rfl rfl ⟨rfl, trivial, rfl⟩
      · exact .of_silent rfl rfl
  | begin tc =>
      rw [act_begin]
      apply evolves_callTablet
      exact (TabletHandler.confined_execute choice.verdicts beginText TxID.zero _).mono
        fun _ aimed => absurd rfl aimed.1
  | execute tc sql txID =>
      rw [act_execute]
      have sent : Evolves caller (GateOp.Aims (.execute tc sql txID) w)
          (GateOp.Touches (.execute tc sql txID) w) w
          (w.addEvent (.sent caller tc.target sql)) :=
        .of_event rfl rfl ⟨rfl, trivial, trivial⟩
      apply sent.trans
      apply evolves_callTablet
      exact (TabletHandler.confined_execute choice.verdicts sql txID _).mono
        fun _ aimed => ⟨txID, rfl, aimed⟩
  | prepare tc txID =>
      rw [act_prepare]
      apply evolves_callTablet
      exact (TabletHandler.confined_prepareReply
        (TabletHandler.prepare_reply choice.verdicts txID _)).mono fun _ aimed => ⟨txID, rfl, aimed⟩
  | commit tc txID =>
      rw [act_commit]
      apply evolves_callTablet
      exact (TabletHandler.confined_endReply
        (TabletHandler.commit_reply choice.verdicts txID _)).mono fun _ aimed => ⟨txID, rfl, aimed⟩
  | rollback tc txID =>
      rw [act_rollback]
      apply evolves_callTablet
      exact (TabletHandler.confined_endReply
        (TabletHandler.rollback_reply choice.verdicts txID _)).mono
        fun _ aimed => ⟨txID, rfl, aimed⟩
  | _ => exact .of_silent rfl rfl

/-- Sessions an operation does not name stay as they are. -/
theorem sessions_act
    (op : GateOp)
    (choice : Choice)
    (w : World)
    {session : Int}
    (untouched : ¬ op.Touches w session) :
    (w.act ext caller op choice).2.sessions session = w.sessions session := by
  cases op with
  | create | setLocalTxID | clearParticipants => exact Function.update_of_ne untouched _ _
  | setState other state =>
      simp only [act]
      split
      · exact Function.update_of_ne untouched _ _
      · exact Function.update_of_ne untouched _ _
  | begin | execute | prepare | commit | rollback =>
      exact congrFun (callTablet_frame _ _ _ _ _).1 session
  | _ => rfl

theorem session_setState
    (session : Int)
    (state : SessionState)
    (choice : Choice)
    (w : World) :
    (w.act ext caller (.setState session state) choice).2.sessions session =
      { w.sessions session with state := state } := by
  simp only [act]
  split
  · exact Function.update_self ..
  · exact Function.update_self ..

/-- What holds of all participants of a session goes on holding when it holds of the
one that is recorded. -/
theorem all_participants_act
    (op : GateOp)
    (choice : Choice)
    {w : World}
    {session : Int}
    {property : String → TxID → Prop}
    (held : (w.sessions session).shardTxIDs.All property)
    (recorded : ∀ addr id, op = .setLocalTxID session addr id → property addr id) :
    ((w.act ext caller op choice).2.sessions session).shardTxIDs.All property := by
  by_cases touches : op.Touches w session
  · cases op with
    | create =>
        obtain rfl : session = w.nextID + 1 := touches
        simp only [act, Function.update_self]
        exact Map.all_empty
    | setState other state =>
        obtain rfl : session = other := touches
        rw [session_setState]
        exact held
    | setLocalTxID other addr id =>
        obtain rfl : session = other := touches
        simp only [act, updateSession, Function.update_self]
        exact Map.all_insert held (recorded addr id rfl)
    | clearParticipants other =>
        obtain rfl : session = other := touches
        simp only [act, updateSession, Function.update_self]
        exact Map.all_empty
    | _ => exact False.elim touches
  · rw [sessions_act ext caller op choice w touches]
    exact held

/-- Clients keep their targets. -/
theorem targetsOwn_act
    (op : GateOp)
    (choice : Choice)
    {w : World}
    (own : w.router.TargetsOwn) :
    (w.act ext caller op choice).2.router.TargetsOwn := by
  have same : ∀ {later : World}, later.router.clients = w.router.clients →
      later.router.TargetsOwn := by
    intro later clients
    rw [Router.TargetsOwn, clients]
    exact own
  cases op with
  | setState session state =>
      simp only [act]
      split
      · exact own
      · exact own
  | route sql inTransaction => exact same (Router.route_clients _ _ _ _ _)
  | begin | execute | prepare | commit | rollback =>
      exact same (congrArg _ (callTablet_frame _ _ _ _ _).2.1)
  | _ => exact own

end Operations

theorem txns_callTablet
    (choice : Choice)
    {other : String}
    (known : (w.tablets other).tx.txns id = some tx)
    (kept : other = addr → (handler (w.tablets addr)).state.tx.txns id = some tx) :
    ((w.callTablet caller choice addr handler).2.tablets other).tx.txns id = some tx := by
  have absorbed : ((w.absorb caller addr (handler (w.tablets addr))).tablets other).tx.txns id =
      some tx := by
    by_cases same : other = addr
    · subst same
      simp only [absorb, Function.update_self]
      exact kept rfl
    · simp only [absorb, Function.update_of_ne same]
      exact known
  unfold callTablet
  cases choice.network with
  | answered | replyLost => exact absorbed
  | lost failure => exact known

/-- An operation leaves every transaction alone that it does not aim at. -/
theorem txns_act
    (ext : Externals)
    (caller : Caller)
    (op : GateOp)
    (choice : Choice)
    (w : World)
    (known : (w.tablets addr).tx.txns id = some tx)
    (spared : ¬ op.Aims w addr id) :
    ((w.act ext caller op choice).2.tablets addr).tx.txns id = some tx := by
  have unaimed : ∀ {target : String} {txID : TxID}, op.request = some (target, txID) →
      addr = target → ¬ TabletHandler.Aimed (w.tablets target) txID id := by
    rintro target txID sent rfl aimed
    exact spared ⟨txID, sent, aimed⟩
  cases op with
  | setState session state =>
      simp only [act]
      split
      · exact known
      · exact known
  | begin tc =>
      rw [act_begin]
      refine txns_callTablet choice known ?_
      rintro rfl
      exact TabletHandler.txns_execute caller _ _ known fun aimed => aimed.1 rfl
  | execute tc sql txID =>
      rw [act_execute]
      refine txns_callTablet choice known ?_
      rintro rfl
      exact TabletHandler.txns_execute caller _ _ known (unaimed rfl rfl)
  | prepare tc txID =>
      rw [act_prepare]
      refine txns_callTablet choice known ?_
      rintro rfl
      rw [TabletHandler.state_prepareReply (TabletHandler.prepare_reply choice.verdicts txID _)]
      exact known
  | commit tc txID =>
      rw [act_commit]
      refine txns_callTablet choice known ?_
      rintro rfl
      exact TabletHandler.txns_endReply (TabletHandler.commit_reply choice.verdicts txID _) known
        (unaimed rfl rfl)
  | rollback tc txID =>
      rw [act_rollback]
      refine txns_callTablet choice known ?_
      rintro rfl
      exact TabletHandler.txns_endReply (TabletHandler.rollback_reply choice.verdicts txID _) known
        (unaimed rfl rfl)
  | _ => exact known

/-- A response means that the tablet has answered with it. -/
theorem answered_of_callTablet
    {value : α}
    (called : w.callTablet caller choice addr handler = (.ok value, after)) :
    (handler (w.tablets addr)).answer = .ok value ∧
      after = w.absorb caller addr (handler (w.tablets addr)) := by
  unfold callTablet at called
  cases network : choice.network with
  | answered =>
      simp only [network, Prod.mk.injEq] at called
      obtain ⟨answer, rfl⟩ := called
      refine ⟨?_, rfl⟩
      cases reply : (handler (w.tablets addr)).answer with
      | error failure =>
          rw [reply] at answer
          cases answer
      | ok result =>
          rw [reply] at answer
          injection answer with same
          rw [same]
  | lost | replyLost =>
      simp only [network, Prod.mk.injEq, reduceCtorEq, false_and] at called

/-- A begin that is answered has begun a transaction for its caller. -/
theorem begun_of_act
    {ext : Externals}
    {tc : TabletClient}
    {resp : QueryResponse}
    (stepped : w.act ext caller (.begin tc) choice = (.ok resp, after)) :
    (after.tablets tc.target).tx.txns resp.transactionId = some ⟨caller, .active⟩ ∧
      resp.transactionId.id ≠ 0 ∧
      resp.transactionId.epoch = (w.tablets tc.target).tx.epoch := by
  rw [act_begin] at stepped
  obtain ⟨answered, rfl⟩ := answered_of_callTablet stepped
  simp only [absorb, Function.update_self]
  exact (TabletHandler.execute_begin caller choice.verdicts _).found answered

theorem kept_disturb
    (move : Move)
    (w : World)
    (addr : String) :
    TxManager.Later (w.tablets addr).tx ((w.disturb move).tablets addr).tx := by
  cases move with
  | reap target victim =>
      by_cases same : addr = target
      · subst same
        simp only [disturb, absorb, Function.update_self]
        exact TxManager.later_terminate _ _ _ _
      · simp only [disturb, absorb, Function.update_of_ne same]
        exact TxManager.Later.refl _
  | restart target =>
      by_cases same : addr = target
      · subst same
        simp only [disturb, Function.update_self]
        exact TxManager.later_restart _
      · simp only [disturb, Function.update_of_ne same]
        exact TxManager.Later.refl _
  | sync | reapSession => exact TxManager.Later.refl _

/-- What happens on its own belongs to no call. -/
theorem log_disturb
    (move : Move)
    (w : World) :
    ∃ new, (w.disturb move).log = new ++ w.log ∧ ∀ event ∈ new, event.caller = none := by
  cases move with
  | reap target victim =>
      refine ⟨_, rfl, ?_⟩
      intro event present
      obtain ⟨done, _, rfl⟩ := List.mem_map.mp (List.mem_reverse.mp present)
      rfl
  | restart | sync | reapSession => exact ⟨[], rfl, List.forall_mem_nil _⟩

end World

/-- What others do while the requests of a session do not overlap. -/
inductive Elsewhere
    (ext : Externals)
    (session : Int)
    (w : World) : World → Prop
  | move (move : Move) : Elsewhere ext session w (w.disturb move)
  | act (caller : Caller) (op : GateOp) (choice : Choice) (apart : ¬ op.Touches w session) :
      Elsewhere ext session w (w.act ext caller op choice).2

theorem elsewhere_keeps
    {ext : Externals}
    {session : Int}
    {w later : World}
    (elsewhere : Elsewhere ext session w later) :
    later.sessions session = w.sessions session ∧
      (w.router.TargetsOwn → later.router.TargetsOwn) := by
  cases elsewhere with
  | move move => exact ⟨congrFun (sessions_disturb move w) session, targetsOwn_disturb move⟩
  | act other op choice apart =>
      exact ⟨World.sessions_act ext other op choice w apart,
        World.targetsOwn_act ext other op choice⟩

end VScale
