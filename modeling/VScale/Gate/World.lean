import VScale.Aggregate.Merge
import VScale.Effects.Program
import VScale.Externals
import VScale.Router.Defs
import VScale.Tablet.Handler

/-!
# The gate and its tablets as one world

The atomic operations of the gate are the locked accessors of sessions and
router and the calls to tablets.  A call to a tablet may be lost before it
arrives, or its answer may be lost after the tablet has acted.  Between two
operations tablets may roll back idle transactions or restart, the topology may
be synchronised, and idle sessions may be removed.

The log is a ghost, newest event first.
-/

namespace VScale

open Collections Effects

/-- The states of a session. -/
inductive SessionState
  | idle
  | inTransaction
  | committed
  | rolledBack
  deriving DecidableEq, Repr

/-- The number printed for a state. -/
def SessionState.number : SessionState → Int
  | .idle => 0
  | .inTransaction => 1
  | .committed => 2
  | .rolledBack => 3

/-- A session with the transactions begun for it, by the address of their tablet. -/
structure Session where
  state : SessionState := .idle
  shardTxIDs : Map String TxID := ∅

/-- What a request to the gate returns. -/
abbrev Outcome := Except Aggregate.Fault QueryResponse

/-- What has happened. -/
inductive Event
  | created (caller : Caller) (session : Int)
  | begun (caller : Caller) (session : Int)
  | read (caller : Caller) (session : Int) (shards : Map String TxID)
  | sent (caller : Caller) (addr : String) (sql : SqlText)
  | tablet (caller : Option Caller) (addr : String) (event : TabletEvent)
  | returned (caller : Caller) (outcome : Outcome)

/-- The state of the gate and of every tablet.  Sessions live on a heap, and the
manager's map only says which of them it still finds. -/
structure World where
  router : Router
  sessions : Int → Session := fun _ => {}
  present : Int → Bool := fun _ => false
  nextID : Int := 0
  tablets : String → Executor := fun _ => {}
  log : List Event := []

/-- What becomes of a call to a tablet. -/
inductive Network
  | answered
  | lost (failure : String)
  | replyLost (failure : String)
  deriving DecidableEq, Repr

/-- Everything an operation leaves open. -/
structure Choice where
  order : RangeOrder := .stored
  network : Network := .answered
  verdicts : Nat → Verdict := fun _ => {}

/-- What happens on its own. -/
inductive Move
  | reap (addr : String) (id : TxID)
  | restart (addr : String)
  | sync (order : Router.SyncOrder) (dials : String → Bool) (tablets : List Tablet)
  | reapSession (session : Int)

/-- The atomic operations of the gate. -/
inductive GateOp
  | create
  | get (session : Int)
  | getState (session : Int)
  | setState (session : Int) (state : SessionState)
  | shardCount (session : Int)
  | isParticipating (session : Int) (addr : String)
  | getLocalTxID (session : Int) (addr : String)
  | setLocalTxID (session : Int) (addr : String) (id : TxID)
  | participatingShardsMap (session : Int)
  | clearParticipants (session : Int)
  | route (sql : SqlText) (inTransaction : Bool)
  | getClient (addr : String)
  | begin (tc : TabletClient)
  | execute (tc : TabletClient) (sql : SqlText) (txID : TxID)
  | prepare (tc : TabletClient) (txID : TxID)
  | commit (tc : TabletClient) (txID : TxID)
  | rollback (tc : TabletClient) (txID : TxID)

/-- What each operation answers. -/
abbrev GateOp.Answer : GateOp → Type
  | .create => Int
  | .get _ => Bool
  | .getState _ => SessionState
  | .setState _ _ => Unit
  | .shardCount _ => Nat
  | .isParticipating _ _ => Bool
  | .getLocalTxID _ _ => Option TxID
  | .setLocalTxID _ _ _ => Unit
  | .participatingShardsMap _ => List (String × TxID)
  | .clearParticipants _ => Unit
  | .route _ _ => RouteResult
  | .getClient _ => Option TabletClient
  | .begin _ => Except String QueryResponse
  | .execute _ _ _ => Except String QueryResponse
  | .prepare _ _ => Except String PrepareResponse
  | .commit _ _ => Except String CommitResponse
  | .rollback _ _ => Except String RollbackResponse

/-- The operations of the gate as an effect signature. -/
abbrev gate : Signature where
  Op := GateOp
  Answer := GateOp.Answer

/-- How an error of a handler reads at the other end of the connection. -/
def rpcError (failure : String) : String :=
  "rpc error: code = Unknown desc = " ++ failure

namespace World

/-- Something happens. -/
def addEvent (w : World) (event : Event) : World :=
  { w with log := event :: w.log }

/-- Change one session. -/
def updateSession (w : World) (session : Int) (change : Session → Session) : World :=
  { w with sessions := Function.update w.sessions session (change (w.sessions session)) }

/-- The world after a tablet has acted. -/
def absorb
    (w : World)
    (caller : Option Caller)
    (addr : String)
    (reply : Reply Executor α) :
    World :=
  { w with
    tablets := Function.update w.tablets addr reply.state
    log := (reply.events.map (Event.tablet caller addr)).reverse ++ w.log }

/-- Call a tablet over the network. -/
def callTablet
    (w : World)
    (caller : Caller)
    (choice : Choice)
    (addr : String)
    (handler : Executor → Reply Executor α) : Except String α × World :=
  let reply := handler (w.tablets addr)
  match choice.network with
  | .lost failure => (.error failure, w)
  | .replyLost failure => (.error failure, w.absorb caller addr reply)
  | .answered => (reply.answer.mapError rpcError, w.absorb caller addr reply)

/-- The effect of one operation. -/
def act
    (ext : Externals)
    (caller : Caller)
    (op : GateOp)
    (choice : Choice)
    (w : World) :
    op.Answer × World :=
  match op with
  | .create =>
      let id := w.nextID + 1
      (id,
        { w with
          nextID := id
          sessions := Function.update w.sessions id {}
          present := Function.update w.present id true
          log := .created caller id :: w.log })
  | .get session => (w.present session, w)
  | .getState session => ((w.sessions session).state, w)
  | .setState session state =>
      let changed := w.updateSession session fun s => { s with state := state }
      ((), if state = .inTransaction then changed.addEvent (.begun caller session) else changed)
  | .shardCount session =>
      ((w.sessions session).shardTxIDs.entries.length,
        w.addEvent (.read caller session (w.sessions session).shardTxIDs))
  | .isParticipating session addr => (((w.sessions session).shardTxIDs.lookup addr).isSome, w)
  | .getLocalTxID session addr => ((w.sessions session).shardTxIDs.lookup addr, w)
  | .setLocalTxID session addr id =>
      ((), w.updateSession session fun s => { s with shardTxIDs := s.shardTxIDs.insert addr id })
  | .participatingShardsMap session =>
      ((choice.order.visit (w.sessions session).shardTxIDs.entries).map fun entry =>
          (entry.1, entry.2),
        w.addEvent (.read caller session (w.sessions session).shardTxIDs))
  | .clearParticipants session =>
      ((), w.updateSession session fun s => { s with shardTxIDs := ∅ })
  | .route sql inTransaction =>
      let routed := w.router.route ext.exprString choice.order sql inTransaction
      (routed.1, { w with router := routed.2 })
  | .getClient addr => (w.router.getClient addr, w)
  | .begin tc =>
      w.callTablet caller choice tc.target
        (TabletHandler.execute caller choice.verdicts beginText TxID.zero)
  | .execute tc sql txID =>
      (w.addEvent (.sent caller tc.target sql)).callTablet caller choice tc.target
        (TabletHandler.execute caller choice.verdicts sql txID)
  | .prepare tc txID =>
      w.callTablet caller choice tc.target (TabletHandler.prepare choice.verdicts txID)
  | .commit tc txID =>
      w.callTablet caller choice tc.target (TabletHandler.commit choice.verdicts txID)
  | .rollback tc txID =>
      w.callTablet caller choice tc.target (TabletHandler.rollback choice.verdicts txID)

section Calls

variable (ext : Externals) (caller : Caller) (tc : TabletClient) (txID : TxID)
variable (choice : Choice) (w : World)

theorem act_begin :
    w.act ext caller (.begin tc) choice =
      w.callTablet caller choice tc.target
        (TabletHandler.execute caller choice.verdicts beginText TxID.zero) := rfl

theorem act_execute (sql : SqlText) :
    w.act ext caller (.execute tc sql txID) choice =
      (w.addEvent (.sent caller tc.target sql)).callTablet caller choice tc.target
        (TabletHandler.execute caller choice.verdicts sql txID) := rfl

theorem act_prepare :
    w.act ext caller (.prepare tc txID) choice =
      w.callTablet caller choice tc.target (TabletHandler.prepare choice.verdicts txID) := rfl

theorem act_commit :
    w.act ext caller (.commit tc txID) choice =
      w.callTablet caller choice tc.target (TabletHandler.commit choice.verdicts txID) := rfl

theorem act_rollback :
    w.act ext caller (.rollback tc txID) choice =
      w.callTablet caller choice tc.target (TabletHandler.rollback choice.verdicts txID) := rfl

end Calls

/-- The effect of one move. -/
def disturb (move : Move) (w : World) : World :=
  match move with
  | .reap addr id =>
      let e := w.tablets addr
      w.absorb none addr (e.afterTx (e.tx.rollback {} id) fun done => done)
  | .restart addr =>
      { w with
        tablets := Function.update w.tablets addr
          { w.tablets addr with tx := (w.tablets addr).tx.restart } }
  | .sync order dials tablets => { w with router := w.router.sync order dials tablets }
  | .reapSession session => { w with present := Function.update w.present session false }

/-- The gate with its environment. -/
def machine (ext : Externals) : Machine gate Caller World Choice Move where
  act := act ext
  disturb := disturb

end World

end VScale
