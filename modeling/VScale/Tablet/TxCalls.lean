import VScale.Collections.RangeOrder
import VScale.Effects.Threads
import VScale.Tablet.TxManager

/-!
# Concurrent calls of the transaction manager

The calls of one transaction manager in small steps.  A stage is what a call
does next: take a connection from the pool, begin on it, take an id, one
critical section under the lock of the manager, the work under the mutex of one
transaction, or give a connection back.

Every acquisition of a connection has its own number, and a transaction is
named by its id, also after it has left the map: calls that have looked it up
before still point to it.  The log is a ghost.
-/

namespace VScale
namespace TxCalls

open Collections Effects

/-- What is known of a transaction; `closed` is the flag of its `pgx.Tx`. -/
structure Transaction where
  conn : Nat
  closed : Bool
  lastUsed : Nat
  deriving DecidableEq

/-- The calls that run a statement. -/
inductive Use
  | execute
  | query
  deriving DecidableEq

/-- The calls that end a transaction. -/
inductive Ending
  | commit
  | rollback
  deriving DecidableEq

/-- The calls that return an error or nil. -/
inductive Request
  | begin
  | use (use : Use) (id : Nat)
  | ending (ending : Ending) (id : Nat)
  deriving DecidableEq

/-- What has happened. -/
inductive Event
  | acquired (conn : Nat)
  | beginFailed (conn : Nat)
  | inserted (id : Nat)
  | removed (id : Nat) (conn : Nat)
  | released (conn : Nat)
  /-- Something was sent to the database over a connection. -/
  | sent (conn : Nat)
  /-- A statement ran without an error on behalf of a call. -/
  | ran (call : Nat) (id : Nat)
  /-- The database ended a transaction. -/
  | ended (id : Nat) (outcome : TxStatus)
  /-- A call returned, with an error or nil. -/
  | answered (call : Nat) (request : Request) (failure : Option String)
  deriving DecidableEq

/-- The transactions of a tablet and the connections of its pool. -/
structure World where
  clock : Nat
  idleTimeout : Nat
  acquired : Nat
  nextID : Nat
  transactions : Nat → Transaction
  txns : List Nat
  log : List Event

/-- Nothing has happened yet. -/
def newTxManager (idleTimeout : Nat) : World where
  clock := 0
  idleTimeout := idleTimeout
  acquired := 0
  nextID := 0
  transactions := fun _ => ⟨0, true, 0⟩
  txns := []
  log := []

namespace World

/-- Something happens. -/
def emit (events : List Event) (w : World) : World :=
  { w with log := events ++ w.log }

/-- Change one transaction. -/
def change (id : Nat) (update : Transaction → Transaction) (w : World) : World :=
  { w with transactions :=
      Function.update w.transactions id (update (w.transactions id)) }

/-- Put a transaction into the map. -/
def insert (id conn : Nat) (w : World) : World :=
  { w.change id fun _ => ⟨conn, false, w.clock⟩ with txns := id :: w.txns }

/-- A transaction is used now. -/
def touch (id : Nat) (w : World) : World :=
  w.change id fun t => { t with lastUsed := w.clock }

/-- The `pgx.Tx` of a transaction is over. -/
def close (id : Nat) (w : World) : World :=
  w.change id fun t => { t with closed := true }

/-- Take a transaction out of the map. -/
def delete (id : Nat) (w : World) : World :=
  { w with txns := w.txns.erase id }

/-- The condition under which the reaper takes a transaction. -/
def stale (w : World) (id : Nat) : Bool :=
  w.idleTimeout < w.clock - (w.transactions id).lastUsed

end World

/-- What the environment settles: the answer of the pool or the database, and
the order in which the map is visited. -/
structure Choice where
  verdict : Verdict := {}
  order : RangeOrder := .stored

/-- What a call does next.  The ids with a rollback of the reaper are those that
it still has to roll back after it. -/
inductive Stage
  | acquiring
  | beginning (conn : Nat)
  | abandoning (conn : Nat) (failure : String)
  | numbering (conn : Nat)
  | inserting (conn : Nat) (id : Nat)
  | looking (use : Use) (id : Nat)
  | working (use : Use) (id : Nat)
  | seeking (ending : Ending) (id : Nat) (rest : Option (List Nat))
  | finishing (ending : Ending) (id : Nat) (rest : Option (List Nat))
  | removing (ending : Ending) (id : Nat) (failure : Option String) (rest : Option (List Nat))
  | releasing (ending : Ending) (id : Nat) (conn : Nat) (failure : Option String)
      (rest : Option (List Nat))
  | collecting
  | returned
  deriving DecidableEq

/-- Begin a transaction. -/
def begin : Stage := .acquiring

/-- Run a statement. -/
def execute (id : Nat) : Stage := .looking .execute id

/-- Run a query. -/
def query (id : Nat) : Stage := .looking .query id

/-- Commit a transaction. -/
def commit (id : Nat) : Stage := .seeking .commit id none

/-- Roll a transaction back. -/
def rollback (id : Nat) : Stage := .seeking .rollback id none

/-- Roll back the stale transactions. -/
def reapOnce : Stage := .collecting

/-- The reaper rolls back one transaction after the other. -/
def rollbackEach : List Nat → Stage
  | [] => .returned
  | id :: rest => .seeking .rollback id (some rest)

/-- The first stages of calls. -/
def Stage.starts : Stage → Bool
  | .acquiring => true
  | .looking _ _ => true
  | .seeking _ _ none => true
  | .collecting => true
  | _ => false

/-- The answer of a `pgx.Tx` that is over. -/
def errTxClosed : String := "tx is closed"

/-- What the caller of a commit or rollback does next. -/
def afterwards : Option (List Nat) → Stage
  | none => .returned
  | some ids => rollbackEach ids

/-- A commit or rollback returns to its caller. -/
def conclude
    (call : Nat)
    (ending : Ending)
    (id : Nat)
    (failure : Option String)
    (rest : Option (List Nat))
    (w : World) : Stage × World :=
  (afterwards rest, w.emit [.answered call (.ending ending id) failure])

/-- How the database ends a transaction when it answers this way. -/
def Ending.outcome (verdict : Verdict) : Ending → TxStatus
  | .commit => TxManager.commitOutcome verdict
  | .rollback => .rolledBack

/-- One step of a call. -/
def Stage.advance
    (call : Nat)
    (choice : Choice) : Stage → World → Option (Stage × World)
  | .acquiring, w =>
      match choice.verdict.failure with
      | some failure => some (.returned, w.emit [.answered call .begin (some failure)])
      | none =>
          some (.beginning w.acquired,
            { w with acquired := w.acquired + 1 }.emit [.acquired w.acquired])
  | .beginning conn, w =>
      match choice.verdict.failure with
      | some failure => some (.abandoning conn failure, w.emit [.beginFailed conn, .sent conn])
      | none => some (.numbering conn, w.emit [.sent conn])
  | .abandoning conn failure, w =>
      some (.returned, w.emit [.answered call .begin (some failure), .released conn])
  | .numbering conn, w =>
      some (.inserting conn (w.nextID + 1), { w with nextID := w.nextID + 1 })
  | .inserting conn id, w =>
      some (.returned,
        (w.insert id conn).emit [.answered call .begin none, .inserted id])
  | .looking use id, w =>
      if id ∈ w.txns then some (.working use id, w)
      else
        some (.returned,
          w.emit [.answered call (.use use id) (some TxManager.errNoSuchTransaction)])
  | .working use id, w =>
      let used := w.touch id
      if (w.transactions id).closed then
        some (.returned, used.emit [.answered call (.use use id) (some errTxClosed)])
      else
        let conn := (w.transactions id).conn
        match choice.verdict.failure with
        | some failure =>
            some (.returned,
              used.emit [.answered call (.use use id) (some failure), .sent conn])
        | none =>
            some (.returned,
              used.emit [.answered call (.use use id) none, .ran call id, .sent conn])
  | .seeking ending id rest, w =>
      if id ∈ w.txns then some (.finishing ending id rest, w)
      else some (conclude call ending id (some TxManager.errNoSuchTransaction) rest w)
  | .finishing ending id rest, w =>
      if (w.transactions id).closed then some (.removing ending id (some errTxClosed) rest, w)
      else
        some (.removing ending id choice.verdict.failure rest,
          (w.close id).emit
            [.ended id (ending.outcome choice.verdict), .sent (w.transactions id).conn])
  | .removing ending id failure rest, w =>
      if id ∈ w.txns then
        let conn := (w.transactions id).conn
        some (.releasing ending id conn failure rest,
          (w.delete id).emit [.removed id conn])
      else some (conclude call ending id failure rest w)
  | .releasing ending id conn failure rest, w =>
      some (conclude call ending id failure rest (w.emit [.released conn]))
  | .collecting, w =>
      some (rollbackEach ((choice.order.visit w.txns).filter w.stale), w)
  | .returned, _ => none

/-- The environment lets time pass. -/
def tick (elapsed : Nat) (w : World) : World :=
  { w with clock := w.clock + elapsed }

/-- The calls of one transaction manager. -/
def threads : Threads Stage World Choice Nat where
  starts := Stage.starts
  advance := Stage.advance
  disturb := tick

/-- The state before the first call. -/
def initial (idleTimeout : Nat) : Threads.State Stage World :=
  ⟨[], newTxManager idleTimeout⟩

/-- The states that calls of any kind reach in any order. -/
def Reached (idleTimeout : Nat) (state : Threads.State Stage World) : Prop :=
  threads.Reaches (fun _ _ => True) (initial idleTimeout) state

/-- The branches of a step, with what it adds to the log. -/
inductive Advances (call : Nat) : Stage → World → List Event → Stage → World → Prop
  | unacquired {w : World} (failure : String) :
      Advances call .acquiring w [.answered call .begin (some failure)] .returned
        (w.emit [.answered call .begin (some failure)])
  | acquired {w : World} :
      Advances call .acquiring w [.acquired w.acquired] (.beginning w.acquired)
        ({ w with acquired := w.acquired + 1 }.emit [.acquired w.acquired])
  | beginFailed {w : World} {conn : Nat} (failure : String) :
      Advances call (.beginning conn) w [.beginFailed conn, .sent conn] (.abandoning conn failure)
        (w.emit [.beginFailed conn, .sent conn])
  | begun {w : World} {conn : Nat} :
      Advances call (.beginning conn) w [.sent conn] (.numbering conn) (w.emit [.sent conn])
  | abandoned {w : World} {conn : Nat} {failure : String} :
      Advances call (.abandoning conn failure) w
        [.answered call .begin (some failure), .released conn] .returned
        (w.emit [.answered call .begin (some failure), .released conn])
  | numbered {w : World} {conn : Nat} :
      Advances call (.numbering conn) w [] (.inserting conn (w.nextID + 1))
        { w with nextID := w.nextID + 1 }
  | inserted {w : World} {conn id : Nat} :
      Advances call (.inserting conn id) w [.answered call .begin none, .inserted id] .returned
        ((w.insert id conn).emit [.answered call .begin none, .inserted id])
  | notFound {w : World} {use : Use} {id : Nat} (missing : id ∉ w.txns) :
      Advances call (.looking use id) w
        [.answered call (.use use id) (some TxManager.errNoSuchTransaction)] .returned
        (w.emit [.answered call (.use use id) (some TxManager.errNoSuchTransaction)])
  | found {w : World} {use : Use} {id : Nat} (present : id ∈ w.txns) :
      Advances call (.looking use id) w [] (.working use id) w
  | usedClosed {w : World} {use : Use} {id : Nat} (closed : (w.transactions id).closed = true) :
      Advances call (.working use id) w [.answered call (.use use id) (some errTxClosed)] .returned
        ((w.touch id).emit [.answered call (.use use id) (some errTxClosed)])
  | useFailed {w : World} {use : Use} {id : Nat} (running : (w.transactions id).closed = false)
      (failure : String) :
      Advances call (.working use id) w
        [.answered call (.use use id) (some failure), .sent (w.transactions id).conn] .returned
        ((w.touch id).emit
          [.answered call (.use use id) (some failure), .sent (w.transactions id).conn])
  | used {w : World} {use : Use} {id : Nat} (running : (w.transactions id).closed = false) :
      Advances call (.working use id) w
        [.answered call (.use use id) none, .ran call id, .sent (w.transactions id).conn] .returned
        ((w.touch id).emit
          [.answered call (.use use id) none, .ran call id, .sent (w.transactions id).conn])
  | notSought {w : World} {ending : Ending} {id : Nat} {rest : Option (List Nat)}
      (missing : id ∉ w.txns) :
      Advances call (.seeking ending id rest) w
        [.answered call (.ending ending id) (some TxManager.errNoSuchTransaction)]
        (afterwards rest)
        (w.emit [.answered call (.ending ending id) (some TxManager.errNoSuchTransaction)])
  | sought {w : World} {ending : Ending} {id : Nat} {rest : Option (List Nat)}
      (present : id ∈ w.txns) :
      Advances call (.seeking ending id rest) w [] (.finishing ending id rest) w
  | finishedClosed {w : World} {ending : Ending} {id : Nat} {rest : Option (List Nat)}
      (closed : (w.transactions id).closed = true) :
      Advances call (.finishing ending id rest) w []
        (.removing ending id (some errTxClosed) rest) w
  | finished {w : World} {ending : Ending} {id : Nat} {rest : Option (List Nat)}
      (running : (w.transactions id).closed = false) (verdict : Verdict) :
      Advances call (.finishing ending id rest) w
        [.ended id (ending.outcome verdict), .sent (w.transactions id).conn]
        (.removing ending id verdict.failure rest)
        ((w.close id).emit
          [.ended id (ending.outcome verdict), .sent (w.transactions id).conn])
  | notRemoved {w : World} {ending : Ending} {id : Nat} {failure : Option String}
      {rest : Option (List Nat)} (missing : id ∉ w.txns) :
      Advances call (.removing ending id failure rest) w
        [.answered call (.ending ending id) failure] (afterwards rest)
        (w.emit [.answered call (.ending ending id) failure])
  | removed {w : World} {ending : Ending} {id : Nat} {failure : Option String}
      {rest : Option (List Nat)} (present : id ∈ w.txns) :
      Advances call (.removing ending id failure rest) w [.removed id (w.transactions id).conn]
        (.releasing ending id (w.transactions id).conn failure rest)
        ((w.delete id).emit [.removed id (w.transactions id).conn])
  | released {w : World} {ending : Ending} {id conn : Nat} {failure : Option String}
      {rest : Option (List Nat)} :
      Advances call (.releasing ending id conn failure rest) w
        [.answered call (.ending ending id) failure, .released conn] (afterwards rest)
        (w.emit [.answered call (.ending ending id) failure, .released conn])
  | collected {w : World} (order : RangeOrder) :
      Advances call .collecting w [] (rollbackEach ((order.visit w.txns).filter w.stale)) w

variable {call : Nat} {stage stage' : Stage} {w w' : World}

/-- Each advance of a call is one of the listed ones. -/
theorem advances_of_advance
    {choice : Choice}
    (advanced : stage.advance call choice w = some (stage', w')) :
    ∃ events, Advances call stage w events stage' w' := by
  cases stage with
  | acquiring =>
      simp only [Stage.advance] at advanced
      split at advanced
      · cases advanced
        exact ⟨_, .unacquired _⟩
      · cases advanced
        exact ⟨_, .acquired⟩
  | beginning conn =>
      simp only [Stage.advance] at advanced
      split at advanced
      · cases advanced
        exact ⟨_, .beginFailed _⟩
      · cases advanced
        exact ⟨_, .begun⟩
  | abandoning conn failure =>
      cases advanced
      exact ⟨_, .abandoned⟩
  | numbering conn =>
      cases advanced
      exact ⟨_, .numbered⟩
  | inserting conn id =>
      cases advanced
      exact ⟨_, .inserted⟩
  | looking use id =>
      simp only [Stage.advance] at advanced
      split at advanced
      · rename_i present
        cases advanced
        exact ⟨_, .found present⟩
      · rename_i missing
        cases advanced
        exact ⟨_, .notFound missing⟩
  | working use id =>
      simp only [Stage.advance] at advanced
      split at advanced
      · rename_i closed
        cases advanced
        exact ⟨_, .usedClosed closed⟩
      · rename_i running
        split at advanced
        · cases advanced
          exact ⟨_, .useFailed (Bool.eq_false_iff.mpr running) _⟩
        · cases advanced
          exact ⟨_, .used (Bool.eq_false_iff.mpr running)⟩
  | seeking ending id rest =>
      simp only [Stage.advance] at advanced
      split at advanced
      · rename_i present
        cases advanced
        exact ⟨_, .sought present⟩
      · rename_i missing
        cases advanced
        exact ⟨_, .notSought missing⟩
  | finishing ending id rest =>
      simp only [Stage.advance] at advanced
      split at advanced
      · rename_i closed
        cases advanced
        exact ⟨_, .finishedClosed closed⟩
      · rename_i running
        cases advanced
        exact ⟨_, .finished (Bool.eq_false_iff.mpr running) choice.verdict⟩
  | removing ending id failure rest =>
      simp only [Stage.advance] at advanced
      split at advanced
      · rename_i present
        cases advanced
        exact ⟨_, .removed present⟩
      · rename_i missing
        cases advanced
        exact ⟨_, .notRemoved missing⟩
  | releasing ending id conn failure rest =>
      cases advanced
      exact ⟨_, .released⟩
  | collecting =>
      cases advanced
      exact ⟨_, .collected choice.order⟩
  | returned => cases advanced

theorem Advances.log
    {events : List Event}
    (advances : Advances call stage w events stage' w') : w'.log = events ++ w.log := by
  cases advances with
  | _ => rfl

end TxCalls
end VScale
