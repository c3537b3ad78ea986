import VScale.Effects.Program
import VScale.Topology

/-!
# The topology in etcd

Tablets put their records under a common root in etcd, where they stay until a
lease expires.  The gate reads them once and then follows the events of a watch.
The state of etcd is the history of its changes: a snapshot shows the values after
some of them, and a watch delivers those that come after it was opened.

The loop over the deliveries of a watch is unrolled for a number of rounds.
-/

namespace VScale
namespace EtcdTopology

open Collections Effects

/-- A change of a key. -/
inductive Event
  | put (key value : String)
  | delete (key : String)
  deriving DecidableEq, Repr

/-- The key that changes. -/
def Event.key : Event → String
  | .put key _ => key
  | .delete key => key

@[simp] theorem Event.key_put (key value : String) : (Event.put key value).key = key := rfl

@[simp] theorem Event.key_delete (key : String) : (Event.delete key).key = key := rfl

/-- Keys that start with the root. -/
def Under (root key : String) : Prop :=
  root.toList <+: key.toList

instance (root key : String) : Decidable (Under root key) :=
  inferInstanceAs (Decidable (_ <+: _))

/-- What a watch on an open channel receives. -/
inductive Delivery
  | closed
  | failed (reason : String)
  | events (events : List Event)
  deriving DecidableEq, Repr

/-- The operations on etcd and on the records of the gate. -/
inductive TopologyOp
  | connect
  | grant (ttlSeconds : Int)
  | put (key value : String) (lease : Nat)
  | keepAlive (lease : Nat)
  | close
  | get (root : String)
  | watch (root : String)
  | receive (root : String)
  | tablets
  | setTablets (tablets : Map String Tablet)
  | listTablets
  | onUpdate (tablets : List Tablet)

/-- What each operation answers; `connect`, `put` and `keepAlive` answer with their
failure. -/
abbrev TopologyOp.Answer : TopologyOp → Type
  | .connect => Option String
  | .grant _ => Except String Nat
  | .put _ _ _ => Option String
  | .keepAlive _ => Option String
  | .close => Unit
  | .get _ => Except String (List (String × String))
  | .watch _ => Unit
  | .receive _ => Delivery
  | .tablets => Map String Tablet
  | .setTablets _ => Unit
  | .listTablets => List Tablet
  | .onUpdate _ => Unit

/-- The operations as an effect signature. -/
abbrev topology : Signature where
  Op := TopologyOp
  Answer := TopologyOp.Answer

/-- A program on the topology. -/
abbrev TopologyM := Prog topology

/-- How records are written to etcd and read back. -/
structure Codec where
  marshal : Tablet → Except String String
  unmarshal : String → Option Tablet
  unmarshal_marshal : ∀ tablet text, marshal tablet = .ok text → unmarshal text = some tablet

variable (codec : Codec)

/-- Close the client and return an error. -/
def abandon (message : String) : TopologyM (Except String Unit) :=
  .perform .close fun _ => .pure (.error message)

/-- Register a tablet under a lease that is kept alive. -/
def register
    (root aliasName : String)
    (tablet : Tablet)
    (ttlSeconds : Int) :
    TopologyM (Except String Unit) :=
  .perform .connect fun failure =>
    match failure with
    | some reason => .pure (.error ("topology: failed to connect to etcd: " ++ reason))
    | none =>
        .perform (.grant ttlSeconds) fun granted =>
          match granted with
          | .error reason => abandon ("topology: failed to grant lease: " ++ reason)
          | .ok lease =>
              match codec.marshal tablet with
              | .error reason => abandon ("topology: failed to marshal tablet: " ++ reason)
              | .ok value =>
                  .perform (.put (root ++ aliasName) value lease) fun failure =>
                    match failure with
                    | some reason => abandon ("topology: failed to put tablet record: " ++ reason)
                    | none =>
                        .perform (.keepAlive lease) fun failure =>
                          match failure with
                          | some reason =>
                              abandon ("topology: failed to start keepalive: " ++ reason)
                          | none => .pure (.ok ())

/-- Add the valid records of a snapshot. -/
def fill (tablets : Map String Tablet) (kvs : List (String × String)) : Map String Tablet :=
  kvs.foldl
    (fun tablets kv =>
      match codec.unmarshal kv.2 with
      | none => tablets
      | some tablet => tablets.insert kv.1 tablet)
    tablets

/-- Follow one event; an invalid record is skipped. -/
def follow (state : Map String Tablet × Bool) (event : Event) : Map String Tablet × Bool :=
  match event with
  | .put key value =>
      match codec.unmarshal value with
      | none => state
      | some tablet => (state.1.insert key tablet, true)
  | .delete key => (state.1.erase key, true)

/-- Pass the current records on. -/
def notify : TopologyM Unit :=
  .perform .listTablets fun tablets =>
    .perform (.onUpdate tablets) fun _ => .pure ()

/-- Pass the records on when they have changed. -/
def notifyIf (changed : Bool) : TopologyM Unit :=
  if changed then notify else .pure ()

/-- The loop over the deliveries of a watch.  Nothing is returned while it goes on. -/
def followEvents (root : String) : Nat → TopologyM (Option (Except String Unit))
  | 0 => .pure none
  | rounds + 1 =>
      .perform (.receive root) fun delivery =>
        match delivery with
        | .closed => .pure (some (.ok ()))
        | .failed reason => .pure (some (.error ("topology: watch error: " ++ reason)))
        | .events events =>
            .perform .tablets fun tablets =>
              let followed := events.foldl (follow codec) (tablets, false)
              .perform (.setTablets followed.1) fun _ => do
                notifyIf followed.2
                followEvents root rounds

/-- Take over a snapshot and follow what comes after it. -/
def followSnapshot
    (root : String)
    (rounds : Nat)
    (kvs : List (String × String)) :
    TopologyM (Option (Except String Unit)) :=
  .perform .tablets fun tablets =>
    .perform (.setTablets (fill codec tablets kvs)) fun _ => do
      notify
      .perform (.watch root) fun _ => followEvents codec root rounds

/-- Follow the tablets from a snapshot on. -/
def watch (root : String) (rounds : Nat) : TopologyM (Option (Except String Unit)) :=
  .perform (.get root) fun received =>
    match received with
    | .error reason => .pure (some (.error ("topology: initial get failed: " ++ reason)))
    | .ok kvs => followSnapshot codec root rounds kvs

/-- The stored values after one more change. -/
def record (stored : Map String String) : Event → Map String String
  | .put key value => stored.insert key value
  | .delete key => stored.erase key

/-- The stored values after a history. -/
def storedAfter (history : List Event) : Map String String :=
  history.foldl record ∅

/-- The record that a valid value under the root stands for. -/
def validRecord (root : String) (history : List Event) (key : String) : Option Tablet :=
  if Under root key then ((storedAfter history).lookup key).bind codec.unmarshal else none

/-- The history of etcd, oldest change first, with the records of the gate.
`snapshot` is a ghost: the number of changes that the snapshot showed. -/
structure State where
  history : List Event := []
  snapshot : Nat := 0
  /-- How many changes an open watch has passed. -/
  watching : Option Nat := none
  tablets : Map String Tablet := ∅
  updates : List (List Tablet) := []

/-- What etcd and the order of loops leave open. -/
structure Choice where
  failure : Option String := none
  lease : Nat := 0
  revision : Nat := 0
  range : RangeOrder := .stored
  count : Nat := 0
  closes : Bool := false

namespace State

/-- Others change a key; only stored keys are deleted. -/
def change (state : State) (event : Event) : State :=
  match event with
  | .put key value => { state with history := state.history ++ [.put key value] }
  | .delete key =>
      if key ∈ storedAfter state.history then
        { state with history := state.history ++ [.delete key] }
      else state

/-- The next changes that a watch has not passed. -/
def batch (state : State) (passed count : Nat) : List Event :=
  (state.history.drop passed).take count

/-- The effect of one operation. -/
def act (op : TopologyOp) (choice : Choice) (state : State) : op.Answer × State :=
  match op with
  | .connect => (choice.failure, state)
  | .grant _ =>
      match choice.failure with
      | some reason => (.error reason, state)
      | none => (.ok choice.lease, state)
  | .put key value _ =>
      match choice.failure with
      | some reason => (some reason, state)
      | none => (none, state.change (.put key value))
  | .keepAlive _ => (choice.failure, state)
  | .close => ((), state)
  | .get root =>
      match choice.failure with
      | some reason => (.error reason, state)
      | none =>
          let revision := min choice.revision state.history.length
          let kvs := (choice.range.visit (storedAfter (state.history.take revision)).entries).map
            fun entry => (entry.1, entry.2)
          (.ok (kvs.filter fun kv => Under root kv.1), { state with snapshot := revision })
  | .watch _ => ((), { state with watching := some state.history.length })
  | .receive root =>
      match state.watching with
      | none => (.closed, state)
      | some passed =>
          if choice.closes then (.closed, state)
          else
            match choice.failure with
            | some reason => (.failed reason, state)
            | none =>
                let batch := state.batch passed choice.count
                (.events (batch.filter fun event => Under root event.key),
                  { state with watching := some (passed + batch.length) })
  | .tablets => (state.tablets, state)
  | .setTablets tablets => ((), { state with tablets := tablets })
  | .listTablets => ((choice.range.visit state.tablets.entries).map Sigma.snd, state)
  | .onUpdate tablets => ((), { state with updates := state.updates ++ [tablets] })

end State

/-- Etcd and the gate, while others change keys. -/
def machine : Machine topology Unit State Choice Event where
  act := fun _ op choice state => state.act op choice
  disturb := fun event state => state.change event

end EtcdTopology
end VScale
