import VScale.Parser
import VScale.Text.Decimal
import VScale.Topology

/-!
# The router

The router groups the registered tablets by shard, keeps one client for each
address, and decides for every statement which tablets receive it.  Loops over
maps take the order of iteration as an argument.  `dialled` and `closed` are
ghosts that give every client an identity and remember the closed ones.
-/

namespace VScale

open Collections Tree

/-- A connection to one tablet. -/
structure TabletClient where
  conn : Nat
  target : String
  deriving DecidableEq, Repr

/-- What a statement does to the data. -/
inductive QueryType
  | unknown
  | read
  | write
  deriving DecidableEq, Repr

/-- Where a statement goes. -/
structure RouteResult where
  tablets : List TabletClient := []
  scatter : Bool := false
  txControl : Bool := false
  write : Bool := false
  deriving DecidableEq, Repr

/-- The tablets of one shard and the keys it is responsible for. -/
structure ShardGroup where
  keyspace : String
  shard : String
  keyRangeStart : Int
  keyRangeEnd : Int
  primary : Tablet := default
  replicas : List Tablet := []
  deriving DecidableEq, Repr

/-- Whether a key lies in the shard's half-open range. -/
def ShardGroup.contains (group : ShardGroup) (key : Int) : Bool :=
  group.keyRangeStart ≤ key && key < group.keyRangeEnd

/-- The tablets the gate knows and the connections to them.  The connections that were
dialled and closed are ghosts. -/
structure Router where
  clients : Map String TabletClient := ∅
  shardGroups : Map String ShardGroup := ∅
  orderedKeys : List String := []
  replicaCursor : Nat := 0
  vs : VSchema
  dialled : Nat := 0
  closed : List TabletClient := []

namespace Router

/-- A router that knows no tablets. -/
def newRouter (vs : VSchema) : Router := { vs }

/-- The orders of the five loops over maps in `sync`. -/
structure SyncOrder where
  wanted : RangeOrder
  settled : RangeOrder
  dropped : RangeOrder
  added : RangeOrder
  keys : RangeOrder

/-- The records of a topology by address; a later record replaces an earlier one. -/
def wanted (tablets : List Tablet) : Map String Tablet :=
  tablets.foldl (fun want tablet => want.insert tablet.addr tablet) ∅

/-- Add one record to its shard group, which its first record creates. -/
def addToGroup (groups : Map String ShardGroup) (tablet : Tablet) : Map String ShardGroup :=
  let group := (groups.lookup tablet.groupKey).getD
    { keyspace := tablet.keyspace
      shard := tablet.shard
      keyRangeStart := tablet.keyRangeStart
      keyRangeEnd := tablet.keyRangeEnd }
  groups.insert tablet.groupKey
    (if tablet.type = "PRIMARY" then { group with primary := tablet }
    else { group with replicas := group.replicas ++ [tablet] })

/-- Take a missing key range from the primary, or else from the first replica. -/
def settleRange (group : ShardGroup) : ShardGroup :=
  if group.primary.addr ≠ "" then
    if group.keyRangeStart = 0 ∧ group.keyRangeEnd = 0 then
      { group with
        keyRangeStart := group.primary.keyRangeStart
        keyRangeEnd := group.primary.keyRangeEnd }
    else group
  else
    match group.replicas with
    | [] => group
    | replica :: _ =>
        if group.keyRangeStart = 0 ∧ group.keyRangeEnd = 0 then
          { group with
            keyRangeStart := replica.keyRangeStart
            keyRangeEnd := replica.keyRangeEnd }
        else group

/-- The shard groups of a topology. -/
def newGroups (order : SyncOrder) (want : Map String Tablet) : Map String ShardGroup :=
  let groups := (order.wanted.visit want.entries).foldl
    (fun groups entry => addToGroup groups entry.2) ∅
  (order.settled.visit groups.entries).foldl
    (fun settled entry => settled.insert entry.1 (settleRange entry.2)) groups

/-- Close and forget a client whose address is gone. -/
def dropClient
    (want : Map String Tablet)
    (r : Router)
    (entry : Sigma fun _ : String => TabletClient) :
    Router :=
  if entry.1 ∈ want then r
  else
    { r with
      clients := r.clients.erase entry.1
      closed := entry.2 :: r.closed }

/-- Connect to a new address, unless dialling it fails. -/
def addClient (dials : String → Bool) (r : Router) (addr : String) : Router :=
  if addr ∈ r.clients then r
  else if dials addr then
    { r with
      clients := r.clients.insert addr { conn := r.dialled, target := addr }
      dialled := r.dialled + 1 }
  else r

/-- Replace the topology by a list of records. -/
def sync
    (r : Router)
    (order : SyncOrder)
    (dials : String → Bool)
    (tablets : List Tablet) :
    Router :=
  let want := wanted tablets
  let groups := newGroups order want
  let dropped := (order.dropped.visit r.clients.entries).foldl (dropClient want) r
  let connected := (order.added.visit want.keys).foldl (addClient dials) dropped
  { connected with
    shardGroups := groups
    orderedKeys := order.keys.visit groups.keys }

/-- The next replica in turn, or the primary of a group without replicas. -/
def pickOneForRead
    (r : Router)
    (cursor : Nat)
    (group : ShardGroup) :
    Option TabletClient × Nat :=
  match group.replicas[cursor % group.replicas.length]? with
  | some replica => (r.clients.lookup replica.addr, cursor + 1)
  | none => (r.clients.lookup group.primary.addr, cursor)

/-- The client of the primary. -/
def pickOneForWrite (r : Router) (group : ShardGroup) : Option TabletClient :=
  r.clients.lookup group.primary.addr

/-- The primary for writes and inside transactions, a replica otherwise. -/
def pickOne
    (r : Router)
    (qtype : QueryType)
    (inTransaction : Bool)
    (cursor : Nat)
    (group : ShardGroup) : Option TabletClient × Nat :=
  if inTransaction || qtype == .write then (r.pickOneForWrite group, cursor)
  else r.pickOneForRead cursor group

/-- The tablet picked in the first visited group that contains the key. -/
def tabletForKeyLocked
    (r : Router)
    (range : RangeOrder)
    (key : Int)
    (qtype : QueryType)
    (inTransaction : Bool) : Option TabletClient × Nat :=
  match (range.visit r.shardGroups.entries).find? fun entry => entry.2.contains key with
  | some entry => r.pickOne qtype inTransaction r.replicaCursor entry.2
  | none => (none, r.replicaCursor)

/-- The clients picked for a list of groups, skipping groups without one. -/
def scatterTablets
    (r : Router)
    (qtype : QueryType)
    (inTransaction : Bool) :
    Nat → List String → List TabletClient × Nat
  | cursor, [] => ([], cursor)
  | cursor, key :: keys =>
      match r.shardGroups.lookup key with
      | none => r.scatterTablets qtype inTransaction cursor keys
      | some group =>
          let picked := r.pickOne qtype inTransaction cursor group
          let rest := r.scatterTablets qtype inTransaction picked.2 keys
          (picked.1.toList ++ rest.1, rest.2)

/-- A statement goes to one tablet of every shard. -/
def scatterResult
    (r : Router)
    (cursor : Nat)
    (qtype : QueryType)
    (inTransaction : Bool) :
    RouteResult × Router :=
  let scattered := r.scatterTablets qtype inTransaction cursor r.orderedKeys
  ({ tablets := scattered.1, scatter := true, write := qtype == .write },
    { r with replicaCursor := scattered.2 })

/-- The shard key that a statement on a sharded table fixes, if it parses as a
64-bit integer. -/
def routingKey (exprString : Expr → String) (r : Router) (stmt : Statement) : Option Int :=
  match Parser.getTableName stmt with
  | .error _ => none
  | .ok table =>
      if table = "" then none
      else
        match r.vs.shardKeyColumn table with
        | none => none
        | some column => (Parser.equalityValue exprString stmt column).bind Decimal.parseInt

/-- Decide which tablets receive a query.  The error result of the source is
always nil. -/
def route
    (exprString : Expr → String)
    (r : Router)
    (range : RangeOrder)
    (query : SqlText)
    (inTransaction : Bool) : RouteResult × Router :=
  if r.orderedKeys = [] then ({}, r)
  else
    match query with
    | .error _ => r.scatterResult r.replicaCursor .read inTransaction
    | .ok [] => r.scatterResult r.replicaCursor .read inTransaction
    | .ok (stmt :: _) =>
        if Parser.isTxControl stmt then ({ txControl := true }, r)
        else
          let isWrite := Parser.isWrite stmt
          let qtype := if isWrite then QueryType.write else QueryType.read
          match r.routingKey exprString stmt with
          | none => r.scatterResult r.replicaCursor qtype inTransaction
          | some key =>
              match r.tabletForKeyLocked range key qtype inTransaction with
              | (some target, cursor) =>
                  ({ tablets := [target], write := isWrite }, { r with replicaCursor := cursor })
              | (none, cursor) => r.scatterResult cursor qtype inTransaction

/-- The client of an address. -/
def getClient (r : Router) (addr : String) : Option TabletClient :=
  r.clients.lookup addr

end Router

end VScale
