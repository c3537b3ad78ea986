import VScale.Collections.RangeOrder

/-!
# Topology records and the sharding schema

A tablet record is what a tablet process registers in etcd.  The schema names
the sharded tables and, for each, the column whose value decides the shard.
-/

namespace VScale

open Collections

/-- A registered tablet. -/
structure Tablet where
  cell : String := ""
  keyspace : String := ""
  shard : String := ""
  type : String := ""
  addr : String := ""
  keyRangeStart : Int := 0
  keyRangeEnd : Int := 0
  deriving DecidableEq, Repr

/-- The zero value of a record, which stands for a missing tablet. -/
instance : Inhabited Tablet := ⟨{}⟩

/-- The key under which the router groups the tablets of one shard. -/
def Tablet.groupKey (tablet : Tablet) : String :=
  tablet.keyspace ++ "/" ++ tablet.shard

/-- Which tables are sharded, and by which column. -/
structure VSchema where
  keyspace : String
  shardedTables : Map String String

/-- The shard-key column of a sharded table. -/
def VSchema.shardKeyColumn (vs : VSchema) (table : String) : Option String :=
  vs.shardedTables.lookup table

end VScale
