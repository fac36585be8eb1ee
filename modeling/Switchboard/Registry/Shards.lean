import Switchboard.Connection.Block
import Switchboard.Registry.Table

/-!
# Shards

An index of connections that is split into 64 tables. Each connection belongs to the shard that its
id leaves as remainder modulo 64, so an operation on one connection touches one shard. Operations
on the whole index visit one shard after the other.
-/

namespace Switchboard

/-- The number of shards. -/
def shardCount : Nat := 64

/-- A map from ids to values, split into shards. -/
structure Shards (α : Type) where
  tables : Vector (Table α) shardCount

namespace Shards

variable {α : Type}

/-- The shard of an id. -/
def shardOf (id : ConnectionId) : Fin shardCount :=
  ⟨id.raw % shardCount, Nat.mod_lt _ (by decide)⟩

/-- The index without connections. -/
def empty : Shards α := ⟨Vector.replicate shardCount Std.TreeMap.empty⟩

/-- The table in which an id belongs. -/
def tableOf (s : Shards α) (id : ConnectionId) : Table α :=
  s.tables[shardOf id]

/-- Change the table in which an id belongs. -/
def changeTable (s : Shards α) (id : ConnectionId) (change : Table α → Table α) : Shards α :=
  ⟨⟨s.tables.toArray.modify (shardOf id) change, by simp⟩⟩

/-- The value of an id. -/
def get? (s : Shards α) (id : ConnectionId) : Option α :=
  (s.tableOf id)[id]?

/-- Give an id a value, in place of any value it has. -/
def insert (s : Shards α) (id : ConnectionId) (value : α) : Shards α :=
  s.changeTable id fun table => table.insert id value

/-- Change the value of an id, if it has one. -/
def modify (s : Shards α) (id : ConnectionId) (change : α → α) : Shards α :=
  s.changeTable id fun table => table.modify id change

/-- Change every value. -/
def mapValues (s : Shards α) (change : α → α) : Shards α :=
  ⟨s.tables.map fun table => table.map fun _ value => change value⟩

/-- Keep only the values that pass a test. -/
def retain (s : Shards α) (keep : α → Bool) : Shards α :=
  ⟨s.tables.map fun table => table.filter fun _ value => keep value⟩

/-- Every id that has a value, shard by shard. -/
def keys (s : Shards α) : List ConnectionId :=
  s.tables.toList.flatMap fun table => table.keys

/-- Every value, shard by shard. -/
def values (s : Shards α) : List α :=
  s.tables.toList.flatMap fun table => table.values

/-- The number of values, added up over the shards. -/
def size (s : Shards α) : Nat :=
  s.tables.toList.foldr (fun table total => table.size + total) 0

end Shards

end Switchboard
