import Keyspan.OrderedMap
import Keyspan.Schema
import Keyspan.Trace

/-!
# The catalog of tables

The catalog knows the schema and the partitions of every registered table
(`InMemoryPartitionCatalog`). It keeps them in two maps, one written after the other, and nothing
but the order of what `register` does keeps the two in step: a registration that fails leaves the
catalog as it is at that moment. A catalog that is out of reach answers nothing, whatever it holds.

* `Catalog.Op`: what may change a catalog and may fail.
* `Catalog.register`: enter a table, or refuse it.
* `Catalog.schema`, `Catalog.located`: what the two maps tell of a table.
* `Catalog.locate`: the partitions whose range overlaps the range of a scan.
-/

namespace Keyspan

/-- The registered schemas and partitions by table, and whether they can be asked for. -/
structure Catalog where
  schemas : OrderedMap String Schema
  locations : OrderedMap String (List Hosted)
  available : Bool

/-- The partitions whose range overlaps the given one, in order. -/
def Hosted.overlapping (range : KeyRange) (partitions : List Hosted) : List Hosted :=
  partitions.filter fun h => h.partition.range.overlaps range

namespace Catalog

/-- The catalog without tables. -/
def empty : Catalog := ⟨.empty, .empty, true⟩

/-- What may change a catalog and may fail. A failure takes back no change. -/
abbrev Op (α : Type) := ExceptT Failure (StateM Catalog) α

/-- How an operation ends, and the catalog after it. -/
def Op.on {α : Type} (op : Op α) (c : Catalog) : Except Failure α × Catalog := StateT.run op.run c

namespace Op

variable {α β : Type} {op : Op α} {c c' : Catalog}

theorem on_bind_of_ok {a : α} (h : op.on c = (.ok a, c')) (next : α → Op β) :
    (op >>= next).on c = (next a).on c' := by
  unfold on at h ⊢
  rw [ExceptT.run_bind, StateT.run_bind, h]
  rfl

theorem on_bind_of_error {f : Failure} (h : op.on c = (.error f, c')) (next : α → Op β) :
    (op >>= next).on c = (.error f, c') := by
  unfold on at h ⊢
  rw [ExceptT.run_bind, StateT.run_bind, h]
  rfl

end Op

/-- Partitions of another table are refused. -/
def checkOwn (table : String) : List Hosted → Op Unit
  | [] => pure ()
  | h :: rest => do
    if h.partition.table ≠ table then
      throw (.foreignPartition h.id h.partition.table table)
    checkOwn table rest

/-- **Register a table** (`register_table`): its partitions are kept in order. -/
def register (s : Schema) (partitions : List Hosted) : Op Unit := do
  checkOwn s.table partitions
  let ids := partitions.map Hosted.id
  unless ids.Nodup do
    throw (.duplicatePartitions s.table ids)
  modify fun c => { c with schemas := c.schemas.put s.table s }
  modify fun c => { c with locations := c.locations.put s.table (Hosted.sort partitions) }

/-- The same tables, within reach or out of it. -/
def setAvailable (available : Bool) : Op Unit := modify fun c => { c with available := available }

/-- What a catalog out of reach reports. -/
def outage : Failure := .catalogUnavailable "Partition metadata service is unavailable" none

/-- Whether the catalog is within reach. -/
def checkAvailable (c : Catalog) : Except Failure Unit :=
  if c.available then .ok () else .error outage

/-- The entry of a table in one of the maps. -/
def entry {α : Type} (tables : OrderedMap String α) (name : String) : Except Failure α :=
  match tables.lookup name with
  | some a => .ok a
  | none => .error (.unknownTable name)

/-- **The schema of a table** (`get_table_schema`). -/
def schema (c : Catalog) (name : String) : Except Failure Schema := do
  c.checkAvailable
  entry c.schemas name

/-- **The partitions of a table**, in order (`_table_locations`). -/
def located (c : Catalog) (name : String) : Except Failure (List Hosted) := do
  c.checkAvailable
  entry c.locations name

/-- The ids of all partitions of a table, in order (`partition_ids`). -/
def partitionIds (c : Catalog) (name : String) : Except Failure (List String) := do
  let partitions ← c.located name
  return partitions.map Hosted.id

/-- Ask for the schema of a table. -/
def askSchema (c : Catalog) (name : String) : Traced Schema :=
  Traced.call (.catalogAsked .schema) c.schema name

/-- Ask for the ids of all partitions of a table. -/
def askIds (c : Catalog) (name : String) : Traced (List String) :=
  Traced.call (.catalogAsked .ids) c.partitionIds name

/-- **The partitions that a scan has to visit**, and a report of how many they are
(`list_partitions`). -/
def locate (c : Catalog) (name : String) (range : KeyRange) : Traced (List Hosted) := do
  let partitions ← Traced.call (.catalogAsked .partitions) c.located name
  let visited := Hosted.overlapping range partitions
  Traced.log (.pruned name visited.length partitions.length)
  return visited

end Catalog

end Keyspan
