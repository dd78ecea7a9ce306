import Keyspan.Index
import Keyspan.Sample.Cursor

/-!
# Sampling rows of a table

The rows of a table are sampled in the order of their row keys: those whose key lies in the range of
a scan, up to some number of them (`ArrowRowSampler`). A row is told by the sizes of its cells. A
cell that is not missing counts the length of the row key and its own size; a missing cell counts
neither as a size nor as a column.

Tables are those of a library that is not part of this development. What sampling uses of it is a
parameter, `Library`: nothing is known of its tables but what these operations tell.

* `Library.index`: check the row keys, and sort the rows.
* `Library.Index.restrict`: the rows in a range.
* `Library.Index.sample`: the rows that are handed out, batch by batch.
-/

namespace Keyspan.Sample

/-- What a cell is that is not missing, once it is read. -/
inductive Value where
  | bytes (value : Bytes)
  | text (value : String)
  /-- Anything else, by how it is written. -/
  | other (shown : String)
  deriving DecidableEq

/-- **The size of a value** (`_value_size`), given the bits of its type if that fixes them. -/
def Value.size (bits? : Option Nat) : Value → Nat
  | bytes b => b.length
  | text s => s.utf8ByteSize
  | other shown =>
    match bits? with
    | some bits => max 1 (bits / 8)
    | none => shown.utf8ByteSize

/-- **A library of tables**, as far as sampling uses it. -/
structure Library where
  Table : Type
  DataType : Type
  Column : Type
  Mask : Type
  Batch : Type
  /-- The columns of a table by name and type (`schema`). -/
  fields : Table → List (String × DataType)
  /-- The type of the column of a name (`schema.field`). -/
  typeOf : Table → String → Except Failure DataType
  /-- Whether a type is one of texts (`is_string`, `is_large_string`). -/
  isText : DataType → Bool
  /-- Whether a type is one of strings of bytes (`is_binary`, `is_large_binary`). -/
  isBytes : DataType → Bool
  /-- A type as it is written. -/
  typeName : DataType → String
  /-- The bits of a value, if the type fixes them (`bit_width`). -/
  bits? : DataType → Option Nat
  /-- The column of a name (`column`). -/
  column : Table → String → Except Failure Column
  columnType : Column → DataType
  /-- A column of texts as strings of bytes (`cast`). -/
  toBytes : Column → Except Failure Column
  /-- A table with another column at a position, under a name (`set_column`). -/
  setColumn : Table → Nat → String → Column → Except Failure Table
  /-- A table with its rows in the order of a column (`sort_by`). -/
  sortBy : Table → String → Except Failure Table
  /-- Where a column is at or above a key (`greater_equal`). -/
  atLeast : Column → Bytes → Mask
  /-- Where a column is below a key (`less`). -/
  below : Column → Bytes → Mask
  /-- Where both masks are true (`and_`). -/
  both : Mask → Mask → Mask
  /-- The rows where a mask is true (`filter`). -/
  filter : Table → Mask → Table
  /-- The first rows of a table, up to a number of them (`slice`). -/
  slice : Table → Int → Except Failure Table
  /-- The pieces in which a table is read (`to_batches`). -/
  batches : Table → List Batch
  /-- The values of a column of strings of bytes, in a batch (`to_pylist`). -/
  keys : Batch → String → Except Failure (List (Option Bytes))
  /-- The values of a column, in a batch (`to_pylist`). -/
  read : Batch → String → Except Failure (List (Option Value))

namespace Library

variable (L : Library)

/-- The names of the columns of a table. -/
def names (t : L.Table) : List String := (L.fields t).map Prod.fst

/-- A table in the order of its row keys. -/
structure Index where
  table : L.Table
  rowKey : String

/-- A table with row keys that are strings of bytes. -/
def withByteKeys (t : L.Table) (rowKey : String) : Except Failure L.Table := do
  if rowKey ∉ L.names t then throw (.rowKeyMissing rowKey (L.names t))
  let type ← L.typeOf t rowKey
  if L.isText type then
    let keys ← L.toBytes (← L.column t rowKey)
    L.setColumn t ((L.names t).idxOf rowKey) rowKey keys
  else if L.isBytes type then return t
  else throw (.rowKeyType rowKey (L.typeName type))

/-- **Check the row keys, and sort the rows.** -/
def index (t : L.Table) (rowKey : String) : Except Failure L.Index := do
  let keyed ← L.withByteKeys t rowKey
  let sorted ← L.sortBy keyed rowKey
  return ⟨sorted, rowKey⟩

/-- The mask of a range, given what its two bounds leave; a bound that is not there is no mask. -/
def mask? (keys : L.Column) (range : KeyRange) : Option L.Mask :=
  let lower := if range.start.isEmpty then none else some (L.atLeast keys range.start)
  if range.stop.isEmpty then lower
  else
    let upper := L.below keys range.stop
    match lower with
    | none => some upper
    | some lower => some (L.both lower upper)

variable {L}

/-- **The rows in a range** (`_restrict_to_range`). -/
def Index.restrict (x : L.Index) (range : KeyRange) : Except Failure L.Table := do
  let keys ← L.column x.table x.rowKey
  return match L.mask? keys range with
    | none => x.table
    | some mask => L.filter x.table mask

/-- The columns beside that of the keys. -/
def valueFields (L : Library) (t : L.Table) (rowKey : String) : List (String × L.DataType) :=
  (L.fields t).filter fun field => field.1 != rowKey

/-- A column as it is read: the bits of its type, if that fixes them, and its values. -/
abbrev Values := Option Nat × List (Option Value)

/-- The length of a key; there has to be one. -/
def keyLength : Option Bytes → Except Failure Nat
  | some key => .ok key.length
  | none => .error .cellWithoutKey

/-- The sizes of the cells of one row, by its key and its number. -/
def cellSizes (key : Option Bytes) (i : Nat) : List Values → Except Failure (List Int)
  | [] => .ok []
  | (bits?, values) :: rest => do
    match ← itemAt values i with
    | none => cellSizes key i rest
    | some value =>
      let length ← keyLength key
      let others ← cellSizes key i rest
      return ((length + value.size bits? : Nat) : Int) :: others

/-- One row of a batch. -/
def readRow (columns : List Values) (key : Option Bytes × Nat) : Cursor.Taken :=
  match cellSizes key.1 key.2 columns with
  | .error f => .broken f
  | .ok sizes => .ofRows [⟨sizes, sizes.length⟩]

/-- The keys and the values of a batch. -/
def readColumns (b : L.Batch) (rowKey : String) (fields : List (String × L.DataType)) :
    Except Failure (List (Option Bytes) × List Values) := do
  let keys ← L.keys b rowKey
  let columns ← fields.mapM fun field => (L.read b field.1).map fun values =>
    (L.bits? field.2, values)
  return (keys, columns)

/-- **The rows of a batch.** All columns are read before its first row is handed out. -/
def readBatch (rowKey : String) (fields : List (String × L.DataType)) (b : L.Batch) :
    Cursor.Taken :=
  match readColumns b rowKey fields with
  | .error f => .broken f
  | .ok (keys, columns) => .join (keys.zipIdx.map (readRow columns))

/-- The first rows in a range, up to a number of them. -/
def Index.select (x : L.Index) (range : KeyRange) (limit : Int) : Except Failure L.Table := do
  L.slice (← x.restrict range) limit

/-- **The first rows of a range** (`sample`), batch by batch. -/
def Index.sample (x : L.Index) (range : KeyRange) (limit : Int) : Cursor :=
  match x.select range limit with
  | .error f => ⟨[], some f, true⟩
  | .ok data =>
    let taken := Cursor.Taken.join
      ((L.batches data).map (readBatch x.rowKey (L.valueFields data x.rowKey)))
    ⟨taken.rows, taken.failure, true⟩

/-- An index as a sampler. -/
def Index.sampler (x : L.Index) : Sampler :=
  fun scan limit => .ok (x.sample scan.range (limit.integer?.getD 0))

end Library

end Keyspan.Sample
