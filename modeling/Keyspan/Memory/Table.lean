import Keyspan.Memory.Dictionary
import Keyspan.Memory.FieldPath
import Keyspan.Memory.Shown

/-!
# Tables in memory

A library of tables that runs. A table is a list of rows; it is read in one piece, unless it has no
rows. Cells are stored when a table is made. A table is sorted by the column of a name, or, if the
name starts with a point, by the field to which it is a path.

* `Table.ofColumns`: the table of some columns.
* `library`: the operations on tables.
-/

namespace Keyspan.Memory

open Sample (Value Library)

/-- Stored cells of one type. -/
structure Column where
  type : ColumnType
  cells : List Cell

namespace Column

/-- **A column of the given cells**, as they are stored. -/
def ofGiven (type : ColumnType) (given : List Cell) : Column :=
  let cells := given.map fun c => c.stored type
  ⟨type.settled cells, cells⟩

/-- Texts as strings of bytes. -/
def toBytes (c : Column) : Column :=
  ⟨.bytes false, c.cells.map fun cell => cell.stored (.bytes false)⟩

/-- Where a test on a string of bytes succeeds. -/
def mask (c : Column) (test : Bytes → Bool) : List Bool :=
  c.cells.map fun cell =>
    match cell with
    | .bytes b => test b
    | _ => false

end Column

/-- Columns by name and type, and rows with a cell for each of them. -/
structure Table where
  fields : List (String × ColumnType)
  rows : List (List Cell)
  full : ∀ row ∈ rows, row.length = fields.length

/-- The cell of a row in the column of a name. -/
def cellIn (names : List String) (row : List Cell) (name : String) : Cell :=
  row[names.idxOf name]?.getD .missing

namespace Table

/-- **The table of some columns**, all of which have a cell for each row. -/
def ofColumns (columns : List (String × Column)) : Table where
  fields := columns.map fun (name, c) => (name, c.type)
  rows :=
    let cells := columns.map fun (_, c) => c.cells.toArray
    let count := (columns.head?.map fun (_, c) => c.cells.length).getD 0
    (List.range count).map fun i => cells.map fun column => column[i]?.getD .missing
  full := by simp

/-- The names of the columns. -/
def names (t : Table) : List String := t.fields.map Prod.fst

/-- The type of the column of a name. -/
def type (t : Table) (name : String) : ColumnType :=
  (t.fields[t.names.idxOf name]?.map Prod.snd).getD .null

/-- The type of a column that has its name alone. -/
def typeOf (t : Table) (name : String) : Except Failure ColumnType :=
  if t.names.count name = 1 then .ok (t.type name) else .error (.rowKeyRepeated name)

/-- A column that has its name alone. -/
def column (t : Table) (name : String) : Except Failure Column :=
  let times := t.names.count name
  if times = 1 then .ok ⟨t.type name, t.rows.map fun row => cellIn t.names row name⟩
  else .error (.repeatedColumn name times)

/-- The table with another column at a position. -/
def setColumn (t : Table) (i : Nat) (name : String) (c : Column) : Table where
  fields := t.fields.set i (name, c.type)
  rows := List.zipWith (fun row cell => row.set i cell) t.rows c.cells
  full := by
    intro row hrow
    obtain ⟨n, hn, rfl⟩ := List.mem_iff_getElem.mp hrow
    rw [List.getElem_zipWith, List.length_set, List.length_set]
    exact t.full _ (List.getElem_mem _)

/-- The table with some of its rows. -/
def withRows (t : Table) (rows : List (List Cell)) (h : ∀ row ∈ rows, row ∈ t.rows) : Table :=
  ⟨t.fields, rows, fun row hrow => t.full row (h row hrow)⟩

/-- Columns in a message. -/
def fieldsText (t : Table) : String := "\n".intercalate (ColumnType.fieldNames t.fields)

/-- The place to which a path leads, and the type there. -/
def place (t : Table) (path : FieldPath) : Except Failure (List Nat × ColumnType) :=
  match path.places t.fields with
  | [] => .error (.sortColumnMissing path.text t.fieldsText)
  | [(positions, type)] =>
    if type.isSortable then .ok (positions, type) else .error (.notSortable type.name)
  | _ => .error (.sortColumnRepeated path.text t.fieldsText)

/-- What the cell of a row at a place holds. -/
def rank (place : List Nat × ColumnType) (row : List Cell) : List (Option Atom) :=
  ((row[place.1.headD 0]?.getD .missing).inside place.1.tail).atoms place.2

/-- Rows in the order of what they hold at a place. Rows that hold the same keep their order. -/
def sortedAt (t : Table) (place : List Nat × ColumnType) : Table :=
  t.withRows (t.rows.mergeSort fun a b => ranksAtMost (rank place a) (rank place b))
    fun _ => List.mem_mergeSort.mp

/-- The path that a name is: one of its own, or the step to the column of that name. -/
def pathOf (name : String) : Except Failure FieldPath :=
  if name.toList.head? = some '.' then FieldPath.read name else .ok [.named name]

/-- **The rows in the order of the column of a name**, or of the field to which it is a path. -/
def sortBy (t : Table) (name : String) : Except Failure Table :=
  (pathOf name >>= t.place).map t.sortedAt

/-- The rows where a mask is true. -/
def filter (t : Table) (mask : List Bool) : Table :=
  t.withRows (((t.rows.zip mask).filter Prod.snd).map Prod.fst) fun _ hrow => by
    obtain ⟨pair, hpair, rfl⟩ := List.mem_map.mp hrow
    exact (List.of_mem_zip (List.mem_filter.mp hpair).1).1

/-- The least number of rows that a table can be cut to, though it is none. -/
def minSlice : Int := -9223372036854775808

/-- The greatest number of rows that a table can be cut to. -/
def maxSlice : Int := 9223372036854775807

/-- The first rows, up to a number of them. -/
def slice (t : Table) (count : Int) : Except Failure Table :=
  if count < minSlice ∨ maxSlice < count then .error .sliceTooLarge
  else .ok (t.withRows (t.rows.take count.toNat) fun _ => List.mem_of_mem_take)

/-- The pieces in which the table is read: one, if it has rows. -/
def batches (t : Table) : List Table := if t.rows.isEmpty then [] else [t]

/-- The values of a column. -/
def read (t : Table) (name : String) : Except Failure (List (Option Value)) := do
  let c ← t.column name
  c.cells.mapM (Cell.value c.type)

/-- The values of a column that are strings of bytes. -/
def keys (t : Table) (name : String) : Except Failure (List (Option Bytes)) := do
  let values ← t.read name
  return values.map fun value =>
    match value with
    | some (.bytes b) => some b
    | _ => none

end Table

/-- Whether the cells of a type are texts. -/
def ColumnType.isText : ColumnType → Bool
  | text _ => true
  | _ => false

/-- Whether the cells of a type are strings of bytes of any length. -/
def ColumnType.isBytes : ColumnType → Bool
  | bytes _ => true
  | _ => false

/-- **The library of tables in memory.** -/
@[reducible] def library : Library where
  Table := Table
  DataType := ColumnType
  Column := Column
  Mask := List Bool
  Batch := Table
  fields := Table.fields
  typeOf := Table.typeOf
  isText := ColumnType.isText
  isBytes := ColumnType.isBytes
  typeName := ColumnType.name
  bits? := ColumnType.bits?
  column := Table.column
  columnType := Column.type
  toBytes c := .ok c.toBytes
  setColumn t i name c := .ok (t.setColumn i name c)
  sortBy := Table.sortBy
  atLeast c bound := c.mask fun key => Bytes.le bound key
  below c bound := c.mask fun key => Bytes.lt key bound
  both := List.zipWith (· && ·)
  filter := Table.filter
  slice := Table.slice
  batches := Table.batches
  keys := Table.keys
  read := Table.read

end Keyspan.Memory
