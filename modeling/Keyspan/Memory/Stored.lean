import Keyspan.Memory.Scaled
import Keyspan.Memory.Cell
import Keyspan.Memory.ColumnType

/-!
# Cells as columns store them

A column does not store every cell in the form in which it was given. Where whole numbers are
stored, be they amounts, dates or instants, a number loses what stands behind the point, and a flag
is one or zero. Texts and strings of bytes turn into each other, and in a list column into their
characters and bytes. A record is stored in a map column as its fields, a map in a record column as
the record whose fields it holds in their order, and a record has exactly the fields of its type:
fields that it lacks are missing, fields that the type lacks are dropped.

`Cell.stored` does all this, at any depth.
-/

namespace Keyspan.Memory

/-- The fields of a record type, each with the cell known for it, or missing. -/
def align (types : List (String × ColumnType)) (known : List (String × Cell)) :
    List (String × Cell) :=
  types.map fun (name, _) => (name, (known.lookup name).getD .missing)

namespace ColumnType

/-- Whether the cells of a type are whole numbers, whatever they count. -/
def isWhole : ColumnType → Bool
  | integer .. | date | dateMillis | timestamp _ | timeOfDay _ => true
  | _ => false

/-- The type of the items of a list type. -/
def item : ColumnType → ColumnType
  | list u => u
  | _ => null

/-- The fields of a record type. -/
def fields : ColumnType → List (String × ColumnType)
  | record fs => fs
  | _ => []

/-- The types of the keys and of the values of a map type. -/
def entry : ColumnType → ColumnType × ColumnType
  | map key value => (key, value)
  | _ => (null, null)

/-- The record that an entry of a map is. -/
def entryRecord (key value : ColumnType) : ColumnType := record [("key", key), ("value", value)]

/-- A whole number in a column of a type. -/
def storeWhole (t : ColumnType) (n : Int) : Cell :=
  match t with
  | single => .real (Double.ofRat n).toSingle
  | double => .real (.ofRat n)
  | decimal .. => .decimal (toString n)
  | _ => .integer n

/-- A flag in a column of a type. Among numbers it stands for one or zero. -/
def storeFlag (t : ColumnType) (b : Bool) : Cell :=
  match t with
  | flag => .flag b
  | _ => t.storeWhole (if b then 1 else 0)

/-- A number in a column of a type. -/
def storeReal (t : ColumnType) (x : Double) : Cell :=
  if t.isWhole then (x.integerPart?.map Cell.integer).getD (.real x)
  else
    match t with
    | single => .real x.toSingle
    | _ => .real x

/-- A decimal numeral in a column of a type. -/
def storeDecimal (t : ColumnType) (numeral : String) : Cell :=
  if t.isWhole then ((wholeNumber? numeral).map Cell.integer).getD (.decimal numeral)
  else .decimal numeral

/-- A text in a column of a type. It names no fields and no entries. -/
def storeText : ColumnType → String → Cell
  | bytes _, s | fixedBytes _, s => .bytes s.toUTF8.toList
  | list u, s => .list (s.toList.map fun c => u.storeText (String.singleton c))
  | record fs, _ => .record (align fs [])
  | map .., _ => .map []
  | dictionary _ values, s => values.storeText s
  | _, s => .text s

/-- A string of bytes in a column of a type. It names no fields and no entries. -/
def storeBytes (t : ColumnType) (b : List UInt8) : Cell :=
  match t with
  | text _ => ((String.fromUTF8? ⟨b.toArray⟩).map Cell.text).getD (.bytes b)
  | list u => .list (b.map fun x => u.content.storeWhole x.toNat)
  | record fs => .record (align fs [])
  | map .. => .map []
  | _ => .bytes b

end ColumnType

namespace Cell

mutual

/-- **A cell as a column of the given type stores it.** -/
def stored : Cell → ColumnType → Cell
  | missing, _ => missing
  | flag b, t => t.content.storeFlag b
  | integer n, t => t.content.storeWhole n
  | real x, t => t.content.storeReal x
  | text s, t => t.content.storeText s
  | bytes b, t => t.content.storeBytes b
  | decimal numeral, t => t.content.storeDecimal numeral
  | list items, t =>
    match t.content with
    | .record fs => record (align fs [])
    | .map key value => map ((storedItems items (.entryRecord key value)).map toPair)
    | u => list (storedItems items u.item)
  | record fields, t =>
    match t.content with
    | .map key value => map (storedEntries fields key value)
    | u => record (align u.fields (storedFields fields u.fields))
  | map pairs, t =>
    match t.content with
    | .record fs => record (storedInOrder pairs fs)
    | .list u => list (storedCouples pairs u.content)
    | u => map (storedPairs pairs u.entry)

/-- The items of a list. -/
def storedItems : List Cell → ColumnType → List Cell
  | [], _ => []
  | c :: rest, t => stored c t :: storedItems rest t

/-- The fields of a record, under their names. -/
def storedFields : List (String × Cell) → List (String × ColumnType) → List (String × Cell)
  | [], _ => []
  | (name, c) :: rest, types =>
    (name, stored c ((types.lookup name).getD .null)) :: storedFields rest types

/-- The fields of a record, as the entries of a map. -/
def storedEntries : List (String × Cell) → ColumnType → ColumnType → List (Cell × Cell)
  | [], _, _ => []
  | (name, c) :: rest, key, value =>
    (key.content.storeText name, stored c value) :: storedEntries rest key value

/-- The pairs of a map. -/
def storedPairs : List (Cell × Cell) → ColumnType × ColumnType → List (Cell × Cell)
  | [], _ => []
  | (k, v) :: rest, types => (stored k types.1, stored v types.2) :: storedPairs rest types

/-- The pairs of a map, as the fields of a record. They come in the order of the fields; fields
without a pair are missing. -/
def storedInOrder : List (Cell × Cell) → List (String × ColumnType) → List (String × Cell)
  | [], types => align types []
  | _ :: _, [] => []
  | (_, v) :: rest, (name, t) :: types => (name, stored v t) :: storedInOrder rest types

/-- The pairs of a map, as lists of two items, records of two fields or maps of two entries. -/
def storedCouples : List (Cell × Cell) → ColumnType → List Cell
  | [], _ => []
  | (k, v) :: rest, t =>
    let couple :=
      match t with
      | .record [(first, u), (second, w)] => record [(first, stored k u), (second, stored v w)]
      | .map key value =>
        map [(stored k (.entryRecord key value)).toPair, (stored v (.entryRecord key value)).toPair]
      | u => list [stored k u.item, stored v u.item]
    couple :: storedCouples rest t

end

end Cell

end Keyspan.Memory
