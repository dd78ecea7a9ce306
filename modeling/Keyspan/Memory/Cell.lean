import Keyspan.Number.Double

/-!
# Cells of a table in memory

A `Cell` is what a table was given for a column in a row. What it means is decided by the type of
the column: the same number is an amount in one column and a date in another.
-/

namespace Keyspan.Memory

/-- The cell of a column in a row. A missing cell is not stored. -/
inductive Cell where
  | missing
  | flag (value : Bool)
  | integer (value : Int)
  | real (value : Double)
  | text (value : String)
  | bytes (value : List UInt8)
  | decimal (numeral : String)
  | list (items : List Cell)
  | record (fields : List (String × Cell))
  | map (pairs : List (Cell × Cell))

namespace Cell

/-- The cells of the fields of a record. -/
def fieldCells : Cell → List Cell
  | record fields => fields.map Prod.snd
  | _ => []

/-- The items of a list. -/
def items : Cell → List Cell
  | list items => items
  | _ => []

/-- The key and the value that a record of two fields stands for. -/
def toPair : Cell → Cell × Cell
  | record [(_, key), (_, value)] => (key, value)
  | _ => (missing, missing)

end Cell

end Keyspan.Memory
