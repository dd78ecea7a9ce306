import Keyspan.Lexicographic
import Keyspan.Memory.Stored

/-!
# Cells without parts

What a cell without parts holds is a whole number, a number, or a string of bytes; a text is its
bytes in UTF-8, a flag is one or zero, and a decimal is the number of units in its last place. In
that form cells of one column are told apart (`DecidableEq`) and put in order (`Atom.atMost`). The
two zeros are two cells, though neither comes in front of the other. What is no number comes
behind all numbers, and a missing cell behind all cells.

A record is put in order by its parts, the first field leading: `Cell.atoms`.
-/

namespace Keyspan.Memory

/-- What a cell without parts holds. -/
inductive Atom where
  | whole (value : Int)
  | real (value : Double)
  | bytes (value : Bytes)
  deriving DecidableEq

namespace Atom

/-- Numbers are spread by their value, and so are strings of bytes. -/
instance : Hashable Atom where
  hash
    | whole n => hash n
    | real (.finite negative q) => mixHash (hash negative) (mixHash (hash q.num) (hash q.den))
    | real (.infinite negative) => hash negative
    | real (.nan negative) => hash negative
    | bytes b => hash b

/-- Whether an atom may stand in front of another of its kind. -/
def atMost : Atom → Atom → Bool
  | whole m, whole n => decide (m ≤ n)
  | real x, real y => y.isNan || x.le y
  | bytes a, bytes b => Bytes.le a b
  | _, _ => true

end Atom

/-- Whether a cell may stand in front of another one. Missing cells stand last. -/
def rankAtMost : Option Atom → Option Atom → Bool
  | some a, some b => a.atMost b
  | none, some _ => false
  | _, none => true

/-- **Whether some cells may stand in front of others**: the first difference decides. -/
def ranksAtMost : List (Option Atom) → List (Option Atom) → Bool
  | a :: as, b :: bs =>
    if rankAtMost a b then !rankAtMost b a || ranksAtMost as bs else false
  | _, _ => true

namespace ColumnType

mutual

/-- Whether the cells of a type have an order. -/
def isSortable : ColumnType → Bool
  | list _ | map .. => false
  | record fs => areSortable fs
  | dictionary _ values => values.isSortable
  | _ => true

/-- Whether the cells of all fields have an order. -/
def areSortable : List (String × ColumnType) → Bool
  | [] => true
  | (_, t) :: rest => t.isSortable && areSortable rest

end

end ColumnType

namespace Cell

/-- What a stored cell holds, if it has no parts and is not missing. -/
def atom? : Cell → ColumnType → Option Atom
  | flag b, _ => some (.whole (if b then 1 else 0))
  | integer n, _ => some (.whole n)
  | real x, _ => some (.real x)
  | text s, _ => some (.bytes s.toUTF8.toList)
  | bytes b, _ => some (.bytes b)
  | decimal numeral, t =>
    match t.content with
    | .decimal _ scale => (unscaled? scale numeral).map Atom.whole
    | _ => none
  | _, _ => none

mutual

/-- **The parts of a stored cell** of the given type, those of a record field by field. -/
def atoms (c : Cell) : ColumnType → List (Option Atom)
  | .record fs => fieldAtoms c.fieldCells fs
  | t => [c.atom? t]

/-- The parts of the fields of a record. Where the record is missing, they are. -/
def fieldAtoms (cells : List Cell) : List (String × ColumnType) → List (Option Atom)
  | [] => []
  | (_, t) :: rest => (cells.headD missing).atoms t ++ fieldAtoms cells.tail rest

end

/-- The cell at a place, by the positions on the way. -/
def inside (c : Cell) : List Nat → Cell
  | [] => c
  | position :: rest => ((c.fieldCells[position]?).getD missing).inside rest

end Cell

end Keyspan.Memory
