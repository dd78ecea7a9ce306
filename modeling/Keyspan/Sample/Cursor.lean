import Keyspan.Scan
import Keyspan.Setting.Value

/-!
# Cursors over sampled rows

A sampler answers with a cursor, which hands out rows one by one and only once. Rows are handed
out when they are asked for, so a cursor that fails does so when it is asked for the row *behind*
those it still has: whoever takes no more than those never sees the failure. A cursor may be
closable; then it has to be closed, whatever became of it.

* `Cursor.take`: what asking for at most so many rows comes to.
* `Cursor.failingAt`: a cursor that fails when it is asked for the row of a given number.

Results: `length_take_rows`: how many rows are taken.
-/

namespace Keyspan.Sample

/-- A sampled row (`SampledRow`): the sizes of its cells in bytes, and how many columns it fills. -/
structure Row where
  cells : List Int
  columns : Int
  deriving DecidableEq

/-- The size of a row, in bytes (`size_in_bytes`). -/
def Row.size (r : Row) : Int := r.cells.foldl (· + ·) 0

/-- The rows that are handed out, what happens behind them, and whether there is something to
close. -/
structure Cursor where
  rows : List Row
  failure : Option Failure
  closable : Bool

namespace Cursor

/-- A cursor that hands out rows and ends. -/
def ofRows (rows : List Row) (closable : Bool) : Cursor := ⟨rows, none, closable⟩

/-- **A cursor that fails when it is asked for row number `k`**, the one behind its last included.
Other numbers it is never asked for. -/
def failingAt (c : Cursor) (k : Nat) (f : Failure) : Cursor :=
  if k ≤ c.rows.length then ⟨c.rows.take k, some f, c.closable⟩ else c

/-- The rows that were taken, and the failure that broke off the taking. -/
structure Taken where
  rows : List Row
  failure : Option Failure

namespace Taken

/-- Rows, and no failure. -/
def ofRows (rows : List Row) : Taken := ⟨rows, none⟩

/-- A failure in front of any row. -/
def broken (f : Failure) : Taken := ⟨[], some f⟩

/-- One taking behind another. Behind a failure nothing is taken. -/
def andThen (a b : Taken) : Taken :=
  match a.failure with
  | some _ => a
  | none => ⟨a.rows ++ b.rows, b.failure⟩

/-- Takings, one behind another. -/
def join (parts : List Taken) : Taken := parts.foldr andThen (ofRows [])

end Taken

/-- **Ask for at most `count` rows.** -/
def take (c : Cursor) (count : Nat) : Taken :=
  ⟨c.rows.take count, if c.rows.length < count then c.failure else none⟩

/-- **As many rows are taken as there are, but not more than asked for.** -/
theorem length_take_rows (c : Cursor) (count : Nat) :
    (c.take count).rows.length = min count c.rows.length := List.length_take

end Cursor

/-- A source of sampled rows (`RowSampler`): asked for a scan and a number of rows, it answers with
a cursor or fails at once. -/
abbrev Sampler := Scan → Setting.Value → Except Failure Cursor

/-- The sampler that has the same answer for every scan. -/
def Sampler.constant (answer : Except Failure Cursor) : Sampler := fun _ _ => answer

end Keyspan.Sample
