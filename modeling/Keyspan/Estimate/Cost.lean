import Keyspan.Estimate.Statistics
import Keyspan.Schema
import Keyspan.Setting.Scan

/-!
# What a scan is estimated to cost

The rows of a scan are its bytes by the bytes of an average row, rounded down, and of these a
share if there is a filter. Its disk cost is its bytes, or the share of them that the projected
columns have among the columns of an average row. Rows count as they are divided; everything
behind that goes through floating-point numbers, so an integer that is too large for them has no
estimate (`CostModel`).
-/

namespace Keyspan

/-- The estimated cost of a scan (`ScanStats`). It is never exact. -/
structure Cost where
  rows : Int
  disk : Double
  deriving DecidableEq

namespace Cost

/-- The cost of computing, the same for every scan. -/
def cpu : Double := .finite false 1

/-- No estimate is exact. -/
def isExact : Bool := false

end Cost

namespace Double

/-- An integer as a floating-point number, or the failure that it is too large. -/
def ofInteger (n : Int) : Except Failure Double :=
  match ofInt? n with
  | some x => .ok x
  | none => .error .integerTooLarge

end Double

namespace Statistics

/-- The whole average rows in a number of bytes. -/
def wholeRows (st : Statistics) (total : Int) : Except Failure Int :=
  if st.averages.rowBytes = 0 then .error .wholeDivisionByZero
  else .ok (total.fdiv st.averages.rowBytes)

/-- **The disk cost of a number of bytes** (`disk_cost_estimate`) under a projection. -/
def diskCost (st : Statistics) (total : Int) (p : Projection) : Except Failure Double :=
  if p.isStar then Double.ofInteger total
  else if st.averages.columns = 0 then .error .divisionByZero
  else do
    let bytes ← Double.ofInteger total
    return bytes.mul (.quotient ((p.getD []).length : Int) st.averages.columns)

end Statistics

namespace Scan

/-- The share of the rows of a scan that are left: all of them without a filter. -/
def share (s : Scan) (settings : Setting.Settings) : Except Failure Double :=
  if s.hasFilter then
    (settings.selectivity .missing).map fun v => v.real?.getD (.finite false 1)
  else .ok (.finite false 1)

/-- **The rows that a scan is estimated to deliver (`row_count_estimate`).** -/
def rowCount (s : Scan) (st : Statistics) (total : Int) (settings : Setting.Settings) :
    Except Failure Int := do
  let share ← s.share settings
  let whole ← st.wholeRows total
  let rows ← Double.ofInteger whole
  return ((rows.mul share).integerPart?).getD 0

/-- **The cost that a scan is estimated to have (`scan_stats`).** The rows are estimated first. -/
def cost (s : Scan) (st : Statistics) (total : Int) (settings : Setting.Settings)
    (p : Projection) : Except Failure Cost := do
  let rows ← s.rowCount st total settings
  let disk ← st.diskCost total p
  return ⟨rows, disk⟩

end Scan

end Keyspan
