import Keyspan.Estimate.Statistics
import Keyspan.Sample.Cursor
import Keyspan.Setting.Scan

/-!
# Averages over a bounded sample

The number of rows to sample is a setting. At zero no sampler is asked and the averages are one
byte and one column; otherwise the sampler is asked once, at most that many rows are taken from
its answer, and the answer is closed whatever happened, if there is something to close. Averages
are rounded down and never below one (`StatsEstimator._sample_rows`).

* `Cursor.takeRows`: take rows and close.
* `Scan.sample`: the averages of a scan.

Results: `events_takeRows`: what taking rows does, in every case.
-/

namespace Keyspan

open Sample (Cursor Row Sampler)

namespace Averages

/-- The averages when no row is known. -/
def unknown : Averages := ⟨1, 1⟩

/-- The average of some numbers whose count is not zero, rounded down, but at least one. -/
def atLeastOne (total : Int) (count : Nat) : Int := max 1 (total / (count : Int))

/-- **The averages over some rows.** -/
def ofRows (rows : List Row) : Averages :=
  let bytes := rows.foldl (fun sum r => sum + r.size) 0
  let columns := rows.foldl (fun sum r => sum + r.columns) 0
  ⟨atLeastOne bytes rows.length, atLeastOne columns rows.length⟩

theorem one_le_ofRows (rows : List Row) :
    1 ≤ (ofRows rows).rowBytes ∧ 1 ≤ (ofRows rows).columns :=
  ⟨Int.le_max_left 1 _, Int.le_max_left 1 _⟩

end Averages

namespace Sample.Cursor

/-- The greatest number of rows that a cursor counts. -/
def maxCount : Int := 9223372036854775807

/-- Closing a cursor, if there is something to close. -/
def closing (c : Cursor) : List Event := if c.closable then [.rowsClosed] else []

/-- **Take at most `count` rows from a cursor, and close it.** -/
def takeRows (c : Cursor) (count : Int) : Traced (List Row) :=
  if maxCount < count then ⟨closing c, .error .sampleCountTooLarge⟩
  else
    let taken := c.take count.toNat
    ⟨.rowsTaken taken.rows.length :: closing c,
      match taken.failure with
      | some f => .error f
      | none => .ok taken.rows⟩

/-- **What taking rows does**: the rows are counted unless their number is beyond counting, and a
closable cursor is closed last, whatever happened. -/
theorem events_takeRows (c : Cursor) (count : Int) :
    (takeRows c count).events =
      (if maxCount < count then [] else [.rowsTaken (min count.toNat c.rows.length)]) ++
        closing c := by
  unfold takeRows
  split
  · rfl
  · dsimp only
    rw [length_take_rows]
    rfl

end Sample.Cursor

/-- Ask a sampler for rows of a scan. -/
def Sample.Sampler.ask (sampler : Sampler) (s : Scan) (limit : Setting.Value) : Traced Cursor :=
  Traced.call (Function.uncurry .rowsAsked) (Function.uncurry sampler) (s, limit)

namespace Scan

/-- The averages over the rows of a cursor. -/
def averageRows (s : Scan) (c : Cursor) (count : Int) : Traced Averages := do
  let rows ← c.takeRows count
  if rows.isEmpty then
    Traced.log (.sampleEmpty s.table)
    return Averages.unknown
  else
    let averages := Averages.ofRows rows
    Traced.log (.sampled rows.length s.table averages.rowBytes averages.columns)
    return averages

/-- **The averages of a scan.** -/
def sample (s : Scan) (settings : Setting.Settings) (sampler : Sampler) : Traced Averages := do
  let limit ← Traced.ofExcept (settings.sampleRowsCount .missing)
  let count := limit.integer?.getD 0
  if count = 0 then
    Traced.log (.samplingOff s.table)
    return Averages.unknown
  else
    let cursor ← sampler.ask s limit
    averageRows s cursor count

end Scan

end Keyspan
