import Keyspan.Lexicographic

/-!
# Ranges of row keys

A range holds the row keys from its start up to, but not including, its stop. The empty start is
the least key of all, and an empty stop leaves the range open above.

Results:
* `contains_iff`: membership in words;
* `overlaps_of_contains`: ranges that share a row key overlap, so that pruning by `overlaps`
  loses no row.
-/

namespace Keyspan

/-- A half-open range of row keys; an empty stop is no bound. -/
structure KeyRange where
  start : Bytes
  stop : Bytes
  deriving DecidableEq

namespace KeyRange

/-- Whether a row key lies below the stop. -/
def belowStop (r : KeyRange) (row : Bytes) : Bool := r.stop.isEmpty || Bytes.lt row r.stop

/-- **Whether a row key lies in the range (`Partition.contains_row`).** -/
def contains (r : KeyRange) (row : Bytes) : Bool := Bytes.le r.start row && r.belowStop row

/-- **Whether two ranges overlap** (`Partition.intersects`), judged by their bounds: neither lies
behind the other. -/
def overlaps (r s : KeyRange) : Bool :=
  !(!s.stop.isEmpty && Bytes.le s.stop r.start) &&
    !(!s.start.isEmpty && !r.stop.isEmpty && Bytes.le r.stop s.start)

theorem contains_iff (r : KeyRange) (row : Bytes) :
    r.contains row = true ↔
      Bytes.lt row r.start = false ∧ (r.stop = [] ∨ Bytes.lt row r.stop = true) := by
  simp [contains, belowStop, Bytes.le]

/-- **Ranges that share a row key overlap.** -/
theorem overlaps_of_contains {r s : KeyRange} {row : Bytes} (hr : r.contains row = true)
    (hs : s.contains row = true) : r.overlaps s = true := by
  rw [contains_iff] at hr hs
  obtain ⟨hrStart, hrStop⟩ := hr
  obtain ⟨hsStart, hsStop⟩ := hs
  have below : ∀ {a b : Bytes}, Bytes.lt row a = false → Bytes.lt row b = true →
      Bytes.lt a b = true := by
    intro a b ha hb
    cases hab : Bytes.lt a b with
    | true => rfl
    | false =>
      cases hba : Bytes.lt b a with
      | true =>
        have hra := lexLT_trans hb hba
        rw [show lexLT (row.map UInt8.toNat) (a.map UInt8.toNat) = false from ha] at hra
        exact absurd hra Bool.false_ne_true
      | false =>
        have hEq := lexLT_total hab hba
        unfold Bytes.lt at ha hb
        rw [hEq] at ha
        rw [ha] at hb
        exact absurd hb Bool.false_ne_true
  have hStop : ∀ {a b : Bytes}, Bytes.lt row a = false → (b = [] ∨ Bytes.lt row b = true) →
      (!b.isEmpty && Bytes.le b a) = false := by
    intro a b ha hb
    rcases hb with rfl | hb
    · rfl
    · simp [Bytes.le, below ha hb]
  unfold overlaps
  have h1 := hStop hrStart hsStop
  have h2 := hStop hsStart hrStop
  rw [h1]
  cases hE : s.start.isEmpty with
  | true => rfl
  | false => simp [h2]

end KeyRange

end Keyspan
