import Keyspan.Proofs.KeyOrder
import Keyspan.Scan

/-!
# Fragments cover what their partition and the scan have in common

A fragment takes over a bound of the scan if that lies inside the range of the partition. The empty
key is the least of all as a start and no bound as a stop, and the test for a stop is the one for
a row; that it is the right one is due to pruning: a partition that overlaps the scan does not
start at or behind the stop of the scan, nor stop at or before its start.

Results:
* `KeyRange.contains_iff_codes`, `KeyRange.overlaps_iff`: ranges in the linear order of keys.
* `Scan.fragment_contains_iff`: a row is in a fragment iff it is in the partition and in the scan.
-/

namespace Keyspan

namespace KeyRange

theorem contains_iff_codes {r : KeyRange} {row : Bytes} :
    r.contains row = true ↔
      r.start.codes ≤ row.codes ∧ (r.stop = [] ∨ row.codes < r.stop.codes) := by
  rw [contains_iff, Bytes.lt_eq_false_iff, Bytes.lt_iff]

theorem overlaps_iff {r s : KeyRange} :
    r.overlaps s = true ↔ (s.stop = [] ∨ r.start.codes < s.stop.codes) ∧
      (s.start = [] ∨ r.stop = [] ∨ s.start.codes < r.stop.codes) := by
  unfold overlaps
  rw [Bool.and_eq_true_iff]
  refine and_congr ?_ ?_
  · rw [Bool.not_eq_true', Bool.and_eq_false_iff, Bool.not_eq_false', List.isEmpty_iff,
      ← Bool.not_eq_true, Bytes.le_iff, not_le]
  · rw [Bool.not_eq_true', Bool.and_eq_false_iff, Bool.and_eq_false_iff, Bool.not_eq_false',
      Bool.not_eq_false', List.isEmpty_iff, List.isEmpty_iff, ← Bool.not_eq_true, Bytes.le_iff,
      not_le, or_assoc]

end KeyRange

namespace Scan

/-! ## Cutting at a bound -/

theorem cut_eq {bound own : Bytes} {range : KeyRange} (hb : bound ≠ []) :
    cut bound range own = if range.contains bound = true then bound else own := by
  have hempty : bound.isEmpty = false := by
    rw [← Bool.not_eq_true, List.isEmpty_iff]
    exact hb
  unfold cut
  rw [hempty]
  rfl

/-- **The start of a fragment is the later one** of the two starts. -/
theorem cut_start_le_iff {own : KeyRange} {bound : Bytes} (row : Bytes)
    (h : bound = [] ∨ own.stop = [] ∨ bound.codes < own.stop.codes) :
    (cut bound own own.start).codes ≤ row.codes ↔
      own.start.codes ≤ row.codes ∧ bound.codes ≤ row.codes := by
  by_cases hb : bound = []
  · subst hb
    exact (and_iff_left (Bytes.nil_le row)).symm
  · rw [cut_eq hb]
    by_cases hin : own.start.codes ≤ bound.codes
    · rw [if_pos (KeyRange.contains_iff_codes.mpr ⟨hin, h.resolve_left hb⟩)]
      exact ⟨fun hrow => ⟨hin.trans hrow, hrow⟩, And.right⟩
    · rw [if_neg fun hc => hin (KeyRange.contains_iff_codes.mp hc).1]
      exact ⟨fun hrow => ⟨hrow, (not_le.mp hin).le.trans hrow⟩, And.left⟩

theorem lt_cut_stop_iff {own : KeyRange} {bound : Bytes} (row : Bytes)
    (h : bound = [] ∨ own.start.codes < bound.codes) :
    (cut bound own own.stop = [] ∨ row.codes < (cut bound own own.stop).codes) ↔
      (own.stop = [] ∨ row.codes < own.stop.codes) ∧ (bound = [] ∨ row.codes < bound.codes) := by
  by_cases hb : bound = []
  · subst hb
    exact (and_iff_left (Or.inl rfl)).symm
  · rw [cut_eq hb]
    have hstart := (h.resolve_left hb).le
    by_cases hin : own.stop = [] ∨ bound.codes < own.stop.codes
    · rw [if_pos (KeyRange.contains_iff_codes.mpr ⟨hstart, hin⟩)]
      refine ⟨fun hrow => ⟨hin.imp_right fun hlt => ?_, hrow⟩, And.right⟩
      exact (hrow.resolve_left hb).trans hlt
    · rw [if_neg fun hc => hin (KeyRange.contains_iff_codes.mp hc).2]
      refine ⟨fun hrow => ⟨hrow, Or.inr ?_⟩, And.left⟩
      obtain ⟨hstop, hle⟩ := not_or.mp hin
      exact (hrow.resolve_left hstop).trans_le (not_lt.mp hle)

/-- **A row is in a fragment iff it is in the partition and in the scan**, if the two overlap. -/
theorem fragment_contains_iff {s : Scan} {h : Hosted}
    (hov : h.partition.range.overlaps s.range = true) (row : Bytes) :
    (s.fragment h).range.contains row = true ↔
      h.partition.range.contains row = true ∧ s.range.contains row = true := by
  obtain ⟨hstop, hstart⟩ := KeyRange.overlaps_iff.mp hov
  rw [KeyRange.contains_iff_codes, KeyRange.contains_iff_codes, KeyRange.contains_iff_codes]
  unfold fragment
  dsimp only
  rw [cut_start_le_iff row hstart, lt_cut_stop_iff row hstop, and_and_and_comm]

end Scan

end Keyspan
