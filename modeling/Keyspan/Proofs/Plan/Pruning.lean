import Keyspan.Plan.Builder
import Keyspan.Proofs.Plan.Coverage

/-!
# Pruning is exact

A catalog judges by bounds alone which partitions a scan has to visit. For ranges that hold any row
key at all this is the same as sharing one: of the two starts the later one is in both ranges. A
builder refuses the ranges that hold none, so the partitions that are located are exactly those that
have a row key in common with the scan.

Results:
* `KeyRange.exists_contains_iff`: which ranges hold a row key.
* `KeyRange.overlaps_iff_exists_contains`: ranges with row keys overlap iff they share one.
* `PlanBuilder.isEmptyRange_iff_forall`: a builder refuses the ranges without row keys.
* `Catalog.outcome_locate_of_holds`: what is located of a registered table.
* `PlanBuilder.locate_exact`: which scans there are, and which partitions they visit.
-/

namespace Keyspan

/-! ## Ranges with row keys -/

namespace KeyRange

variable {r s : KeyRange}

/-- **A range holds a row key** iff it is open above or starts before it stops; its start is one. -/
theorem exists_contains_iff :
    (∃ row, r.contains row = true) ↔ r.stop = [] ∨ r.start.codes < r.stop.codes := by
  constructor
  · rintro ⟨row, hrow⟩
    obtain ⟨hstart, hstop⟩ := contains_iff_codes.mp hrow
    exact hstop.imp_right fun hlt => hstart.trans_lt hlt
  · intro h
    exact ⟨r.start, contains_iff_codes.mpr ⟨le_refl _, h⟩⟩

/-- **Ranges with row keys overlap iff they share one**: the later one of the two starts is in
both. -/
theorem overlaps_iff_exists_contains (hr : ∃ row, r.contains row = true)
    (hs : ∃ row, s.contains row = true) :
    r.overlaps s = true ↔ ∃ row, r.contains row = true ∧ s.contains row = true := by
  constructor
  · intro h
    obtain ⟨hstop, hstart⟩ := overlaps_iff.mp h
    rw [exists_contains_iff] at hr hs
    rcases le_total r.start.codes s.start.codes with hle | hle
    · refine ⟨s.start, contains_iff_codes.mpr ⟨hle, ?_⟩, contains_iff_codes.mpr ⟨le_refl _, hs⟩⟩
      rcases hstart with hempty | hstart
      · -- no start is before the empty one
        rw [hempty]
        exact hr.imp_right fun hlt => (Bytes.nil_le r.start).trans_lt hlt
      · exact hstart
    · exact ⟨r.start, contains_iff_codes.mpr ⟨le_refl _, hr⟩,
        contains_iff_codes.mpr ⟨hle, hstop⟩⟩
  · rintro ⟨row, hrow, hrow'⟩
    exact overlaps_of_contains hrow hrow'

end KeyRange

namespace PlanBuilder

theorem isEmptyRange_iff {r : KeyRange} :
    isEmptyRange r = true ↔ r.start ≠ [] ∧ r.stop ≠ [] ∧ r.stop.codes ≤ r.start.codes := by
  unfold isEmptyRange
  simp [Bytes.le_iff, and_assoc]

/-- **A builder takes for empty the ranges without row keys.** -/
theorem isEmptyRange_iff_forall {r : KeyRange} :
    isEmptyRange r = true ↔ ∀ row, r.contains row = false := by
  have hnone : (∀ row, r.contains row = false) ↔ r.stop ≠ [] ∧ r.stop.codes ≤ r.start.codes := by
    rw [← not_lt, ← not_or, ← KeyRange.exists_contains_iff]
    simp
  rw [hnone, isEmptyRange_iff]
  refine and_iff_right_of_imp fun ⟨hstop, hle⟩ hstart => hstop ?_
  -- nothing but the empty key is at or before the empty one
  rw [hstart] at hle
  exact Bytes.codes_injective (le_antisymm hle (Bytes.nil_le r.stop))

end PlanBuilder

/-! ## Located partitions -/

namespace Catalog

/-- **What is located of a registered table**: its partitions in order that overlap the range. -/
theorem outcome_locate_of_holds {c : Catalog} {schema : Schema} {partitions : List Hosted}
    (hc : c.Holds schema partitions) (range : KeyRange) :
    (c.locate schema.table range).outcome =
      if c.available then
        .ok ((Hosted.sort partitions).filter fun h => h.partition.range.overlaps range)
      else .error outage := by
  rw [outcome_locate, hc.located_eq]
  cases c.available <;> rfl

end Catalog

/-- **Pruning is exact.** A builder refuses a scan as invalid input iff both of its bounds are there
and the stop is at or before the start, and it refuses no range that holds a row key and every range
that holds none. A scan of a registered table whose partitions each start before they stop, or are
open above, visits exactly those partitions that share a row key with it, in order of start key and
id and none of them twice; a catalog out of reach reports that. -/
theorem PlanBuilder.locate_exact (b : PlanBuilder) :
    (∀ table,
      if b.range.start ≠ [] ∧ b.range.stop ≠ [] ∧ Bytes.le b.range.stop b.range.start = true then
        (∃ f, b.scan table = .error f ∧ f.category = .invalidInput) ∧
          ∀ row, b.range.contains row = false
      else
        b.scan table = .ok ⟨table, b.range, b.filter⟩ ∧ ∃ row, b.range.contains row = true) ∧
      ∀ (c : Catalog) (schema : Schema) (partitions : List Hosted) (scan : Scan),
        c.Holds schema partitions →
        (∀ h ∈ partitions, h.partition.range.stop = [] ∨
          Bytes.lt h.partition.range.start h.partition.range.stop = true) →
        b.scan schema.table = .ok scan →
        if c.available then
          ∃ visited, (c.locate schema.table scan.range).outcome = .ok visited ∧
            (visited.Pairwise fun a b => a.sortKey < b.sortKey) ∧
            ∀ h, h ∈ visited ↔ h ∈ partitions ∧
              ∃ row, h.partition.range.contains row = true ∧ scan.range.contains row = true
        else (c.locate schema.table scan.range).outcome = .error Catalog.outage := by
  refine ⟨fun table => ?_, fun c schema partitions scan hc hranges hscan => ?_⟩
  · simp only [Bytes.le_iff, ← isEmptyRange_iff]
    unfold PlanBuilder.scan
    split
    · rename_i hempty
      exact ⟨⟨_, rfl, rfl⟩, isEmptyRange_iff_forall.mp hempty⟩
    · rename_i hempty
      rw [isEmptyRange_iff_forall] at hempty
      exact ⟨rfl, by simpa using hempty⟩
  · obtain ⟨hempty, rfl⟩ := (b.scan_eq_ok_iff _ _).mp hscan
    have hrow : ∃ row, b.range.contains row = true := by
      rw [← Bool.not_eq_true, isEmptyRange_iff_forall] at hempty
      simpa using hempty
    rw [Catalog.outcome_locate_of_holds hc]
    split
    · refine ⟨_, rfl, (Hosted.sort_strict hc.nodup).filter _, fun h => ?_⟩
      rw [List.mem_filter, (Hosted.sort_perm partitions).mem_iff]
      refine and_congr_right fun hmem => ?_
      have hown : ∃ row, h.partition.range.contains row = true :=
        KeyRange.exists_contains_iff.mpr ((hranges h hmem).imp_right Bytes.lt_iff.mp)
      exact KeyRange.overlaps_iff_exists_contains hown hrow
    · rfl

/-- Three partitions that touch, and a scan of the range of the second. -/
theorem PlanBuilder.locate_exact_touching :
    let p : Hosted := ⟨⟨"p", "t", ⟨[], [5]⟩⟩, ⟨"a", 1⟩⟩
    let q : Hosted := ⟨⟨"q", "t", ⟨[5], [9]⟩⟩, ⟨"b", 1⟩⟩
    let r : Hosted := ⟨⟨"r", "t", ⟨[9], []⟩⟩, ⟨"a", 1⟩⟩
    let b := ((ofSettings .empty).withStart (some [5])).withStop (some [9])
    ∃ c scan visited,
      (Catalog.register ⟨"t", ["c"], "k"⟩ [r, q, p]).on .empty = (.ok (), c) ∧
      b.scan "t" = .ok scan ∧ (c.locate "t" scan.range).outcome = .ok visited ∧
      q ∈ visited ∧ p ∉ visited ∧ r ∉ visited := by
  intro p q r b
  obtain ⟨c, hc⟩ : ∃ c,
      (Catalog.register ⟨"t", ["c"], "k"⟩ [r, q, p]).on .empty = (.ok (), c) :=
    ⟨_, Catalog.register_eq_ok_iff.mpr ⟨by decide, rfl⟩⟩
  obtain ⟨scan, hscan⟩ : ∃ scan, b.scan "t" = .ok scan := ⟨_, rfl⟩
  obtain ⟨-, rfl⟩ := (b.scan_eq_ok_iff _ _).mp hscan
  have havailable : c.available = true := Catalog.available_of_register hc
  have hlocate := (locate_exact b).2 c _ [r, q, p] _ (.registered hc) (by decide) hscan
  rw [if_pos havailable] at hlocate
  obtain ⟨visited, hvisited, -, hmem⟩ := hlocate
  have hmissed : ∀ h, h.partition.range.overlaps b.range = false → h ∉ visited := by
    intro h hapart hh
    obtain ⟨-, row, hown, hasked⟩ := (hmem h).mp hh
    exact Bool.false_ne_true (hapart.symm.trans (KeyRange.overlaps_of_contains hown hasked))
  have hq : q ∈ visited := (hmem q).mpr ⟨by decide, [5], by decide, by decide⟩
  exact ⟨c, _, visited, hc, hscan, hvisited, hq, hmissed p (by decide), hmissed r (by decide)⟩

end Keyspan
