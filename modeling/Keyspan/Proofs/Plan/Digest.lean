import Keyspan.Plan.Node
import Keyspan.Proofs.Text.Quoted

/-!
# Digests identify scans

The digest of a node is a text put together of quoted parts. Every part says where it ends, so the
digest tells the parts: nodes have one digest iff they scan alike and ask for the same columns.

Results:
* `selfDelimiting_filterShown`, `Scan.selfDelimiting_shown`: the parts say where they end.
* `PlanNode.digest_eq_iff`: which nodes have one digest.
-/

namespace Keyspan

open Text (SelfDelimiting)

theorem filterShown_none_ne (b : Bytes) (r u : String) :
    filterShown none ++ r ≠ filterShown (some b) ++ u := by
  intro h
  have hchars := congrArg String.toList h
  simp [filterShown, Text.quotedBytes, Text.quotedByteChars] at hchars

/-- **A shown filter says where it ends.** -/
theorem selfDelimiting_filterShown : SelfDelimiting filterShown := by
  intro f g r u h
  cases f with
  | none =>
    cases g with
    | none => exact ⟨rfl, (String.append_right_inj _).mp h⟩
    | some b => exact absurd h (filterShown_none_ne b r u)
  | some a =>
    cases g with
    | none => exact absurd h.symm (filterShown_none_ne a u r)
    | some b =>
      obtain ⟨hab, hru⟩ := Text.selfDelimiting_quotedBytes h
      exact ⟨congrArg some hab, hru⟩

/-- **A shown scan says where it ends.** -/
theorem Scan.selfDelimiting_shown : SelfDelimiting Scan.shown := by
  intro s t r u h
  unfold shown at h
  simp only [String.append_assoc, String.append_right_inj] at h
  obtain ⟨htable, h⟩ := Text.selfDelimiting_quoted h
  obtain ⟨hstart, h⟩ := Text.selfDelimiting_quotedBytes ((String.append_right_inj _).mp h)
  obtain ⟨hstop, h⟩ := Text.selfDelimiting_quotedBytes ((String.append_right_inj _).mp h)
  obtain ⟨hfilter, h⟩ := selfDelimiting_filterShown ((String.append_right_inj _).mp h)
  refine ⟨?_, (String.append_right_inj _).mp h⟩
  calc s = ⟨s.table, ⟨s.range.start, s.range.stop⟩, s.filter⟩ := rfl
    _ = t := by rw [htable, hstart, hstop, hfilter]

/-- **Digests identify scans**: nodes have one digest iff they have one scan, with its table, its
bounds and its filter, and the same columns. No filter and the empty filter are told apart. -/
theorem PlanNode.digest_eq_iff (n m : PlanNode) :
    n.digest = m.digest ↔ n.scan = m.scan ∧ n.columns = m.columns := by
  constructor
  · intro h
    unfold digest at h
    simp only [String.append_assoc, String.append_right_inj] at h
    obtain ⟨hscan, h⟩ := Scan.selfDelimiting_shown h
    have hmark : ¬ Text.IsQuote ']' := by
      unfold Text.IsQuote
      decide
    have hlist := Text.selfDelimiting_quoted.bracketed (Text.startsUnlike_quoted hmark)
    obtain ⟨hcolumns, -⟩ := hlist ((String.append_right_inj _).mp h)
    exact ⟨hscan, hcolumns⟩
  · rintro ⟨hscan, hcolumns⟩
    unfold digest
    rw [hscan, hcolumns]

end Keyspan
