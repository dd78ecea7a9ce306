import Keyspan.Assignment
import Keyspan.Proofs.KeyOrder
import Mathlib.Data.List.Nodup
import Mathlib.Data.Prod.Lex

/-!
# The order in which partitions are given does not matter

Partitions are sorted by start key and id. That is a linear order of their sort keys, and no two
partitions with distinct ids have one sort key, so a list of such partitions can be sorted in one
way only. An assignment looks at the sorted list and at nothing else.

Results:
* `Hosted.sort_eq_of_perm`: lists with the same partitions, no two of them with one id, are sorted
  into the same list.
* `assign_eq_of_perm`: they are assigned alike, with the same moves or the same failure.
-/

namespace Keyspan

namespace Hosted

/-! ## Sort keys -/

/-- **What partitions are sorted by**: the start key, then the id. -/
def sortKey (h : Hosted) : List Nat ×ₗ List Nat :=
  toLex (h.partition.range.start.codes, identCodes h.id)

theorem before_iff {a b : Hosted} : before a b = true ↔ a.sortKey < b.sortKey := by
  have hstart : (a.partition.range.start == b.partition.range.start) = true ↔
      a.partition.range.start.codes = b.partition.range.start.codes :=
    beq_iff_eq.trans ⟨congrArg Bytes.codes, Bytes.codes_injective⟩
  unfold before sortKey
  rw [Prod.Lex.toLex_lt_toLex, Bool.or_eq_true_iff, Bool.and_eq_true_iff, Bytes.lt_iff, hstart,
    identLT_iff]

theorem atMost_iff {a b : Hosted} : atMost a b = true ↔ a.sortKey ≤ b.sortKey := by
  unfold atMost
  rw [Bool.not_eq_true', ← Bool.not_eq_true, before_iff, not_lt]

theorem id_eq_of_sortKey_eq {a b : Hosted} (h : a.sortKey = b.sortKey) : a.id = b.id :=
  identCodes_injective (Prod.mk.inj (toLex.injective h)).2

/-! ## Sorted lists -/

theorem sort_sorted (hs : List Hosted) : (sort hs).Pairwise fun a b => atMost a b = true := by
  refine List.pairwise_mergeSort (fun a b c hab hbc => ?_) (fun a b => ?_) hs
  · rw [atMost_iff] at hab hbc ⊢
    exact hab.trans hbc
  · rw [Bool.or_eq_true_iff, atMost_iff, atMost_iff]
    exact le_total a.sortKey b.sortKey

/-- **Partitions with distinct ids can be sorted in one way only.** -/
theorem sort_eq_of_perm {hs hs' : List Hosted} (h : hs.Perm hs')
    (hnodup : (hs.map Hosted.id).Nodup) : sort hs = sort hs' := by
  have hperm : (sort hs).Perm (sort hs') := (sort_perm hs).trans (h.trans (sort_perm hs').symm)
  refine List.Perm.eq_of_pairwise (fun a b ha hb hab hba => ?_) (sort_sorted hs)
    (sort_sorted hs') hperm
  have hkey := le_antisymm (atMost_iff.mp hab) (atMost_iff.mp hba)
  have ha' := (sort_perm hs).mem_iff.mp ha
  have hb' := h.mem_iff.mpr ((sort_perm hs').mem_iff.mp hb)
  exact List.inj_on_of_nodup_map hnodup ha' hb' (id_eq_of_sortKey_eq hkey)

/-- **Partitions with distinct ids are sorted strictly**: no two of them have one sort key. -/
theorem sort_strict {hs : List Hosted} (hnodup : (hs.map Hosted.id).Nodup) :
    (sort hs).Pairwise fun a b => a.sortKey < b.sortKey := by
  have hids : (sort hs).Pairwise fun a b => a.id ≠ b.id :=
    List.pairwise_map.mp (((sort_perm hs).map Hosted.id).nodup_iff.mpr hnodup)
  refine ((sort_sorted hs).and hids).imp fun ⟨hle, hne⟩ => ?_
  exact (atMost_iff.mp hle).lt_of_ne fun hkey => hne (id_eq_of_sortKey_eq hkey)

end Hosted

/-- Whether partitions can be assigned does not depend on their order, nor does the reason why
they cannot, if no two of them have one id. -/
theorem Assignment.checkAssignable_eq_of_perm {partitions partitions' : List Hosted}
    (h : partitions.Perm partitions') (hnodup : (partitions.map Hosted.id).Nodup)
    (endpoints : List Endpoint) :
    checkAssignable partitions endpoints = checkAssignable partitions' endpoints := by
  have hnodup' : (partitions'.map Hosted.id).Nodup := (h.map Hosted.id).nodup_iff.mp hnodup
  unfold checkAssignable
  dsimp only
  rw [h.length_eq, if_pos hnodup, if_pos hnodup']

/-- **The order in which partitions are given does not matter**: as long as no two of them have
one id, the same partitions in another order are assigned alike, with the same moves reported in
the same order, or refused for the same reason. -/
theorem Scan.assign_eq_of_perm (s : Scan) {partitions partitions' : List Hosted}
    (h : partitions.Perm partitions') (hnodup : (partitions.map Hosted.id).Nodup)
    (endpoints : List Endpoint) :
    s.assign partitions endpoints = s.assign partitions' endpoints := by
  unfold assign
  rw [Assignment.checkAssignable_eq_of_perm h hnodup, Hosted.sort_eq_of_perm h hnodup,
    h.length_eq]

/-- Partitions with one start key, in both orders. -/
theorem Scan.assign_eq_of_perm_shared_start :
    let p : Hosted := ⟨⟨"p", "t", ⟨[5], []⟩⟩, ⟨"a", 1⟩⟩
    let q : Hosted := ⟨⟨"q", "t", ⟨[5], [7]⟩⟩, ⟨"b", 1⟩⟩
    assign ⟨"t", ⟨[], []⟩, none⟩ [q, p] [⟨"a", 0⟩, ⟨"c", 0⟩] =
      assign ⟨"t", ⟨[], []⟩, none⟩ [p, q] [⟨"a", 0⟩, ⟨"c", 0⟩] := by
  intro p q
  exact assign_eq_of_perm _ (List.Perm.swap p q []) (by decide) _

end Keyspan
