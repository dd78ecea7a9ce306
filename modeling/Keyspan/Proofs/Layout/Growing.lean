import Keyspan.Proofs.Layout.Filling
import Keyspan.Proofs.Layout.Homing

/-!
# Partitions stand in the order in which they were placed

The first two phases take partitions one after another and put each at the end of a slot. So what a
slot is given stands there in the order in which it was taken, behind what was there before: the
slot grows by a part of the list of partitions that are placed. Both phases take them in ascending
order.

Results:
* `placeLocalFrom_extends`, `Fills.extends`: each phase extends the slots by what it places.
* `placeLocal_ascending`: after the first phase the partitions of every slot ascend.
* `Fills.ascending`: so do those that filling adds to a slot.
-/

namespace Keyspan.Layout

/-! ## Slots that grow -/

/-- **Every slot has grown by a part of the given list**, in the order of the list. -/
def Extends (l : Layout) (ps : List Nat) (l' : Layout) : Prop :=
  ∀ slot, ∃ added, added.Sublist ps ∧ l'.slotAt slot = l.slotAt slot ++ added

variable {l l' l'' : Layout} {ps qs : List Nat}

theorem Extends.refl (l : Layout) : l.Extends [] l := fun _ =>
  ⟨[], List.Sublist.refl [], (List.append_nil _).symm⟩

theorem Extends.trans (h : l.Extends ps l') (h' : l'.Extends qs l'') :
    l.Extends (ps ++ qs) l'' := by
  intro slot
  obtain ⟨added, hsub, hslot⟩ := h slot
  obtain ⟨added', hsub', hslot'⟩ := h' slot
  refine ⟨added ++ added', hsub.append hsub', ?_⟩
  rw [hslot', hslot, List.append_assoc]

theorem extends_put {slot : Nat} (h : slot < l.size) (p : Nat) : l.Extends [p] (l.put slot p) := by
  intro other
  rw [slotAt_put h]
  split
  · exact ⟨[p], List.Sublist.refl _, rfl⟩
  · exact ⟨[], List.nil_sublist _, (List.append_nil _).symm⟩

/-- Slots grow in ascending order by partitions that are placed in ascending order. -/
theorem Extends.ascending (h : l.Extends ps l') (hps : ps.Pairwise (· < ·)) (slot : Nat) :
    ∃ added, l'.slotAt slot = l.slotAt slot ++ added ∧ added.Pairwise (· < ·) ∧
      ∀ p ∈ added, p ∈ ps := by
  obtain ⟨added, hsub, hslot⟩ := h slot
  exact ⟨added, hslot, hps.sublist hsub, fun _ hp => hsub.subset hp⟩

/-! ## The first phase -/

theorem placeAtHome_extends (h : l.Turns) {p : Nat} {x : Hosted} (hp : l.partitions[p]? = some x) :
    l.Extends (if (l.placeAtHome p x).2 then [p] else []) (l.placeAtHome p x).1 := by
  unfold placeAtHome
  cases ht : l.rotations.takeTurn x.host with
  | none => exact Extends.refl l
  | some turn =>
    obtain ⟨slot, rotations⟩ := turn
    obtain ⟨-, hs, -⟩ := h.takeTurn hp ht
    exact extends_put hs p

theorem placeLocalFrom_extends (h : l.Turns) {first : Nat} {rest : List Hosted}
    (hrest : l.partitions.drop first = rest) :
    l.Extends (l.placeLocalFrom first rest).2 (l.placeLocalFrom first rest).1 := by
  induction rest generalizing l first with
  | nil => exact Extends.refl l
  | cons x rest ih =>
    obtain ⟨hx, htail⟩ := drop_eq_cons hrest
    have hone := placeAtHome_homed h hx
    rw [placeLocalFrom_cons]
    exact (placeAtHome_extends h hx).trans (ih hone.turns (by rw [hone.partitions]; exact htail))

/-- **After the first phase the partitions of every slot ascend.** -/
theorem placeLocal_ascending (partitions : List Hosted) (endpoints : List Endpoint) (slot : Nat) :
    ((ofEndpoints partitions endpoints).placeLocal.1.slotAt slot).Pairwise (· < ·) := by
  have hturns := ofEndpoints_turns partitions endpoints
  have hplaced : (ofEndpoints partitions endpoints).placeLocal.2.Pairwise (· < ·) := by
    rw [(placeLocal_homed hturns).chosen]
    exact List.pairwise_lt_range.filter _
  have hextends := placeLocalFrom_extends hturns
    (List.drop_zero : _ = (ofEndpoints partitions endpoints).partitions)
  obtain ⟨added, hslot, hascending, -⟩ := hextends.ascending hplaced slot
  rw [slotAt_ofEndpoints, List.nil_append] at hslot
  exact hslot ▸ hascending

/-! ## The second phase -/

theorem Fills.extends {cap : Nat} (h : Fills cap l ps l') : l.Extends ps l' := by
  induction h with
  | done => exact Extends.refl _
  | put h _ ih => exact (extends_put h.there _).trans ih

/-- **What filling adds to a slot ascends**, and is none of what was placed before. -/
theorem Fills.ascending {cap : Nat} {resolved : List Nat}
    (h : Fills cap l (l.unresolved resolved) l') (slot : Nat) :
    ∃ added, l'.slotAt slot = l.slotAt slot ++ added ∧ added.Pairwise (· < ·) ∧
      ∀ p ∈ added, p < l.partitions.length ∧ p ∉ resolved := by
  obtain ⟨added, hslot, hascending, hmem⟩ :=
    h.extends.ascending (List.pairwise_lt_range.filter _) slot
  refine ⟨added, hslot, hascending, fun p hp => ?_⟩
  have hleft := List.mem_filter.mp (hmem p hp)
  rw [List.mem_range, Bool.not_eq_true', ← Bool.not_eq_true, List.contains_iff_mem] at hleft
  exact hleft

end Keyspan.Layout
