import Keyspan.Proofs.Assignment.Course
import Keyspan.Proofs.Layout.Locality
import Mathlib.Algebra.BigOperators.Fin

/-!
# Assignments keep as much local as can be

A fragment is *local* when it runs on a slot whose endpoint is at its own host. Any placement of
the partitions on the slots gives every host no more than it has; as the first phase keeps the
slots of a host level, it has put as much below each bound as any placement could, and the moves
of the last phase are no more than what is above.

Results:
* `Course.sum_kept_le`: a placement within the bounds keeps no more partitions at home than the
  course of an assignment does.
* `assign_local_optimal`: no placement within the bounds has more local partitions than the
  assignment has local fragments.
-/

namespace Keyspan

open Finset (range)
open Assignment (leastPerSlot greatestPerSlot checkAssignable)

theorem sum_countP_place {α : Type} {place : α → Nat} {n : Nat} (h : ∀ x, place x < n)
    (wanted : α → Bool) (xs : List α) :
    ∑ slot ∈ range n, xs.countP (fun x => wanted x && place x == slot) = xs.countP wanted := by
  induction xs with
  | nil => exact Finset.sum_const_zero
  | cons x xs ih =>
    have hx : place x ∈ range n := Finset.mem_range.mpr (h x)
    simp only [List.countP_cons, Finset.sum_add_distrib, ih]
    cases wanted x <;> simp [hx, Finset.sum_ite_eq]

namespace Assignment

/-- **How many fragments are local**: the endpoint of their slot is at their own host. -/
def localTo (a : Assignment) (endpoints : List Endpoint) : Nat :=
  ∑ slot : Fin endpoints.length,
    (a.slots[slot.val]?.getD []).countP fun f => f.host == endpoints[slot].address

end Assignment

namespace Layout

/-- **The local fragments are those of the partitions at home.** -/
theorem localTo_fragments {l : Layout} (hsize : l.size = l.endpoints.length) (s : Scan) :
    (⟨l.fragments s⟩ : Assignment).localTo l.endpoints = l.atHome := by
  unfold Assignment.localTo atHome tally
  rw [hsize, Finset.sum_range]
  refine Finset.sum_congr rfl fun slot _ => ?_
  have hslot : (l.fragments s)[slot.val]? = some ((l.slotAt slot).filterMap (l.fragment? s)) := by
    unfold fragments
    rw [List.getElem?_map, getElem?_eq_slotAt (hsize.symm ▸ slot.isLt)]
    rfl
  have haddress : l.addressOf slot = some l.endpoints[slot].address := by
    unfold addressOf
    rw [List.getElem?_eq_getElem slot.isLt]
    rfl
  dsimp only
  rw [hslot, haddress, Option.getD_some, List.countP_filterMap]
  refine List.countP_congr fun p _ => ?_
  unfold fragment? hostOf
  cases l.partitions[p]? <;> simp [Scan.fragment]

/-- **The first phase places all partitions of a host that has a slot.** -/
theorem Homed.sum_countAt_host {partitions : List Hosted} {endpoints : List Endpoint}
    {home : Layout} {placed : List Nat}
    (h : Homed (ofEndpoints partitions endpoints) (List.range partitions.length) home placed)
    {slot : Nat} {host : String} (hslot : home.addressOf slot = some host) :
    ∑ slot ∈ range home.size with home.addressOf slot = some host, home.countAt slot =
      partitions.countP fun x => x.host == host := by
  have hpartitions : home.partitions = partitions := h.partitions
  have hall : (List.range partitions.length).countP
      (fun p => decide (home.hostOf p = some host)) =
        partitions.countP fun x => x.host == host := by
    conv_rhs => rw [← filterMap_getElem?_range partitions, List.countP_filterMap]
    refine List.countP_congr fun p _ => ?_
    unfold hostOf
    rw [hpartitions]
    cases partitions[p]? <;> simp
  have hleft : (home.unresolved placed).countP
      (fun p => decide (home.hostOf p = some host)) = 0 := by
    refine List.countP_eq_zero.mpr fun p hp hhost => ?_
    obtain ⟨x, hx, hxhost⟩ := Option.map_eq_some_iff.mp (of_decide_eq_true hhost)
    obtain ⟨hmem, hunplaced⟩ := List.mem_filter.mp hp
    -- the host has a slot, so the first phase placed the partition
    have hhome : home.hasHome p = true := by
      refine (h.turns.hasHome_iff hx).mpr (List.ne_nil_of_mem ((h.turns.slots _ slot).mpr ?_))
      rw [hslot, hxhost]
    have hplaced : p ∈ placed := by
      rw [h.chosen]
      refine List.mem_filter.mpr ⟨hpartitions ▸ hmem, ?_⟩
      unfold hasHome at hhome ⊢
      rw [h.partitions, h.endpoints] at hhome
      exact hhome
    rw [List.contains_iff_mem.mpr hplaced] at hunplaced
    exact nomatch hunplaced
  have hperm := h.perm_range.countP_eq fun p => decide (home.hostOf p = some host)
  rw [List.countP_append, hleft, hall, Nat.zero_add] at hperm
  exact (h.turns.sum_countAt_host host).trans hperm

/-- **A placement within the bounds keeps no more at home than an assignment does.** What it gives
to each slot, and what of that it keeps at home, is told by numbers. -/
theorem Course.sum_kept_le {partitions : List Hosted} {endpoints : List Endpoint}
    {home filled final : Layout} {placed : List Nat} {moves : List Move}
    (h : Course partitions endpoints home placed filled moves final)
    (hn : 0 < endpoints.length) {given kept : Nat → Nat} (hkept : ∀ slot, kept slot ≤ given slot)
    (hhost : ∀ host, ∑ slot ∈ range home.size with home.addressOf slot = some host, kept slot ≤
      partitions.countP fun x => x.host == host)
    (htotal : ∑ slot ∈ range endpoints.length, given slot = partitions.length)
    (hbounds : ∀ slot, slot < endpoints.length →
      leastPerSlot partitions.length endpoints.length ≤ given slot ∧
        given slot ≤ greatestPerSlot partitions.length endpoints.length) :
    ∑ slot ∈ range endpoints.length, kept slot ≤ final.atHome := by
  have hsize := h.size_home
  have hplaced : filled.slots.flatten.length = partitions.length := by
    rw [← h.settles.perm.length_eq, h.perm.length_eq, List.length_range]
  have hhome : ∀ host, ∑ slot ∈ range home.size with home.addressOf slot = some host, kept slot ≤
      ∑ slot ∈ range home.size with home.addressOf slot = some host, home.countAt slot := by
    intro host
    by_cases hslot : ∃ slot, home.addressOf slot = some host
    · obtain ⟨slot, hslot⟩ := hslot
      rw [h.homed.sum_countAt_host hslot]
      exact hhost host
    · rw [Finset.sum_eq_zero fun slot hs => absurd ⟨slot, (Finset.mem_filter.mp hs).2⟩ hslot]
      exact Nat.zero_le _
  have hbound := h.homed.turns.kept_add_excess_le hkept hhome
  have hmoves := h.fills.length_le (Assignment.leastPerSlot_le_greatestPerSlot hn) h.settles
  have hfilled := h.fills.atHome_le
  have hfinal := h.settles.atHome_le
  rw [h.homed.turns.atHome_eq] at hfilled
  rw [hsize] at hbound hmoves hfilled
  rcases hmoves with hmoves | hmoves
  · have hupper := hbound (greatestPerSlot partitions.length endpoints.length)
    have hnone : ∑ slot ∈ range endpoints.length,
        (given slot - greatestPerSlot partitions.length endpoints.length) = 0 :=
      Finset.sum_eq_zero fun slot hs =>
        Nat.sub_eq_zero_of_le (hbounds slot (Finset.mem_range.mp hs)).2
    omega
  · have hlower := hbound (leastPerSlot partitions.length endpoints.length)
    have hrest : ∑ slot ∈ range endpoints.length,
        (given slot - leastPerSlot partitions.length endpoints.length) +
          endpoints.length * leastPerSlot partitions.length endpoints.length =
            partitions.length := by
      rw [← sum_range_const, ← Finset.sum_add_distrib]
      refine (Finset.sum_congr rfl fun slot hs => ?_).trans htotal
      have := (hbounds slot (Finset.mem_range.mp hs)).1
      omega
    omega

/-- **No placement within the bounds keeps more at home than an assignment does.** -/
theorem Course.countP_place_le {partitions : List Hosted} {endpoints : List Endpoint}
    {home filled final : Layout} {placed : List Nat} {moves : List Move}
    (h : Course partitions endpoints home placed filled moves final)
    (hn : 0 < endpoints.length) {place : Hosted → Fin endpoints.length}
    (hplace : ∀ slot,
      leastPerSlot partitions.length endpoints.length ≤ partitions.countP (place · == slot) ∧
        partitions.countP (place · == slot) ≤
          greatestPerSlot partitions.length endpoints.length) :
    partitions.countP (fun x => x.host == endpoints[place x].address) ≤ final.atHome := by
  have hlt : ∀ x, (place x).val < endpoints.length := fun x => (place x).isLt
  have hkept : ∀ slot, partitions.countP
      (fun x => x.host == endpoints[place x].address && (place x).val == slot) ≤
        partitions.countP fun x => (place x).val == slot := fun slot =>
    List.countP_mono_left fun x _ hx => (Bool.and_eq_true_iff.mp hx).2
  rw [← sum_countP_place hlt]
  refine h.sum_kept_le hn hkept (fun host => ?_) ?_ fun slot hs => ?_
  · rw [h.size_home, ← sum_countP_place hlt (fun x => x.host == host)]
    refine (Finset.sum_le_sum fun slot hs => ?_).trans
      (Finset.sum_le_sum_of_subset (Finset.filter_subset _ _))
    refine List.countP_mono_left fun x _ hx => ?_
    obtain ⟨hx, hslot⟩ := Bool.and_eq_true_iff.mp hx
    have haddress := (Finset.mem_filter.mp hs).2
    unfold addressOf at haddress
    rw [h.homed.endpoints, ← beq_iff_eq.mp hslot] at haddress
    have hhost : endpoints[place x].address = host := by
      have hget : (ofEndpoints partitions endpoints).endpoints[(place x).val]? =
          some endpoints[place x] := List.getElem?_eq_getElem (hlt x)
      rw [hget] at haddress
      exact Option.some.inj haddress
    rw [hhost] at hx
    exact Bool.and_eq_true_iff.mpr ⟨hx, hslot⟩
  · have hall := sum_countP_place hlt (fun _ => true) partitions
    rw [List.countP_true] at hall
    exact hall
  · have hval : ∀ x, ((place x).val == slot) = (place x == ⟨slot, hs⟩) := fun x => by
      rw [Bool.eq_iff_iff, beq_iff_eq, beq_iff_eq, Fin.ext_iff]
    simp only [hval]
    exact hplace ⟨slot, hs⟩

end Layout

namespace Scan

/-- **Assignments are as local as assignments within the bounds can be.** However the partitions
are placed on the slots, if every slot is given its share, rounded down or up, then no more of
them are placed at their own host than the assignment has local fragments. -/
theorem assign_local_optimal (s : Scan) (partitions : List Hosted) (endpoints : List Endpoint)
    (hnodup : (partitions.map Hosted.id).Nodup) (hn : 0 < endpoints.length)
    (hle : endpoints.length ≤ partitions.length) :
    ∃ a, (s.assign partitions endpoints).outcome = .ok a ∧
      ∀ place : Hosted → Fin endpoints.length,
        (∀ slot, partitions.length / endpoints.length ≤ partitions.countP (place · == slot) ∧
          partitions.countP (place · == slot) ≤ partitions.length ⌈/⌉ endpoints.length) →
        partitions.countP (fun x => x.host == endpoints[place x].address) ≤
          a.localTo endpoints := by
  obtain ⟨home, placed, filled, moves, final, hcourse, heq⟩ := assign_eq_course s <|
    (Assignment.checkAssignable_eq_ok_iff _ _).mpr ⟨hn, hle, hnodup⟩
  refine ⟨_, by rw [heq], fun place hplace => ?_⟩
  obtain ⟨-, hendpoints, hsize⟩ := hcourse.frame
  have hlocal := Layout.localTo_fragments (hsize.trans (congrArg _ hendpoints.symm)) s
  rw [hendpoints] at hlocal
  have hperm := Hosted.sort_perm partitions
  rw [hlocal, ← hperm.countP_eq]
  refine hcourse.countP_place_le hn fun slot => ?_
  rw [hperm.countP_eq, hperm.length_eq, Assignment.greatestPerSlot_eq]
  exact hplace slot

/-- Two partitions whose hosts are both there, in the other order, are both local. -/
theorem assign_local_optimal_two_hosts :
    let partitions : List Hosted :=
      [⟨⟨"p", "t", ⟨[], [5]⟩⟩, ⟨"a", 1⟩⟩, ⟨⟨"q", "t", ⟨[5], []⟩⟩, ⟨"b", 1⟩⟩]
    let endpoints : List Endpoint := [⟨"b", 0⟩, ⟨"a", 0⟩]
    ∃ a, (assign ⟨"t", ⟨[], []⟩, none⟩ partitions endpoints).outcome = .ok a ∧
      2 ≤ a.localTo endpoints := by
  intro partitions endpoints
  obtain ⟨a, ha, hbest⟩ := assign_local_optimal ⟨"t", ⟨[], []⟩, none⟩ partitions endpoints
    (by decide) (by decide) (by decide)
  exact ⟨a, ha, hbest (fun x => if x.host = "a" then 1 else 0) (by decide)⟩

end Scan

end Keyspan
