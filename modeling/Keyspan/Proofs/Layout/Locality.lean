import Keyspan.Proofs.Layout.Filling
import Keyspan.Proofs.Layout.Homing
import Keyspan.Proofs.Layout.Settling

/-!
# How many partitions stay at home

A placed partition is *at home* when its host is the address of its slot. After the first phase
every placed partition is; filling drives none away, and a due move drives away one at most. So
all that can be lost is the number of moves, and what the slots of the first phase hold above a
bound limits both that number and what any other placement keeps at home.

Results:
* `Turns.atHome_eq`, `Fills.atHome_le`, `Settles.atHome_le`: what each phase keeps at home.
* `Fills.length_le`: after a filling there are no more moves than the first phase put above the
  bounds.
* `Turns.kept_add_excess_le`: a placement that gives every host no more than it has, and every
  slot what it gives, keeps no more at home than the first phase put below a bound, and what it
  gives above that bound.
-/

namespace Keyspan.Layout

open Finset (range)

/-! ## Partitions at home -/

/-- **How many placed partitions are at home.** -/
def atHome (l : Layout) : Nat :=
  l.tally fun slot ps => ps.countP fun p => decide (l.hostOf p = l.addressOf slot)

theorem atHome_eq (l l' : Layout) (hp : l'.partitions = l.partitions)
    (he : l'.endpoints = l.endpoints) :
    l'.atHome =
      l'.tally fun slot ps => ps.countP fun p => decide (l.hostOf p = l.addressOf slot) := by
  unfold atHome hostOf addressOf
  rw [hp, he]

theorem Turns.atHome_eq {l : Layout} (h : l.Turns) :
    l.atHome = ∑ slot ∈ range l.size, l.countAt slot := by
  unfold atHome tally
  refine Finset.sum_congr rfl fun slot _ => ?_
  exact List.countP_eq_length.mpr fun p hp => decide_eq_true (h.home slot p hp)

theorem atHome_le_put {l : Layout} {slot : Nat} (h : slot < l.size) (p : Nat) :
    l.atHome ≤ (l.put slot p).atHome := by
  have htally := tally_put h p
    fun slot ps => ps.countP fun p => decide (l.hostOf p = l.addressOf slot)
  rw [List.countP_append] at htally
  rw [atHome_eq l (l.put slot p) rfl rfl]
  unfold atHome
  omega

/-- **Filling drives no partition away.** -/
theorem Fills.atHome_le {cap : Nat} {l l' : Layout} {ps : List Nat} (h : Fills cap l ps l') :
    l.atHome ≤ l'.atHome := by
  induction h with
  | done => exact le_refl _
  | put h _ ih => exact (atHome_le_put h.there _).trans ih

/-- **A due move drives away one partition at most.** -/
theorem Due.atHome_le {l : Layout} {lower upper : Int} {m : Move} (h : l.Due lower upper m) :
    l.atHome ≤ (l.after m).atHome + 1 := by
  have htally := tally_shift h.donor.there h.receiver.there h.ne m.partition
    fun slot ps => ps.countP fun p => decide (l.hostOf p = l.addressOf slot)
  have hsplit : l.slotAt m.donor = (l.slotAt m.donor).dropLast ++ [m.partition] :=
    (List.dropLast_append_getLast? _ h.last).symm
  have hlast : [m.partition].countP (fun p => decide (l.hostOf p = l.addressOf m.donor)) ≤ 1 :=
    List.countP_le_length
  have hdonor := congrArg
    (List.countP fun p => decide (l.hostOf p = l.addressOf m.donor)) hsplit
  rw [List.countP_append] at htally hdonor
  rw [atHome_eq l (l.after m) rfl rfl]
  unfold atHome after
  omega

theorem Settles.atHome_le {lower upper : Int} {l l' : Layout} {ms : List Move}
    (h : Settles lower upper l ms l') : l.atHome ≤ l'.atHome + ms.length := by
  induction h with
  | rest _ => exact le_refl _
  | move hm _ ih =>
    have := hm.atHome_le
    rw [List.length_cons]
    omega

/-! ## What the first phase puts above a bound -/

/-- What is above a bound and what is missing below it make up for each other. -/
theorem excess_add (l : Layout) (bound : Nat) :
    l.excess bound + l.size * bound = l.slots.flatten.length + l.shortage bound := by
  rw [← sum_range_const, ← sum_countAt, excess_eq, shortage_eq, ← Finset.sum_add_distrib,
    ← Finset.sum_add_distrib]
  refine Finset.sum_congr rfl fun slot _ => ?_
  omega

/-- A bound that no slot was filled beyond has no more above it than before. -/
theorem excess_le_of_grown {l l' : Layout} {bound : Nat} (hsize : l'.size = l.size)
    (h : ∀ slot, slot < l'.size → l'.countAt slot = l.countAt slot ∨ l'.countAt slot ≤ bound) :
    l'.excess bound ≤ l.excess bound := by
  rw [excess_eq, excess_eq, ← hsize]
  refine Finset.sum_le_sum fun slot hs => ?_
  rcases h slot (Finset.mem_range.mp hs) with heq | hle
  · rw [heq]
  · rw [Nat.sub_eq_zero_of_le hle]
    exact Nat.zero_le _

/-- **After a filling, moves are no more than the first phase put above the bounds**: above the
upper one, or above the lower one beyond what all slots must hold above it anyway. -/
theorem Fills.length_le {lower upper : Nat} (hle : lower ≤ upper) {l filled l' : Layout}
    {ps : List Nat} {ms : List Move} (hf : Fills upper l ps filled)
    (hs : Settles lower upper filled ms l') :
    ms.length ≤ l.excess upper ∨
      ms.length + filled.slots.flatten.length ≤ l.excess lower + l.size * lower := by
  have hsize := hf.frame.1
  have hmoves := hs.length_le hle
  have hupper : filled.excess upper ≤ l.excess upper :=
    excess_le_of_grown hsize fun slot _ => (hf.grown_le slot).imp_right And.left
  by_cases hunder : ∃ other, other < filled.size ∧ filled.countAt other < lower
  · -- a slot that lacks something kept every slot that was given partitions at the lower bound
    obtain ⟨other, ho, hlt⟩ := hunder
    have hlower : filled.excess lower ≤ l.excess lower :=
      excess_le_of_grown hsize fun slot _ => (hf.grown_le slot).imp_right fun hlevel => by
        have := hlevel.2 other ho (Nat.lt_of_lt_of_le hlt hle)
        omega
    have hmakeup := filled.excess_add lower
    rw [hsize] at hmakeup
    omega
  · refine Or.inl ?_
    have hnone : filled.shortage lower = 0 := shortage_eq_zero fun slot hslot => by
      by_contra hlt
      exact hunder ⟨slot, hslot, Nat.lt_of_not_le hlt⟩
    omega

/-! ## What any placement keeps -/

/-- **No placement keeps more at home than the first phase put below a bound**, and what it gives
above that bound. The slots of one host are level: all of them hold at most the bound, and then
the host has no more partitions, or all of them hold at least the bound, and then each gives less
than that or above it. -/
theorem Turns.kept_add_excess_le {l : Layout} (h : l.Turns) {given kept : Nat → Nat}
    (hgiven : ∀ slot, kept slot ≤ given slot)
    (hkept : ∀ host, ∑ slot ∈ range l.size with l.addressOf slot = some host, kept slot ≤
      ∑ slot ∈ range l.size with l.addressOf slot = some host, l.countAt slot) (bound : Nat) :
    ∑ slot ∈ range l.size, kept slot + l.excess bound ≤
      ∑ slot ∈ range l.size, l.countAt slot + ∑ slot ∈ range l.size, (given slot - bound) := by
  have hhosts : ∀ slot ∈ range l.size, l.addressOf slot ∈ (range l.size).image l.addressOf :=
    fun slot hs => Finset.mem_image_of_mem _ hs
  rw [excess_eq, ← Finset.sum_add_distrib, ← Finset.sum_add_distrib,
    ← Finset.sum_fiberwise_of_maps_to hhosts, ← Finset.sum_fiberwise_of_maps_to hhosts]
  refine Finset.sum_le_sum fun address haddress => ?_
  obtain ⟨first, hfirst, rfl⟩ := Finset.mem_image.mp haddress
  obtain ⟨host, hhost⟩ := h.exists_addressOf (Finset.mem_range.mp hfirst)
  rw [hhost, Finset.sum_add_distrib, Finset.sum_add_distrib]
  by_cases habove : ∃ top, l.addressOf top = some host ∧ bound < l.countAt top
  · obtain ⟨top, htop, hlt⟩ := habove
    rw [← Finset.sum_add_distrib, ← Finset.sum_add_distrib]
    refine Finset.sum_le_sum fun slot hslot => ?_
    have hlevel := h.countAt_le htop (Finset.mem_filter.mp hslot).2
    have := hgiven slot
    omega
  · have hnone : ∑ slot ∈ range l.size with l.addressOf slot = some host,
        (l.countAt slot - bound) = 0 := Finset.sum_eq_zero fun slot hslot => by
      refine Nat.sub_eq_zero_of_le (Nat.le_of_not_lt fun hlt => ?_)
      exact habove ⟨slot, (Finset.mem_filter.mp hslot).2, hlt⟩
    rw [hnone]
    exact (hkept host).trans (Nat.le_add_right _ _)

end Keyspan.Layout
