import Keyspan.Proofs.Layout.Settling

/-!
# No slot both gives and takes

A slot that has taken a partition is not above the upper bound, and while some slot is below the
lower bound it is not above that one either. So no due move takes from it: it is `Sated`. A slot
that has given a partition is `Spent` in the same way, and no due move gives to it. Both last. So
donors are never receivers, and what a move finds in its donor was there from the start.

Results:
* `Due.sated_receiver`, `Due.sated_after`, `Due.spent_donor`, `Due.spent_after`: what one due move
  does; `Settles.donor_ne_receiver`: no slot is a donor and a receiver of the same run.
* `Settles.foreseen`: every move takes a partition that its donor held at the start.
* `Settles.moved_once`: no partition is moved twice.
* `Settles.prefix_or_append`: in the end a slot has lost its last partitions, or has those behind
  its own that were moved into it.
-/

namespace Keyspan.Layout

variable {l l' : Layout} {lower upper : Int} {m m' : Move} {ms : List Move} {slot : Nat}

/-! ## Slots that have taken or given -/

/-- **A slot that gives no more.** -/
structure Sated (l : Layout) (lower upper : Int) (slot : Nat) : Prop where
  le_upper : (l.countAt slot : Int) ≤ upper
  le_lower : l.Underfull lower → (l.countAt slot : Int) ≤ lower

/-- **A slot that takes no more.** -/
structure Spent (l : Layout) (lower upper : Int) (slot : Nat) : Prop where
  lower_le : lower ≤ (l.countAt slot : Int)
  upper_le : l.Overfull upper → upper ≤ (l.countAt slot : Int)

namespace Due

theorem donor_ne_of_sated (h : l.Due lower upper m) (hs : l.Sated lower upper slot) :
    m.donor ≠ slot := by
  rintro rfl
  have habove := h.donor.above
  rcases h.outside with hunder | hover
  · have := hs.le_lower ⟨m.receiver, h.receiver.there, hunder⟩
    omega
  · have := hs.le_upper
    omega

theorem receiver_ne_of_spent (h : l.Due lower upper m) (hs : l.Spent lower upper slot) :
    m.receiver ≠ slot := by
  rintro rfl
  have hbelow := h.receiver.below
  rcases h.outside with hunder | hover
  · have := hs.lower_le
    omega
  · have := hs.upper_le ⟨m.donor, h.donor.there, hover⟩
    omega

theorem countAt_receiver_after (h : l.Due lower upper m) :
    (l.after m).countAt m.receiver = l.countAt m.receiver + 1 := by
  rw [h.countAt_after, if_neg h.ne.symm, if_pos rfl]

theorem countAt_donor_after (h : l.Due lower upper m) :
    (l.after m).countAt m.donor = l.countAt m.donor - 1 := by
  rw [h.countAt_after, if_pos rfl]

theorem countAt_other_after (h : l.Due lower upper m) (hd : slot ≠ m.donor)
    (hr : slot ≠ m.receiver) : (l.after m).countAt slot = l.countAt slot := by
  rw [h.countAt_after, if_neg hd, if_neg hr]

/-- **The receiver of a due move is sated.** -/
theorem sated_receiver (h : l.Due lower upper m) : (l.after m).Sated lower upper m.receiver := by
  have hbelow := h.receiver.below
  constructor
  · rw [h.countAt_receiver_after]
    omega
  · intro hunder
    obtain ⟨other, ho, hlt⟩ := h.underfull_of_after hunder
    rw [h.countAt_receiver_after]
    -- a slot that still lacks something holds no less than the receiver did
    by_cases hle : upper ≤ lower
    · omega
    · have := h.receiver.countAt_le ho (by omega)
      omega

theorem spent_donor (h : l.Due lower upper m) : (l.after m).Spent lower upper m.donor := by
  have habove := h.donor.above
  have hgap := h.gap
  constructor
  · rw [h.countAt_donor_after]
    omega
  · intro hover
    obtain ⟨other, ho, hgt⟩ := h.overfull_of_after hover
    rw [h.countAt_donor_after]
    -- a slot that still has too much holds no more than the donor did
    by_cases hle : upper ≤ lower
    · omega
    · have := h.donor.le_countAt ho (by omega)
      omega

theorem sated_after (h : l.Due lower upper m) (hs : l.Sated lower upper slot) :
    (l.after m).Sated lower upper slot := by
  have hd := h.donor_ne_of_sated hs
  by_cases hr : slot = m.receiver
  · exact hr ▸ h.sated_receiver
  · have hsame := h.countAt_other_after hd.symm hr
    exact ⟨hsame ▸ hs.le_upper, fun hunder => hsame ▸ hs.le_lower (h.underfull_of_after hunder)⟩

theorem spent_after (h : l.Due lower upper m) (hs : l.Spent lower upper slot) :
    (l.after m).Spent lower upper slot := by
  have hr := h.receiver_ne_of_spent hs
  by_cases hd : slot = m.donor
  · exact hd ▸ h.spent_donor
  · have hsame := h.countAt_other_after hd hr.symm
    exact ⟨hsame ▸ hs.lower_le, fun hover => hsame ▸ hs.upper_le (h.overfull_of_after hover)⟩

end Due

/-! ## Donors are no receivers -/

namespace Settles

/-- **What due moves keep and what follows from it for a due move** holds for all moves of a run. -/
theorem forall_of_kept {kept : Layout → Prop} {fine : Move → Prop}
    (h : Settles lower upper l ms l') (hstart : kept l)
    (hstep : ∀ {l : Layout} {m : Move}, l.Due lower upper m → kept l → fine m ∧ kept (l.after m)) :
    ∀ m ∈ ms, fine m := by
  induction h with
  | rest _ => exact List.forall_mem_nil _
  | move hdue _ ih =>
    obtain ⟨hfine, hkept⟩ := hstep hdue hstart
    exact List.forall_mem_cons.mpr ⟨hfine, ih hkept⟩

theorem donor_ne_of_sated (h : Settles lower upper l ms l') (hs : l.Sated lower upper slot) :
    ∀ m ∈ ms, m.donor ≠ slot :=
  h.forall_of_kept hs fun hdue hs => ⟨hdue.donor_ne_of_sated hs, hdue.sated_after hs⟩

theorem receiver_ne_of_spent (h : Settles lower upper l ms l') (hs : l.Spent lower upper slot) :
    ∀ m ∈ ms, m.receiver ≠ slot :=
  h.forall_of_kept hs fun hdue hs => ⟨hdue.receiver_ne_of_spent hs, hdue.spent_after hs⟩

/-- **No slot gives in one move and takes in another.** -/
theorem donor_ne_receiver (h : Settles lower upper l ms l') :
    ∀ m ∈ ms, ∀ m' ∈ ms, m.donor ≠ m'.receiver := by
  induction h with
  | rest _ => exact List.forall_mem_nil _
  | move hdue hrest ih =>
    intro m hm m' hm'
    rcases List.mem_cons.mp hm with rfl | hlater <;> rcases List.mem_cons.mp hm' with rfl | hlater'
    · exact hdue.ne
    · exact (hrest.receiver_ne_of_spent hdue.spent_donor m' hlater').symm
    · exact hrest.donor_ne_of_sated hdue.sated_receiver m hlater
    · exact ih m hlater m' hlater'

end Settles

/-! ## Moves as seen from the start -/

/-- **A move that can be foreseen**: its donor already holds the partition, and at least two
partitions more than the receiver, which is below the upper bound. -/
structure Foreseen (l : Layout) (upper : Int) (m : Move) : Prop where
  donor : m.donor < l.size
  receiver : m.receiver < l.size
  below : (l.countAt m.receiver : Int) < upper
  gap : l.countAt m.receiver + 1 < l.countAt m.donor
  held : m.partition ∈ l.slotAt m.donor

theorem Due.foreseen (h : l.Due lower upper m) : l.Foreseen upper m where
  donor := h.donor.there
  receiver := h.receiver.there
  below := h.receiver.below
  gap := h.gap
  held := List.mem_of_getLast? h.last

/-- What can be foreseen after a due move could be foreseen before it, if the two have no slot in
opposite roles. -/
theorem Due.foreseen_of_after (h : l.Due lower upper m) (hm : (l.after m).Foreseen upper m')
    (hdonor : m'.donor ≠ m.receiver) (hreceiver : m'.receiver ≠ m.donor) :
    l.Foreseen upper m' := by
  have hsize : (l.after m).size = l.size := size_shift l _ _ _
  have hfewer : (l.after m).countAt m'.donor ≤ l.countAt m'.donor := by
    rw [h.countAt_after, if_neg hdonor]
    split
    · rename_i heq
      rw [heq]
      exact Nat.sub_le _ _
    · exact le_refl _
  have hmore : l.countAt m'.receiver ≤ (l.after m).countAt m'.receiver := by
    rw [h.countAt_after, if_neg hreceiver]
    split
    · rename_i heq
      rw [heq]
      exact Nat.le_succ _
    · exact le_refl _
  have hbelow := hm.below
  have hgap := hm.gap
  refine ⟨hsize ▸ hm.donor, hsize ▸ hm.receiver, by omega, by omega, ?_⟩
  have hheld := hm.held
  rw [h.slotAt_after, if_neg hdonor] at hheld
  split at hheld
  · rename_i heq
    rw [heq]
    exact List.mem_of_mem_dropLast hheld
  · exact hheld

/-- **Every move can be foreseen from the start.** -/
theorem Settles.foreseen (h : Settles lower upper l ms l') : ∀ m ∈ ms, l.Foreseen upper m := by
  induction h with
  | rest _ => exact List.forall_mem_nil _
  | move hdue hrest ih =>
    refine List.forall_mem_cons.mpr ⟨hdue.foreseen, fun m hm => ?_⟩
    exact hdue.foreseen_of_after (ih m hm) (hrest.donor_ne_of_sated hdue.sated_receiver m hm)
      (hrest.receiver_ne_of_spent hdue.spent_donor m hm)

/-! ## No partition is moved twice -/

theorem slot_eq_of_mem (hnodup : l.slots.flatten.Nodup) {p a b : Nat} (ha : p ∈ l.slotAt a)
    (hb : p ∈ l.slotAt b) : a = b := by
  have hdisjoint := List.pairwise_iff_getElem.mp (List.nodup_flatten.mp hnodup).2
  have hslot : ∀ slot (hs : slot < l.slots.length), l.slotAt slot = l.slots[slot] :=
    fun slot hs => by
      unfold slotAt
      rw [List.getElem?_eq_getElem hs]
      rfl
  have ha' := lt_size_of_mem ha
  have hb' := lt_size_of_mem hb
  rw [hslot a ha'] at ha
  rw [hslot b hb'] at hb
  rcases Nat.lt_trichotomy a b with hlt | heq | hgt
  · exact absurd hb (hdisjoint a b ha' hb' hlt ha)
  · exact heq
  · exact absurd ha (hdisjoint b a hb' ha' hgt hb)

/-- **No partition is moved twice**: after its move it is in a slot that gives no more. -/
theorem Settles.moved_once (h : Settles lower upper l ms l') (hnodup : l.slots.flatten.Nodup) :
    (ms.map Move.partition).Nodup := by
  induction h with
  | rest _ => exact List.nodup_nil
  | @move l l' m ms hdue hrest ih =>
    have hnodup' : (l.after m).slots.flatten.Nodup := hdue.flatten_perm.nodup_iff.mpr hnodup
    rw [List.map_cons, List.nodup_cons]
    refine ⟨fun hmem => ?_, ih hnodup'⟩
    obtain ⟨m', hm', heq⟩ := List.mem_map.mp hmem
    have hheld := (hrest.foreseen m' hm').held
    have harrived : m.partition ∈ (l.after m).slotAt m.receiver := by
      rw [hdue.slotAt_after, if_neg hdue.ne.symm, if_pos rfl]
      exact List.mem_append_right _ (List.mem_singleton_self _)
    rw [heq] at hheld
    exact hrest.donor_ne_of_sated hdue.sated_receiver m' hm' (slot_eq_of_mem hnodup' hheld harrived)

/-! ## What the slots end up with -/

/-- The partitions that moves put into a slot, in order. -/
def movedInto (ms : List Move) (slot : Nat) : List Nat :=
  (ms.filter fun m => m.receiver == slot).map Move.partition

theorem movedInto_cons (m : Move) (ms : List Move) (slot : Nat) :
    movedInto (m :: ms) slot =
      (if slot = m.receiver then [m.partition] else []) ++ movedInto ms slot := by
  unfold movedInto
  by_cases h : slot = m.receiver
  · simp [h]
  · simp [h, Ne.symm h]

/-- **A slot that gives nothing** keeps what it holds and takes the partitions moved into it. -/
theorem Settles.slotAt_of_no_donor (h : Settles lower upper l ms l')
    (hs : ∀ m ∈ ms, m.donor ≠ slot) : l'.slotAt slot = l.slotAt slot ++ movedInto ms slot := by
  induction h with
  | rest _ => exact (List.append_nil _).symm
  | move hdue _ ih =>
    rw [List.forall_mem_cons] at hs
    rw [ih hs.2, hdue.slotAt_after, if_neg hs.1.symm, movedInto_cons, ← List.append_assoc]
    split
    · rename_i heq
      rw [heq]
    · rw [List.append_nil]

/-- **A slot that takes nothing** ends up with the first of its partitions. -/
theorem Settles.prefix_of_no_receiver (h : Settles lower upper l ms l')
    (hs : ∀ m ∈ ms, m.receiver ≠ slot) : l'.slotAt slot <+: l.slotAt slot := by
  induction h with
  | rest _ => exact List.prefix_refl _
  | move hdue _ ih =>
    rw [List.forall_mem_cons] at hs
    refine (ih hs.2).trans ?_
    rw [hdue.slotAt_after]
    split
    · rename_i heq
      rw [heq]
      exact List.dropLast_prefix _
    · rw [if_neg hs.1.symm]

/-- **A slot ends up with the first of its partitions, or with all of them and those moved into
it.** -/
theorem Settles.prefix_or_append (h : Settles lower upper l ms l') (slot : Nat) :
    l'.slotAt slot <+: l.slotAt slot ∨ l'.slotAt slot = l.slotAt slot ++ movedInto ms slot := by
  by_cases hgives : ∃ m ∈ ms, m.donor = slot
  · obtain ⟨m, hm, rfl⟩ := hgives
    exact Or.inl (h.prefix_of_no_receiver fun m' hm' => (h.donor_ne_receiver m hm m' hm').symm)
  · exact Or.inr (h.slotAt_of_no_donor fun m hm heq => hgives ⟨m, hm, heq⟩)

end Keyspan.Layout
