import Keyspan.Layout.Balance
import Mathlib.Algebra.BigOperators.Group.Finset.Basic
import Mathlib.Tactic.Ring

/-!
# What the slots of a layout hold

Placing and moving partitions are seen through `Layout.slotAt`, the partitions of one slot. A
`tally` adds up a value of every slot: the number of partitions, its square, how often a partition
occurs. Each operation changes one or two slots, so one law per operation says what it does to
every tally, and everything that is counted in this development is a tally.

Results:
* `slotAt_put`, `slotAt_shift`: what placing and moving do to the slots.
* `moveLast_eq`: a move between two slots that are there is a `shift`.
* `tally_put`, `tally_shift`: what they do to a sum over all slots.
* `flatten_put_perm`, `flatten_shift_perm`: placing adds one partition, moving adds and loses none.
-/

namespace Keyspan

open Finset (range)

/-! ## Sums over a range -/

theorem sum_range_const (n c : Nat) : ∑ _ ∈ range n, c = n * c := by
  rw [Finset.sum_const_nat fun _ _ => rfl, Finset.card_range]

theorem sum_range_change {f g : Nat → Nat} {n a : Nat} (ha : a < n)
    (h : ∀ i, i ≠ a → g i = f i) :
    ∑ i ∈ range n, g i + f a = ∑ i ∈ range n, f i + g a := by
  have hmem : a ∈ range n := Finset.mem_range.mpr ha
  have hrest : ∑ i ∈ (range n).erase a, g i = ∑ i ∈ (range n).erase a, f i :=
    Finset.sum_congr rfl fun i hi => h i (Finset.ne_of_mem_erase hi)
  rw [← Finset.add_sum_erase _ g hmem, ← Finset.add_sum_erase _ f hmem, hrest]
  omega

theorem sum_range_change_two {f g : Nat → Nat} {n a b : Nat} (ha : a < n) (hb : b < n)
    (hab : a ≠ b) (h : ∀ i, i ≠ a → i ≠ b → g i = f i) :
    ∑ i ∈ range n, g i + (f a + f b) = ∑ i ∈ range n, f i + (g a + g b) := by
  -- the sum in between has the new term at `a` and the old one at `b`
  let mid : Nat → Nat := fun i => if i = a then g a else f i
  have hfm := sum_range_change (f := f) (g := mid) ha fun i hi => if_neg hi
  have hmg := sum_range_change (f := mid) (g := g) hb fun i hi => by
    by_cases hia : i = a
    · rw [hia]
      exact (if_pos rfl).symm
    · exact (h i hia hi).trans (if_neg hia).symm
  have hma : mid a = g a := if_pos rfl
  have hmb : mid b = f b := if_neg (Ne.symm hab)
  omega

theorem drop_eq_cons {α : Type} {xs rest : List α} {first : Nat} {x : α}
    (h : xs.drop first = x :: rest) : xs[first]? = some x ∧ xs.drop (first + 1) = rest := by
  constructor
  · rw [← List.head?_drop, h]
    rfl
  · rw [← List.tail_drop, h]
    rfl

namespace Layout

/-! ## The partitions of one slot -/

/-- The partitions of a slot, in order of placement; none if there is no such slot. -/
def slotAt (l : Layout) (slot : Nat) : List Nat := l.slots[slot]?.getD []

/-- The layout without the partition placed last in a slot. -/
def dropLast (l : Layout) (slot : Nat) : Layout :=
  { l with slots := l.slots.modify slot List.dropLast }

/-- **The layout after a move**: the donor without its last partition, the receiver with it. -/
def shift (l : Layout) (donor receiver p : Nat) : Layout := (l.dropLast donor).put receiver p

theorem length_slotAt (l : Layout) (slot : Nat) : (l.slotAt slot).length = l.countAt slot := rfl

theorem slotAt_of_size_le {l : Layout} {slot : Nat} (h : l.size ≤ slot) : l.slotAt slot = [] := by
  unfold slotAt
  rw [List.getElem?_eq_none h]
  rfl

theorem lt_size_of_mem {l : Layout} {slot p : Nat} (h : p ∈ l.slotAt slot) : slot < l.size := by
  by_contra hge
  rw [slotAt_of_size_le (Nat.le_of_not_lt hge)] at h
  exact List.not_mem_nil h

theorem getElem?_eq_slotAt {l : Layout} {slot : Nat} (h : slot < l.size) :
    l.slots[slot]? = some (l.slotAt slot) := by
  unfold slotAt
  rw [List.getElem?_eq_getElem h]
  rfl

theorem mem_flatten_of_mem {l : Layout} {slot p : Nat} (h : p ∈ l.slotAt slot) :
    p ∈ l.slots.flatten :=
  List.mem_flatten.mpr
    ⟨_, List.mem_of_getElem? (getElem?_eq_slotAt (lt_size_of_mem h)), h⟩

@[simp] theorem size_dropLast (l : Layout) (slot : Nat) : (l.dropLast slot).size = l.size :=
  List.length_modify _ _ _

@[simp] theorem size_shift (l : Layout) (donor receiver p : Nat) :
    (l.shift donor receiver p).size = l.size := by
  unfold shift
  rw [size_put, size_dropLast]

theorem slotAt_put {l : Layout} {slot : Nat} (h : slot < l.size) (p other : Nat) :
    (l.put slot p).slotAt other =
      if other = slot then l.slotAt other ++ [p] else l.slotAt other := by
  unfold slotAt put
  dsimp only
  rw [List.getElem?_modify]
  by_cases hs : other = slot
  · subst hs
    rw [if_pos rfl, List.getElem?_eq_getElem h]
    simp
  · simp [hs, Ne.symm hs]

theorem slotAt_dropLast (l : Layout) (slot other : Nat) :
    (l.dropLast slot).slotAt other =
      if other = slot then (l.slotAt other).dropLast else l.slotAt other := by
  unfold slotAt dropLast
  dsimp only
  rw [List.getElem?_modify]
  by_cases hs : other = slot
  · subst hs
    cases l.slots[other]? <;> simp
  · simp [hs, Ne.symm hs]

/-- **What a move does to the slots.** -/
theorem slotAt_shift {l : Layout} {donor receiver : Nat} (hr : receiver < l.size)
    (hne : donor ≠ receiver) (p other : Nat) :
    (l.shift donor receiver p).slotAt other =
      if other = donor then (l.slotAt donor).dropLast
      else if other = receiver then l.slotAt receiver ++ [p]
      else l.slotAt other := by
  unfold shift
  rw [slotAt_put (by rw [size_dropLast]; exact hr), slotAt_dropLast]
  by_cases hd : other = donor
  · rw [hd, if_pos rfl, if_pos rfl, if_neg hne]
  · rw [if_neg hd, if_neg hd]
    by_cases hs : other = receiver
    · rw [hs, if_pos rfl]
    · rw [if_neg hs, if_neg hs]

theorem countAt_shift {l : Layout} {donor receiver : Nat} (hr : receiver < l.size)
    (hne : donor ≠ receiver) (p other : Nat) :
    (l.shift donor receiver p).countAt other =
      if other = donor then l.countAt donor - 1
      else if other = receiver then l.countAt receiver + 1
      else l.countAt other := by
  rw [← length_slotAt, slotAt_shift hr hne]
  split
  · exact List.length_dropLast
  · split
    · exact List.length_append
    · rfl

/-- **A move between two slots that are there is a shift.** -/
theorem moveLast_eq {l : Layout} {donor receiver p : Nat}
    (hp : (l.slotAt donor).getLast? = some p) (hr : receiver < l.size) :
    l.moveLast donor receiver = (l.shift donor receiver p, .ok p) := by
  have hd : donor < l.size := lt_size_of_mem (List.mem_of_getLast? hp)
  unfold moveLast
  rw [getElem?_eq_slotAt hd]
  dsimp only
  rw [hp]
  dsimp only
  rw [if_pos hr]
  have hset : l.slots.set donor (l.slotAt donor).dropLast = l.slots.modify donor List.dropLast := by
    rw [List.modify_eq_set_getElem?, getElem?_eq_slotAt hd]
    rfl
  unfold shift dropLast
  rw [hset]

/-! ## Adding up over the slots -/

/-- **A sum over all slots**: each gives a value that depends on its number and its partitions. -/
def tally (l : Layout) (value : Nat → List Nat → Nat) : Nat :=
  ∑ slot ∈ range l.size, value slot (l.slotAt slot)

theorem tally_put {l : Layout} {slot : Nat} (h : slot < l.size) (p : Nat)
    (value : Nat → List Nat → Nat) :
    (l.put slot p).tally value + value slot (l.slotAt slot) =
      l.tally value + value slot (l.slotAt slot ++ [p]) := by
  unfold tally
  rw [size_put]
  have hchange := sum_range_change (f := fun i => value i (l.slotAt i))
    (g := fun i => value i ((l.put slot p).slotAt i)) h fun i hi => by
      rw [slotAt_put h, if_neg hi]
  have hself : (l.put slot p).slotAt slot = l.slotAt slot ++ [p] := by
    rw [slotAt_put h, if_pos rfl]
  rwa [hself] at hchange

theorem tally_shift {l : Layout} {donor receiver : Nat} (hd : donor < l.size)
    (hr : receiver < l.size) (hne : donor ≠ receiver) (p : Nat)
    (value : Nat → List Nat → Nat) :
    (l.shift donor receiver p).tally value +
        (value donor (l.slotAt donor) + value receiver (l.slotAt receiver)) =
      l.tally value +
        (value donor (l.slotAt donor).dropLast + value receiver (l.slotAt receiver ++ [p])) := by
  unfold tally
  rw [size_shift]
  have hchange := sum_range_change_two (f := fun i => value i (l.slotAt i))
    (g := fun i => value i ((l.shift donor receiver p).slotAt i)) hd hr hne fun i hid hir => by
      rw [slotAt_shift hr hne, if_neg hid, if_neg hir]
  have hdonor : (l.shift donor receiver p).slotAt donor = (l.slotAt donor).dropLast := by
    rw [slotAt_shift hr hne, if_pos rfl]
  have hreceiver : (l.shift donor receiver p).slotAt receiver = l.slotAt receiver ++ [p] := by
    rw [slotAt_shift hr hne, if_neg (Ne.symm hne), if_pos rfl]
  rwa [hdonor, hreceiver] at hchange

/-- A value that does not depend on the number of the slot adds up along the list of slots. -/
theorem tally_eq_sum (l : Layout) (value : List Nat → Nat) :
    l.tally (fun _ ps => value ps) = (l.slots.map value).sum := by
  unfold tally slotAt size
  induction l.slots with
  | nil => rfl
  | cons ps rest ih =>
    rw [List.length_cons, Finset.sum_range_succ', List.map_cons, List.sum_cons, ← ih]
    simp only [List.getElem?_cons_succ, List.getElem?_cons_zero, Option.getD_some]
    omega

theorem sum_countAt (l : Layout) :
    ∑ slot ∈ range l.size, l.countAt slot = l.slots.flatten.length := by
  rw [List.length_flatten]
  exact tally_eq_sum l List.length

theorem count_flatten (l : Layout) (p : Nat) :
    l.slots.flatten.count p = l.tally fun _ ps => ps.count p := by
  rw [List.count_flatten, tally_eq_sum]

theorem flatten_put_perm {l : Layout} {slot : Nat} (h : slot < l.size) (p : Nat) :
    (l.put slot p).slots.flatten.Perm (p :: l.slots.flatten) := by
  refine List.perm_iff_count.mpr fun x => ?_
  have htally := tally_put h p fun _ ps => ps.count x
  rw [List.count_append] at htally
  rw [List.count_cons, count_flatten, count_flatten]
  rw [List.count_singleton] at htally
  omega

/-- **Moving adds and loses no partition.** -/
theorem flatten_shift_perm {l : Layout} {donor receiver p : Nat}
    (hp : (l.slotAt donor).getLast? = some p) (hd : donor < l.size) (hr : receiver < l.size)
    (hne : donor ≠ receiver) :
    (l.shift donor receiver p).slots.flatten.Perm l.slots.flatten := by
  refine List.perm_iff_count.mpr fun x => ?_
  have htally := tally_shift hd hr hne p fun _ ps => ps.count x
  have hsplit : l.slotAt donor = (l.slotAt donor).dropLast ++ [p] :=
    (List.dropLast_append_getLast? p hp).symm
  have hdonor : (l.slotAt donor).count x = (l.slotAt donor).dropLast.count x + [p].count x := by
    rw [← List.count_append, ← hsplit]
  rw [List.count_append] at htally
  rw [count_flatten, count_flatten]
  omega

/-! ## Energy -/

theorem energy_eq (l : Layout) : l.energy = l.tally fun _ ps => ps.length * ps.length := by
  rw [tally_eq_sum]
  unfold energy counts
  rw [List.foldl_map, List.sum_eq_foldl, List.foldl_map]

/-- **A move from a fuller slot to an emptier one lowers the energy**, unless the two only swap
their counts by it. -/
theorem energy_shift_lt {l : Layout} {donor receiver p : Nat} (hd : donor < l.size)
    (hr : receiver < l.size) (hgap : l.countAt receiver + 1 < l.countAt donor) :
    (l.shift donor receiver p).energy < l.energy := by
  have hne : donor ≠ receiver := by
    rintro rfl
    omega
  have htally := tally_shift hd hr hne p fun _ ps => ps.length * ps.length
  rw [← energy_eq, ← energy_eq, List.length_dropLast, List.length_append, List.length_singleton,
    length_slotAt, length_slotAt] at htally
  obtain ⟨d, hdonor⟩ := Nat.exists_eq_add_of_lt hgap
  rw [hdonor, Nat.add_sub_cancel] at htally
  have hsquares : (l.countAt receiver + 1 + d) * (l.countAt receiver + 1 + d) +
      (l.countAt receiver + 1) * (l.countAt receiver + 1) + 2 * (d + 1) =
      (l.countAt receiver + 1 + d + 1) * (l.countAt receiver + 1 + d + 1) +
        l.countAt receiver * l.countAt receiver := by
    ring
  omega

end Layout

end Keyspan
