import Keyspan.Proofs.Layout.Tracking
import Mathlib.Algebra.BigOperators.Ring.Finset
import Mathlib.Algebra.Order.BigOperators.Group.Finset

/-!
# Due moves, until no move is due

A move is *due* when some slot can take, some slot can give, and one of the two is out of bounds;
it goes from the fullest of those that can give to the emptiest of those that can take. `Settles`
repeats due moves until none is left. It looks at the present counts alone: there are no queues
in it and no tickets that may be out of date.

Results:
* `Settles.perm`: no partition is lost or invented.
* `Settled.between`: a settled layout that is neither too full nor too empty as a whole has every
  slot within bounds; `Settled.upper_le`, `Settled.le_lower`: one that is too full or too empty has
  no slot below the upper or above the lower bound.
* `Settles.length_le`: the number of moves is at most the greater of what is above the upper bound
  and what is missing below the lower one.
-/

namespace Keyspan

open Finset (range)

namespace Layout

/-- Every partition that is placed is one of those to be assigned. -/
def Known (l : Layout) : Prop := ∀ p ∈ l.slots.flatten, p < l.partitions.length

/-- Some slot holds more than a bound. -/
def Overfull (l : Layout) (upper : Int) : Prop :=
  ∃ slot, slot < l.size ∧ upper < (l.countAt slot : Int)

/-- Some slot holds less than a bound. -/
def Underfull (l : Layout) (lower : Int) : Prop :=
  ∃ slot, slot < l.size ∧ (l.countAt slot : Int) < lower

/-- **A move that is due.** -/
structure Due (l : Layout) (lower upper : Int) (m : Move) : Prop where
  receiver : l.Emptiest upper m.receiver
  donor : l.Fullest lower m.donor
  outside : (l.countAt m.receiver : Int) < lower ∨ upper < (l.countAt m.donor : Int)
  last : (l.slotAt m.donor).getLast? = some m.partition

/-- **No move is due**: where a slot can take and another can give, both are within bounds. -/
def Settled (l : Layout) (lower upper : Int) : Prop :=
  ∀ taker giver, taker < l.size → giver < l.size → (l.countAt taker : Int) < upper →
    lower < (l.countAt giver : Int) →
    lower ≤ (l.countAt taker : Int) ∧ (l.countAt giver : Int) ≤ upper

/-- The layout after a move. -/
def after (l : Layout) (m : Move) : Layout := l.shift m.donor m.receiver m.partition

/-- **Due moves, one after another, until none is left.** -/
inductive Settles (lower upper : Int) : Layout → List Move → Layout → Prop
  | rest {l : Layout} (h : l.Settled lower upper) : Settles lower upper l [] l
  | move {l l' : Layout} {m : Move} {ms : List Move} (h : l.Due lower upper m)
      (hrest : Settles lower upper (l.after m) ms l') : Settles lower upper l (m :: ms) l'

/-! ## One due move -/

namespace Due

variable {l : Layout} {lower upper : Int} {m : Move}

/-- The donor has at least two partitions more than the receiver. -/
theorem gap (h : l.Due lower upper m) : l.countAt m.receiver + 1 < l.countAt m.donor := by
  have hr := h.receiver.below
  have hd := h.donor.above
  rcases h.outside with ho | ho <;> omega

theorem ne (h : l.Due lower upper m) : m.donor ≠ m.receiver := by
  intro heq
  have := h.gap
  rw [heq] at this
  omega

theorem slotAt_after (h : l.Due lower upper m) (slot : Nat) :
    (l.after m).slotAt slot =
      if slot = m.donor then (l.slotAt m.donor).dropLast
      else if slot = m.receiver then l.slotAt m.receiver ++ [m.partition]
      else l.slotAt slot :=
  slotAt_shift h.receiver.there h.ne m.partition slot

theorem countAt_after (h : l.Due lower upper m) (slot : Nat) :
    (l.after m).countAt slot =
      if slot = m.donor then l.countAt m.donor - 1
      else if slot = m.receiver then l.countAt m.receiver + 1
      else l.countAt slot :=
  countAt_shift h.receiver.there h.ne m.partition slot

theorem flatten_perm (h : l.Due lower upper m) :
    (l.after m).slots.flatten.Perm l.slots.flatten :=
  flatten_shift_perm h.last h.donor.there h.receiver.there h.ne

theorem known_after (h : l.Due lower upper m) (hk : l.Known) : (l.after m).Known :=
  fun p hp => hk p (h.flatten_perm.mem_iff.mp hp)

theorem energy_lt (h : l.Due lower upper m) : (l.after m).energy < l.energy :=
  energy_shift_lt h.donor.there h.receiver.there h.gap

/-- A due move pushes no slot above the upper bound. -/
theorem overfull_of_after (h : l.Due lower upper m) (ho : (l.after m).Overfull upper) :
    l.Overfull upper := by
  obtain ⟨slot, hs, hover⟩ := ho
  have hr := h.receiver.below
  rw [h.countAt_after] at hover
  split at hover
  · exact ⟨m.donor, h.donor.there, by omega⟩
  · split at hover
    · omega
    · exact ⟨slot, (size_shift l _ _ _) ▸ hs, hover⟩

theorem underfull_of_after (h : l.Due lower upper m) (hu : (l.after m).Underfull lower) :
    l.Underfull lower := by
  obtain ⟨slot, hs, hunder⟩ := hu
  have hd := h.donor.above
  rw [h.countAt_after] at hunder
  split at hunder
  · omega
  · split at hunder
    · exact ⟨m.receiver, h.receiver.there, by omega⟩
    · exact ⟨slot, (size_shift l _ _ _) ▸ hs, hunder⟩

end Due

/-! ## What holds at the end -/

namespace Settles

variable {lower upper : Int} {l l' : Layout} {ms : List Move}

theorem settled (h : Settles lower upper l ms l') : l'.Settled lower upper := by
  induction h with
  | rest h => exact h
  | move _ _ ih => exact ih

theorem perm (h : Settles lower upper l ms l') : l'.slots.flatten.Perm l.slots.flatten := by
  induction h with
  | rest _ => exact List.Perm.refl _
  | move hm _ ih => exact ih.trans hm.flatten_perm

theorem frame (h : Settles lower upper l ms l') :
    l'.size = l.size ∧ l'.partitions = l.partitions ∧ l'.endpoints = l.endpoints := by
  induction h with
  | rest _ => exact ⟨rfl, rfl, rfl⟩
  | move _ _ ih => exact ⟨ih.1.trans (size_shift _ _ _ _), ih.2⟩

end Settles

/-! ## Too many, too few or as many as the bounds allow -/

section Totals

variable {l : Layout} {lower upper bound : Int}

theorem sum_countAt_int (l : Layout) :
    ∑ slot ∈ range l.size, (l.countAt slot : Int) = l.slots.flatten.length := by
  rw [← sum_countAt, Nat.cast_sum]

theorem sum_bound (l : Layout) (bound : Int) : ∑ _ ∈ range l.size, bound = l.size * bound := by
  rw [Finset.sum_const, Finset.card_range, nsmul_eq_mul]

/-- More partitions than a bound allows for all slots are above it somewhere. -/
theorem overfull_of_lt (h : l.size * bound < l.slots.flatten.length) : l.Overfull bound := by
  rw [← sum_bound, ← sum_countAt_int] at h
  obtain ⟨slot, hs, hlt⟩ := Finset.exists_lt_of_sum_lt h
  exact ⟨slot, Finset.mem_range.mp hs, hlt⟩

theorem underfull_of_lt (h : l.slots.flatten.length < l.size * bound) : l.Underfull bound := by
  rw [← sum_bound, ← sum_countAt_int] at h
  obtain ⟨slot, hs, hlt⟩ := Finset.exists_lt_of_sum_lt h
  exact ⟨slot, Finset.mem_range.mp hs, hlt⟩

/-- What one slot lacks, another has, if there are enough partitions. -/
theorem Underfull.overfull (h : l.Underfull bound)
    (henough : l.size * bound ≤ l.slots.flatten.length) : l.Overfull bound := by
  rw [← sum_bound, ← sum_countAt_int] at henough
  obtain ⟨slot, hs, hbelow⟩ := h
  by_contra hnone
  have hall : ∀ other ∈ range l.size, (l.countAt other : Int) ≤ bound := fun other ho =>
    not_lt.mp fun hgt => hnone ⟨other, Finset.mem_range.mp ho, hgt⟩
  exact absurd henough (not_le.mpr
    (Finset.sum_lt_sum hall ⟨slot, Finset.mem_range.mpr hs, hbelow⟩))

theorem Overfull.underfull (h : l.Overfull bound)
    (hroom : l.slots.flatten.length ≤ l.size * bound) : l.Underfull bound := by
  rw [← sum_bound, ← sum_countAt_int] at hroom
  obtain ⟨slot, hs, habove⟩ := h
  by_contra hnone
  have hall : ∀ other ∈ range l.size, bound ≤ (l.countAt other : Int) := fun other ho =>
    not_lt.mp fun hlt => hnone ⟨other, Finset.mem_range.mp ho, hlt⟩
  exact absurd hroom (not_le.mpr
    (Finset.sum_lt_sum hall ⟨slot, Finset.mem_range.mpr hs, habove⟩))

/-- **A settled layout is within bounds**, if its partitions are neither more nor fewer than the
bounds allow for all slots together. -/
theorem Settled.between (h : l.Settled lower upper) (hle : lower ≤ upper)
    (hmin : l.size * lower ≤ l.slots.flatten.length)
    (hmax : l.slots.flatten.length ≤ l.size * upper) {slot : Nat} (hs : slot < l.size) :
    lower ≤ l.countAt slot ∧ l.countAt slot ≤ upper := by
  constructor
  · by_contra hlt
    -- then some slot can give, and no move would be left only if this one had enough
    obtain ⟨giver, hg, habove⟩ := Underfull.overfull ⟨slot, hs, not_le.mp hlt⟩ hmin
    have := (h slot giver hs hg (by omega) habove).1
    omega
  · by_contra hgt
    -- then some slot can take, and no move would be left only if this one had no more
    obtain ⟨taker, ht, hbelow⟩ := Overfull.underfull ⟨slot, hs, not_le.mp hgt⟩ hmax
    have := (h taker slot ht hs hbelow (by omega)).2
    omega

/-- **A settled layout of too many partitions** has no slot below the upper bound. -/
theorem Settled.upper_le (h : l.Settled lower upper) (hle : lower ≤ upper)
    (hmany : l.size * upper < l.slots.flatten.length) {slot : Nat} (hs : slot < l.size) :
    upper ≤ l.countAt slot := by
  obtain ⟨giver, hg, hover⟩ := overfull_of_lt hmany
  by_contra hlt
  have := (h slot giver hs hg (by omega) (by omega)).2
  omega

theorem Settled.le_lower (h : l.Settled lower upper) (hle : lower ≤ upper)
    (hfew : l.slots.flatten.length < l.size * lower) {slot : Nat} (hs : slot < l.size) :
    l.countAt slot ≤ lower := by
  obtain ⟨taker, ht, hunder⟩ := underfull_of_lt hfew
  by_contra hgt
  have := (h taker slot ht hs (by omega) (by omega)).1
  omega

end Totals

theorem Settled.within {l : Layout} {lower upper : Nat} (h : l.Settled lower upper)
    (hle : lower ≤ upper) (hmin : l.size * lower ≤ l.slots.flatten.length)
    (hmax : l.slots.flatten.length ≤ l.size * upper) {slot : Nat} (hs : slot < l.size) :
    lower ≤ l.countAt slot ∧ l.countAt slot ≤ upper := by
  have hbetween := h.between (by omega) (by exact_mod_cast hmin) (by exact_mod_cast hmax) hs
  omega

/-! ## How many moves there are -/

/-- What the slots hold above a bound, added up. -/
def excess (l : Layout) (upper : Nat) : Nat := l.tally fun _ ps => ps.length - upper

/-- What the slots lack below a bound, added up. -/
def shortage (l : Layout) (lower : Nat) : Nat := l.tally fun _ ps => lower - ps.length

theorem excess_eq (l : Layout) (upper : Nat) :
    l.excess upper = ∑ slot ∈ range l.size, (l.countAt slot - upper) := rfl

theorem shortage_eq (l : Layout) (lower : Nat) :
    l.shortage lower = ∑ slot ∈ range l.size, (lower - l.countAt slot) := rfl

theorem excess_eq_zero {l : Layout} {upper : Nat}
    (h : ∀ slot, slot < l.size → l.countAt slot ≤ upper) : l.excess upper = 0 :=
  Finset.sum_eq_zero fun slot hs => Nat.sub_eq_zero_of_le (h slot (Finset.mem_range.mp hs))

theorem shortage_eq_zero {l : Layout} {lower : Nat}
    (h : ∀ slot, slot < l.size → lower ≤ l.countAt slot) : l.shortage lower = 0 :=
  Finset.sum_eq_zero fun slot hs => Nat.sub_eq_zero_of_le (h slot (Finset.mem_range.mp hs))

/-- **A due move lowers the excess by one**, if there is any. -/
theorem Due.excess_after {l : Layout} {lower upper : Nat} {m : Move}
    (h : l.Due lower upper m) (hle : lower ≤ upper) :
    (l.after m).excess upper + 1 = l.excess upper ∨
      l.countAt m.donor ≤ upper ∧ (l.after m).excess upper = 0 := by
  have hr := h.receiver.below
  have hd := h.donor.above
  by_cases hover : upper < l.countAt m.donor
  · have htally := tally_shift h.donor.there h.receiver.there h.ne m.partition
      fun _ ps => ps.length - upper
    simp only [List.length_dropLast, List.length_append, List.length_singleton,
      length_slotAt] at htally
    have hafter : (l.after m).excess upper =
      (l.shift m.donor m.receiver m.partition).tally fun _ ps => ps.length - upper := rfl
    have hbefore : l.excess upper = l.tally fun _ ps => ps.length - upper := rfl
    omega
  · refine Or.inr ⟨by omega, excess_eq_zero fun slot hs => ?_⟩
    have hs' : slot < l.size := (size_shift l _ _ _) ▸ hs
    rw [h.countAt_after]
    split
    · omega
    · split
      · omega
      · by_contra hgt
        have := h.donor.le_countAt hs' (by omega)
        omega

theorem Due.shortage_after {l : Layout} {lower upper : Nat} {m : Move}
    (h : l.Due lower upper m) :
    (l.after m).shortage lower + 1 = l.shortage lower ∨
      lower ≤ l.countAt m.receiver ∧ (l.after m).shortage lower = 0 := by
  have hr := h.receiver.below
  have hd := h.donor.above
  by_cases hunder : l.countAt m.receiver < lower
  · have htally := tally_shift h.donor.there h.receiver.there h.ne m.partition
      fun _ ps => lower - ps.length
    simp only [List.length_dropLast, List.length_append, List.length_singleton,
      length_slotAt] at htally
    have hafter : (l.after m).shortage lower =
      (l.shift m.donor m.receiver m.partition).tally fun _ ps => lower - ps.length := rfl
    have hbefore : l.shortage lower = l.tally fun _ ps => lower - ps.length := rfl
    omega
  · refine Or.inr ⟨by omega, shortage_eq_zero fun slot hs => ?_⟩
    have hs' : slot < l.size := (size_shift l _ _ _) ▸ hs
    rw [h.countAt_after]
    split
    · omega
    · split
      · omega
      · by_contra hlt
        have := h.receiver.countAt_le hs' (by omega)
        omega

/-- **Moves are few**: each lowers both the excess and the shortage, as long as there is any. -/
theorem Settles.length_le {lower upper : Nat} (hle : lower ≤ upper) {l l' : Layout}
    {ms : List Move} (h : Settles lower upper l ms l') :
    ms.length ≤ max (l.excess upper) (l.shortage lower) := by
  induction h with
  | rest _ => exact Nat.zero_le _
  | move hm _ ih =>
    have hout := hm.outside
    rw [List.length_cons]
    rcases hm.excess_after hle with he | ⟨he, he'⟩ <;>
      rcases hm.shortage_after with hs | ⟨hs, hs'⟩ <;> omega

end Layout

end Keyspan
