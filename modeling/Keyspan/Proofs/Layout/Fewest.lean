import Keyspan.Proofs.Layout.Balancing

/-!
# Balancing makes the fewest moves

Whatever is moved, and from wherever to wherever, one move lowers what the slots hold above a bound
by one at most, and likewise what they lack below a bound. A due move lowers each of the two by one
as long as there is any of it. So due moves are as many as the greater of the two, and no moves that
lead to within the bounds are fewer.

* `Relocated`, `Relocates`: any move of one partition, and any moves in a row.
* `Within`: every slot is within bounds.

Results:
* `Relocates.excess_le`, `Relocates.shortage_le`: what moves in a row lower at most.
* `Settles.toNat`: bounds below zero make the same moves as zero.
* `balance_fewest`: balancing makes as many moves as the excess or the shortage asks for, and no
  moves that lead to within the bounds are fewer.
-/

namespace Keyspan.Layout

open Finset (range)

/-! ## Any moves -/

/-- **One partition goes from one slot to another**, wherever it stood in the one and wherever it is
put in the other. -/
structure Relocated (l : Layout) (m : Move) (l' : Layout) : Prop where
  size : l'.size = l.size
  slots : ∀ slot, ((if slot = m.donor then [m.partition] else []) ++ l'.slotAt slot).Perm
    ((if slot = m.receiver then [m.partition] else []) ++ l.slotAt slot)

/-- **Moves of any kind, one after another.** -/
inductive Relocates : Layout → List Move → Layout → Prop
  | rest {l : Layout} : Relocates l [] l
  | move {l l' last : Layout} {m : Move} {ms : List Move} (h : Relocated l m l')
      (hrest : Relocates l' ms last) : Relocates l (m :: ms) last

/-- Every slot is within bounds. -/
def Within (l : Layout) (lower upper : Int) : Prop :=
  ∀ slot, slot < l.size → lower ≤ l.countAt slot ∧ l.countAt slot ≤ upper

variable {l l' : Layout} {m : Move} {ms : List Move}

theorem Relocated.countAt (h : Relocated l m l') (slot : Nat) :
    l'.countAt slot + (if slot = m.donor then 1 else 0) =
      l.countAt slot + if slot = m.receiver then 1 else 0 := by
  have hlength := (h.slots slot).length_eq
  rw [List.length_append, List.length_append, length_slotAt, length_slotAt, apply_ite List.length,
    apply_ite List.length] at hlength
  rw [Nat.add_comm, Nat.add_comm (l.countAt slot)]
  exact hlength

/-- Terms that are no greater, but for one that is greater by one, add up to one more at most. -/
theorem sum_range_le_succ {f g : Nat → Nat} (n a : Nat)
    (h : ∀ i, f i ≤ g i + if i = a then 1 else 0) :
    ∑ i ∈ range n, f i ≤ ∑ i ∈ range n, g i + 1 := by
  have hone : ∑ i ∈ range n, (if i = a then 1 else 0) ≤ 1 := by
    rw [Finset.sum_ite_eq']
    split <;> omega
  calc ∑ i ∈ range n, f i
      ≤ ∑ i ∈ range n, (g i + if i = a then 1 else 0) := Finset.sum_le_sum fun i _ => h i
    _ = ∑ i ∈ range n, g i + ∑ i ∈ range n, (if i = a then 1 else 0) := Finset.sum_add_distrib
    _ ≤ ∑ i ∈ range n, g i + 1 := Nat.add_le_add_left hone _

/-- **Any move lowers the excess by one at most.** -/
theorem Relocated.excess_le (h : Relocated l m l') (upper : Nat) :
    l.excess upper ≤ l'.excess upper + 1 := by
  rw [excess_eq, excess_eq, h.size]
  refine sum_range_le_succ l.size m.donor fun slot => ?_
  have := h.countAt slot
  omega

theorem Relocated.shortage_le (h : Relocated l m l') (lower : Nat) :
    l.shortage lower ≤ l'.shortage lower + 1 := by
  rw [shortage_eq, shortage_eq, h.size]
  refine sum_range_le_succ l.size m.receiver fun slot => ?_
  have := h.countAt slot
  omega

theorem Relocates.excess_le (h : Relocates l ms l') (upper : Nat) :
    l.excess upper ≤ l'.excess upper + ms.length := by
  induction h with
  | rest => exact le_refl _
  | move hm _ ih =>
    have := hm.excess_le upper
    rw [List.length_cons]
    omega

theorem Relocates.shortage_le (h : Relocates l ms l') (lower : Nat) :
    l.shortage lower ≤ l'.shortage lower + ms.length := by
  induction h with
  | rest => exact le_refl _
  | move hm _ ih =>
    have := hm.shortage_le lower
    rw [List.length_cons]
    omega

/-- **To get within bounds takes as many moves as there is excess or shortage.** -/
theorem Relocates.max_le_length {lower upper : Int} (h : Relocates l ms l')
    (hwithin : l'.Within lower upper) :
    max (l.excess upper.toNat) (l.shortage lower.toNat) ≤ ms.length := by
  have hexcess := h.excess_le upper.toNat
  have hshortage := h.shortage_le lower.toNat
  have hnoExcess : l'.excess upper.toNat = 0 := excess_eq_zero fun slot hs => by
    have := hwithin slot hs
    omega
  have hnoShortage : l'.shortage lower.toNat = 0 := shortage_eq_zero fun slot hs => by
    have := hwithin slot hs
    omega
  omega

/-! ## Due moves are moves of that kind -/

variable {lower upper : Int}

theorem Due.relocated (h : l.Due lower upper m) : Relocated l m (l.after m) := by
  refine ⟨size_shift _ _ _ _, fun slot => ?_⟩
  rw [h.slotAt_after]
  by_cases hd : slot = m.donor
  · subst hd
    rw [if_pos rfl, if_pos rfl, if_neg h.ne]
    have hsplit := List.dropLast_append_getLast? _ h.last
    exact List.perm_append_comm.trans (List.Perm.of_eq hsplit)
  · rw [if_neg hd, if_neg hd, List.nil_append]
    by_cases hr : slot = m.receiver
    · subst hr
      rw [if_pos rfl, if_pos rfl]
      exact List.perm_append_comm
    · rw [if_neg hr, if_neg hr, List.nil_append]

theorem Settles.relocates (h : Settles lower upper l ms l') : Relocates l ms l' := by
  induction h with
  | rest _ => exact .rest
  | move hm _ ih => exact .move hm.relocated ih

/-! ## Bounds below zero -/

theorem Due.toNat (h : l.Due lower upper m) : l.Due lower.toNat upper.toNat m := by
  have hgap := h.gap
  obtain ⟨hreceiver, ⟨hd, habove, hmost⟩, houtside, hlast⟩ := h
  exact ⟨hreceiver.toNat, ⟨hd, by omega, fun other ho ha => hmost other ho (by omega)⟩, by omega,
    hlast⟩

theorem Settled.toNat (h : l.Settled lower upper) : l.Settled lower.toNat upper.toNat := by
  intro taker giver ht hg hbelow habove
  have := h taker giver ht hg (by omega) (by omega)
  omega

/-- **Bounds below zero make the same moves as zero.** -/
theorem Settles.toNat (h : Settles lower upper l ms l') :
    Settles lower.toNat upper.toNat l ms l' := by
  induction h with
  | rest h => exact .rest h.toNat
  | move hm _ ih => exact .move hm.toNat ih

theorem cast_excess (h : 0 < l.size → 0 ≤ upper) :
    (l.excess upper.toNat : Int) =
      ∑ slot ∈ range l.size, max 0 ((l.countAt slot : Int) - upper) := by
  rw [excess_eq, Nat.cast_sum]
  refine Finset.sum_congr rfl fun slot hs => ?_
  have := h (Nat.zero_lt_of_lt (Finset.mem_range.mp hs))
  omega

theorem cast_shortage (l : Layout) (lower : Int) :
    (l.shortage lower.toNat : Int) =
      ∑ slot ∈ range l.size, max 0 (lower - (l.countAt slot : Int)) := by
  rw [shortage_eq, Nat.cast_sum]
  refine Finset.sum_congr rfl fun slot _ => ?_
  omega

/-! ## The fewest moves -/

/-- **Balancing makes the fewest moves**, if the bounds allow as many partitions as there are. What
the slots hold above the upper bound and what they lack below the lower one, the greater of the two
is the number of its moves. These moves lead to within the bounds, and no moves of single partitions
that do are fewer. -/
theorem balance_fewest {l : Layout} (hk : l.Known) {lower upper : Int} (hle : lower ≤ upper)
    (hmin : l.size * lower ≤ l.slots.flatten.length)
    (hmax : l.slots.flatten.length ≤ l.size * upper) :
    let balanced := l.balance lower upper
    (balanced.moves.length : Int) =
        max (∑ slot ∈ range l.size, max 0 ((l.countAt slot : Int) - upper))
          (∑ slot ∈ range l.size, max 0 (lower - (l.countAt slot : Int))) ∧
      Relocates l balanced.moves balanced.layout ∧ balanced.layout.Within lower upper ∧
      ∀ ms l', Relocates l ms l' → l'.Within lower upper →
        balanced.moves.length ≤ ms.length := by
  intro balanced
  have hsettles : Settles lower upper l balanced.moves balanced.layout :=
    (balance_settles hk lower upper).2
  have hwithin : balanced.layout.Within lower upper := by
    have htotal := hsettles.perm.length_eq
    rw [← hsettles.frame.1, ← htotal] at hmin hmax
    exact fun slot hs => hsettles.settled.between hle hmin hmax hs
  have hfew := hsettles.toNat.length_le (Int.toNat_le_toNat hle)
  have hmany := hsettles.relocates.max_le_length hwithin
  have hupper : 0 < l.size → 0 ≤ upper := fun hsize => by
    by_contra hneg
    have := Int.mul_neg_of_pos_of_neg (Int.natCast_pos.mpr hsize) (not_le.mp hneg)
    omega
  refine ⟨?_, hsettles.relocates, hwithin, fun ms l' hms hl' => ?_⟩
  · rw [← cast_excess hupper, ← cast_shortage]
    omega
  · exact hfew.trans (hms.max_le_length hl')

/-- Two partitions too many in one slot and one missing in another take two moves. -/
theorem balance_fewest_two_moves :
    let h : Hosted := ⟨⟨"p", "t", ⟨[], []⟩⟩, ⟨"a", 0⟩⟩
    let l : Layout := ⟨List.replicate 5 h, List.replicate 3 ⟨"b", 0⟩, [[0, 1, 2, 3], [], [4]],
      [("b", ⟨0, [1, 2]⟩)]⟩
    l.Known ∧ (l.balance 1 2).moves.length = 2 ∧
      ∀ ms l', Relocates l ms l' → l'.Within 1 2 → 2 ≤ ms.length := by
  intro h l
  have hk : l.Known := by
    unfold Known
    decide
  obtain ⟨hmoves, -, -, hfewest⟩ := balance_fewest hk (by decide : (1 : Int) ≤ 2) (by decide)
    (by decide)
  have htwo : (l.balance 1 2).moves.length = 2 := by
    have hsums : max (∑ slot ∈ range l.size, max 0 ((l.countAt slot : Int) - 2))
        (∑ slot ∈ range l.size, max 0 (1 - (l.countAt slot : Int))) = 2 := by decide
    omega
  rw [htwo] at hfewest
  exact ⟨hk, htwo, hfewest⟩

end Keyspan.Layout
