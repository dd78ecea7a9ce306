import Keyspan.Proofs.Layout.Growing
import Keyspan.Proofs.Layout.Selection

/-!
# Filling levels the slots under a cap

The second phase finds its slots through a queue that has counts of its own and drops slots at the
cap. `Layout.fillByCounts` finds them by looking at all slots and at nothing but what they hold now;
it is the same filling, for any layout and any cap, below zero as well. `Layout.room` is what the
slots can still take under the cap: every partition that is placed uses up one of it, and a slot is
found as long as there is some left. So filling fails iff the partitions outnumber the room, and by
then every slot is full.

Results:
* `taker?_cases`: a slot is found as long as there is room, and takes up one of it.
* `fill_eq_fillByCounts`: the queue finds the slots that present counts select.
* `room_fillByCounts`, `outcome_fillByCounts`, `fillByCounts_fills`: what is left of the room, when
  there is too little of it, and which partitions are placed.
* `fill_levels_under_cap`: all of this for the second phase, and how level the slots are afterwards.
-/

namespace Keyspan.Layout

open Finset (range)

variable {l : Layout} {cap : Int} {ps : List Nat}

/-! ## The room under a cap -/

/-- **How many partitions the slots can still take** until each of them has reached a cap. -/
def room (l : Layout) (cap : Int) : Nat := ∑ slot ∈ range l.size, (cap - l.countAt slot).toNat

theorem room_put {slot : Nat} (hs : slot < l.size) (hbelow : (l.countAt slot : Int) < cap)
    (p : Nat) : (l.put slot p).room cap + 1 = l.room cap := by
  have htally : (l.put slot p).room cap + (cap - (l.slotAt slot).length).toNat =
      l.room cap + (cap - (l.slotAt slot ++ [p]).length).toNat :=
    tally_put hs p fun _ ps => (cap - ps.length).toNat
  rw [List.length_append, List.length_singleton, length_slotAt] at htally
  omega

/-- **There is no room iff every slot has reached the cap.** -/
theorem room_eq_zero_iff :
    l.room cap = 0 ↔ ∀ slot, slot < l.size → cap ≤ (l.countAt slot : Int) := by
  unfold room
  rw [Finset.sum_eq_zero_iff]
  simp only [Finset.mem_range, Int.toNat_eq_zero, sub_nonpos]

/-- **A slot is found as long as there is room**, and what it is given takes up one of the room. -/
theorem taker?_cases (l : Layout) (cap : Int) :
    (l.taker? cap = none ∧ l.room cap = 0) ∨ ∃ slot, l.taker? cap = some slot ∧
      l.Emptiest cap slot ∧ ∀ p, l.room cap = (l.put slot p).room cap + 1 := by
  cases ht : l.taker? cap with
  | none =>
    have hfull := taker?_eq_none_iff.mp ht
    exact .inl ⟨rfl, room_eq_zero_iff.mpr fun slot hs => not_lt.mp (hfull slot hs)⟩
  | some slot =>
    have hslot := taker?_eq_some_iff.mp ht
    exact .inr ⟨slot, rfl, hslot, fun p => (room_put hslot.there hslot.below p).symm⟩

/-! ## Filling by present counts -/

/-- **Filling by present counts**: each partition goes, in order, to the end of the slot that holds
the fewest of those below the cap, the first of those that do; without such a slot, filling fails
and keeps what it has placed. -/
def fillByCounts (cap : Int) : List Nat → Layout → Layout × Except Failure Unit
  | [], l => (l, .ok ())
  | p :: rest, l =>
    match l.taker? cap with
    | none => (l, .error .noSlotLeft)
    | some slot => fillByCounts cap rest (l.put slot p)

/-- **A queue that is in step finds the slots that present counts select.** -/
theorem fillFrom_eq_fillByCounts {queue : List Ticket} (h : Queued cap l (fun _ => False) queue) :
    fillFrom cap ps queue l = fillByCounts cap ps l := by
  induction ps generalizing queue l with
  | nil => rfl
  | cons p ps ih =>
    unfold fillByCounts
    cases queue with
    | nil =>
      have hnone : l.taker? cap = none :=
        taker?_eq_none_iff.mpr fun slot hs => h.not_fits hs not_false
      rw [hnone]
      rfl
    | cons t queue =>
      have hsome : l.taker? cap = some t.slot := taker?_eq_some_iff.mpr (h.emptiest trivial)
      rw [hsome]
      exact ih (queued_put h p)

theorem fill_eq_fillByCounts (l : Layout) (resolved : List Nat) (cap : Int) :
    l.fill resolved cap = fillByCounts cap (l.unresolved resolved) l :=
  fillFrom_eq_fillByCounts (openTickets_queued cap l 0 |>.congr_pending fun _ _ => by simp)

/-! ## When there is too little room -/

theorem room_fillByCounts (cap : Int) (ps : List Nat) (l : Layout) :
    (fillByCounts cap ps l).1.room cap = l.room cap - ps.length := by
  induction ps generalizing l with
  | nil => rfl
  | cons p ps ih =>
    unfold fillByCounts
    rcases l.taker?_cases cap with ⟨ht, hfull⟩ | ⟨slot, ht, -, hput⟩
    · rw [ht, hfull, Nat.zero_sub]
    · rw [ht, hput p, List.length_cons, Nat.add_sub_add_right]
      exact ih (l.put slot p)

/-- **Filling fails iff the partitions outnumber the room.** -/
theorem outcome_fillByCounts (cap : Int) (ps : List Nat) (l : Layout) :
    (fillByCounts cap ps l).2 = if ps.length ≤ l.room cap then .ok () else .error .noSlotLeft := by
  induction ps generalizing l with
  | nil => exact (if_pos (Nat.zero_le _)).symm
  | cons p ps ih =>
    unfold fillByCounts
    rcases l.taker?_cases cap with ⟨ht, hfull⟩ | ⟨slot, ht, -, hput⟩
    · rw [ht, hfull]
      exact (if_neg (Nat.not_succ_le_zero ps.length)).symm
    · rw [ht, hput p, List.length_cons]
      simp only [Nat.add_le_add_iff_right]
      exact ih (l.put slot p)

/-- **Filling places as many partitions as there is room for**, the first ones, each in an emptiest
slot. -/
theorem fillByCounts_fills (cap : Int) (ps : List Nat) (l : Layout) :
    Fills cap.toNat l (ps.take (l.room cap)) (fillByCounts cap ps l).1 := by
  induction ps generalizing l with
  | nil =>
    rw [List.take_nil]
    exact .done
  | cons p ps ih =>
    unfold fillByCounts
    rcases l.taker?_cases cap with ⟨ht, hfull⟩ | ⟨slot, ht, hslot, hput⟩
    · rw [ht, hfull, List.take_zero]
      exact .done
    · rw [ht, hput p, List.take_succ_cons]
      exact .put hslot.toNat (ih (l.put slot p))

/-! ## What filling leaves -/

/-- **Slots that have grown are level with all others**, whether these are below the cap or not. -/
theorem Fills.level {cap : Nat} {l' : Layout} (h : Fills cap l ps l') {slot : Nat}
    (hgrown : l'.countAt slot ≠ l.countAt slot) :
    l'.countAt slot ≤ cap ∧ ∀ other, other < l.size → l'.countAt slot ≤ l'.countAt other + 1 := by
  obtain ⟨hcap, hlevel⟩ := (h.grown_le slot).resolve_left hgrown
  refine ⟨hcap, fun other ho => ?_⟩
  by_cases hbelow : l'.countAt other < cap
  · exact hlevel other (h.frame.1 ▸ ho) hbelow
  · omega

/-- **Filling levels the slots under a cap.** It places the partitions that are left over in order,
each at the end of the slot that, by what the slots hold at the moment, holds the fewest of those
below the cap and is the first of those that do. It fails, because no slot is left, iff there are
more of them than the slots can take in all; then the first of them are placed, as many as the
slots can take, and every slot has reached the cap. A slot keeps what it held, and what it is given
comes behind; a slot that is given something ends up within the cap and at most one above any other
slot. -/
theorem fill_levels_under_cap (l : Layout) (resolved : List Nat) (cap : Int) :
    let left := (List.range l.partitions.length).filter fun p => p ∉ resolved
    let room := ∑ slot ∈ range l.size, (cap - l.countAt slot).toNat
    let filled := l.fill resolved cap
    filled = fillByCounts cap left l ∧
      (filled.2 = if left.length ≤ room then .ok () else .error .noSlotLeft) ∧
      filled.1.slots.flatten.Perm (left.take room ++ l.slots.flatten) ∧
      (room < left.length → ∀ slot, slot < l.size → cap ≤ (filled.1.countAt slot : Int)) ∧
      ∀ slot, slot < l.size → ∃ added, added.Sublist (left.take room) ∧
        filled.1.slotAt slot = l.slotAt slot ++ added ∧
        (added ≠ [] → (filled.1.countAt slot : Int) ≤ cap ∧
          ∀ other, other < l.size → filled.1.countAt slot ≤ filled.1.countAt other + 1) := by
  intro left room filled
  have hleft : l.unresolved resolved = left := by
    unfold unresolved
    exact List.filter_congr fun p _ => by simp
  have hfilled : filled = fillByCounts cap left l := by
    rw [← hleft]
    exact l.fill_eq_fillByCounts resolved cap
  have hfills : Fills cap.toNat l (left.take room) filled.1 := by
    rw [hfilled]
    exact fillByCounts_fills cap left l
  refine ⟨hfilled, ?_, hfills.perm, fun hshort slot hs => ?_, fun slot hs => ?_⟩
  · rw [hfilled]
    exact outcome_fillByCounts cap left l
  · have hroom : filled.1.room cap = room - left.length := by
      rw [hfilled]
      exact room_fillByCounts cap left l
    exact room_eq_zero_iff.mp (by omega) slot (hfills.frame.1.symm ▸ hs)
  · obtain ⟨added, hsub, hslot⟩ := hfills.extends slot
    refine ⟨added, hsub, hslot, fun hadded => ?_⟩
    have hcount : filled.1.countAt slot = l.countAt slot + added.length := by
      rw [← length_slotAt, hslot, List.length_append, length_slotAt]
    have hpos := List.length_pos_of_ne_nil hadded
    have hgrown : filled.1.countAt slot ≠ l.countAt slot := by omega
    obtain ⟨hcap, hlevel⟩ := hfills.level hgrown
    exact ⟨by omega, hlevel⟩

-- the first slot is above the cap already; the others have room for three of the four
example :
    let h : Hosted := ⟨⟨"p", "t", ⟨[], []⟩⟩, ⟨"a", 0⟩⟩
    let l : Layout := ⟨List.replicate 5 h, List.replicate 3 ⟨"b", 0⟩, [[8, 9, 7], [], [6]], []⟩
    let filled := l.fill [1] 2
    filled.1.slots = [[8, 9, 7], [0, 2], [6, 3]] ∧ filled.2 = .error .noSlotLeft := by
  decide

end Keyspan.Layout
