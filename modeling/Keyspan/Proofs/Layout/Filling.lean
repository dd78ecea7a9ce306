import Keyspan.Layout.Fill
import Keyspan.Proofs.Layout.Tracking
import Mathlib.Algebra.Order.BigOperators.Group.Finset

/-!
# Filling gives every partition to an emptiest slot

`Fills` places partitions in order, each into the emptiest slot below the cap at that moment. As
long as all slots together have room below the cap, there is such a slot.

Results:
* `fill_fills`: filling places every partition that is left over, and never runs out of slots.
* `Fills.perm`: nothing else changes.
* `Fills.grown_le`: a slot that was given partitions holds at most the cap, and at most one more
  than any slot that is still below the cap.
-/

namespace Keyspan.Layout

open Finset (range)
open Ticket (Tracks)

/-- **Partitions placed in order, each into an emptiest slot.** -/
inductive Fills (cap : Nat) : Layout → List Nat → Layout → Prop
  | done {l : Layout} : Fills cap l [] l
  | put {l l' : Layout} {slot p : Nat} {ps : List Nat} (h : l.Emptiest cap slot)
      (hrest : Fills cap (l.put slot p) ps l') : Fills cap l (p :: ps) l'

/-! ## The queue of filling -/

/-- The queue of a filling: slots by increasing counts, every ticket up to date. -/
abbrev Queued (cap : Int) (l : Layout) (pending : Nat → Prop) (queue : List Ticket) : Prop :=
  Tracks Ticket.lighter (fun c => (c : Int) < cap) (fun _ => True) l pending queue

theorem openTickets_queued (cap : Int) (l : Layout) (first : Nat) :
    Queued cap l (· < first) (openTickets cap first (l.slots.drop first)) := by
  generalize hrest : l.slots.drop first = rest
  induction rest generalizing first with
  | nil =>
    have hsize : l.size ≤ first := List.drop_eq_nil_iff.mp hrest
    exact Tracks.nil fun slot hs => Nat.lt_of_lt_of_le hs hsize
  | cons ps rest ih =>
    obtain ⟨hps, htail⟩ := drop_eq_cons hrest
    have hlt : first < l.size := (List.getElem?_eq_some_iff.mp hps).1
    have hcount : l.countAt first = ps.length := by
      unfold countAt
      rw [hps]
      rfl
    have hticket : (⟨ps.length, first⟩ : Ticket) = l.ticket first := by
      unfold ticket
      rw [hcount]
    have hothers := ih (first + 1) htail
    unfold openTickets
    dsimp only
    rw [hticket, ← hcount]
    split
    · refine (hothers.enqueue Ticket.lighter_serves hlt (Nat.lt_succ_self _) ‹_›).congr_pending ?_
      intro slot _
      omega
    · refine (hothers.skip ‹_›).congr_pending ?_
      intro slot _
      omega

/-- **Serving the front keeps the queue in step.** -/
theorem queued_put {cap : Int} {l : Layout} {t : Ticket} {queue : List Ticket}
    (h : Queued cap l (fun _ => False) (t :: queue)) (p : Nat) :
    Queued cap (l.put t.slot p) (fun _ => False)
      (if ((t.count + 1 : Nat) : Int) < cap then
        Ticket.enqueue Ticket.lighter ⟨t.count + 1, t.slot⟩ queue else queue) := by
  obtain ⟨hs, -, -, heq⟩ := h.present t List.mem_cons_self trivial
  have hcount : t.count + 1 = (l.put t.slot p).countAt t.slot := by
    rw [countAt_put l t.slot p t.slot hs, if_pos rfl]
    exact congrArg (·.count + 1) heq
  have hticket : (⟨t.count + 1, t.slot⟩ : Ticket) = (l.put t.slot p).ticket t.slot := by
    unfold ticket
    rw [hcount]
  have hsame : ∀ slot, ¬ slot = t.slot → (l.put t.slot p).countAt slot = l.countAt slot :=
    fun slot hne => by
      rw [countAt_put l t.slot p slot hs, if_neg hne]
      rfl
  have hadvanced : Queued cap (l.put t.slot p) (fun slot => False ∨ slot = t.slot) queue :=
    h.advance (size_put l t.slot p) hsame (fun _ _ => trivial) rfl
      fun u hu _ => h.slot_ne_of_mem trivial hu trivial
  have hs' : t.slot < (l.put t.slot p).size := (size_put l t.slot p).symm ▸ hs
  rw [hticket, hcount]
  split
  · refine (hadvanced.enqueue Ticket.lighter_serves hs' (Or.inr rfl) ‹_›).congr_pending ?_
    intro slot _
    simp
  · refine (hadvanced.skip ‹_›).congr_pending ?_
    intro slot _
    simp

/-! ## Filling runs to the end -/

theorem full_of_queued_nil {cap : Nat} {l : Layout} (h : Queued cap l (fun _ => False) []) :
    l.size * cap ≤ l.slots.flatten.length := by
  rw [← sum_countAt, ← sum_range_const]
  refine Finset.sum_le_sum fun slot hs => ?_
  have := h.not_fits (Finset.mem_range.mp hs) not_false
  omega

/-- **Filling with room for all of the partitions places them all.** -/
theorem fillFrom_fills {cap : Nat} {ps : List Nat} {queue : List Ticket} {l : Layout}
    (h : Queued cap l (fun _ => False) queue)
    (hroom : l.slots.flatten.length + ps.length ≤ l.size * cap) :
    (fillFrom cap ps queue l).2 = .ok () ∧ Fills cap l ps (fillFrom cap ps queue l).1 := by
  induction ps generalizing queue l with
  | nil => exact ⟨rfl, .done⟩
  | cons p ps ih =>
    rw [List.length_cons] at hroom
    cases queue with
    | nil =>
      have := full_of_queued_nil h
      omega
    | cons t queue =>
      have ht := h.emptiest trivial
      have hplaced := (flatten_put_perm ht.there p).length_eq
      rw [List.length_cons] at hplaced
      obtain ⟨hok, hrest⟩ := ih (queued_put h p) (by rw [hplaced, size_put]; omega)
      exact ⟨hok, .put ht hrest⟩

/-- **Filling places every partition that is left over.** -/
theorem fill_fills (cap : Nat) (l : Layout) (resolved : List Nat)
    (hroom : l.slots.flatten.length + (l.unresolved resolved).length ≤ l.size * cap) :
    (l.fill resolved cap).2 = .ok () ∧
      Fills cap l (l.unresolved resolved) (l.fill resolved cap).1 :=
  fillFrom_fills (openTickets_queued cap l 0 |>.congr_pending fun _ _ => by simp) hroom

/-! ## What filling does -/

namespace Fills

variable {cap : Nat} {l l' : Layout} {ps : List Nat}

theorem frame (h : Fills cap l ps l') :
    l'.size = l.size ∧ l'.partitions = l.partitions ∧ l'.endpoints = l.endpoints := by
  induction h with
  | done => exact ⟨rfl, rfl, rfl⟩
  | put _ _ ih => exact ⟨ih.1.trans (size_put _ _ _), ih.2⟩

theorem perm (h : Fills cap l ps l') : l'.slots.flatten.Perm (ps ++ l.slots.flatten) := by
  induction h with
  | done => exact List.Perm.refl _
  | put h _ ih =>
    refine ih.trans ?_
    refine ((flatten_put_perm h.there _).append_left _).trans ?_
    exact List.perm_middle

theorem le_countAt (h : Fills cap l ps l') (slot : Nat) : l.countAt slot ≤ l'.countAt slot := by
  induction h with
  | done => exact le_refl _
  | put h _ ih =>
    rw [countAt_put _ _ _ slot h.there] at ih
    exact (Nat.le_add_right _ _).trans ih

/-- **Slots that were given partitions are level**: within the cap, and at most one above every
slot that is still below the cap. -/
theorem grown_le (h : Fills cap l ps l') (slot : Nat) :
    l'.countAt slot = l.countAt slot ∨
      l'.countAt slot ≤ cap ∧ ∀ other, other < l'.size → l'.countAt other < cap →
        l'.countAt slot ≤ l'.countAt other + 1 := by
  induction h with
  | done => exact Or.inl rfl
  | @put l l' given p ps h hrest ih =>
    rcases ih with hsame | hlevel
    · rw [countAt_put _ _ _ slot h.there] at hsame
      by_cases heq : slot = given
      · rw [if_pos heq, heq] at hsame
        rw [heq]
        refine Or.inr ⟨?_, fun other ho hbelow => ?_⟩
        · have := h.below
          omega
        · -- the other slot was below the cap before as well, so it held no fewer
          have hall := Fills.put h hrest
          have hmono := hall.le_countAt other
          have := h.countAt_le (hall.frame.1 ▸ ho) (by omega)
          omega
      · rw [if_neg heq] at hsame
        exact Or.inl hsame
    · exact Or.inr hlevel

end Fills

end Keyspan.Layout
