import Keyspan.Layout.Basic

/-!
# Queues of slots by count

Filling and balancing pick slots by how many partitions they hold (`min_heap`, `max_heap`). A
`Ticket` is a slot with the count it had when it was queued; a queue is a list of tickets in the
order in which they are served. `lighter` serves the least count first, `heavier` the greatest, and
both serve the least slot first among equals. A ticket is a record of the past: the slot may have
changed since.

Results: `enqueue_perm`: queueing adds one ticket; `enqueue_sorted`: it keeps the order, which
both orders allow by `lighter_asymm`, `lighter_eq_false_trans` and their likes for `heavier`.
-/

namespace Keyspan

/-- A slot and the count it had when it was queued. -/
structure Ticket where
  count : Nat
  slot : Nat
  deriving DecidableEq

namespace Ticket

/-- Fewer partitions first; among equals the least slot. -/
def lighter (a b : Ticket) : Bool :=
  decide (a.count < b.count) || (a.count == b.count && decide (a.slot < b.slot))

/-- More partitions first; among equals the least slot. -/
def heavier (a b : Ticket) : Bool :=
  decide (b.count < a.count) || (a.count == b.count && decide (a.slot < b.slot))

theorem lighter_asymm (a b : Ticket) (h : lighter a b = true) : lighter b a = false := by
  simp only [lighter, Bool.or_eq_true, decide_eq_true_eq, Bool.and_eq_true, beq_iff_eq] at h
  simp only [lighter, Bool.or_eq_false_iff, decide_eq_false_iff_not, Bool.and_eq_false_iff,
    beq_eq_false_iff_ne]
  omega

theorem heavier_asymm (a b : Ticket) (h : heavier a b = true) : heavier b a = false := by
  simp only [heavier, Bool.or_eq_true, decide_eq_true_eq, Bool.and_eq_true, beq_iff_eq] at h
  simp only [heavier, Bool.or_eq_false_iff, decide_eq_false_iff_not, Bool.and_eq_false_iff,
    beq_eq_false_iff_ne]
  omega

/-- To be served no later than another goes through a third ticket. -/
theorem lighter_eq_false_trans (a b c : Ticket) (hba : lighter b a = false)
    (hcb : lighter c b = false) : lighter c a = false := by
  simp only [lighter, Bool.or_eq_false_iff, decide_eq_false_iff_not, Bool.and_eq_false_iff,
    beq_eq_false_iff_ne] at *
  omega

theorem heavier_eq_false_trans (a b c : Ticket) (hba : heavier b a = false)
    (hcb : heavier c b = false) : heavier c a = false := by
  simp only [heavier, Bool.or_eq_false_iff, decide_eq_false_iff_not, Bool.and_eq_false_iff,
    beq_eq_false_iff_ne] at *
  omega

/-- Put a ticket into a queue, behind those that are served before it. -/
def enqueue (earlier : Ticket → Ticket → Bool) (t : Ticket) : List Ticket → List Ticket
  | [] => [t]
  | u :: rest => if earlier u t then u :: enqueue earlier t rest else t :: u :: rest

/-- **Queueing adds one ticket** and loses none. -/
theorem enqueue_perm (earlier : Ticket → Ticket → Bool) (t : Ticket) (queue : List Ticket) :
    (enqueue earlier t queue).Perm (t :: queue) := by
  induction queue with
  | nil => exact List.Perm.refl _
  | cons u rest ih =>
    unfold enqueue
    split
    · exact (ih.cons u).trans (List.Perm.swap t u rest)
    · exact List.Perm.refl _

/-- **Queueing keeps the order** in which tickets are served: none is served before one that goes
before it. -/
theorem enqueue_sorted {earlier : Ticket → Ticket → Bool}
    (asymm : ∀ a b, earlier a b = true → earlier b a = false)
    (trans : ∀ a b c, earlier b a = false → earlier c b = false → earlier c a = false)
    (t : Ticket) {queue : List Ticket}
    (h : queue.Pairwise fun a b => earlier b a = false) :
    (enqueue earlier t queue).Pairwise fun a b => earlier b a = false := by
  induction queue with
  | nil => exact List.pairwise_singleton _ _
  | cons u rest ih =>
    have hu := List.pairwise_cons.1 h
    unfold enqueue
    split
    · rename_i hut
      refine List.pairwise_cons.2 ⟨fun v hv => ?_, ih hu.2⟩
      rcases List.mem_cons.1 ((enqueue_perm earlier t rest).mem_iff.1 hv) with rfl | hv
      · exact asymm u v hut
      · exact hu.1 v hv
    · rename_i hut
      have htu : earlier u t = false := by simpa using hut
      refine List.pairwise_cons.2 ⟨fun v hv => ?_, h⟩
      rcases List.mem_cons.1 hv with rfl | hv
      · exact htu
      · exact trans t u v htu (hu.1 v hv)

end Ticket

end Keyspan
