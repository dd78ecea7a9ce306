import Keyspan.Proofs.Layout.Contents

/-!
# Queues that track a layout

A queue of tickets is a memory of counts. `Ticket.Tracks` says how far it can be trusted: every
slot that qualifies is queued with its present count, and every ticket whose count is *live* is
such a ticket. Tickets that are not live may be out of date. While a slot changes it is *pending*:
nothing is claimed of it until it is offered to the queue again.

Results:
* `Tracks.front`: no qualifying slot goes before the ticket at the front.
* `Tracks.advance`, `Tracks.enqueue`, `Tracks.skip`: what serving the front and offering a slot
  again do.
* `Tracks.emptiest`, `Tracks.fullest`: the two queues in use find an emptiest and a fullest slot.
-/

namespace Keyspan

namespace Ticket

theorem lighter_eq_false_iff (a b : Ticket) :
    lighter a b = false ↔ b.count < a.count ∨ b.count = a.count ∧ b.slot ≤ a.slot := by
  simp only [lighter, Bool.or_eq_false_iff, decide_eq_false_iff_not, Bool.and_eq_false_iff,
    beq_eq_false_iff_ne]
  omega

theorem heavier_eq_false_iff (a b : Ticket) :
    heavier a b = false ↔ a.count < b.count ∨ b.count = a.count ∧ b.slot ≤ a.slot := by
  simp only [heavier, Bool.or_eq_false_iff, decide_eq_false_iff_not, Bool.and_eq_false_iff,
    beq_eq_false_iff_ne]
  omega

theorem count_le_of_lighter_eq_false {a b : Ticket} (h : lighter a b = false) :
    b.count ≤ a.count := by
  rcases (lighter_eq_false_iff a b).mp h with hlt | ⟨heq, -⟩
  · exact Nat.le_of_lt hlt
  · exact Nat.le_of_eq heq

theorem count_le_of_heavier_eq_false {a b : Ticket} (h : heavier a b = false) :
    a.count ≤ b.count := by
  rcases (heavier_eq_false_iff a b).mp h with hlt | ⟨heq, -⟩
  · exact Nat.le_of_lt hlt
  · exact Nat.le_of_eq heq.symm

end Ticket

namespace Layout

/-- A slot with its present count. -/
def ticket (l : Layout) (slot : Nat) : Ticket := ⟨l.countAt slot, slot⟩

/-- **The slot that filling and balancing give to**: it is below a bound, and of the slots below
it, it holds the fewest partitions; it is the first of those that do. -/
structure Emptiest (l : Layout) (upper : Int) (slot : Nat) : Prop where
  there : slot < l.size
  below : (l.countAt slot : Int) < upper
  least : ∀ other, other < l.size → (l.countAt other : Int) < upper →
    Ticket.lighter (l.ticket other) (l.ticket slot) = false

/-- **The slot that balancing takes from**: it is above a bound, and of the slots above it, it
holds the most partitions; it is the first of those that do. -/
structure Fullest (l : Layout) (lower : Int) (slot : Nat) : Prop where
  there : slot < l.size
  above : lower < (l.countAt slot : Int)
  most : ∀ other, other < l.size → lower < (l.countAt other : Int) →
    Ticket.heavier (l.ticket other) (l.ticket slot) = false

theorem Emptiest.countAt_le {l : Layout} {upper : Int} {slot other : Nat}
    (h : l.Emptiest upper slot) (ho : other < l.size) (hb : (l.countAt other : Int) < upper) :
    l.countAt slot ≤ l.countAt other :=
  Ticket.count_le_of_lighter_eq_false (h.least other ho hb)

theorem Emptiest.toNat {l : Layout} {upper : Int} {slot : Nat} (h : l.Emptiest upper slot) :
    l.Emptiest upper.toNat slot := by
  obtain ⟨hs, hbelow, hleast⟩ := h
  exact ⟨hs, by omega, fun other ho hb => hleast other ho (by omega)⟩

theorem Fullest.le_countAt {l : Layout} {lower : Int} {slot other : Nat}
    (h : l.Fullest lower slot) (ho : other < l.size) (hb : lower < (l.countAt other : Int)) :
    l.countAt other ≤ l.countAt slot :=
  Ticket.count_le_of_heavier_eq_false (h.most other ho hb)

end Layout

namespace Ticket

/-- What an order has to meet to serve tickets by it. -/
structure Serves (earlier : Ticket → Ticket → Bool) : Prop where
  asymm : ∀ a b, earlier a b = true → earlier b a = false
  trans : ∀ a b c, earlier b a = false → earlier c b = false → earlier c a = false

theorem lighter_serves : Serves lighter := ⟨lighter_asymm, lighter_eq_false_trans⟩

theorem heavier_serves : Serves heavier := ⟨heavier_asymm, heavier_eq_false_trans⟩

theorem Serves.irrefl {earlier : Ticket → Ticket → Bool} (ho : Serves earlier) (t : Ticket) :
    earlier t t = false := by
  cases h : earlier t t with
  | false => rfl
  | true => exact h.symm.trans (ho.asymm t t h)

/-- **How far a queue can be trusted.** `fits` says which counts qualify, `live` on which counts
the queue is relied on, and `pending` of which slots nothing is claimed at the moment. -/
structure Tracks (earlier : Ticket → Ticket → Bool) (fits live : Nat → Prop) (l : Layout)
    (pending : Nat → Prop) (queue : List Ticket) : Prop where
  sorted : queue.Pairwise fun a b => earlier b a = false
  complete : ∀ slot, slot < l.size → ¬ pending slot → fits (l.countAt slot) →
    l.ticket slot ∈ queue
  present : ∀ t ∈ queue, live t.count →
    t.slot < l.size ∧ ¬ pending t.slot ∧ fits t.count ∧ t = l.ticket t.slot
  once : queue.Pairwise fun a b => live a.count → live b.count → a.slot ≠ b.slot

variable {earlier : Ticket → Ticket → Bool} {fits live : Nat → Prop} {l : Layout}
  {pending : Nat → Prop} {t : Ticket} {queue : List Ticket}

namespace Tracks

theorem nil (h : ∀ slot, slot < l.size → pending slot) :
    Tracks earlier fits live l pending [] where
  sorted := List.Pairwise.nil
  complete := fun slot hs hp _ => absurd (h slot hs) hp
  present := fun _ ht => absurd ht List.not_mem_nil
  once := List.Pairwise.nil

theorem congr_pending {pending' : Nat → Prop} (h : Tracks earlier fits live l pending queue)
    (he : ∀ slot, slot < l.size → (pending slot ↔ pending' slot)) :
    Tracks earlier fits live l pending' queue where
  sorted := h.sorted
  complete := fun slot hs hp => h.complete slot hs fun hp' => hp ((he slot hs).mp hp')
  present := fun t ht hl => by
    obtain ⟨hs, hp, hrest⟩ := h.present t ht hl
    exact ⟨hs, fun hp' => hp ((he t.slot hs).mpr hp'), hrest⟩
  once := h.once

/-- **No slot that qualifies goes before the front.** -/
theorem front (ho : Serves earlier) (h : Tracks earlier fits live l pending (t :: queue))
    {slot : Nat} (hs : slot < l.size) (hp : ¬ pending slot) (hf : fits (l.countAt slot)) :
    earlier (l.ticket slot) t = false := by
  rcases List.mem_cons.mp (h.complete slot hs hp hf) with heq | hmem
  · rw [heq]
    exact ho.irrefl t
  · exact (List.pairwise_cons.mp h.sorted).1 _ hmem

theorem not_fits (h : Tracks earlier fits live l pending []) {slot : Nat} (hs : slot < l.size)
    (hp : ¬ pending slot) : ¬ fits (l.countAt slot) :=
  fun hf => absurd (h.complete slot hs hp hf) List.not_mem_nil

/-- **The front is served and some slots change**, its own among them: the rest of the queue
tracks the new layout, with those slots pending. No live ticket of the rest may name them. -/
theorem advance (h : Tracks earlier fits live l pending (t :: queue)) {l' : Layout}
    {live' changed : Nat → Prop} (hsize : l'.size = l.size)
    (hsame : ∀ slot, ¬ changed slot → l'.countAt slot = l.countAt slot)
    (hlive : ∀ c, live' c → live c) (ht : changed t.slot)
    (hrest : ∀ u ∈ queue, live' u.count → ¬ changed u.slot) :
    Tracks earlier fits live' l' (fun slot => pending slot ∨ changed slot) queue where
  sorted := (List.pairwise_cons.mp h.sorted).2
  complete := fun slot hs hp hf => by
    obtain ⟨hp, hc⟩ := not_or.mp hp
    rw [hsize] at hs
    rw [hsame slot hc] at hf
    have hticket : l'.ticket slot = l.ticket slot := by
      unfold Layout.ticket
      rw [hsame slot hc]
    rw [hticket]
    rcases List.mem_cons.mp (h.complete slot hs hp hf) with heq | hmem
    · rw [← heq] at ht
      exact absurd ht hc
    · exact hmem
  present := fun u hu hl => by
    have hc := hrest u hu hl
    obtain ⟨hs, hp, hf, heq⟩ := h.present u (List.mem_cons_of_mem t hu) (hlive _ hl)
    refine ⟨hsize ▸ hs, not_or.mpr ⟨hp, hc⟩, hf, ?_⟩
    unfold Layout.ticket at heq ⊢
    rw [hsame u.slot hc]
    exact heq
  once := (List.pairwise_cons.mp h.once).2.imp fun hne ha hb => hne (hlive _ ha) (hlive _ hb)

/-- No live ticket of the rest names the slot of a live front. -/
theorem slot_ne_of_mem (h : Tracks earlier fits live l pending (t :: queue)) (hl : live t.count)
    {u : Ticket} (hu : u ∈ queue) (hlu : live u.count) : u.slot ≠ t.slot :=
  Ne.symm ((List.pairwise_cons.mp h.once).1 u hu hl hlu)

/-- **A pending slot that qualifies is queued.** -/
theorem enqueue (ho : Serves earlier) (h : Tracks earlier fits live l pending queue)
    {slot : Nat} (hs : slot < l.size) (hp : pending slot) (hf : fits (l.countAt slot)) :
    Tracks earlier fits live l (fun s => pending s ∧ s ≠ slot)
      (enqueue earlier (l.ticket slot) queue) := by
  have hperm := enqueue_perm earlier (l.ticket slot) queue
  refine ⟨enqueue_sorted ho.asymm ho.trans _ h.sorted, ?_, ?_, ?_⟩
  · intro s hs' hp' hf'
    rw [hperm.mem_iff]
    by_cases heq : s = slot
    · rw [heq]
      exact List.mem_cons_self
    · exact List.mem_cons_of_mem _ (h.complete s hs' (fun hps => hp' ⟨hps, heq⟩) hf')
  · intro u hu hl
    rcases List.mem_cons.mp (hperm.mem_iff.mp hu) with rfl | hu
    · exact ⟨hs, fun hps => hps.2 rfl, hf, rfl⟩
    · obtain ⟨hsu, hpu, hrest⟩ := h.present u hu hl
      exact ⟨hsu, fun hps => hpu hps.1, hrest⟩
  · have hsymm : ∀ {a b : Ticket}, (live a.count → live b.count → a.slot ≠ b.slot) →
        live b.count → live a.count → b.slot ≠ a.slot :=
      fun hab hb ha => Ne.symm (hab ha hb)
    rw [hperm.pairwise_iff hsymm, List.pairwise_cons]
    refine ⟨fun u hu _ hlu heq => ?_, h.once⟩
    -- what is queued is not pending, but the slot was
    exact (h.present u hu hlu).2.1 (heq ▸ hp)

theorem skip (h : Tracks earlier fits live l pending queue) {slot : Nat}
    (hf : ¬ fits (l.countAt slot)) :
    Tracks earlier fits live l (fun s => pending s ∧ s ≠ slot) queue where
  sorted := h.sorted
  complete := fun s hs hps hfs => by
    by_cases heq : s = slot
    · exact absurd (heq ▸ hfs) hf
    · exact h.complete s hs (fun hp' => hps ⟨hp', heq⟩) hfs
  present := fun u hu hl => by
    obtain ⟨hs, hpu, hrest⟩ := h.present u hu hl
    exact ⟨hs, fun hps => hpu hps.1, hrest⟩
  once := h.once

/-- A queue by increasing counts has an emptiest slot at its front, if the ticket there is live. -/
theorem emptiest {upper : Int}
    (h : Tracks lighter (fun c => (c : Int) < upper) live l (fun _ => False) (t :: queue))
    (hl : live t.count) : l.Emptiest upper t.slot := by
  obtain ⟨hs, -, hf, heq⟩ := h.present t List.mem_cons_self hl
  refine ⟨hs, ?_, fun other ho hb => ?_⟩
  · rw [heq] at hf
    exact hf
  · rw [← heq]
    exact h.front lighter_serves ho not_false hb

theorem fullest {lower : Int}
    (h : Tracks heavier (fun c => lower < (c : Int)) live l (fun _ => False) (t :: queue))
    (hl : live t.count) : l.Fullest lower t.slot := by
  obtain ⟨hs, -, hf, heq⟩ := h.present t List.mem_cons_self hl
  refine ⟨hs, ?_, fun other ho hb => ?_⟩
  · rw [heq] at hf
    exact hf
  · rw [← heq]
    exact h.front heavier_serves ho not_false hb

end Tracks

end Ticket

end Keyspan
