import Keyspan.Proofs.Layout.Settling
import Keyspan.Proofs.Layout.Tracking

/-!
# Balancing makes the moves that are due

A balancer finds its moves through two queues, in which tickets may be out of date. `Tracks` is
the invariant that makes them do: the tickets at the front are live as long as one of them is out
of bounds, so what they stand for is the due move of the present counts.

Results:
* `Balancer.step_cases`: a balancer whose queues track its layout makes a due move and tracks the
  layout after it, or stops because no move is due.
* `run_makes`, `balance_makes`: for any bounds, balancing makes steps until none is left, and never
  fails.
* `Makes.settles`, `balance_settles`: these steps make the due moves, to the end.
-/

namespace Keyspan

namespace Balancer

/-! ## Balancers that track their layout -/

/-- **Both queues track the layout.** A ticket of `low` is relied on when its count is below the
lower bound or some slot is above the upper one, and for `high` the other way round: as long as
balancing goes on, the tickets at the front are of this kind. -/
structure Tracks (lower upper : Int) (b : Balancer) (pending : Nat → Prop) : Prop where
  low : Ticket.Tracks Ticket.lighter (fun c => (c : Int) < upper)
    (fun c => (c : Int) < lower ∨ b.layout.Overfull upper) b.layout pending b.low
  high : Ticket.Tracks Ticket.heavier (fun c => lower < (c : Int))
    (fun c => upper < (c : Int) ∨ b.layout.Underfull lower) b.layout pending b.high

variable {lower upper : Int} {b : Balancer} {pending : Nat → Prop}

theorem offer_tracks (h : b.Tracks lower upper pending) {slot : Nat} (hs : slot < b.layout.size)
    (hp : pending slot) :
    (offer lower upper b slot).Tracks lower upper fun s => pending s ∧ s ≠ slot := by
  refine ⟨?_, ?_⟩
  · unfold offer
    dsimp only
    split
    · exact h.low.enqueue Ticket.lighter_serves hs hp ‹_›
    · exact h.low.skip ‹_›
  · unfold offer
    dsimp only
    split
    · exact h.high.enqueue Ticket.heavier_serves hs hp ‹_›
    · exact h.high.skip ‹_›

theorem congr_pending {pending' : Nat → Prop} (h : b.Tracks lower upper pending)
    (he : ∀ slot, slot < b.layout.size → (pending slot ↔ pending' slot)) :
    b.Tracks lower upper pending' :=
  ⟨h.low.congr_pending he, h.high.congr_pending he⟩

theorem ofLayout_tracks (lower upper : Int) (l : Layout) :
    (ofLayout lower upper l).layout = l ∧
      (ofLayout lower upper l).Tracks lower upper fun _ => False := by
  -- after the first `k` slots, the others are pending
  suffices h : ∀ k, k ≤ l.size →
      ((List.range k).foldl (offer lower upper) ⟨l, [], []⟩).layout = l ∧
        ((List.range k).foldl (offer lower upper) ⟨l, [], []⟩).Tracks lower upper (k ≤ ·) by
    obtain ⟨hl, ht⟩ := h l.size (le_refl _)
    refine ⟨hl, congr_pending ht fun slot hs => ?_⟩
    unfold ofLayout at hs
    rw [hl] at hs
    exact iff_false_intro (by omega)
  intro k
  induction k with
  | zero =>
    intro _
    exact ⟨rfl, Ticket.Tracks.nil fun slot _ => Nat.zero_le slot,
      Ticket.Tracks.nil fun slot _ => Nat.zero_le slot⟩
  | succ k ih =>
    intro hk
    obtain ⟨hl, ht⟩ := ih (by omega)
    rw [List.range_succ, List.foldl_append, List.foldl_cons, List.foldl_nil]
    refine ⟨hl, congr_pending (offer_tracks ht (by rw [hl]; omega) (le_refl k)) ?_⟩
    intro slot _
    omega

/-! ## One step -/

/-- No live ticket of `low` names the donor of a due move: it would put a slot that is fuller than
the donor into `high`. -/
theorem slot_ne_donor {m : Move} (h : b.Tracks lower upper pending)
    (hm : b.layout.Due lower upper m) {u : Ticket} (hu : u ∈ b.low)
    (hlive : (u.count : Int) < lower ∨ b.layout.Overfull upper) : u.slot ≠ m.donor := by
  intro hdonor
  obtain ⟨-, -, hfit, heq⟩ := h.low.present u hu hlive
  rw [heq, hdonor] at hfit hlive
  have habove := hm.donor.above
  have hbelow : (b.layout.countAt m.donor : Int) < upper := hfit
  rcases hlive with hlt | ⟨slot, hs, hover⟩
  · exact absurd hlt (Int.not_lt.mpr (Int.le_of_lt habove))
  · have := hm.donor.le_countAt hs (by omega)
    omega

/-- No live ticket of `high` names the receiver of a due move: it would put a slot that is emptier
than the receiver into `low`. -/
theorem slot_ne_receiver {m : Move} (h : b.Tracks lower upper pending)
    (hm : b.layout.Due lower upper m) {u : Ticket} (hu : u ∈ b.high)
    (hlive : upper < (u.count : Int) ∨ b.layout.Underfull lower) : u.slot ≠ m.receiver := by
  intro hreceiver
  obtain ⟨-, -, hfit, heq⟩ := h.high.present u hu hlive
  rw [heq, hreceiver] at hfit hlive
  have hbelow := hm.receiver.below
  have habove : lower < (b.layout.countAt m.receiver : Int) := hfit
  rcases hlive with hlt | ⟨slot, hs, hunder⟩
  · exact absurd hlt (Int.not_lt.mpr (Int.le_of_lt hbelow))
  · have := hm.receiver.countAt_le hs (by omega)
    omega

/-- **A due move keeps the queues in step**: the two slots it changes are pending until they are
offered again. -/
theorem moved_tracks {m : Move} {c d : Nat} {low high : List Ticket}
    (h : b.Tracks lower upper fun _ => False) (hm : b.layout.Due lower upper m)
    (hlow : b.low = ⟨c, m.receiver⟩ :: low) (hhigh : b.high = ⟨d, m.donor⟩ :: high)
    (hc : (c : Int) < lower ∨ b.layout.Overfull upper)
    (hd : upper < (d : Int) ∨ b.layout.Underfull lower) :
    (offer lower upper (offer lower upper ⟨b.layout.after m, low, high⟩ m.donor)
      m.receiver).Tracks lower upper fun _ => False := by
  have hl := h.low
  have hh := h.high
  rw [hlow] at hl
  rw [hhigh] at hh
  have hsize : (b.layout.after m).size = b.layout.size := Layout.size_shift _ _ _ _
  have hsame : ∀ slot, ¬ (slot = m.donor ∨ slot = m.receiver) →
      (b.layout.after m).countAt slot = b.layout.countAt slot := fun slot hs => by
    rw [hm.countAt_after, if_neg (not_or.mp hs).1, if_neg (not_or.mp hs).2]
  have hpending : (⟨b.layout.after m, low, high⟩ : Balancer).Tracks lower upper
      fun slot => False ∨ (slot = m.donor ∨ slot = m.receiver) := by
    refine ⟨hl.advance hsize hsame (fun _ => Or.imp_right hm.overfull_of_after) (Or.inr rfl) ?_,
      hh.advance hsize hsame (fun _ => Or.imp_right hm.underfull_of_after) (Or.inl rfl) ?_⟩
    · intro u hu hlive
      have hlive' := Or.imp_right hm.overfull_of_after hlive
      have hu' : u ∈ b.low := hlow ▸ List.mem_cons_of_mem _ hu
      exact not_or.mpr ⟨slot_ne_donor h hm hu' hlive', hl.slot_ne_of_mem hc hu hlive'⟩
    · intro u hu hlive
      have hlive' := Or.imp_right hm.underfull_of_after hlive
      have hu' : u ∈ b.high := hhigh ▸ List.mem_cons_of_mem _ hu
      exact not_or.mpr ⟨hh.slot_ne_of_mem hd hu hlive', slot_ne_receiver h hm hu' hlive'⟩
  have hdonor := offer_tracks hpending (hsize ▸ hm.donor.there) (Or.inr (Or.inl rfl))
  have hboth := offer_tracks hdonor (hsize ▸ hm.receiver.there)
    ⟨Or.inr (Or.inr rfl), Ne.symm hm.ne⟩
  refine congr_pending hboth fun slot _ => iff_false_intro ?_
  rintro ⟨⟨hf | hd | hr, hnd⟩, hnr⟩
  · exact hf
  · exact hnd hd
  · exact hnr hr

/-- What a ticket at the front of `low` says of every slot that can take. -/
theorem count_le_of_low (h : b.Tracks lower upper fun _ => False) {t : Ticket}
    {low : List Ticket} (hlow : b.low = t :: low) {slot : Nat} (hs : slot < b.layout.size)
    (hf : (b.layout.countAt slot : Int) < upper) : t.count ≤ b.layout.countAt slot := by
  have hl := h.low
  rw [hlow] at hl
  exact Ticket.count_le_of_lighter_eq_false (hl.front Ticket.lighter_serves hs not_false hf)

/-- What a ticket at the front of `high` says of every slot that can give. -/
theorem le_count_of_high (h : b.Tracks lower upper fun _ => False) {t : Ticket}
    {high : List Ticket} (hhigh : b.high = t :: high) {slot : Nat} (hs : slot < b.layout.size)
    (hf : lower < (b.layout.countAt slot : Int)) : b.layout.countAt slot ≤ t.count := by
  have hh := h.high
  rw [hhigh] at hh
  exact Ticket.count_le_of_heavier_eq_false (hh.front Ticket.heavier_serves hs not_false hf)

/-- **The tickets at the front are live while one of them is out of bounds**, so that the move
they stand for is due. -/
theorem due_of_front (h : b.Tracks lower upper fun _ => False) {t u : Ticket}
    {low high : List Ticket} (hlow : b.low = t :: low) (hhigh : b.high = u :: high)
    (hout : (t.count : Int) < lower ∨ upper < (u.count : Int)) :
    ((t.count : Int) < lower ∨ b.layout.Overfull upper) ∧
      (upper < (u.count : Int) ∨ b.layout.Underfull lower) ∧
      ∃ p, b.layout.Due lower upper ⟨p, u.slot, t.slot⟩ := by
  have hl := h.low
  have hh := h.high
  rw [hlow] at hl
  rw [hhigh] at hh
  have hlive : ((t.count : Int) < lower ∨ b.layout.Overfull upper) ∧
      (upper < (u.count : Int) ∨ b.layout.Underfull lower) := by
    rcases hout with hbelow | habove
    · obtain ⟨hs, -, -, heq⟩ := hl.present t List.mem_cons_self (Or.inl hbelow)
      rw [heq] at hbelow
      exact ⟨by rw [heq]; exact Or.inl hbelow, Or.inr ⟨t.slot, hs, hbelow⟩⟩
    · obtain ⟨hs, -, -, heq⟩ := hh.present u List.mem_cons_self (Or.inl habove)
      rw [heq] at habove
      exact ⟨Or.inr ⟨u.slot, hs, habove⟩, by rw [heq]; exact Or.inl habove⟩
  refine ⟨hlive.1, hlive.2, ?_⟩
  have hreceiver := hl.emptiest hlive.1
  have hdonor := hh.fullest hlive.2
  have ht : t.count = b.layout.countAt t.slot :=
    congrArg Ticket.count (hl.present t List.mem_cons_self hlive.1).2.2.2
  have hu : u.count = b.layout.countAt u.slot :=
    congrArg Ticket.count (hh.present u List.mem_cons_self hlive.2).2.2.2
  rw [ht, hu] at hout
  -- the donor is above the receiver, so it has a last partition
  have hpos : 0 < (b.layout.slotAt u.slot).length := by
    have hr := hreceiver.below
    have hd := hdonor.above
    rw [Layout.length_slotAt]
    rcases hout with ho | ho <;> omega
  have hlast := List.getLast?_eq_some_getLast (List.ne_nil_of_length_pos hpos)
  exact ⟨_, hreceiver, hdonor, hout, hlast⟩

/-- **One step of a balancer that tracks its layout**: it stops where no move is due, or makes a
due move and tracks the layout after it. -/
theorem step_cases (h : b.Tracks lower upper fun _ => False) (hk : b.layout.Known) :
    (b.step lower upper = .settled ∧ b.layout.Settled lower upper) ∨
      ∃ m next, b.step lower upper = .moved m next ∧ b.layout.Due lower upper m ∧
        next.layout = b.layout.after m ∧ next.Tracks lower upper fun _ => False := by
  unfold step
  cases hlow : b.low with
  | nil =>
    refine Or.inl ⟨rfl, fun taker giver ht _ hbelow _ => ?_⟩
    have hl := h.low
    rw [hlow] at hl
    exact absurd hbelow (hl.not_fits ht not_false)
  | cons t low =>
    cases hhigh : b.high with
    | nil =>
      refine Or.inl ⟨rfl, fun taker giver _ hg _ habove => ?_⟩
      have hh := h.high
      rw [hhigh] at hh
      exact absurd habove (hh.not_fits hg not_false)
    | cons u high =>
      dsimp only
      by_cases hout : (t.count : Int) < lower ∨ upper < (u.count : Int)
      · obtain ⟨ht, hu, p, hm⟩ := due_of_front h hlow hhigh hout
        have hp : p < b.layout.partitions.length :=
          hk p (Layout.mem_flatten_of_mem (List.mem_of_getLast? hm.last))
        refine Or.inr ⟨_, _, ?_, hm, rfl, moved_tracks h hm hlow hhigh ht hu⟩
        rw [if_pos hout, Layout.moveLast_eq hm.last hm.receiver.there]
        exact if_pos hp
      · rw [if_neg hout]
        refine Or.inl ⟨rfl, fun taker giver ht hg hbelow habove => ?_⟩
        have hle := count_le_of_low h hlow ht hbelow
        have hge := le_count_of_high h hhigh hg habove
        omega

theorem settled_of_step (h : b.Tracks lower upper fun _ => False) (hk : b.layout.Known)
    (hstep : b.step lower upper = .settled) : b.layout.Settled lower upper := by
  rcases step_cases h hk with ⟨-, hsettled⟩ | ⟨m, next, hmoved, -⟩
  · exact hsettled
  · exact nomatch hstep.symm.trans hmoved

theorem due_of_step (h : b.Tracks lower upper fun _ => False) (hk : b.layout.Known) {m : Move}
    {next : Balancer} (hstep : b.step lower upper = .moved m next) :
    b.layout.Due lower upper m ∧ next.layout = b.layout.after m ∧
      next.Tracks lower upper fun _ => False := by
  rcases step_cases h hk with ⟨hsettled, -⟩ | ⟨m', next', hmoved, hdue⟩
  · exact nomatch hsettled.symm.trans hstep
  · obtain ⟨rfl, rfl⟩ := Step.moved.inj (hmoved.symm.trans hstep)
    exact hdue

/-! ## All steps -/

/-- **Steps in a row, and the moves they make.** -/
inductive Makes (lower upper : Int) : Balancer → List Move → Balancer → Prop
  | rest {b : Balancer} : Makes lower upper b [] b
  | move {b next last : Balancer} {m : Move} {ms : List Move}
      (hstep : b.step lower upper = .moved m next) (hrest : Makes lower upper next ms last) :
      Makes lower upper b (m :: ms) last

/-- **With fuel beyond the energy a run stops where no step is left.** -/
theorem run_makes (fuel : Nat) (h : b.Tracks lower upper fun _ => False)
    (hk : b.layout.Known) (hfuel : b.layout.energy < fuel) :
    (b.run lower upper fuel).outcome = .ok () ∧
      ∃ last, b.Makes lower upper (b.run lower upper fuel).moves last ∧
        last.step lower upper = .settled ∧ last.layout = (b.run lower upper fuel).layout := by
  induction fuel generalizing b with
  | zero => exact absurd hfuel (Nat.not_lt_zero _)
  | succ fuel ih =>
    unfold run
    rcases step_cases h hk with ⟨hstep, -⟩ | ⟨m, next, hstep, hm, hlayout, hnext⟩
    · rw [hstep]
      exact ⟨rfl, b, .rest, hstep, rfl⟩
    · rw [hstep]
      have henergy := hm.energy_lt
      obtain ⟨hok, last, hmakes, hstop, hlast⟩ :=
        ih hnext (hlayout ▸ hm.known_after hk) (by rw [hlayout]; omega)
      exact ⟨hok, last, .move hstep hmakes, hstop, hlast⟩

/-- **Steps until none is left make all due moves.** -/
theorem Makes.settles {ms : List Move} {last : Balancer} (hmakes : b.Makes lower upper ms last)
    (hstop : last.step lower upper = .settled) (h : b.Tracks lower upper fun _ => False)
    (hk : b.layout.Known) : b.layout.Settles lower upper ms last.layout := by
  induction hmakes with
  | rest => exact .rest (settled_of_step h hk hstop)
  | move hstep _ ih =>
    obtain ⟨hm, hlayout, hnext⟩ := due_of_step h hk hstep
    have hrest := ih hstop hnext (hlayout ▸ hm.known_after hk)
    rw [hlayout] at hrest
    exact .move hm hrest

end Balancer

namespace Layout

theorem balance_makes {l : Layout} (hk : l.Known) (lower upper : Int) :
    (l.balance lower upper).outcome = .ok () ∧
      ∃ last, (Balancer.ofLayout lower upper l).Makes lower upper
          (l.balance lower upper).moves last ∧
        last.step lower upper = .settled ∧ last.layout = (l.balance lower upper).layout := by
  obtain ⟨hlayout, htracks⟩ := Balancer.ofLayout_tracks lower upper l
  exact Balancer.run_makes (l.energy + 1) htracks (by rw [hlayout]; exact hk)
    (by rw [hlayout]; exact Nat.lt_succ_self _)

/-- **Balancing makes the due moves, to the end, for any bounds.** -/
theorem balance_settles {l : Layout} (hk : l.Known) (lower upper : Int) :
    (l.balance lower upper).outcome = .ok () ∧
      l.Settles lower upper (l.balance lower upper).moves (l.balance lower upper).layout := by
  obtain ⟨hlayout, htracks⟩ := Balancer.ofLayout_tracks lower upper l
  obtain ⟨hok, last, hmakes, hstop, hlast⟩ := balance_makes hk lower upper
  have hsettles := hmakes.settles hstop htracks (by rw [hlayout]; exact hk)
  rw [hlayout, hlast] at hsettles
  exact ⟨hok, hsettles⟩

end Layout

end Keyspan
