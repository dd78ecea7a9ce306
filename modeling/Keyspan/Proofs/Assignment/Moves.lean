import Keyspan.Proofs.Assignment.Course
import Keyspan.Proofs.Layout.Growing
import Keyspan.Proofs.Layout.Roles

/-!
# Assignments move as little as they can

The last phase of an assignment undoes nothing but what the first one overdid. A slot that was given
partitions without a home is level with the slots that can still take (`Fills.grown_le`), so it is
never a donor: a donor holds what the first phase put there. Slots of one host are level as well
(`Turns.countAt_le`), so a move leads to another host. Donors and receivers keep apart for the whole
run (`Settles.donor_ne_receiver`), so what the slots hold before the moves can still be read off
them afterwards.

Results:
* `Course.slotAt_donor`, `Course.addressOf_ne`: what a donor holds, and where its partitions go.
* `Course.mem_final`: a partition without a home is not moved.
* `Course.slotAt_filled`: before the moves a slot holds partitions of its own host, then others,
  both in ascending order.
* `assign_moves`: all of this for every assignment that succeeds.
-/

namespace Keyspan

open Assignment (leastPerSlot greatestPerSlot checkAssignable)

namespace Layout

variable {partitions : List Hosted} {endpoints : List Endpoint} {home filled final : Layout}
  {placed : List Nat} {moves : List Move} {m : Move}

theorem Homed.notMem_placed_iff {p : Nat} {x : Hosted}
    (h : Homed (ofEndpoints partitions endpoints) (List.range partitions.length) home placed)
    (hp : partitions[p]? = some x) : p ∉ placed ↔ ∀ e ∈ endpoints, e.address ≠ x.host := by
  rw [h.mem_placed_iff, hp]
  simp

theorem Homed.mem_placed
    (h : Homed (ofEndpoints partitions endpoints) (List.range partitions.length) home placed)
    {p slot : Nat} (hp : p ∈ home.slotAt slot) : p ∈ placed := by
  have hperm := h.perm
  rw [flatten_ofEndpoints, List.append_nil] at hperm
  exact hperm.mem_iff.mp (mem_flatten_of_mem hp)

namespace Course

theorem nodup_filled (h : Course partitions endpoints home placed filled moves final) :
    filled.slots.flatten.Nodup :=
  (h.fills.perm.trans h.homed.perm_range).nodup_iff.mpr List.nodup_range

/-! ## What is moved, and where it goes -/

/-- **A donor holds what the first phase put there.** -/
theorem slotAt_donor (h : Course partitions endpoints home placed filled moves final)
    (hm : m ∈ moves) : filled.slotAt m.donor = home.slotAt m.donor := by
  have hforeseen := h.settles.foreseen m hm
  obtain ⟨added, -, hslot⟩ := h.fills.extends m.donor
  rcases h.fills.grown_le m.donor with hsame | ⟨-, hlevel⟩
  · have hlength := congrArg List.length hslot
    rw [List.length_append, length_slotAt, length_slotAt] at hlength
    have hnone : added = [] := List.eq_nil_of_length_eq_zero (by omega)
    rw [hslot, hnone, List.append_nil]
  · -- it would be level with the receiver, which holds less than the greatest share
    have hbelow := hforeseen.below
    have hgap := hforeseen.gap
    have := hlevel m.receiver hforeseen.receiver (by omega)
    omega

/-- **A partition is moved from where the first phase placed it.** -/
theorem mem_home (h : Course partitions endpoints home placed filled moves final)
    (hm : m ∈ moves) : m.partition ∈ home.slotAt m.donor :=
  h.slotAt_donor hm ▸ (h.settles.foreseen m hm).held

/-- **A move leads to another host**: two slots of one host differ by one partition at most. -/
theorem addressOf_ne (h : Course partitions endpoints home placed filled moves final)
    (hm : m ∈ moves) : home.addressOf m.donor ≠ home.addressOf m.receiver := by
  intro hsame
  have hforeseen := h.settles.foreseen m hm
  have hgap := hforeseen.gap
  rw [← length_slotAt filled m.donor, h.slotAt_donor hm, length_slotAt] at hgap
  have hgrown := h.fills.le_countAt m.receiver
  obtain ⟨host, hhost⟩ := h.homed.turns.exists_addressOf (h.fills.frame.1 ▸ hforeseen.donor)
  have := h.homed.turns.countAt_le hhost (hsame ▸ hhost)
  omega

theorem exists_endpoints (h : Course partitions endpoints home placed filled moves final)
    (hm : m ∈ moves) : ∃ giver taker, endpoints[m.donor]? = some giver ∧
      endpoints[m.receiver]? = some taker ∧ giver.address ≠ taker.address := by
  have hforeseen := h.settles.foreseen m hm
  have hsize : filled.size = endpoints.length := h.fills.frame.1.trans h.size_home
  have hdonor : endpoints[m.donor]? = some _ :=
    List.getElem?_eq_getElem (hsize ▸ hforeseen.donor)
  have hreceiver : endpoints[m.receiver]? = some _ :=
    List.getElem?_eq_getElem (hsize ▸ hforeseen.receiver)
  refine ⟨_, _, hdonor, hreceiver, fun heq => h.addressOf_ne hm ?_⟩
  have hendpoints : home.endpoints = endpoints := h.homed.endpoints
  unfold addressOf
  rw [hendpoints, hdonor, hreceiver]
  exact congrArg some heq

/-- **A partition that the first phase left over is not moved.** -/
theorem mem_final (h : Course partitions endpoints home placed filled moves final) {p slot : Nat}
    (hp : p ∈ filled.slotAt slot) (hleft : p ∉ placed) : p ∈ final.slotAt slot := by
  have hno : ∀ m ∈ moves, m.donor ≠ slot := by
    rintro m hm rfl
    rw [h.slotAt_donor hm] at hp
    exact hleft (h.homed.mem_placed hp)
  rw [h.settles.slotAt_of_no_donor hno]
  exact List.mem_append_left _ hp

/-! ## What there is before the moves -/

/-- **Before the moves a slot holds what the first phase put there**, all of it of its own host, and
behind it partitions without a home in ascending order. -/
theorem slotAt_filled (h : Course partitions endpoints home placed filled moves final)
    (slot : Nat) :
    ∃ others, filled.slotAt slot = home.slotAt slot ++ others ∧ others.Pairwise (· < ·) ∧
      (∀ p ∈ home.slotAt slot, filled.hostOf p = filled.addressOf slot) ∧
      ∀ p ∈ others, ∀ e ∈ endpoints, filled.hostOf p ≠ some e.address := by
  obtain ⟨-, hpartitions, hendpoints⟩ := h.fills.frame
  have hhome : home.partitions = partitions := h.homed.partitions
  obtain ⟨others, hslot, hascending, hleft⟩ := h.fills.ascending slot
  refine ⟨others, hslot, hascending, fun p hp => ?_, fun p hp e he => ?_⟩
  · have hathome := h.homed.turns.home slot p hp
    unfold hostOf addressOf at hathome ⊢
    rwa [hpartitions, hendpoints]
  · obtain ⟨hlt, hnot⟩ := hleft p hp
    have hx : partitions[p]? = some _ := List.getElem?_eq_getElem (hhome ▸ hlt)
    unfold hostOf
    rw [hpartitions, hhome, hx]
    exact fun heq => (h.homed.notMem_placed_iff hx).mp hnot e he (Option.some.inj heq).symm

end Course

end Layout

namespace Scan

/-- **Assignments move as little as they can.** When an assignment succeeds, every partition it
moves was placed in the donor by the first phase, and the donor and the receiver are on different
hosts; a partition whose host has no endpoint stays where the second phase put it. No partition is
moved twice, and no slot is a donor and a receiver. So in the end a slot holds the first of the
partitions that it held before the moves, or all of them and behind them those that were moved into
it. And what a slot held before the moves are partitions of its own host in ascending order, and
behind them partitions whose host has no endpoint, in ascending order again. -/
theorem assign_moves (s : Scan) {partitions : List Hosted} {endpoints : List Endpoint}
    {a : Assignment} (h : (s.assign partitions endpoints).outcome = .ok a) :
    let sorted := Hosted.sort partitions
    let p := partitions.length
    let n := endpoints.length
    let home := (Layout.ofEndpoints sorted endpoints).placeLocal
    let filled := (home.1.fill home.2 (greatestPerSlot p n)).1
    let balanced := filled.balance (leastPerSlot p n) (greatestPerSlot p n)
    let moves := balanced.moves
    let final := balanced.layout
    s.assign partitions endpoints =
        ⟨(moves.map fun m => .notice (Layout.moveNotice sorted m)) ++
            [.notice (.built (Endpoint.listed endpoints) final.ids)],
          .ok ⟨final.fragments s⟩⟩ ∧
      (∀ m ∈ moves, m.partition ∈ home.2 ∧ m.partition ∈ home.1.slotAt m.donor ∧
        ∃ giver taker, endpoints[m.donor]? = some giver ∧ endpoints[m.receiver]? = some taker ∧
          giver.address ≠ taker.address) ∧
      (∀ p x slot, sorted[p]? = some x → (∀ e ∈ endpoints, e.address ≠ x.host) →
        p ∈ filled.slotAt slot → p ∈ final.slotAt slot) ∧
      (moves.map Move.partition).Nodup ∧
      (∀ m ∈ moves, ∀ m' ∈ moves, m.donor ≠ m'.receiver) ∧
      (∀ slot, final.slotAt slot <+: filled.slotAt slot ∨
        final.slotAt slot = filled.slotAt slot ++ Layout.movedInto moves slot) ∧
      ∀ slot, ∃ locals others, filled.slotAt slot = locals ++ others ∧
        locals.Pairwise (· < ·) ∧ others.Pairwise (· < ·) ∧
        (∀ p ∈ locals, filled.hostOf p = filled.addressOf slot) ∧
        ∀ p ∈ others, ∀ e ∈ endpoints, filled.hostOf p ≠ some e.address := by
  intro sorted p n home filled balanced moves final
  have hcheck : checkAssignable partitions endpoints = .ok () := by
    cases hcheck : checkAssignable partitions endpoints with
    | ok _ => rfl
    | error f =>
      rw [assign_eq_fail s hcheck] at h
      exact nomatch h
  obtain ⟨hcourse, heq⟩ := assign_phases s hcheck
  have hmoved : ∀ m ∈ moves, m.partition ∈ home.1.slotAt m.donor := fun _ hm => hcourse.mem_home hm
  refine ⟨heq, fun m hm => ⟨hcourse.homed.mem_placed (hmoved m hm), hmoved m hm,
    hcourse.exists_endpoints hm⟩, fun p x slot hx hnone hp => ?_,
    hcourse.settles.moved_once hcourse.nodup_filled, hcourse.settles.donor_ne_receiver,
    hcourse.settles.prefix_or_append, fun slot => ?_⟩
  · exact hcourse.mem_final hp ((hcourse.homed.notMem_placed_iff hx).mpr hnone)
  · obtain ⟨others, hslot, hothers, hlocal, hforeign⟩ := hcourse.slotAt_filled slot
    exact ⟨_, others, hslot, Layout.placeLocal_ascending sorted endpoints slot, hothers, hlocal,
      hforeign⟩

/-- Three partitions of one host, one of which goes to the other host. -/
theorem assign_moves_one_away :
    let partitions : List Hosted := [⟨⟨"p", "t", ⟨[], [5]⟩⟩, ⟨"a", 1⟩⟩,
      ⟨⟨"q", "t", ⟨[5], [7]⟩⟩, ⟨"a", 1⟩⟩, ⟨⟨"r", "t", ⟨[7], []⟩⟩, ⟨"a", 1⟩⟩]
    let endpoints : List Endpoint := [⟨"a", 0⟩, ⟨"b", 0⟩]
    let home := (Layout.ofEndpoints partitions endpoints).placeLocal
    let filled := (home.1.fill home.2 (greatestPerSlot 3 2)).1
    let moves := (filled.balance (leastPerSlot 3 2) (greatestPerSlot 3 2)).moves
    moves = [⟨2, 0, 1⟩] ∧
      (∃ a, (assign ⟨"t", ⟨[], []⟩, none⟩ partitions endpoints).outcome = .ok a) ∧
      ∀ m ∈ moves, m.partition ∈ home.1.slotAt m.donor ∧
        ∃ giver taker, endpoints[m.donor]? = some giver ∧ endpoints[m.receiver]? = some taker ∧
          giver.address ≠ taker.address := by
  intro partitions endpoints home filled moves
  have hsort : Hosted.sort partitions = partitions := List.mergeSort_of_pairwise (by decide)
  obtain ⟨a, ha, -⟩ := assign_answers ⟨"t", ⟨[], []⟩, none⟩ (by decide : 0 < endpoints.length)
    (by decide : endpoints.length ≤ partitions.length) (by decide)
  have hmoves := assign_moves _ ha
  rw [hsort] at hmoves
  obtain ⟨-, hmoved, -⟩ := hmoves
  exact ⟨by decide, ⟨a, ha⟩, fun m hm => (hmoved m hm).2⟩

end Scan

end Keyspan
