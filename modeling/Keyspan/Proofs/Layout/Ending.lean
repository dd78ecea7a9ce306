import Keyspan.Proofs.Layout.Balancing

/-!
# Balancing comes to an end

The third phase repeats steps until none is left to make; here it is seen to stop, with any bounds
and from any layout. Steps lower the energy, so the steps that are counted out beforehand are
enough, and none of them breaks off. Where it stops the layout is settled, and what that says of the
counts depends on whether the bounds allow as many partitions as there are.

Results:
* `Makes.split`: steps that stop cannot be outrun.
* `balance_ends`: balancing stops, loses no partition, and leaves every slot within the bounds, or
  all of them at or beyond the bound that the number of partitions is beyond.
-/

namespace Keyspan

namespace Balancer

variable {lower upper : Int} {b last last' : Balancer} {ms ms' : List Move}

/-- **Steps that stop cannot be outrun**: other steps from the same start are the first of them. -/
theorem Makes.split (h : Makes lower upper b ms last) (hstop : last.step lower upper = .settled)
    (h' : Makes lower upper b ms' last') :
    ∃ left, ms = ms' ++ left ∧ Makes lower upper last' left last := by
  induction h' generalizing ms with
  | rest => exact ⟨ms, rfl, h⟩
  | move hstep' _ ih =>
    cases h with
    | rest => exact nomatch hstop.symm.trans hstep'
    | move hstep hrest =>
      obtain ⟨rfl, rfl⟩ := Step.moved.inj (hstep.symm.trans hstep')
      obtain ⟨left, rfl, hleft⟩ := ih hrest
      exact ⟨left, rfl, hleft⟩

/-- Where steps lead on or stop, none breaks off. -/
theorem Makes.not_broken (h : Makes lower upper b ms last)
    (hstop : last.step lower upper = .settled) (layout : Layout) (f : Failure) :
    b.step lower upper ≠ .broken layout f := by
  intro hbroken
  cases h with
  | rest => exact nomatch hstop.symm.trans hbroken
  | move hstep _ => exact nomatch hstep.symm.trans hbroken

end Balancer

namespace Layout

/-- **Balancing comes to an end, whatever the bounds.** Its moves are those of steps in a row until
no step is left; no steps are more than these, and none breaks off. No partition is lost or
invented. If the bounds are in order, then every slot ends up within them where they allow as many
partitions as there are; with more partitions no slot ends up below the upper bound, with fewer
none above the lower one. -/
theorem balance_ends {l : Layout} (hk : l.Known) (lower upper : Int) :
    let balanced := l.balance lower upper
    let start := Balancer.ofLayout lower upper l
    (∃ last, start.Makes lower upper balanced.moves last ∧
        last.step lower upper = .settled ∧ last.layout = balanced.layout) ∧
      (∀ ms b, start.Makes lower upper ms b → ms <+: balanced.moves ∧
        ∀ layout f, b.step lower upper ≠ .broken layout f) ∧
      balanced.outcome = .ok () ∧ balanced.layout.size = l.size ∧
      balanced.layout.slots.flatten.Perm l.slots.flatten ∧
      (lower ≤ upper → ∀ slot, slot < l.size →
        (l.size * lower ≤ l.slots.flatten.length → l.slots.flatten.length ≤ l.size * upper →
          lower ≤ balanced.layout.countAt slot ∧ balanced.layout.countAt slot ≤ upper) ∧
        (l.size * upper < l.slots.flatten.length → upper ≤ balanced.layout.countAt slot) ∧
        (l.slots.flatten.length < l.size * lower → balanced.layout.countAt slot ≤ lower)) := by
  intro balanced start
  obtain ⟨hok, last, hmakes, hstop, hlast⟩ := balance_makes hk lower upper
  have hsettles := (balance_settles hk lower upper).2
  have hsize : balanced.layout.size = l.size := hsettles.frame.1
  have htotal : balanced.layout.slots.flatten.length = l.slots.flatten.length :=
    hsettles.perm.length_eq
  refine ⟨⟨last, hmakes, hstop, hlast⟩, fun ms b hb => ?_, hok, hsize, hsettles.perm,
    fun hle slot hs => ?_⟩
  · obtain ⟨left, hsplit, hleft⟩ := hmakes.split hstop hb
    exact ⟨⟨left, hsplit.symm⟩, hleft.not_broken hstop⟩
  · have hend := hsettles.settled
    rw [← hsize] at hs
    rw [← hsize, ← htotal]
    exact ⟨fun hmin hmax => hend.between hle hmin hmax hs, fun hmany => hend.upper_le hle hmany hs,
      fun hfew => hend.le_lower hle hfew hs⟩

/-- Too many partitions for the bounds: no slot ends up below the upper one. -/
theorem balance_ends_too_many :
    let h : Hosted := ⟨⟨"p", "t", ⟨[], []⟩⟩, ⟨"a", 0⟩⟩
    let l : Layout := ⟨List.replicate 5 h, List.replicate 3 ⟨"b", 0⟩, [[0, 1, 2, 3], [], [4]],
      [("b", ⟨0, [1, 2]⟩)]⟩
    l.Known ∧ (l.balance 0 1).outcome = .ok () ∧
      ∀ slot, slot < 3 → 1 ≤ (l.balance 0 1).layout.countAt slot := by
  intro h l
  have hk : l.Known := by
    unfold Known
    decide
  obtain ⟨-, -, hok, -, -, hbounds⟩ := balance_ends hk 0 1
  refine ⟨hk, hok, fun slot hs => ?_⟩
  exact_mod_cast (hbounds (by decide) slot hs).2.1 (by decide)

end Layout

end Keyspan
