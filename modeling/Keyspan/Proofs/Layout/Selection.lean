import Keyspan.Proofs.Layout.Balancing
import Mathlib.Data.List.MinMax
import Mathlib.Data.Prod.Lex

/-!
# Balancing by present counts alone

The third phase finds its slots through two queues, and tickets in them may be out of date. Here
the slots are selected by looking at all of them and at nothing but what they hold now:
`Layout.taker?` and `Layout.giver?` are the slots between which the next move goes, and
`Layout.balanceByCounts` moves partitions until `Layout.dueMove?` finds no move. It ends because a
due move lowers the energy.

Results:
* `taker?_eq_some_iff`, `giver?_eq_some_iff`: the selected slots are the emptiest that can take and
  the fullest that can give.
* `dueMove?_eq_some_iff`, `dueMove?_eq_none_iff`: the selected move is the one that is due, and
  there is none iff the layout is settled.
* `balance_eq_balanceByCounts`: for any bounds, the queues lead to the same moves, and every
  balancer on the way makes the move that present counts select, or stops where they select none.
-/

namespace Keyspan

/-- Where keys tell the items of a list apart, the first least item is the one with the least
key. -/
theorem argmin_eq_some_iff_of_injective {α β : Type} [DecidableEq α] [LinearOrder β] {f : α → β}
    (hf : Function.Injective f) {xs : List α} {m : α} :
    xs.argmin f = some m ↔ m ∈ xs ∧ ∀ a ∈ xs, f m ≤ f a := by
  rw [List.argmin_eq_some_iff]
  refine and_congr_right fun _ => and_iff_left_of_imp fun hle a ha hge => ?_
  rw [hf (le_antisymm (hle a ha) hge)]

namespace Layout

variable {l l' : Layout} {lower upper : Int}

/-! ## Selecting slots -/

/-- **The slot to give to, by present counts**: of the slots below a bound the one that holds the
fewest partitions, the first of those that do. -/
def taker? (l : Layout) (upper : Int) : Option Nat :=
  ((List.range l.size).filter fun slot => (l.countAt slot : Int) < upper).argmin
    fun slot => toLex (l.countAt slot, slot)

/-- **The slot to take from, by present counts**: of the slots above a bound the one that holds the
most partitions, the first of those that do. -/
def giver? (l : Layout) (lower : Int) : Option Nat :=
  ((List.range l.size).filter fun slot => lower < (l.countAt slot : Int)).argmin
    fun slot => toLex (OrderDual.toDual (l.countAt slot), slot)

theorem taker?_eq_some_iff {slot : Nat} : l.taker? upper = some slot ↔ l.Emptiest upper slot := by
  unfold taker?
  rw [argmin_eq_some_iff_of_injective fun a b hab => (Prod.mk.inj (toLex.injective hab)).2]
  simp only [List.mem_filter, List.mem_range, decide_eq_true_eq]
  have hkey : ∀ other, toLex (l.countAt slot, slot) ≤ toLex (l.countAt other, other) ↔
      Ticket.lighter (l.ticket other) (l.ticket slot) = false := fun other => by
    rw [Ticket.lighter_eq_false_iff, Prod.Lex.toLex_le_toLex]
    exact Iff.rfl
  constructor
  · rintro ⟨⟨hs, hb⟩, hleast⟩
    exact ⟨hs, hb, fun other ho hbelow => (hkey other).mp (hleast other ⟨ho, hbelow⟩)⟩
  · rintro ⟨hs, hb, hleast⟩
    exact ⟨⟨hs, hb⟩, fun other ho => (hkey other).mpr (hleast other ho.1 ho.2)⟩

theorem giver?_eq_some_iff {slot : Nat} : l.giver? lower = some slot ↔ l.Fullest lower slot := by
  unfold giver?
  rw [argmin_eq_some_iff_of_injective fun a b hab => (Prod.mk.inj (toLex.injective hab)).2]
  simp only [List.mem_filter, List.mem_range, decide_eq_true_eq]
  have hkey : ∀ other,
      toLex (OrderDual.toDual (l.countAt slot), slot) ≤
          toLex (OrderDual.toDual (l.countAt other), other) ↔
        Ticket.heavier (l.ticket other) (l.ticket slot) = false := fun other => by
    rw [Ticket.heavier_eq_false_iff, Prod.Lex.toLex_le_toLex, OrderDual.toDual_lt_toDual,
      OrderDual.toDual_inj]
    exact Iff.rfl
  constructor
  · rintro ⟨⟨hs, ha⟩, hmost⟩
    exact ⟨hs, ha, fun other ho habove => (hkey other).mp (hmost other ⟨ho, habove⟩)⟩
  · rintro ⟨hs, ha, hmost⟩
    exact ⟨⟨hs, ha⟩, fun other ho => (hkey other).mpr (hmost other ho.1 ho.2)⟩

theorem taker?_eq_none_iff :
    l.taker? upper = none ↔ ∀ slot, slot < l.size → ¬ (l.countAt slot : Int) < upper := by
  unfold taker?
  rw [List.argmin_eq_none, List.filter_eq_nil_iff]
  simp only [List.mem_range, decide_eq_true_eq]

theorem giver?_eq_none_iff :
    l.giver? lower = none ↔ ∀ slot, slot < l.size → ¬ lower < (l.countAt slot : Int) := by
  unfold giver?
  rw [List.argmin_eq_none, List.filter_eq_nil_iff]
  simp only [List.mem_range, decide_eq_true_eq]

/-! ## Selecting moves -/

/-- **The next move, by present counts**: from the slot to take from to the slot to give to, unless
both are within bounds. -/
def dueMove? (l : Layout) (lower upper : Int) : Option Move :=
  match l.taker? upper, l.giver? lower with
  | some taker, some giver =>
    if lower ≤ (l.countAt taker : Int) ∧ (l.countAt giver : Int) ≤ upper then none
    else (l.slotAt giver).getLast?.map fun p => ⟨p, giver, taker⟩
  | _, _ => none

/-- **The selected move is the one that is due.** -/
theorem dueMove?_eq_some_iff {m : Move} :
    l.dueMove? lower upper = some m ↔ l.Due lower upper m := by
  unfold dueMove?
  constructor
  · intro h
    split at h
    · rename_i taker giver htaker hgiver
      split at h
      · exact nomatch h
      · rename_i hout
        have houtside : (l.countAt taker : Int) < lower ∨ upper < (l.countAt giver : Int) := by
          omega
        obtain ⟨p, hp, rfl⟩ := Option.map_eq_some_iff.mp h
        exact ⟨taker?_eq_some_iff.mp htaker, giver?_eq_some_iff.mp hgiver, houtside, hp⟩
    · exact nomatch h
  · intro h
    rw [taker?_eq_some_iff.mpr h.receiver, giver?_eq_some_iff.mpr h.donor]
    dsimp only
    have hout := h.outside
    rw [if_neg (by omega), h.last]
    rfl

theorem Due.not_settled {m : Move} (h : l.Due lower upper m) : ¬ l.Settled lower upper := by
  intro hs
  have hin := hs m.receiver m.donor h.receiver.there h.donor.there h.receiver.below h.donor.above
  have hout := h.outside
  omega

theorem dueMove?_eq_none_iff : l.dueMove? lower upper = none ↔ l.Settled lower upper := by
  constructor
  · intro h taker giver ht hg hbelow habove
    unfold dueMove? at h
    split at h
    · rename_i least most hleast hmost
      rw [taker?_eq_some_iff] at hleast
      rw [giver?_eq_some_iff] at hmost
      have hle := hleast.countAt_le ht hbelow
      have hge := hmost.le_countAt hg habove
      split at h
      · omega
      · -- the slot to take from is not empty: one of the two slots is out of bounds
        rename_i hout
        rw [Option.map_eq_none_iff, List.getLast?_eq_none_iff] at h
        have hcount : l.countAt most = 0 := by rw [← length_slotAt, h, List.length_nil]
        have hl := hleast.below
        have hm := hmost.above
        omega
    · rename_i hnone
      cases htaker : l.taker? upper with
      | none => exact absurd hbelow (taker?_eq_none_iff.mp htaker taker ht)
      | some least =>
        cases hgiver : l.giver? lower with
        | none => exact absurd habove (giver?_eq_none_iff.mp hgiver giver hg)
        | some most => exact absurd hgiver (hnone least most htaker)
  · intro h
    cases hm : l.dueMove? lower upper with
    | none => rfl
    | some m => exact absurd h (dueMove?_eq_some_iff.mp hm).not_settled

/-! ## Selecting all moves -/

/-- **Balancing by present counts**: the selected moves, one after another, until none is
selected. -/
def balanceByCounts (l : Layout) (lower upper : Int) : Balanced :=
  match h : l.dueMove? lower upper with
  | none => ⟨l, [], .ok ()⟩
  | some m =>
    have : (l.after m).energy < l.energy := (dueMove?_eq_some_iff.mp h).energy_lt
    let rest := (l.after m).balanceByCounts lower upper
    { rest with moves := m :: rest.moves }
termination_by l.energy

/-- **Due moves to the end are what present counts select.** -/
theorem Settles.balanceByCounts_eq {ms : List Move} (h : Settles lower upper l ms l') :
    l.balanceByCounts lower upper = ⟨l', ms, .ok ()⟩ := by
  induction h with
  | rest h =>
    rw [balanceByCounts]
    split
    · rfl
    · rename_i m hm
      exact absurd h (dueMove?_eq_some_iff.mp hm).not_settled
  | move hm _ ih =>
    rw [balanceByCounts]
    split
    · rename_i hnone
      exact absurd (dueMove?_eq_none_iff.mp hnone) hm.not_settled
    · rename_i m' hm'
      obtain rfl := Option.some.inj ((dueMove?_eq_some_iff.mpr hm).symm.trans hm')
      rw [ih]

end Layout

namespace Balancer

/-- **The balancers that balancing passes through.** -/
inductive Passes (lower upper : Int) (l : Layout) : Balancer → Prop
  | start : Passes lower upper l (ofLayout lower upper l)
  | step {b next : Balancer} {m : Move} (h : Passes lower upper l b)
      (hstep : b.step lower upper = .moved m next) : Passes lower upper l next

variable {l : Layout} {lower upper : Int} {b : Balancer}

theorem Passes.tracks (hk : l.Known) (h : Passes lower upper l b) :
    (b.Tracks lower upper fun _ => False) ∧ b.layout.Known := by
  induction h with
  | start =>
    obtain ⟨hlayout, htracks⟩ := ofLayout_tracks lower upper l
    exact ⟨htracks, hlayout.symm ▸ hk⟩
  | step _ hstep ih =>
    obtain ⟨htracks, hknown⟩ := ih
    obtain ⟨hm, hlayout, hnext⟩ := due_of_step htracks hknown hstep
    exact ⟨hnext, hlayout ▸ hm.known_after hknown⟩

/-- **A step of a balancer that tracks its layout is the one that present counts select.** -/
theorem step_eq_dueMove (h : b.Tracks lower upper fun _ => False) (hk : b.layout.Known) :
    match b.layout.dueMove? lower upper with
    | none => b.step lower upper = .settled
    | some m => ∃ next, b.step lower upper = .moved m next ∧ next.layout = b.layout.after m := by
  rcases step_cases h hk with ⟨hstep, hsettled⟩ | ⟨m, next, hstep, hm, hlayout, -⟩
  · rw [Layout.dueMove?_eq_none_iff.mpr hsettled]
    exact hstep
  · rw [Layout.dueMove?_eq_some_iff.mpr hm]
    exact ⟨next, hstep, hlayout⟩

end Balancer

namespace Layout

/-- **Balancing through queues is balancing by present counts**, for any bounds: the moves, the
layout after them and the end are the same. Every balancer on the way makes the move that the
present counts select, and stops where they select none, whatever old tickets its queues hold. -/
theorem balance_eq_balanceByCounts {l : Layout} (hk : l.Known) (lower upper : Int) :
    l.balance lower upper = l.balanceByCounts lower upper ∧
      ∀ b, Balancer.Passes lower upper l b →
        match b.layout.dueMove? lower upper with
        | none => b.step lower upper = .settled
        | some m => ∃ next, b.step lower upper = .moved m next ∧
            next.layout = b.layout.after m := by
  constructor
  · obtain ⟨hok, hsettles⟩ := balance_settles hk lower upper
    rw [hsettles.balanceByCounts_eq, ← hok]
  · intro b hb
    obtain ⟨htracks, hknown⟩ := hb.tracks hk
    exact Balancer.step_eq_dueMove htracks hknown

/-- With bounds that are far apart, the slots that can take can also give, and both queues hold
them: two of them are given a partition, and the tickets they have in the other queue get old. -/
theorem balance_eq_balanceByCounts_far_bounds :
    let h : Hosted := ⟨⟨"p", "t", ⟨[], []⟩⟩, ⟨"a", 0⟩⟩
    let l : Layout := ⟨List.replicate 4 h, List.replicate 3 ⟨"b", 0⟩, [[0, 1, 2, 3], [], []],
      [("b", ⟨0, [1, 2]⟩)]⟩
    l.Known ∧ (l.balanceByCounts (-1) 2).moves = [⟨3, 0, 1⟩, ⟨2, 0, 2⟩] := by
  intro h l
  have hk : l.Known := by
    unfold Known
    decide
  refine ⟨hk, ?_⟩
  rw [← (balance_eq_balanceByCounts hk (-1) 2).1]
  decide

end Layout

end Keyspan
