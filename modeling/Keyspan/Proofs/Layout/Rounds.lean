import Keyspan.Proofs.Layout.Growing
import Mathlib.Data.List.Rotate

/-!
# The first phase deals partitions out in rounds

The slots of a host take turns, and what other hosts get in between does not matter: the turns of a
host are as many as there were partitions on it. So the slot of a partition is known in advance. It
is the one whose turn it is after as many turns as there are earlier partitions on the host, and the
slots of the host in turn are those in ascending order, rotated by that number.

* `Layout.slotsAt`, `Layout.hostedBefore`: the slots of a host, and how many of the first partitions
  live there.
* `Layout.dueSlot?`: the slot that a partition is dealt to.
* `Layout.Rounds`: the invariant of the phase, after some of the partitions.

Results:
* `ofEndpoints_rounds`, `Rounds.placeAtHome`: the invariant at the start and after one partition.
* `placeLocal_rounds`: the invariant at the end.
* `placeLocal_deals`: what the phase makes of any partitions and endpoints.
-/

namespace Keyspan.Layout

variable {l l' : Layout} {n : Nat}

/-! ## Whose turn it is -/

/-- The slots of a host, in ascending order. -/
def slotsAt (l : Layout) (host : String) : List Nat :=
  (List.range l.endpoints.length).filter fun slot => l.addressOf slot = some host

/-- How many of the first partitions live on a host. -/
def hostedBefore (l : Layout) (n : Nat) (host : String) : Nat :=
  ((l.partitions.take n).map Hosted.host).count host

/-- **The slot that a partition is dealt to**: the one whose turn it is, of the slots of its host,
after as many turns as there are earlier partitions on the host. -/
def dueSlot? (l : Layout) (p : Nat) : Option Nat :=
  (l.hostOf p).bind fun host =>
    (l.slotsAt host)[l.hostedBefore p host % (l.slotsAt host).length]?

theorem hostedBefore_succ {x : Hosted} (hx : l.partitions[n]? = some x) (host : String) :
    l.hostedBefore (n + 1) host = l.hostedBefore n host + if host = x.host then 1 else 0 := by
  unfold hostedBefore
  rw [List.take_add_one, hx, Option.toList_some, List.map_append, List.count_append,
    List.map_singleton, List.count_singleton]
  simp [eq_comm (a := host)]

theorem dueSlot?_eq {p : Nat} {x : Hosted} (hx : l.partitions[p]? = some x) :
    l.dueSlot? p = ((l.slotsAt x.host).rotate (l.hostedBefore p x.host)).head? := by
  unfold dueSlot? hostOf
  rw [hx, Option.map_some, Option.bind_some]
  by_cases hslots : l.slotsAt x.host = []
  · rw [hslots, List.rotate_nil]
    rfl
  · rw [← List.rotate_mod,
      List.head?_rotate (Nat.mod_lt _ (List.length_pos_of_ne_nil hslots))]

/-- **The invariant of the first phase, after the first `n` partitions**: the slots of a host have
taken as many turns as there are partitions on it, and every slot holds those of the first `n` that
were dealt to it. -/
structure Rounds (l : Layout) (n : Nat) : Prop where
  turned : ∀ host, l.rotations.slotsOf host = (l.slotsAt host).rotate (l.hostedBefore n host)
  dealt : ∀ slot p, p ∈ l.slotAt slot ↔ p < n ∧ l.dueSlot? p = some slot

/-- **Nothing is dealt yet in the empty layout.** -/
theorem ofEndpoints_rounds (partitions : List Hosted) (endpoints : List Endpoint) :
    (ofEndpoints partitions endpoints).Rounds 0 := by
  refine ⟨fun host => ?_, fun slot p => ?_⟩
  · have hnone : (ofEndpoints partitions endpoints).hostedBefore 0 host = 0 := rfl
    rw [hnone, List.rotate_zero]
    refine (Rotations.slotsOf_ofEndpoints host 0 [] endpoints).trans ?_
    rw [Rotations.numbersOf_eq_filter, ← List.range_eq_range']
    rfl
  · rw [slotAt_ofEndpoints]
    simp

/-! ## One partition -/

/-- **One more partition keeps the invariant.** -/
theorem Rounds.placeAtHome (hr : l.Rounds n) (h : l.Turns) {x : Hosted}
    (hx : l.partitions[n]? = some x) : (l.placeAtHome n x).1.Rounds (n + 1) := by
  have hdue := dueSlot?_eq hx
  rw [← hr.turned] at hdue
  unfold Layout.placeAtHome
  cases ht : l.rotations.takeTurn x.host with
  | none =>
    have hslots := (Rotations.takeTurn_eq_none_iff x.host l.rotations).mp ht
    rw [hslots] at hdue
    show l.Rounds (n + 1)
    refine ⟨fun host => ?_, fun slot p => ?_⟩
    · rw [hr.turned, hostedBefore_succ hx]
      by_cases heq : host = x.host
      · -- there are no slots to rotate
        rw [hr.turned, List.rotate_eq_nil_iff] at hslots
        rw [heq, hslots, List.rotate_nil, List.rotate_nil]
      · rw [if_neg heq]
        rfl
    · rw [hr.dealt, Nat.lt_succ_iff_lt_or_eq, or_and_right]
      refine (or_iff_left ?_).symm
      rintro ⟨rfl, hslot⟩
      rw [hdue] at hslot
      exact nomatch hslot
  | some turn =>
    obtain ⟨slot, rotations⟩ := turn
    obtain ⟨-, hs, -⟩ := h.takeTurn hx ht
    obtain ⟨later, hslots, hturned⟩ := Rotations.slotsOf_takeTurn ht
    rw [hslots, List.head?_cons] at hdue
    refine ⟨fun host => ?_, fun other p => ?_⟩
    · show rotations.slotsOf host = (l.slotsAt host).rotate (l.hostedBefore (n + 1) host)
      rw [hturned, hostedBefore_succ hx]
      by_cases heq : host = x.host
      · rw [if_pos heq, if_pos heq, heq, ← List.rotate_rotate, ← hr.turned, hslots,
          List.rotate_cons_succ, List.rotate_zero]
      · rw [if_neg heq, if_neg heq]
        exact hr.turned host
    · show p ∈ (l.put slot n).slotAt other ↔ p < n + 1 ∧ l.dueSlot? p = some other
      rw [slotAt_put hs, Nat.lt_succ_iff_lt_or_eq, or_and_right, ← hr.dealt]
      have hlast : p = n ∧ l.dueSlot? p = some other ↔ p = n ∧ other = slot := by
        refine and_congr_right fun heq => ?_
        rw [heq, hdue, Option.some_inj, eq_comm]
      rw [hlast]
      split
      · simp [*]
      · simp [*]

/-! ## All partitions -/

theorem placeLocalFrom_rounds (h : l.Turns) {first : Nat} (hr : l.Rounds first)
    {rest : List Hosted} (hrest : l.partitions.drop first = rest) :
    (l.placeLocalFrom first rest).1.Rounds (first + rest.length) := by
  induction rest generalizing l first with
  | nil => exact hr
  | cons x rest ih =>
    obtain ⟨hx, htail⟩ := drop_eq_cons hrest
    have hone := placeAtHome_homed h hx
    rw [placeLocalFrom_cons, List.length_cons, ← Nat.add_assoc, Nat.add_right_comm]
    exact ih hone.turns (hr.placeAtHome h hx) (by rw [hone.partitions]; exact htail)

/-- **The first phase deals all partitions out.** -/
theorem placeLocal_rounds (partitions : List Hosted) (endpoints : List Endpoint) :
    (ofEndpoints partitions endpoints).placeLocal.1.Rounds partitions.length := by
  have hrounds := placeLocalFrom_rounds (ofEndpoints_turns partitions endpoints)
    (ofEndpoints_rounds partitions endpoints) List.drop_zero
  rwa [Nat.zero_add] at hrounds

/-- **The first phase deals the partitions of every host out to its slots in turn.** Of the
partitions on a host, in order and counted from zero, the one of number `j` is in the slot of number
`j` modulo `k`, if the host has `k` slots, in ascending order; and a slot holds no other partitions.
Every slot holds its partitions in ascending order, and two slots of one host hold the same number
of them or one more or less. The phase reports the partitions whose host has an endpoint, and
leaves the slots of a host in turn as the ascending ones, rotated by the number of its
partitions. -/
theorem placeLocal_deals (partitions : List Hosted) (endpoints : List Endpoint) :
    let home := (ofEndpoints partitions endpoints).placeLocal
    let slotsAt (host : String) : List Nat := (List.range endpoints.length).filter fun slot =>
      (endpoints[slot]?).map Endpoint.address = some host
    (∀ slot p, p ∈ home.1.slotAt slot ↔ ∃ x, partitions[p]? = some x ∧
      let j := ((partitions.take p).map Hosted.host).count x.host
      (slotsAt x.host)[j % (slotsAt x.host).length]? = some slot) ∧
      (∀ slot, (home.1.slotAt slot).Pairwise (· < ·)) ∧
      (∀ a b e e', endpoints[a]? = some e → endpoints[b]? = some e' → e.address = e'.address →
        home.1.countAt a ≤ home.1.countAt b + 1) ∧
      (∀ p, p ∈ home.2 ↔ ∃ x, partitions[p]? = some x ∧ ∃ e ∈ endpoints, e.address = x.host) ∧
      ∀ host, home.1.rotations.slotsOf host = (slotsAt host).rotate
        ((partitions.map Hosted.host).count host % (slotsAt host).length) := by
  intro home slotsAt
  have hhomed : Homed (ofEndpoints partitions endpoints) (List.range partitions.length)
      home.1 home.2 := placeLocal_homed (ofEndpoints_turns partitions endpoints)
  have hrounds : home.1.Rounds partitions.length := placeLocal_rounds partitions endpoints
  have hpartitions : home.1.partitions = partitions := hhomed.partitions
  have hendpoints : home.1.endpoints = endpoints := hhomed.endpoints
  have hslots : home.1.slotsAt = slotsAt := by
    funext host
    unfold Layout.slotsAt addressOf
    rw [hendpoints]
  refine ⟨fun slot p => ?_, placeLocal_ascending partitions endpoints,
    fun a b e e' ha hb hsame => ?_, fun p => hhomed.mem_placed_iff, fun host => ?_⟩
  · rw [hrounds.dealt]
    unfold dueSlot? hostOf hostedBefore
    rw [hpartitions, hslots]
    cases hx : partitions[p]? with
    | none => simp
    | some x =>
      have hlt := (List.getElem?_eq_some_iff.mp hx).1
      simp [hlt]
  · have haddress : ∀ {slot : Nat} {e : Endpoint}, endpoints[slot]? = some e →
        home.1.addressOf slot = some e.address := fun {slot e} he => by
      unfold addressOf
      rw [hendpoints, he]
      rfl
    exact hhomed.turns.countAt_le (haddress ha) (hsame ▸ haddress hb)
  · rw [hrounds.turned, List.rotate_mod, hslots]
    unfold hostedBefore
    rw [hpartitions, List.take_length]

-- two slots of one host take turns, and what the other host gets in between does not matter
example :
    let on (host : String) : Hosted := ⟨⟨"p", "t", ⟨[], []⟩⟩, ⟨host, 0⟩⟩
    let home := (ofEndpoints [on "a", on "b", on "a", on "c", on "a"]
      [⟨"a", 0⟩, ⟨"b", 0⟩, ⟨"a", 1⟩]).placeLocal
    home.1.slots = [[0, 4], [1], [2]] ∧ home.2 = [0, 1, 2, 4] ∧
      home.1.rotations.slotsOf "a" = [2, 0] := by
  decide

end Keyspan.Layout
