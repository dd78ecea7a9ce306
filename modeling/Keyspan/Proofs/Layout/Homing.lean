import Keyspan.Layout.Local
import Keyspan.Proofs.Layout.Contents

/-!
# The slots of a host take equal turns

In the first phase the slots of one host take turns, and only partitions of that host go to them.
`Rotations.slotsOf` lists the slots of a host in turn; serving the first of them and sending it to
the end keeps the counts along the list level: they grow from the front to the back, by one at
most.

Results:
* `slotsOf_addSlot`, `slotsOf_takeTurn`: what building and turning do to the slots of every host.
* `ofEndpoints_turns`, `Turns.takeTurn`: the invariant of the phase, at the start and after a turn.
* `placeLocal_homed`: the phase places exactly the partitions that have a home, each at home, and
  leaves the slots of every host within one of each other.
* `Homed.mem_placed_iff`: those are the partitions whose host has an endpoint.
* `Turns.sum_countAt_host`: all slots of a host together hold what is placed of its partitions.
-/

namespace Keyspan

open Finset (range)

namespace Rotations

/-! ## The slots of a host -/

/-- The slots of a host, the next one first; none if no endpoint is there. -/
def slotsOf (host : String) : Rotations → List Nat
  | [] => []
  | (h, r) :: rest => if host == h then r.toList else slotsOf host rest

theorem slotsOf_addSlot (host : String) (slot : Nat) (rotations : Rotations) (other : String) :
    slotsOf other (addSlot host slot rotations) =
      slotsOf other rotations ++ if other = host then [slot] else [] := by
  induction rotations with
  | nil =>
    by_cases h : other = host <;> simp [addSlot, slotsOf, Rotation.toList, h]
  | cons entry rest ih =>
    obtain ⟨h, r⟩ := entry
    unfold addSlot
    by_cases hh : host = h
    · subst hh
      by_cases ho : other = host <;> simp [slotsOf, Rotation.toList, Rotation.add, ho]
    · by_cases ho : other = h
      · subst ho
        simp [slotsOf, hh, Ne.symm hh]
      · simp [slotsOf, hh, ho, ih]

theorem takeTurn_eq_none_iff (host : String) (rotations : Rotations) :
    takeTurn host rotations = none ↔ slotsOf host rotations = [] := by
  induction rotations with
  | nil => simp [takeTurn, slotsOf]
  | cons entry rest ih =>
    obtain ⟨h, r⟩ := entry
    by_cases hh : host = h
    · simp [takeTurn, slotsOf, Rotation.toList, hh]
    · simp [takeTurn, slotsOf, hh, ih]

/-- **A turn serves the first slot of the host** and sends it to the end; other hosts keep their
turns. -/
theorem slotsOf_takeTurn {host : String} {slot : Nat} {rotations rotations' : Rotations}
    (h : takeTurn host rotations = some (slot, rotations')) :
    ∃ later, slotsOf host rotations = slot :: later ∧
      ∀ other, slotsOf other rotations' =
        if other = host then later ++ [slot] else slotsOf other rotations := by
  induction rotations generalizing rotations' with
  | nil => exact nomatch h
  | cons entry rest ih =>
    obtain ⟨first, r⟩ := entry
    unfold takeTurn at h
    by_cases hh : host = first
    · subst hh
      rw [if_pos (beq_self_eq_true host)] at h
      obtain ⟨rfl, rfl⟩ := Prod.mk.inj (Option.some.inj h)
      refine ⟨r.later, by simp [slotsOf, Rotation.toList], fun other => ?_⟩
      by_cases ho : other = host
      · simp [slotsOf, ho, Rotation.toList_turn]
      · simp [slotsOf, ho]
    · rw [if_neg (by simpa using hh)] at h
      obtain ⟨⟨slot', rest'⟩, hrest, heq⟩ := Option.map_eq_some_iff.mp h
      obtain ⟨rfl, rfl⟩ := Prod.mk.inj heq
      obtain ⟨later, hslots, hothers⟩ := ih hrest
      refine ⟨later, by simp [slotsOf, hh, hslots], fun other => ?_⟩
      by_cases ho : other = first
      · simp [slotsOf, ho, Ne.symm hh]
      · simp [slotsOf, ho, hothers]

/-- The numbers from `first` on of the endpoints of a host. -/
def numbersOf (host : String) : Nat → List Endpoint → List Nat
  | _, [] => []
  | first, e :: rest =>
    if host = e.address then first :: numbersOf host (first + 1) rest
    else numbersOf host (first + 1) rest

theorem slotsOf_ofEndpoints (host : String) (first : Nat) (known : Rotations)
    (endpoints : List Endpoint) :
    slotsOf host (ofEndpoints first known endpoints) =
      slotsOf host known ++ numbersOf host first endpoints := by
  induction endpoints generalizing first known with
  | nil => simp [ofEndpoints, numbersOf]
  | cons e rest ih =>
    unfold ofEndpoints numbersOf
    rw [ih, slotsOf_addSlot, List.append_assoc]
    split <;> rfl

/-- **The numbers of a host** are those at which its endpoints stand, in ascending order. -/
theorem numbersOf_eq_filter (host : String) (first : Nat) (endpoints : List Endpoint) :
    numbersOf host first endpoints = (List.range' first endpoints.length).filter fun slot =>
      (endpoints[slot - first]?).map Endpoint.address = some host := by
  induction endpoints generalizing first with
  | nil => rfl
  | cons e rest ih =>
    have hlater : ∀ slot ∈ List.range' (first + 1) rest.length,
        (rest[slot - (first + 1)]?).map Endpoint.address =
          ((e :: rest)[slot - first]?).map Endpoint.address := fun slot hslot => by
      have hlt := (List.mem_range'_1.mp hslot).1
      rw [show slot - first = slot - (first + 1) + 1 by omega, List.getElem?_cons_succ]
    have hself : ((e :: rest)[first - first]?).map Endpoint.address = some host ↔
        host = e.address := by
      simp [eq_comm]
    unfold numbersOf
    rw [ih, List.filter_congr fun slot hslot => by rw [hlater slot hslot], List.length_cons,
      List.range'_succ, List.filter_cons]
    simp only [decide_eq_true_eq, hself]

theorem mem_numbersOf {host : String} {slot : Nat} {endpoints : List Endpoint} :
    slot ∈ numbersOf host 0 endpoints ↔
      (endpoints[slot]?).map Endpoint.address = some host := by
  rw [numbersOf_eq_filter, List.mem_filter, decide_eq_true_eq, ← List.range_eq_range',
    List.mem_range]
  refine and_iff_right_of_imp fun h => ?_
  obtain ⟨e, he, -⟩ := Option.map_eq_some_iff.mp h
  exact (List.getElem?_eq_some_iff.mp he).1

theorem nodup_numbersOf (host : String) (endpoints : List Endpoint) :
    (numbersOf host 0 endpoints).Nodup := by
  rw [numbersOf_eq_filter, ← List.range_eq_range']
  exact List.nodup_range.filter _

end Rotations

namespace Layout

/-! ## Who is at home where -/

/-- The host of a partition, if there is such a partition. -/
def hostOf (l : Layout) (p : Nat) : Option String := (l.partitions[p]?).map Hosted.host

/-- The address of a slot, if there is such a slot. -/
def addressOf (l : Layout) (slot : Nat) : Option String :=
  (l.endpoints[slot]?).map Endpoint.address

/-- Whether a partition lives on a host that has a slot. -/
def hasHome (l : Layout) (p : Nat) : Bool :=
  match l.partitions[p]? with
  | some h => l.endpoints.any fun e => e.address == h.host
  | none => false

theorem hasHome_ofEndpoints_iff {partitions : List Hosted} {endpoints : List Endpoint} {p : Nat} :
    (ofEndpoints partitions endpoints).hasHome p = true ↔
      ∃ x, partitions[p]? = some x ∧ ∃ e ∈ endpoints, e.address = x.host := by
  unfold hasHome ofEndpoints
  dsimp only
  cases partitions[p]? with
  | none => simp
  | some x => simp [List.any_eq_true]

/-- **The invariant of the first phase.** -/
structure Turns (l : Layout) : Prop where
  size : l.size = l.endpoints.length
  slots : ∀ host slot, slot ∈ l.rotations.slotsOf host ↔ l.addressOf slot = some host
  nodup : ∀ host, (l.rotations.slotsOf host).Nodup
  /-- Along the slots of a host in turn, counts grow, by one at most. -/
  level : ∀ host, (l.rotations.slotsOf host).Pairwise fun a b =>
    l.countAt a ≤ l.countAt b ∧ l.countAt b ≤ l.countAt a + 1
  home : ∀ slot, ∀ p ∈ l.slotAt slot, l.hostOf p = l.addressOf slot

theorem slotAt_ofEndpoints (partitions : List Hosted) (endpoints : List Endpoint) (slot : Nat) :
    (ofEndpoints partitions endpoints).slotAt slot = [] := by
  unfold slotAt ofEndpoints
  rw [List.getElem?_map]
  cases endpoints[slot]? <;> rfl

theorem ofEndpoints_turns (partitions : List Hosted) (endpoints : List Endpoint) :
    (ofEndpoints partitions endpoints).Turns := by
  have hslots : ∀ host, (ofEndpoints partitions endpoints).rotations.slotsOf host =
      Rotations.numbersOf host 0 endpoints := fun host =>
    Rotations.slotsOf_ofEndpoints host 0 [] endpoints
  refine ⟨List.length_map _, fun host slot => ?_, fun host => ?_, fun host => ?_, ?_⟩
  · rw [hslots]
    exact Rotations.mem_numbersOf
  · rw [hslots]
    exact Rotations.nodup_numbersOf host endpoints
  · have hcount : ∀ slot, (ofEndpoints partitions endpoints).countAt slot = 0 := fun slot => by
      rw [← length_slotAt, slotAt_ofEndpoints]
      rfl
    refine List.pairwise_of_forall fun a b => ?_
    rw [hcount, hcount]
    exact ⟨le_refl _, Nat.zero_le _⟩
  · intro slot p hp
    rw [slotAt_ofEndpoints] at hp
    exact absurd hp List.not_mem_nil

/-- **Counts that grow along a list, by one at most, do so again after a turn**: the first one
grows by one and goes to the end. -/
theorem pairwise_level_turn {count : Nat → Nat} {slot : Nat} {later : List Nat}
    (hslot : slot ∉ later)
    (h : (slot :: later).Pairwise fun a b => count a ≤ count b ∧ count b ≤ count a + 1) :
    (later ++ [slot]).Pairwise fun a b =>
      (count a + if a = slot then 1 else 0) ≤ (count b + if b = slot then 1 else 0) ∧
        (count b + if b = slot then 1 else 0) ≤ (count a + if a = slot then 1 else 0) + 1 := by
  have hne : ∀ a ∈ later, a ≠ slot := fun a ha heq => hslot (heq ▸ ha)
  rw [List.pairwise_cons] at h
  refine List.pairwise_append.mpr ⟨?_, List.pairwise_singleton _ _, fun a ha b hb => ?_⟩
  · refine h.2.imp_of_mem fun {a b} ha hb hab => ?_
    rw [if_neg (hne a ha), if_neg (hne b hb)]
    exact hab
  · rw [List.mem_singleton.mp hb, if_pos rfl, if_neg (hne a ha)]
    have := h.1 a ha
    omega

namespace Turns

variable {l : Layout}

theorem lt_size (h : l.Turns) {host : String} {slot : Nat}
    (hs : slot ∈ l.rotations.slotsOf host) : slot < l.size := by
  obtain ⟨e, he, -⟩ := Option.map_eq_some_iff.mp ((h.slots host slot).mp hs)
  rw [h.size]
  exact (List.getElem?_eq_some_iff.mp he).1

theorem exists_addressOf (h : l.Turns) {slot : Nat} (hs : slot < l.size) :
    ∃ host, l.addressOf slot = some host := by
  unfold addressOf
  rw [List.getElem?_eq_getElem (h.size ▸ hs)]
  exact ⟨_, rfl⟩

theorem hasHome_iff (h : l.Turns) {p : Nat} {x : Hosted} (hp : l.partitions[p]? = some x) :
    l.hasHome p = true ↔ l.rotations.slotsOf x.host ≠ [] := by
  unfold hasHome
  rw [hp]
  dsimp only
  rw [List.any_eq_true]
  constructor
  · rintro ⟨e, he, heq⟩
    obtain ⟨slot, hslot⟩ := List.mem_iff_getElem?.mp he
    refine List.ne_nil_of_mem ((h.slots x.host slot).mpr ?_)
    unfold addressOf
    rw [hslot]
    exact congrArg some (beq_iff_eq.mp heq)
  · intro hne
    obtain ⟨slot, hslot⟩ := List.exists_mem_of_ne_nil _ hne
    obtain ⟨e, he, heq⟩ := Option.map_eq_some_iff.mp ((h.slots x.host slot).mp hslot)
    exact ⟨e, List.mem_of_getElem? he, beq_iff_eq.mpr heq⟩

/-- **Two slots of one host hold the same number of partitions, or one more or less.** -/
theorem countAt_le (h : l.Turns) {host : String} {a b : Nat} (ha : l.addressOf a = some host)
    (hb : l.addressOf b = some host) : l.countAt a ≤ l.countAt b + 1 := by
  have hlevel := h.level host
  have hforth : (l.rotations.slotsOf host).Pairwise fun a b => l.countAt a ≤ l.countAt b + 1 :=
    hlevel.imp fun hab => Nat.le_succ_of_le hab.1
  exact hforth.forall_of_forall_of_flip (fun _ _ => Nat.le_succ _)
    (hlevel.imp fun hab => hab.2) ((h.slots host a).mpr ha) ((h.slots host b).mpr hb)

theorem home_put (h : l.Turns) {p slot : Nat} (hs : slot < l.size)
    (hp : l.hostOf p = l.addressOf slot) (other : Nat) :
    ∀ q ∈ (l.put slot p).slotAt other, l.hostOf q = l.addressOf other := by
  intro q hq
  rw [slotAt_put hs] at hq
  split at hq
  · rename_i heq
    rcases List.mem_append.mp hq with hq | hq
    · exact h.home other q hq
    · rw [List.mem_singleton.mp hq, heq]
      exact hp
  · exact h.home other q hq

/-- **A turn keeps the invariant**: the slot served goes behind the others of its host, which by
then hold as much as it did or one more. -/
theorem takeTurn (h : l.Turns) {p slot : Nat} {x : Hosted} (hp : l.partitions[p]? = some x)
    {rotations : Rotations} (ht : l.rotations.takeTurn x.host = some (slot, rotations)) :
    l.addressOf slot = some x.host ∧ slot < l.size ∧
      ({ l.put slot p with rotations := rotations } : Layout).Turns := by
  obtain ⟨later, hslots, hothers⟩ := Rotations.slotsOf_takeTurn ht
  have hmem : slot ∈ l.rotations.slotsOf x.host := hslots ▸ List.mem_cons_self
  have haddress := (h.slots x.host slot).mp hmem
  have hs := h.lt_size hmem
  have hnodup := h.nodup x.host
  rw [hslots, List.nodup_cons] at hnodup
  have hcount : ∀ other, ({ l.put slot p with rotations := rotations } : Layout).countAt other =
      l.countAt other + if other = slot then 1 else 0 := fun other => countAt_put l slot p other hs
  refine ⟨haddress, hs, ?_, fun host other => ?_, fun host => ?_, fun host => ?_, ?_⟩
  · exact (size_put l slot p).trans h.size
  · rw [hothers]
    split
    · rename_i heq
      rw [heq]
      refine Iff.trans ?_ (h.slots x.host other)
      rw [hslots]
      exact (List.perm_append_singleton slot later).mem_iff
    · exact h.slots host other
  · rw [hothers]
    split
    · exact (List.perm_append_singleton slot later).nodup_iff.mpr (List.nodup_cons.mpr hnodup)
    · exact h.nodup host
  · rw [hothers]
    split
    · have hlevel := h.level x.host
      rw [hslots] at hlevel
      simp only [hcount]
      exact pairwise_level_turn hnodup.1 hlevel
    · rename_i hne
      refine (h.level host).imp_of_mem fun {a b} ha hb hab => ?_
      have hother : ∀ c ∈ l.rotations.slotsOf host, c ≠ slot := fun c hc heq => by
        rw [heq, h.slots, haddress] at hc
        exact hne (Option.some.inj hc).symm
      rw [hcount, hcount, if_neg (hother a ha), if_neg (hother b hb)]
      exact hab
  · refine h.home_put hs ?_
    unfold hostOf
    rw [hp, haddress]
    rfl

end Turns

/-! ## The phase -/

/-- **What the first phase makes of a layout**, for some of the partitions: those that have a home
are placed, each at home, and nothing else changes. -/
structure Homed (l : Layout) (ps : List Nat) (l' : Layout) (placed : List Nat) : Prop where
  turns : l'.Turns
  partitions : l'.partitions = l.partitions
  endpoints : l'.endpoints = l.endpoints
  chosen : placed = ps.filter l.hasHome
  perm : l'.slots.flatten.Perm (placed ++ l.slots.flatten)

theorem placeAtHome_homed {l : Layout} (h : l.Turns) {p : Nat} {x : Hosted}
    (hp : l.partitions[p]? = some x) :
    Homed l [p] (l.placeAtHome p x).1 (if (l.placeAtHome p x).2 then [p] else []) := by
  unfold placeAtHome
  cases ht : l.rotations.takeTurn x.host with
  | none =>
    have hhome : l.hasHome p = false := by
      have hslots := (Rotations.takeTurn_eq_none_iff x.host l.rotations).mp ht
      cases hh : l.hasHome p with
      | false => rfl
      | true => exact absurd hslots ((h.hasHome_iff hp).mp hh)
    exact ⟨h, rfl, rfl, by simp [hhome], List.Perm.refl _⟩
  | some turn =>
    obtain ⟨slot, rotations⟩ := turn
    obtain ⟨-, hs, hturns⟩ := h.takeTurn hp ht
    have hhome : l.hasHome p = true := by
      refine (h.hasHome_iff hp).mpr fun hslots => ?_
      rw [(Rotations.takeTurn_eq_none_iff x.host l.rotations).mpr hslots] at ht
      exact nomatch ht
    exact ⟨hturns, rfl, rfl, by simp [hhome], flatten_put_perm hs p⟩

/-- **The first phase places the partitions that have a home, each at home.** -/
theorem placeLocalFrom_homed {l : Layout} (h : l.Turns) {first : Nat} {rest : List Hosted}
    (hrest : l.partitions.drop first = rest) :
    Homed l (List.range' first rest.length) (l.placeLocalFrom first rest).1
      (l.placeLocalFrom first rest).2 := by
  induction rest generalizing l first with
  | nil => exact ⟨h, rfl, rfl, rfl, List.Perm.refl _⟩
  | cons x rest ih =>
    obtain ⟨hx, htail⟩ := drop_eq_cons hrest
    have hone := placeAtHome_homed h hx
    have hnext : (l.placeAtHome first x).1.partitions.drop (first + 1) = rest := by
      rw [hone.partitions]
      exact htail
    have hothers := ih hone.turns hnext
    have hhome : (l.placeAtHome first x).1.hasHome = l.hasHome := by
      funext p
      unfold hasHome
      rw [hone.partitions, hone.endpoints]
    have hplaced := hothers.chosen
    have hfirst := hone.chosen
    rw [hhome] at hplaced
    rw [placeLocalFrom_cons]
    refine ⟨hothers.turns, hothers.partitions.trans hone.partitions,
      hothers.endpoints.trans hone.endpoints, ?_, ?_⟩
    · dsimp only
      rw [hplaced, hfirst, List.length_cons, List.range'_succ, ← List.filter_append]
      rfl
    · dsimp only
      rw [List.append_assoc]
      refine hothers.perm.trans ((hone.perm.append_left _).trans ?_)
      exact List.perm_append_comm_assoc _ _ _

theorem placeLocal_homed {l : Layout} (h : l.Turns) :
    Homed l (List.range l.partitions.length) l.placeLocal.1 l.placeLocal.2 := by
  rw [List.range_eq_range']
  exact placeLocalFrom_homed h rfl

/-- **The first phase places the partitions whose host has an endpoint**, if nothing is placed
before. -/
theorem Homed.mem_placed_iff {partitions : List Hosted} {endpoints : List Endpoint} {home : Layout}
    {placed : List Nat}
    (h : Homed (ofEndpoints partitions endpoints) (List.range partitions.length) home placed)
    {p : Nat} :
    p ∈ placed ↔ ∃ x, partitions[p]? = some x ∧ ∃ e ∈ endpoints, e.address = x.host := by
  rw [h.chosen, List.mem_filter, List.mem_range, hasHome_ofEndpoints_iff]
  exact and_iff_right_of_imp fun ⟨x, hx, _⟩ => (List.getElem?_eq_some_iff.mp hx).1

/-- **All slots of a host together hold what is placed of its partitions**, as long as every
partition is at home. -/
theorem Turns.sum_countAt_host {l : Layout} (h : l.Turns) (host : String) :
    ∑ slot ∈ range l.size with l.addressOf slot = some host, l.countAt slot =
      l.slots.flatten.countP fun p => decide (l.hostOf p = some host) := by
  rw [List.countP_flatten, ← tally_eq_sum, Finset.sum_filter]
  refine Finset.sum_congr rfl fun slot _ => ?_
  split
  · rename_i haddress
    refine (List.countP_eq_length.mpr fun p hp => ?_).symm
    rw [h.home slot p hp]
    exact decide_eq_true haddress
  · rename_i haddress
    refine (List.countP_eq_zero.mpr fun p hp => ?_).symm
    rw [h.home slot p hp]
    exact fun htrue => haddress (of_decide_eq_true htrue)

end Layout

end Keyspan
