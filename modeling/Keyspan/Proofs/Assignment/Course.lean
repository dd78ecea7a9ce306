import Keyspan.Assignment
import Keyspan.Proofs.Layout.Balancing
import Keyspan.Proofs.Layout.Filling
import Keyspan.Proofs.Layout.Homing
import Mathlib.Algebra.Order.Floor.Div

/-!
# Assignments are even and complete

`Course` strings the three phases together: partitions that have a home are placed there, the
others fill the emptiest slots up to the greatest share, and due moves bring every slot within the
bounds. Each phase says what it does to the placed partitions as a whole, so the course as a whole
places every partition once.

Results:
* `describe_eq`, `Course.checkFilled_eq`: the last layout can be shown, and no slot of it is empty.
* `assign_phases`, `assign_eq_course`: whenever partitions and endpoints can be assigned, an
  assignment runs its course and answers the fragments of the last layout.
* `Course.perm`, `Course.within`: every partition is placed once, every slot is within bounds;
  `Course.fragments_perm`, `Course.fragments_within`: so are the fragments.
* `assign_even_and_complete`: an assignment is refused as invalid input, or it is even and
  complete.
-/

namespace Keyspan

/-! ## Traversals that do not fail -/

theorem mapM_eq_ok_filterMap {α β ε : Type} {f : α → Except ε β} {g : α → Option β} {xs : List α}
    (h : ∀ x ∈ xs, ∃ y, f x = .ok y ∧ g x = some y) : xs.mapM f = .ok (xs.filterMap g) := by
  induction xs with
  | nil => rfl
  | cons x xs ih =>
    obtain ⟨y, hf, hg⟩ := h x List.mem_cons_self
    rw [List.mapM_cons, hf, ih fun z hz => h z (List.mem_cons_of_mem x hz),
      List.filterMap_cons_some hg]
    rfl

theorem filterMap_getElem?_range {α : Type} (xs : List α) :
    (List.range xs.length).filterMap (fun i => xs[i]?) = xs := by
  induction xs with
  | nil => rfl
  | cons x xs ih =>
    rw [List.length_cons, List.range_succ_eq_map, List.filterMap_cons, List.filterMap_map]
    exact congrArg (x :: ·) ih

/-! ## Shares -/

namespace Assignment

theorem greatestPerSlot_eq (p n : Nat) : greatestPerSlot p n = p ⌈/⌉ n :=
  (Nat.ceilDiv_eq_add_pred_div p n).symm

theorem mul_leastPerSlot_le (p n : Nat) : n * leastPerSlot p n ≤ p := Nat.mul_div_le p n

theorem le_mul_greatestPerSlot {p n : Nat} (hn : 0 < n) : p ≤ n * greatestPerSlot p n := by
  have hdiv := Nat.div_add_mod (p + n - 1) n
  have hmod := Nat.mod_lt (p + n - 1) hn
  unfold greatestPerSlot
  omega

theorem leastPerSlot_le_greatestPerSlot {p n : Nat} (hn : 0 < n) :
    leastPerSlot p n ≤ greatestPerSlot p n :=
  Nat.div_le_div_right (by omega)

/-- Assignments are possible iff there are endpoints, but no more of them than partitions, and no
two partitions have one id. -/
theorem checkAssignable_eq_ok_iff (partitions : List Hosted) (endpoints : List Endpoint) :
    checkAssignable partitions endpoints = .ok () ↔
      0 < endpoints.length ∧ endpoints.length ≤ partitions.length ∧
        (partitions.map Hosted.id).Nodup := by
  unfold checkAssignable
  dsimp only
  split
  · simp; omega
  · split
    · simp; omega
    · split
      · rename_i hnodup
        simp only [hnodup, true_iff, and_true]
        omega
      · rename_i hnodup
        simp [hnodup]

theorem category_of_checkAssignable {partitions : List Hosted} {endpoints : List Endpoint}
    {f : Failure} (h : checkAssignable partitions endpoints = .error f) :
    f.category = .invalidInput := by
  unfold checkAssignable at h
  dsimp only at h
  split at h
  · obtain rfl := Except.error.inj h
    rfl
  · split at h
    · obtain rfl := Except.error.inj h
      rfl
    · split at h
      · exact nomatch h
      · obtain rfl := Except.error.inj h
        rfl

end Assignment

open Assignment (leastPerSlot greatestPerSlot checkAssignable)

namespace Layout

/-! ## The fragments of a layout -/

/-- The fragment that answers a scan from a partition, if there is such a partition. -/
def fragment? (l : Layout) (s : Scan) (p : Nat) : Option Fragment :=
  (l.partitions[p]?).map s.fragment

/-- The fragments of a scan, slot by slot. -/
def fragments (l : Layout) (s : Scan) : List (List Fragment) :=
  l.slots.map fun ps => ps.filterMap (l.fragment? s)

/-- The ids of the partitions, slot by slot, as far as they are known. -/
def ids (l : Layout) : List (List String) :=
  l.slots.map fun ps => ps.filterMap fun p => (l.partitions[p]?).map Hosted.id

/-- **Known partitions are found**, slot by slot, whatever is then read off them. -/
theorem mapM_slots_eq {α : Type} {l : Layout} (hk : l.Known) (f : Hosted → α) :
    (l.slots.mapM fun ps => ps.mapM fun p => (itemAt l.partitions p).map f) =
      .ok (l.slots.map fun ps => ps.filterMap fun p => (l.partitions[p]?).map f) := by
  rw [← List.filterMap_eq_map']
  refine mapM_eq_ok_filterMap fun ps hps => ⟨_, ?_, rfl⟩
  refine mapM_eq_ok_filterMap fun p hp => ?_
  have hlt := hk p (List.mem_flatten.mpr ⟨ps, hps, hp⟩)
  refine ⟨f l.partitions[p], ?_, ?_⟩
  · unfold itemAt
    rw [List.getElem?_eq_getElem hlt]
    rfl
  · rw [List.getElem?_eq_getElem hlt]
    rfl

theorem toAssignment_eq {l : Layout} (hk : l.Known) (s : Scan) :
    l.toAssignment s = .ok ⟨l.fragments s⟩ :=
  congrArg (Except.map Assignment.mk) (mapM_slots_eq hk s.fragment)

theorem describe_eq {l : Layout} (hk : l.Known) : l.describe = .ok l.ids :=
  mapM_slots_eq hk Hosted.id

theorem flatten_fragments (l : Layout) (s : Scan) :
    (l.fragments s).flatten = l.slots.flatten.filterMap (l.fragment? s) :=
  List.filterMap_flatten.symm

theorem length_fragments {l : Layout} (hk : l.Known) (s : Scan) {ps : List Nat}
    (hps : ps ∈ l.slots) : (ps.filterMap (l.fragment? s)).length = ps.length := by
  rw [List.length_filterMap_eq_countP, List.countP_eq_length]
  intro p hp
  unfold fragment?
  rw [List.getElem?_eq_getElem (hk p (List.mem_flatten.mpr ⟨ps, hps, hp⟩))]
  rfl

/-! ## The phases in a row -/

/-- **The course of an assignment**: the layouts after each of the three phases, the partitions
that the first one placed, and the moves of the last. -/
structure Course (partitions : List Hosted) (endpoints : List Endpoint) (home : Layout)
    (placed : List Nat) (filled : Layout) (moves : List Move) (final : Layout) : Prop where
  homed : Homed (ofEndpoints partitions endpoints) (List.range partitions.length) home placed
  fills : Fills (greatestPerSlot partitions.length endpoints.length) home
    (home.unresolved placed) filled
  settles : Settles (leastPerSlot partitions.length endpoints.length)
    (greatestPerSlot partitions.length endpoints.length) filled moves final

theorem flatten_ofEndpoints (partitions : List Hosted) (endpoints : List Endpoint) :
    (ofEndpoints partitions endpoints).slots.flatten = [] := by
  unfold ofEndpoints
  rw [List.flatten_eq_nil_iff]
  intro ps hps
  obtain ⟨e, -, rfl⟩ := List.mem_map.mp hps
  rfl

/-- What the first phase placed and what it left over are all partitions. -/
theorem Homed.perm_range {partitions : List Hosted} {endpoints : List Endpoint} {home : Layout}
    {placed : List Nat}
    (h : Homed (ofEndpoints partitions endpoints) (List.range partitions.length) home placed) :
    (home.unresolved placed ++ home.slots.flatten).Perm (List.range partitions.length) := by
  have hperm := h.perm
  rw [flatten_ofEndpoints, List.append_nil] at hperm
  have hleft : home.unresolved placed = (List.range partitions.length).filter
      fun p => !(ofEndpoints partitions endpoints).hasHome p := by
    unfold unresolved
    rw [h.partitions]
    refine List.filter_congr fun p hp => ?_
    rw [h.chosen]
    congr 1
    rw [Bool.eq_iff_iff, List.contains_iff_mem, List.mem_filter]
    exact and_iff_right hp
  rw [hleft]
  refine (hperm.append_left _).trans ?_
  rw [h.chosen]
  exact List.perm_append_comm.trans (List.filter_append_perm _ _)

namespace Course

variable {partitions : List Hosted} {endpoints : List Endpoint} {home filled final : Layout}
  {placed : List Nat} {moves : List Move}

theorem size_home (h : Course partitions endpoints home placed filled moves final) :
    home.size = endpoints.length := by
  rw [h.homed.turns.size, h.homed.endpoints]
  rfl

/-- No phase changes the partitions, the endpoints or the number of slots. -/
theorem frame (h : Course partitions endpoints home placed filled moves final) :
    final.partitions = partitions ∧ final.endpoints = endpoints ∧
      final.size = endpoints.length := by
  obtain ⟨hsize, hpartitions, hendpoints⟩ := h.settles.frame
  obtain ⟨hsize', hpartitions', hendpoints'⟩ := h.fills.frame
  exact ⟨(hpartitions.trans hpartitions').trans h.homed.partitions,
    (hendpoints.trans hendpoints').trans h.homed.endpoints, (hsize.trans hsize').trans h.size_home⟩

/-- **Every partition is placed once.** -/
theorem perm (h : Course partitions endpoints home placed filled moves final) :
    final.slots.flatten.Perm (List.range partitions.length) :=
  h.settles.perm.trans (h.fills.perm.trans h.homed.perm_range)

theorem known (h : Course partitions endpoints home placed filled moves final) :
    final.Known := fun p hp => by
  rw [h.frame.1]
  exact List.mem_range.mp (h.perm.mem_iff.mp hp)

/-- **Every slot is within bounds.** -/
theorem within (h : Course partitions endpoints home placed filled moves final)
    (hn : 0 < endpoints.length) {slot : Nat} (hs : slot < final.size) :
    leastPerSlot partitions.length endpoints.length ≤ final.countAt slot ∧
      final.countAt slot ≤ greatestPerSlot partitions.length endpoints.length := by
  have hlength := h.perm.length_eq
  rw [List.length_range] at hlength
  refine h.settles.settled.within (Assignment.leastPerSlot_le_greatestPerSlot hn) ?_ ?_ hs
  · rw [hlength, h.frame.2.2]
    exact Assignment.mul_leastPerSlot_le _ _
  · rw [hlength, h.frame.2.2]
    exact Assignment.le_mul_greatestPerSlot hn

/-- **No slot is empty in the end**, as long as there are no more slots than partitions. -/
theorem checkFilled_eq (h : Course partitions endpoints home placed filled moves final)
    (hn : 0 < endpoints.length) (hle : endpoints.length ≤ partitions.length) :
    final.checkFilled endpoints = .ok () := by
  have hfull : ¬ final.slots.any List.isEmpty = true := by
    rw [List.any_eq_true]
    rintro ⟨ps, hps, hempty⟩
    obtain ⟨slot, hslot, rfl⟩ := List.mem_iff_getElem.mp hps
    have hleast : 0 < leastPerSlot partitions.length endpoints.length := Nat.div_pos hle hn
    have hcount := (h.within hn hslot).1
    unfold countAt at hcount
    rw [List.getElem?_eq_getElem hslot, Option.getD_some, List.isEmpty_iff.mp hempty] at hcount
    exact absurd hcount (Nat.not_le.mpr hleast)
  unfold checkFilled
  rw [if_neg hfull]

theorem length_fragments (h : Course partitions endpoints home placed filled moves final)
    (s : Scan) : (final.fragments s).length = endpoints.length :=
  (List.length_map _).trans h.frame.2.2

/-- **Every slot has its share of the fragments**, rounded down or up. -/
theorem fragments_within (h : Course partitions endpoints home placed filled moves final)
    (hn : 0 < endpoints.length) (s : Scan) {fragments : List Fragment}
    (hmem : fragments ∈ final.fragments s) :
    leastPerSlot partitions.length endpoints.length ≤ fragments.length ∧
      fragments.length ≤ greatestPerSlot partitions.length endpoints.length := by
  obtain ⟨ps, hps, rfl⟩ := List.mem_map.mp hmem
  obtain ⟨slot, hslot, rfl⟩ := List.mem_iff_getElem.mp hps
  have hcount : final.countAt slot = final.slots[slot].length := by
    unfold countAt
    rw [List.getElem?_eq_getElem hslot]
    rfl
  have hwithin := h.within hn hslot
  rw [hcount] at hwithin
  rw [Layout.length_fragments h.known s hps]
  exact hwithin

theorem fragments_perm (h : Course partitions endpoints home placed filled moves final)
    (s : Scan) : (final.fragments s).flatten.Perm (partitions.map s.fragment) := by
  rw [flatten_fragments]
  refine (h.perm.filterMap _).trans (List.Perm.of_eq ?_)
  have hall : (List.range partitions.length).filterMap (final.fragment? s) =
      ((List.range partitions.length).filterMap fun p => partitions[p]?).map s.fragment := by
    rw [List.map_filterMap]
    refine List.filterMap_congr fun p _ => ?_
    unfold fragment?
    rw [h.frame.1]
  rw [hall, filterMap_getElem?_range]

end Course

theorem exists_course (partitions : List Hosted) {endpoints : List Endpoint}
    (hn : 0 < endpoints.length) :
    let p := partitions.length
    let n := endpoints.length
    let home := (ofEndpoints partitions endpoints).placeLocal
    let filled := home.1.fill home.2 (greatestPerSlot p n)
    let balanced := filled.1.balance (leastPerSlot p n) (greatestPerSlot p n)
    filled.2 = .ok () ∧ balanced.outcome = .ok () ∧
      Course partitions endpoints home.1 home.2 filled.1 balanced.moves balanced.layout := by
  intro p n home filled balanced
  have hhomed : Homed (ofEndpoints partitions endpoints) (List.range partitions.length)
      home.1 home.2 := placeLocal_homed (ofEndpoints_turns partitions endpoints)
  have hall := hhomed.perm_range.length_eq
  rw [List.length_append, List.length_range] at hall
  have hsize : home.1.size = endpoints.length := by
    rw [hhomed.turns.size, hhomed.endpoints]
    rfl
  obtain ⟨hfilled, hfills⟩ := fill_fills (greatestPerSlot p n) home.1 home.2 <| by
    rw [Nat.add_comm, hall, hsize]
    exact Assignment.le_mul_greatestPerSlot hn
  have hknown : filled.1.Known := fun q hq => by
    rw [hfills.frame.2.1, hhomed.partitions]
    exact List.mem_range.mp ((hfills.perm.trans hhomed.perm_range).mem_iff.mp hq)
  obtain ⟨hbalanced, hsettles⟩ := balance_settles hknown (leastPerSlot p n) (greatestPerSlot p n)
  exact ⟨hfilled, hbalanced, hhomed, hfills, hsettles⟩

end Layout

namespace Scan

/-- **An assignment that is possible runs its course**, phase after phase, reports the moves and the
last layout, and answers its fragments. -/
theorem assign_phases (s : Scan) {partitions : List Hosted} {endpoints : List Endpoint}
    (h : checkAssignable partitions endpoints = .ok ()) :
    let sorted := Hosted.sort partitions
    let p := partitions.length
    let n := endpoints.length
    let home := (Layout.ofEndpoints sorted endpoints).placeLocal
    let filled := (home.1.fill home.2 (greatestPerSlot p n)).1
    let balanced := filled.balance (leastPerSlot p n) (greatestPerSlot p n)
    Layout.Course sorted endpoints home.1 home.2 filled balanced.moves balanced.layout ∧
      s.assign partitions endpoints =
        ⟨(balanced.moves.map fun m => .notice (Layout.moveNotice sorted m)) ++
            [.notice (.built (Endpoint.listed endpoints) balanced.layout.ids)],
          .ok ⟨balanced.layout.fragments s⟩⟩ := by
  intro sorted p n home filled balanced
  obtain ⟨hn, hle, -⟩ := (Assignment.checkAssignable_eq_ok_iff _ _).mp h
  obtain ⟨hfilled, hbalanced, hcourse⟩ := Layout.exists_course sorted hn
  have hlength : sorted.length = p := Hosted.length_sort partitions
  rw [hlength] at hfilled hbalanced hcourse
  refine ⟨hcourse, ?_⟩
  have hpartitions : filled.partitions = sorted :=
    hcourse.fills.frame.2.1.trans hcourse.homed.partitions
  unfold assign
  rw [h, Traced.ofExcept_ok_bind]
  dsimp only
  rw [hfilled, Traced.ofExcept_ok_bind]
  unfold Layout.reportMoves
  rw [hbalanced, hpartitions]
  dsimp only [Except.map]
  rw [Traced.bind_ok, hcourse.checkFilled_eq hn (hlength ▸ hle), Traced.ofExcept_ok_bind,
    Layout.toAssignment_eq hcourse.known s, Traced.ofExcept_ok_bind]
  unfold Layout.reportBuilt
  rw [Layout.describe_eq hcourse.known]
  rfl

theorem assign_eq_course (s : Scan) {partitions : List Hosted} {endpoints : List Endpoint}
    (h : checkAssignable partitions endpoints = .ok ()) :
    ∃ home placed filled moves final,
      Layout.Course (Hosted.sort partitions) endpoints home placed filled moves final ∧
        s.assign partitions endpoints =
          ⟨(moves.map fun m => .notice (Layout.moveNotice (Hosted.sort partitions) m)) ++
              [.notice (.built (Endpoint.listed endpoints) final.ids)],
            .ok ⟨final.fragments s⟩⟩ :=
  ⟨_, _, _, _, _, assign_phases s h⟩

/-- **What cannot be assigned is refused**, before anything happens. -/
theorem assign_eq_fail (s : Scan) {partitions : List Hosted} {endpoints : List Endpoint}
    {f : Failure} (h : checkAssignable partitions endpoints = .error f) :
    s.assign partitions endpoints = Traced.fail f := by
  unfold assign
  rw [h, Traced.ofExcept_error_bind]

/-- Without endpoints, with more endpoints than partitions or with two partitions of one id, an
assignment is refused as invalid input. -/
theorem assign_refused (s : Scan) {partitions : List Hosted} {endpoints : List Endpoint}
    (h : endpoints.length = 0 ∨ partitions.length < endpoints.length ∨
      ¬ (partitions.map Hosted.id).Nodup) :
    ∃ f, (s.assign partitions endpoints).outcome = .error f ∧ f.category = .invalidInput := by
  cases hcheck : checkAssignable partitions endpoints with
  | ok u =>
    obtain ⟨hn, hle, hnodup⟩ := (Assignment.checkAssignable_eq_ok_iff _ _).mp hcheck
    rcases h with h | h | h
    · omega
    · omega
    · exact absurd hnodup h
  | error f =>
    rw [assign_eq_fail s hcheck]
    exact ⟨f, rfl, Assignment.category_of_checkAssignable hcheck⟩

/-- In every other case it answers: one slot per endpoint, each with its share of the partitions,
rounded down or up, and the fragments of all slots are those of all partitions. -/
theorem assign_answers (s : Scan) {partitions : List Hosted} {endpoints : List Endpoint}
    (hn : 0 < endpoints.length) (hle : endpoints.length ≤ partitions.length)
    (hnodup : (partitions.map Hosted.id).Nodup) :
    ∃ a, (s.assign partitions endpoints).outcome = .ok a ∧ a.size = endpoints.length ∧
      (∀ fragments ∈ a.slots,
        partitions.length / endpoints.length ≤ fragments.length ∧
          fragments.length ≤ partitions.length ⌈/⌉ endpoints.length) ∧
      a.slots.flatten.Perm (partitions.map s.fragment) := by
  obtain ⟨home, placed, filled, moves, final, hcourse, heq⟩ := assign_eq_course s <|
    (Assignment.checkAssignable_eq_ok_iff _ _).mpr ⟨hn, hle, hnodup⟩
  refine ⟨_, congrArg Traced.outcome heq, hcourse.length_fragments s, fun _ hmem => ?_, ?_⟩
  · have hwithin := hcourse.fragments_within hn s hmem
    rw [Hosted.length_sort, Assignment.greatestPerSlot_eq] at hwithin
    exact hwithin
  · exact (hcourse.fragments_perm s).trans ((Hosted.sort_perm partitions).map s.fragment)

/-- **Assignments are even and complete.** Without endpoints, with more endpoints than partitions
or with two partitions of one id, an assignment is refused as invalid input. In every other case
it answers: one slot per endpoint, none of them empty, each with the share of partitions that it
should have, rounded down or up, and the fragments of all slots together are those of all
partitions, each once. -/
theorem assign_even_and_complete (s : Scan) (partitions : List Hosted)
    (endpoints : List Endpoint) :
    if endpoints.length = 0 ∨ partitions.length < endpoints.length ∨
        ¬ (partitions.map Hosted.id).Nodup then
      ∃ f, (s.assign partitions endpoints).outcome = .error f ∧ f.category = .invalidInput
    else
      ∃ a, (s.assign partitions endpoints).outcome = .ok a ∧ a.size = endpoints.length ∧
        (∀ fragments ∈ a.slots, fragments ≠ [] ∧
          partitions.length / endpoints.length ≤ fragments.length ∧
          fragments.length ≤ partitions.length ⌈/⌉ endpoints.length) ∧
        a.slots.flatten.Perm (partitions.map s.fragment) := by
  split
  · exact assign_refused s ‹_›
  · rename_i hpossible
    obtain ⟨hn, hle, hnodup⟩ := not_or.mp hpossible |>.imp_right not_or.mp
    have hn' : 0 < endpoints.length := Nat.pos_of_ne_zero hn
    have hle' : endpoints.length ≤ partitions.length := Nat.le_of_not_lt hle
    obtain ⟨a, ha, hsize, hshare, hperm⟩ := assign_answers s hn' hle' (not_not.mp hnodup)
    refine ⟨a, ha, hsize, fun fragments hmem => ⟨?_, hshare fragments hmem⟩, hperm⟩
    -- no more endpoints than partitions, so the least share is at least one
    have hleast : 0 < partitions.length / endpoints.length := Nat.div_pos hle' hn'
    exact List.ne_nil_of_length_pos (Nat.lt_of_lt_of_le hleast (hshare fragments hmem).1)

end Scan

end Keyspan
