import Keyspan.Layout.Balance
import Keyspan.Layout.Fill
import Keyspan.Layout.Local
import Keyspan.Trace

/-!
# Assignments: the fragments every slot has to run

An `Assignment` lists, slot by slot, the fragments of a scan. `Scan.assign` computes one for the
partitions of a scan and the endpoints that will run it, one slot per endpoint: partitions go to
their own hosts first, the others where there is room, and moves then bring every slot within the
bounds `⌊P / N⌋` and `⌈P / N⌉`. The partitions are sorted first, so the order in which they are
given does not matter (`PartitionPlanner.assign`, `SlotAssignment`).

* `Assignment.get`: the fragments of one slot.
* `Scan.assign`: the assignment, and the moves that were made.
-/

namespace Keyspan

/-- The fragments of a scan, slot by slot. -/
structure Assignment where
  slots : List (List Fragment)
  deriving DecidableEq

namespace Assignment

def size (a : Assignment) : Nat := a.slots.length

def counts (a : Assignment) : List Nat := a.slots.map List.length

/-- **The fragments of one slot (`SlotAssignment.get`).** -/
def get (a : Assignment) (slot : Int) : Except Failure (List Fragment) :=
  match slot with
  | .ofNat n =>
    match a.slots[n]? with
    | some fragments => .ok fragments
    | none => .error (.noSuchSlot a.size slot)
  | .negSucc _ => .error (.noSuchSlot a.size slot)

/-- The slots with their numbers (`SlotAssignment.items`). -/
def items (a : Assignment) : List (Nat × List Fragment) :=
  a.slots.zipIdx.map fun (fragments, slot) => (slot, fragments)

/-- An assignment as the value it is (`__repr__`). -/
def shown (a : Assignment) : String :=
  let slotShown := fun (slot, fragments) =>
    toString (slot : Nat) ++ ": " ++ Text.bracketed (List.map Fragment.shown fragments)
  "SlotAssignment(\x7b" ++ ", ".intercalate (a.items.map slotShown) ++ "\x7d)"

/-- **A slot is found iff its number is below the number of slots.** -/
theorem get_isOk_iff (a : Assignment) (slot : Int) :
    (∃ fragments, a.get slot = .ok fragments) ↔ 0 ≤ slot ∧ slot < a.size := by
  cases slot with
  | ofNat n =>
    simp only [get, size]
    cases h : a.slots[n]? with
    | some fragments =>
      have := (List.getElem?_eq_some_iff.1 h).1
      simp only [Except.ok.injEq, exists_eq', true_iff, Int.ofNat_eq_natCast]
      omega
    | none =>
      have := List.getElem?_eq_none_iff.1 h
      simp only [reduceCtorEq, exists_false, false_iff, Int.ofNat_eq_natCast]
      omega
  | negSucc n =>
    simp only [get, reduceCtorEq, exists_false, false_iff]
    omega

end Assignment

namespace Layout

/-- The fragments of the partitions of one slot. -/
def fragmentsOf (l : Layout) (s : Scan) (ps : List Nat) : Except Failure (List Fragment) :=
  ps.mapM fun p => (itemAt l.partitions p).map s.fragment

/-- The fragments of a scan, slot by slot. -/
def toAssignment (l : Layout) (s : Scan) : Except Failure Assignment :=
  (l.slots.mapM (l.fragmentsOf s)).map fun slots => ⟨slots⟩

/-- The report of a move. -/
def moveNotice (partitions : List Hosted) (m : Move) : Notice :=
  .moved ((partitions[m.partition]?.map Hosted.id).getD "") m.donor m.receiver

/-- The moves of a balancing, reported, and then how it ended. -/
def reportMoves (partitions : List Hosted) (b : Balanced) : Traced Layout :=
  ⟨b.moves.map fun m => .notice (moveNotice partitions m), b.outcome.map fun _ => b.layout⟩

/-- A slot without partitions is a failure that shows the whole layout. -/
def checkFilled (l : Layout) (endpoints : List Endpoint) : Except Failure Unit :=
  if l.slots.any List.isEmpty then do
    let ids ← l.describe
    throw (.slotLeftEmpty (Endpoint.listed endpoints) ids)
  else .ok ()

/-- The report of a layout that is done. -/
def reportBuilt (l : Layout) (endpoints : List Endpoint) : Traced Unit := do
  let ids ← Traced.ofExcept l.describe
  Traced.log (.built (Endpoint.listed endpoints) ids)

end Layout

namespace Assignment

/-- The least number of fragments of a slot, for `p` partitions and `n` slots (`min_per_slot`). -/
def leastPerSlot (p n : Nat) : Nat := p / n

/-- The greatest number of fragments of a slot, for `p` partitions and `n` slots
(`max_per_slot`). -/
def greatestPerSlot (p n : Nat) : Nat := (p + n - 1) / n

/-- Whether partitions and endpoints can be assigned at all. -/
def checkAssignable (partitions : List Hosted) (endpoints : List Endpoint) :
    Except Failure Unit :=
  let n := endpoints.length
  let p := partitions.length
  let ids := partitions.map Hosted.id
  if n = 0 then .error .noEndpoints
  else if p < n then .error (.tooManyEndpoints n p)
  else if ids.Nodup then .ok ()
  else .error (.repeatedPartitions ids)

end Assignment

namespace Scan

/-- **The assignment of a scan** (`PartitionPlanner.assign`): one slot per endpoint. -/
def assign (s : Scan) (partitions : List Hosted) (endpoints : List Endpoint) :
    Traced Assignment := do
  Traced.ofExcept (Assignment.checkAssignable partitions endpoints)
  let n := endpoints.length
  let p := partitions.length
  let (home, resolved) := (Layout.ofEndpoints (Hosted.sort partitions) endpoints).placeLocal
  let (filled, outcome) := home.fill resolved (Assignment.greatestPerSlot p n)
  Traced.ofExcept outcome
  let layout ← Layout.reportMoves filled.partitions
    (filled.balance (Assignment.leastPerSlot p n) (Assignment.greatestPerSlot p n))
  Traced.ofExcept (layout.checkFilled endpoints)
  let assignment ← Traced.ofExcept (layout.toAssignment s)
  layout.reportBuilt endpoints
  return assignment

end Scan

end Keyspan
