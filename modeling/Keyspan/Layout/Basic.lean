import Keyspan.Index
import Keyspan.Partition

/-!
# Layouts: which slot runs which partition

A layout is the state of an assignment in progress. It knows the partitions to assign, one slot
per endpoint, and for every slot the partitions placed there so far, as indices into the list of
partitions in the order of placement. For every host with endpoints it keeps the slots of that
host in turn (`Rotation`).

* `Layout.ofEndpoints`: the empty layout.
* `Layout.put`, `Layout.moveLast`: place a partition, move the one placed last to another slot.
* `Layout.describe`: the ids of the partitions, slot by slot.

Results: `Rotation.toList_turn`: a turn rotates the slots of a host; `countAt_put`: placing a
partition raises one count by one.
-/

namespace Keyspan

/-- The slots of one host, in turn: the one that is next, and the others in order. There is
always a next one. -/
structure Rotation where
  next : Nat
  later : List Nat
  deriving DecidableEq

namespace Rotation

def toList (r : Rotation) : List Nat := r.next :: r.later

/-- A slot at the end of the rotation. -/
def add (r : Rotation) (slot : Nat) : Rotation := ⟨r.next, r.later ++ [slot]⟩

/-- **Take a turn**: the next slot goes to the end. -/
def turn (r : Rotation) : Rotation :=
  match r.later with
  | [] => r
  | s :: rest => ⟨s, rest ++ [r.next]⟩

/-- **A turn is a rotation by one place.** -/
theorem toList_turn (r : Rotation) : r.turn.toList = r.later ++ [r.next] := by
  obtain ⟨next, later⟩ := r
  cases later <;> rfl

end Rotation

/-- The slots of every host, in order of the first endpoint of the host (`host_slots`). -/
abbrev Rotations := List (String × Rotation)

namespace Rotations

/-- Add a slot of a host. -/
def addSlot (host : String) (slot : Nat) : Rotations → Rotations
  | [] => [(host, ⟨slot, []⟩)]
  | (h, r) :: rest =>
    if host == h then (h, r.add slot) :: rest else (h, r) :: addSlot host slot rest

/-- The next slot of a host, and the rotations after its turn; `none` if no endpoint is there. -/
def takeTurn (host : String) : Rotations → Option (Nat × Rotations)
  | [] => none
  | (h, r) :: rest =>
    if host == h then some (r.next, (h, r.turn) :: rest)
    else (takeTurn host rest).map fun (slot, rest') => (slot, (h, r) :: rest')

/-- The rotations of endpoints whose slots are numbered from `first` on. -/
def ofEndpoints (first : Nat) (known : Rotations) : List Endpoint → Rotations
  | [] => known
  | e :: rest => ofEndpoints (first + 1) (addSlot e.address first known) rest

end Rotations

/-- The state of an assignment in progress (`_SlotArena`). -/
structure Layout where
  partitions : List Hosted
  endpoints : List Endpoint
  slots : List (List Nat)
  rotations : Rotations

namespace Layout

/-- The layout in which nothing is placed yet. -/
def ofEndpoints (partitions : List Hosted) (endpoints : List Endpoint) : Layout :=
  { partitions := partitions
    endpoints := endpoints
    slots := endpoints.map fun _ => []
    rotations := Rotations.ofEndpoints 0 [] endpoints }

def size (l : Layout) : Nat := l.slots.length

/-- The number of partitions in a slot; zero if there is no such slot. -/
def countAt (l : Layout) (slot : Nat) : Nat := (l.slots[slot]?.getD []).length

/-- The number of partitions in a slot, or the failure to find it (`count`). -/
def count (l : Layout) (slot : Nat) : Except Failure Nat :=
  (itemAt l.slots slot).map List.length

def counts (l : Layout) : List Nat := l.slots.map List.length

/-- **Place a partition** (`add`) at the end of a slot. -/
def put (l : Layout) (slot p : Nat) : Layout :=
  { l with slots := l.slots.modify slot (· ++ [p]) }

/-- Place a partition, or fail to find the slot. -/
def place (l : Layout) (slot p : Nat) : Except Failure Layout :=
  if slot < l.size then .ok (l.put slot p) else .error (missingItem slot)

/-- **Move the partition placed last in a slot to the end of another** (`move_one`), and tell which
it was. It is taken from the donor first: when the receiver is not found, it is lost. -/
def moveLast (l : Layout) (donor receiver : Nat) : Layout × Except Failure Nat :=
  match l.slots[donor]? with
  | none => (l, .error (missingItem donor))
  | some ps =>
    match ps.getLast? with
    | none => (l, .error .slotEmpty)
    | some p =>
      let taken : Layout := { l with slots := l.slots.set donor ps.dropLast }
      if receiver < l.size then (taken.put receiver p, .ok p)
      else (taken, .error (missingItem receiver))

/-- The ids of the partitions of one slot. -/
def idsOf (l : Layout) (ps : List Nat) : Except Failure (List String) :=
  ps.mapM fun p => (itemAt l.partitions p).map Hosted.id

/-- The ids of the partitions, slot by slot (`describe`). -/
def describe (l : Layout) : Except Failure (List (List String)) := l.slots.mapM l.idsOf

@[simp] theorem size_put (l : Layout) (slot p : Nat) : (l.put slot p).size = l.size :=
  List.length_modify _ _ _

/-- **Placing a partition raises the count of its slot by one**, and no other count. -/
theorem countAt_put (l : Layout) (slot p other : Nat) (h : slot < l.size) :
    (l.put slot p).countAt other = l.countAt other + if other = slot then 1 else 0 := by
  unfold size at h
  unfold countAt put
  dsimp only
  rw [List.getElem?_modify]
  by_cases hs : other = slot
  · subst hs
    rw [if_pos rfl, List.getElem?_eq_getElem h]
    simp
  · have hne : ¬ slot = other := fun e => hs e.symm
    simp [hs, hne]

end Layout

end Keyspan
