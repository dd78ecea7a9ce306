import Keyspan.Layout.Basic

/-!
# First phase: partitions go to their own host

Every partition whose host has endpoints goes to a slot of that host, the slots of a host taking
turns. A partition whose host has none is left for the next phase.

The numbers of the partitions that were placed are a set that is asked for its members only
(`resolved`, a `BitMap`). It is the list of them here, in ascending order. Such a set holds numbers
below `2 ^ 32`; that no scan visits as many partitions is taken for granted.
-/

namespace Keyspan.Layout

/-- One partition goes to the next slot of its host, if there is one. The result tells whether
it was placed. -/
def placeAtHome (l : Layout) (p : Nat) (h : Hosted) : Layout × Bool :=
  match l.rotations.takeTurn h.host with
  | some (slot, rotations) => ({ l.put slot p with rotations := rotations }, true)
  | none => (l, false)

/-- Partitions numbered from `first` on go to their hosts; the numbers of those placed. -/
def placeLocalFrom (l : Layout) (first : Nat) : List Hosted → Layout × List Nat
  | [] => (l, [])
  | h :: rest =>
    let (l', placed) := l.placeAtHome first h
    let (l'', others) := placeLocalFrom l' (first + 1) rest
    (l'', if placed then first :: others else others)

/-- **The first phase** (`_assign_by_affinity`): the layout after it, and the partitions it placed,
in order. -/
def placeLocal (l : Layout) : Layout × List Nat := l.placeLocalFrom 0 l.partitions

theorem placeLocalFrom_cons (l : Layout) (first : Nat) (h : Hosted) (rest : List Hosted) :
    l.placeLocalFrom first (h :: rest) =
      (((l.placeAtHome first h).1.placeLocalFrom (first + 1) rest).1,
        (if (l.placeAtHome first h).2 then [first] else []) ++
          ((l.placeAtHome first h).1.placeLocalFrom (first + 1) rest).2) := by
  refine Prod.ext rfl ?_
  show (if (l.placeAtHome first h).2 then first :: _ else _) = _
  split <;> rfl

end Keyspan.Layout
