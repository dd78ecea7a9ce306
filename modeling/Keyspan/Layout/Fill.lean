import Keyspan.Layout.Queue

/-!
# Second phase: the others go where there is room

The partitions that the first phase left over go, in order, each to the slot that holds the
fewest at that moment. A slot that has reached the cap is full; when all are, the phase fails and
keeps what it has placed. The partitions that are resolved already are told by their numbers, as
the first phase tells them.
-/

namespace Keyspan.Layout

/-- The tickets of the slots numbered from `first` on that are below the cap. -/
def openTickets (cap : Int) : Nat → List (List Nat) → List Ticket
  | _, [] => []
  | first, ps :: rest =>
    let others := openTickets cap (first + 1) rest
    if (ps.length : Int) < cap then Ticket.enqueue Ticket.lighter ⟨ps.length, first⟩ others
    else others

/-- Place partitions in order, each into the slot at the front of the queue. -/
def fillFrom (cap : Int) : List Nat → List Ticket → Layout → Layout × Except Failure Unit
  | [], _, l => (l, .ok ())
  | _ :: _, [], l => (l, .error .noSlotLeft)
  | p :: rest, t :: queue, l =>
    let again : Ticket := ⟨t.count + 1, t.slot⟩
    let queue' :=
      if (again.count : Int) < cap then Ticket.enqueue Ticket.lighter again queue else queue
    fillFrom cap rest queue' (l.put t.slot p)

/-- The partitions that are not among the resolved ones, in order. -/
def unresolved (l : Layout) (resolved : List Nat) : List Nat :=
  (List.range l.partitions.length).filter fun p => !resolved.contains p

/-- **The second phase** (`_assign_remaining`): place the unresolved partitions under a cap. -/
def fill (l : Layout) (resolved : List Nat) (cap : Int) : Layout × Except Failure Unit :=
  fillFrom cap (l.unresolved resolved) (openTickets cap 0 l.slots) l

end Keyspan.Layout
