import Keyspan.Layout.Queue

/-!
# Third phase: moves until every slot is within bounds

While some slot is below the lower bound or above the upper one, the fullest slot gives the
partition placed last to the emptiest. Two queues find them: `low` holds the slots below the upper
bound, lightest first, and `high` those above the lower bound, heaviest first. After a move both
slots are queued again with their new counts; a ticket that is still in the other queue stays
there with its old count.

* `Balancer.step`: one move, or the reason why there is none.
* `Layout.balance`: all moves. The number of steps is bounded by the sum of the squares of the
  counts (`energy`), which every move from a fuller to an emptier slot lowers.
-/

namespace Keyspan

/-- A partition that went from one slot to another. -/
structure Move where
  partition : Nat
  donor : Nat
  receiver : Nat
  deriving DecidableEq

/-- A layout that is being balanced, with its two queues. -/
structure Balancer where
  layout : Layout
  low : List Ticket
  high : List Ticket

/-- What a step comes to. -/
inductive Balancer.Step where
  /-- Every slot is within bounds, or no slot can give or take. -/
  | settled
  /-- A partition was moved, and balancing goes on. -/
  | moved (move : Move) (next : Balancer)
  /-- Balancing breaks off, in the given state. -/
  | broken (layout : Layout) (failure : Failure)

namespace Balancer

/-- Queue a slot by its present count (`offer`): below the upper bound it can take, above the lower
bound it can give. -/
def offer (lower upper : Int) (b : Balancer) (slot : Nat) : Balancer :=
  let t : Ticket := ⟨b.layout.countAt slot, slot⟩
  { b with
    low := if (t.count : Int) < upper then Ticket.enqueue Ticket.lighter t b.low else b.low
    high := if lower < (t.count : Int) then Ticket.enqueue Ticket.heavier t b.high else b.high }

/-- All slots queued. -/
def ofLayout (lower upper : Int) (l : Layout) : Balancer :=
  (List.range l.size).foldl (offer lower upper) ⟨l, [], []⟩

/-- **One step**: the front of `high` gives to the front of `low`, unless both are within
bounds. -/
def step (lower upper : Int) (b : Balancer) : Step :=
  match b.low, b.high with
  | l :: low, h :: high =>
    if (l.count : Int) < lower ∨ upper < (h.count : Int) then
      match b.layout.moveLast h.slot l.slot with
      | (layout, .error e) => .broken layout e
      | (layout, .ok p) =>
        if p < layout.partitions.length then
          .moved ⟨p, h.slot, l.slot⟩
            (offer lower upper (offer lower upper ⟨layout, low, high⟩ h.slot) l.slot)
        else .broken layout (missingItem p)
    else .settled
  | _, _ => .settled

end Balancer

/-- What balancing did: the layout after it, the moves in order, and how it ended. -/
structure Balanced where
  layout : Layout
  moves : List Move
  outcome : Except Failure Unit

/-- At most `fuel` steps. -/
def Balancer.run (lower upper : Int) : Nat → Balancer → Balanced
  | 0, b => ⟨b.layout, [], .ok ()⟩
  | fuel + 1, b =>
    match b.step lower upper with
    | .settled => ⟨b.layout, [], .ok ()⟩
    | .broken layout e => ⟨layout, [], .error e⟩
    | .moved m next =>
      let rest := run lower upper fuel next
      { rest with moves := m :: rest.moves }

namespace Layout

/-- The sum of the squares of the counts. -/
def energy (l : Layout) : Nat := l.counts.foldl (fun sum n => sum + n * n) 0

/-- **The third phase** (`_rebalance`): move partitions until every slot is within the bounds. -/
def balance (l : Layout) (lower upper : Int) : Balanced :=
  (Balancer.ofLayout lower upper l).run lower upper (l.energy + 1)

end Layout

end Keyspan
