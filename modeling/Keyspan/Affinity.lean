import Keyspan.Number.Literal
import Keyspan.OrderedMap
import Keyspan.Partition

/-!
# Affinities of endpoints

How much a scan prefers to run on an endpoint: the number of its partitions that live on the
endpoint's host. Endpoints that share an address count once, under the first of them.

An `Amount` is a number as it was given: it stays an integer until a floating-point number is
added to it.
-/

namespace Keyspan

/-- An integer or a floating-point number. -/
inductive Amount where
  | whole (value : Int)
  | real (value : Double)

namespace Amount

/-- An amount as a floating-point number. -/
def toDouble : Amount → Except Failure Double
  | whole n =>
    match Double.ofInt? n with
    | some x => .ok x
    | none => .error .integerTooLarge
  | real x => .ok x

/-- **The sum** (`add_affinity`): an integer as long as both are. -/
def add : Amount → Amount → Except Failure Amount
  | whole a, whole b => .ok (whole (a + b))
  | a, b => do
    let x ← a.toDouble
    let y ← b.toDouble
    return real (x.add y)

end Amount

/-- An endpoint and the number of partitions on its host (`EndpointAffinity`). -/
structure Affinity where
  endpoint : Endpoint
  partitions : Nat
  deriving DecidableEq

namespace Affinity

/-- The first endpoint of every address (`endpoint_map`). -/
def firstByAddress (endpoints : List Endpoint) : OrderedMap String Endpoint :=
  endpoints.foldl (fun first e => first.putIfAbsent e.address e) .empty

/-- One more partition for an endpoint (`affinity_map`). -/
def addOne (counted : OrderedMap Endpoint Affinity) (e : Endpoint) :
    OrderedMap Endpoint Affinity :=
  match counted.lookup e with
  | none => counted.put e ⟨e, 1⟩
  | some a => counted.put e ⟨a.endpoint, a.partitions + 1⟩

/-- A partition counts for the first endpoint on its host, if there is one. -/
def countHosted (first : OrderedMap String Endpoint) (counted : OrderedMap Endpoint Affinity)
    (h : Hosted) : OrderedMap Endpoint Affinity :=
  match first.lookup h.host with
  | none => counted
  | some e => addOne counted e

/-- **The affinities of a scan** (`CostModel.endpoint_affinities`): partitions are counted by
endpoint, and the endpoints that have some are listed in order. -/
def ofEndpoints (partitions : List Hosted) (endpoints : List Endpoint) : List Affinity :=
  let first := firstByAddress endpoints
  let counted := partitions.foldl (countHosted first) .empty
  first.values.filterMap counted.lookup

end Affinity

end Keyspan
