import Keyspan.Affinity
import Keyspan.Assignment
import Keyspan.Catalog
import Keyspan.Estimate.Cost
import Keyspan.Estimate.Sampling
import Keyspan.Estimate.Sizes

/-!
# Plan nodes

A plan node is a scan with everything that was found out about it: the partitions it visits, the
statistics, the projection and whether a filter has been pushed into it. `PlanNode.create` finds
that out, in one order: schema, partitions, sample, sizes, and last the check of the projection. A
copy of a node finds out nothing anew; it is checked and added up again by `PlanNode.make`, the
one way nodes are built.

* `PlanNode.withColumns`, `withFilterPushed`, `specialize`: copies.
* `PlanNode.cost`, `assign`, `affinities`, `width`: what a planner asks a node.
* `PlanNode.work`: what one slot of an assignment has to do.

Results: `outcome_make_eq`: the projection decides whether a node is built; `keeps_of_make`: a node
has the scan, the statistics, the schema, the settings and the mark it was built with, and its
partitions in order.
-/

namespace Keyspan

/-- A planned scan (`RangeScanPlanNode`). -/
structure PlanNode where
  scan : Scan
  columns : List String
  partitions : List Hosted
  statistics : Statistics
  schema : Schema
  settings : Setting.Settings
  filterPushed : Bool
  totalBytes : Int

/-- The work of one slot (`SubScan`): fragments of one table under one projection. -/
structure SlotWork where
  table : String
  columns : List String
  fragments : List Fragment

namespace Scan

/-- **Find out about a scan** (`StatsEstimator`): averages over a sample first, then sizes of
partitions. -/
def statistics (s : Scan) (ids : List String) (settings : Setting.Settings)
    (sampler : Sample.Sampler) (provider : Option StatusProvider) : Traced Statistics := do
  let averages ← s.sample settings sampler
  let sizes ← s.sizes ids settings provider
  return ⟨averages, sizes⟩

end Scan

namespace PlanNode

/-- **Build a node** (`RangeScanPlanNode.__init__`): the partitions are put in order, the projection
is checked, and the sizes of the partitions are added up. -/
def make (scan : Scan) (p : Projection) (partitions : List Hosted) (statistics : Statistics)
    (schema : Schema) (settings : Setting.Settings) (filterPushed : Bool) : Traced PlanNode := do
  let sorted := Hosted.sort partitions
  Traced.ofExcept (schema.validate (some p.columnsOf))
  let total ← statistics.totalBytes (sorted.map Hosted.id)
  return ⟨scan, p.columnsOf, sorted, statistics, schema, settings, filterPushed, total⟩

/-- **Plan a scan (`RangeScanPlanNode.create`).** -/
def create (c : Catalog) (scan : Scan) (sampler : Sample.Sampler)
    (provider : Option StatusProvider) (p : Projection) (settings : Setting.Settings) :
    Traced PlanNode := do
  Traced.log (.locating scan.table)
  let schema ← c.askSchema scan.table
  let partitions ← c.locate scan.table scan.range
  let ids ← c.askIds scan.table
  let statistics ← scan.statistics ids settings sampler provider
  make scan p partitions statistics schema settings false

/-- Whether the node asks for all columns (`is_star_query`). -/
def isStar (n : PlanNode) : Bool := Projection.isStar (some n.columns)

/-- **A copy with another projection (`with_columns`).** -/
def withColumns (n : PlanNode) (p : Projection) : Traced PlanNode :=
  make n.scan p n.partitions n.statistics n.schema n.settings n.filterPushed

/-- **A copy with the mark set or cleared** (`with_filter_pushed_down`) that a filter has been
pushed into the scan. -/
def withFilterPushed (n : PlanNode) (filterPushed : Bool) : Traced PlanNode :=
  make n.scan (some n.columns) n.partitions n.statistics n.schema n.settings filterPushed

/-- **A copy with the given number of inputs** (`specialize`); a scan has none. -/
def specialize (n : PlanNode) (children : Nat) : Traced PlanNode :=
  if children = 0 then n.withColumns (some n.columns) else Traced.fail (.notALeaf children)

/-- Whether a projection can be pushed into the scan (`can_push_down_projects`); every one can. -/
def canPush (_ : PlanNode) (_ : Projection) : Bool := true

/-- The estimated cost (`estimate_cost`). -/
def cost (n : PlanNode) : Except Failure Cost :=
  n.scan.cost n.statistics n.totalBytes n.settings (some n.columns)

/-- The assignment of the node's scan to the slots of endpoints (`assign_slots`). -/
def assign (n : PlanNode) (endpoints : List Endpoint) : Traced Assignment :=
  n.scan.assign n.partitions endpoints

/-- How much the node prefers each of the endpoints (`operator_affinity`). -/
def affinities (n : PlanNode) (endpoints : List Endpoint) : List Affinity :=
  Affinity.ofEndpoints n.partitions endpoints

/-- The greatest number of slots that the scan can be split into (`max_parallelization_width`). -/
def width (n : PlanNode) : Nat := n.partitions.length

/-- **What one slot of an assignment has to do (`get_specific_scan`).** -/
def work (n : PlanNode) (a : Assignment) (slot : Int) : Except Failure SlotWork :=
  (a.get slot).map fun fragments => ⟨n.scan.table, n.columns, fragments⟩

/-- **The text that identifies the scan of a node (`digest`).** -/
def digest (n : PlanNode) : String :=
  "RangeScanPlanNode [ScanSpec=" ++ n.scan.shown ++ ", columns=" ++
    Text.bracketed (n.columns.map Text.quoted) ++ "]"

/-- **How building a node ends**: the projection decides, and a node that is built has what it was
built with, its partitions in order, its columns as asked and the sizes added up. -/
theorem outcome_make_eq (scan : Scan) (p : Projection) (partitions : List Hosted)
    (statistics : Statistics) (schema : Schema) (settings : Setting.Settings)
    (filterPushed : Bool) :
    (make scan p partitions statistics schema settings filterPushed).outcome =
      (schema.validate (some p.columnsOf)).map fun _ =>
        ⟨scan, p.columnsOf, Hosted.sort partitions, statistics, schema, settings, filterPushed,
          (((Hosted.sort partitions).map Hosted.id).map statistics.bytesOf).foldr (· + ·) 0⟩ := by
  unfold make
  cases schema.validate (some p.columnsOf) with
  | error f => rfl
  | ok u =>
    dsimp only
    rw [Traced.outcome_bind_of_ok rfl,
      Traced.outcome_bind_of_ok (Statistics.outcome_totalBytes statistics _)]
    rfl

/-- **A node has what it was built with**, its partitions in order and its columns as asked. -/
theorem keeps_of_make {scan : Scan} {p : Projection} {partitions : List Hosted}
    {statistics : Statistics} {schema : Schema} {settings : Setting.Settings}
    {filterPushed : Bool} {n : PlanNode}
    (h : (make scan p partitions statistics schema settings filterPushed).outcome = .ok n) :
    n.scan = scan ∧ n.columns = p.columnsOf ∧ n.partitions = Hosted.sort partitions ∧
      n.statistics = statistics ∧ n.schema = schema ∧ n.settings = settings ∧
      n.filterPushed = filterPushed := by
  rw [outcome_make_eq] at h
  cases hv : schema.validate (some p.columnsOf) with
  | error f =>
    rw [hv] at h
    exact nomatch h
  | ok u =>
    rw [hv] at h
    have hn := Except.ok.inj h
    subst hn
    exact ⟨rfl, rfl, rfl, rfl, rfl, rfl, rfl⟩

end PlanNode

end Keyspan
