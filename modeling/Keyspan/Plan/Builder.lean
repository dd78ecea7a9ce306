import Keyspan.Plan.Node

/-!
# Plan builders

A builder collects what a scan is to be: bounds, filter, projection and settings. Building a plan
takes a copy of the settings, so what is set later changes no node that was built before.

Results: `scan_eq_ok_iff`: the bounds are refused iff both are there and leave no row key between
them.
-/

namespace Keyspan

/-- What was collected of a scan (`ScanPlanBuilder`). -/
structure PlanBuilder where
  range : KeyRange
  filter : Option Bytes
  projection : Projection
  settings : Setting.Settings

namespace PlanBuilder

/-- The builder of a scan of a whole table, under some settings. -/
def ofSettings (settings : Setting.Settings) : PlanBuilder := ⟨⟨[], []⟩, none, none, settings⟩

/-- Start at a row key (`with_start_row`); without one, at the first. -/
def withStart (b : PlanBuilder) (row : Option Bytes) : PlanBuilder :=
  { b with range := ⟨row.getD [], b.range.stop⟩ }

/-- Stop in front of a row key (`with_stop_row`); without one, behind the last. -/
def withStop (b : PlanBuilder) (row : Option Bytes) : PlanBuilder :=
  { b with range := ⟨b.range.start, row.getD []⟩ }

/-- Filter the rows, or not (`with_filter`). -/
def withFilter (b : PlanBuilder) (filter : Option Bytes) : PlanBuilder :=
  { b with filter := filter }

/-- Ask for columns (`with_projection`). -/
def withProjection (b : PlanBuilder) (p : Projection) : PlanBuilder := { b with projection := p }

/-- Set a raw setting (`with_option`). -/
def withSetting (b : PlanBuilder) (key : String) (v : Setting.Value) : PlanBuilder :=
  { b with settings := b.settings.put key v }

/-- Whether both bounds are there and leave no row key between them. -/
def isEmptyRange (r : KeyRange) : Bool :=
  !r.start.isEmpty && !r.stop.isEmpty && Bytes.le r.stop r.start

/-- **The scan of a table (`new_scan_spec`).** -/
def scan (b : PlanBuilder) (table : String) : Except Failure Scan :=
  if isEmptyRange b.range then .error (.emptyRange b.range.start b.range.stop)
  else .ok ⟨table, b.range, b.filter⟩

/-- **The plan of a scan of a table (`build`).** -/
def build (b : PlanBuilder) (c : Catalog) (sampler : Sample.Sampler)
    (provider : Option StatusProvider) (table : String) : Traced PlanNode := do
  let s ← Traced.ofExcept (b.scan table)
  PlanNode.create c s sampler provider b.projection b.settings

/-- **The bounds are refused iff both are there and leave no row key between them.** -/
theorem scan_eq_ok_iff (b : PlanBuilder) (table : String) (s : Scan) :
    b.scan table = .ok s ↔ isEmptyRange b.range = false ∧ s = ⟨table, b.range, b.filter⟩ := by
  unfold scan
  cases h : isEmptyRange b.range with
  | true => simp
  | false => simp [eq_comm]

end PlanBuilder

end Keyspan
