import Keyspan.Setting.Settings

/-!
# The settings of a scan

The four settings that planning a scan reads, and the reading of each. The number of rows to
sample must not be negative, and the share of rows that a filter lets through must be a share.
Both rules are checked on what was read, a default given by the caller included; a value that has
no order with numbers fails there.
-/

namespace Keyspan.Setting

/-- The most rows sampled to estimate row size and column count (`SCAN_SAMPLE_ROWS_COUNT`); zero
turns sampling off. -/
def sampleRows : Declaration :=
  { key := "scan.sample-rows.count", kind := .integer, fallback := .integer 100
    description := "Maximum number of rows sampled from the scan range to estimate the average " ++
      "row size and column count. 0 disables sampling."
    named := by decide }

/-- Whether the cluster is asked for the sizes of partitions (`SIZE_CALCULATOR_ENABLED`). -/
def sizesEnabled : Declaration :=
  { key := "size-calculator.enabled", kind := .flag, fallback := .flag false
    description := "Whether to query the cluster status for per-partition storage sizes. When " ++
      "disabled, every partition is assumed to hold a fixed default number of rows."
    named := by decide }

/-- Half a minute, the default wait for the cluster. -/
def defaultTimeout : Duration := ⟨30000000, by decide⟩

/-- How long to wait for the cluster to report (`CLUSTER_STATUS_TIMEOUT`). -/
def statusTimeout : Declaration :=
  { key := "cluster-status.timeout", kind := .duration, fallback := .duration defaultTimeout
    description := "Upper bound on the wait for a cluster status report."
    named := by decide }

/-- The share of rows that is assumed to pass a filter (`SCAN_FILTER_SELECTIVITY`). -/
def filterSelectivity : Declaration :=
  { key := "scan.filter-selectivity", kind := .real, fallback := .real (.finite false (1 / 2))
    description := "Fraction of rows assumed to survive a pushed-down filter."
    named := by decide }

namespace Value

/-- Whether a value is below zero, if it has an order with numbers. -/
def isNegative? (v : Value) : Option Bool :=
  match v with
  | real x => some (x.lt (.finite false 0))
  | v => v.integer?.map fun n => decide (n < 0)

def duration? : Value → Option Duration
  | duration d => some d
  | _ => none

def real? : Value → Option Double
  | real x => some x
  | _ => none

/-- Whether a value lies between zero and one, if it has an order with numbers. -/
def isShare? (v : Value) : Option Bool :=
  match v with
  | real x => some ((Double.finite false 0).le x && x.le (.finite false 1))
  | v => v.integer?.map fun n => decide (0 ≤ n) && decide (n ≤ 1)

end Value

namespace Settings

/-- **The number of rows to sample** (`sample_rows_count`), as it was set: a flag stays a flag. -/
def sampleRowsCount (s : Settings) (given : Value) : Except Failure Value := do
  let count ← s.read sampleRows given
  match count.isNegative? with
  | some false => return count
  | some true => throw (.negativeSampleCount sampleRows.key (← count.shown))
  | none => throw (.notComparable "<" count.kind .integer)

/-- Whether partition sizes are asked for (`size_calculator_enabled`). -/
def sizeCalculation (s : Settings) (given : Value) : Except Failure Value :=
  s.read sizesEnabled given

/-- The wait for the cluster (`cluster_status_timeout`). -/
def clusterTimeout (s : Settings) (given : Value) : Except Failure Value :=
  s.read statusTimeout given

/-- **The share of rows that passes a filter (`filter_selectivity`).** -/
def selectivity (s : Settings) (given : Value) : Except Failure Value := do
  let share ← s.read filterSelectivity given
  match share.isShare? with
  | some true => return share
  | some false => throw (.selectivityOutOfRange filterSelectivity.key (← share.shown))
  | none => throw (.notComparable "<=" .real share.kind)

end Settings

end Keyspan.Setting
