import Keyspan.Cluster
import Keyspan.Estimate.Statistics
import Keyspan.Setting.Scan

/-!
# Sizes of partitions, as the cluster reports them

If a setting says so and there is someone to ask, the cluster is asked for its status, with a
limited time to answer (`StatsEstimator._calculate_partition_sizes`, `_fetch_cluster_status`). A
report that is late, that failed or that says nothing leaves the sizes unknown and is no failure;
asking that breaks off without a trace is one. Of a report that arrives, the loads of the table's
own partitions count, the later ones over the earlier ones; every partition takes at least one
mebibyte.

* `StatusAnswer`, `StatusProvider`: whom to ask, and what may come of it.
* `StatusProvider.ask`: asking, and waiting.
* `SizeMap.ofReports`: the sizes in a report.
* `Scan.sizes`: the sizes for a scan.

Results: `ofMebibytes_reportedBytes`: what a load is taken to occupy is a size in whole
mebibytes; `lookup_ofReports`: the size of a partition is that of its last load;
`lookup_ofReports_of_notMem`: partitions of other tables have no size.
-/

namespace Keyspan

/-- What becomes of asking for the status of the cluster. -/
inductive StatusAnswer where
  /-- A report arrives in time. -/
  | report (status : ClusterStatus)
  /-- An answer arrives in time and says nothing. -/
  | nothing
  /-- The provider fails. -/
  | failed (report : String)
  /-- The provider breaks off in a way that is not caught as a failure, and leaves nothing. -/
  | aborted
  /-- No answer arrives in time. -/
  | late
  deriving DecidableEq

/-- Someone who is asked for the status of the cluster, with a number of seconds to answer. -/
abbrev StatusProvider := Double → StatusAnswer

/-- **The bytes that a partition is taken to occupy**: its load, but at least one mebibyte. -/
def PartitionLoad.reportedBytes (l : PartitionLoad) : Nat := (max 1 l.size).toNat * bytesPerMebibyte

/-- What a partition is taken to occupy is a size in whole mebibytes. -/
theorem PartitionLoad.ofMebibytes_reportedBytes (l : PartitionLoad) :
    (ByteSize.ofMebibytes (max 1 l.size)).map ByteSize.bytes = .ok l.reportedBytes := by
  have hnn : 0 ≤ max 1 l.size := Int.le_trans (by decide) (Int.le_max_left 1 l.size)
  unfold reportedBytes
  generalize max 1 l.size = n at hnn
  obtain ⟨k, rfl⟩ := Int.eq_ofNat_of_zero_le hnn
  unfold ByteSize.ofMebibytes
  generalize bytesPerMebibyte = b
  have hpos : ¬ ((k : Int) * (b : Int) < 0) := by
    have := Int.mul_nonneg (Int.natCast_nonneg k) (Int.natCast_nonneg b)
    omega
  unfold ByteSize.ofBytes
  rw [if_neg hpos, ← Int.natCast_mul]
  rfl

namespace SizeMap

/-- Enter one load. -/
def enter (sizes : SizeMap) (report : Server × PartitionLoad) : SizeMap :=
  sizes.put report.2.id report.2.reportedBytes

/-- **The sizes in some loads**: a later one replaces an earlier one. -/
def ofReports (reports : List (Server × PartitionLoad)) : SizeMap := reports.foldl enter .empty

/-- **The size of a partition is that of its last load.** -/
theorem lookup_ofReports (reports : List (Server × PartitionLoad)) (id : String) :
    (ofReports reports).lookup id =
      (reports.filter fun r => r.2.id = id).getLast?.map fun r => r.2.reportedBytes :=
  (OrderedMap.lookup_foldl_put (fun r : Server × PartitionLoad => r.2.id)
    (fun r => r.2.reportedBytes) reports .empty id).trans Option.or_none

theorem lookup_ofReports_of_notMem {id : String} {reports : List (Server × PartitionLoad)}
    (h : ∀ r ∈ reports, id ≠ r.2.id) : (ofReports reports).lookup id = none := by
  have hnone : (reports.filter fun r => r.2.id = id) = [] :=
    List.filter_eq_nil_iff.mpr fun r hr => by simpa using (h r hr).symm
  rw [lookup_ofReports, hnone]
  rfl

end SizeMap

/-- The loads of some partitions, in the order of the report. -/
def ClusterStatus.reportsOn (s : ClusterStatus) (ids : List String) :
    List (Server × PartitionLoad) :=
  s.reports.filter fun (_, load) => ids.contains load.id

namespace Duration

/-- The nanoseconds that are beyond what the clock counts. -/
def clockLimit : Double := .ofRat ((9223372036854775808 : Int) : Rat)

/-- Whether the clock can count a duration, in nanoseconds. -/
def isCountable (d : Duration) : Bool :=
  (d.seconds.mul (.ofRat ((1000000000 : Int) : Rat))).lt clockLimit

end Duration

namespace StatusAnswer

/-- What is reported of an answer that brings no status. -/
def notices (wait : Duration) : StatusAnswer → List Notice
  | failed cause => [.statusFailed cause]
  | late => [.statusLate wait]
  | _ => []

/-- **The status in an answer**, if there is one. An answer that left nothing behind is looked for
in vain. -/
def status : StatusAnswer → Except Failure (Option ClusterStatus)
  | report status => .ok (some status)
  | aborted => .error .statusLost
  | _ => .ok none

end StatusAnswer

namespace StatusProvider

/-- Call the provider, with a number of seconds to answer. -/
def call (provider : StatusProvider) (seconds : Double) : Traced StatusAnswer :=
  Traced.call .statusAsked (fun seconds => .ok (provider seconds)) seconds

/-- **Ask for the status of the cluster.** The provider is called before it turns out that the wait
is longer than the clock counts. -/
def ask (provider : StatusProvider) (wait : Duration) : Traced (Option ClusterStatus) := do
  let answer ← provider.call wait.seconds
  if wait.isCountable then ⟨(answer.notices wait).map .notice, answer.status⟩
  else Traced.fail .waitTooLong

end StatusProvider

namespace Scan

/-- A report for every load. -/
def reportLoads : List (Server × PartitionLoad) → Traced Unit
  | [] => Traced.ok ()
  | (server, load) :: rest => do
    Traced.log (.sized load.id server load.size)
    reportLoads rest

/-- The sizes in a status, with a report for every load that counts. -/
def collectSizes (s : Scan) (ids : List String) (status : ClusterStatus) : Traced SizeMap := do
  let reports := status.reportsOn ids
  let sizes := SizeMap.ofReports reports
  reportLoads reports
  Traced.log (.sizesKnown sizes.size s.table)
  return sizes

/-- **The sizes for a scan** of a table with the given partitions. -/
def sizes (s : Scan) (ids : List String) (settings : Setting.Settings)
    (provider : Option StatusProvider) : Traced (Option SizeMap) := do
  let enabled ← Traced.ofExcept (settings.sizeCalculation .missing)
  match enabled, provider with
  | .flag true, some provider =>
    Traced.log (.sizesWanted s.table)
    let wait ← Traced.ofExcept (settings.clusterTimeout .missing)
    match ← StatusProvider.ask provider (wait.duration?.getD Setting.defaultTimeout) with
    | some status =>
      let known ← collectSizes s ids status
      return some known
    | none => return none
  | _, _ =>
    Traced.log .sizesOff
    return none

end Scan

end Keyspan
