import Keyspan.ByteSize
import Keyspan.OrderedMap
import Keyspan.Trace

/-!
# Statistics of a scan

What is known of a scan before it runs: averages over a sample of its rows, and the sizes of the
partitions of its table, as far as the cluster reported them. Sizes that were never asked for, or
never answered, are `none`; then every partition counts as a fixed number of average rows. Once
sizes are known, a partition that was not reported counts as nothing.

Results: `outcome_partitionBytes`: the size of a partition is always found; `bytesOf_of_lookup` and
`bytesOf_of_notMem`: which size it is once sizes are known.
-/

namespace Keyspan

/-- Averages over sampled rows: the bytes of a row and the columns it fills. -/
structure Averages where
  rowBytes : Int
  columns : Int
  deriving DecidableEq

/-- Sizes of partitions by id, in bytes. -/
abbrev SizeMap := OrderedMap String Nat

/-- What is known of a scan before it runs (`StatsSnapshot`). -/
structure Statistics where
  averages : Averages
  sizes : Option SizeMap

/-- The rows of a partition whose size was never asked for (`DEFAULT_ROW_COUNT`). -/
def assumedRows : Nat := bytesPerMebibyte

namespace Statistics

/-- **The size of a partition, in bytes.** -/
def bytesOf (st : Statistics) (id : String) : Int :=
  match st.sizes with
  | none => st.averages.rowBytes * (assumedRows : Int)
  | some sizes => ((sizes.lookup id).getD 0 : Nat)

theorem bytesOf_of_lookup (averages : Averages) {sizes : SizeMap} {id : String} {size : Nat}
    (h : sizes.lookup id = some size) : bytesOf ⟨averages, some sizes⟩ id = size :=
  congrArg (fun known : Option Nat => ((known.getD 0 : Nat) : Int)) h

theorem bytesOf_of_notMem (averages : Averages) {sizes : SizeMap} {id : String}
    (h : id ∉ sizes.keys) : bytesOf ⟨averages, some sizes⟩ id = 0 :=
  congrArg (fun known : Option Nat => ((known.getD 0 : Nat) : Int))
    ((OrderedMap.lookup_eq_none_iff sizes id).mpr h)

/-- Whether sizes are known, but not that of a partition. -/
def lacks (st : Statistics) (id : String) : Bool :=
  match st.sizes with
  | none => false
  | some sizes => (sizes.lookup id).isNone

/-- The size of a partition, and a report if it is not known (`partition_size_bytes`). -/
def partitionBytes (st : Statistics) (id : String) : Traced Int :=
  ⟨if st.lacks id then [.notice (.sizeUnknown id)] else [], .ok (st.bytesOf id)⟩

/-- The size of all partitions together, and a report for each that is not known
(`total_scan_bytes`). -/
def totalBytes (st : Statistics) : List String → Traced Int
  | [] => .ok 0
  | id :: rest => do
    let size ← st.partitionBytes id
    let others ← totalBytes st rest
    return size + others

/-- **The size of a partition is always found.** -/
theorem outcome_partitionBytes (st : Statistics) (id : String) :
    (st.partitionBytes id).outcome = .ok (st.bytesOf id) := rfl

theorem outcome_totalBytes (st : Statistics) (ids : List String) :
    (st.totalBytes ids).outcome = .ok ((ids.map st.bytesOf).foldr (· + ·) 0) := by
  induction ids with
  | nil => rfl
  | cons id rest ih =>
    unfold totalBytes
    rw [Traced.outcome_bind_of_ok (outcome_partitionBytes st id), Traced.outcome_bind_of_ok ih]
    rfl

end Statistics

end Keyspan
