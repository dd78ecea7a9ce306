import Keyspan.Proofs.Estimate.Fallback
import Keyspan.Proofs.Number.Literal
import Mathlib.Algebra.Ring.Int.Defs
import Mathlib.Data.List.Perm.Basic

/-!
# Sizes are told by the last load of a partition

A status lists loads, server by server. The sizes for a scan have the partitions of its table that
have a load, each with the size of its last one; a partition of the table without a load counts as
nothing once there are sizes. Loads of other tables make no difference, and neither does the order
of the loads if no partition of the table has more than one. One thing can still go wrong with a
status that arrives: the wait for it is longer than the clock counts.

* `ClusterStatus.loads`, `ClusterStatus.loadsOn`: all loads, and those of some partitions.
* `ClusterStatus.lastLoad?`: the last load of a partition.
* `ClusterStatus.Reordered`: the same loads of the same servers, in another order.
* `SizeMap.ofLoads`: the sizes in some loads.
* `SizeMap.LastLoads`: a size map has the last loads of some partitions.

Results:
* `SizeMap.lastLoads_ofLoads`: the sizes in the loads of a table are those of the last loads.
* `ClusterStatus.Reordered.lookup_ofLoads_eq`: reordering loads leaves sizes as they are, if no
  partition has two loads.
* `Scan.statistics_of_status`: the statistics that a status leads to.
-/

namespace Keyspan

open Setting (Settings)
open Sample (Sampler)

/-! ## Loads -/

namespace ClusterStatus

/-- All loads, in the order of the servers and then in that of their loads. -/
def loads (s : ClusterStatus) : List PartitionLoad := s.servers.flatMap s.loadsOf

/-- The loads of some partitions. -/
def loadsOn (s : ClusterStatus) (ids : List String) : List PartitionLoad :=
  s.loads.filter fun load => ids.contains load.id

/-- The last load of a partition. -/
def lastLoad? (s : ClusterStatus) (id : String) : Option PartitionLoad :=
  (s.loads.filter fun load => load.id = id).getLast?

/-- **The same loads of the same servers, in another order.** -/
structure Reordered (s t : ClusterStatus) : Prop where
  servers : s.servers.Perm t.servers
  loadsOf : ∀ server, (s.loadsOf server).Perm (t.loadsOf server)

variable {s t : ClusterStatus} {ids : List String} {id : String}

theorem mem_loads {load : PartitionLoad} :
    load ∈ s.loads ↔ ∃ server ∈ s.servers, load ∈ s.loadsOf server := List.mem_flatMap

theorem map_snd_reports (s : ClusterStatus) : s.reports.map Prod.snd = s.loads := by
  unfold reports loads
  rw [List.map_flatMap]
  refine congrArg (List.flatMap · s.servers) (funext fun server => ?_)
  rw [List.map_map]
  exact List.map_id _

theorem map_snd_reportsOn (s : ClusterStatus) (ids : List String) :
    (s.reportsOn ids).map Prod.snd = s.loadsOn ids := by
  unfold reportsOn loadsOn
  rw [← map_snd_reports, List.filter_map]
  rfl

/-- The last load of a partition of the table is its last one among those of the table. -/
theorem getLast?_filter_loadsOn (s : ClusterStatus) (hid : id ∈ ids) :
    ((s.loadsOn ids).filter fun load => load.id = id).getLast? = s.lastLoad? id := by
  unfold loadsOn lastLoad?
  rw [List.filter_filter]
  refine congrArg List.getLast? (List.filter_congr fun load _ => ?_)
  by_cases h : load.id = id <;> simp [h, hid]

theorem lastLoad?_eq_none_iff :
    s.lastLoad? id = none ↔ ∀ server ∈ s.servers, ∀ load ∈ s.loadsOf server, load.id ≠ id := by
  unfold lastLoad?
  rw [List.getLast?_eq_none_iff, List.filter_eq_nil_iff]
  constructor
  · intro h server hserver load hload heq
    exact h load (mem_loads.mpr ⟨server, hserver, hload⟩) (by simpa using heq)
  · intro h load hload
    obtain ⟨server, hserver, hmem⟩ := mem_loads.mp hload
    simpa using h server hserver load hmem

theorem Reordered.perm (h : s.Reordered t) : s.loads.Perm t.loads :=
  h.servers.flatMap fun server _ => h.loadsOf server

theorem eq_of_perm_of_length_le_one {α : Type} {xs ys : List α} (h : xs.Perm ys)
    (hxs : xs.length ≤ 1) : xs = ys := by
  match xs, hxs with
  | [], _ => exact h.nil_eq
  | [x], _ => exact h.singleton_eq

/-- **A partition with one load keeps it when loads are reordered.** -/
theorem Reordered.lastLoad?_eq (h : s.Reordered t)
    (honce : (s.loads.countP fun load => load.id = id) ≤ 1) : s.lastLoad? id = t.lastLoad? id := by
  rw [List.countP_eq_length_filter] at honce
  exact congrArg List.getLast? (eq_of_perm_of_length_le_one (h.perm.filter _) honce)

end ClusterStatus

/-! ## Sizes in loads -/

/-- **The sizes in some loads**: a later one replaces an earlier one. -/
def SizeMap.ofLoads (loads : List PartitionLoad) : SizeMap :=
  loads.foldl (fun sizes load => sizes.put load.id load.reportedBytes) .empty

theorem SizeMap.ofReports_eq (reports : List (Server × PartitionLoad)) :
    ofReports reports = ofLoads (reports.map Prod.snd) := by
  unfold ofReports ofLoads
  rw [List.foldl_map]
  rfl

theorem SizeMap.nodup_keys_ofLoads (loads : List PartitionLoad) : (ofLoads loads).keys.Nodup :=
  OrderedMap.nodup_keys_foldl_put _ _ loads List.nodup_nil

theorem PartitionLoad.natCast_reportedBytes (l : PartitionLoad) :
    (l.reportedBytes : Int) = 2 ^ 20 * max 1 (l.memory + l.storage) := by
  have hnn : 0 ≤ max 1 l.size := Int.le_trans (by decide) (Int.le_max_left 1 l.size)
  unfold reportedBytes
  rw [Int.natCast_mul, Int.toNat_of_nonneg hnn, Int.mul_comm]
  rfl

namespace ClusterStatus

variable {s : ClusterStatus} {ids : List String} {id : String}

/-- **The size of a partition of the table is that of its last load.** -/
theorem lookup_ofLoads_loadsOn (s : ClusterStatus) (hid : id ∈ ids) :
    (SizeMap.ofLoads (s.loadsOn ids)).lookup id =
      (s.lastLoad? id).map PartitionLoad.reportedBytes := by
  have hlookup := OrderedMap.lookup_foldl_put PartitionLoad.id PartitionLoad.reportedBytes
    (s.loadsOn ids) .empty id
  rw [getLast?_filter_loadsOn s hid] at hlookup
  exact hlookup.trans Option.or_none

theorem lookup_ofLoads_loadsOn_of_notMem (s : ClusterStatus) (hid : id ∉ ids) :
    (SizeMap.ofLoads (s.loadsOn ids)).lookup id = none := by
  have hlookup := OrderedMap.lookup_foldl_put PartitionLoad.id PartitionLoad.reportedBytes
    (s.loadsOn ids) .empty id
  have hnone : ((s.loadsOn ids).filter fun load => load.id = id) = [] := by
    rw [List.filter_eq_nil_iff]
    intro load hload
    have hmem : load.id ∈ ids := by simpa using (List.mem_filter.mp hload).2
    simpa using fun h : load.id = id => hid (h ▸ hmem)
  rw [hnone] at hlookup
  exact hlookup.trans Option.or_none

/-- **The partitions that have a size are those of the table that a server reports.** -/
theorem mem_keys_ofLoads_loadsOn :
    id ∈ (SizeMap.ofLoads (s.loadsOn ids)).keys ↔
      id ∈ ids ∧ ∃ server ∈ s.servers, ∃ load ∈ s.loadsOf server, load.id = id := by
  rw [← not_iff_not, ← OrderedMap.lookup_eq_none_iff]
  by_cases hid : id ∈ ids
  · rw [lookup_ofLoads_loadsOn s hid, Option.map_eq_none_iff, lastLoad?_eq_none_iff]
    simp [hid]
  · simp [lookup_ofLoads_loadsOn_of_notMem s hid, hid]

/-- **Reordering loads leaves every size as it is** if no partition of the table has two loads. -/
theorem Reordered.lookup_ofLoads_eq {t : ClusterStatus} (h : s.Reordered t)
    (honce : ∀ id ∈ ids, (s.loads.countP fun load => load.id = id) ≤ 1) :
    (SizeMap.ofLoads (s.loadsOn ids)).lookup = (SizeMap.ofLoads (t.loadsOn ids)).lookup := by
  funext id
  by_cases hid : id ∈ ids
  · rw [lookup_ofLoads_loadsOn s hid, lookup_ofLoads_loadsOn t hid, h.lastLoad?_eq (honce id hid)]
  · rw [lookup_ofLoads_loadsOn_of_notMem s hid, lookup_ofLoads_loadsOn_of_notMem t hid]

end ClusterStatus

/-- **A size map has the last loads of some partitions**: its keys are those of them that a server
reports, each once, and the size of each is that of its last load, in whole mebibytes and at least
one. -/
structure SizeMap.LastLoads (sizes : SizeMap) (status : ClusterStatus) (ids : List String) :
    Prop where
  nodup : sizes.keys.Nodup
  mem_keys : ∀ id, id ∈ sizes.keys ↔
    id ∈ ids ∧ ∃ server ∈ status.servers, ∃ load ∈ status.loadsOf server, load.id = id
  lookup : ∀ id ∈ sizes.keys, ∃ last size, status.lastLoad? id = some last ∧
    sizes.lookup id = some size ∧ (size : Int) = 2 ^ 20 * max 1 (last.memory + last.storage)

theorem SizeMap.lastLoads_ofLoads (status : ClusterStatus) (ids : List String) :
    (ofLoads (status.loadsOn ids)).LastLoads status ids where
  nodup := nodup_keys_ofLoads _
  mem_keys _ := ClusterStatus.mem_keys_ofLoads_loadsOn
  lookup id hid := by
    have hmem : id ∈ ids := (ClusterStatus.mem_keys_ofLoads_loadsOn.mp hid).1
    have hlookup := ClusterStatus.lookup_ofLoads_loadsOn status hmem
    cases hlast : status.lastLoad? id with
    | none =>
      rw [hlast] at hlookup
      exact absurd hid ((OrderedMap.lookup_eq_none_iff _ id).mp hlookup)
    | some last =>
      rw [hlast] at hlookup
      exact ⟨last, last.reportedBytes, rfl, hlookup, last.natCast_reportedBytes⟩

/-! ## Planning with a status -/

namespace Scan

variable {settings : Settings} {wait : Duration}

/-- **The statistics when a status arrives**, by the loads of the table. -/
theorem outcome_statistics_of_report {scan : Scan} {sampler : Sampler} {averages : Averages}
    (hsample : (scan.sample settings sampler).outcome = .ok averages)
    (henabled : settings.sizeCalculation .missing = .ok (.flag true))
    (hwait : settings.clusterTimeout .missing = .ok (.duration wait)) (ids : List String)
    {provider : StatusProvider} {status : ClusterStatus}
    (hstatus : provider wait.seconds = .report status) :
    (scan.statistics ids settings sampler (some provider)).outcome =
      if wait.isCountable = true then .ok ⟨averages, some (.ofLoads (status.loadsOn ids))⟩
      else .error .waitTooLong := by
  rw [outcome_statistics hsample, scan.outcome_sizes_some ids henabled hwait, hstatus, if_pos rfl,
    ← ClusterStatus.map_snd_reportsOn, ← SizeMap.ofReports_eq]
  split <;> rfl

/-- **A size map has the last loads of the table's partitions.** For settings by which sizes are
asked for, a sampler that delivers and a status that arrives, planning knows the sizes of exactly
those partitions of the table that a server reports, each by its last load; every other partition
counts as nothing. Only a wait beyond the clock makes planning fail.

A status with the same loads of the table's partitions comes to the same, whatever it says of
others; and so does the same status in another order, if it has no partition of the table twice. -/
theorem statistics_of_status {scan : Scan} {sampler : Sampler} {averages : Averages}
    (hsample : (scan.sample settings sampler).outcome = .ok averages)
    (henabled : settings.sizeCalculation .missing = .ok (.flag true))
    (hwait : settings.clusterTimeout .missing = .ok (.duration wait)) (ids : List String)
    {provider : StatusProvider} {status : ClusterStatus}
    (hstatus : provider wait.seconds = .report status) :
    let planned (p : StatusProvider) := (scan.statistics ids settings sampler (some p)).outcome
    (if wait.isCountable = true then
      ∃ sizes, planned provider = .ok ⟨averages, some sizes⟩ ∧ sizes.LastLoads status ids ∧
        (∀ id ∈ sizes.keys, ∃ size, sizes.lookup id = some size ∧
          Statistics.bytesOf ⟨averages, some sizes⟩ id = size) ∧
        ∀ id, id ∉ sizes.keys → Statistics.bytesOf ⟨averages, some sizes⟩ id = 0
    else planned provider = .error .waitTooLong) ∧
    ∀ (other : StatusProvider) (reported : ClusterStatus),
      other wait.seconds = .report reported →
      (reported.loadsOn ids = status.loadsOn ids → planned other = planned provider) ∧
      (status.Reordered reported →
        (∀ id ∈ ids, (status.loads.countP fun load => load.id = id) ≤ 1) →
        (∃ sizes sizes', planned provider = .ok ⟨averages, some sizes⟩ ∧
          planned other = .ok ⟨averages, some sizes'⟩ ∧ sizes.lookup = sizes'.lookup) ∨
        ∃ f, planned provider = .error f ∧ planned other = .error f) := by
  intro planned
  have hplanned {p : StatusProvider} {st : ClusterStatus} (hst : p wait.seconds = .report st) :
      planned p = if wait.isCountable = true then
          .ok ⟨averages, some (.ofLoads (st.loadsOn ids))⟩
        else .error .waitTooLong :=
    outcome_statistics_of_report hsample henabled hwait ids hst
  constructor
  · by_cases hcount : wait.isCountable = true
    · rw [if_pos hcount]
      have hlast := SizeMap.lastLoads_ofLoads status ids
      refine ⟨_, (hplanned hstatus).trans (if_pos hcount), hlast, fun id hid => ?_,
        fun id hid => ?_⟩
      · obtain ⟨last, size, -, hlookup, -⟩ := hlast.lookup id hid
        exact ⟨size, hlookup, Statistics.bytesOf_of_lookup averages hlookup⟩
      · exact Statistics.bytesOf_of_notMem averages hid
    · rw [if_neg hcount]
      exact (hplanned hstatus).trans (if_neg hcount)
  · intro other reported hreported
    constructor
    · intro hloads
      rw [hplanned hreported, hplanned hstatus, hloads]
    · intro hreordered honce
      by_cases hcount : wait.isCountable = true
      · exact .inl ⟨_, _, (hplanned hstatus).trans (if_pos hcount),
          (hplanned hreported).trans (if_pos hcount), hreordered.lookup_ofLoads_eq honce⟩
      · exact .inr ⟨_, (hplanned hstatus).trans (if_neg hcount),
          (hplanned hreported).trans (if_neg hcount)⟩

/-- Two servers report two partitions of a table, one of them twice, and one of another table. -/
theorem statistics_of_status_of_two_servers :
    let scan : Scan := ⟨"t", ⟨[], []⟩, none⟩
    let settings : Settings := OrderedMap.empty.put Setting.sizesEnabled.key (.flag true)
    let sampler : Sampler := .constant (.ok (.ofRows [⟨[10], 1⟩] false))
    let provider (status : ClusterStatus) : StatusProvider := fun _ => .report status
    let planned (status : ClusterStatus) :=
      (scan.statistics ["p", "q", "z"] settings sampler (some (provider status))).outcome
    let near : Server := ⟨"near", 0⟩
    let far : Server := ⟨"far", 0⟩
    let twice : ClusterStatus :=
      ⟨[(near, [⟨"p", 3, 1⟩, ⟨"x", 9, 0⟩]), (far, [⟨"q", -5, 0⟩, ⟨"p", 1, 1⟩])]⟩
    let once : ClusterStatus := ⟨[(near, [⟨"p", 3, 1⟩, ⟨"x", 9, 0⟩]), (far, [⟨"q", -5, 0⟩])]⟩
    let turned : ClusterStatus := ⟨[(far, [⟨"q", -5, 0⟩]), (near, [⟨"x", 9, 0⟩, ⟨"p", 3, 1⟩])]⟩
    (∃ sizes, planned twice = .ok ⟨⟨10, 1⟩, some sizes⟩ ∧ sizes.lookup "p" = some 2097152 ∧
      sizes.lookup "x" = none ∧ Statistics.bytesOf ⟨⟨10, 1⟩, some sizes⟩ "z" = 0) ∧
    ∃ sizes sizes', planned once = .ok ⟨⟨10, 1⟩, some sizes⟩ ∧
      planned turned = .ok ⟨⟨10, 1⟩, some sizes'⟩ ∧ sizes.lookup = sizes'.lookup := by
  intro scan settings sampler provider planned near far twice once turned
  have hsample : (scan.sample settings sampler).outcome = .ok ⟨10, 1⟩ := rfl
  have henabled : settings.sizeCalculation .missing = .ok (.flag true) := rfl
  have hwait : settings.clusterTimeout .missing = .ok (.duration Setting.defaultTimeout) := rfl
  have hcountable : Setting.defaultTimeout.isCountable = true := by decide +kernel
  have hprovider (status : ClusterStatus) :
      provider status Setting.defaultTimeout.seconds = .report status := rfl
  constructor
  · have htwice := (statistics_of_status hsample henabled hwait ["p", "q", "z"]
      (hprovider twice)).1
    rw [if_pos hcountable] at htwice
    obtain ⟨sizes, hplanned, hlast, -, hnone⟩ := htwice
    have hp : "p" ∈ sizes.keys := (hlast.mem_keys "p").mpr (by decide)
    have hx : "x" ∉ sizes.keys := fun h => absurd ((hlast.mem_keys "x").mp h).1 (by decide)
    have hz : "z" ∉ sizes.keys := fun h => absurd ((hlast.mem_keys "z").mp h).2 (by decide)
    obtain ⟨last, size, hlastLoad, hlookup, hsize⟩ := hlast.lookup "p" hp
    obtain rfl : last = ⟨"p", 1, 1⟩ := Option.some.inj (hlastLoad.symm.trans (by decide))
    obtain rfl : size = 2097152 := Int.ofNat.inj (hsize.trans (by decide))
    exact ⟨sizes, hplanned, hlookup, (OrderedMap.lookup_eq_none_iff _ _).mpr hx, hnone "z" hz⟩
  · have hreordered : once.Reordered turned := by
      refine ⟨by decide, fun server => ?_⟩
      by_cases hnear : server = near
      · subst hnear
        decide
      · have hloads : once.loadsOf server = turned.loadsOf server := by
          simp [ClusterStatus.loadsOf, OrderedMap.lookup, OrderedMap.lookupIn, once, turned, hnear]
        rw [hloads]
    have honce : ∀ id ∈ ["p", "q", "z"], (once.loads.countP fun load => load.id = id) ≤ 1 := by
      decide
    obtain ⟨hboth, hother⟩ :=
      statistics_of_status hsample henabled hwait ["p", "q", "z"] (hprovider once)
    rw [if_pos hcountable] at hboth
    obtain ⟨sizes, hplanned, -⟩ := hboth
    rcases (hother (provider turned) turned (hprovider turned)).2 hreordered honce with h | h
    · exact h
    · obtain ⟨f, hfailed, -⟩ := h
      cases hplanned.symm.trans hfailed

/-- **A status can arrive and planning still fail**, with two hundred thousand days to wait. -/
theorem statistics_fail_with_status :
    let scan : Scan := ⟨"t", ⟨[], []⟩, none⟩
    let settings : Settings := (OrderedMap.empty.put Setting.sizesEnabled.key (.flag true)).put
      Setting.statusTimeout.key (.text "200000 d")
    let sampler : Sampler := .constant (.ok (.ofRows [⟨[10], 1⟩] false))
    let status : ClusterStatus := ⟨[(⟨"h", 0⟩, [⟨"p", 3, 0⟩])]⟩
    let provider : StatusProvider := fun _ => .report status
    (scan.statistics ["p"] settings sampler (some provider)).outcome = .error .waitTooLong := by
  intro scan settings sampler status provider
  have hsample : (scan.sample settings sampler).outcome = .ok ⟨10, 1⟩ := rfl
  have henabled : settings.sizeCalculation .missing = .ok (.flag true) := rfl
  have hwait : settings.clusterTimeout .missing =
      .ok (.duration ⟨17280000000000000, by decide⟩) := rfl
  have huncountable : ¬ (Duration.mk 17280000000000000 (by decide)).isCountable = true := by
    decide +kernel
  have hstatus (seconds : Double) : provider seconds = .report status := rfl
  rw [outcome_statistics_of_report hsample henabled hwait ["p"] (hstatus _), if_neg huncountable]

end Scan

end Keyspan
