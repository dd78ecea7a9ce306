import Keyspan.Plan.Node
import Keyspan.Proofs.Assignment.Course
import Keyspan.Proofs.Catalog.History
import Keyspan.Proofs.Clipping
import Keyspan.Proofs.Plan.Calls

/-!
# A plan reads every row of its range as often as the table has it

A node that was planned from a catalog visits the partitions of the table that overlap the scan. A
row that the scan asks for is in the fragment of such a partition iff it is in the partition, and
a partition that was left out has no such row. The assignment neither loses nor repeats a
fragment, so over all slots a row is read as often as there are partitions with it.

Results:
* `Catalog.Holds.lookup_locations`: a table is known by the partitions it was registered with,
  whatever else happens to the catalog.
* `countP_fragments`: how many fragments a row is in.
* `PlanNode.create_eq_ok_iff`: how a node comes to be planned.
* `PlanNode.fragments_cover`: end to end, from the registration to the work of the slots.
-/

namespace Keyspan

theorem Traced.outcome_bind_eq_ok_iff {α β : Type} {x : Traced α} {next : α → Traced β} {b : β} :
    (x >>= next).outcome = .ok b ↔ ∃ a, x.outcome = .ok a ∧ (next a).outcome = .ok b := by
  obtain ⟨events, outcome⟩ := x
  cases outcome with
  | ok a => exact ⟨fun h => ⟨a, rfl, h⟩, fun ⟨_, ha, h⟩ => Except.ok.inj ha ▸ h⟩
  | error f => exact ⟨fun h => (nomatch h), fun ⟨_, ha, _⟩ => (nomatch ha)⟩

/-! ## Registered tables -/

namespace Catalog

/-- **A table is registered with partitions**: that was its last registration, and no change since
then registered the table again. Changes that were refused do not count. -/
inductive Holds (schema : Schema) (partitions : List Hosted) : Catalog → Prop
  | registered {c c' : Catalog} (h : (register schema partitions).on c = (.ok (), c')) :
    Holds schema partitions c'
  | after {c : Catalog} (h : Holds schema partitions c) {k : Change}
    (hk : k.registers? schema.table = none) : Holds schema partitions (c.after k)

namespace Holds

variable {schema : Schema} {partitions : List Hosted} {c : Catalog}

theorem nodup (h : Holds schema partitions c) : (partitions.map Hosted.id).Nodup := by
  induction h with
  | registered h => exact (register_eq_ok_iff.mp h).1.distinct
  | after _ _ ih => exact ih

theorem lookup_schemas (h : Holds schema partitions c) :
    c.schemas.lookup schema.table = some schema := by
  induction h with
  | registered h =>
    rw [(register_eq_ok_iff.mp h).2]
    exact OrderedMap.lookup_put_self _ _ _
  | after _ hk ih =>
    rw [schemas_after, hk]
    exact ih

theorem lookup_locations (h : Holds schema partitions c) :
    c.locations.lookup schema.table = some (Hosted.sort partitions) := by
  induction h with
  | registered h =>
    rw [(register_eq_ok_iff.mp h).2]
    exact OrderedMap.lookup_put_self _ _ _
  | after _ hk ih =>
    rw [locations_after, hk]
    exact ih

theorem schema_eq (h : Holds schema partitions c) :
    c.schema schema.table = if c.available then .ok schema else .error outage := by
  unfold Catalog.schema checkAvailable entry
  rw [h.lookup_schemas]
  cases c.available <;> rfl

theorem located_eq (h : Holds schema partitions c) :
    c.located schema.table =
      if c.available then .ok (Hosted.sort partitions) else .error outage := by
  unfold located checkAvailable entry
  rw [h.lookup_locations]
  cases c.available <;> rfl

end Holds

end Catalog

/-! ## Rows and fragments -/

/-- **A row is in as many fragments of the overlapping partitions as there are partitions with
it**, if the scan asks for it, and in none otherwise. -/
theorem countP_fragments (s : Scan) (partitions : List Hosted) (row : Bytes) :
    ((Hosted.overlapping s.range partitions).map s.fragment).countP
        (fun f => f.range.contains row) =
      if s.range.contains row then
        partitions.countP fun h => h.partition.range.contains row
      else 0 := by
  have hrow : ((Hosted.overlapping s.range partitions).map s.fragment).countP
      (fun f => f.range.contains row) =
        partitions.countP fun h => h.partition.range.contains row && s.range.contains row := by
    unfold Hosted.overlapping
    rw [List.countP_map, List.countP_filter]
    refine List.countP_congr fun h _ => ?_
    rw [Bool.and_eq_true_iff, Bool.and_eq_true_iff]
    constructor
    · rintro ⟨hf, hov⟩
      exact (Scan.fragment_contains_iff hov row).mp hf
    · rintro ⟨hown, hscan⟩
      have hov := KeyRange.overlaps_of_contains hown hscan
      exact ⟨(Scan.fragment_contains_iff hov row).mpr ⟨hown, hscan⟩, hov⟩
  rw [hrow]
  cases s.range.contains row with
  | true => simp
  | false => simp

namespace PlanNode

/-! ## Planned nodes -/

section Planning

variable {c : Catalog} {scan : Scan} {sampler : Sample.Sampler} {provider : Option StatusProvider}
  {p : Projection} {settings : Setting.Settings}

/-- **What planning finds out**: the schema and the partitions of the table, the statistics, and the
node that is built of them. -/
theorem create_eq_ok_iff {n : PlanNode} :
    (create c scan sampler provider p settings).outcome = .ok n ↔
      ∃ schema located statistics, c.schema scan.table = .ok schema ∧
        c.located scan.table = .ok located ∧
        (scan.statistics (located.map Hosted.id) settings sampler provider).outcome =
          .ok statistics ∧
        (make scan p (Hosted.overlapping scan.range located) statistics schema settings
          false).outcome = .ok n := by
  cases hschema : c.schema scan.table with
  | error f =>
    have hcreate : (create c scan sampler provider p settings).outcome = .error f :=
      (create_of_unknown hschema).1
    simp [hcreate]
  | ok schema =>
  cases hlocated : c.located scan.table with
  | error f =>
    have hcreate : (create c scan sampler provider p settings).outcome = .error f :=
      (create_of_unlocated hschema hlocated).1
    simp [hcreate]
  | ok located =>
    have hcreate : (create c scan sampler provider p settings).outcome = _ :=
      (create_of_found hschema hlocated).1
    rw [hcreate, Traced.outcome_bind_eq_ok_iff]
    constructor
    · rintro ⟨statistics, hstatistics, hn⟩
      exact ⟨schema, located, statistics, rfl, rfl, hstatistics, hn⟩
    · rintro ⟨schema', located', statistics, hschema', hlocated', hstatistics, hn⟩
      obtain rfl := Except.ok.inj hschema'
      obtain rfl := Except.ok.inj hlocated'
      exact ⟨statistics, hstatistics, hn⟩

/-- **What a planned node visits**: the partitions of its table that overlap its range. -/
theorem partitions_of_create {n : PlanNode}
    (h : (create c scan sampler provider p settings).outcome = .ok n) :
    ∃ located, c.located scan.table = .ok located ∧ n.scan = scan ∧
      n.partitions = Hosted.sort (Hosted.overlapping scan.range located) := by
  obtain ⟨_, located, _, -, hlocated, -, hn⟩ := create_eq_ok_iff.mp h
  obtain ⟨hscan, -, hpartitions, -⟩ := keeps_of_make hn
  exact ⟨located, hlocated, hscan, hpartitions⟩

/-- **When a scan can be planned**: its table can be asked for, there are statistics, and the
projection is valid. -/
theorem exists_of_located {schema : Schema} {located : List Hosted} {statistics : Statistics}
    (hschema : c.schema scan.table = .ok schema) (hlocated : c.located scan.table = .ok located)
    (hstatistics : (scan.statistics (located.map Hosted.id) settings sampler
      provider).outcome = .ok statistics)
    (hp : schema.validate (some p.columnsOf) = .ok ()) :
    ∃ n, (create c scan sampler provider p settings).outcome = .ok n := by
  have hmake := outcome_make_eq scan p (Hosted.overlapping scan.range located) statistics schema
    settings false
  rw [hp] at hmake
  exact ⟨_, create_eq_ok_iff.mpr ⟨schema, located, statistics, hschema, hlocated, hstatistics,
    hmake⟩⟩

end Planning

/-- The work of all slots is there, and its fragments are those of the assignment. -/
theorem mapM_work (n : PlanNode) (a : Assignment) :
    ∃ works, (List.range a.size).mapM (fun slot : Nat => n.work a slot) = .ok works ∧
      works.flatMap SlotWork.fragments = a.slots.flatten := by
  have hwork : (List.range a.size).mapM (fun slot : Nat => n.work a slot) =
      .ok ((List.range a.size).filterMap fun slot =>
        a.slots[slot]?.map fun fragments => ⟨n.scan.table, n.columns, fragments⟩) := by
    refine mapM_eq_ok_filterMap fun slot hslot => ?_
    have hlt : slot < a.slots.length := List.mem_range.mp hslot
    refine ⟨⟨n.scan.table, n.columns, a.slots[slot]⟩, ?_, ?_⟩
    · unfold work Assignment.get
      dsimp only
      rw [List.getElem?_eq_getElem hlt]
      rfl
    · rw [List.getElem?_eq_getElem hlt]
      rfl
  refine ⟨_, hwork, ?_⟩
  rw [← List.map_filterMap, List.flatMap_map]
  show ((List.range a.slots.length).filterMap fun slot => a.slots[slot]?).flatMap id = _
  rw [filterMap_getElem?_range, List.flatMap_id]

/-! ## From the registration to the work of the slots -/

/-- **A planned node visits the registered partitions that overlap its range.** -/
theorem partitions_perm {c : Catalog} {schema : Schema} {partitions : List Hosted}
    (hc : c.Holds schema partitions) {scan : Scan} (hscan : scan.table = schema.table)
    {sampler : Sample.Sampler} {provider : Option StatusProvider} {p : Projection}
    {settings : Setting.Settings} {n : PlanNode}
    (hn : (create c scan sampler provider p settings).outcome = .ok n) :
    n.scan = scan ∧
      n.partitions.Perm (Hosted.overlapping scan.range partitions) := by
  obtain ⟨located, hlocated, hkept, hvisited⟩ := partitions_of_create hn
  rw [hscan, hc.located_eq] at hlocated
  split at hlocated
  · obtain rfl := Except.ok.inj hlocated
    rw [hvisited]
    exact ⟨hkept, (Hosted.sort_perm _).trans ((Hosted.sort_perm partitions).filter _)⟩
  · cases hlocated

/-- **No row is lost, read twice or read outside the range.** For a scan of a registered table, the
node that was planned refuses an assignment as invalid input if there are no endpoints or more of
them than its width. In every other case each slot has its work, and over all slots a row is in as
many fragments as there are registered partitions with it, if the scan asks for it, and in none
otherwise; every fragment is the part of the scan that a registered partition answers. -/
theorem fragments_cover {c : Catalog} {schema : Schema} {partitions : List Hosted}
    (hc : c.Holds schema partitions) {scan : Scan} (hscan : scan.table = schema.table)
    {sampler : Sample.Sampler} {provider : Option StatusProvider} {p : Projection}
    {settings : Setting.Settings} {n : PlanNode}
    (hn : (create c scan sampler provider p settings).outcome = .ok n)
    (endpoints : List Endpoint) :
    if endpoints.length = 0 ∨ n.width < endpoints.length then
      ∃ f, (n.assign endpoints).outcome = .error f ∧ f.category = .invalidInput
    else
      ∃ a works, (n.assign endpoints).outcome = .ok a ∧
        (List.range endpoints.length).mapM (fun slot : Nat => n.work a slot) = .ok works ∧
        (∀ row, (works.flatMap SlotWork.fragments).countP (fun f => f.range.contains row) =
          if scan.range.contains row then
            partitions.countP fun h => h.partition.range.contains row
          else 0) ∧
        ∀ f ∈ works.flatMap SlotWork.fragments, ∃ h ∈ partitions, f = scan.fragment h ∧
          f.table = scan.table ∧ f.filter = scan.filter ∧ f.host = h.host := by
  obtain ⟨rfl, hperm⟩ := partitions_perm hc hscan hn
  split
  · rename_i hrefused
    exact Scan.assign_refused n.scan (hrefused.imp_right Or.inl)
  · rename_i hpossible
    obtain ⟨hpos, hle⟩ := not_or.mp hpossible
    have hnodup : (n.partitions.map Hosted.id).Nodup :=
      (hperm.map Hosted.id).nodup_iff.mpr (hc.nodup.sublist (List.filter_sublist.map _))
    obtain ⟨a, ha, hsize, -, hanswer⟩ := Scan.assign_answers n.scan (Nat.pos_of_ne_zero hpos)
      (Nat.le_of_not_lt hle) hnodup
    obtain ⟨works, hworks, hfragments⟩ := n.mapM_work a
    rw [hsize] at hworks
    have hall : (works.flatMap SlotWork.fragments).Perm
        ((Hosted.overlapping n.scan.range partitions).map n.scan.fragment) := by
      rw [hfragments]
      exact hanswer.trans (hperm.map n.scan.fragment)
    refine ⟨a, works, ha, hworks, fun row => ?_, fun f hf => ?_⟩
    · rw [hall.countP_eq, countP_fragments]
    · obtain ⟨h, hh, rfl⟩ := List.mem_map.mp (hall.mem_iff.mp hf)
      exact ⟨h, List.mem_of_mem_filter hh, rfl, rfl, rfl, rfl⟩

/-- A row in two partitions is read twice. -/
theorem fragments_cover_overlap :
    let schema : Schema := ⟨"t", ["c"], "k"⟩
    let partitions : List Hosted :=
      [⟨⟨"p", "t", ⟨[], [5]⟩⟩, ⟨"a", 1⟩⟩, ⟨⟨"q", "t", ⟨[3], []⟩⟩, ⟨"b", 1⟩⟩]
    let scan : Scan := ⟨"t", ⟨[2], [9]⟩, none⟩
    let sampler : Sample.Sampler := .constant (.ok (.ofRows [] true))
    ∃ c n a works, (Catalog.register schema partitions).on .empty = (.ok (), c) ∧
      (create c scan sampler none none .empty).outcome = .ok n ∧
      (n.assign [⟨"a", 0⟩]).outcome = .ok a ∧
      (List.range 1).mapM (fun slot : Nat => n.work a slot) = .ok works ∧
      (works.flatMap SlotWork.fragments).countP (fun f => f.range.contains [4]) = 2 := by
  intro schema partitions scan sampler
  obtain ⟨c, hc⟩ : ∃ c, (Catalog.register schema partitions).on .empty = (.ok (), c) :=
    ⟨_, Catalog.register_eq_ok_iff.mpr ⟨by decide, rfl⟩⟩
  have havailable : c.available = true := Catalog.available_of_register hc
  have hholds : c.Holds schema partitions := .registered hc
  have hstatistics : (scan.statistics ((Hosted.sort partitions).map Hosted.id) .empty sampler
      none).outcome = .ok ⟨.unknown, none⟩ := rfl
  obtain ⟨n, hn⟩ : ∃ n, (create c scan sampler none none .empty).outcome = .ok n :=
    exists_of_located (hholds.schema_eq.trans (if_pos havailable))
      (hholds.located_eq.trans (if_pos havailable)) hstatistics rfl
  have hwidth : n.width = 2 := (partitions_perm hholds rfl hn).2.length_eq
  have hcover := fragments_cover hholds rfl hn [⟨"a", 0⟩]
  rw [hwidth, if_neg (by decide)] at hcover
  obtain ⟨a, works, ha, hworks, hrows, -⟩ := hcover
  exact ⟨c, n, a, works, hc, hn, ha, hworks, (hrows [4]).trans (by decide)⟩

end PlanNode

end Keyspan
