import Keyspan.Proofs.Number.Rounding
import Keyspan.Proofs.Plan.Copies
import Keyspan.Proofs.Plan.Coverage

/-!
# Row counts are exact up to `2 ^ 53`

The rows of a scan are counted as whole numbers and go through floating-point numbers only to have
a share of them taken. Without a filter the share is one and with a filter it is a half, unless
another one was set; both are powers of two, so nothing is lost on the way as long as the rows are
at most `2 ^ 53`, and the half of them is rounded down once, at the end. If the sizes of partitions
are not known, a node counts a fixed number of average rows for each of its partitions, and what an
average row is cancels out.

* `Scan.halvings`: how often the rows of a scan are halved.
* `PlanNode.Estimated`: nodes whose statistics were found out by sampling.

Results:
* `Scan.share_eq`: the share is a power of two.
* `Scan.one_le_of_statistics`: no average is below one, whatever was sampled.
* `Scan.rowCount_eq`: rows are counted exactly.
* `totalBytes_of_sizes_none`: the bytes of a node without sizes.
* `rowCount_exact`: both together, from a number of bytes and for a node without sizes.
-/

namespace Keyspan

open Setting (Settings)
open Sample (Sampler)

theorem Double.ofInteger_natCast {n : Nat} (hn : n ≤ 2 ^ 53) :
    Double.ofInteger n = .ok (.finite false n) := by
  unfold Double.ofInteger
  rw [Double.ofInt?_natCast hn]

/-- **The share of rows that passes a filter has its default** if none is set. -/
theorem Setting.Settings.selectivity_of_lookup_none {settings : Settings}
    (h : settings.lookup Setting.filterSelectivity.key = none) :
    settings.selectivity .missing = .ok Setting.filterSelectivity.fallback := by
  have hshare : Setting.filterSelectivity.fallback.isShare? = some true := by decide +kernel
  have hread : settings.read Setting.filterSelectivity .missing =
      .ok Setting.filterSelectivity.fallback := read_of_lookup_none h .missing
  unfold selectivity
  rw [hread]
  simp only [bind, Except.bind, hshare]
  rfl

namespace Scan

variable {s : Scan} {st : Statistics} {total : Int} {settings : Settings}

/-! ## Averages are at least one -/

theorem one_le_of_averageRows {c : Sample.Cursor} {count : Int} {a : Averages}
    (h : (s.averageRows c count).outcome = .ok a) : 1 ≤ a.rowBytes ∧ 1 ≤ a.columns := by
  unfold averageRows at h
  obtain ⟨rows, -, h⟩ := Traced.outcome_bind_eq_ok_iff.mp h
  split at h
  · obtain rfl : Averages.unknown = a := Except.ok.inj h
    exact ⟨le_rfl, le_rfl⟩
  · obtain rfl : Averages.ofRows rows = a := Except.ok.inj h
    exact Averages.one_le_ofRows rows

theorem one_le_of_sample {sampler : Sampler} {a : Averages}
    (h : (s.sample settings sampler).outcome = .ok a) : 1 ≤ a.rowBytes ∧ 1 ≤ a.columns := by
  unfold sample at h
  obtain ⟨limit, -, h⟩ := Traced.outcome_bind_eq_ok_iff.mp h
  dsimp only at h
  split at h
  · obtain rfl : Averages.unknown = a := Except.ok.inj h
    exact ⟨le_rfl, le_rfl⟩
  · obtain ⟨cursor, -, h⟩ := Traced.outcome_bind_eq_ok_iff.mp h
    exact one_le_of_averageRows h

/-- **No average is below one**, whatever was sampled. -/
theorem one_le_of_statistics {ids : List String} {sampler : Sampler}
    {provider : Option StatusProvider}
    (h : (s.statistics ids settings sampler provider).outcome = .ok st) :
    1 ≤ st.averages.rowBytes ∧ 1 ≤ st.averages.columns := by
  unfold statistics at h
  obtain ⟨averages, haverages, h⟩ := Traced.outcome_bind_eq_ok_iff.mp h
  obtain ⟨sizes, -, h⟩ := Traced.outcome_bind_eq_ok_iff.mp h
  obtain rfl : (⟨averages, sizes⟩ : Statistics) = st := Except.ok.inj h
  exact one_le_of_sample haverages

/-! ## Rows are counted exactly -/

/-- How often the rows of a scan are halved: once if there is a filter. -/
def halvings (s : Scan) : Nat := if s.filter = none then 0 else 1

/-- **The share of the rows is a power of two**, if no other was set. -/
theorem share_eq (h : s.filter = none ∨
      settings.selectivity .missing = .ok Setting.filterSelectivity.fallback) :
    s.share settings = .ok (.finite false (1 / 2 ^ s.halvings)) := by
  unfold share hasFilter halvings
  cases hfilter : s.filter with
  | none =>
    show Except.ok (Double.finite false 1) = .ok (Double.finite false (1 / 2 ^ 0))
    rw [pow_zero, div_one]
  | some b =>
    have hhalf := h.resolve_left (hfilter ▸ Option.some_ne_none b)
    show (settings.selectivity .missing).map _ = .ok (Double.finite false (1 / 2 ^ 1))
    rw [hhalf, pow_one]
    rfl

theorem div_halvings (s : Scan) (n : Nat) :
    n / 2 ^ s.halvings = if s.filter = none then n else n / 2 := by
  unfold halvings
  split
  · rw [pow_zero, Nat.div_one]
  · rw [pow_one]

/-- **Rows are counted exactly**: those that are there, and half of them if there is a filter. -/
theorem rowCount_eq {n : Nat} (hrow : 1 ≤ st.averages.rowBytes)
    (hn : total / st.averages.rowBytes = n) (hle : n ≤ 2 ^ 53)
    (h : s.filter = none ∨
      settings.selectivity .missing = .ok Setting.filterSelectivity.fallback) :
    s.rowCount st total settings = .ok (if s.filter = none then n else n / 2 : Nat) := by
  have hwhole : st.wholeRows total = .ok (n : Int) := by
    unfold Statistics.wholeRows
    rw [if_neg (by omega), Int.fdiv_eq_ediv_of_nonneg total (by omega), hn]
  have hhalvings : s.halvings ≤ 1074 := by
    unfold halvings
    split <;> decide
  have hcount := Double.integerPart?_mul_share hhalvings hle
  unfold rowCount
  rw [share_eq h, hwhole]
  show (Double.ofInteger n >>= fun rows =>
    pure ((rows.mul (.finite false (1 / 2 ^ s.halvings))).integerPart?.getD 0)) = _
  rw [Double.ofInteger_natCast hle]
  show Except.ok (((Double.finite false n).mul _).integerPart?.getD 0) = _
  rw [hcount, ← div_halvings]
  rfl

end Scan

/-! ## Nodes without sizes -/

namespace PlanNode

/-- **A node whose statistics were found out by sampling**, for whatever scan and from whatever
sampler and provider. -/
structure Estimated (n : PlanNode) : Prop where
  built : n.Built
  sampled : ∃ (s : Scan) (ids : List String) (settings : Settings) (sampler : Sampler)
    (provider : Option StatusProvider),
      (s.statistics ids settings sampler provider).outcome = .ok n.statistics

/-- **What a planned node knows**: the scan and the settings it was planned with, and the statistics
of that scan. -/
theorem statistics_of_create {c : Catalog} {scan : Scan} {sampler : Sampler}
    {provider : Option StatusProvider} {p : Projection} {settings : Settings} {n : PlanNode}
    (h : (create c scan sampler provider p settings).outcome = .ok n) :
    n.Built ∧ n.scan = scan ∧ n.settings = settings ∧
      ∃ ids, (scan.statistics ids settings sampler provider).outcome = .ok n.statistics := by
  obtain ⟨_, _, _, -, -, hstatistics, hn⟩ := create_eq_ok_iff.mp h
  obtain ⟨hscan, -, -, hkept, -, hsettings, -⟩ := keeps_of_make hn
  exact ⟨⟨_, _, _, _, _, _, _, hn⟩, hscan, hsettings, _, hkept ▸ hstatistics⟩

/-- **Planned nodes are such nodes.** -/
theorem Estimated.of_create {c : Catalog} {scan : Scan} {sampler : Sampler}
    {provider : Option StatusProvider} {p : Projection} {settings : Settings} {n : PlanNode}
    (h : (create c scan sampler provider p settings).outcome = .ok n) : n.Estimated := by
  obtain ⟨hbuilt, -, -, ids, hstatistics⟩ := statistics_of_create h
  exact ⟨hbuilt, _, _, _, _, _, hstatistics⟩

/-- **So are their copies.** -/
theorem Estimated.copies {n n' : PlanNode} (h : n.Estimated) {ks : List Copying}
    (hcopies : (n.copies ks).outcome = .ok n') : n'.Estimated := by
  induction ks generalizing n with
  | nil => exact Except.ok.inj hcopies ▸ h
  | cons k ks ih =>
    have hsplit : n.copies (k :: ks) = n.copy k >>= fun m => m.copies ks := List.foldlM_cons
    rw [hsplit] at hcopies
    obtain ⟨m, hm, hrest⟩ := Traced.outcome_bind_eq_ok_iff.mp hcopies
    refine ih ⟨Built.copy hm, ?_⟩ hrest
    rcases copy_cases h.built.normal k with ⟨hok, -⟩ | ⟨f, hf, -⟩
    · obtain rfl : n.changed k = m := Except.ok.inj (hok.symm.trans hm)
      cases k <;> exact h.sampled
    · exact nomatch hf.symm.trans hm

theorem totalBytes_of_sizes_none {n : PlanNode} (h : n.Built) (hsizes : n.statistics.sizes = none) :
    n.totalBytes = n.width * 2 ^ 20 * n.statistics.averages.rowBytes := by
  have hsize (id : String) :
      n.statistics.bytesOf id = n.statistics.averages.rowBytes * (assumedRows : Int) := by
    unfold Statistics.bytesOf
    rw [hsizes]
  have hsum (ids : List String) : (ids.map n.statistics.bytesOf).foldr (· + ·) 0 =
      (ids.length : Int) * 2 ^ 20 * n.statistics.averages.rowBytes := by
    induction ids with
    | nil => simp
    | cons id rest ih =>
      rw [List.map_cons, List.foldr_cons, ih, hsize, List.length_cons, Nat.cast_succ]
      show _ * (2 ^ 20 : Int) + _ = _
      ring
  rw [← h.normal.totalBytes, hsum, List.length_map]
  rfl

/-- **Row counts are exact up to `2 ^ 53`.** Whole average rows in a number of bytes that is not
negative, at most `2 ^ 53` of them, are counted as they are without a filter, and with a filter
half of them, rounded down, unless another share was set. So a node whose sizes are not known,
whatever was sampled for it, counts `2 ^ 20` rows for each of its partitions without a filter and
`2 ^ 19` with one, for up to `2 ^ 33` partitions, and that is the row count in its cost, if it has
one. -/
theorem rowCount_exact :
    (∀ (s : Scan) (st : Statistics) (total : Int) (settings : Settings),
      0 ≤ total → 1 ≤ st.averages.rowBytes → total / st.averages.rowBytes ≤ 2 ^ 53 →
      (s.filter = none ∨
        settings.selectivity .missing = .ok Setting.filterSelectivity.fallback) →
      s.rowCount st total settings =
        .ok (if s.filter = none then total / st.averages.rowBytes
          else total / st.averages.rowBytes / 2)) ∧
    ∀ n : PlanNode, n.Estimated → n.statistics.sizes = none → n.width ≤ 2 ^ 33 →
      (n.scan.filter = none ∨
        n.settings.selectivity .missing = .ok Setting.filterSelectivity.fallback) →
      let rows : Int := if n.scan.filter = none then n.width * 2 ^ 20 else n.width * 2 ^ 19
      n.scan.rowCount n.statistics n.totalBytes n.settings = .ok rows ∧
        n.cost = (n.statistics.diskCost n.totalBytes (some n.columns)).map
          fun disk => ⟨rows, disk⟩ := by
  refine ⟨fun s st total settings htotal hrow hle hshare => ?_,
    fun n hn hsizes hwidth hshare => ?_⟩
  · obtain ⟨k, hk⟩ := Int.eq_ofNat_of_zero_le
      (Int.ediv_nonneg htotal (Int.le_trans Int.one_nonneg hrow))
    rw [hk] at hle ⊢
    rw [Scan.rowCount_eq hrow hk (by exact_mod_cast hle) hshare]
    split <;> rfl
  · intro rows
    obtain ⟨s, ids, settings, sampler, provider, hstatistics⟩ := hn.sampled
    have hrow := (Scan.one_le_of_statistics hstatistics).1
    have hwhole : n.totalBytes / n.statistics.averages.rowBytes = (n.width * 2 ^ 20 : Nat) := by
      rw [totalBytes_of_sizes_none hn.built hsizes, Int.mul_ediv_cancel _ (by omega)]
      push_cast
      rfl
    have hrows : n.scan.rowCount n.statistics n.totalBytes n.settings = .ok rows := by
      rw [Scan.rowCount_eq hrow hwhole (by omega) hshare]
      have hhalf : n.width * 2 ^ 20 / 2 = n.width * 2 ^ 19 := by omega
      rw [hhalf]
      show _ = Except.ok (if n.scan.filter = none then _ else _)
      split <;> push_cast <;> rfl
    refine ⟨hrows, ?_⟩
    unfold cost Scan.cost
    rw [hrows]
    cases n.statistics.diskCost n.totalBytes (some n.columns) <;> rfl

/-- An odd number of rows under a filter that is empty, and a node for the same scan of a table with
two partitions, one of which is not visited, and with rows of seventeen bytes. -/
theorem rowCount_exact_filtered :
    let scan : Scan := ⟨"t", ⟨[7], []⟩, some []⟩
    let schema : Schema := ⟨"t", ["c"], "k"⟩
    let partitions : List Hosted :=
      [⟨⟨"p", "t", ⟨[], [5]⟩⟩, ⟨"a", 1⟩⟩, ⟨⟨"q", "t", ⟨[5], []⟩⟩, ⟨"b", 1⟩⟩]
    let sampler : Sampler := .constant (.ok (.ofRows [⟨[10, 7], 2⟩] true))
    scan.rowCount ⟨⟨3, 1⟩, none⟩ (3 * (2 ^ 53 - 1) + 2) .empty = .ok (2 ^ 52 - 1) ∧
      ∃ c n, (Catalog.register schema partitions).on .empty = (.ok (), c) ∧
        (create c scan sampler none none .empty).outcome = .ok n ∧
        n.statistics = ⟨⟨17, 2⟩, none⟩ ∧ n.width = 1 ∧
        n.scan.rowCount n.statistics n.totalBytes n.settings = .ok (2 ^ 19) := by
  intro scan schema partitions sampler
  have hdefault : Settings.selectivity .empty .missing =
      .ok Setting.filterSelectivity.fallback := Settings.selectivity_of_lookup_none rfl
  obtain ⟨c, hc⟩ : ∃ c, (Catalog.register schema partitions).on .empty = (.ok (), c) :=
    ⟨_, Catalog.register_eq_ok_iff.mpr ⟨by decide, rfl⟩⟩
  have havailable : c.available = true := Catalog.available_of_register hc
  have hholds : c.Holds schema partitions := .registered hc
  have hstatistics (ids : List String) :
      (scan.statistics ids .empty sampler none).outcome = .ok ⟨⟨17, 2⟩, none⟩ := rfl
  obtain ⟨n, hn⟩ : ∃ n, (create c scan sampler none none .empty).outcome = .ok n :=
    exists_of_located (hholds.schema_eq.trans (if_pos havailable))
      (hholds.located_eq.trans (if_pos havailable)) (hstatistics _) rfl
  obtain ⟨-, hscan, hsettings, ids, hknown⟩ := statistics_of_create hn
  have hsame : n.statistics = ⟨⟨17, 2⟩, none⟩ :=
    Except.ok.inj (hknown.symm.trans (hstatistics ids))
  have hwidth : n.width = 1 := (partitions_perm hholds rfl hn).2.length_eq
  refine ⟨rowCount_exact.1 scan _ _ .empty (by decide) (by decide) (by decide) (.inr hdefault),
    c, n, hc, hn, hsame, hwidth, ?_⟩
  have hnode := rowCount_exact.2 n (.of_create hn) (hsame ▸ rfl) (by omega)
    (.inr (hsettings ▸ hdefault))
  rw [hscan, hwidth] at hnode
  exact hscan ▸ hnode.1

-- one row more than `2 ^ 53`, and it is lost
example : Scan.rowCount ⟨"t", ⟨[], []⟩, none⟩ ⟨⟨1, 1⟩, none⟩ (2 ^ 53 + 1) .empty =
    .ok (2 ^ 53) := by
  decide +kernel

end PlanNode

end Keyspan
