import Keyspan.Proofs.Number.Literal
import Keyspan.Proofs.Plan.Calls
import Mathlib.Algebra.Ring.Int.Defs

/-!
# Averages of a source that is read row by row

A source holds rows, may fail when it is asked for the row of a given number, and may have to be
closed. Sampling asks such a source for one row after the other, until it has as many as it may
take, the rows are over or the source fails. A failure behind the last row that is asked for never
shows, one exactly behind the last row that is held does.

* `Cursor.scripted`, `Cursor.Fails`: the answer of such a source, and when its failure is reached.
* `Cursor.reply`, `Cursor.askFor`: asking it for one row, and for one after the other.
* `Averages.overFirst`: the averages over the first rows of some.
* `Event.isSampling`: what is done with a sampler and its answer.

Results:
* `Cursor.take_scripted`: taking rows is asking for one after the other.
* `Cursor.askFor_of_fails`, `Cursor.askFor_of_lasts`: when the failure shows.
* `Averages.overFirst_eq`: averages as quotients of sums.
* `Scan.sampling_statistics`: finding out the sizes leaves the sampler alone.
* `Scan.statistics_of_source`: what is done with the sampler, and what the averages are.
-/

namespace Keyspan

open Setting (Settings)
open Sample (Sampler Cursor Row)

/-! ## Reading a source row by row -/

namespace Sample.Cursor

/-- A source of rows that fails when it is asked for the row of a given number, if any. -/
def scripted (rows : List Row) (failing : Option (Nat × Failure)) (closable : Bool) : Cursor :=
  match failing with
  | none => ofRows rows closable
  | some (k, f) => (ofRows rows closable).failingAt k f

/-- Whether a source fails when it is asked for up to `count` rows of the `held` ones. -/
def Fails (failing : Option (Nat × Failure)) (held count : Nat) (f : Failure) : Prop :=
  ∃ k, failing = some (k, f) ∧ k ≤ held ∧ k < count

/-- What a source answers when it is asked for a row. -/
inductive Reply where
  | row (r : Row)
  | over
  | broken (f : Failure)

/-- What a source answers when it is asked for its next row: it fails if it is to fail there, and
the rows that it holds do not matter then. -/
def reply : List Row → Option (Nat × Failure) → Reply
  | _, some (0, f) => .broken f
  | [], _ => .over
  | r :: _, _ => .row r

/-- **Ask for one row after the other**, at most `count` of them. Each row that is handed out
brings the failure one row nearer. -/
def askFor : Nat → List Row → Option (Nat × Failure) → Taken
  | 0, _, _ => ⟨[], none⟩
  | count + 1, rows, failing =>
    match reply rows failing with
    | .broken f => ⟨[], some f⟩
    | .over => ⟨[], none⟩
    | .row r =>
      let later := askFor count rows.tail (failing.map fun (k, f) => (k - 1, f))
      ⟨r :: later.rows, later.failure⟩

variable {rows : List Row} {failing : Option (Nat × Failure)} {closable : Bool}

@[simp] theorem closing_scripted :
    (scripted rows failing closable).closing = if closable then [.rowsClosed] else [] := by
  unfold closing scripted failingAt ofRows
  cases failing with
  | none => rfl
  | some last => by_cases hk : last.1 ≤ rows.length <;> simp [hk]

theorem reply_nil (hgoes : ∀ f, failing ≠ some (0, f)) : reply [] failing = .over := by
  rcases failing with _ | ⟨_ | k, f⟩
  · rfl
  · exact absurd rfl (hgoes f)
  · rfl

theorem reply_cons {r : Row} {rest : List Row} (hgoes : ∀ f, failing ≠ some (0, f)) :
    reply (r :: rest) failing = .row r := by
  rcases failing with _ | ⟨_ | k, f⟩
  · rfl
  · exact absurd rfl (hgoes f)
  · rfl

/-- **One row less to take from a source is one row less in the source**, and the failure is one
row nearer. -/
theorem take_scripted_cons {r : Row} {rest : List Row} {count : Nat}
    (hgoes : ∀ f, failing ≠ some (0, f)) :
    (scripted (r :: rest) failing closable).take (count + 1) =
      let later := (scripted rest (failing.map fun (k, f) => (k - 1, f)) closable).take count
      ⟨r :: later.rows, later.failure⟩ := by
  cases failing with
  | none =>
    have hlasts : (if rest.length + 1 < count + 1 then none else none : Option Failure) =
        if rest.length < count then none else none := by rw [ite_self, ite_self]
    exact congrArg (Taken.mk (r :: rest.take count)) hlasts
  | some last =>
    obtain ⟨k, f⟩ := last
    obtain ⟨k, rfl⟩ : ∃ j, k = j + 1 := by
      cases k with
      | zero => exact absurd rfl (hgoes f)
      | succ j => exact ⟨j, rfl⟩
    by_cases hk : k ≤ rest.length <;> simp [scripted, take, ofRows, failingAt, hk]

/-- **Taking rows from a source is asking it for one row after the other.** -/
theorem take_scripted (rows : List Row) (failing : Option (Nat × Failure)) (closable : Bool)
    (count : Nat) : (scripted rows failing closable).take count = askFor count rows failing := by
  induction count generalizing rows failing with
  | zero => simp [take, askFor]
  | succ count ih =>
    unfold askFor
    by_cases hfails : ∃ f, failing = some (0, f)
    · obtain ⟨f, rfl⟩ := hfails
      simp [scripted, take, failingAt, ofRows, reply]
    · have hgoes : ∀ f, failing ≠ some (0, f) := fun f hf => hfails ⟨f, hf⟩
      cases rows with
      | nil =>
        rw [reply_nil hgoes]
        rcases failing with _ | ⟨_ | k, f⟩
        · simp [scripted, take, ofRows]
        · exact absurd rfl (hgoes f)
        · simp [scripted, take, failingAt, ofRows]
      | cons r rest => rw [take_scripted_cons hgoes, ih, reply_cons hgoes, List.tail_cons]

theorem min_length_scripted (count : Nat) :
    min count (scripted rows failing closable).rows.length =
      min (min count rows.length) (failing.elim (min count rows.length) Prod.fst) := by
  cases failing with
  | none => exact (Nat.min_self _).symm
  | some last =>
    obtain ⟨k, f⟩ := last
    by_cases hk : k ≤ rows.length
    · simp only [scripted, failingAt, ofRows, hk, ↓reduceIte, List.length_take, Option.elim_some]
      omega
    · simp only [scripted, failingAt, ofRows, hk, ↓reduceIte, Option.elim_some]
      omega

/-- A failure that is reached by later questions is reached, one question later. -/
theorem Fails.of_later {r : Row} {rest : List Row} {count : Nat} {f : Failure}
    (hgoes : ∀ f, failing ≠ some (0, f))
    (h : Fails (failing.map fun (k, f) => (k - 1, f)) rest.length count f) :
    Fails failing (r :: rest).length (count + 1) f := by
  obtain ⟨k, hfailing, hk, hcount⟩ := h
  rcases failing with _ | ⟨_ | j, g⟩
  · exact nomatch hfailing
  · exact absurd rfl (hgoes g)
  · obtain ⟨rfl, rfl⟩ : j = k ∧ g = f := by simpa using hfailing
    exact ⟨j + 1, rfl, Nat.succ_le_succ hk, Nat.succ_lt_succ hcount⟩

/-- A failure that is reached shows: each row that is handed out brings it one row nearer. -/
theorem askFor_of_fails {count : Nat} {f : Failure} (h : Fails failing rows.length count f) :
    (askFor count rows failing).failure = some f := by
  induction count generalizing rows failing with
  | zero =>
    obtain ⟨k, -, -, hcount⟩ := h
    exact absurd hcount (Nat.not_lt_zero k)
  | succ count ih =>
    obtain ⟨k, rfl, hk, hcount⟩ := h
    cases k with
    | zero => simp [askFor, reply]
    | succ k =>
      cases rows with
      | nil => exact absurd hk (Nat.not_succ_le_zero k)
      | cons r rest =>
        exact ih ⟨k, rfl, Nat.le_of_succ_le_succ hk, Nat.lt_of_succ_lt_succ hcount⟩

/-- Without a failure that is reached, the first rows are handed out and nothing breaks off. -/
theorem askFor_of_lasts {count : Nat} (h : ∀ f, ¬ Fails failing rows.length count f) :
    askFor count rows failing = .ofRows (rows.take count) := by
  induction count generalizing rows failing with
  | zero => rfl
  | succ count ih =>
    have hgoes : ∀ f, failing ≠ some (0, f) := fun f hf =>
      h f ⟨0, hf, Nat.zero_le _, Nat.zero_lt_succ count⟩
    unfold askFor
    cases rows with
    | nil => rw [reply_nil hgoes]; rfl
    | cons r rest =>
      have hlater := ih fun f hf => h f (Fails.of_later hgoes hf)
      rw [reply_cons hgoes, List.tail_cons, hlater]
      rfl

theorem take_scripted_of_fails {count : Nat} {f : Failure} (h : Fails failing rows.length count f) :
    ((scripted rows failing closable).take count).failure = some f := by
  rw [take_scripted]
  exact askFor_of_fails h

theorem take_scripted_of_lasts {count : Nat} (h : ∀ f, ¬ Fails failing rows.length count f) :
    (scripted rows failing closable).take count = .ofRows (rows.take count) := by
  rw [take_scripted]
  exact askFor_of_lasts h

end Sample.Cursor

/-! ## Averages as quotients of sums -/

theorem Sample.sum_map_size (rows : List Row) :
    (rows.map Row.size).sum = (rows.flatMap Row.cells).sum := by
  induction rows with
  | nil => rfl
  | cons r rest ih =>
    have hsize : r.size = r.cells.sum := List.sum_eq_foldl.symm
    rw [List.map_cons, List.sum_cons, List.flatMap_cons, List.sum_append, ih, hsize]

/-- **Averages are quotients of sums**, rounded down, but at least one. -/
theorem Averages.ofRows_eq (rows : List Row) :
    ofRows rows = ⟨max 1 ((rows.flatMap Row.cells).sum / (rows.length : Int)),
      max 1 ((rows.map Row.columns).sum / (rows.length : Int))⟩ := by
  have hsum (size : Row → Int) :
      rows.foldl (fun sum r => sum + size r) 0 = (rows.map size).sum := by
    rw [List.sum_eq_foldl, List.foldl_map]
  unfold ofRows atLeastOne
  rw [hsum, hsum, Sample.sum_map_size]

namespace Averages

/-- The averages over the first rows of some, one byte and one column if there are none. -/
def overFirst (rows : List Row) (count : Nat) : Averages :=
  let c := min count rows.length
  if c = 0 then ⟨1, 1⟩
  else ⟨max 1 (((rows.take c).flatMap Row.cells).sum / (c : Int)),
    max 1 (((rows.take c).map Row.columns).sum / (c : Int))⟩

theorem overFirst_eq (rows : List Row) (count : Nat) :
    overFirst rows count =
      if rows.take count = [] then unknown else ofRows (rows.take count) := by
  have htake : rows.take (min count rows.length) = rows.take count := by
    rw [← List.take_take, List.take_length]
  have hlength : min count rows.length = (rows.take count).length := List.length_take.symm
  unfold overFirst
  dsimp only
  rw [htake, hlength, ofRows_eq]
  simp only [List.length_eq_zero_iff]
  rfl

end Averages

/-! ## What is done with the sampler -/

/-- Whether something is done with a sampler or its answer. -/
def Event.isSampling : Event → Bool
  | rowsAsked .. | rowsTaken _ | rowsClosed => true
  | _ => false

namespace Scan

theorem sampling_reportLoads (reports : List (Server × PartitionLoad)) :
    (reportLoads reports).events.filter Event.isSampling = [] := by
  induction reports with
  | nil => rfl
  | cons report rest ih =>
    unfold reportLoads
    exact Traced.filter_bind_eq_nil _ rfl fun _ => ih

theorem sampling_collectSizes (s : Scan) (ids : List String) (status : ClusterStatus) :
    (s.collectSizes ids status).events.filter Event.isSampling = [] := by
  unfold collectSizes
  dsimp only
  exact Traced.filter_bind_eq_nil _ (sampling_reportLoads _) fun _ =>
    Traced.filter_bind_eq_nil _ rfl fun _ => rfl

theorem sampling_ask (provider : StatusProvider) (wait : Duration) :
    (StatusProvider.ask provider wait).events.filter Event.isSampling = [] := by
  unfold StatusProvider.ask
  refine Traced.filter_bind_eq_nil _ rfl fun _ => ?_
  split
  · simp [Event.isSampling]
  · rfl

/-- **Finding out the sizes leaves the sampler alone.** -/
theorem sampling_sizes (s : Scan) (ids : List String) (settings : Settings)
    (provider : Option StatusProvider) :
    (s.sizes ids settings provider).events.filter Event.isSampling = [] := by
  unfold sizes
  refine Traced.filter_bind_eq_nil _ rfl fun enabled => ?_
  split
  · refine Traced.filter_bind_eq_nil _ rfl fun _ => Traced.filter_bind_eq_nil _ rfl fun wait =>
      Traced.filter_bind_eq_nil _ (sampling_ask _ _) fun status => ?_
    cases status with
    | none => rfl
    | some status =>
      exact Traced.filter_bind_eq_nil _ (s.sampling_collectSizes ids status) fun _ => rfl
  · exact Traced.filter_bind_eq_nil _ rfl fun _ => rfl

theorem outcome_averageRows_of_many {s : Scan} {c : Cursor} {n : Nat}
    (hn : Cursor.maxCount < (n : Int)) :
    (s.averageRows c n).outcome = .error .sampleCountTooLarge := by
  have htaken : (c.takeRows n).outcome = .error .sampleCountTooLarge := by
    unfold Cursor.takeRows
    rw [if_pos hn]
  unfold averageRows
  exact Traced.outcome_bind_of_error htaken _

theorem outcome_averageRows_of_error {s : Scan} {c : Cursor} {n : Nat} {f : Failure}
    (hn : (n : Int) ≤ Cursor.maxCount) (hf : (c.take n).failure = some f) :
    (s.averageRows c n).outcome = .error f := by
  have htaken : (c.takeRows n).outcome = .error f := by
    unfold Cursor.takeRows
    rw [if_neg (Int.not_lt.mpr hn)]
    simp only [Int.toNat_natCast, hf]
  unfold averageRows
  exact Traced.outcome_bind_of_error htaken _

/-- **Averages over the rows of a source that does not fail**: one byte and one column if there
are none. -/
theorem outcome_averageRows_of_rows {s : Scan} {c : Cursor} {n : Nat}
    (hn : (n : Int) ≤ Cursor.maxCount) (hf : (c.take n).failure = none) :
    (s.averageRows c n).outcome =
      .ok (if (c.take n).rows = [] then .unknown else .ofRows (c.take n).rows) := by
  have htaken : (c.takeRows n).outcome = .ok (c.take n).rows := by
    unfold Cursor.takeRows
    rw [if_neg (Int.not_lt.mpr hn)]
    simp only [Int.toNat_natCast, hf]
  unfold averageRows
  rw [Traced.outcome_bind_of_ok htaken]
  cases (c.take n).rows with
  | nil => rfl
  | cons r rest => rfl

/-- **What averaging does with the rows**: they are counted, unless they are too many to count,
and the source is closed. -/
theorem sampling_averageRows (s : Scan) (c : Cursor) (n : Nat) :
    (s.averageRows c n).events.filter Event.isSampling =
      (if Cursor.maxCount < n then [] else [.rowsTaken (min n c.rows.length)]) ++ c.closing := by
  unfold averageRows
  rw [Traced.filter_bind_of_forall, Cursor.events_takeRows]
  · unfold Cursor.closing
    split <;> split <;> rfl
  · intro rows
    split <;> exact Traced.filter_bind_eq_nil _ rfl fun _ => rfl

variable {settings : Settings} {limit : Setting.Value} {n : Nat} {s : Scan} {sampler : Sampler}

theorem sample_of_zero (hlimit : settings.sampleRowsCount .missing = .ok limit)
    (hn : limit.integer? = some 0) (s : Scan) (sampler : Sampler) :
    s.sample settings sampler = ⟨[.notice (.samplingOff s.table)], .ok Averages.unknown⟩ := by
  unfold sample
  rw [hlimit, Traced.ofExcept_ok_bind, hn]
  rfl

/-- **With rows to sample the sampler is asked once**, and the averages are those over its
answer. -/
theorem sample_of_cursor (hlimit : settings.sampleRowsCount .missing = .ok limit)
    (hn : limit.integer? = some (n : Int)) (hpos : n ≠ 0) {c : Cursor}
    (hsampler : sampler s limit = .ok c) :
    s.sample settings sampler =
      ⟨.rowsAsked s limit :: (s.averageRows c n).events, (s.averageRows c n).outcome⟩ := by
  have hask : sampler.ask s limit = ⟨[.rowsAsked s limit], .ok c⟩ := by
    unfold Sampler.ask Traced.call
    exact congrArg _ hsampler
  unfold sample
  rw [hlimit, Traced.ofExcept_ok_bind, hn, Option.getD_some]
  dsimp only
  rw [if_neg (by omega), hask]
  rfl

theorem sampling_statistics (s : Scan) (ids : List String) (settings : Settings)
    (sampler : Sampler) (provider : Option StatusProvider) :
    (s.statistics ids settings sampler provider).events.filter Event.isSampling =
      (s.sample settings sampler).events.filter Event.isSampling := by
  unfold statistics
  exact Traced.filter_bind_of_forall _ _ fun averages =>
    Traced.filter_bind_eq_nil _ (s.sampling_sizes ids settings provider) fun _ => rfl

/-- **Averages over a source that is not reached by its failure** are those over its first rows. -/
theorem outcome_averageRows_of_lasts {rows : List Row} {failing : Option (Nat × Failure)}
    (s : Scan) (closable : Bool) (hn : (n : Int) ≤ Cursor.maxCount)
    (hlasts : ∀ f, ¬ Cursor.Fails failing rows.length n f) :
    (s.averageRows (.scripted rows failing closable) n).outcome =
      .ok (Averages.overFirst rows n) := by
  have htaken : (Cursor.scripted rows failing closable).take n = .ofRows (rows.take n) :=
    Cursor.take_scripted_of_lasts hlasts
  rw [outcome_averageRows_of_rows hn (congrArg _ htaken), htaken, Averages.overFirst_eq]
  rfl

/-- **Sampling is bounded, and the source is closed.** For settings in which the number of rows to
sample can be read, that is some number `n`. At zero the sampler is never asked. Otherwise it is
asked once; if it answers with a source, no row behind the `n`th and none behind the failure of
the source is taken, and the source is closed once, whatever happens. Then the statistics fail as
the source does if its failure is reached; else their averages are those over the first `n` rows. -/
theorem statistics_of_source (hlimit : settings.sampleRowsCount .missing = .ok limit) :
    ∃ n : Nat, limit.integer? = some (n : Int) ∧
      ∀ (s : Scan) (ids : List String) (provider : Option StatusProvider) (sampler : Sampler),
        let planned := s.statistics ids settings sampler provider
        let sampling := planned.events.filter Event.isSampling
        let known (a : Averages) := (s.sizes ids settings provider).outcome.map (Statistics.mk a)
        (n = 0 → sampling = [] ∧ planned.outcome = known ⟨1, 1⟩) ∧
          ∀ (rows : List Row) (failing : Option (Nat × Failure)) (closable : Bool), n ≠ 0 →
            sampler s limit = .ok (.scripted rows failing closable) →
            let closing := if closable then [Event.rowsClosed] else []
            if Cursor.maxCount < n then
              sampling = .rowsAsked s limit :: closing ∧
                ∃ f, planned.outcome = .error f ∧ f.isInvalidInput = true
            else
              let held := min n rows.length
              let consumed := min held (failing.elim held Prod.fst)
              sampling = .rowsAsked s limit :: .rowsTaken consumed :: closing ∧
                (∀ f, Cursor.Fails failing rows.length n f → planned.outcome = .error f) ∧
                ((∀ f, ¬ Cursor.Fails failing rows.length n f) →
                  planned.outcome = known (Averages.overFirst rows n)) := by
  obtain ⟨n, hn⟩ := Settings.exists_natCast_of_sampleRowsCount hlimit
  refine ⟨n, hn, fun s ids provider sampler => ?_⟩
  intro planned sampling known
  have hsampling : sampling = (s.sample settings sampler).events.filter Event.isSampling :=
    s.sampling_statistics ids settings sampler provider
  have hknown {a : Averages} (ha : (s.sample settings sampler).outcome = .ok a) :
      planned.outcome = known a := outcome_statistics ha ids provider
  have hfailed {f : Failure} (hf : (s.sample settings sampler).outcome = .error f) :
      planned.outcome = .error f := (statistics_of_error hf ids provider).1
  constructor
  · rintro rfl
    have hsample := sample_of_zero hlimit hn s sampler
    exact ⟨by rw [hsampling, hsample]; rfl, hknown (by rw [hsample]; rfl)⟩
  · intro rows failing closable hpos hsampler closing
    have hsample := sample_of_cursor hlimit hn hpos hsampler
    have hevents : sampling = .rowsAsked s limit ::
        ((if Cursor.maxCount < n then []
          else [.rowsTaken (min n (Cursor.scripted rows failing closable).rows.length)]) ++
            closing) := by
      rw [hsampling, hsample, List.filter_cons_of_pos rfl, sampling_averageRows,
        Cursor.closing_scripted]
    by_cases hmany : Cursor.maxCount < n
    · rw [if_pos hmany] at hevents ⊢
      refine ⟨hevents, .sampleCountTooLarge, hfailed ?_, rfl⟩
      rw [hsample]
      exact outcome_averageRows_of_many hmany
    · rw [if_neg hmany] at hevents ⊢
      have hle : (n : Int) ≤ Cursor.maxCount := Int.not_lt.mp hmany
      refine ⟨?_, fun f hf => hfailed ?_, fun hlasts => ?_⟩
      · rw [hevents, Cursor.min_length_scripted]
        rfl
      · rw [hsample]
        exact outcome_averageRows_of_error hle (Cursor.take_scripted_of_fails hf)
      · refine hknown ?_
        rw [hsample]
        exact outcome_averageRows_of_lasts s closable hle hlasts

/-- A source that is to fail at the row behind the third lasts for three rows. -/
theorem statistics_of_source_of_three :
    let scan : Scan := ⟨"t", ⟨[], []⟩, none⟩
    let settings : Settings := OrderedMap.empty.put Setting.sampleRows.key (.integer 3)
    let rows : List Row := [⟨[10, 20], 2⟩, ⟨[5], 1⟩, ⟨[], 0⟩]
    let source := Cursor.scripted rows (some (3, .scanFailed "scanner lease expired")) true
    let planned := scan.statistics [] settings (.constant (.ok source)) none
    planned.events.filter Event.isSampling =
        [.rowsAsked scan (.integer 3), .rowsTaken 3, .rowsClosed] ∧
      planned.outcome = .ok ⟨⟨11, 1⟩, none⟩ := by
  intro scan settings rows source planned
  have hlimit : settings.sampleRowsCount .missing = .ok (.integer 3) := rfl
  obtain ⟨n, hn, hall⟩ := statistics_of_source hlimit
  obtain rfl : n = 3 := by
    have h : (3 : Int) = n := Option.some.inj hn
    omega
  have hfew : ¬ Cursor.maxCount < ((3 : Nat) : Int) := by decide
  have hsource := (hall scan [] none (.constant (.ok source))).2 rows
    (some (3, .scanFailed "scanner lease expired")) true (by decide) rfl
  rw [if_neg hfew] at hsource
  obtain ⟨hevents, -, houtcome⟩ := hsource
  have hlasts : ∀ f, ¬ Cursor.Fails (some (3, .scanFailed "scanner lease expired")) rows.length
      3 f := by
    rintro f ⟨k, hk, -, hlt⟩
    obtain ⟨rfl, -⟩ := Prod.mk.inj (Option.some.inj hk)
    exact absurd hlt (by decide)
  have haverages : Averages.overFirst rows 3 = ⟨11, 1⟩ := by decide
  have hmade := houtcome hlasts
  rw [haverages] at hmade
  exact ⟨hevents, hmade⟩

end Scan

end Keyspan
