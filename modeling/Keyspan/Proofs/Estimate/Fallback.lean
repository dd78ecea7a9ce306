import Keyspan.Plan.Node
import Keyspan.Proofs.Setting.Reading

/-!
# Without a status the sizes are those that are assumed

A provider that fails, that is late or that says nothing leaves the statistics as they are without
a provider, with two exceptions, both of which are a failure of planning. A wait that is longer than
the clock counts is noticed only after the provider was called, whatever it did. And a provider that
breaks off in a way that is not caught leaves neither a status nor a report, where one is expected.

* `StatusAnswer.BringsNone`: an answer that is no report.

Results:
* `StatusProvider.outcome_ask`: what becomes of asking.
* `Scan.outcome_sizes_none`, `Scan.outcome_sizes_some`: the sizes without a provider, and with one
  that is asked.
* `Scan.outcome_statistics`: the statistics are the averages of a sample and the sizes.
* `Scan.statistics_of_no_status`: exactly when a provider without a status changes nothing.
-/

namespace Keyspan

open Setting (Settings)
open Sample (Sampler)

/-- Whether an answer brings no status. -/
def StatusAnswer.BringsNone (answer : StatusAnswer) : Prop := ∀ status, answer ≠ .report status

/-- Where nothing is lost, an answer without a status tells that there is none. -/
theorem StatusAnswer.BringsNone.status_eq {answer : StatusAnswer} (h : answer.BringsNone) :
    answer.status = if answer = .aborted then .error .statusLost else .ok none := by
  cases answer with
  | report status => exact absurd rfl (h status)
  | aborted => rfl
  | _ => rfl

/-- **What becomes of asking**: the answer counts if the clock can count the wait. -/
theorem StatusProvider.outcome_ask (provider : StatusProvider) (wait : Duration) :
    (ask provider wait).outcome =
      if wait.isCountable then (provider wait.seconds).status else .error .waitTooLong := by
  unfold ask
  rw [Traced.outcome_bind_of_ok (rfl : (provider.call wait.seconds).outcome = .ok _)]
  split <;> rfl

namespace Scan

variable {settings : Settings}

theorem outcome_sizes_none (s : Scan) (ids : List String) {enabled : Bool}
    (henabled : settings.sizeCalculation .missing = .ok (.flag enabled)) :
    (s.sizes ids settings none).outcome = .ok none := by
  unfold sizes
  rw [henabled]
  cases enabled <;> rfl

theorem outcome_reportLoads (reports : List (Server × PartitionLoad)) :
    (reportLoads reports).outcome = .ok () := by
  induction reports with
  | nil => rfl
  | cons report rest ih =>
    unfold reportLoads
    rw [Traced.outcome_bind_of_ok rfl, ih]

/-- **The sizes in a status** are those in the loads that it has of the table. -/
theorem outcome_collectSizes (s : Scan) (ids : List String) (status : ClusterStatus) :
    (s.collectSizes ids status).outcome = .ok (.ofReports (status.reportsOn ids)) := by
  unfold collectSizes
  dsimp only
  rw [Traced.outcome_bind_of_ok (outcome_reportLoads _), Traced.outcome_bind_of_ok rfl]
  rfl

/-- **The sizes with a provider that is asked**: none if sizes are not wanted, and else what its
answer comes to, if the clock can count the wait. -/
theorem outcome_sizes_some (s : Scan) (ids : List String) {enabled : Bool} {wait : Duration}
    (henabled : settings.sizeCalculation .missing = .ok (.flag enabled))
    (hwait : settings.clusterTimeout .missing = .ok (.duration wait)) (provider : StatusProvider) :
    (s.sizes ids settings (some provider)).outcome =
      if enabled then
        if wait.isCountable then
          (provider wait.seconds).status.map fun status? =>
            status?.map fun status => .ofReports (status.reportsOn ids)
        else .error .waitTooLong
      else .ok none := by
  unfold sizes
  rw [henabled]
  cases enabled with
  | false => rfl
  | true =>
    have hask := StatusProvider.outcome_ask provider wait
    rw [Traced.outcome_bind_of_ok rfl, if_pos rfl]
    dsimp only
    rw [Traced.outcome_bind_of_ok rfl, hwait, Traced.outcome_bind_of_ok rfl]
    dsimp only [Setting.Value.duration?, Option.getD_some]
    cases hcount : wait.isCountable with
    | false =>
      rw [hcount, if_neg Bool.false_ne_true] at hask
      rw [Traced.outcome_bind_of_error hask]
      rfl
    | true =>
      rw [hcount, if_pos rfl] at hask
      rw [if_pos rfl]
      cases hstatus : (provider wait.seconds).status with
      | error f =>
        rw [hstatus] at hask
        rw [Traced.outcome_bind_of_error hask]
        rfl
      | ok status? =>
        rw [hstatus] at hask
        rw [Traced.outcome_bind_of_ok hask]
        cases status? with
        | none => rfl
        | some status =>
          dsimp only
          rw [Traced.outcome_bind_of_ok (s.outcome_collectSizes ids status)]
          rfl

theorem outcome_statistics {scan : Scan} {sampler : Sampler} {averages : Averages}
    (hsample : (scan.sample settings sampler).outcome = .ok averages) (ids : List String)
    (provider : Option StatusProvider) :
    (scan.statistics ids settings sampler provider).outcome =
      (scan.sizes ids settings provider).outcome.map fun sizes => ⟨averages, sizes⟩ := by
  unfold statistics
  rw [Traced.outcome_bind_of_ok hsample]
  cases hsizes : (scan.sizes ids settings provider).outcome with
  | error f => exact Traced.outcome_bind_of_error hsizes _
  | ok sizes => exact Traced.outcome_bind_of_ok hsizes _

/-- **A provider without a status changes nothing**, unless sizes are asked for and either the wait
is longer than the clock counts or the provider breaks off without a trace. For settings that can be
read and a sampler that delivers, planning without a provider has the averages of the sample and no
sizes. A provider that fails, is late or says nothing leaves it at that, and so the estimated size
of every partition. With a wait beyond the clock planning fails, whatever the provider did; with
another wait it fails where the provider breaks off uncaught. -/
theorem statistics_of_no_status {scan : Scan} {sampler : Sampler} {averages : Averages}
    {sizes timeout : Setting.Value}
    (hsample : (scan.sample settings sampler).outcome = .ok averages)
    (hsizes : settings.sizeCalculation .missing = .ok sizes)
    (htimeout : settings.clusterTimeout .missing = .ok timeout) :
    ∃ enabled wait, sizes = .flag enabled ∧ timeout = .duration wait ∧
      ∀ (ids : List String) (provider : StatusProvider), (provider wait.seconds).BringsNone →
        let alone := (scan.statistics ids settings sampler none).outcome
        let asked := (scan.statistics ids settings sampler (some provider)).outcome
        alone = .ok ⟨averages, none⟩ ∧
          if enabled = true ∧ wait.isCountable = false then asked = .error .waitTooLong
          else if enabled = true ∧ provider wait.seconds = .aborted then
            asked = .error .statusLost
          else asked = alone := by
  obtain ⟨enabled, rfl⟩ := Settings.exists_flag_of_sizeCalculation hsizes
  obtain ⟨wait, rfl⟩ := Settings.exists_duration_of_clusterTimeout htimeout
  refine ⟨enabled, wait, rfl, rfl, fun ids provider hnone => ?_⟩
  intro alone asked
  have halone : alone = .ok ⟨averages, none⟩ := by
    show (scan.statistics ids settings sampler none).outcome = _
    rw [outcome_statistics hsample, scan.outcome_sizes_none ids hsizes]
    rfl
  have hasked : asked = (scan.sizes ids settings (some provider)).outcome.map
      fun sizes => ⟨averages, sizes⟩ := outcome_statistics hsample ids (some provider)
  rw [scan.outcome_sizes_some ids hsizes htimeout, hnone.status_eq] at hasked
  refine ⟨halone, ?_⟩
  rw [halone]
  cases enabled with
  | false => exact hasked
  | true =>
    cases hcount : wait.isCountable with
    | false =>
      rw [hcount] at hasked
      exact hasked
    | true =>
      rw [hcount] at hasked
      rw [if_neg fun h => Bool.noConfusion h.2]
      by_cases haborted : provider wait.seconds = .aborted
      · rw [if_pos haborted] at hasked
        rw [if_pos ⟨rfl, haborted⟩]
        exact hasked
      · rw [if_neg haborted] at hasked
        rw [if_neg fun h => haborted h.2]
        exact hasked

/-- A provider that fails is not noticed in the half minute that the cluster has by default. -/
theorem statistics_of_no_status_half_minute :
    let scan : Scan := ⟨"t", ⟨[], []⟩, none⟩
    let settings : Settings := OrderedMap.empty.put Setting.sizesEnabled.key (.flag true)
    let sampler : Sampler := .constant (.ok (.ofRows [⟨[10], 1⟩] false))
    let provider : StatusProvider := fun _ => .failed "boom"
    (scan.statistics ["p"] settings sampler (some provider)).outcome = .ok ⟨⟨10, 1⟩, none⟩ := by
  intro scan settings sampler provider
  have hsample : (scan.sample settings sampler).outcome = .ok ⟨10, 1⟩ := rfl
  have hsizes : settings.sizeCalculation .missing = .ok (.flag true) := rfl
  have htimeout : settings.clusterTimeout .missing = .ok (.duration Setting.defaultTimeout) := rfl
  obtain ⟨enabled, wait, -, hwait, hall⟩ := statistics_of_no_status hsample hsizes htimeout
  obtain rfl := Setting.Value.duration.inj hwait
  obtain ⟨halone, hasked⟩ := hall ["p"] provider fun status h => by cases h
  have hcountable : Setting.defaultTimeout.isCountable = true := by decide +kernel
  rw [if_neg fun h => Bool.false_ne_true (h.2.symm.trans hcountable), if_neg] at hasked
  · exact hasked.trans halone
  · rintro ⟨-, haborted⟩
    cases haborted

/-- **A wait beyond the clock is a failure**: with two hundred thousand days to wait, a provider
that fails makes planning fail, where without a provider it delivers. -/
theorem statistics_fail_of_far_wait :
    let scan : Scan := ⟨"t", ⟨[], []⟩, none⟩
    let settings : Settings := (OrderedMap.empty.put Setting.sizesEnabled.key (.flag true)).put
      Setting.statusTimeout.key (.text "200000 d")
    let sampler : Sampler := .constant (.ok (.ofRows [⟨[10], 1⟩] false))
    let provider : StatusProvider := fun _ => .failed "boom"
    (scan.statistics ["p"] settings sampler none).outcome = .ok ⟨⟨10, 1⟩, none⟩ ∧
      (scan.statistics ["p"] settings sampler (some provider)).outcome =
        .error .waitTooLong := by
  intro scan settings sampler provider
  have hsample : (scan.sample settings sampler).outcome = .ok ⟨10, 1⟩ := rfl
  have hsizes : settings.sizeCalculation .missing = .ok (.flag true) := rfl
  have htimeout : settings.clusterTimeout .missing =
      .ok (.duration ⟨17280000000000000, by decide⟩) := rfl
  have huncountable : ¬ (Duration.mk 17280000000000000 (by decide)).isCountable = true := by
    decide +kernel
  rw [outcome_statistics hsample, outcome_statistics hsample, scan.outcome_sizes_none ["p"] hsizes,
    scan.outcome_sizes_some ["p"] hsizes htimeout, if_pos rfl, if_neg huncountable]
  exact ⟨rfl, rfl⟩

end Scan

end Keyspan
