import Keyspan.Setting.Scan

/-!
# What is read is of the declared kind

A converted value is of the kind it was converted to, and the defaults of the settings of a scan
are of the kinds that they are declared with; so whoever reads such a setting, with no default of
their own, has a value of its kind.

Results:
* `isOf_of_convert`, `isOf_of_read`: conversion and reading keep to the kind.
* `read_of_write`: what is written is read as its text.
* `sampleRowsCount_eq_ok_iff`: what is read as a number of rows to sample.
* `exists_flag_of_sizeCalculation`, `exists_duration_of_clusterTimeout`,
  `exists_natCast_of_sampleRowsCount`: what the settings of a scan read as.
-/

namespace Keyspan.Setting

namespace Value

theorem kind_of_convertBy {v w : Value} {goal : Kind} (h : convertBy goal v = .ok w) :
    w.kind = goal := by
  have of_map {α : Type} {make : α → Value} {outcome : Except Failure α} {k : Kind}
      (hmake : ∀ a, (make a).kind = k) (ho : outcome.map make = .ok w) : w.kind = k := by
    cases outcome with
    | error f => exact nomatch ho
    | ok a => exact Except.ok.inj ho ▸ hmake a
  cases goal with
  | flag => exact of_map (fun _ => rfl) h
  | integer => exact of_map (fun _ => rfl) h
  | real => exact of_map (fun _ => rfl) h
  | text => exact of_map (fun _ => rfl) h
  | duration => exact of_map (fun _ => rfl) h
  | missing => exact nomatch h
  | bytes => exact nomatch h
  | list => exact nomatch h
  | record => exact nomatch h

/-- **A converted value is of the kind asked for.** -/
theorem isOf_of_convert {v w : Value} {goal : Kind} (hv : v.kind ≠ .missing)
    (h : v.convert goal = .ok w) : w.isOf goal = true := by
  unfold convert at h
  rw [if_neg hv] at h
  split at h
  · exact Except.ok.inj h ▸ ‹v.isOf goal = true›
  · unfold isOf
    rw [kind_of_convertBy h, beq_self_eq_true, Bool.true_or]

theorem exists_flag_of_isOf {v : Value} (h : v.isOf .flag = true) : ∃ b, v = .flag b := by
  cases v with
  | flag b => exact ⟨b, rfl⟩
  | _ => exact nomatch h

theorem exists_duration_of_isOf {v : Value} (h : v.isOf .duration = true) :
    ∃ d, v = .duration d := by
  cases v with
  | duration d => exact ⟨d, rfl⟩
  | _ => exact nomatch h

/-- What counts as an integer, a flag included, and is not below zero, is a natural number. -/
theorem exists_natCast_of_isOf {v : Value} (h : v.isOf .integer = true)
    (hnn : v.isNegative? = some false) : ∃ n : Nat, v.integer? = some (n : Int) := by
  have hinteger : ∃ i, v.integer? = some i ∧ v.isNegative? = some (decide (i < 0)) := by
    cases v with
    | flag b => exact ⟨_, rfl, rfl⟩
    | integer i => exact ⟨i, rfl, rfl⟩
    | _ => exact nomatch h
  obtain ⟨i, hi, hsign⟩ := hinteger
  have hle : 0 ≤ i := by
    rw [hsign, Option.some_inj, decide_eq_false_iff_not] at hnn
    exact Int.not_lt.mp hnn
  exact ⟨i.toNat, by rw [hi, Int.toNat_of_nonneg hle]⟩

end Value

namespace Settings

/-- **A setting reads as its kind**, if its default is of that kind. -/
theorem isOf_of_read {s : Settings} {d : Declaration} {v : Value}
    (hfallback : d.fallback.isOf d.kind = true) (h : s.read d .missing = .ok v) :
    v.isOf d.kind = true := by
  unfold read at h
  split at h
  · exact Except.ok.inj h ▸ hfallback
  · split at h
    · exact Except.ok.inj h ▸ hfallback
    · exact Value.isOf_of_convert ‹_› h

/-- **What is written is read as its text.** -/
theorem read_of_write (s : Settings) (d : Declaration) (v given : Value) :
    ((s.write d v).bind fun t => t.read d given) =
      v.toText.bind fun text => (Value.text text).convert d.kind := by
  unfold write
  cases v.toText with
  | error f => rfl
  | ok text =>
    show read (s.put d.key (.text text)) d given = (Value.text text).convert d.kind
    unfold read
    rw [OrderedMap.lookup_put_self]
    rfl

theorem exists_flag_of_sizeCalculation {s : Settings} {v : Value}
    (h : s.sizeCalculation .missing = .ok v) : ∃ enabled, v = .flag enabled :=
  Value.exists_flag_of_isOf (isOf_of_read rfl h)

theorem exists_duration_of_clusterTimeout {s : Settings} {v : Value}
    (h : s.clusterTimeout .missing = .ok v) : ∃ wait, v = .duration wait :=
  Value.exists_duration_of_isOf (isOf_of_read rfl h)

/-- **What is read as a number of rows to sample** is what is set, if that is not below zero. -/
theorem sampleRowsCount_eq_ok_iff {s : Settings} {given v : Value} :
    s.sampleRowsCount given = .ok v ↔
      s.read sampleRows given = .ok v ∧ v.isNegative? = some false := by
  unfold sampleRowsCount
  cases s.read sampleRows given with
  | error f => simp [bind, Except.bind]
  | ok count =>
    simp only [bind, Except.bind, Except.ok.injEq]
    rcases hsign : count.isNegative? with _ | negative
    · simp only [throw, throwThe, MonadExceptOf.throw, reduceCtorEq, false_iff]
      rintro ⟨rfl, hnn⟩
      exact nomatch hsign.symm.trans hnn
    · cases negative with
      | false =>
        constructor
        · intro h
          exact Except.ok.inj h ▸ ⟨rfl, hsign⟩
        · rintro ⟨rfl, -⟩
          rfl
      | true =>
        constructor
        · intro h
          cases hshown : count.shown <;> rw [hshown] at h <;> exact nomatch h
        · rintro ⟨rfl, hnn⟩
          exact nomatch hsign.symm.trans hnn

/-- **The number of rows to sample is a natural number**, or a flag that stands for one. -/
theorem exists_natCast_of_sampleRowsCount {s : Settings} {v : Value}
    (h : s.sampleRowsCount .missing = .ok v) : ∃ n : Nat, v.integer? = some (n : Int) := by
  obtain ⟨hread, hnn⟩ := sampleRowsCount_eq_ok_iff.mp h
  exact Value.exists_natCast_of_isOf (isOf_of_read rfl hread) hnn

end Settings

end Keyspan.Setting
