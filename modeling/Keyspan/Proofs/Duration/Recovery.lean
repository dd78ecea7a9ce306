import Keyspan.Proofs.Duration.Grammar
import Keyspan.Proofs.Number.Thousandth
import Keyspan.Proofs.Setting.Reading

/-!
# Which durations are read back

A duration is written by way of its length in seconds, a floating-point number, and the whole
milliseconds of that may be other ones than those of the duration. The text itself is faithful: it
is read as the milliseconds that were written. So a duration of whole milliseconds survives writing
and reading iff a thousandth of their number leads back to the number, which is `Regained`; and that
is also what becomes of a setting that is set to a duration.

Results:
* `wholeMillis_eq`: the milliseconds that are written.
* `parse_format`: the text of a duration is read as these milliseconds.
* `read_back_iff_regained`: which durations survive, alone and as a setting.
-/

namespace Keyspan

namespace Duration

open BinaryFormat

/-! ## The milliseconds that are written -/

section Written

variable {d : Duration} {m : Nat} (hd : d.micros = m * 1000)

include hd

theorem millis_lt : m < 2 ^ 57 := by
  have hrange := d.inRange.2
  simp only [maxDays, microsPerDay] at hrange
  omega

theorem thousandth_lt : (m : Rat) / 1000 < twoPow 57 := by
  have hlt : (m : Rat) < 2 ^ 57 := by exact_mod_cast millis_lt hd
  rw [show twoPow 57 = 2 ^ 57 from rfl]
  linarith

/-- The length in seconds is a thousandth of the milliseconds, rounded. -/
theorem seconds_eq : d.seconds = .finite false (double.nearest ((m : Rat) / 1000)) := by
  have habs : d.micros.natAbs = m * 1000 := by omega
  have hquot : ((m * 1000 : Nat) : Rat) / ((1000000 : Int).natAbs : Rat) = (m : Rat) / 1000 := by
    push_cast
    ring
  have hlt : (m : Rat) / 1000 < twoPow 57 := thousandth_lt hd
  unfold seconds Double.quotient
  rw [habs, hquot, decide_eq_false (show ¬ d.micros < 0 by omega)]
  exact Double.ofMagnitude_of_lt_twoPow _ (by positivity) (by decide) hlt

theorem seconds_mul_lt : double.nearest ((m : Rat) / 1000) * 1000 < twoPow 67 := by
  have hle : double.nearest ((m : Rat) / 1000) ≤ twoPow 57 :=
    nearest_le_twoPow (by decide) (by positivity) (thousandth_lt hd)
  have hpos := twoPow_pos 57
  rw [show twoPow 67 = 2 ^ 10 * twoPow 57 from twoPow_add 10 57]
  linarith

/-- **The milliseconds that are written**: a thousandth of their number, and back. -/
theorem wholeMillis_eq :
    d.wholeMillis = (double.nearest (double.nearest ((m : Rat) / 1000) * 1000)).floor := by
  have hthousand : Double.ofRat 1000 = .finite false 1000 := by decide +kernel
  have hseconds : 0 ≤ double.nearest ((m : Rat) / 1000) := nearest_nonneg _ (by positivity)
  have hproduct : (d.seconds.mul (.ofRat 1000)) =
      .finite false (double.nearest (double.nearest ((m : Rat) / 1000) * 1000)) := by
    rw [seconds_eq hd, hthousand]
    exact Double.ofMagnitude_of_lt_twoPow _ (by positivity) (by decide) (seconds_mul_lt hd)
  unfold wholeMillis
  rw [hproduct]
  rfl

theorem exists_natCast_of_wholeMillis : ∃ w : Nat, d.wholeMillis = w ∧ w < 10 ^ maxDigits := by
  have hseconds : 0 ≤ double.nearest ((m : Rat) / 1000) := nearest_nonneg _ (by positivity)
  have hnonneg : 0 ≤ d.wholeMillis := by
    rw [wholeMillis_eq hd, Rat.le_floor_iff]
    exact nearest_nonneg _ (by positivity)
  have hle : d.wholeMillis ≤ ((2 ^ 67 : Nat) : Int) := by
    have hnear := nearest_le_twoPow (f := double) (by decide) (by positivity) (seconds_mul_lt hd)
    have hcast : (d.wholeMillis : Rat) ≤ ((2 ^ 67 : Nat) : Rat) := by
      rw [wholeMillis_eq hd, ← twoPow_natCast]
      exact (Rat.floor_le _).trans hnear
    exact_mod_cast hcast
  refine ⟨d.wholeMillis.toNat, (Int.toNat_of_nonneg hnonneg).symm, ?_⟩
  calc d.wholeMillis.toNat ≤ 2 ^ 67 := Int.toNat_le.mpr hle
    _ < 10 ^ 21 := by decide
    _ ≤ 10 ^ maxDigits := Nat.pow_le_pow_right (by decide) (by decide)

end Written

/-! ## Their text -/

/-- **The text of a duration is read as the milliseconds that are written.** -/
theorem parse_format {d : Duration} {w : Nat} (hw : d.wholeMillis = w) (hlt : w < 10 ^ maxDigits) :
    parse d.format = ofMillis w := by
  have hblank : ∀ c ∈ [' '], Text.isBlank c = true := List.all_eq_true.mp (by decide)
  -- seconds and milliseconds differ in the label alone
  have hread {n factor : Nat} {label : List Char} (hn : n < 10 ^ maxDigits)
      (hlabel : Label label factor) :
      parse (toString (n : Int) ++ String.ofList (' ' :: label)) =
        ofMillis (n * factor : Nat) := by
    have htext : toString (n : Int) ++ String.ofList (' ' :: label) =
        String.ofList (Nat.toDigits 10 n ++ [' '] ++ label) := by
      rw [List.append_assoc, String.ofList_append]
      rfl
    rw [htext]
    exact parse_of_numeral (numeral_toDigits hn) hblank hlabel
  have hseconds : Label "s".toList 1000 := .unit (u := .second) (by decide)
  have hmillis : Label "ms".toList 1 := .unit (u := .millisecond) (by decide)
  unfold format
  rw [hw]
  dsimp only
  split
  · rename_i hwhole
    have hparse := hread ((Nat.div_le_self w 1000).trans_lt hlt) hseconds
    rw [Nat.div_mul_cancel (Int.natCast_dvd_natCast.mp (Int.dvd_of_emod_eq_zero hwhole))] at hparse
    exact hparse
  · have hparse := hread hlt hmillis
    rw [Nat.mul_one] at hparse
    exact hparse

/-- **A duration survives writing and reading** iff the number of its milliseconds is regained. -/
theorem parse_format_eq_ok_iff {d : Duration} {m : Nat} (hd : d.micros = m * 1000) :
    parse d.format = .ok d ↔ Regained m := by
  obtain ⟨w, hw, hlt⟩ := exists_natCast_of_wholeMillis hd
  rw [parse_format hw hlt, ← floor_thousandth_iff, ← wholeMillis_eq hd, hw]
  unfold ofMillis
  rw [ofMicros_eq_ok_iff, hd]
  omega

/-- **Below `2 ^ 52` milliseconds a duration that does not survive is one millisecond short.** -/
theorem parse_format_of_lt {d : Duration} {m : Nat} (hd : d.micros = m * 1000) (hm : m < 2 ^ 52)
    (h : ¬ Regained m) : ∃ e, parse d.format = .ok e ∧ e.micros + 1000 = d.micros := by
  obtain ⟨w, hw, hlt⟩ := exists_natCast_of_wholeMillis hd
  have hshort : (w : Int) = m - 1 := by
    rw [← hw, wholeMillis_eq hd, floor_thousandth_of_lt hm h]
  have hrange : InRange (w * 1000) := by
    have hinRange := d.inRange
    unfold InRange at hinRange ⊢
    simp only [maxDays, microsPerDay] at hinRange ⊢
    omega
  refine ⟨⟨w * 1000, hrange⟩, ?_, ?_⟩
  · rw [parse_format hw hlt, ofMillis_of_inRange hrange]
  · dsimp only
    omega

theorem exists_millis_of_parse {text : String} {d : Duration} (h : parse text = .ok d) :
    ∃ m : Nat, d.micros = m * 1000 := by
  obtain ⟨n, factor, -, -, hmicros⟩ := parse_eq_ok_iff.mp h
  exact ⟨n * factor, hmicros⟩

/-! ## Durations as settings -/

open Setting

/-- **A setting that is set to a duration** reads as what the text of the duration does. -/
theorem read_of_write_duration (s : Settings) {setting : Declaration}
    (hkind : setting.kind = .duration) (given : Value) (d : Duration) :
    ((s.write setting (.duration d)).bind fun t => t.read setting given) =
      (parse d.format).map .duration := by
  rw [Settings.read_of_write, hkind]
  rfl

theorem map_duration_eq_ok_iff {outcome : Except Failure Duration} {d : Duration} :
    outcome.map Value.duration = .ok (.duration d) ↔ outcome = .ok d := by
  cases outcome with
  | error f => exact ⟨nofun, nofun⟩
  | ok e =>
    exact ⟨fun h => congrArg Except.ok (Value.duration.inj (Except.ok.inj h)),
      fun h => congrArg (Except.map Value.duration) h⟩

/-- **Which durations survive** writing and reading, alone and as a setting: those whose
milliseconds are regained from their thousandth. All multiples of an eighth of a second are, as far
as 53 bits reach, and all even numbers of seconds; and a duration of less than `2 ^ 52` milliseconds
that does not survive loses just one of them. -/
theorem read_back_iff_regained (s : Settings) (setting : Declaration) (given : Value)
    (hkind : setting.kind = .duration) :
    (∀ text d, parse text = .ok d →
      ∃ m : Nat, d.micros = m * 1000 ∧ (parse d.format = .ok d ↔ Regained m)) ∧
    (∀ (d : Duration) (m : Nat), d.micros = m * 1000 →
      (((s.write setting (.duration d)).bind fun t => t.read setting given) = .ok (.duration d) ↔
        Regained m) ∧
      (m < 2 ^ 52 → ¬ Regained m →
        ∃ e, ((s.write setting (.duration d)).bind fun t => t.read setting given) =
          .ok (.duration e) ∧ e.micros + 1000 = d.micros)) ∧
    (∀ m, 125 ∣ m → m < 2 ^ 53 → Regained m) ∧ ∀ m, 2000 ∣ m → m < 2 ^ 57 → Regained m := by
  refine ⟨fun text d hparse => ?_, fun d m hd => ⟨?_, fun hm hlost => ?_⟩, fun m hm hlt => ?_,
    fun m hm hlt => ?_⟩
  · obtain ⟨m, hd⟩ := exists_millis_of_parse hparse
    exact ⟨m, hd, parse_format_eq_ok_iff hd⟩
  · rw [read_of_write_duration s hkind, map_duration_eq_ok_iff, parse_format_eq_ok_iff hd]
  · obtain ⟨e, hparse, hshort⟩ := parse_format_of_lt hd hm hlost
    refine ⟨e, ?_, hshort⟩
    rw [read_of_write_duration s hkind, hparse]
    rfl
  · exact regained_of_dvd_twoPow (k := 0) hm hlt
  · exact regained_of_dvd_twoPow (k := 4) hm hlt

/-- A second and a half survives as a setting, and so does the longest text in days. -/
theorem read_back_of_second_and_half :
    statusTimeout.kind = .duration ∧
      ((Settings.write OrderedMap.empty statusTimeout (.duration ⟨1500000, by decide⟩)).bind
        fun t => t.read statusTimeout .missing) = .ok (.duration ⟨1500000, by decide⟩) ∧
      parse "999999999 d" = .ok ⟨86399999913600000000, by decide⟩ ∧
      parse (format ⟨86399999913600000000, by decide⟩) =
        .ok ⟨86399999913600000000, by decide⟩ := by
  obtain ⟨htext, hsetting, -, hwhole⟩ :=
    read_back_iff_regained OrderedMap.empty statusTimeout .missing rfl
  have hread : parse "999999999 d" = .ok ⟨86399999913600000000, by decide⟩ := by decide +kernel
  obtain ⟨m, hm, hback⟩ := htext _ _ hread
  have heven : Regained 86399999913600000 := hwhole _ (by decide) (by decide)
  have hmillis : m = 86399999913600000 := by
    dsimp only at hm
    omega
  exact ⟨rfl, (hsetting _ 1500 rfl).1.mpr (by decide), hread, hback.mpr (hmillis ▸ heven)⟩

/-- A second and a millisecond is written as one second, and the longest duration of whole
milliseconds as a text that is out of range. -/
theorem read_back_fails_of_millisecond :
    parse "1001 ms" = .ok ⟨1001000, by decide⟩ ∧ format ⟨1001000, by decide⟩ = "1 s" ∧
      parse (format ⟨1001000, by decide⟩) = .ok ⟨1000000, by decide⟩ ∧
      ((Settings.write OrderedMap.empty statusTimeout (.duration ⟨1001000, by decide⟩)).bind
        fun t => t.read statusTimeout .missing) = .ok (.duration ⟨1000000, by decide⟩) ∧
      parse "86399999999999999" = .ok ⟨86399999999999999000, by decide⟩ ∧
      parse (format ⟨86399999999999999000, by decide⟩) = .error (.daysOutOfRange 1000000000) := by
  have hback : parse (format ⟨1001000, by decide⟩) = .ok ⟨1000000, by decide⟩ := by
    decide +kernel
  refine ⟨by decide +kernel, by decide +kernel, hback, ?_, by decide +kernel, by decide +kernel⟩
  rw [read_of_write_duration _ rfl, hback]
  rfl

end Duration

end Keyspan
