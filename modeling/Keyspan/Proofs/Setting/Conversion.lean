import Keyspan.Proofs.Duration.Grammar
import Keyspan.Proofs.Number.Rounding
import Keyspan.Proofs.Setting.Reading

/-!
# Conversion of settings

The general conversion does what the converter of the kind does, except that a flag passes for an
integer. When it fails, it is for the form of the value, unless the value is too large: an infinity
or a long integer that has no counterpart, or a length of time that is out of range.

* `TooLarge`: the values that are too large for a kind.
* `Documented`: the outcomes that conversion promises.

Results:
* `Double.ofInt?_eq_none_iff`: which integers are too large for a floating-point number.
* `convert_eq_convertBy_iff`: where the general conversion is that of the kind.
* `error_of_tooLarge`, `category_of_convert`: the two ways in which conversion fails.
* `documented_iff`: conversion keeps its promise iff the value is not too large.
-/

namespace Keyspan

/-! ## Integers as floating-point numbers -/

namespace Double

open BinaryFormat (twoPow natCast_twoPow_sub)

/-- The least whole number that is rounded beyond the range, half a unit below the limit. -/
def integerBound : Nat := 2 ^ 1024 - 2 ^ 970

theorem integerBound_pos : 0 < integerBound := by
  have hpow {i j : Nat} (h : i < j) : 0 < 2 ^ j - 2 ^ i :=
    Nat.sub_pos_of_lt (Nat.pow_lt_pow_right one_lt_two h)
  exact hpow (by decide)

theorem natCast_integerBound : (integerBound : Rat) = twoPow 1024 - twoPow 970 :=
  natCast_twoPow_sub (by decide)

/-- **Which integers are too large for a floating-point number.** -/
theorem ofInt?_eq_none_iff {n : Int} : ofInt? n = none ↔ integerBound ≤ n.natAbs := by
  have habs : (n : Rat).abs = (n.natAbs : Rat) := by
    rcases Int.natAbs_eq n with hn | hn
    · conv_lhs => rw [hn]
      exact Rat.abs_of_nonneg (Nat.cast_nonneg _)
    · conv_lhs => rw [hn]
      rw [Int.cast_neg, Rat.abs_neg]
      exact Rat.abs_of_nonneg (Nat.cast_nonneg _)
  unfold ofInt? ofRat
  rw [habs]
  by_cases hle : integerBound ≤ n.natAbs
  · have hbound : twoPow 1024 - twoPow 970 ≤ (n.natAbs : Rat) := by
      rw [← natCast_integerBound]
      exact Nat.cast_le.mpr hle
    rw [ofMagnitude_of_le _ hbound]
    exact iff_of_true rfl hle
  · have hbound : (n.natAbs : Rat) < twoPow 1024 - twoPow 970 := by
      rw [← natCast_integerBound]
      exact Nat.cast_lt.mpr (not_le.mp hle)
    rw [ofMagnitude_of_lt _ (Nat.cast_nonneg _) hbound]
    exact iff_of_false nofun hle

end Double

namespace Setting.Value

/-! ## The converters -/

theorem convertBy_of_kind_eq {v : Value} {goal : Kind} (h : v.kind = goal)
    (hgoal : goal ∈ [Kind.flag, .integer, .real, .text, .duration]) :
    convertBy goal v = .ok v := by
  subst h
  cases v with
  | flag b => rfl
  | integer n => rfl
  | real x => rfl
  | text s => rfl
  | duration d => rfl
  | missing => exact absurd hgoal (by decide)
  | bytes b => exact absurd hgoal (by decide : Kind.bytes ∉ _)
  | list items => exact absurd hgoal (by decide : Kind.list ∉ _)
  | record fields => exact absurd hgoal (by decide : Kind.record ∉ _)

/-- **The general conversion is that of the kind**, flags as integers aside. -/
theorem convert_eq_convertBy {v : Value} {goal : Kind} (hv : v.kind ≠ .missing)
    (hgoal : goal ∈ [Kind.flag, .integer, .real, .text, .duration])
    (h : ¬ (v.kind = .flag ∧ goal = .integer)) : v.convert goal = convertBy goal v := by
  unfold convert
  rw [if_neg hv]
  split
  · rename_i hof
    rcases Bool.or_eq_true_iff.mp hof with hself | hflag
    · exact (convertBy_of_kind_eq (eq_of_beq hself) hgoal).symm
    · obtain ⟨hkind, hinteger⟩ := Bool.and_eq_true_iff.mp hflag
      exact absurd ⟨eq_of_beq hkind, eq_of_beq hinteger⟩ h
  · rfl

/-- **The general conversion and the five converters agree**, in the value or in the failure, but
for the one pair: the general conversion lets a flag pass for an integer, and the converter for
integers refuses it. -/
theorem converters_agree_iff {v : Value} (hv : v.kind ≠ .missing) :
    v.convert .flag = v.toFlag.map flag ∧ v.convert .real = v.toReal.map real ∧
      v.convert .text = v.toText.map text ∧ v.convert .duration = v.toDuration.map duration ∧
      (v.convert .integer = v.toInteger.map integer ↔ v.kind ≠ .flag) := by
  refine ⟨convert_eq_convertBy hv (by decide) (by simp),
    convert_eq_convertBy hv (by decide) (by simp), convert_eq_convertBy hv (by decide) (by simp),
    convert_eq_convertBy hv (by decide) (by simp), fun hsame hflag => ?_, fun hflag =>
    convert_eq_convertBy hv (by decide) fun h => hflag h.1⟩
  cases v with
  | flag b => exact nomatch hsame
  | _ => exact nomatch hflag

/-- A text and an infinity, one converted and one refused, by the general conversion and by the
converter for integers. -/
theorem converters_agree_on_text_and_infinity :
    (text " 12 ").kind ≠ .missing ∧ (text " 12 ").convert .integer = .ok (integer 12) ∧
      (text " 12 ").toInteger = .ok 12 ∧ (real (.infinite true)).kind ≠ .missing ∧
      (real (.infinite true)).convert .integer = .error .infiniteInteger := by
  have htext : (text " 12 ").toInteger = .ok 12 := by decide +kernel
  have hagree := (converters_agree_iff (v := text " 12 ") nofun).2.2.2.2.mpr nofun
  have hinfinite := (converters_agree_iff (v := real (.infinite true)) nofun).2.2.2.2.mpr nofun
  rw [htext] at hagree
  exact ⟨nofun, hagree, htext, nofun, hinfinite⟩

/-- A flag passes for an integer, and the converter for integers refuses it. -/
theorem converters_differ_on_flag :
    (flag true).convert .integer = .ok (flag true) ∧
      (flag true).toInteger = .error (.notConvertible .flag .integer) ∧
      (flag true).convert .integer ≠ (flag true).toInteger.map integer :=
  ⟨rfl, rfl, nofun⟩

/-! ## What is too large -/

/-- **The values that are too large for a kind**: an infinity as an integer, an integer as a
floating-point number, and milliseconds that no duration has, as an integer or in a text. -/
inductive TooLarge : Value → Kind → Prop where
  | infinite (negative : Bool) : TooLarge (.real (.infinite negative)) .integer
  | integer {n : Int} (h : Double.integerBound ≤ n.natAbs) : TooLarge (.integer n) .real
  | millis {n : Int} (h : ¬ Duration.InRange (n * 1000)) : TooLarge (.integer n) .duration
  | text {s : String} {n factor : Nat} (hstates : Duration.States (Text.normal s.toList) n factor)
    (h : ¬ Duration.InRange ((n * factor : Nat) * 1000)) : TooLarge (.text s) .duration

theorem toReal_integer (n : Int) :
    toReal (integer n) =
      match Double.ofInt? n with
      | some x => .ok x
      | none => .error .integerTooLarge := by
  -- not `rfl` at once, for which the rounding would be looked into
  unfold toReal
  rfl

/-- **What is too large is refused for its size.** -/
theorem error_of_tooLarge {v : Value} {goal : Kind} (h : TooLarge v goal) :
    ∃ f, v.convert goal = .error f ∧ f.category = .outOfRange := by
  have of_duration {outcome : Except Failure Duration}
      (ho : ∃ f, outcome = .error f ∧ f.category = .outOfRange) :
      ∃ f, outcome.map duration = .error f ∧ f.category = .outOfRange := by
    obtain ⟨f, rfl, hcategory⟩ := ho
    exact ⟨f, rfl, hcategory⟩
  cases h with
  | infinite negative => exact ⟨.infiniteInteger, rfl, rfl⟩
  | @integer n h =>
    have hreal : toReal (.integer n) = .error .integerTooLarge := by
      rw [toReal_integer, Double.ofInt?_eq_none_iff.mpr h]
    have hby : convert (.integer n) .real = convertBy .real (.integer n) :=
      convert_eq_convertBy nofun (by decide) (by simp)
    refine ⟨.integerTooLarge, ?_, rfl⟩
    rw [hby]
    unfold convertBy
    rw [hreal]
    rfl
  | @millis n h => exact of_duration (Duration.ofMicros_eq_error_iff.mpr h)
  | @text s n factor hstates h =>
    have hparse : ∃ f, Duration.parse s = .error f ∧ f.category = .outOfRange := by
      rw [Duration.parse_of_states hstates]
      exact Duration.ofMicros_eq_error_iff.mpr h
    exact of_duration hparse

/-! ## What is refused for its form -/

-- The recursion is that of `quoted`. The first item without a text is why the whole has none, so
-- the failure comes up unchanged from an integer at the bottom.
mutual

/-- **A value has no text** only if it holds an integer with too many digits. -/
theorem eq_numeralTooLong_of_quoted {f : Failure} :
    ∀ {v : Value}, v.quoted = .error f → f = .numeralTooLong
  | .integer n, h => by
    unfold quoted integerText at h
    split at h
    · exact nomatch h
    · exact (Except.error.inj h).symm
  | .list items, h => by
    unfold quoted at h
    cases hitems : quotedItems items with
    | ok shown =>
      rw [hitems] at h
      exact nomatch h
    | error g =>
      rw [hitems] at h
      exact Except.error.inj h ▸ eq_numeralTooLong_of_quotedItems hitems
  | .record fields, h => by
    unfold quoted at h
    cases hfields : quotedFields fields with
    | ok shown =>
      rw [hfields] at h
      exact nomatch h
    | error g =>
      rw [hfields] at h
      exact Except.error.inj h ▸ eq_numeralTooLong_of_quotedFields hfields
  | .missing, h | .flag _, h | .real _, h | .text _, h | .duration _, h | .bytes _, h => by
    unfold quoted at h
    exact nomatch h

theorem eq_numeralTooLong_of_quotedItems {f : Failure} :
    ∀ {items : List Value}, quotedItems items = .error f → f = .numeralTooLong
  | [], h => nomatch h
  | v :: rest, h => by
    unfold quotedItems at h
    cases hv : quoted v with
    | error g =>
      rw [hv] at h
      exact Except.error.inj h ▸ eq_numeralTooLong_of_quoted hv
    | ok s =>
      cases hrest : quotedItems rest with
      | error g =>
        rw [hv, hrest] at h
        exact Except.error.inj h ▸ eq_numeralTooLong_of_quotedItems hrest
      | ok shown =>
        rw [hv, hrest] at h
        exact nomatch h

theorem eq_numeralTooLong_of_quotedFields {f : Failure} :
    ∀ {fields : List (String × Value)}, quotedFields fields = .error f → f = .numeralTooLong
  | [], h => nomatch h
  | (name, v) :: rest, h => by
    unfold quotedFields at h
    cases hv : quoted v with
    | error g =>
      rw [hv] at h
      exact Except.error.inj h ▸ eq_numeralTooLong_of_quoted hv
    | ok s =>
      cases hrest : quotedFields rest with
      | error g =>
        rw [hv, hrest] at h
        exact Except.error.inj h ▸ eq_numeralTooLong_of_quotedFields hrest
      | ok shown =>
        rw [hv, hrest] at h
        exact nomatch h

end

section Refused

variable {v : Value} {f : Failure}

theorem category_of_toFlag (h : v.toFlag = .error f) : f.category = .invalidInput := by
  unfold toFlag at h
  split at h
  · exact nomatch h
  · dsimp only at h
    split_ifs at h
    exact Except.error.inj h ▸ rfl
  · exact nomatch h
  · exact nomatch h
  · exact Except.error.inj h ▸ rfl

theorem category_of_toInteger (hsize : ¬ TooLarge v .integer) (h : v.toInteger = .error f) :
    f.category = .invalidInput := by
  unfold toInteger at h
  split at h
  · exact nomatch h
  · exact category_of_readInteger h
  · exact nomatch h
  · exact absurd (.infinite _) hsize
  · exact Except.error.inj h ▸ rfl
  · exact Except.error.inj h ▸ rfl

theorem category_of_toReal (hsize : ¬ TooLarge v .real) (h : v.toReal = .error f) :
    f.category = .invalidInput := by
  unfold toReal at h
  split at h
  · exact nomatch h
  · exact category_of_readDouble h
  · split at h
    · exact nomatch h
    · rename_i hnone
      exact absurd (.integer (Double.ofInt?_eq_none_iff.mp hnone)) hsize
  · exact Except.error.inj h ▸ rfl

theorem category_of_toText (h : v.toText = .error f) : f.category = .invalidInput := by
  unfold toText at h
  split at h
  · exact nomatch h
  · exact nomatch h
  · unfold shown at h
    split at h
    · exact nomatch h
    · exact nomatch h
    · exact eq_numeralTooLong_of_quoted h ▸ rfl

theorem category_of_toDuration (hsize : ¬ TooLarge v .duration) (h : v.toDuration = .error f) :
    f.category = .invalidInput := by
  have of_category {outcome : Except Failure Duration} (ho : outcome = .error f)
      (hform : ∃ g, outcome = .error g ∧ g.category = .invalidInput) :
      f.category = .invalidInput := by
    obtain ⟨g, hg, hcategory⟩ := hform
    exact Except.error.inj (ho.symm.trans hg) ▸ hcategory
  unfold toDuration at h
  split at h
  · exact nomatch h
  · rename_i s
    refine of_category h (Duration.category_of_parse fun ⟨n, factor, hstates⟩ => ?_)
    rw [Duration.parse_of_states hstates] at h
    by_cases hrange : Duration.InRange ((n * factor : Nat) * 1000)
    · exact nomatch h.symm.trans (Duration.ofMillis_of_inRange hrange)
    · exact absurd (.text hstates hrange) hsize
  · rename_i n
    by_cases hrange : Duration.InRange (n * 1000)
    · exact nomatch h.symm.trans (Duration.ofMillis_of_inRange hrange)
    · exact absurd (.millis hrange) hsize
  · exact Except.error.inj h ▸ rfl

/-- **What is not too large is refused for its form**, if it is refused. -/
theorem category_of_convert {goal : Kind} (hsize : ¬ TooLarge v goal)
    (h : v.convert goal = .error f) : f.category = .invalidInput := by
  have of_map {α : Type} {make : α → Value} {outcome : Except Failure α}
      (ho : outcome.map make = .error f) : outcome = .error f := by
    cases outcome with
    | ok a => exact nomatch ho
    | error g => exact congrArg _ (Except.error.inj ho)
  unfold convert at h
  split at h
  · exact nomatch h
  · split at h
    · exact nomatch h
    · cases goal with
      | flag => exact category_of_toFlag (of_map h)
      | integer => exact category_of_toInteger hsize (of_map h)
      | real => exact category_of_toReal hsize (of_map h)
      | text => exact category_of_toText (of_map h)
      | duration => exact category_of_toDuration hsize (of_map h)
      | missing => exact Except.error.inj h ▸ rfl
      | bytes => exact Except.error.inj h ▸ rfl
      | list => exact Except.error.inj h ▸ rfl
      | record => exact Except.error.inj h ▸ rfl

end Refused

/-! ## The promise -/

/-- **What conversion promises**: the absent value for itself, and for any other value a value of
the kind, or a failure that blames the form of the value. -/
inductive Documented (v : Value) (goal : Kind) : Except Failure Value → Prop where
  | absent (h : v.kind = .missing) : Documented v goal (.ok .missing)
  | converted {w : Value} (hv : v.kind ≠ .missing) (hw : w.isOf goal = true) :
    Documented v goal (.ok w)
  | refused {f : Failure} (hv : v.kind ≠ .missing) (hf : f.category = .invalidInput) :
    Documented v goal (.error f)

/-- **Conversion keeps its promise iff the value is not too large**; what is too large is refused
for its size instead. -/
theorem documented_iff (v : Value) (goal : Kind) :
    (Documented v goal (v.convert goal) ↔ ¬ TooLarge v goal) ∧
      (TooLarge v goal → ∃ f, v.convert goal = .error f ∧ f.category = .outOfRange) := by
  refine ⟨⟨fun hdocumented hlarge => ?_, fun hsize => ?_⟩, error_of_tooLarge⟩
  · obtain ⟨f, herror, hcategory⟩ := error_of_tooLarge hlarge
    rw [herror] at hdocumented
    cases hdocumented with
    | refused hv hf => exact nomatch hf.symm.trans hcategory
  · by_cases hv : v.kind = .missing
    · have habsent : v.convert goal = .ok .missing := if_pos hv
      rw [habsent]
      exact .absent hv
    · cases h : v.convert goal with
      | ok w => exact .converted hv (isOf_of_convert hv h)
      | error f => exact .refused hv (category_of_convert hsize h)

/-- The greatest integer that is a floating-point number, and the next one. -/
theorem documented_at_the_bound :
    Documented (integer (Double.integerBound - 1)) .real
        ((integer (Double.integerBound - 1)).convert .real) ∧
      TooLarge (integer Double.integerBound) .real ∧
      ∃ f, (integer Double.integerBound).convert .real = .error f ∧ f.category = .outOfRange := by
  have hbound : (Double.integerBound - 1 : Int).natAbs < Double.integerBound := by
    have := Double.integerBound_pos
    omega
  have hsize {n : Int} (hn : n.natAbs < Double.integerBound) : ¬ TooLarge (integer n) .real := by
    intro hlarge
    cases hlarge with
    | integer h => exact absurd h (not_le.mpr hn)
  have hlarge : TooLarge (integer Double.integerBound) .real := .integer (Int.natAbs_natCast _).ge
  exact ⟨(documented_iff _ _).1.mpr (hsize hbound), hlarge, (documented_iff _ _).2 hlarge⟩

/-- An infinity as an integer, and more days than a duration has, are refused for their size. -/
theorem documented_fails_of_infinity :
    (real (.infinite false)).convert .integer = .error .infiniteInteger ∧
      Failure.infiniteInteger.category = .outOfRange ∧
      ¬ Documented (real (.infinite false)) .integer
        ((real (.infinite false)).convert .integer) ∧
      (text "1000000000 d").convert .duration = .error (.daysOutOfRange 1000000000) ∧
      (Failure.daysOutOfRange 1000000000).category = .outOfRange := by
  have hdays : Duration.parse "1000000000 d" = .error (.daysOutOfRange 1000000000) := by
    decide +kernel
  refine ⟨rfl, rfl, ?_, congrArg (Except.map duration) hdays, rfl⟩
  show ¬ Documented _ _ (.error .infiniteInteger)
  intro hdocumented
  cases hdocumented with
  | refused hv hf => exact nomatch hf

end Setting.Value

end Keyspan
