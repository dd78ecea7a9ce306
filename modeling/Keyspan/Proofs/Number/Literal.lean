import Keyspan.Number.Literal
import Mathlib.Algebra.Group.Nat.Defs

/-!
# Which digits are read

A run of characters that look like digits is read as an integer iff each of them is a decimal digit
and there are not too many. What is refused is refused for its form. The digits that a number is
written with are such a run, so that a number which is written is read back; and so is an integer,
whose sign is a minus in front of them.

* `Numeral`: a run of decimal digits, of any script, and the number it stands for.

Results:
* `Text.isDigit_of_decimalValue?`: a decimal digit is a digit in the wide sense.
* `readInteger_eq_ok_iff`: reading a run of digits in the wide sense.
* `category_of_readInteger`, `category_of_readDouble`: a text is never refused for its size.
* `isWritable_iff`: which integers are written.
* `numeral_toDigits`: the digits of a number are read as the number.
* `readInteger_toString`: an integer that is written is read back.
-/

namespace Keyspan

/-! ## Digits -/

theorem Text.isDigit_of_decimalValue? {c : Char} {d : Nat} (h : decimalValue? c = some d) :
    isDigit c = true := by
  -- the ten digits of every script lie in one of the ranges of the wide sense
  have htable : ∀ z ∈ digitZeros, ∃ r ∈ digitRanges, r.1 ≤ z ∧ z + 9 ≤ r.2 := by decide +kernel
  obtain ⟨z, hz, -⟩ := Option.map_eq_some_iff.mp h
  have hc := List.find?_some hz
  simp only [Bool.and_eq_true, decide_eq_true_eq] at hc
  obtain ⟨r, hr, hlow, hhigh⟩ := htable z (List.mem_of_find?_eq_some hz)
  exact (CodeRanges.contains_iff _ _).mpr ⟨r, hr, by omega, by omega⟩

/-- The ASCII digits in positional order. -/
theorem Text.decimalValue?_of_isDigit {c : Char} (h : c.isDigit = true) :
    decimalValue? c = some (c.toNat - '0'.toNat) := by
  have hrange : 0x30 ≤ c.toNat ∧ c.toNat ≤ 0x39 := by
    simp only [Char.isDigit, Bool.and_eq_true, decide_eq_true_eq, ge_iff_le,
      UInt32.le_iff_toNat_le] at h
    exact h
  have hfind : digitZeros.find? (fun z => decide (z ≤ c.toNat) && decide (c.toNat < z + 10)) =
      some 0x30 := by
    rw [digitZeros, List.find?_cons_of_pos]
    simp only [Bool.and_eq_true, decide_eq_true_eq]
    omega
  unfold decimalValue?
  rw [hfind]
  rfl

/-- **A run of decimal digits of any script** that is not too long, and the number it stands for. -/
def Numeral (digits : List Char) (n : Nat) : Prop :=
  digits ≠ [] ∧ digits.length ≤ maxDigits ∧
    ∃ values, digits.map Text.decimalValue? = values.map some ∧ digitsValue values = n

theorem Numeral.isDigit {digits : List Char} {n : Nat} (h : Numeral digits n) :
    ∀ c ∈ digits, Text.isDigit c = true := by
  obtain ⟨-, -, values, hvalues, -⟩ := h
  intro c hc
  have hmem : Text.decimalValue? c ∈ values.map some := hvalues ▸ List.mem_map_of_mem hc
  obtain ⟨d, -, hd⟩ := List.mem_map.mp hmem
  exact Text.isDigit_of_decimalValue? hd.symm

/-! ## Reading -/

/-- Without low lines a run ends at the first character that is no decimal digit. -/
theorem digitRunFrom_of_notMem {s : List Char} (h : '_' ∉ s) (started : Bool) :
    s.map Text.decimalValue? =
        (digitRunFrom started s).1.map some ++ (digitRunFrom started s).2.map Text.decimalValue? ∧
      ∀ c r, (digitRunFrom started s).2 = c :: r → Text.decimalValue? c = none := by
  have hline {c : Char} {rest : List Char} (h : '_' ∉ c :: rest) : ¬ (c == '_') = true :=
    fun hc => h (eq_of_beq hc ▸ List.mem_cons_self)
  fun_induction digitRunFrom started s with
  | case1 => exact ⟨rfl, fun c r h => absurd h.symm (List.cons_ne_nil c r)⟩
  | case2 started c rest d hvalue run ih =>
    obtain ⟨hvalues, hstop⟩ := ih fun hmem => h (List.mem_cons_of_mem c hmem)
    exact ⟨by rw [List.map_cons, hvalue, hvalues]; rfl, hstop⟩
  | case3 started c hvalue hlow => exact absurd (Bool.and_eq_true_iff.mp hlow).2 (hline h)
  | case4 started c hvalue hlow c' rest d hvalue' run ih =>
    exact absurd (Bool.and_eq_true_iff.mp hlow).2 (hline h)
  | case5 started c hvalue hlow c' rest hvalue' =>
    exact absurd (Bool.and_eq_true_iff.mp hlow).2 (hline h)
  | case6 started c rest hvalue hother =>
    exact ⟨rfl, fun c' r h => (List.cons.inj h).1 ▸ hvalue⟩

theorem splitSign_of_isDigit {s : List Char} (h : ∀ c ∈ s, Text.isDigit c = true) :
    splitSign s = (false, s) := by
  have hminus : Text.isDigit '-' = false := by decide
  have hplus : Text.isDigit '+' = false := by decide
  unfold splitSign
  split
  · exact nomatch hminus.symm.trans (h '-' List.mem_cons_self)
  · exact nomatch hplus.symm.trans (h '+' List.mem_cons_self)
  · rfl

/-- **A run of digits in the wide sense is read iff it is a numeral**, as the number that the
numeral stands for. -/
theorem readInteger_eq_ok_iff {digits : List Char} (h : ∀ c ∈ digits, Text.isDigit c = true)
    {i : Int} :
    readInteger (String.ofList digits) = .ok i ↔ ∃ n : Nat, i = n ∧ Numeral digits n := by
  have hline : '_' ∉ digits := fun hmem => nomatch h '_' hmem
  obtain ⟨hvalues, hstop⟩ := digitRunFrom_of_notMem hline false
  unfold readInteger digitRun
  rw [String.toList_ofList, splitSign_of_isDigit h]
  dsimp only
  generalize digitRunFrom false digits = run at hvalues hstop
  obtain ⟨values, rest⟩ := run
  dsimp only at hvalues hstop ⊢
  cases rest with
  | nil =>
    rw [List.map_nil, List.append_nil] at hvalues
    have hlength : digits.length = values.length := by
      simpa only [List.length_map] using congrArg List.length hvalues
    constructor
    · intro hread
      split at hread
      · exact nomatch hread
      · rename_i hvalid
        split at hread
        · exact nomatch hread
        · refine ⟨digitsValue values, (Except.ok.inj hread).symm, ?_, by omega, values, hvalues,
            rfl⟩
          rintro rfl
          exact hvalid (.inl (List.length_eq_zero_iff.mp hlength.symm))
    · rintro ⟨n, rfl, hne, hmax, values', hvalues', rfl⟩
      obtain rfl : values = values' :=
        (List.map_inj_right fun _ _ => Option.some.inj).mp (hvalues.symm.trans hvalues')
      rw [if_neg, if_neg (by omega), if_neg (by simp)]
      · rfl
      · rintro (rfl | hhead)
        · exact hne (List.length_eq_zero_iff.mp hlength)
        · exact nomatch hhead
  | cons c r =>
    have hnone := hstop c r rfl
    constructor
    · intro hread
      split at hread
      · exact nomatch hread
      · split at hread
        · exact nomatch hread
        · rw [if_pos (List.cons_ne_nil c r)] at hread
          exact nomatch hread
    · rintro ⟨n, -, -, -, values', hvalues', -⟩
      have hmem : (none : Option Nat) ∈ values'.map some := by
        rw [← hvalues', hvalues, List.map_cons, hnone]
        exact List.mem_append_right _ List.mem_cons_self
      simp at hmem

-- a digit of another script, and a superscript
example : readInteger "٣" = .ok 3 ∧ readInteger "²" = .error (.notAnInteger "²") := by
  decide +kernel

theorem readInteger_minus {digits : List Char} (h : ∀ c ∈ digits, Text.isDigit c = true) {i : Int}
    (hread : readInteger (String.ofList digits) = .ok i) :
    readInteger (String.ofList ('-' :: digits)) = .ok (-i) := by
  have hsplit : splitSign ('-' :: digits) = (true, digits) := rfl
  unfold readInteger at hread ⊢
  rw [String.toList_ofList, splitSign_of_isDigit h] at hread
  rw [String.toList_ofList, hsplit]
  dsimp only at hread ⊢
  split at hread
  · exact nomatch hread
  · rename_i hform
    split at hread
    · exact nomatch hread
    · rename_i hcount
      split at hread
      · exact nomatch hread
      · rename_i hrest
        rw [if_neg hform, if_neg hcount, if_neg hrest, ← Except.ok.inj hread]
        rfl

/-- **What is no integer literal is refused for its form**, even if it is too long. -/
theorem category_of_readInteger {text : String} {f : Failure} (h : readInteger text = .error f) :
    f.category = .invalidInput := by
  unfold readInteger at h
  dsimp only at h
  split at h
  · exact Except.error.inj h ▸ rfl
  · split at h
    · exact Except.error.inj h ▸ rfl
    · split at h
      · exact Except.error.inj h ▸ rfl
      · exact nomatch h

theorem category_of_readDouble {text : String} {f : Failure} (h : readDouble text = .error f) :
    f.category = .invalidInput := by
  unfold readDouble at h
  dsimp only at h
  split at h
  · exact nomatch h
  · split at h
    · exact nomatch h
    · split at h
      · exact nomatch h
      · exact Except.error.inj h ▸ rfl

/-! ## Reading what was written -/

theorem isWritable_iff {n : Int} : isWritable n = true ↔ n.natAbs < 10 ^ maxDigits := by
  unfold isWritable Decimal.digitCount
  rw [decide_eq_true_eq, Nat.length_toDigits_le_iff (by decide) (by decide)]

/-- **The digits of a number are a numeral for it**, if they are not too many. -/
theorem numeral_toDigits {n : Nat} (h : n < 10 ^ maxDigits) : Numeral (Nat.toDigits 10 n) n := by
  have hdigit {c : Char} (hc : c ∈ Nat.toDigits 10 n) : c.isDigit = true :=
    Nat.isDigit_of_mem_toDigits (by decide) (by decide) hc
  refine ⟨Nat.toDigits_ne_nil, (Nat.length_toDigits_le_iff (by decide) (by decide)).mpr h,
    (Nat.toDigits 10 n).map fun c => c.toNat - '0'.toNat, ?_, ?_⟩
  · rw [List.map_map]
    exact List.map_congr_left fun c hc => Text.decimalValue?_of_isDigit (hdigit hc)
  · unfold digitsValue
    rw [List.foldl_map]
    exact Nat.ofDigitChars_ten_toDigits

/-- **An integer is written in digits**, with a minus in front of them if it is below zero. -/
theorem toString_eq_ofList (n : Int) :
    toString n = String.ofList
      (if n < 0 then '-' :: Nat.toDigits 10 n.natAbs else Nat.toDigits 10 n.natAbs) := by
  cases n with
  | ofNat m => rfl
  | negSucc m =>
    rw [if_pos (Int.negSucc_lt_zero m)]
    show String.ofList ['-'] ++ String.ofList (Nat.toDigits 10 (m + 1)) =
      String.ofList (['-'] ++ Nat.toDigits 10 (m + 1))
    exact String.ofList_append.symm

/-- **An integer that is written is read back.** -/
theorem readInteger_toString {n : Int} (h : isWritable n = true) :
    readInteger (toString n) = .ok n := by
  have hnumeral : Numeral (Nat.toDigits 10 n.natAbs) n.natAbs :=
    numeral_toDigits (isWritable_iff.mp h)
  have hdigits : readInteger (String.ofList (Nat.toDigits 10 n.natAbs)) = .ok n.natAbs :=
    (readInteger_eq_ok_iff hnumeral.isDigit).mpr ⟨n.natAbs, rfl, hnumeral⟩
  rw [toString_eq_ofList]
  split
  · rename_i hneg
    have hvalue : -(n.natAbs : Int) = n := by omega
    rw [readInteger_minus hnumeral.isDigit hdigits, hvalue]
  · rename_i hnonneg
    have hvalue : (n.natAbs : Int) = n := by omega
    rw [hdigits, hvalue]

end Keyspan
