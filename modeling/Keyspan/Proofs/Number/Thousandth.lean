import Keyspan.Proofs.Number.Rounding

/-!
# A thousandth of a whole number and back

A whole number is divided by 1000 and the quotient is multiplied by 1000, each time with one
rounding to the 64-bit format, and the integer part of the product is taken. This is the number
again for some numbers and another one for others. Which ones depends on the 53 leading bits of the
number, its significand `s`: the quotient is rounded to a multiple of a thousandth of a power of
two, so that `64 * s` or `128 * s` is rounded to a multiple of 125, and the second rounding regains
`s` iff the first one moved it by less than half of the 64 or 128.

* `significand`: the leading bits of a number.
* `overshoot`, `drift`: how far the first rounding moves, and what is left of it after the second.
* `Regained`: the numbers that come back.

Results:
* `nearest_thousandth`: what becomes of a number whose significand has 53 bits.
* `floor_thousandth_iff`: a number comes back iff it is `Regained`.
* `floor_thousandth_of_lt`: below `2 ^ 52` a number that does not come back is one short.
* `regained_of_dvd`, `regained_of_dvd_twoPow`: multiples of 125 come back, as far as they are on
  the grid.
-/

namespace Keyspan

namespace BinaryFormat

/-! ## The numbers that come back -/

/-- The 53 leading bits of a number, zeros behind it if it has fewer. -/
def significand (m : Nat) : Nat := m * 2 ^ (52 - m.log2) / 2 ^ (m.log2 - 52)

/-- How far the multiple of 125 that is nearest to `64 * s` is above it. -/
def overshoot (s : Nat) : Int :=
  let rest := 64 * s % 125
  if rest ≤ 62 then -(rest : Int) else 125 - (rest : Int)

/-- **What a significand has gained** when the number was divided by 1000 and multiplied again. In
the lower part of a binade the quotient has a bit more than in the upper part, and nothing is
gained or lost there. A tie goes to the even neighbour. -/
def drift (s : Nat) : Int :=
  if s < 1000 * 2 ^ 43 then 0
  else if 32 < overshoot s ∨ (overshoot s = 32 ∧ s % 2 = 1) then 1
  else if overshoot s < -32 ∨ (overshoot s = -32 ∧ s % 2 = 1) then -1
  else 0

/-- **The numbers that come back**: those on the grid whose significand comes back, or gains a last
bit that counts less than one. -/
def Regained (m : Nat) : Prop :=
  2 ^ (m.log2 - 52) ∣ m ∧
    (drift (significand m) = 0 ∨ drift (significand m) = 1 ∧ m < 2 ^ 52)

instance (m : Nat) : Decidable (Regained m) := inferInstanceAs (Decidable (_ ∧ _))

/-! ## Two roundings -/

/-- The unit of the quotient, `2 ^ j` times as fine as that of the number. -/
theorem twoPow_sub (e : Int) (j : Nat) : twoPow (e - 3 - j) * 8 * 2 ^ j = twoPow e := by
  have hsplit : e = e - 3 - j + 3 + j := by ring
  conv_rhs => rw [hsplit, twoPow_add, twoPow_add, twoPow_natCast]
  rw [show twoPow 3 = 8 from by rw [twoPow]; norm_num]
  push_cast
  rfl

/-- **The first rounding**: in units of its own the quotient is `2 ^ j * s / 125`, so the nearest
integer is that of the nearest multiple of 125. -/
theorem exists_nearest_div {s j : Nat} {e : Int} (he : -1074 ≤ e - 3 - j)
    (hlow : 125 * 2 ^ 52 ≤ 2 ^ j * s) (hhigh : 2 ^ j * s < 125 * 2 ^ 53) :
    ∃ t : Int, double.nearest (s * twoPow e / 1000) = t * twoPow (e - 3 - j) ∧
      125 * t ≤ (2 ^ j * s : Nat) + 62 ∧ (2 ^ j * s : Nat) ≤ 125 * t + 62 := by
  have hquot : (s * twoPow e / 1000 : Rat) =
      ((2 ^ j * s : Nat) : Rat) / 125 * twoPow (e - 3 - j) := by
    rw [← twoPow_sub e j]
    push_cast
    ring
  have hlow' : (125 * 2 ^ 52 : Rat) ≤ ((2 ^ j * s : Nat) : Rat) := by exact_mod_cast hlow
  have hhigh' : ((2 ^ j * s : Nat) : Rat) < 125 * 2 ^ 53 := by exact_mod_cast hhigh
  refine ⟨nearestInt (((2 ^ j * s : Nat) : Rat) / 125), ?_, ?_⟩
  · rw [hquot, nearest_double_mul he (by linarith) (by linarith)]
  · obtain ⟨hbelow, habove⟩ := nearestInt_near (((2 ^ j * s : Nat) : Rat) / 125)
    generalize nearestInt (((2 ^ j * s : Nat) : Rat) / 125) = t at hbelow habove ⊢
    generalize 2 ^ j * s = n at hbelow habove ⊢
    -- an odd number of units is never a half away, which leaves 62 of the 62.5
    have hbelow' : 250 * t - 125 ≤ 2 * (n : Int) := by
      have : (250 * t - 125 : Rat) ≤ 2 * n := by linarith
      exact_mod_cast this
    have habove' : 2 * (n : Int) ≤ 250 * t + 125 := by
      have : (2 * n : Rat) ≤ 250 * t + 125 := by linarith
      exact_mod_cast this
    omega

/-- **The second rounding**: the product is `125 * t / 2 ^ j` in the units of the number. -/
theorem nearest_mul {t : Int} {j : Nat} {e : Int} (he : -1074 ≤ e)
    (hlow : 2 ^ 52 * 2 ^ j ≤ 125 * t) (hhigh : 125 * t < 2 ^ 53 * 2 ^ j) :
    double.nearest (t * twoPow (e - 3 - j) * 1000) =
      nearestInt (((125 * t : Int) : Rat) / 2 ^ j) * twoPow e := by
  have hpow : (0 : Rat) < 2 ^ j := by positivity
  have hprod : (t * twoPow (e - 3 - j) * 1000 : Rat) =
      ((125 * t : Int) : Rat) / 2 ^ j * twoPow e := by
    rw [← twoPow_sub e j]
    field_simp
    push_cast
    ring
  rw [hprod, nearest_double_mul he]
  · rw [le_div_iff₀ hpow]
    exact_mod_cast hlow
  · rw [div_lt_iff₀ hpow]
    exact_mod_cast hhigh

theorem eq_overshoot {s : Nat} {t : Int} (hlow : 125 * t ≤ (64 * s : Nat) + 62)
    (hhigh : (64 * s : Nat) ≤ 125 * t + 62) : 125 * t = (64 * s : Nat) + overshoot s := by
  unfold overshoot
  dsimp only
  split <;> omega

/-- **What a number of 64ths is rounded to**, the significand and its overshoot added. -/
theorem nearestInt_overshoot {s : Nat} (hs : ¬ s < 1000 * 2 ^ 43) :
    nearestInt ((((64 * s : Nat) + overshoot s : Int) : Rat) / 64) = s + drift s := by
  have hdiv : ((((64 * s : Nat) + overshoot s : Int) : Rat) / 64) =
      ((s : Int) : Rat) + (overshoot s : Rat) / 64 := by
    push_cast
    ring
  have hbound : -62 ≤ overshoot s ∧ overshoot s ≤ 62 := by
    unfold overshoot
    dsimp only
    split <;> omega
  rw [hdiv]
  unfold drift
  rw [if_neg hs]
  generalize overshoot s = o at hbound ⊢
  obtain ⟨hbelow, habove⟩ := hbound
  have hbelow' : (-62 : Rat) ≤ o := by exact_mod_cast hbelow
  have habove' : (o : Rat) ≤ 62 := by exact_mod_cast habove
  rcases lt_trichotomy o 32 with ho | rfl | ho
  · rw [if_neg (by omega)]
    rcases lt_trichotomy o (-32) with ho' | rfl | ho'
    · -- it loses a last bit
      have : (o : Rat) < -32 := by exact_mod_cast ho'
      rw [if_pos (.inl ho')]
      apply nearestInt_eq <;> push_cast <;> linarith
    · have htie : ((s : Int) : Rat) + ((-32 : Int) : Rat) / 64 = ((s - 1 : Int) : Rat) + 1 / 2 := by
        push_cast
        ring
      rw [htie, nearestInt_add_half]
      split_ifs <;> omega
    · have : (o : Rat) < 32 := by exact_mod_cast ho
      have : (-32 : Rat) < o := by exact_mod_cast ho'
      rw [if_neg (by omega), Int.add_zero]
      apply nearestInt_eq <;> linarith
  · have htie : ((s : Int) : Rat) + ((32 : Int) : Rat) / 64 = ((s : Int) : Rat) + 1 / 2 := by
      push_cast
      ring
    rw [htie, nearestInt_add_half]
    split_ifs <;> omega
  · have : (32 : Rat) < o := by exact_mod_cast ho
    rw [if_pos (.inl ho)]
    apply nearestInt_eq <;> push_cast <;> linarith

/-- **What becomes of a number whose significand has 53 bits**, when it is divided by 1000 and
multiplied again. -/
theorem nearest_thousandth {s : Nat} {e : Int} (he : -1000 ≤ e) (hlow : 2 ^ 52 ≤ s)
    (hhigh : s < 2 ^ 53) :
    double.nearest (double.nearest (s * twoPow e / 1000) * 1000) =
      ((s + drift s : Int) : Rat) * twoPow e := by
  by_cases hs : s < 1000 * 2 ^ 43
  · obtain ⟨t, ht, habove, hbelow⟩ :=
      exists_nearest_div (s := s) (j := 7) (e := e) (by omega) (by omega) (by omega)
    have hround : nearestInt (((125 * t : Int) : Rat) / 2 ^ 7) = s + drift s := by
      have habove' : (125 * t : Rat) ≤ 128 * s + 62 := by exact_mod_cast habove
      have hbelow' : (128 * s : Rat) ≤ 125 * t + 62 := by exact_mod_cast hbelow
      unfold drift
      rw [if_pos hs, Int.add_zero]
      apply nearestInt_eq <;> push_cast <;> linarith
    rw [ht, nearest_mul (by omega) (by omega) (by omega), hround]
  · obtain ⟨t, ht, habove, hbelow⟩ :=
      exists_nearest_div (s := s) (j := 6) (e := e) (by omega) (by omega) (by omega)
    have hround : nearestInt (((125 * t : Int) : Rat) / 2 ^ 6) = s + drift s := by
      rw [eq_overshoot habove hbelow, ← nearestInt_overshoot hs]
      norm_num
    rw [ht, nearest_mul (by omega) (by omega) (by omega), hround]

/-! ## Whole numbers on the grid -/

theorem significand_spec {m : Nat} (hm : m ≠ 0) (hgrid : 2 ^ (m.log2 - 52) ∣ m) :
    2 ^ 52 ≤ significand m ∧ significand m < 2 ^ 53 ∧
      (m : Rat) = significand m * twoPow (m.log2 - 52) := by
  have hpos : 0 < 2 ^ (m.log2 - 52) := Nat.two_pow_pos _
  -- one of the two shifts is by no place at all, and the other one is exact
  have hshift : significand m * 2 ^ (m.log2 - 52) = m * 2 ^ (52 - m.log2) :=
    Nat.div_mul_cancel (hgrid.mul_right _)
  have hplaces (k : Nat) : 2 ^ (m.log2 + k) * 2 ^ (52 - m.log2) =
      2 ^ (52 + k) * 2 ^ (m.log2 - 52) := by
    rw [← Nat.pow_add, ← Nat.pow_add]
    congr 1
    omega
  refine ⟨?_, ?_, ?_⟩
  · refine Nat.le_of_mul_le_mul_right ?_ hpos
    rw [hshift, ← hplaces 0]
    exact Nat.mul_le_mul_right _ (Nat.log2_self_le hm)
  · refine Nat.lt_of_mul_lt_mul_right (a := 2 ^ (m.log2 - 52)) ?_
    rw [hshift, ← hplaces 1]
    exact Nat.mul_lt_mul_of_pos_right Nat.lt_log2_self (Nat.two_pow_pos _)
  · have hunit : twoPow (m.log2 - 52) * ((2 ^ (52 - m.log2) : Nat) : Rat) =
        ((2 ^ (m.log2 - 52) : Nat) : Rat) := by
      rw [← twoPow_natCast, ← twoPow_natCast, ← twoPow_add]
      congr 1
      omega
    have hcast : (significand m : Rat) * ((2 ^ (m.log2 - 52) : Nat) : Rat) =
        m * ((2 ^ (52 - m.log2) : Nat) : Rat) := by
      exact_mod_cast hshift
    have hne : ((2 ^ (52 - m.log2) : Nat) : Rat) ≠ 0 :=
      Nat.cast_ne_zero.mpr (Nat.two_pow_pos _).ne'
    refine mul_right_cancel₀ hne ?_
    rw [mul_assoc, hunit, hcast]

/-- **An integer part is on the grid**: it has no more than 53 leading bits. -/
theorem dvd_of_floor_nearest {q : Rat} (hq : 0 ≤ q) {m : Nat}
    (h : (double.nearest q).floor = m) : 2 ^ (m.log2 - 52) ∣ m := by
  rcases Nat.lt_or_ge m.log2 53 with hlog | hlog
  · rw [show m.log2 - 52 = 0 by omega]
    exact one_dvd m
  · have hm : m ≠ 0 := by
      rintro rfl
      exact absurd hlog (by decide)
    by_cases hlow : twoPow m.log2 ≤ q
    · -- what is rounded is a multiple of its unit, and that one is a multiple of the unit here
      have hunit : ((m.log2 - 52 : Nat) : Int) ≤ double.unitExponent q := by
        have hle : (m.log2 : Int) - 52 ≤ double.unitExponent q := le_unitExponent hlow
        omega
      obtain ⟨n, hn⟩ := twoPow_eq_mul hunit
      obtain ⟨k, hk⟩ : ∃ k : Int, double.nearest q = k * twoPow (double.unitExponent q) :=
        ⟨_, nearest_eq_units ((twoPow_pos _).trans_le hlow)⟩
      have hround : double.nearest q = ((k * n * (2 ^ (m.log2 - 52) : Nat) : Int) : Rat) := by
        rw [hk, hn, twoPow_natCast, ← mul_assoc]
        push_cast
        rfl
      rw [hround, Rat.floor_intCast] at h
      exact Int.natCast_dvd_natCast.mp (h ▸ dvd_mul_left _ _)
    · -- what is rounded stays below the power of two, so the number is that power
      have hle : double.nearest q ≤ twoPow m.log2 :=
        nearest_le_twoPow (show (-1074 : Int) ≤ _ by omega) hq (not_le.mp hlow)
      have htop : (m : Rat) ≤ (2 ^ m.log2 : Nat) := by
        rw [← twoPow_natCast, ← Int.cast_natCast, ← h]
        exact (Rat.floor_le _).trans hle
      have heq : m = 2 ^ m.log2 := le_antisymm (Nat.cast_le.mp htop) (Nat.log2_self_le hm)
      rw [heq, Nat.log2_two_pow]
      exact Nat.pow_dvd_pow 2 (Nat.sub_le _ _)

theorem drift_cases (s : Nat) : drift s = 0 ∨ drift s = 1 ∨ drift s = -1 := by
  unfold drift
  split_ifs <;> simp

/-! ## Back to whole numbers -/

/-- **What becomes of a whole number on the grid**, when it is divided by 1000 and multiplied
again. -/
theorem nearest_thousandth_natCast {m : Nat} (hm : m ≠ 0) (hgrid : 2 ^ (m.log2 - 52) ∣ m) :
    double.nearest (double.nearest ((m : Rat) / 1000) * 1000) =
      m + drift (significand m) * twoPow (m.log2 - 52) := by
  obtain ⟨hlow, hhigh, hvalue⟩ := significand_spec hm hgrid
  conv_lhs => rw [hvalue, nearest_thousandth (by omega) hlow hhigh]
  conv_rhs => enter [1]; rw [hvalue]
  push_cast
  ring

theorem twoPow_unit_lt_one_iff {m : Nat} (hm : m ≠ 0) :
    twoPow (m.log2 - 52) < 1 ↔ m < 2 ^ 52 := by
  rw [show (1 : Rat) = twoPow 0 from (zpow_zero 2).symm, twoPow_lt_twoPow_iff, ← Nat.log2_lt hm]
  omega

/-- **Which whole numbers come back.** -/
theorem floor_thousandth_iff {m : Nat} :
    (double.nearest (double.nearest ((m : Rat) / 1000) * 1000)).floor = m ↔ Regained m := by
  rcases Nat.eq_zero_or_pos m with rfl | hm
  · simp only [Nat.cast_zero, zero_div, nearest_zero, zero_mul]
    decide
  · by_cases hgrid : 2 ^ (m.log2 - 52) ∣ m
    · have hpos := twoPow_pos (m.log2 - 52)
      unfold Regained
      rw [nearest_thousandth_natCast hm.ne' hgrid, floor_eq_iff,
        ← twoPow_unit_lt_one_iff hm.ne', Int.cast_natCast]
      rcases drift_cases (significand m) with hd | hd | hd <;> simp only [hd]
      · simp [hgrid]
      · simp [hgrid, hpos.le]
      · simp [hgrid, hpos]
    · constructor
      · intro h
        have hquot : 0 ≤ double.nearest ((m : Rat) / 1000) := nearest_nonneg _ (by positivity)
        exact absurd (dvd_of_floor_nearest (by positivity) h) hgrid
      · exact fun h => absurd h.1 hgrid

/-- **A number below `2 ^ 52` that does not come back is one short.** -/
theorem floor_thousandth_of_lt {m : Nat} (hm : m < 2 ^ 52) (h : ¬ Regained m) :
    (double.nearest (double.nearest ((m : Rat) / 1000) * 1000)).floor = m - 1 := by
  have hne : m ≠ 0 := by
    rintro rfl
    exact h (by decide)
  have hlog : m.log2 < 52 := (Nat.log2_lt hne).mpr hm
  have hgrid : 2 ^ (m.log2 - 52) ∣ m := by
    rw [show m.log2 - 52 = 0 by omega]
    exact one_dvd m
  have hunit := (twoPow_unit_lt_one_iff hne).mpr hm
  have hpos := twoPow_pos (m.log2 - 52)
  rw [nearest_thousandth_natCast hne hgrid, floor_eq_iff]
  rcases drift_cases (significand m) with hd | hd | hd
  · exact absurd ⟨hgrid, .inl hd⟩ h
  · exact absurd ⟨hgrid, .inr ⟨hd, hm⟩⟩ h
  · rw [hd]
    push_cast
    constructor <;> linarith

/-- **Multiples of 125 come back**, as far as they are on the grid. -/
theorem regained_of_dvd {m : Nat} (h : 125 ∣ m) (hgrid : 2 ^ (m.log2 - 52) ∣ m) :
    Regained m := by
  refine ⟨hgrid, .inl ?_⟩
  have hsig : 125 ∣ significand m := by
    have hcoprime : Nat.Coprime 125 (2 ^ (m.log2 - 52)) := Nat.Coprime.pow_right _ (by decide)
    refine hcoprime.dvd_of_dvd_mul_right ?_
    rw [significand, Nat.div_mul_cancel (hgrid.mul_right _)]
    exact h.mul_right _
  have hexact : overshoot (significand m) = 0 := by
    unfold overshoot
    dsimp only
    omega
  unfold drift
  rw [hexact]
  simp

/-- The multiples of 125 with zeros behind the 53 leading bits, so many that they are on the grid.
-/
theorem regained_of_dvd_twoPow {m k : Nat} (h : 125 * 2 ^ k ∣ m) (hm : m < 2 ^ (53 + k)) :
    Regained m := by
  rcases Nat.eq_zero_or_pos m with rfl | hpos
  · decide
  · have hlog : m.log2 < 53 + k := (Nat.log2_lt hpos.ne').mpr hm
    have hgrid : 2 ^ (m.log2 - 52) ∣ 2 ^ k := Nat.pow_dvd_pow 2 (by omega)
    exact regained_of_dvd ((dvd_mul_right _ _).trans h)
      (hgrid.trans ((dvd_mul_left _ _).trans h))

end BinaryFormat

end Keyspan
