import Keyspan.Number.Double
import Mathlib.Algebra.Order.Field.Power
import Mathlib.Algebra.Order.Ring.Rat
import Mathlib.Tactic.FieldSimp
import Mathlib.Tactic.Linarith
import Mathlib.Tactic.Positivity
import Mathlib.Tactic.Ring

/-!
# Rounding to a binary grid

What `BinaryFormat.nearest` does to a magnitude, in terms of exact rational numbers. A magnitude
lies between two powers of two, which give the spacing of the grid there; in units of that spacing
it is rounded to the nearest integer, a tie going to the even one.

Results:
* `floorLog2_eq`: the exponent of a magnitude is that of the power of two below it.
* `nearestInt_eq`, `nearestInt_add_half`: the nearest integer, and what becomes of a tie;
  `nearestInt_mono`: rounding keeps the order.
* `nearest_eq`: rounding at a known spacing; `nearest_near`: it moves by half a unit at most.
* `nearest_le_twoPow`, `twoPow_le_nearest`: rounding does not pass a power of two.
* `nearest_mul_twoPow`: the numbers of the grid stay as they are.
* `limit_le_nearest_iff`: which magnitudes of the 64-bit format are rounded beyond its range.
* `ofInt?_natCast`, `integerPart?_mul_share`: whole numbers up to `2 ^ 53` and their shares by
  powers of two are exact.
-/

namespace Keyspan

namespace BinaryFormat

/-! ## Powers of two -/

theorem twoPow_pos (e : Int) : 0 < twoPow e := zpow_pos two_pos e

theorem twoPow_add (e k : Int) : twoPow (e + k) = twoPow e * twoPow k :=
  zpow_add₀ two_ne_zero e k

theorem twoPow_natCast (n : Nat) : twoPow n = ((2 ^ n : Nat) : Rat) := by
  unfold twoPow
  rw [zpow_natCast]
  push_cast
  rfl

theorem natCast_twoPow_sub {i j : Nat} (h : i ≤ j) :
    ((2 ^ j - 2 ^ i : Nat) : Rat) = twoPow j - twoPow i := by
  rw [Nat.cast_sub (Nat.pow_le_pow_right two_pos h), twoPow_natCast, twoPow_natCast]

theorem twoPow_le_twoPow_iff {e k : Int} : twoPow e ≤ twoPow k ↔ e ≤ k :=
  zpow_le_zpow_iff_right₀ one_lt_two

theorem twoPow_lt_twoPow_iff {e k : Int} : twoPow e < twoPow k ↔ e < k :=
  zpow_lt_zpow_iff_right₀ one_lt_two

theorem twoPow_succ (e : Int) : twoPow (e + 1) = 2 * twoPow e := by
  rw [twoPow_add, mul_comm]
  rfl

/-- A power of two is a whole number of times a smaller one. -/
theorem twoPow_eq_mul {e k : Int} (h : e ≤ k) : ∃ n : Int, twoPow k = n * twoPow e := by
  refine ⟨2 ^ (k - e).toNat, ?_⟩
  have hsplit : k = (k - e).toNat + e := by omega
  conv_lhs => rw [hsplit, twoPow_add, twoPow_natCast]
  push_cast
  rfl

theorem twoPow_log2_le {n : Nat} (h : n ≠ 0) : twoPow n.log2 ≤ n := by
  rw [twoPow_natCast]
  exact Nat.cast_le.mpr (Nat.log2_self_le h)

theorem lt_twoPow_log2_succ (n : Nat) : (n : Rat) < twoPow (n.log2 + 1) := by
  rw [← Nat.cast_succ, twoPow_natCast]
  exact Nat.cast_lt.mpr Nat.lt_log2_self

/-! ## The exponent of a magnitude -/

/-- **The exponent of a magnitude** is that of the greatest power of two which is at most the
magnitude. -/
theorem floorLog2_spec {q : Rat} (hq : 0 < q) :
    twoPow (floorLog2 q) ≤ q ∧ q < twoPow (floorLog2 q + 1) := by
  -- numerator and denominator each lie between two powers of two, so the quotient is known up to
  -- a factor of two on either side, and the comparison in `floorLog2` decides between them
  have hnum : q.num.natAbs ≠ 0 := Int.natAbs_ne_zero.mpr (Rat.num_pos.mpr hq).ne'
  have hden : (0 : Rat) < q.den := Nat.cast_pos.mpr q.den_pos
  have hquot : q * q.den = (q.num.natAbs : Rat) := by
    have habs : ((q.num.natAbs : Int) : Rat) = (q.num : Rat) :=
      congrArg _ (Int.natAbs_of_nonneg (Rat.num_pos.mpr hq).le)
    rw [Rat.mul_den_eq_num, ← habs]
    rfl
  generalize hk : (q.num.natAbs.log2 : Int) - (q.den.log2 : Int) = k
  have hlow : twoPow (k - 1) < q := by
    have hup : (q.den : Rat) < twoPow (q.den.log2 + 1) := lt_twoPow_log2_succ q.den
    have hmul : twoPow (k - 1) * twoPow (q.den.log2 + 1) = twoPow q.num.natAbs.log2 := by
      rw [← twoPow_add]
      congr 1
      omega
    have hle : twoPow (k - 1) * q.den < q * q.den := by
      rw [hquot]
      calc twoPow (k - 1) * q.den < twoPow (k - 1) * twoPow (q.den.log2 + 1) :=
            mul_lt_mul_of_pos_left hup (twoPow_pos _)
        _ = twoPow q.num.natAbs.log2 := hmul
        _ ≤ q.num.natAbs := twoPow_log2_le hnum
    exact lt_of_mul_lt_mul_right hle hden.le
  have hhigh : q < twoPow (k + 1) := by
    have hlo : twoPow q.den.log2 ≤ q.den := twoPow_log2_le q.den_nz
    have hmul : twoPow (k + 1) * twoPow q.den.log2 = twoPow (q.num.natAbs.log2 + 1) := by
      rw [← twoPow_add]
      congr 1
      omega
    have hlt : q * q.den < twoPow (k + 1) * q.den := by
      rw [hquot]
      calc (q.num.natAbs : Rat) < twoPow (q.num.natAbs.log2 + 1) := lt_twoPow_log2_succ _
        _ = twoPow (k + 1) * twoPow q.den.log2 := hmul.symm
        _ ≤ twoPow (k + 1) * q.den := mul_le_mul_of_nonneg_left hlo (twoPow_pos _).le
    exact lt_of_mul_lt_mul_right hlt hden.le
  unfold floorLog2
  dsimp only
  rw [hk]
  split
  · exact ⟨‹_›, hhigh⟩
  · exact ⟨hlow.le, by rw [sub_add_cancel]; exact not_le.mp ‹_›⟩

theorem floorLog2_eq {q : Rat} {k : Int} (hlow : twoPow k ≤ q) (hhigh : q < twoPow (k + 1)) :
    floorLog2 q = k := by
  obtain ⟨hle, hlt⟩ := floorLog2_spec ((twoPow_pos k).trans_le hlow)
  have hup : floorLog2 q < k + 1 := twoPow_lt_twoPow_iff.mp (hle.trans_lt hhigh)
  have hdown : k < floorLog2 q + 1 := twoPow_lt_twoPow_iff.mp (hlow.trans_lt hlt)
  omega

/-! ## The nearest integer -/

theorem floor_eq_iff {q : Rat} {n : Int} : q.floor = n ↔ n ≤ q ∧ q < n + 1 := by
  rw [← Int.cast_one, ← Int.cast_add, ← Rat.le_floor_iff, ← Rat.floor_lt_iff]
  omega

theorem nearestInt_of_floor {q : Rat} {n : Int} (hlow : (n : Rat) ≤ q) (hhigh : q < n + 1) :
    nearestInt q =
      if q < n + 1 / 2 then n else if n + 1 / 2 < q then n + 1
      else if n % 2 = 0 then n else n + 1 := by
  have hfloor : q.floor = n := floor_eq_iff.mpr ⟨hlow, hhigh⟩
  unfold nearestInt
  simp only [hfloor, sub_lt_iff_lt_add', lt_sub_iff_add_lt']

/-- **An integer closer than a half is the nearest one.** -/
theorem nearestInt_eq {q : Rat} {n : Int} (hlow : (n : Rat) - 1 / 2 < q) (hhigh : q < n + 1 / 2) :
    nearestInt q = n := by
  by_cases hn : (n : Rat) ≤ q
  · rw [nearestInt_of_floor hn (by linarith), if_pos hhigh]
  · have hbelow : ((n - 1 : Int) : Rat) ≤ q := by push_cast; linarith
    rw [nearestInt_of_floor hbelow (by push_cast; linarith),
      if_neg (by push_cast; linarith), if_pos (by push_cast; linarith), sub_add_cancel]

@[simp] theorem nearestInt_intCast (n : Int) : nearestInt (n : Rat) = n :=
  nearestInt_eq (by linarith) (by linarith)

theorem nearestInt_add_half (n : Int) :
    nearestInt (n + 1 / 2) = if n % 2 = 0 then n else n + 1 := by
  have hlow : (n : Rat) ≤ n + 1 / 2 := by linarith
  rw [nearestInt_of_floor hlow (by linarith), if_neg (lt_irrefl _), if_neg (lt_irrefl _)]

theorem nearestInt_near (q : Rat) :
    (nearestInt q : Rat) - 1 / 2 ≤ q ∧ q ≤ nearestInt q + 1 / 2 := by
  have hle : (q.floor : Rat) ≤ q := Rat.floor_le q
  have hlt : q < q.floor + 1 := by
    have := Rat.lt_floor (x := q)
    linarith
  rw [nearestInt_of_floor hle hlt]
  split
  · exact ⟨by linarith, by linarith⟩
  · split
    · exact ⟨by push_cast; linarith, by push_cast; linarith⟩
    · split
      · exact ⟨by linarith, by linarith⟩
      · exact ⟨by push_cast; linarith, by push_cast; linarith⟩

theorem nearestInt_mono {p q : Rat} (h : p ≤ q) : nearestInt p ≤ nearestInt q := by
  by_contra hlt
  -- the two results are apart by one at least and each is within a half of its number, so both
  -- numbers are the one number in the middle
  have hstep : nearestInt q + 1 ≤ nearestInt p := not_le.mp hlt
  have hcast : (nearestInt q : Rat) + 1 ≤ nearestInt p := by exact_mod_cast hstep
  have hp := (nearestInt_near p).1
  have hq := (nearestInt_near q).2
  have heq : p = q := le_antisymm h (by linarith)
  rw [heq] at hstep
  omega

/-- A number below the middle of two integers is rounded to the lower one at most. -/
theorem nearestInt_le {q : Rat} {n : Int} (h : q < n + 1 / 2) : nearestInt q ≤ n := by
  have hlt : (nearestInt q : Rat) < ((n + 1 : Int) : Rat) := by
    push_cast
    linarith [(nearestInt_near q).1]
  exact Int.lt_add_one_iff.mp (Int.cast_lt.mp hlt)

/-! ## The nearest number of the grid -/

section Grid

variable {f : BinaryFormat} {q : Rat}

/-- What is rounded is in units of the spacing a number that is rounded to an integer. -/
theorem nearest_eq_units (hq : 0 < q) :
    f.nearest q =
      nearestInt (q / twoPow (f.unitExponent q)) * twoPow (f.unitExponent q) := by
  unfold nearest
  rw [if_neg hq.ne']

theorem unitExponent_eq {e : Int} (hmin : f.minExponent ≤ e)
    (hlow : twoPow (e + (f.precision - 1)) ≤ q) (hhigh : q < twoPow (e + f.precision)) :
    f.unitExponent q = e := by
  have hlog : floorLog2 q = e + (f.precision - 1) :=
    floorLog2_eq hlow (by rw [add_assoc, sub_add_cancel]; exact hhigh)
  unfold unitExponent
  rw [hlog, add_sub_cancel_right, max_eq_right hmin]

theorem nearest_eq {e : Int} (hmin : f.minExponent ≤ e)
    (hlow : twoPow (e + (f.precision - 1)) ≤ q) (hhigh : q < twoPow (e + f.precision)) :
    f.nearest q = nearestInt (q / twoPow e) * twoPow e := by
  rw [nearest_eq_units ((twoPow_pos _).trans_le hlow), unitExponent_eq hmin hlow hhigh]

theorem nearest_nonneg (f : BinaryFormat) (hq : 0 ≤ q) : 0 ≤ f.nearest q := by
  rcases hq.eq_or_lt with rfl | hq
  · exact le_rfl
  · have hround : 0 ≤ nearestInt (q / twoPow (f.unitExponent q)) := by
      rw [← nearestInt_intCast 0]
      exact nearestInt_mono (div_nonneg hq.le (twoPow_pos _).le)
    rw [nearest_eq_units hq]
    exact mul_nonneg (Int.cast_nonneg hround) (twoPow_pos _).le

theorem nearest_near (hq : 0 < q) :
    f.nearest q - twoPow (f.unitExponent q) / 2 ≤ q ∧
      q ≤ f.nearest q + twoPow (f.unitExponent q) / 2 := by
  have hunit := twoPow_pos (f.unitExponent q)
  obtain ⟨hlow, hhigh⟩ := nearestInt_near (q / twoPow (f.unitExponent q))
  rw [nearest_eq_units hq]
  rw [le_div_iff₀ hunit] at hlow
  rw [div_le_iff₀ hunit] at hhigh
  constructor <;> linarith

theorem unitExponent_le {k : Int} (hq : 0 < q) (h : q < twoPow k) :
    f.unitExponent q ≤ max f.minExponent (k - f.precision) := by
  have hlt : floorLog2 q < k := twoPow_lt_twoPow_iff.mp ((floorLog2_spec hq).1.trans_lt h)
  unfold unitExponent
  omega

theorem le_unitExponent {k : Int} (h : twoPow k ≤ q) :
    k - ((f.precision : Int) - 1) ≤ f.unitExponent q := by
  have hlt : k < floorLog2 q + 1 :=
    twoPow_lt_twoPow_iff.mp (h.trans_lt (floorLog2_spec ((twoPow_pos k).trans_le h)).2)
  unfold unitExponent
  omega

/-- **Rounding does not pass a power of two** of the grid upwards. -/
theorem nearest_le_twoPow {k : Int} (hk : f.minExponent ≤ k) (hq : 0 ≤ q) (h : q < twoPow k) :
    f.nearest q ≤ twoPow k := by
  rcases hq.eq_or_lt with rfl | hq
  · exact (twoPow_pos k).le
  · have hunit : f.unitExponent q ≤ k := by
      have := unitExponent_le (f := f) hq h
      omega
    obtain ⟨n, hn⟩ := twoPow_eq_mul hunit
    have hround : nearestInt (q / twoPow (f.unitExponent q)) ≤ n := by
      rw [← nearestInt_intCast n]
      apply nearestInt_mono
      rw [div_le_iff₀ (twoPow_pos _), ← hn]
      exact h.le
    rw [nearest_eq_units hq, hn]
    exact mul_le_mul_of_nonneg_right (Int.cast_le.mpr hround) (twoPow_pos _).le

theorem twoPow_le_nearest {k : Int} (hf : 1 ≤ f.precision) (hk : f.minExponent ≤ k)
    (h : twoPow k ≤ q) : twoPow k ≤ f.nearest q := by
  have hq : 0 < q := (twoPow_pos k).trans_le h
  obtain ⟨hlow, hhigh⟩ := floorLog2_spec hq
  have hlog : k ≤ floorLog2 q :=
    Int.lt_add_one_iff.mp (twoPow_lt_twoPow_iff.mp (h.trans_lt hhigh))
  have hunit : f.unitExponent q ≤ floorLog2 q := by
    unfold unitExponent
    omega
  obtain ⟨n, hn⟩ := twoPow_eq_mul hunit
  have hround : n ≤ nearestInt (q / twoPow (f.unitExponent q)) := by
    rw [← nearestInt_intCast n]
    apply nearestInt_mono
    rw [le_div_iff₀ (twoPow_pos _), ← hn]
    exact hlow
  calc twoPow k ≤ twoPow (floorLog2 q) := twoPow_le_twoPow_iff.mpr hlog
    _ = n * twoPow (f.unitExponent q) := hn
    _ ≤ f.nearest q := by
      rw [nearest_eq_units hq]
      exact mul_le_mul_of_nonneg_right (Int.cast_le.mpr hround) (twoPow_pos _).le

theorem nearest_eq_self {k : Int} (hq : 0 < q) (h : q = k * twoPow (f.unitExponent q)) :
    f.nearest q = q := by
  have hunit := twoPow_pos (f.unitExponent q)
  have hquot : q / twoPow (f.unitExponent q) = k := (div_eq_iff hunit.ne').mpr h
  rw [nearest_eq_units hq, hquot, nearestInt_intCast]
  exact h.symm

/-- **The numbers of the grid stay as they are**: the multiples of a spacing of the format, up to
the power of two from which on the spacing is greater. -/
theorem nearest_mul_twoPow {n : Nat} {e : Int} (hf : 1 ≤ f.precision) (he : f.minExponent ≤ e)
    (hn : n ≤ 2 ^ f.precision) : f.nearest (n * twoPow e) = n * twoPow e := by
  have hpos := twoPow_pos e
  have hscale (k : Nat) : twoPow (e + k) = ((2 ^ k : Nat) : Rat) * twoPow e := by
    rw [twoPow_add, twoPow_natCast, mul_comm]
  rcases Nat.eq_zero_or_pos n with rfl | hn0
  · rw [Nat.cast_zero, zero_mul, nearest_zero]
  · have hq : 0 < (n : Rat) * twoPow e := mul_pos (Nat.cast_pos.mpr hn0) hpos
    -- the spacing at the number is at most that of a power of two which the number is a multiple of
    obtain ⟨m, k, hk, hm⟩ : ∃ (m : Nat) (k : Int), f.unitExponent (n * twoPow e) ≤ k ∧
        (n : Rat) * twoPow e = m * twoPow k := by
      rcases hn.lt_or_eq with hlt | rfl
      · have hbelow : (n : Rat) * twoPow e < twoPow (e + f.precision) := by
          rw [hscale]
          exact mul_lt_mul_of_pos_right (Nat.cast_lt.mpr hlt) hpos
        have hunit := unitExponent_le (f := f) hq hbelow
        exact ⟨n, e, by omega, rfl⟩
      · have hbelow :
            ((2 ^ f.precision : Nat) : Rat) * twoPow e < twoPow (e + f.precision + 1) := by
          rw [← hscale]
          exact twoPow_lt_twoPow_iff.mpr (Int.lt_succ _)
        have hunit := unitExponent_le (f := f) hq hbelow
        exact ⟨1, e + f.precision, by omega, by rw [hscale, Nat.cast_one, one_mul]⟩
    obtain ⟨j, hj⟩ := twoPow_eq_mul hk
    have hwhole : (n : Rat) * twoPow e =
        ((m * j : Int) : Rat) * twoPow (f.unitExponent (n * twoPow e)) := by
      conv_lhs => rw [hm, hj]
      push_cast
      ring
    exact nearest_eq_self hq hwhole

end Grid

/-! ## The 64-bit format -/

/-- **A number of units is rounded to an integer**, if the integer part has just 53 bits. -/
theorem nearest_double_mul {q : Rat} {e : Int} (he : -1074 ≤ e) (hlow : 2 ^ 52 ≤ q)
    (hhigh : q < 2 ^ 53) : double.nearest (q * twoPow e) = nearestInt q * twoPow e := by
  have hpos := twoPow_pos e
  rw [nearest_eq (f := double) he, mul_div_cancel_right₀ _ hpos.ne']
  · rw [twoPow_add, mul_comm]
    exact mul_le_mul_of_nonneg_right hlow hpos.le
  · rw [twoPow_add, mul_comm]
    exact mul_lt_mul_of_pos_left hhigh hpos

/-- **Which magnitudes are rounded beyond the range**: those from half a unit below the limit on.
The one in the middle goes to the limit, whose significand is even. -/
theorem limit_le_nearest_iff {q : Rat} (hq : 0 ≤ q) :
    double.limit ≤ double.nearest q ↔ twoPow 1024 - twoPow 970 ≤ q := by
  have hlimit : double.limit = 2 ^ 53 * twoPow 971 := twoPow_add 53 971
  have htop : twoPow 1024 = 2 ^ 54 * twoPow 970 := twoPow_add 54 970
  have hunit : twoPow 971 = 2 * twoPow 970 := twoPow_succ 970
  have hhalf : twoPow 1023 = 2 ^ 53 * twoPow 970 := twoPow_add 53 970
  have hpos : 0 < twoPow 970 := twoPow_pos 970
  -- in the last binade below the limit the unit is known, and the limit is 2 ^ 53 units
  have hlast (hlow : twoPow 1023 ≤ q) (hhigh : q < twoPow 1024) :
      double.nearest q = nearestInt (q / twoPow 971) * twoPow 971 :=
    nearest_eq (by decide) hlow hhigh
  constructor
  · contrapose!
    intro hlt
    rcases hq.eq_or_lt with rfl | hq
    · rw [nearest_zero, hlimit]
      linarith
    · by_cases hlow : twoPow 1023 ≤ q
      · rw [hlast hlow (by linarith), hlimit]
        have hle : nearestInt (q / twoPow 971) ≤ 2 ^ 53 - 1 := by
          apply nearestInt_le
          rw [div_lt_iff₀ (twoPow_pos 971)]
          push_cast
          linarith
        have hcast : (nearestInt (q / twoPow 971) : Rat) ≤ 2 ^ 53 - 1 := by exact_mod_cast hle
        nlinarith [twoPow_pos 971]
      · have hunits : double.unitExponent q ≤ 970 :=
          unitExponent_le hq (not_le.mp hlow)
        have hsmall : twoPow (double.unitExponent q) ≤ twoPow 970 :=
          twoPow_le_twoPow_iff.mpr hunits
        have hnear := (nearest_near (f := double) hq).1
        linarith
  · intro hle
    have hq : 0 < q := by linarith
    by_cases hhigh : q < twoPow 1024
    · rw [hlast (by linarith) hhigh, hlimit]
      have hge : 2 ^ 53 ≤ nearestInt (q / twoPow 971) := by
        have htie : nearestInt (((2 ^ 53 - 1 : Int) : Rat) + 1 / 2) = 2 ^ 53 :=
          nearestInt_add_half (2 ^ 53 - 1)
        rw [← htie]
        apply nearestInt_mono
        rw [le_div_iff₀ (twoPow_pos 971)]
        push_cast
        linarith
      have hcast : (2 ^ 53 : Rat) ≤ nearestInt (q / twoPow 971) := by exact_mod_cast hge
      exact mul_le_mul_of_nonneg_right hcast (twoPow_pos 971).le
    · exact twoPow_le_nearest (by decide) (by decide) (not_lt.mp hhigh)

end BinaryFormat

namespace Double

open BinaryFormat

theorem ofMagnitude_of_le {q : Rat} (s : Bool) (h : twoPow 1024 - twoPow 970 ≤ q) :
    ofMagnitude .double s q = .infinite s := by
  have hq : 0 ≤ q := by
    have hle : twoPow 970 ≤ twoPow 1024 := twoPow_le_twoPow_iff.mpr (by decide)
    linarith
  unfold ofMagnitude
  exact if_pos ((limit_le_nearest_iff hq).mpr h)

theorem ofMagnitude_of_lt {q : Rat} (s : Bool) (hq : 0 ≤ q)
    (h : q < twoPow 1024 - twoPow 970) :
    ofMagnitude .double s q = .finite s (BinaryFormat.double.nearest q) := by
  unfold ofMagnitude
  exact if_neg fun hlimit => absurd ((limit_le_nearest_iff hq).mp hlimit) (not_le.mpr h)

theorem ofMagnitude_of_lt_twoPow {q : Rat} {k : Int} (s : Bool) (hq : 0 ≤ q) (hk : k ≤ 1023)
    (h : q < twoPow k) : ofMagnitude .double s q = .finite s (BinaryFormat.double.nearest q) := by
  have htop : twoPow 1024 = 2 * twoPow 1023 := twoPow_succ 1023
  have hpow : twoPow k ≤ twoPow 1023 := twoPow_le_twoPow_iff.mpr hk
  have hlast : twoPow 970 ≤ twoPow 1023 := twoPow_le_twoPow_iff.mpr (by decide)
  exact ofMagnitude_of_lt s hq (by linarith)

/-! ## Whole numbers and their shares -/

section Whole

variable {n : Nat}

/-- **A number of the grid is taken over as it is**: up to `2 ^ 53` times a spacing of the format,
if that is at most one. -/
theorem ofMagnitude_mul_twoPow (s : Bool) {e : Int} (hlow : -1074 ≤ e) (hhigh : e ≤ 0)
    (hn : n ≤ 2 ^ 53) : ofMagnitude .double s (n * twoPow e) = .finite s (n * twoPow e) := by
  have hpos := twoPow_pos e
  have hround : BinaryFormat.double.nearest (n * twoPow e) = n * twoPow e :=
    nearest_mul_twoPow (by decide) hlow hn
  have hlt : (n : Rat) * twoPow e < twoPow 54 := by
    have hone : twoPow e ≤ 1 := twoPow_le_twoPow_iff.mpr hhigh
    have hcast : (n : Rat) ≤ 2 ^ 53 := by exact_mod_cast hn
    calc (n : Rat) * twoPow e ≤ 2 ^ 53 * 1 := mul_le_mul hcast hone hpos.le (by positivity)
      _ < twoPow 54 := by
        rw [show twoPow 54 = 2 ^ 54 from rfl]
        norm_num
  rw [ofMagnitude_of_lt_twoPow s (by positivity) (by decide) hlt, hround]

/-- **Whole numbers up to `2 ^ 53` are floating-point numbers.** -/
theorem ofInt?_natCast (hn : n ≤ 2 ^ 53) : ofInt? n = some (.finite false n) := by
  have habs : ((n : Int) : Rat).abs = (n : Rat) * twoPow 0 := by
    rw [Int.cast_natCast, Rat.abs_of_nonneg (Nat.cast_nonneg n)]
    exact (mul_one _).symm
  have hsign : decide (((n : Int) : Rat) < 0) = false :=
    decide_eq_false (not_lt.mpr (Int.cast_nonneg (Int.natCast_nonneg n)))
  unfold ofInt? ofRat
  rw [habs, hsign, ofMagnitude_mul_twoPow false (by decide) le_rfl hn]
  exact congrArg (fun q => some (finite false q)) (mul_one _)

/-- **The share of a whole number by a power of two is exact**, and its integer part is the
quotient, rounded down. -/
theorem integerPart?_mul_share {k : Nat} (hk : k ≤ 1074) (hn : n ≤ 2 ^ 53) :
    ((finite false (n : Rat)).mul (.finite false (1 / 2 ^ k))).integerPart? =
      some (n / 2 ^ k : Nat) := by
  have hshare : (1 / 2 ^ k : Rat) = twoPow (-k) := by
    rw [twoPow, zpow_neg, zpow_natCast, one_div]
  have hproduct : (finite false (n : Rat)).mul (.finite false (1 / 2 ^ k)) =
      .finite false ((n : Rat) / 2 ^ k) := by
    show ofMagnitude .double _ (n * (1 / 2 ^ k)) = _
    rw [hshare, ofMagnitude_mul_twoPow _ (by omega) (by omega) hn, ← hshare, mul_one_div]
    rfl
  have hfloor : ((n : Rat) / 2 ^ k).floor = (n / 2 ^ k : Nat) := by
    have hpow : (0 : Rat) < 2 ^ k := by positivity
    have hlow : n / 2 ^ k * 2 ^ k ≤ n := Nat.div_mul_le_self n (2 ^ k)
    have hhigh : n < (n / 2 ^ k + 1) * 2 ^ k :=
      (Nat.div_lt_iff_lt_mul (Nat.two_pow_pos k)).mp (Nat.lt_succ_self _)
    rw [floor_eq_iff, le_div_iff₀ hpow, div_lt_iff₀ hpow]
    exact ⟨by exact_mod_cast hlow, by exact_mod_cast hhigh⟩
  rw [hproduct]
  exact congrArg some hfloor

end Whole

end Double

end Keyspan
