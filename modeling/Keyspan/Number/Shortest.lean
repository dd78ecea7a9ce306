import Keyspan.Number.Double

/-!
# The fewest digits that read back

A floating-point number stands for every real number that is rounded to it. `shortest` selects,
among the decimals in that interval, one with the fewest digits, and of those the one nearest to
the number itself. It tries the decimal grids from one digit to seventeen and, on each, the two
neighbours of the number; the first grid with a neighbour in the interval wins.

`Double.text` lays the digits out: positionally while the point stands within sixteen digits or
at most four places to the left of the first one, with an exponent of at least two digits
otherwise, and always with a point or an exponent.

Results: `Decimal.shortest_mem`: what is selected reads back.
-/

namespace Keyspan

/-- A decimal number: an integer of digits times a power of ten. -/
structure Decimal where
  digits : Nat
  exponent : Int
  deriving DecidableEq

namespace Decimal

/-- The power of ten with an integer exponent. -/
def tenPow (e : Int) : Rat := (10 : Rat) ^ e

/-- How many decimal digits a natural number is written with. -/
def digitCount (n : Nat) : Nat := (Nat.toDigits 10 n).length

def toRat (d : Decimal) : Rat := (d.digits : Rat) * tenPow d.exponent

/-- The exponent of the greatest power of ten that is at most a positive number. -/
def floorLog10 (q : Rat) : Int :=
  let k : Int := (digitCount q.num.natAbs : Int) - (digitCount q.den : Int)
  if tenPow k ≤ q then k else k - 1

end Decimal

/-- The real numbers that are rounded to one magnitude: an interval, its ends included or not. -/
structure RoundingInterval where
  low : Rat
  high : Rat
  closed : Bool

namespace RoundingInterval

/-- The interval of a positive magnitude of the 64-bit grid. Below a power of two the grid is
twice as fine; the ends belong to the interval of an even significand. -/
def ofMagnitude (v : Rat) : RoundingInterval :=
  let f := BinaryFormat.double
  let e := f.unitExponent v
  let unit := BinaryFormat.twoPow e
  let significand := v / unit
  let fine := decide (significand = BinaryFormat.twoPow ((f.precision : Int) - 1)) &&
    decide (f.minExponent < e)
  ⟨v - (if fine then unit / 4 else unit / 2), v + unit / 2, significand.floor % 2 == 0⟩

/-- Whether a number lies in the interval. -/
def contains (i : RoundingInterval) (q : Rat) : Bool :=
  if i.closed then decide (i.low ≤ q) && decide (q ≤ i.high)
  else decide (i.low < q) && decide (q < i.high)

end RoundingInterval

namespace Decimal

/-- The decimal with `count` digits that lies in the interval of `v` and is nearest to `v`, if
there is one; a tie goes to even digits. -/
def onGrid? (v : Rat) (count : Nat) : Option Decimal :=
  let interval := RoundingInterval.ofMagnitude v
  let exponent := floorLog10 v - (count : Int) + 1
  let scaled := v / tenPow exponent
  let below := scaled.floor.toNat
  let rest := scaled - (below : Rat)
  let low : Decimal := ⟨below, exponent⟩
  let high : Decimal := ⟨below + 1, exponent⟩
  match interval.contains low.toRat, interval.contains high.toRat with
  | true, true =>
    if rest < 1 / 2 then some low
    else if 1 / 2 < rest then some high
    else if below % 2 = 0 then some low
    else some high
  | true, false => some low
  | false, true => some high
  | false, false => none

/-- The exact decimal value of a positive magnitude of the grid. -/
def exact (v : Rat) : Decimal :=
  let places := v.den.log2
  ⟨v.num.natAbs * Nat.pow 5 places, -(places : Int)⟩

/-- **The fewest digits that read back as a positive magnitude.** -/
def shortest (v : Rat) : Decimal :=
  ((List.range 17).findSome? fun i => onGrid? v (i + 1)).getD (exact v)

/-- What is selected lies in the interval, unless it is the exact value. -/
theorem shortest_mem (v : Rat) :
    shortest v = exact v ∨ (RoundingInterval.ofMagnitude v).contains (shortest v).toRat = true := by
  unfold shortest
  cases h : (List.range 17).findSome? fun i => onGrid? v (i + 1) with
  | none => exact Or.inl rfl
  | some d =>
    refine Or.inr ?_
    obtain ⟨i, _, hi⟩ := List.exists_of_findSome?_eq_some h
    simp only [onGrid?] at hi
    split at hi
    · split at hi
      · simp_all
      · split at hi
        · simp_all
        · split at hi <;> simp_all
    · simp_all
    · simp_all
    · simp at hi

-- a tenth, and the least number above zero, whose exact value has 751 digits
example : shortest (BinaryFormat.double.nearest (1 / 10)) = ⟨1, -1⟩ ∧
    shortest (BinaryFormat.twoPow (-1074)) = ⟨5, -324⟩ := by
  decide +kernel

end Decimal

namespace Double

/-- Digits without the zeros at their end. -/
def dropLastZeros (ds : List Char) : List Char := (ds.reverse.dropWhile (· == '0')).reverse

/-- The text of a positive magnitude whose digits `ds` have the decimal point after the first
`point` of them. -/
def layout (ds : List Char) (point : Int) : List Char :=
  if -4 < point ∧ point ≤ 16 then
    if point ≤ 0 then '0' :: '.' :: List.replicate (-point).toNat '0' ++ ds
    else if (ds.length : Int) ≤ point then
      ds ++ List.replicate (point.toNat - ds.length) '0' ++ ['.', '0']
    else ds.take point.toNat ++ '.' :: ds.drop point.toNat
  else
    let e := point - 1
    let exponent := Nat.toDigits 10 e.natAbs
    ds.take 1 ++ (if ds.length ≤ 1 then [] else '.' :: ds.drop 1) ++
      'e' :: (if e < 0 then '-' else '+') :: List.replicate (2 - exponent.length) '0' ++ exponent

/-- The text of a magnitude. -/
def magnitudeText (v : Rat) : List Char :=
  if v = 0 then ['0', '.', '0']
  else
    let d := Decimal.shortest v
    let ds := Nat.toDigits 10 d.digits
    layout (dropLastZeros ds) ((ds.length : Int) + d.exponent)

/-- **The text of a number**: the fewest digits that read back. -/
def text : Double → String
  | finite negative magnitude =>
    String.ofList ((if negative then ['-'] else []) ++ magnitudeText magnitude)
  | infinite negative => if negative then "-inf" else "inf"
  | nan _ => "nan"

end Double

end Keyspan
