/-!
# Binary floating-point numbers

A `Double` is a sign and a magnitude, and the magnitude is an exact rational number on the grid of
the 64-bit binary format. Every operation is the exact operation on rational numbers followed by
**one** rounding to the nearest number of the grid, a tie going to the even neighbour; so each law
of an operation is a law of the rationals and a law of `BinaryFormat.nearest`.

* `BinaryFormat`: the grid. `unitExponent` is the exponent of the spacing at a magnitude,
  `nearest` the rounding, `limit` the magnitude from which on numbers are infinite.
* `Double.ofMagnitude`: sign and rounding of an exact result, the one way results are built.
* `Double.ofInt?`, `quotient`, `divNat`, `add`, `mul`: the operations that estimates use.
* `Double.lt`, `Double.le`, `Double.numEq`: exact comparisons; nothing is below, above or equal
  to what is no number.
* `Double.integerPart?`, `Double.floor?`: the integer part, towards zero and downwards.

What is no number has a sign as well, which is neither written nor compared.
-/

namespace Keyspan

/-- A binary format: the bits of a significand, the exponent of the least spacing and the
exponent of the greatest. -/
structure BinaryFormat where
  precision : Nat
  minExponent : Int
  maxExponent : Int

namespace BinaryFormat

def double : BinaryFormat := ⟨53, -1074, 971⟩

def single : BinaryFormat := ⟨24, -149, 104⟩

/-- The power of two with an integer exponent. -/
def twoPow (e : Int) : Rat := (2 : Rat) ^ e

/-- The exponent of the greatest power of two that is at most a positive number. -/
def floorLog2 (q : Rat) : Int :=
  let k : Int := (q.num.natAbs.log2 : Int) - (q.den.log2 : Int)
  if twoPow k ≤ q then k else k - 1

/-- The exponent of the spacing of the format at a positive magnitude. -/
def unitExponent (f : BinaryFormat) (q : Rat) : Int :=
  max f.minExponent (floorLog2 q - ((f.precision : Int) - 1))

/-- The integer nearest to a number; a tie goes to the even neighbour. -/
def nearestInt (q : Rat) : Int :=
  let below := q.floor
  let rest := q - (below : Rat)
  if rest < 1 / 2 then below
  else if 1 / 2 < rest then below + 1
  else if below % 2 = 0 then below
  else below + 1

/-- **The number of the grid nearest to a magnitude**, without a bound above. -/
def nearest (f : BinaryFormat) (q : Rat) : Rat :=
  if q = 0 then 0
  else
    let unit := twoPow (f.unitExponent q)
    (nearestInt (q / unit) : Rat) * unit

/-- The magnitude from which on the format has no finite number. -/
def limit (f : BinaryFormat) : Rat := twoPow ((f.precision : Int) + f.maxExponent)

theorem nearest_zero (f : BinaryFormat) : f.nearest 0 = 0 := rfl

end BinaryFormat

/-- A floating-point number: a signed magnitude of the grid, an infinity, or no number at all. -/
inductive Double where
  | finite (negative : Bool) (magnitude : Rat)
  | infinite (negative : Bool)
  | nan (negative : Bool)
  deriving DecidableEq

namespace Double

/-- **An exact magnitude with its sign, rounded once.** -/
def ofMagnitude (f : BinaryFormat) (negative : Bool) (magnitude : Rat) : Double :=
  let rounded := f.nearest magnitude
  if f.limit ≤ rounded then infinite negative else finite negative rounded

/-- The exact value of a finite number. -/
def toRat? : Double → Option Rat
  | finite negative magnitude => some (if negative then -magnitude else magnitude)
  | _ => none

/-- An exact number, rounded. -/
def ofRat (q : Rat) : Double := ofMagnitude .double (decide (q < 0)) q.abs

/-- An integer, unless it is too large for the format. -/
def ofInt? (n : Int) : Option Double :=
  match ofRat (n : Rat) with
  | finite negative magnitude => some (finite negative magnitude)
  | _ => none

/-- The quotient of two integers, rounded once. The sign of a zero is the sign of the divisor. -/
def quotient (a b : Int) : Double :=
  ofMagnitude .double (decide (a < 0) ^^ decide (b < 0))
    ((a.natAbs : Rat) / (b.natAbs : Rat))

/-- The quotient by a positive whole number, rounded once. -/
def divNat : Double → Nat → Double
  | finite s a, n => ofMagnitude .double s (a / (n : Rat))
  | x, _ => x

/-- The product. An infinity times zero is no number. -/
def mul : Double → Double → Double
  | finite s a, finite t b => ofMagnitude .double (s ^^ t) (a * b)
  | finite s a, infinite t => if a = 0 then nan false else infinite (s ^^ t)
  | infinite s, finite t b => if b = 0 then nan false else infinite (s ^^ t)
  | infinite s, infinite t => infinite (s ^^ t)
  | _, _ => nan false

/-- The sum. Two zeros add up to the negative zero only when both are negative. -/
def add : Double → Double → Double
  | finite s a, finite t b =>
    let sum := (if s then -a else a) + (if t then -b else b)
    if sum = 0 then finite (s && t) 0 else ofRat sum
  | finite _ _, infinite t => infinite t
  | infinite s, finite _ _ => infinite s
  | infinite s, infinite t => if s = t then infinite s else nan false
  | _, _ => nan false

/-- Whether the first number is strictly below the second. -/
def lt : Double → Double → Bool
  | nan _, _ => false
  | _, nan _ => false
  | infinite s, infinite t => s && !t
  | infinite s, finite _ _ => s
  | finite _ _, infinite t => !t
  | finite s a, finite t b => decide ((if s then -a else a) < (if t then -b else b))

/-- Whether two numbers have one value; the two zeros do. -/
def numEq : Double → Double → Bool
  | finite s a, finite t b => decide ((if s then -a else a) = (if t then -b else b))
  | infinite s, infinite t => s == t
  | _, _ => false

/-- Whether the first number is at most the second. -/
def le (x y : Double) : Bool := lt x y || numEq x y

def isNan : Double → Bool
  | nan _ => true
  | _ => false

/-- Whether the number has the value of an integer. -/
def eqInt (x : Double) (n : Int) : Bool := decide (x.toRat? = some (n : Rat))

/-- Whether the number is one of the two zeros. -/
def isZero : Double → Bool
  | finite _ a => decide (a = 0)
  | _ => false

/-- The integer part of a finite number, towards zero. -/
def integerPart? : Double → Option Int
  | finite negative magnitude =>
    some (if negative then -magnitude.floor else magnitude.floor)
  | _ => none

/-- The greatest integer that is at most a finite number. -/
def floor? (x : Double) : Option Int := x.toRat?.map Rat.floor

/-- The number rounded to the 32-bit format and taken back. -/
def toSingle : Double → Double
  | finite negative magnitude => ofMagnitude .single negative magnitude
  | x => x

end Double

end Keyspan
