import Keyspan.Number.Literal
import Keyspan.Text.Blank

/-!
# Decimals of a fixed scale

A decimal numeral is a sign and digits with an optional point and exponent. Blanks around it and
low lines in it are not part of it. At a scale, a number has as many digits behind the point as
the scale says; a negative scale drops digits in front of it.

* `readNumeral?`, `wholeNumber?`: a numeral read, and the whole number in it.
* `checkNumeral`: a text that has to be a numeral.
* `unscaled?`: a numeral at a scale, as the whole number of its last places.
* `scaledText`: a numeral at a scale, written.
-/

namespace Keyspan

/-- The whole part of a decimal: what stands in front of the point. -/
def Decimal.wholePart (d : Decimal) : Nat :=
  if 0 ≤ d.exponent then d.digits * Nat.pow 10 d.exponent.toNat
  else d.digits / Nat.pow 10 d.exponent.natAbs

/-- The number moved to the left by as many places as the scale says. -/
def Decimal.shift (d : Decimal) (scale : Int) : Decimal := ⟨d.digits, d.exponent + scale⟩

/-- A numeral, read: whether it has a minus, and the number behind the sign. -/
def readNumeral? (numeral : String) : Option (Bool × Decimal) :=
  let (negative, body) := splitSign ((Text.trim numeral.toList).filter fun c => c != '_')
  (readDecimal? body).map fun d => (negative, d)

/-- A text, if it is a decimal numeral. -/
def checkNumeral (text : String) : Except Failure String :=
  if (readNumeral? text).isSome then .ok text else .error (.notADecimal text)

/-- A numeral at a scale, as a number of units in its last place. -/
def unscaled? (scale : Int) (numeral : String) : Option Int :=
  (readNumeral? numeral).map fun (negative, d) => signed negative (d.shift scale).wholePart

/-- The whole number in a numeral, towards zero. -/
def wholeNumber? (numeral : String) : Option Int := unscaled? 0 numeral

/-- The greatest scale, above or below zero, at which a number is written. -/
def maxScale : Nat := 38

/-- A decimal of the given sign and digits, the last of them at the given exponent. It is written
positionally if the exponent is not above zero and the first digit not too far behind the point,
and else with an exponent of its own. -/
def decimalText (negative : Bool) (digits : List Char) (exponent : Int) : String :=
  let point := exponent + (digits.length : Int)
  let magnitude :=
    if exponent ≤ 0 ∧ -6 < point then
      if point ≤ 0 then
        '0' :: '.' :: List.replicate (-point).toNat '0' ++ digits
      else if exponent = 0 then digits
      else digits.take point.toNat ++ '.' :: digits.drop point.toNat
    else
      let e := point - 1
      digits.take 1 ++ (if digits.length ≤ 1 then [] else '.' :: digits.drop 1) ++
        'E' :: (if e < 0 then '-' else '+') :: Nat.toDigits 10 e.natAbs
  String.ofList ((if negative then ['-'] else []) ++ magnitude)

/-- **A numeral at a scale**, unless the scale is beyond those that are written. Zero has no
sign. -/
def scaledText (scale : Int) (numeral : String) : Except Failure String :=
  if maxScale < scale.natAbs then .error (.scaleUnwritable scale)
  else
    match unscaled? scale numeral with
    | some n => .ok (decimalText (decide (n < 0)) (Nat.toDigits 10 n.natAbs) (-scale))
    | none => .ok numeral

end Keyspan
