import Keyspan.Failure
import Keyspan.Number.Shortest
import Keyspan.Text.Digit

/-!
# Reading and writing numbers

Number literals use the decimal digits of any script, and a single low line may stand between two
digits. `readInteger` reads a sign and digits; `readDouble` reads a sign, digits with an optional
point and exponent, or one of the words for an infinity and for no number. Blanks around a literal
are not part of it. Integers of more than `maxDigits` digits are neither read nor written.

* `digitRun`: the longest run of digits in front.
* `readInteger`, `readDouble`: a whole literal, or the failure that says why it is none.
* `Decimal.toDouble`: the floating-point number nearest to a decimal.
* `integerText`: an integer, written.

Results: `integerText_eq_ok_iff`: which integers are written.
-/

namespace Keyspan

/-- The most digits of an integer that is read or written. -/
def maxDigits : Nat := 4300

/-- The number that digits stand for, the first digit leading. -/
def digitsValue (ds : List Nat) : Nat := ds.foldl (fun n d => 10 * n + d) 0

/-- The longest run of digits in front of a text, single low lines between digits allowed, and
what follows it. `started` says whether a digit has been read. -/
def digitRunFrom : Bool → List Char → List Nat × List Char
  | _, [] => ([], [])
  | started, c :: rest =>
    match Text.decimalValue? c with
    | some d =>
      let run := digitRunFrom true rest
      (d :: run.1, run.2)
    | none =>
      if started && c == '_' then
        match rest with
        | [] => ([], c :: rest)
        | c' :: rest' =>
          match Text.decimalValue? c' with
          | some d =>
            let run := digitRunFrom true rest'
            (d :: run.1, run.2)
          | none => ([], c :: rest)
      else ([], c :: rest)

/-- **The digits in front of a text**, and what follows them. -/
def digitRun (s : List Char) : List Nat × List Char := digitRunFrom false s

/-- A sign in front of a text: whether it is a minus, and what follows it. -/
def splitSign : List Char → Bool × List Char
  | '-' :: rest => (true, rest)
  | '+' :: rest => (false, rest)
  | s => (false, s)

/-- An integer with the given sign. -/
def signed (negative : Bool) (n : Nat) : Int := if negative then -(n : Int) else n

/-- **A text read as an integer.** A literal that breaks off at a low line is malformed whatever
its length; after that the number of digits is checked, and last that nothing follows. -/
def readInteger (text : String) : Except Failure Int :=
  let (negative, body) := splitSign text.toList
  let (ds, rest) := digitRun body
  if ds = [] ∨ rest.head? = some '_' then .error (.notAnInteger text)
  else if maxDigits < ds.length then .error (.tooManyDigits ds.length)
  else if rest ≠ [] then .error (.notAnInteger text)
  else .ok (signed negative (digitsValue ds))

/-- Whether an integer has no more digits than are written. -/
def isWritable (n : Int) : Bool := decide (Decimal.digitCount n.natAbs ≤ maxDigits)

/-- An integer, written in decimal digits. -/
def integerText (n : Int) : Except Failure String :=
  if isWritable n then .ok (toString n) else .error .numeralTooLong

theorem integerText_eq_ok_iff {n : Int} {s : String} :
    integerText n = .ok s ↔ isWritable n = true ∧ toString n = s := by
  unfold integerText
  split <;> simp_all

/-- The floating-point number nearest to a decimal with a sign. Far out of range the answer is
known from the place of the first digit, and the power of ten is not formed. -/
def Decimal.toDouble (negative : Bool) (d : Decimal) : Double :=
  if d.digits = 0 then .finite negative 0
  else
    let top := (digitCount d.digits : Int) + d.exponent
    if 400 < top then .infinite negative
    else if top < -400 then .finite negative 0
    else .ofMagnitude .double negative d.toRat

/-- The exponent behind the digits of a number literal, zero if there is none; `none` if what
follows the digits is no exponent. -/
def readExponent? : List Char → Option Int
  | [] => some 0
  | c :: rest =>
    if c = 'e' ∨ c = 'E' then
      let (negative, body) := splitSign rest
      match digitRun body with
      | ([], _) => none
      | (ds, []) => some (signed negative (digitsValue ds))
      | _ => none
    else none

/-- A literal of digits with an optional point, read as a decimal. -/
def readDecimal? (s : List Char) : Option Decimal :=
  let (whole, rest) := digitRun s
  let (fraction, rest) :=
    match rest with
    | '.' :: rest => digitRun rest
    | rest => ([], rest)
  if whole = [] ∧ fraction = [] then none
  else
    (readExponent? rest).map fun e =>
      ⟨digitsValue (whole ++ fraction), e - (fraction.length : Int)⟩

/-- **A text read as a floating-point number.** -/
def readDouble (text : String) : Except Failure Double :=
  let (negative, body) := splitSign text.toList
  let word := String.ofList (body.map Char.toLower)
  if word = "inf" ∨ word = "infinity" then .ok (.infinite negative)
  else if word = "nan" then .ok (.nan negative)
  else
    match readDecimal? body with
    | some d => .ok (d.toDouble negative)
    | none => .error (.notANumber text)

end Keyspan
