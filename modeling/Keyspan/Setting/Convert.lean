import Keyspan.Setting.Value

/-!
# Conversion of setting values

Each kind that settings are read as has a converter of its own (`toFlag`, `toInteger`, `toReal`,
`toText`, `toDuration`); `Value.convert` is the general conversion to a kind given as data. The
general conversion leaves a value that already is of the kind as it is, and a flag counts as an
integer there, while the converter for integers refuses flags.

Results: `convert_of_isOf`: a value of the kind asked for comes back unchanged.
-/

namespace Keyspan.Setting.Value

/-- The words for true. -/
def trueWords : List String := ["true", "1", "yes", "on"]

def falseWords : List String := ["false", "0", "no", "off"]

/-- **As a flag (`convert_to_boolean`).** Texts are compared in lower case and without blanks around
them; a number is true unless it is zero, and what is no number is true. -/
def toFlag : Value → Except Failure Bool
  | flag b => .ok b
  | text s =>
    let word := String.ofList (Text.trim (Text.lower s.toList))
    if trueWords.contains word then .ok true
    else if falseWords.contains word then .ok false
    else .error (.notAFlag s)
  | integer n => .ok (n != 0)
  | real x => .ok (!x.isZero)
  | v => .error (.notConvertible v.kind .flag)

/-- A text without the blanks around it. -/
def trimmed (s : String) : String := String.ofList (Text.trim s.toList)

/-- **As an integer (`convert_to_int`).** A number loses its fraction; a flag is refused. -/
def toInteger : Value → Except Failure Int
  | integer n => .ok n
  | text s => readInteger (trimmed s)
  | real (.finite negative magnitude) =>
    .ok (((Double.finite negative magnitude).integerPart?).getD 0)
  | real (.infinite _) => .error .infiniteInteger
  | real (.nan _) => .error .undefinedInteger
  | v => .error (.notConvertible v.kind .integer)

/-- **As a number (`convert_to_double`).** A flag is refused, and so is an integer beyond the range
of numbers. -/
def toReal : Value → Except Failure Double
  | real x => .ok x
  | text s => readDouble (trimmed s)
  | integer n =>
    match Double.ofInt? n with
    | some x => .ok x
    | none => .error .integerTooLarge
  | v => .error (.notConvertible v.kind .real)

/-- **As a text (`convert_to_string`).** Every value has one, unless it holds an integer with too
many digits. -/
def toText : Value → Except Failure String
  | flag b => .ok (if b then "true" else "false")
  | duration d => .ok d.format
  | v => v.shown

/-- **As a duration (`convert_to_duration`).** An integer counts milliseconds; any other number is
refused. -/
def toDuration : Value → Except Failure Duration
  | duration d => .ok d
  | text s => Duration.parse s
  | integer n => Duration.ofMillis n
  | v => .error (.notConvertible v.kind .duration)

/-- Whether a value already is of a kind. A flag is also an integer. -/
def isOf (v : Value) (goal : Kind) : Bool :=
  v.kind == goal || (v.kind == .flag && goal == .integer)

/-- The converter of a kind, its result taken back as a value. -/
def convertBy (goal : Kind) (v : Value) : Except Failure Value :=
  match goal with
  | .flag => v.toFlag.map flag
  | .integer => v.toInteger.map integer
  | .real => v.toReal.map real
  | .text => v.toText.map text
  | .duration => v.toDuration.map duration
  | _ => .error (.unsupportedKind goal)

/-- **Conversion to a kind (`convert_value`).** -/
def convert (v : Value) (goal : Kind) : Except Failure Value :=
  if v.kind = .missing then .ok missing
  else if v.isOf goal then .ok v
  else convertBy goal v

/-- **A value of the kind asked for comes back unchanged.** -/
theorem convert_of_isOf {v : Value} {goal : Kind} (h : v.isOf goal = true) :
    v.convert goal = .ok v := by
  unfold convert
  split
  · rename_i hv
    cases v <;> simp_all [kind]
  · rfl

end Keyspan.Setting.Value
