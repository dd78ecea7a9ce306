import Keyspan.Duration.Basic
import Keyspan.Number.Literal
import Keyspan.Text.Blank
import Keyspan.Text.Lower

/-!
# Duration texts

A duration is read from a number and a unit, such as `30 s` or `2min`; a number alone counts
milliseconds. Blanks around the text and between number and unit do not matter, nor does case.
`Duration.format` writes a duration in this notation, in seconds where they are whole and in
milliseconds otherwise; `Duration.clock` shows one as days and time of day for messages.

* `Duration.parse`: read. The digits are the longest run of digits in the wide sense, so that a
  circled number is taken for the number and then refused.
* `Duration.format`: write. The milliseconds are those of the length in seconds as a
  floating-point number, cut towards zero.
* `Duration.clock`: show, alone; `Duration.parts`: show, as an item of a list.
-/

namespace Keyspan.Duration

/-- Digits in front and a unit label behind them, blanks around the label dropped. -/
def splitNumber (s : List Char) : List Char × List Char :=
  (s.takeWhile Text.isDigit, Text.trim (s.dropWhile Text.isDigit))

/-- **Read a duration text (`parse_duration`).** -/
def parse (text : String) : Except Failure Duration := do
  let s := Text.lower (Text.trim text.toList)
  if s = [] then throw .durationBlank
  let (digits, label) := splitNumber s
  if digits = [] then throw .durationWithoutNumber
  let n ← readInteger (String.ofList digits)
  if label = [] then ofMillis n
  else
    match TimeUnit.ofLabel? (String.ofList label) with
    | some u => ofMillis (n * u.millis)
    | none => throw (.unknownUnit (String.ofList label))

/-- Read a duration text that may be absent. -/
def parse? : Option String → Except Failure Duration
  | none => .error .durationMissing
  | some text => parse text

/-- The whole milliseconds of a duration, by way of its length in seconds. -/
def wholeMillis (d : Duration) : Int :=
  ((d.seconds.mul (.ofRat 1000)).integerPart?).getD 0

/-- **Write a duration text (`format_duration`).** -/
def format (d : Duration) : String :=
  let millis := d.wholeMillis
  if millis % 1000 = 0 then toString (millis / 1000) ++ " s" else toString millis ++ " ms"

/-- A number in at least `width` digits, zeros in front. -/
def padded (width n : Nat) : String :=
  let digits := Nat.toDigits 10 n
  String.ofList (List.replicate (width - digits.length) '0' ++ digits)

/-- Days, hours, minutes and seconds, with the fraction in microseconds if there is one. The days
may be negative, the time of day never is. -/
def clock (d : Duration) : String :=
  let days := d.micros / microsPerDay
  let rest := (d.micros % microsPerDay).toNat
  let fraction := rest % 1000000
  let total := rest / 1000000
  let ofDays :=
    if days = 0 then ""
    else toString days ++ (if days.natAbs = 1 then " day, " else " days, ")
  ofDays ++ toString (total / 3600) ++ ":" ++ padded 2 (total / 60 % 60) ++ ":" ++
    padded 2 (total % 60) ++ (if fraction = 0 then "" else "." ++ padded 6 fraction)

/-- The parts of a duration that are not zero, by name. Only the days may be negative. -/
def parts (d : Duration) : String :=
  let rest := d.micros % microsPerDay
  let named := [("days", d.micros / microsPerDay), ("seconds", rest / 1000000),
    ("microseconds", rest % 1000000)].filter fun part => part.2 != 0
  let shown := named.map fun part => part.1 ++ "=" ++ toString part.2
  "datetime.timedelta(" ++ (if shown = [] then "0" else ", ".intercalate shown) ++ ")"

end Keyspan.Duration
