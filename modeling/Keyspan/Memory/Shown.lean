import Keyspan.Memory.Calendar
import Keyspan.Memory.Stored
import Keyspan.Sample.Library
import Keyspan.Setting.Value

/-!
# Cells as the values they are

`Cell.written` is a stored cell as the value that its column holds, written. A cell that cannot be
written, because it is a date outside of the calendar, an instant between two microseconds, a
decimal with too many places or a record with two fields of one name, cannot be read at all.
`Cell.value` is what reading a cell gives.
-/

namespace Keyspan.Memory

open Sample (Value)

/-- Numbers between parentheses, behind a name. -/
def calledText (name : String) (arguments : List Nat) : String :=
  name ++ "(" ++ ", ".intercalate (arguments.map fun n => toString n) ++ ")"

def dateText (d : CalendarDate) : String := calledText "datetime.date" [d.year, d.month, d.day]

def timeText (t : ClockTime) : String := calledText "datetime.time" t.parts

def instantText (i : Instant) : String :=
  calledText "datetime.datetime" ([i.date.year, i.date.month, i.date.day] ++ i.time.parts)

namespace ColumnType

/-- A whole number that a column of a type holds. -/
def wholeText (t : ColumnType) (n : Int) : Except Failure String :=
  match t with
  | date => (CalendarDate.ofDay n).map dateText
  | dateMillis => (CalendarDate.ofDay (CalendarDate.dayOfMillis n)).map dateText
  | timestamp step => (step.toMicros n >>= Instant.ofMicros).map instantText
  | timeOfDay step => (step.toMicros n >>= Instant.ofMicros).map fun i => timeText i.time
  | _ => .ok (toString n)

/-- A decimal that a column of a type holds. -/
def decimalText (t : ColumnType) (numeral : String) : Except Failure String :=
  (match t with
    | decimal _ scale => scaledText scale numeral
    | _ => .ok numeral).map fun text => "Decimal('" ++ text ++ "')"

end ColumnType

namespace Cell

mutual

/-- A stored cell of a column of the given type. -/
def written : Cell → ColumnType → Except Failure String
  | missing, _ => .ok "None"
  | flag b, _ => .ok (Setting.Value.flagWord b)
  | integer n, t => t.content.wholeText n
  | real x, _ => .ok x.text
  | text s, _ => .ok (Text.quoted s)
  | bytes b, _ => .ok (Text.quotedBytes b)
  | decimal numeral, t => t.content.decimalText numeral
  | list items, t => (writtenItems items t.content.item).map Text.bracketed
  | record fields, t =>
    if (fields.map Prod.fst).Nodup then
      (writtenFields fields t.content.fields).map fun shown =>
        "\x7b" ++ ", ".intercalate shown ++ "\x7d"
    else .error .repeatedField
  | map pairs, t => (writtenPairs pairs t.content.entry).map Text.bracketed

/-- The items of a list. -/
def writtenItems : List Cell → ColumnType → Except Failure (List String)
  | [], _ => .ok []
  | c :: rest, t => do
    let item ← written c t
    let others ← writtenItems rest t
    return item :: others

/-- The fields of a record. -/
def writtenFields :
    List (String × Cell) → List (String × ColumnType) → Except Failure (List String)
  | (name, c) :: rest, (_, t) :: types => do
    let value ← written c t
    let others ← writtenFields rest types
    return (Text.quoted name ++ ": " ++ value) :: others
  | _, _ => .ok []

/-- The pairs of a map. -/
def writtenPairs : List (Cell × Cell) → ColumnType × ColumnType → Except Failure (List String)
  | [], _ => .ok []
  | (k, v) :: rest, types => do
    let key ← written k types.1
    let value ← written v types.2
    let others ← writtenPairs rest types
    return ("(" ++ key ++ ", " ++ value ++ ")") :: others

end

/-- **A stored cell as it is read**, in a column of the given type. -/
def value (t : ColumnType) : Cell → Except Failure (Option Value)
  | missing => .ok none
  | c => (c.written t).map fun shown =>
    match t.isString, c with
    | true, text s => some (.text s)
    | true, bytes b => some (.bytes b)
    | _, _ => some (.other shown)

end Cell

end Keyspan.Memory
