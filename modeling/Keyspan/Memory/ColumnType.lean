import Keyspan.Failure

/-!
# Types of columns

A column type says how the cells of a column are stored. Types of fixed width have a number of
bits per cell; texts, strings of bytes and nested types have none. A dictionary stores each cell
as an index into its distinct values, so its width is that of the index, while what a cell *is*,
is decided by the type of the values: `ColumnType.content`.

* `ColumnType.bits?`: the bits of a cell, if they are fixed.
* `ColumnType.name`: a type in a message.
-/

namespace Keyspan.Memory

/-- The step of a clock. -/
inductive Resolution where
  | second
  | milli
  | micro
  | nano
  deriving DecidableEq

namespace Resolution

/-- The sign of a step. -/
def name : Resolution → String
  | second => "s"
  | milli => "ms"
  | micro => "us"
  | nano => "ns"

/-- **A number of steps in microseconds**, which have to be whole. -/
def toMicros : Resolution → Int → Except Failure Int
  | second, n => .ok (n * 1000000)
  | milli, n => .ok (n * 1000)
  | micro, n => .ok n
  | nano, n => if n % 1000 = 0 then .ok (n / 1000) else .error (.nanosecondsLost n)

end Resolution

/-- The types of columns. -/
inductive ColumnType where
  | null
  | flag
  | integer (signed : Bool) (bits : Nat)
  | single
  | double
  | text (large : Bool)
  | bytes (large : Bool)
  | fixedBytes (width : Nat)
  | decimal (precision : Nat) (scale : Int)
  /-- A date as a number of days. -/
  | date
  /-- A date as a number of milliseconds. -/
  | dateMillis
  | timestamp (step : Resolution)
  | timeOfDay (step : Resolution)
  | list (item : ColumnType)
  | record (fields : List (String × ColumnType))
  | map (key value : ColumnType)
  | dictionary (index values : ColumnType)

namespace ColumnType

/-- **The type of what a cell is**, which for a dictionary is that of its values. -/
def content : ColumnType → ColumnType
  | dictionary _ values => values.content
  | t => t

/-- **The bits of a cell**, if the type fixes them. -/
def bits? : ColumnType → Option Nat
  | null => some 0
  | flag => some 1
  | integer _ bits => some bits
  | single => some 32
  | double => some 64
  | fixedBytes width => some (width * 8)
  | decimal .. => some 128
  | date => some 32
  | dateMillis => some 64
  | timestamp _ => some 64
  | timeOfDay _ => some 32
  | dictionary index _ => index.bits?
  | _ => none

/-- Whether the cells of a type are texts or strings of bytes, as long as they are written. -/
def isString (t : ColumnType) : Bool :=
  match t.content with
  | text _ | bytes _ | fixedBytes _ => true
  | _ => false

mutual

/-- **A type in a message.** -/
def name : ColumnType → String
  | null => "null"
  | flag => "bool"
  | integer true bits => "int" ++ toString bits
  | integer false bits => "uint" ++ toString bits
  | single => "float"
  | double => "double"
  | text large => if large then "large_string" else "string"
  | bytes large => if large then "large_binary" else "binary"
  | fixedBytes width => "fixed_size_binary[" ++ toString width ++ "]"
  | decimal precision scale =>
    "decimal128(" ++ toString precision ++ ", " ++ toString scale ++ ")"
  | date => "date32[day]"
  | dateMillis => "date64[ms]"
  | timestamp step => "timestamp[" ++ step.name ++ "]"
  | timeOfDay step => "time32[" ++ step.name ++ "]"
  | list item => "list<item: " ++ item.name ++ ">"
  | record fields => "struct<" ++ ", ".intercalate (fieldNames fields) ++ ">"
  | map key value => "map<" ++ key.name ++ ", " ++ value.name ++ ">"
  | dictionary index values =>
    "dictionary<values=" ++ values.name ++ ", indices=" ++ index.name ++ ", ordered=0>"

/-- The fields of a record in a message. -/
def fieldNames : List (String × ColumnType) → List String
  | [] => []
  | (field, t) :: rest => (field ++ ": " ++ t.name) :: fieldNames rest

end

end ColumnType

end Keyspan.Memory
