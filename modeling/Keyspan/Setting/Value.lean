import Keyspan.Duration.Notation

/-!
# Setting values

The values a setting map can hold. The value *is* dynamic: a map is filled by callers, and what a
setting reads is decided when it is read. `Value.shown` is the text of a value in a message and
`Value.quoted` its text inside a list or record, where texts stand between quotes and durations are
told by their parts.

* `Value.integer?`: the integer a value stands for; a flag stands for one or zero.
* `Value.same`: equality by value, across kinds: the flag *true*, the integer 1 and the number
  1.0 are the same, and what is no number is not even the same as itself.
-/

namespace Keyspan.Setting

/-- A setting value. -/
inductive Value where
  | missing
  | flag (value : Bool)
  | integer (value : Int)
  | real (value : Double)
  | text (value : String)
  | duration (value : Duration)
  | bytes (value : List UInt8)
  | list (items : List Value)
  | record (fields : List (String × Value))

namespace Value

def kind : Value → Kind
  | missing => .missing
  | flag _ => .flag
  | integer _ => .integer
  | real _ => .real
  | text _ => .text
  | duration _ => .duration
  | bytes _ => .bytes
  | list _ => .list
  | record _ => .record

/-- The integer a value stands for. A flag stands for one or zero. -/
def integer? : Value → Option Int
  | flag b => some (if b then 1 else 0)
  | integer n => some n
  | _ => none

/-- The word for a flag inside a list or in a message. -/
def flagWord (b : Bool) : String := if b then "True" else "False"

mutual

/-- The text of a value inside a list or a record. -/
def quoted : Value → Except Failure String
  | missing => .ok "None"
  | flag b => .ok (flagWord b)
  | integer n => integerText n
  | real x => .ok x.text
  | text s => .ok (Text.quoted s)
  | duration d => .ok d.parts
  | bytes b => .ok (Text.quotedBytes b)
  | list items => (quotedItems items).map Text.bracketed
  | record fields => (quotedFields fields).map fun shown =>
      "\x7b" ++ ", ".intercalate shown ++ "\x7d"

def quotedItems : List Value → Except Failure (List String)
  | [] => .ok []
  | v :: rest => do
    let s ← quoted v
    let shown ← quotedItems rest
    return s :: shown

def quotedFields : List (String × Value) → Except Failure (List String)
  | [] => .ok []
  | (name, v) :: rest => do
    let s ← quoted v
    let shown ← quotedFields rest
    return (Text.quoted name ++ ": " ++ s) :: shown

end

/-- **The text of a value in a message**: a text stands for itself, a duration is told as days and
time of day, and all else is quoted. -/
def shown : Value → Except Failure String
  | text s => .ok s
  | duration d => .ok d.clock
  | v => quoted v

/-- Equality by value with an integer. -/
def isInteger : Value → Int → Bool
  | real x, n => x.eqInt n
  | flag b, n => (if b then 1 else 0) == n
  | integer m, n => m == n
  | _, _ => false

mutual

/-- **Equality by value, across kinds.** Records are compared field by field, in any order. -/
def same : Value → Value → Bool
  | missing, missing => true
  | flag a, v => v.isInteger (if a then 1 else 0)
  | integer n, v => v.isInteger n
  | real x, real y => x.numEq y
  | real x, v => match v.integer? with
    | some n => x.eqInt n
    | none => false
  | text s, text t => s == t
  | duration d, duration e => d == e
  | bytes b, bytes c => b == c
  | list items, list others => sameItems items others
  | record fields, record others =>
    fields.length == others.length && sameFields fields others
  | _, _ => false

def sameItems : List Value → List Value → Bool
  | [], [] => true
  | v :: rest, w :: others => same v w && sameItems rest others
  | _, _ => false

def sameFields : List (String × Value) → List (String × Value) → Bool
  | [], _ => true
  | (name, v) :: rest, others =>
    (match others.lookup name with
      | some w => same v w
      | none => false) && sameFields rest others

end

end Value

end Keyspan.Setting
