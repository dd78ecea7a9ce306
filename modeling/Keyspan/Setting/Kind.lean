/-!
# Kinds of setting values

Settings are loosely typed: a setting declares the kind it is read as, and a caller may store a
value of another kind. `Kind` lists the kinds, with the label each has in messages
(`OptionsUtils`).
-/

namespace Keyspan.Setting

/-- The kinds of values a setting can hold. `missing` is the kind of the absent value alone. -/
inductive Kind where
  | missing
  | flag
  | integer
  | real
  | text
  | duration
  | bytes
  | list
  | record
  deriving DecidableEq

/-- The label of a kind in messages. -/
def Kind.label : Kind → String
  | .missing => "NoneType"
  | .flag => "bool"
  | .integer => "int"
  | .real => "float"
  | .text => "str"
  | .duration => "datetime.timedelta"
  | .bytes => "bytes"
  | .list => "list"
  | .record => "dict"

/-- A kind as messages name it: the label, marked as the name of a class of values. -/
def Kind.shown (k : Kind) : String := "<class '" ++ k.label ++ "'>"

/-- What a value was to be converted to, as messages name it. -/
def Kind.goal : Kind → String
  | .flag => "boolean"
  | .integer => "int"
  | .real => "float"
  | .duration => "timedelta"
  | k => k.label

/-- **Two kinds never share a label.** -/
theorem Kind.label_injective {a b : Kind} (h : a.label = b.label) : a = b := by
  cases a <;> cases b <;> first | rfl | exact absurd h (by decide)

end Keyspan.Setting
