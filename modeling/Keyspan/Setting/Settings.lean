import Keyspan.OrderedMap
import Keyspan.Setting.Declaration

/-!
# Setting maps

A setting map holds raw values by key, in the order in which the keys first arrived. Reading a
setting converts the raw value to the declared kind; a key that is missing, or whose value is
absent, reads as the default. Writing a setting stores the **text** of the value, so that what is
read back has gone through writing and reading.

Result: `read_of_lookup_none` is the default rule; what storing does to a map is said by the laws of
`OrderedMap`.
-/

namespace Keyspan.Setting

/-- A map from keys to raw values (`Options`). -/
abbrev Settings := OrderedMap String Value

namespace Settings

/-- Whether a setting has a raw value, absent ones included (`contains`). -/
def contains (s : Settings) (d : Declaration) : Bool := (s.lookup d.key).isSome

/-- The default of a reading: the one given, or the declared one if none is given. -/
def fallbackOf (d : Declaration) (given : Value) : Value :=
  if given.kind = .missing then d.fallback else given

/-- **Read a setting (`get`).** -/
def read (s : Settings) (d : Declaration) (given : Value) : Except Failure Value :=
  match s.lookup d.key with
  | none => .ok (fallbackOf d given)
  | some raw => if raw.kind = .missing then .ok (fallbackOf d given) else raw.convert d.kind

/-- **Write a setting** (`set`): its text is stored. -/
def write (s : Settings) (d : Declaration) (v : Value) : Except Failure Settings :=
  v.toText.map fun t => s.put d.key (.text t)

theorem read_of_lookup_none {s : Settings} {d : Declaration} (h : s.lookup d.key = none)
    (given : Value) : s.read d given = .ok (fallbackOf d given) := by
  simp [read, h]

end Settings

end Keyspan.Setting
