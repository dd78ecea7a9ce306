/-!
# Units of time

The units a duration text may end in. Every unit has several labels and a length in whole
milliseconds; `TimeUnit.ofLabel?` finds the unit of a label. Labels of different units may start
alike (`m`, `ms`, `milli`, `min`), so a label is always compared as a whole. The units with their
labels are a table (`_UNIT_MILLIS`).

Results: `TimeUnit.ofLabel?_eq_some_iff`: a label is that of a unit iff it is on its list, which
says in particular that no label belongs to two units.
-/

namespace Keyspan

/-- The units of time, shortest first. -/
inductive TimeUnit where
  | millisecond
  | second
  | minute
  | hour
  | day
  deriving DecidableEq

namespace TimeUnit

/-- All units, shortest first. -/
def all : List TimeUnit := [millisecond, second, minute, hour, day]

/-- The labels of a unit, shortest first. -/
def labels : TimeUnit → List String
  | millisecond => ["ms", "milli", "millisecond", "milliseconds"]
  | second => ["s", "sec", "second", "seconds"]
  | minute => ["m", "min", "minute", "minutes"]
  | hour => ["h", "hour", "hours"]
  | day => ["d", "day", "days"]

/-- The length of a unit in milliseconds. -/
def millis : TimeUnit → Nat
  | millisecond => 1
  | second => 1000
  | minute => 60 * 1000
  | hour => 60 * 60 * 1000
  | day => 24 * 60 * 60 * 1000

/-- The unit that has the label, if there is one. -/
def ofLabel? (label : String) : Option TimeUnit := all.find? fun u => u.labels.contains label

/-- All labels as messages list them, those of one unit in parentheses. -/
def listing : String :=
  ", ".intercalate (all.map fun u => "(" ++ " | ".intercalate u.labels ++ ")")

/-- **No label belongs to two units.** -/
theorem labels_disjoint {u v : TimeUnit} {label : String} (hu : label ∈ u.labels)
    (hv : label ∈ v.labels) : u = v := by
  have h : ∀ u ∈ all, ∀ v ∈ all, ∀ l ∈ u.labels, l ∈ v.labels → u = v := by decide
  have mem : ∀ w : TimeUnit, w ∈ all := by intro w; cases w <;> decide
  exact h u (mem u) v (mem v) label hu hv

theorem ofLabel?_eq_some_iff {label : String} {u : TimeUnit} :
    ofLabel? label = some u ↔ label ∈ u.labels := by
  constructor
  · intro h
    simpa using List.find?_some h
  · intro h
    cases hf : ofLabel? label with
    | none =>
      have hn := List.find?_eq_none.1 hf u (by cases u <;> decide)
      exact absurd h (by simpa using hn)
    | some v =>
      have hv : label ∈ v.labels := by simpa using List.find?_some hf
      rw [labels_disjoint h hv]

end TimeUnit

end Keyspan
