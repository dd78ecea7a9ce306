import Keyspan.Failure

/-!
# Table schemas and projections

A schema lists the columns of a table and names the column that holds its row keys. A projection
asks for some of them; asking for nothing in particular, or for the star, asks for all. A dot in a
projected column leads into the column in front of it, so a column is known by its *root*, the
part before the first dot.

Results:
* `validate_eq_ok_iff`: a projection is valid iff it asks for all columns or knows every root;
* `columnsOf_columnsOf`: what a projection asks for, asked for again, is the same.
-/

namespace Keyspan

/-- The columns asked for, if any are asked for in particular. -/
abbrev Projection := Option (List String)

namespace Projection

/-- The name that stands for all columns (`STAR_COLUMN`). -/
def star : String := "*"

/-- **Whether a projection asks for all columns (`is_star_query`).** -/
def isStar : Projection → Bool
  | none => true
  | some columns => columns.isEmpty || columns.contains star

/-- The columns that a projection asks for; the star alone if it asks for all. -/
def columnsOf (p : Projection) : List String := if p.isStar then [star] else p.getD []

/-- **Asking again for what was asked for** changes nothing. -/
theorem columnsOf_columnsOf (p : Projection) : columnsOf (some (columnsOf p)) = columnsOf p := by
  have columnsOf_star : columnsOf (some [star]) = [star] := rfl
  by_cases h : p.isStar = true
  · rw [show columnsOf p = [star] from if_pos h, columnsOf_star]
  · cases p with
    | none => exact absurd rfl h
    | some columns =>
      have hc : columnsOf (some columns) = columns := if_neg h
      rw [hc, hc]

end Projection

/-- The columns of a table, and the name of its row key (`TableSchema`). -/
structure Schema where
  table : String
  columns : List String
  rowKey : String
  deriving DecidableEq

namespace Schema

/-- Whether the table has a column (`has_column`); the row key always is one. -/
def has (s : Schema) (column : String) : Bool := column == s.rowKey || s.columns.contains column

/-- The part of a projected column before the first dot. -/
def root (column : String) : String := String.ofList (column.toList.takeWhile (· != '.'))

/-- The first root of some columns that the table does not have. -/
def unknownRoot? (s : Schema) (columns : List String) : Option String :=
  (columns.map root).find? fun r => !s.has r

/-- **Check a projection** (`validate_projection`): the first unknown root is reported. -/
def validate (s : Schema) (p : Projection) : Except Failure Unit :=
  if p.isStar then .ok ()
  else
    match s.unknownRoot? (p.getD []) with
    | some r => .error (.unknownColumn s.table r)
    | none => .ok ()

def shown (s : Schema) : String :=
  "TableSchema(table_name=" ++ Text.quoted s.table ++
    ", columns=" ++ Text.bracketed (s.columns.map Text.quoted) ++
    ", row_key=" ++ Text.quoted s.rowKey ++ ")"

theorem unknownRoot?_eq_none_iff (s : Schema) (columns : List String) :
    s.unknownRoot? columns = none ↔ ∀ c ∈ columns, s.has (root c) = true := by
  simp [unknownRoot?]

theorem has_iff (s : Schema) (column : String) :
    s.has column = true ↔ column = s.rowKey ∨ column ∈ s.columns := by
  simp [has]

/-- **An unknown root is the first one**: the roots in front of it are known. -/
theorem unknownRoot?_eq_some_iff (s : Schema) (columns : List String) (r : String) :
    s.unknownRoot? columns = some r ↔ s.has r = false ∧ ∃ known c rest,
      columns = known ++ c :: rest ∧ root c = r ∧ ∀ k ∈ known, s.has (root k) = true := by
  unfold unknownRoot?
  rw [List.find?_eq_some_iff_append]
  constructor
  · rintro ⟨hr, as, bs, hsplit, has⟩
    obtain ⟨known, tail, rfl, rfl, htail⟩ := List.map_eq_append_iff.mp hsplit
    obtain ⟨c, rest, rfl, hc, -⟩ := List.map_eq_cons_iff.mp htail
    refine ⟨by simpa using hr, known, c, rest, rfl, hc, fun k hk => ?_⟩
    simpa using has (root k) (List.mem_map_of_mem hk)
  · rintro ⟨hr, known, c, rest, rfl, rfl, hknown⟩
    refine ⟨by simpa using hr, known.map root, rest.map root, by simp, fun a ha => ?_⟩
    obtain ⟨k, hk, rfl⟩ := List.mem_map.mp ha
    simpa using hknown k hk

theorem validate_eq_ok_iff (s : Schema) (p : Projection) :
    s.validate p = .ok () ↔ p.isStar = true ∨ ∀ c ∈ p.getD [], s.has (root c) = true := by
  unfold validate
  rw [← unknownRoot?_eq_none_iff]
  by_cases h : p.isStar = true
  · simp [h]
  · rw [if_neg h]
    cases hu : s.unknownRoot? (p.getD []) with
    | none => simp
    | some r => simp [h]

end Schema

end Keyspan
