import Keyspan.Sample.Library
import Mathlib.Data.List.Basic
import Mathlib.Logic.Function.Basic

/-!
# What is assumed of a library of tables

The tables of a library hold rows, and a row has a cell in each column of its table. A column, a
mask and a batch hold parts of that. `Library.View` says what they hold, and `Library.Lawful` what
the operations of the library make of it: sorting is stable and by unsigned bytes, comparisons are
by unsigned bytes, and filtering keeps the rows where the mask is true.

Columns are told by name, so the laws are about tables in which no two columns have one name. How a
table is cut into batches is left open: all that is assumed is that the batches hold its rows one
after another.
-/

namespace Keyspan.Sample

/-- What reading a cell gives: its value, nothing if it is missing, or the failure to read it. -/
abbrev Reading := Except Failure (Option Value)

/-- What the cells of a row give, by the names of their columns. -/
abbrev Cells := String → Reading

/-- A cell with a string of bytes. -/
def byteCell (b : Bytes) : Reading := .ok (some (.bytes b))

/-- A cell with a text. -/
def textCell (s : String) : Reading := .ok (some (.text s))

/-- A text as a row key: its bytes in UTF-8. -/
def utf8 (s : String) : Bytes := s.toUTF8.toList

/-- The key in a cell. -/
def Reading.key : Reading → Bytes
  | .ok (some (.bytes b)) => b
  | _ => []

/-- The greatest number of rows that a table can be cut to. -/
def maxSlice : Nat := 9223372036854775807

/-- Another entry under the first one of a name leaves the names and the entries of other names. -/
theorem set_idxOf {α : Type} {fields : List (String × α)} {name : String}
    (h : name ∈ fields.map Prod.fst) (a : α) :
    let changed := fields.set ((fields.map Prod.fst).idxOf name) (name, a)
    changed.map Prod.fst = fields.map Prod.fst ∧ (name, a) ∈ changed ∧
      (changed.filter fun field => field.1 != name) =
        fields.filter fun field => field.1 != name := by
  induction fields with
  | nil => exact absurd h List.not_mem_nil
  | cons field rest ih =>
    obtain ⟨other, b⟩ := field
    by_cases hname : other = name
    · subst hname
      simp
    · obtain ⟨hnames, hmem, hfilter⟩ := ih ((List.mem_cons.mp h).resolve_left (Ne.symm hname))
      rw [List.map_cons, List.idxOf_cons_ne _ hname, List.set_cons_succ]
      refine ⟨?_, List.mem_cons_of_mem _ hmem, ?_⟩
      · rw [List.map_cons, hnames]
      · rw [List.filter_cons, List.filter_cons, hfilter]

namespace Library

/-- **What the values of a library hold.** -/
structure View (L : Library) where
  rows : L.Table → List Cells
  cells : L.Column → List Reading
  flags : L.Mask → List Bool
  batch : L.Batch → List Cells

/-- A table has a column of a name and a type, and no two columns of one name. -/
structure Has (L : Library) (t : L.Table) (name : String) (type : L.DataType) : Prop where
  distinct : (L.names t).Nodup
  mem : (name, type) ∈ L.fields t

/-- **What sampling relies on.** -/
structure Lawful (L : Library) (V : L.View) : Prop where
  typeOf {t name type} (h : L.Has t name type) : L.typeOf t name = .ok type
  column {t name type} (h : L.Has t name type) : ∃ c, L.column t name = .ok c ∧
    L.columnType c = type ∧ V.cells c = (V.rows t).map fun row => row name
  /-- A text is its bytes in UTF-8. -/
  toBytes {c} {texts : List String} (htype : L.isText (L.columnType c) = true)
    (hcells : V.cells c = texts.map textCell) : ∃ c', L.toBytes c = .ok c' ∧
      L.isBytes (L.columnType c') = true ∧ V.cells c' = (texts.map utf8).map byteCell
  /-- The cells of one column are replaced, and those of the others stay. -/
  setColumn {t name type c} (h : L.Has t name type) (hc : (V.cells c).length = (V.rows t).length) :
    ∃ t', L.setColumn t ((L.names t).idxOf name) name c = .ok t' ∧
      L.fields t' = (L.fields t).set ((L.names t).idxOf name) (name, L.columnType c) ∧
      V.rows t' = List.zipWith (fun row cell => Function.update row name cell) (V.rows t)
        (V.cells c)
  /-- Sorting is stable. A name that starts with a point is not that of a column. -/
  sortBy {t name type} {keys : List Bytes} (h : L.Has t name type)
    (htype : L.isBytes type = true) (hname : name.toList.head? ≠ some '.')
    (hkeys : ((V.rows t).map fun row => row name) = keys.map byteCell) :
    ∃ t', L.sortBy t name = .ok t' ∧ L.fields t' = L.fields t ∧
      V.rows t' = (V.rows t).mergeSort fun a b => Bytes.le (a name).key (b name).key
  atLeast {c} {keys : List Bytes} (hc : V.cells c = keys.map byteCell) (bound : Bytes) :
    V.flags (L.atLeast c bound) = keys.map fun key => Bytes.le bound key
  below {c} {keys : List Bytes} (hc : V.cells c = keys.map byteCell) (bound : Bytes) :
    V.flags (L.below c bound) = keys.map fun key => Bytes.lt key bound
  both {m m'} (h : (V.flags m).length = (V.flags m').length) :
    V.flags (L.both m m') = List.zipWith (· && ·) (V.flags m) (V.flags m')
  /-- Filtering keeps the rows where the mask is true. -/
  filter {t m} (h : (V.flags m).length = (V.rows t).length) :
    L.fields (L.filter t m) = L.fields t ∧
      V.rows (L.filter t m) = (((V.rows t).zip (V.flags m)).filter Prod.snd).map Prod.fst
  slice (t) {count : Nat} (h : count ≤ maxSlice) : ∃ t', L.slice t count = .ok t' ∧
    L.fields t' = L.fields t ∧ V.rows t' = (V.rows t).take count
  slice_of_many (t) {count : Nat} (h : maxSlice < count) :
    L.slice t count = .error .sliceTooLarge
  /-- The batches of a table hold its rows, one after another. -/
  batches (t) : (L.batches t).flatMap V.batch = V.rows t
  keys {t name type b} {keys : List Bytes} (h : L.Has t name type) (hb : b ∈ L.batches t)
    (hkeys : ((V.batch b).map fun row => row name) = keys.map byteCell) :
    L.keys b name = .ok (keys.map some)
  /-- The cells of a column are read one after another. -/
  read {t name type b} (h : L.Has t name type) (hb : b ∈ L.batches t) :
    L.read b name = (V.batch b).mapM fun row => row name

end Library

end Keyspan.Sample
