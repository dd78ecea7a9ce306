import Keyspan.Proofs.Sample.Laws
import Keyspan.Proofs.Sample.Order
import Mathlib.Data.List.Forall2

/-!
# Reading a table batch by batch

A table that holds rows of another one, told by their numbers, holds them in its batches one after
another. A batch whose cells can all be read hands out a sampled row for each of its rows. Any other
batch hands out nothing and fails as one of its cells does, and no batch behind it is read. So where
all cells can be read, the rows that are handed out do not depend on how the table is cut into
batches.

* `View.rowAt`, `View.valueAt`: the rows of a table by their numbers, and what can be read there.
* `View.sampled`, `View.Readable`: what a row is sampled as, and whether it can be read.
* `View.IsRow`, `View.Carries`: a table with some of the rows of another one.

Results:
* `Taken.join_ofRows`: takings without failures, one behind another.
* `cellSizes_eq`: the sizes of the cells of a row.
* `Carries.readBatch_cases`, `Carries.readBatches_cases`: what is read of one batch, and of all.
-/

namespace Keyspan.Sample

/-! ## Takings -/

namespace Cursor.Taken

theorem ofRows_andThen (rows : List Row) (b : Taken) :
    (ofRows rows).andThen b = ⟨rows ++ b.rows, b.failure⟩ := rfl

theorem broken_andThen (f : Failure) (b : Taken) : (broken f).andThen b = broken f := rfl

theorem join_cons (a : Taken) (rest : List Taken) : join (a :: rest) = a.andThen (join rest) := rfl

theorem join_ofRows {α : Type} (row : α → Row) (xs : List α) :
    join (xs.map fun x => ofRows [row x]) = ofRows (xs.map row) := by
  induction xs with
  | nil => rfl
  | cons x rest ih =>
    rw [List.map_cons, join_cons, ih]
    rfl

end Cursor.Taken

/-- **What is done for each of some items succeeds for all of them**, or fails as for one. -/
theorem mapM_cases {α β ε : Type} (f : α → Except ε β) (xs : List α) :
    (∀ x ∈ xs, ∃ y, f x = .ok y) ∨ ∃ x ∈ xs, ∃ e, f x = .error e ∧ xs.mapM f = .error e := by
  induction xs with
  | nil => exact .inl fun _ h => absurd h List.not_mem_nil
  | cons x rest ih =>
    rw [List.mapM_cons]
    cases hx : f x with
    | error e => exact .inr ⟨x, List.mem_cons_self, e, hx, rfl⟩
    | ok y =>
      rcases ih with hall | ⟨z, hz, e, hfails, hrest⟩
      · exact .inl (List.forall_mem_cons.mpr ⟨⟨y, hx⟩, hall⟩)
      · refine .inr ⟨z, List.mem_cons_of_mem x hz, e, hfails, ?_⟩
        rw [hrest]
        rfl

theorem mapM_eq_ok_map {α β ε : Type} {f : α → Except ε β} {g : α → β} {xs : List α}
    (h : ∀ x ∈ xs, f x = .ok (g x)) : xs.mapM f = .ok (xs.map g) := by
  induction xs with
  | nil => rfl
  | cons x rest ih =>
    obtain ⟨hx, hrest⟩ := List.forall_mem_cons.mp h
    rw [List.mapM_cons, hx, ih hrest]
    rfl

/-- What is done for the second of two lists is what is done for the first, if it is the same for
each two items. -/
theorem mapM_eq_of_forall₂ {α β γ ε : Type} {xs : List α} {ys : List β} {f : α → Except ε γ}
    {g : β → Except ε γ} (h : List.Forall₂ (fun x y => g y = f x) xs ys) :
    ys.mapM g = xs.mapM f := by
  induction h with
  | nil => rfl
  | cons hxy _ ih => rw [List.mapM_cons, List.mapM_cons, hxy, ih]

/-! ## Rows by their numbers -/

namespace Library

variable {L : Library}

namespace View

/-- The row of a number. -/
def rowAt (V : L.View) (t : L.Table) (i : Nat) : Cells := (V.rows t)[i]?.getD fun _ => .ok none

/-- What can be read in a column of the row of a number. -/
def valueAt (V : L.View) (t : L.Table) (i : Nat) (name : String) : Option Value :=
  (V.rowAt t i name).toOption.join

/-- Whether the cells of a row can be read. -/
def Readable (V : L.View) (t : L.Table) (rowKey : String) (i : Nat) : Prop :=
  ∀ field ∈ L.valueFields t rowKey, ∃ value?, V.rowAt t i field.1 = .ok value?

/-- **What a row is sampled as**: in the order of the columns, for each of its cells that is not
missing the length of its key and the size of the value together; and how many they are. -/
def sampled (V : L.View) (t : L.Table) (rowKey : String) (keys : List Bytes) (i : Nat) : Row :=
  let sizes := (L.valueFields t rowKey).filterMap fun field =>
    (V.valueAt t i field.1).map fun value =>
      (((keyAt keys i).length + value.size (L.bits? field.2) : Nat) : Int)
  ⟨sizes, sizes.length⟩

/-- Whether a row is the one of a number in a table, with its key as a string of bytes. -/
structure IsRow (V : L.View) (t : L.Table) (rowKey : String) (keys : List Bytes) (i : Nat)
    (row : Cells) : Prop where
  key : row rowKey = byteCell (keyAt keys i)
  cells : ∀ name, name ≠ rowKey → row name = V.rowAt t i name

/-- **A table that has the rows of some numbers** of another one, and its columns of values. -/
structure Carries (V : L.View) (t : L.Table) (rowKey : String) (keys : List Bytes)
    (numbers : List Nat) (data : L.Table) : Prop where
  has : ∃ type, L.Has data rowKey type ∧ L.isBytes type = true
  fields : L.valueFields data rowKey = L.valueFields t rowKey
  rows : List.Forall₂ (V.IsRow t rowKey keys) numbers (V.rows data)

end View

theorem map_key_eq {V : L.View} {t : L.Table} {rowKey : String} {keys : List Bytes}
    {numbers : List Nat} {rows : List Cells}
    (h : List.Forall₂ (V.IsRow t rowKey keys) numbers rows) :
    (rows.map fun row => row rowKey) = (numbers.map (keyAt keys)).map byteCell := by
  rw [List.map_map]
  refine (List.forall₂_eq_eq_eq ▸ ?_)
  rw [List.forall₂_map_left_iff, List.forall₂_map_right_iff]
  exact (h.imp fun _ _ hrow => hrow.key).flip

theorem ne_of_mem_valueFields {t : L.Table} {rowKey : String} {field : String × L.DataType}
    (h : field ∈ L.valueFields t rowKey) : field.1 ≠ rowKey := by
  simpa using (List.mem_filter.mp h).2

/-! ## The sizes of the cells of a row -/

/-- **The sizes of the cells of a row**, if its values are there. -/
theorem cellSizes_eq {α : Type} (key : Bytes) {i : Nat} (fields : List α) (bits? : α → Option Nat)
    (values : α → List (Option Value)) (value? : α → Option Value)
    (h : ∀ field ∈ fields, (values field)[i]? = some (value? field)) :
    cellSizes (some key) i (fields.map fun field => (bits? field, values field)) =
      .ok (fields.filterMap fun field => (value? field).map fun value =>
        ((key.length + value.size (bits? field) : Nat) : Int)) := by
  induction fields with
  | nil => rfl
  | cons field rest ih =>
    obtain ⟨hfield, hrest⟩ := List.forall_mem_cons.mp h
    have hitem : itemAt (values field) i = .ok (value? field) := itemAt_eq_ok_iff.mpr hfield
    rw [List.map_cons, List.filterMap_cons, cellSizes, hitem]
    cases hvalue : value? field with
    | none => exact ih hrest
    | some value =>
      dsimp only [bind, Except.bind, keyLength]
      rw [ih hrest]
      rfl

namespace View.Carries

variable {V : L.View} {t data : L.Table} {rowKey : String} {keys : List Bytes}
  {numbers : List Nat} {b : L.Batch}

theorem hasField (h : V.Carries t rowKey keys numbers data) {field : String × L.DataType}
    (hfield : field ∈ L.valueFields t rowKey) : L.Has data field.1 field.2 := by
  obtain ⟨type, hhas, -⟩ := h.has
  rw [← h.fields] at hfield
  exact ⟨hhas.distinct, (List.mem_filter.mp hfield).1⟩

/-- Another table with these columns and with some of the rows. -/
theorem of_fields (h : V.Carries t rowKey keys numbers data) {u : L.Table} {others : List Nat}
    (hfields : L.fields u = L.fields data)
    (hrows : List.Forall₂ (V.IsRow t rowKey keys) others (V.rows u)) :
    V.Carries t rowKey keys others u := by
  obtain ⟨type, hhas, htype⟩ := h.has
  have hnames : L.names u = L.names data := congrArg (List.map Prod.fst) hfields
  refine ⟨⟨type, ⟨hnames ▸ hhas.distinct, hfields ▸ hhas.mem⟩, htype⟩, ?_, hrows⟩
  rw [← h.fields]
  unfold valueFields
  rw [hfields]

/-! ## One batch -/

theorem keys_eq (hL : L.Lawful V) (h : V.Carries t rowKey keys numbers data)
    (hb : b ∈ L.batches data) {part : List Nat}
    (hpart : List.Forall₂ (V.IsRow t rowKey keys) part (V.batch b)) :
    L.keys b rowKey = .ok ((part.map (keyAt keys)).map some) := by
  obtain ⟨type, hhas, -⟩ := h.has
  exact hL.keys hhas hb (map_key_eq hpart)

/-- **What is read of a column of values in a batch**: the values of its rows, or it fails as one of
its cells does. -/
theorem read_cases (hL : L.Lawful V) (h : V.Carries t rowKey keys numbers data)
    (hb : b ∈ L.batches data) {part : List Nat}
    (hpart : List.Forall₂ (V.IsRow t rowKey keys) part (V.batch b)) {field : String × L.DataType}
    (hfield : field ∈ L.valueFields t rowKey) :
    ((∀ i ∈ part, ∃ value?, V.rowAt t i field.1 = .ok value?) ∧
      L.read b field.1 = .ok (part.map fun i => V.valueAt t i field.1)) ∨
    ∃ f, L.read b field.1 = .error f ∧ ∃ i ∈ part, V.rowAt t i field.1 = .error f := by
  have hread : L.read b field.1 = part.mapM fun i => V.rowAt t i field.1 := by
    rw [hL.read (h.hasField hfield) hb]
    exact mapM_eq_of_forall₂ (hpart.imp fun _ _ hrow =>
      hrow.cells field.1 (ne_of_mem_valueFields hfield))
  rw [hread]
  rcases mapM_cases (fun i => V.rowAt t i field.1) part with hall | ⟨i, hi, f, hcell, hfails⟩
  · refine .inl ⟨hall, mapM_eq_ok_map fun i hi => ?_⟩
    obtain ⟨value?, hvalue⟩ := hall i hi
    unfold valueAt
    rw [hvalue]
    rfl
  · exact .inr ⟨f, hfails, i, hi, hcell⟩

theorem map_readRow_eq (V : L.View) (t : L.Table) (rowKey : String) (keys : List Bytes)
    (part : List Nat) :
    (((part.map (keyAt keys)).map some).zipIdx.map
      (readRow ((L.valueFields t rowKey).map fun field =>
        (L.bits? field.2, part.map fun i => V.valueAt t i field.1)))) =
      part.map fun i => .ofRows [V.sampled t rowKey keys i] := by
  refine List.ext_getElem (by simp) fun j hj _ => ?_
  have hj' : j < part.length := by simpa using hj
  have hsizes := cellSizes_eq (keyAt keys part[j]) (L.valueFields t rowKey)
    (fun field => L.bits? field.2) (fun field => part.map fun i => V.valueAt t i field.1)
    (fun field => V.valueAt t part[j] field.1) fun field _ => by
      rw [List.getElem?_map, List.getElem?_eq_getElem hj']
      rfl
  simp only [List.getElem_map, List.getElem_zipIdx, Nat.zero_add]
  unfold readRow
  dsimp only
  rw [hsizes]
  rfl

/-- **What is read of a batch**: either all its cells can be read, and its rows are sampled, or it
breaks off as one of its cells does. -/
theorem readBatch_cases (hL : L.Lawful V) (h : V.Carries t rowKey keys numbers data)
    (hb : b ∈ L.batches data) {part : List Nat}
    (hpart : List.Forall₂ (V.IsRow t rowKey keys) part (V.batch b)) :
    ((∀ i ∈ part, V.Readable t rowKey i) ∧
      readBatch rowKey (L.valueFields t rowKey) b = .ofRows (part.map (V.sampled t rowKey keys))) ∨
    ∃ f, readBatch rowKey (L.valueFields t rowKey) b = .broken f ∧
      ∃ i ∈ part, ∃ field ∈ L.valueFields t rowKey, V.rowAt t i field.1 = .error f := by
  unfold readBatch readColumns
  rw [h.keys_eq hL hb hpart]
  rcases mapM_cases (fun field : String × L.DataType =>
    (L.read b field.1).map fun values => (L.bits? field.2, values))
      (L.valueFields t rowKey) with hall | ⟨field, hfield, f, hcolumn, hfails⟩
  · have hread : ∀ field ∈ L.valueFields t rowKey,
        (∀ i ∈ part, ∃ value?, V.rowAt t i field.1 = .ok value?) ∧
          L.read b field.1 = .ok (part.map fun i => V.valueAt t i field.1) := by
      intro field hfield
      refine (h.read_cases hL hb hpart hfield).resolve_right ?_
      rintro ⟨f, hf, -⟩
      obtain ⟨column, hcolumn⟩ := hall field hfield
      rw [hf] at hcolumn
      exact nomatch hcolumn
    refine .inl ⟨fun i hi field hfield => (hread field hfield).1 i hi, ?_⟩
    rw [mapM_eq_ok_map fun field hfield => congrArg (Except.map _) (hread field hfield).2]
    show Cursor.Taken.join (List.map _ _) = _
    rw [map_readRow_eq, Cursor.Taken.join_ofRows]
  · refine .inr ⟨f, by rw [hfails]; rfl, ?_⟩
    rcases h.read_cases hL hb hpart hfield with ⟨-, hok⟩ | ⟨e, he, i, hi, hcell⟩
    · rw [hok] at hcolumn
      exact nomatch hcolumn
    · rw [he] at hcolumn
      obtain rfl : e = f := Except.error.inj hcolumn
      exact ⟨i, hi, field, hfield, hcell⟩

/-! ## All batches -/

/-- **What is read of batches**, one after another: if all their cells can be read, their rows are
sampled, and else the first of them are, and then it breaks off as one of the cells does. -/
theorem readBatches_cases (hL : L.Lawful V) (h : V.Carries t rowKey keys numbers data)
    {batches : List L.Batch} (hb : ∀ b ∈ batches, b ∈ L.batches data) {part : List Nat}
    (hpart : List.Forall₂ (V.IsRow t rowKey keys) part (batches.flatMap V.batch)) :
    let taken := Cursor.Taken.join (batches.map (readBatch rowKey (L.valueFields t rowKey)))
    ((∀ i ∈ part, V.Readable t rowKey i) ∧
      taken = .ofRows (part.map (V.sampled t rowKey keys))) ∨
    ∃ count f, taken = ⟨(part.take count).map (V.sampled t rowKey keys), some f⟩ ∧
      ∃ i ∈ part, ∃ field ∈ L.valueFields t rowKey, V.rowAt t i field.1 = .error f := by
  induction batches generalizing part with
  | nil =>
    rw [List.flatMap_nil] at hpart
    cases hpart
    exact .inl ⟨fun _ hi => absurd hi List.not_mem_nil, rfl⟩
  | cons b rest ih =>
    obtain ⟨hbatch, hrest⟩ := List.forall_mem_cons.mp hb
    -- the rows of the first batch, and those behind them
    have hsplit : ∃ first others, part = first ++ others ∧
        List.Forall₂ (V.IsRow t rowKey keys) first (V.batch b) ∧
        List.Forall₂ (V.IsRow t rowKey keys) others (rest.flatMap V.batch) := by
      rw [List.flatMap_cons] at hpart
      refine ⟨part.take (V.batch b).length, part.drop (V.batch b).length,
        (List.take_append_drop _ _).symm, ?_, ?_⟩
      · simpa using List.forall₂_take_append _ _ _ hpart
      · simpa using List.forall₂_drop_append _ _ _ hpart
    obtain ⟨first, others, rfl, hfirst, hothers⟩ := hsplit
    simp only [List.map_cons, Cursor.Taken.join_cons]
    rcases h.readBatch_cases hL hbatch hfirst with ⟨hreadable, hread⟩ | ⟨f, hread, i, hi, hcell⟩
    · rw [hread, Cursor.Taken.ofRows_andThen]
      rcases ih hrest hothers with ⟨hall, htaken⟩ | ⟨count, f, htaken, i, hi, hcell⟩
      · refine .inl ⟨fun i hi => (List.mem_append.mp hi).elim (hreadable i) (hall i), ?_⟩
        rw [htaken, List.map_append]
        rfl
      · refine .inr ⟨first.length + count, f, ?_, i, List.mem_append_right _ hi, hcell⟩
        rw [htaken, List.take_length_add_append, List.map_append]
    · rw [hread, Cursor.Taken.broken_andThen]
      exact .inr ⟨0, f, rfl, i, List.mem_append_left _ hi, hcell⟩

end View.Carries

end Library

end Keyspan.Sample
