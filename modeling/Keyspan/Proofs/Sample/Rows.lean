import Keyspan.Proofs.Memory.Lawful

/-!
# What is sampled from a table

The columns of a table have different names, and one of them has a key for each row. A sample has
the rows whose keys a range contains, in the order of their keys and up to a number of rows.
Sorting, filtering and cutting a table to a number of rows are followed by the numbers of the rows
that are left, from one table to the next; reading the last of these tables samples them.

Of the library of tables nothing is used but its laws, `Library.Lawful`.

* `AreKeys`, `View.IsKeyed`: columns of row keys, and tables with given ones.

Results:
* `View.IsKeyed.withByteKeys_eq`, `View.IsKeyed.index_eq`: the keys as strings of bytes, and sorted.
* `flags_mask`: the mask of a range.
* `View.Carries.restrict_eq`: the rows in a range.
* `sample_ascending`: what is sampled from a table.
-/

namespace Keyspan.Sample.Library

variable {L : Library} {V : L.View}

/-- **Whether cells of a type are row keys**: texts, or strings of bytes. -/
inductive AreKeys (L : Library) (type : L.DataType) (cells : List Reading) (keys : List Bytes) :
    Prop
  | texts (texts : List String) (htype : L.isText type = true) (hcells : cells = texts.map textCell)
    (hkeys : keys = texts.map utf8)
  | bytes (htext : L.isText type = false) (htype : L.isBytes type = true)
    (hcells : cells = keys.map byteCell)

/-- **A table whose rows have the given keys**: no two of its columns have one name, and one of them
has the keys. -/
structure View.IsKeyed (V : L.View) (t : L.Table) (rowKey : String) (keys : List Bytes) : Prop where
  distinct : (L.names t).Nodup
  keyed : ∃ type, (rowKey, type) ∈ L.fields t ∧
    AreKeys L type ((V.rows t).map fun row => row rowKey) keys

/-- **Tables that differ at most in how they are cut into pieces.** -/
structure View.Same (V : L.View) (t u : L.Table) : Prop where
  fields : L.fields u = L.fields t
  rows : V.rows u = V.rows t

/-! ## Keys as strings of bytes -/

/-- Whether two tables have the same rows beside the column of the keys, and the second has the keys
there as strings of bytes. -/
theorem isRow_of_columns {t u : L.Table} {rowKey : String} {keys : List Bytes}
    (hkeys : ((V.rows u).map fun row => row rowKey) = keys.map byteCell)
    (hcells : ∀ name, name ≠ rowKey →
      ((V.rows u).map fun row => row name) = (V.rows t).map fun row => row name) :
    List.Forall₂ (V.IsRow t rowKey keys) (List.range keys.length) (V.rows u) := by
  have hlength : (V.rows u).length = keys.length := by simpa using congrArg List.length hkeys
  rw [List.forall₂_iff_get]
  refine ⟨by simp [hlength], fun i hi hu => ?_⟩
  have hi' : i < keys.length := by simpa using hi
  simp only [List.get_eq_getElem, List.getElem_range]
  constructor
  · have hget := congrArg (fun l => l[i]?) hkeys
    simpa [hu, hi', keyAt] using hget
  · intro name hname
    have hget := congrArg (fun l => l[i]?) (hcells name hname)
    unfold View.rowAt
    cases ht : (V.rows t)[i]? with
    | none => simp [hu, ht] at hget
    | some row => simpa [hu, ht] using hget

namespace View.IsKeyed

variable {t : L.Table} {rowKey : String} {keys : List Bytes}

theorem withByteKeys_eq (hL : L.Lawful V) (h : V.IsKeyed t rowKey keys) :
    ∃ data, L.withByteKeys t rowKey = .ok data ∧
      V.Carries t rowKey keys (List.range keys.length) data := by
  obtain ⟨type, hmem, hkeyed⟩ := h.keyed
  have hhas : L.Has t rowKey type := ⟨h.distinct, hmem⟩
  have hname : rowKey ∈ L.names t := List.mem_map_of_mem (f := Prod.fst) hmem
  unfold withByteKeys
  rw [if_neg (not_not.mpr hname), hL.typeOf hhas]
  rcases hkeyed with ⟨texts, htype, hcells, rfl⟩ | ⟨htext, htype, hcells⟩
  · obtain ⟨c, hc, hctype, hccells⟩ := hL.column hhas
    obtain ⟨c', hc', hbytes, hc'cells⟩ :=
      hL.toBytes (hctype ▸ htype) (hccells.trans hcells)
    have hlength : (V.cells c').length = (V.rows t).length := by
      rw [hc'cells]
      simpa using (congrArg List.length hcells).symm
    obtain ⟨data, hdata, hfields, hrows⟩ := hL.setColumn hhas hlength
    obtain ⟨hnames, hmem', hvalues⟩ := set_idxOf hname (L.columnType c')
    refine ⟨data, ?_, ⟨L.columnType c', ⟨?_, ?_⟩, hbytes⟩, ?_,
      isRow_of_columns ?_ fun name hne => ?_⟩
    · show (if L.isText type = true then _ else _) = _
      rw [if_pos htype, hc]
      show (L.toBytes c >>= _) = _
      rw [hc']
      exact hdata
    · unfold names
      rw [hfields]
      exact hnames ▸ h.distinct
    · rw [hfields]
      exact hmem'
    · unfold valueFields
      rw [hfields]
      exact hvalues
    · rw [hrows, List.map_zipWith, ← hc'cells]
      refine List.ext_getElem (by simp [hlength]) fun i hi _ => ?_
      simp
    · rw [hrows, List.map_zipWith]
      refine List.ext_getElem (by simp [hlength]) fun i hi _ => ?_
      simp [hne]
  · refine ⟨t, ?_, ⟨type, hhas, htype⟩, rfl, isRow_of_columns hcells fun _ _ => rfl⟩
    show (if L.isText type = true then _ else _) = _
    rw [if_neg (by simp [htext]), if_pos htype]
    rfl

theorem index_eq (hL : L.Lawful V) (h : V.IsKeyed t rowKey keys)
    (hname : rowKey.toList.head? ≠ some '.') :
    ∃ x, L.index t rowKey = .ok x ∧ x.rowKey = rowKey ∧
      V.Carries t rowKey keys (order keys) x.table := by
  obtain ⟨data, hdata, hcarries⟩ := h.withByteKeys_eq hL
  obtain ⟨type, hhas, htype⟩ := hcarries.has
  have hkeys : ((V.rows data).map fun row => row rowKey) = keys.map byteCell := by
    rw [map_key_eq hcarries.rows, map_keyAt_range]
  obtain ⟨sorted, hsorted, hfields, hrows⟩ := hL.sortBy hhas htype hname hkeys
  refine ⟨⟨sorted, rowKey⟩, ?_, rfl, hcarries.of_fields hfields ?_⟩
  · unfold index
    rw [hdata]
    show (L.sortBy data rowKey >>= _) = _
    rw [hsorted]
    rfl
  · have hmapped : (V.rows data).map (fun row => (row rowKey).key) = keys := by
      have hread := congrArg (List.map Reading.key) hkeys
      simpa [Function.comp_def, Reading.key, byteCell] using hread
    rw [hrows, mergeSort_eq_map_order (V.rows data) (fun row => (row rowKey).key) fun _ => .ok none,
      hmapped, List.forall₂_map_right_iff, List.forall₂_same]
    intro i hi
    obtain ⟨hlength, hget⟩ := List.forall₂_iff_get.mp hcarries.rows
    have hi' : i < (List.range keys.length).length := by simpa using mem_order.mp hi
    have hrow := hget i hi' (hlength ▸ hi')
    simpa [List.getElem?_eq_getElem (hlength ▸ hi')] using hrow

end View.IsKeyed

/-! ## The rows in a range -/

/-- **The mask of a range** is true where the range contains the key; without bounds it contains
every key. -/
theorem flags_mask (hL : L.Lawful V) {c : L.Column} {keys : List Bytes}
    (hc : V.cells c = keys.map byteCell) (range : KeyRange) :
    match L.mask? c range with
    | none => ∀ key, range.contains key = true
    | some mask => V.flags mask = keys.map range.contains := by
  have hleast (key : Bytes) : Bytes.le [] key = true := Bytes.le_iff.mpr (Bytes.nil_le key)
  have hlower := hL.atLeast hc range.start
  have hupper := hL.below hc range.stop
  have hboth (h : (V.flags (L.atLeast c range.start)).length =
      (V.flags (L.below c range.stop)).length) := hL.both h
  rw [hlower, hupper, List.zipWith_map, List.zipWith_self] at hboth
  obtain ⟨start, stop⟩ := range
  unfold mask?
  cases start <;> cases stop
  · simp [KeyRange.contains, KeyRange.belowStop, hleast]
  · refine hupper.trans (List.map_congr_left fun key _ => ?_)
    simp [KeyRange.contains, KeyRange.belowStop, hleast]
  · refine hlower.trans (List.map_congr_left fun key _ => ?_)
    simp [KeyRange.contains, KeyRange.belowStop]
  · exact hboth (by rw [List.length_map, List.length_map])

theorem forall₂_filter {α β : Type} {R : α → β → Prop} (p : α → Bool) {xs : List α} {ys : List β}
    (h : List.Forall₂ R xs ys) :
    List.Forall₂ R (xs.filter p) (((ys.zip (xs.map p)).filter Prod.snd).map Prod.fst) := by
  induction h with
  | nil => exact .nil
  | @cons x y xs ys hxy _ ih =>
    rw [List.map_cons, List.zip_cons_cons, List.filter_cons, List.filter_cons]
    cases p x with
    | true => exact .cons hxy ih
    | false => exact ih

namespace View.Carries

variable {t : L.Table} {rowKey : String} {keys : List Bytes} {numbers : List Nat} {x : L.Index}

theorem restrict_eq (hL : L.Lawful V) (hx : x.rowKey = rowKey)
    (h : V.Carries t rowKey keys numbers x.table) (range : KeyRange) :
    ∃ data, x.restrict range = .ok data ∧
      V.Carries t rowKey keys (numbers.filter fun i => range.contains (keyAt keys i)) data := by
  obtain ⟨type, hhas, -⟩ := h.has
  obtain ⟨c, hc, -, hcells⟩ := hL.column hhas
  have hkeys : V.cells c = (numbers.map (keyAt keys)).map byteCell :=
    hcells.trans (map_key_eq h.rows)
  have hmask := flags_mask hL hkeys range
  have hrestrict : x.restrict range = .ok (match L.mask? c range with
      | none => x.table
      | some mask => L.filter x.table mask) := by
    unfold Index.restrict
    rw [hx, hc]
    rfl
  rw [hrestrict]
  cases hm : L.mask? c range with
  | none =>
    rw [hm] at hmask
    refine ⟨x.table, rfl, ?_⟩
    rw [List.filter_eq_self.mpr fun i _ => hmask _]
    exact h
  | some mask =>
    rw [hm] at hmask
    have hlength : (V.flags mask).length = (V.rows x.table).length := by
      rw [hmask, List.length_map, List.length_map, h.rows.length_eq]
    obtain ⟨hfields, hrows⟩ := hL.filter hlength
    refine ⟨L.filter x.table mask, rfl, h.of_fields hfields ?_⟩
    rw [hrows, hmask, List.map_map]
    exact forall₂_filter _ h.rows

/-- The rows of a table are those of any other one with the same rows. -/
theorem of_same {u data : L.Table} (h : V.Carries u rowKey keys numbers data) (hu : V.Same t u) :
    V.Carries t rowKey keys numbers data := by
  obtain ⟨hfields, hrows⟩ := hu
  refine ⟨h.has, ?_, h.rows.imp fun _ _ hrow => ⟨hrow.key, fun name hne => ?_⟩⟩
  · rw [h.fields]
    unfold valueFields
    rw [hfields]
  · rw [hrow.cells name hne]
    unfold View.rowAt
    rw [hrows]

end View.Carries

/-! ## The sample -/

theorem exists_of_isOk {α : Type} {x : Except Failure α} (h : x.isOk = true) :
    ∃ a, x = .ok a := by
  cases x with
  | ok a => exact ⟨a, rfl⟩
  | error f => exact nomatch h

namespace View.IsKeyed

variable {t : L.Table} {rowKey : String} {keys : List Bytes}

/-- Another table with the same rows has the same keys, and it has the same rows. -/
theorem of_same (h : V.IsKeyed t rowKey keys) {u : L.Table} (hu : V.Same t u) :
    V.IsKeyed u rowKey keys := by
  obtain ⟨hfields, hrows⟩ := hu
  have hnames : L.names u = L.names t := congrArg (List.map Prod.fst) hfields
  exact ⟨hnames ▸ h.distinct, by rw [hfields, hrows]; exact h.keyed⟩

theorem select_eq {x : L.Index} {range : KeyRange} {inRange : L.Table}
    (h : x.restrict range = .ok inRange) (limit : Int) :
    x.select range limit = L.slice inRange limit := by
  unfold Index.select
  rw [h]
  rfl

/-- **What is sampled from an index** is what is read of the first rows in the range. -/
theorem sample_eq (hL : L.Lawful V) {x : L.Index} (hx : x.rowKey = rowKey)
    (h : V.Carries t rowKey keys (order keys) x.table) (range : KeyRange) {max : Nat}
    (hmax : max ≤ maxSlice) :
    let chosen := (chosenIn keys range).take max
    ((∀ i ∈ chosen, V.Readable t rowKey i) ∧
      x.sample range max = ⟨chosen.map (V.sampled t rowKey keys), none, true⟩) ∨
    ∃ count f, x.sample range max =
        ⟨(chosen.take count).map (V.sampled t rowKey keys), some f, true⟩ ∧
      ∃ i ∈ chosen, ∃ field ∈ L.valueFields t rowKey, V.rowAt t i field.1 = .error f := by
  intro chosen
  obtain ⟨inRange, hrestrict, hcarries⟩ := h.restrict_eq hL hx range
  obtain ⟨data, hslice, hfields, hrows⟩ := hL.slice inRange hmax
  have hdata : V.Carries t rowKey keys chosen data :=
    hcarries.of_fields hfields (hrows ▸ List.forall₂_take max hcarries.rows)
  have hsample : x.sample range max =
      let taken := Cursor.Taken.join ((L.batches data).map
        (readBatch rowKey (L.valueFields t rowKey)))
      ⟨taken.rows, taken.failure, true⟩ := by
    unfold Index.sample
    rw [select_eq hrestrict, hslice, hx, ← hdata.fields]
  rw [hsample]
  rcases hdata.readBatches_cases hL (fun _ hb => hb) (hL.batches data ▸ hdata.rows) with
    ⟨hreadable, htaken⟩ | ⟨count, f, htaken, hcell⟩
  · exact .inl ⟨hreadable, by rw [htaken]; rfl⟩
  · exact .inr ⟨count, f, by rw [htaken], hcell⟩

theorem sample_of_many (hL : L.Lawful V) {x : L.Index} (hx : x.rowKey = rowKey)
    (h : V.Carries t rowKey keys (order keys) x.table) (range : KeyRange) {max : Nat}
    (hmax : maxSlice < max) : x.sample range max = ⟨[], some .sliceTooLarge, true⟩ := by
  obtain ⟨inRange, hrestrict, -⟩ := h.restrict_eq hL hx range
  unfold Index.sample
  rw [select_eq hrestrict, hL.slice_of_many inRange hmax]

end View.IsKeyed

/-- **Samples ascend, and they are the rows of the range.** A table of columns with different names,
in which every row has a key, can be sampled if the name of the row key does not start with a point.
A sample has the first rows of those whose keys the range of the scan contains, where the rows are
in ascending order of their keys and rows of one key in that of the table. It tells each row by the
sizes of its cells that are not missing, and any other table with these columns and rows has the
same sample, however it is cut into batches. Only a number of rows beyond what a table can be cut
to, and a cell of the sample that cannot be read, make it fail: the former before its first row, the
latter behind some of its first rows. -/
theorem sample_ascending {L : Library} {V : L.View} (hL : L.Lawful V) {t : L.Table}
    {rowKey : String} {keys : List Bytes} (h : V.IsKeyed t rowKey keys)
    (hname : rowKey.toList.head? ≠ some '.') (scan : Scan) (max : Nat) :
    ∃ chosen : List Nat,
      (∀ i, i ∈ chosen ↔ ∃ key, keys[i]? = some key ∧ scan.range.contains key = true) ∧
      chosen.Pairwise (Before keys) ∧
      ∀ u, V.Same t u → ∃ x cursor, L.index u rowKey = .ok x ∧
        x.sampler scan (.integer max) = .ok cursor ∧
        if maxSlice < max then cursor.rows = [] ∧ cursor.failure = some .sliceTooLarge
        else
          let readable := ∀ i ∈ chosen.take max, V.Readable t rowKey i
          (readable → cursor.failure = none ∧
            cursor.rows = (chosen.take max).map (V.sampled t rowKey keys)) ∧
          (¬ readable → ∃ count f, cursor.failure = some f ∧
            cursor.rows = ((chosen.take max).take count).map (V.sampled t rowKey keys) ∧
            ∃ i ∈ chosen.take max, ∃ field ∈ L.valueFields t rowKey,
              V.rowAt t i field.1 = .error f) := by
  refine ⟨chosenIn keys scan.range, fun i => mem_chosenIn, (pairwise_order keys).filter _,
    fun u hu => ?_⟩
  obtain ⟨x, hindex, hx, hcarries⟩ := (h.of_same hu).index_eq hL hname
  replace hcarries := hcarries.of_same hu
  refine ⟨x, x.sample scan.range max, hindex, rfl, ?_⟩
  split
  · rename_i hmany
    rw [View.IsKeyed.sample_of_many hL hx hcarries scan.range hmany]
    exact ⟨rfl, rfl⟩
  · rename_i hfew
    intro readable
    rcases View.IsKeyed.sample_eq hL hx hcarries scan.range (Nat.le_of_not_lt hfew) with
      ⟨hreadable, hsample⟩ | ⟨count, f, hsample, i, hi, field, hfield, hcell⟩
    · rw [hsample]
      exact ⟨fun _ => ⟨rfl, rfl⟩, fun hnot => absurd hreadable hnot⟩
    · rw [hsample]
      refine ⟨fun hreadable => ?_, fun _ => ⟨count, f, rfl, rfl, i, hi, field, hfield, hcell⟩⟩
      obtain ⟨value?, hvalue⟩ := hreadable i hi field hfield
      exact nomatch hvalue.symm.trans hcell

/-- Two rows of one key, with a cell missing in each, behind a row that is left out. -/
theorem sample_ascending_of_three :
    let t : Memory.Table := .ofColumns
      [("k", .ofGiven (.text false) [.text "b", .text "a", .text "b"]),
        ("v", .ofGiven (.integer true 64) [.integer 1, .missing, .missing]),
        ("w", .ofGiven (.text false) [.text "xx", .text "y", .text "z"])]
    ∃ x cursor, Memory.library.index t "k" = .ok x ∧
      x.sampler ⟨"t", ⟨[98], []⟩, none⟩ (.integer 5) = .ok cursor ∧ cursor.failure = none ∧
      cursor.rows = [⟨[9, 3], 2⟩, ⟨[2], 1⟩] := by
  intro t
  let keys : List Bytes := [[98], [97], [98]]
  have hkeyed : Memory.view.IsKeyed t "k" keys :=
    { distinct := by decide
      keyed := ⟨.text false, List.mem_cons_self,
        .texts ["b", "a", "b"] rfl (by decide +kernel) (by decide +kernel)⟩ }
  obtain ⟨chosen, hmem, hordered, hsample⟩ :=
    sample_ascending Memory.library_lawful hkeyed (by decide) ⟨"t", ⟨[98], []⟩, none⟩ 5
  have hchosen : chosen = chosenIn keys ⟨[98], []⟩ :=
    eq_of_pairwise_before hordered ((pairwise_order keys).filter _) fun i =>
      (hmem i).trans mem_chosenIn.symm
  have horder : order keys = [1, 0, 2] := order_eq (by decide) (by decide)
  have hevaluated : chosenIn keys ⟨[98], []⟩ = [0, 2] := by
    unfold chosenIn
    rw [horder]
    decide
  obtain ⟨x, cursor, hindex, hcursor, hrows⟩ := hsample t ⟨rfl, rfl⟩
  rw [hchosen, hevaluated, if_neg (by decide)] at hrows
  have hreadable : ∀ i ∈ [0, 2].take 5, Memory.view.Readable t "k" i := by
    have hread : ∀ i ∈ [0, 2], ∀ name ∈ ["v", "w"],
        (Memory.view.rowAt t i name).isOk = true := by decide +kernel
    intro i hi field hfield
    have hname : field.1 ∈ ["v", "w"] := List.mem_map_of_mem hfield
    exact exists_of_isOk (hread i hi field.1 hname)
  obtain ⟨hfailure, hall⟩ := hrows.1 hreadable
  exact ⟨x, cursor, hindex, hcursor, hfailure, hall.trans (by decide +kernel)⟩

/-- **A sample can fail**, where more rows are asked for than a table can be cut to, and where the
date in a row is outside of the calendar. -/
theorem sample_fails :
    let t : Memory.Table := .ofColumns
      [("k", .ofGiven (.text false) [.text "a", .text "b"]),
        ("d", .ofGiven .date [.integer 4000000, .integer 1])]
    ∃ x, Memory.library.index t "k" = .ok x ∧
      (∃ cursor, x.sampler ⟨"t", ⟨[], []⟩, none⟩ (.integer 9223372036854775808) = .ok cursor ∧
        cursor.failure = some .sliceTooLarge) ∧
      ∃ cursor, x.sampler ⟨"t", ⟨[], [98]⟩, none⟩ (.integer 5) = .ok cursor ∧
        cursor.failure ≠ none := by
  intro t
  have hkeyed : Memory.view.IsKeyed t "k" [[97], [98]] :=
    { distinct := by decide
      keyed := ⟨.text false, List.mem_cons_self,
        .texts ["a", "b"] rfl (by decide +kernel) (by decide +kernel)⟩ }
  obtain ⟨x, hindex, hx, hcarries⟩ := hkeyed.index_eq Memory.library_lawful (by decide)
  have hmany : x.sample ⟨[], []⟩ (9223372036854775808 : Nat) = ⟨[], some .sliceTooLarge, true⟩ :=
    View.IsKeyed.sample_of_many Memory.library_lawful hx hcarries ⟨[], []⟩ (by decide)
  refine ⟨x, hindex, ⟨_, rfl, congrArg Cursor.failure hmany⟩, _, rfl, fun hnone => ?_⟩
  have hfew : 5 ≤ maxSlice := by decide
  rcases View.IsKeyed.sample_eq Memory.library_lawful hx hcarries ⟨[], [98]⟩ hfew with
    ⟨hreadable, -⟩ | ⟨count, f, hsample, -⟩
  · have hchosen : 0 ∈ (chosenIn [[97], [98]] ⟨[], [98]⟩).take 5 := by
      have horder : order [[97], [98]] = [0, 1] := order_eq (by decide) (by decide)
      unfold chosenIn
      rw [horder]
      decide
    obtain ⟨value?, hvalue⟩ := hreadable 0 hchosen ("d", .date)
      (List.mem_filter.mpr ⟨List.mem_cons_of_mem _ List.mem_cons_self, rfl⟩)
    have hdate : Memory.view.rowAt t 0 "d" = .error .dateOutOfRange := by decide +kernel
    exact nomatch hdate.symm.trans hvalue
  · have hfails : (x.sample ⟨[], [98]⟩ (5 : Nat)).failure = some f :=
      congrArg Cursor.failure hsample
    exact nomatch hfails.symm.trans hnone

end Keyspan.Sample.Library
