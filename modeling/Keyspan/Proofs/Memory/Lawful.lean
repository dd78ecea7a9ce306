import Keyspan.Memory.Table
import Keyspan.Proofs.Sample.Batches
import Mathlib.Data.List.Nodup

/-!
# Tables in memory keep the laws of a library

A table in memory holds what can be read of its cells. A cell reads as a string of bytes, or as a
text, only if it is one, so what a column holds tells its cells, and its rows are masked and sorted
as the laws say.

Results:
* `value_eq_bytes`, `value_eq_text`: which cells read as a key.
* `cellIn_set`, `type_setColumn`: what another column changes.
* `place_named`: where the path leads that is a name.
* `library_lawful`: all laws.
-/

namespace Keyspan.Memory

open Sample (Reading byteCell textCell utf8 set_idxOf mapM_eq_ok_map)
open Sample.Library (Has View Lawful)

/-! ## Cells -/

theorem value_eq_bytes {t : ColumnType} {c : Cell} {b : Bytes} (h : c.value t = byteCell b) :
    c = .bytes b := by
  unfold Cell.value byteCell at h
  split at h
  · cases h
  · cases hw : c.written t with
    | error f => rw [hw] at h; cases h
    | ok shown =>
      rw [hw] at h
      have h := Except.ok.inj h
      dsimp only at h
      split at h <;> simp_all

theorem value_eq_text {t : ColumnType} {c : Cell} {s : String} (h : c.value t = textCell s) :
    c = .text s := by
  unfold Cell.value textCell at h
  split at h
  · cases h
  · cases hw : c.written t with
    | error f => rw [hw] at h; cases h
    | ok shown =>
      rw [hw] at h
      have h := Except.ok.inj h
      dsimp only at h
      split at h <;> simp_all

/-- A text that is stored as a string of bytes reads as its bytes. -/
theorem value_stored_text (s : String) :
    ((Cell.text s).stored (.bytes false)).value (.bytes false) = byteCell (utf8 s) := by
  simp [Cell.stored, ColumnType.content, ColumnType.storeText, Cell.value, Cell.written,
    ColumnType.isString, Except.map, byteCell, utf8]

theorem cells_eq_bytes {t : ColumnType} {cells : List Cell} {keys : List Bytes}
    (h : cells.map (Cell.value t) = keys.map byteCell) : cells = keys.map Cell.bytes := by
  induction cells generalizing keys with
  | nil => simp_all
  | cons c rest ih =>
    cases keys with
    | nil => simp at h
    | cons key keys =>
      obtain ⟨hc, hrest⟩ := List.cons.inj h
      rw [List.map_cons, ← ih hrest, value_eq_bytes hc]

theorem cells_eq_texts {t : ColumnType} {cells : List Cell} {texts : List String}
    (h : cells.map (Cell.value t) = texts.map textCell) : cells = texts.map Cell.text := by
  induction cells generalizing texts with
  | nil => simp_all
  | cons c rest ih =>
    cases texts with
    | nil => simp at h
    | cons s texts =>
      obtain ⟨hc, hrest⟩ := List.cons.inj h
      rw [List.map_cons, ← ih hrest, value_eq_text hc]

theorem cells_toBytes {c : Column} {texts : List String}
    (h : c.cells.map (Cell.value c.type) = texts.map textCell) :
    c.toBytes.cells.map (Cell.value c.toBytes.type) = (texts.map utf8).map byteCell := by
  show List.map _ (List.map _ c.cells) = _
  rw [cells_eq_texts h, List.map_map, List.map_map, List.map_map]
  exact List.map_congr_left fun s _ => value_stored_text s

/-! ## Columns -/

section Columns

variable {t : Table} {name : String} {type : ColumnType}

/-- **What the values in memory hold.** -/
def view : View library where
  rows (t : Table) := t.rows.map fun row name => (cellIn t.names row name).value (t.type name)
  cells (c : Column) := c.cells.map (Cell.value c.type)
  flags (mask : List Bool) := mask
  batch (t : Table) := t.rows.map fun row name => (cellIn t.names row name).value (t.type name)

theorem mem_names (h : Has library t name type) : name ∈ t.names :=
  List.mem_map.mpr ⟨_, h.mem, rfl⟩

theorem count_names (h : Has library t name type) : t.names.count name = 1 := by
  have hpos := List.count_pos_iff.mpr (mem_names h)
  have hle := List.nodup_iff_count_le_one.mp h.distinct name
  exact Nat.le_antisymm hle hpos

theorem getElem?_idxOf {fields : List (String × ColumnType)} (hd : (fields.map Prod.fst).Nodup)
    (h : (name, type) ∈ fields) :
    fields[(fields.map Prod.fst).idxOf name]? = some (name, type) := by
  induction fields with
  | nil => exact absurd h List.not_mem_nil
  | cons field rest ih =>
    obtain ⟨hfresh, hrest⟩ := List.nodup_cons.mp hd
    rcases List.mem_cons.mp h with rfl | h
    · simp
    · have hne : field.1 ≠ name := by
        rintro rfl
        exact hfresh (List.mem_map.mpr ⟨_, h, rfl⟩)
      rw [List.map_cons, List.idxOf_cons_ne _ hne, List.getElem?_cons_succ]
      exact ih hrest h

theorem type_eq (h : Has library t name type) : t.type name = type := by
  unfold Table.type
  rw [show t.fields[t.names.idxOf name]? = some (name, type) from getElem?_idxOf h.distinct h.mem]
  rfl

theorem typeOf_eq (h : Has library t name type) : t.typeOf name = .ok type := by
  unfold Table.typeOf
  rw [if_pos (count_names h), type_eq h]

theorem column_eq (h : Has library t name type) :
    t.column name = .ok ⟨type, t.rows.map fun row => cellIn t.names row name⟩ := by
  unfold Table.column
  dsimp only
  rw [if_pos (count_names h), type_eq h]

theorem cells_column (t : Table) (name : String) :
    (t.rows.map fun row => cellIn t.names row name).map (Cell.value (t.type name)) =
      (view.rows t).map fun row => row name := by
  show List.map _ _ = List.map _ (List.map _ _)
  rw [List.map_map, List.map_map]
  rfl

/-! ## Another column -/

variable {names : List String} {other : String}

/-- **What another cell changes** in a row: only what is in its own column. -/
theorem cellIn_set (hmem : name ∈ names) {row : List Cell} (hlength : row.length = names.length)
    (c : Cell) :
    cellIn names (row.set (names.idxOf name) c) other =
      if other = name then c else cellIn names row other := by
  have hlt : names.idxOf name < row.length := hlength ▸ List.idxOf_lt_length_of_mem hmem
  unfold cellIn
  by_cases hother : other = name
  · subst hother
    rw [if_pos rfl, List.getElem?_set_self hlt]
    rfl
  · have hne : names.idxOf name ≠ names.idxOf other := fun heq =>
      hother ((List.idxOf_inj hmem).mp heq).symm
    rw [if_neg hother, List.getElem?_set_ne hne]

theorem names_setColumn (h : Has library t name type) (c : Column) :
    (t.setColumn (t.names.idxOf name) name c).names = t.names :=
  (set_idxOf (mem_names h) c.type).1

theorem type_setColumn (h : Has library t name type) (c : Column) :
    (t.setColumn (t.names.idxOf name) name c).type other =
      if other = name then c.type else t.type other := by
  have hmem := mem_names h
  have hlength : t.names.length = t.fields.length := List.length_map _
  unfold Table.type
  rw [names_setColumn h]
  unfold Table.setColumn
  dsimp only
  by_cases hother : other = name
  · subst hother
    rw [if_pos rfl, List.getElem?_set_self (hlength ▸ List.idxOf_lt_length_of_mem hmem)]
    rfl
  · have hne : t.names.idxOf name ≠ t.names.idxOf other := fun heq =>
      hother ((List.idxOf_inj hmem).mp heq).symm
    rw [if_neg hother, List.getElem?_set_ne hne]

theorem zipWith_congr_left {α β γ : Type} {f g : α → β → γ} {xs : List α} {ys : List β}
    (h : ∀ x ∈ xs, ∀ y, f x y = g x y) : List.zipWith f xs ys = List.zipWith g xs ys := by
  induction xs generalizing ys with
  | nil => rfl
  | cons x rest ih =>
    obtain ⟨hx, hrest⟩ := List.forall_mem_cons.mp h
    cases ys with
    | nil => rfl
    | cons y ys => rw [List.zipWith_cons_cons, List.zipWith_cons_cons, hx y, ih hrest]

/-- **What another column changes of the rows.** -/
theorem rows_setColumn (h : Has library t name type) (c : Column) :
    view.rows (t.setColumn (t.names.idxOf name) name c) =
      List.zipWith (fun row cell => Function.update row name cell) (view.rows t)
        (view.cells c) := by
  show List.map _ (List.zipWith _ t.rows c.cells) = List.zipWith _ (List.map _ _) (List.map _ _)
  rw [List.map_zipWith, List.zipWith_map]
  refine zipWith_congr_left fun row hrow cell => funext fun other => ?_
  have hlength : row.length = t.names.length := (t.full row hrow).trans (List.length_map _).symm
  rw [names_setColumn h, cellIn_set (mem_names h) hlength, type_setColumn h, Function.update_apply]
  split <;> rfl

/-! ## Sorting -/

theorem targets_named {fields : List (String × ColumnType)} (hd : (fields.map Prod.fst).Nodup)
    (h : (name, type) ∈ fields) (k : Nat) :
    ((fields.zipIdx k).filter fun field => field.1.1 == name).map
      (fun field => (field.2, field.1.2)) = [(k + (fields.map Prod.fst).idxOf name, type)] := by
  induction fields generalizing k with
  | nil => exact absurd h List.not_mem_nil
  | cons field rest ih =>
    obtain ⟨hfresh, hrest⟩ := List.nodup_cons.mp hd
    rw [List.zipIdx_cons, List.filter_cons]
    rcases List.mem_cons.mp h with rfl | h
    · have hnone : ((rest.zipIdx (k + 1)).filter fun field => field.1.1 == name) = [] := by
        rw [List.filter_eq_nil_iff]
        intro entry hentry hname
        have hmem := List.mem_map.mpr ⟨_, List.fst_mem_of_mem_zipIdx hentry, beq_iff_eq.mp hname⟩
        exact hfresh hmem
      simp [hnone]
    · have hne : field.1 ≠ name := by
        rintro rfl
        exact hfresh (List.mem_map.mpr ⟨_, h, rfl⟩)
      rw [if_neg (by simp [hne]), ih hrest h, List.map_cons, List.idxOf_cons_ne _ hne]
      simp only [Nat.succ_eq_add_one, List.cons.injEq, Prod.mk.injEq, and_true]
      omega

/-- **Where the path leads that is a name**, in a column of strings of bytes. -/
theorem place_named (h : Has library t name type) (htype : type.isBytes = true) :
    t.place [.named name] = .ok ([t.names.idxOf name], type) := by
  have hplaces : FieldPath.places t.fields [.named name] = [([t.names.idxOf name], type)] := by
    have htargets := targets_named h.distinct h.mem 0
    rw [Nat.zero_add] at htargets
    show List.map _ (List.map _ _) = _
    rw [show (t.fields.zipIdx.filter fun field => field.1.1 == name).map
      (fun field => (field.2, field.1.2)) = _ from htargets]
    rfl
  have hsortable : type.isSortable = true := by
    cases type with
    | bytes large => rfl
    | _ => exact nomatch htype
  unfold Table.place
  rw [hplaces]
  exact if_pos hsortable

/-- Strings of bytes are in the order of their bytes. -/
theorem ranksAtMost_bytes (a b : Bytes) :
    ranksAtMost [some (.bytes a)] [some (.bytes b)] = Bytes.le a b := by
  simp [ranksAtMost, rankAtMost, Atom.atMost]

theorem rank_eq (htype : type.isBytes = true) {row : List Cell} {names : List String} {key : Bytes}
    (hcell : (cellIn names row name).value type = byteCell key) :
    Table.rank ([names.idxOf name], type) row = [some (.bytes key)] := by
  have hbytes : cellIn names row name = .bytes key := value_eq_bytes hcell
  cases type with
  | bytes large =>
    show (cellIn names row name).atoms _ = _
    rw [hbytes]
    rfl
  | _ => exact nomatch htype

/-- **Sorting is by key and stable.** -/
theorem sortBy_eq (h : Has library t name type) (htype : type.isBytes = true)
    (hname : name.toList.head? ≠ some '.') {keys : List Bytes}
    (hkeys : ((view.rows t).map fun row => row name) = keys.map byteCell) :
    ∃ t', t.sortBy name = .ok t' ∧ t'.fields = t.fields ∧
      view.rows t' = (view.rows t).mergeSort fun a b => Bytes.le (a name).key (b name).key := by
  refine ⟨t.sortedAt ([t.names.idxOf name], type), ?_, rfl, ?_⟩
  · unfold Table.sortBy Table.pathOf
    rw [if_neg hname]
    show (t.place _).map _ = _
    rw [place_named h htype]
    rfl
  · refine List.map_mergeSort fun a ha b hb => ?_
    have hkey {row : List Cell} (hrow : row ∈ t.rows) :
        ∃ key, (cellIn t.names row name).value type = byteCell key := by
      have hmem : (cellIn t.names row name).value (t.type name) ∈ keys.map byteCell := by
        rw [← hkeys, ← cells_column]
        exact List.mem_map_of_mem (List.mem_map_of_mem hrow)
      obtain ⟨key, -, hkey⟩ := List.mem_map.mp hmem
      exact ⟨key, type_eq h ▸ hkey.symm⟩
    obtain ⟨key, hrow⟩ := hkey ha
    obtain ⟨other, hother⟩ := hkey hb
    rw [rank_eq htype hrow, rank_eq htype hother, ranksAtMost_bytes]
    show _ = Bytes.le (Reading.key ((cellIn t.names a name).value (t.type name)))
      (Reading.key ((cellIn t.names b name).value (t.type name)))
    rw [type_eq h, hrow, hother]
    rfl

end Columns

/-! ## The laws -/

theorem read_eq {t : Table} {name : String} {type : ColumnType} (h : Has library t name type) :
    t.read name = (view.rows t).mapM fun row => row name := by
  unfold Table.read
  rw [column_eq h]
  show List.mapM _ (List.map _ t.rows) = List.mapM _ (List.map _ t.rows)
  rw [List.mapM_map, List.mapM_map]
  show _ = List.mapM (fun row => (cellIn t.names row name).value (t.type name)) t.rows
  rw [type_eq h]
  rfl

theorem keys_eq {t : Table} {name : String} {type : ColumnType} (h : Has library t name type)
    {keys : List Bytes} (hkeys : ((view.rows t).map fun row => row name) = keys.map byteCell) :
    t.keys name = .ok (keys.map some) := by
  have hread : t.read name = .ok (keys.map fun key => some (.bytes key)) := by
    have hcells : (view.rows t).mapM (fun row => row name) =
        ((view.rows t).map fun row => row name).mapM id := by
      rw [List.mapM_map]
      rfl
    rw [read_eq h, hcells, hkeys, List.mapM_map]
    exact mapM_eq_ok_map fun _ _ => rfl
  unfold Table.keys
  rw [hread]
  show Except.ok (List.map _ (List.map _ keys)) = _
  rw [List.map_map]
  rfl

theorem eq_of_mem_batches {t b : Table} (h : b ∈ t.batches) : b = t := by
  unfold Table.batches at h
  split at h
  · exact absurd h List.not_mem_nil
  · exact List.mem_singleton.mp h

theorem mask_eq {c : Column} {keys : List Bytes} (hc : view.cells c = keys.map byteCell)
    (test : Bytes → Bool) : c.mask test = keys.map test := by
  unfold Column.mask
  rw [cells_eq_bytes hc, List.map_map]
  rfl

theorem rows_filter (t : Table) (mask : List Bool) :
    view.rows (t.filter mask) = (((view.rows t).zip mask).filter Prod.snd).map Prod.fst := by
  show List.map _ (List.map _ _) = (((List.map _ t.rows).zip mask).filter Prod.snd).map Prod.fst
  rw [List.zip_map_left, List.filter_map, List.map_map, List.map_map]
  rfl

theorem slice_eq (t : Table) {count : Nat} (h : count ≤ Sample.maxSlice) :
    ∃ t', t.slice count = .ok t' ∧ t'.fields = t.fields ∧
      view.rows t' = (view.rows t).take count := by
  refine ⟨_, if_neg ?_, rfl, List.map_take⟩
  unfold Table.minSlice Table.maxSlice
  unfold Sample.maxSlice at h
  omega

theorem slice_of_many (t : Table) {count : Nat} (h : Sample.maxSlice < count) :
    t.slice count = .error .sliceTooLarge := by
  refine if_pos (.inr ?_)
  unfold Table.maxSlice
  unfold Sample.maxSlice at h
  omega

/-- A table is read in one piece, or has no rows. -/
theorem flatMap_batches (t : Table) : t.batches.flatMap view.batch = view.rows t := by
  unfold Table.batches
  split
  · rename_i hnone
    show [] = List.map _ t.rows
    rw [List.isEmpty_iff.mp hnone]
    rfl
  · exact List.append_nil _

/-- **Tables in memory keep the laws of a library.** -/
theorem library_lawful : Lawful library view where
  typeOf h := typeOf_eq h
  column h := ⟨_, column_eq h, rfl, (type_eq h ▸ cells_column _ _ :)⟩
  toBytes _ hcells := ⟨_, rfl, rfl, cells_toBytes hcells⟩
  setColumn h _ := ⟨_, rfl, rfl, rows_setColumn h _⟩
  sortBy h htype hname hkeys := sortBy_eq h htype hname hkeys
  atLeast hc _ := mask_eq hc _
  below hc _ := mask_eq hc _
  both _ := rfl
  filter _ := ⟨rfl, rows_filter _ _⟩
  slice t _ h := slice_eq t h
  slice_of_many t _ h := slice_of_many t h
  batches := flatMap_batches
  keys h hb hkeys := by
    obtain rfl := eq_of_mem_batches hb
    exact keys_eq h hkeys
  read h hb := by
    obtain rfl := eq_of_mem_batches hb
    exact read_eq h

end Keyspan.Memory
