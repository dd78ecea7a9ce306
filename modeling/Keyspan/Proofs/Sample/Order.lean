import Keyspan.KeyRange
import Keyspan.Proofs.KeyOrder

/-!
# Rows in the order of their keys

Rows are told by their numbers. Sorting puts them in order of their keys, and rows of one key in
order of their numbers, and that is the only list of rows that is in this order.

* `Before`: which of two rows stands in front.
* `order`, `chosenIn`: the numbers of sorted rows, and those of them whose keys lie in a range.

Results:
* `mem_order`, `pairwise_order`: sorting is by key first and by number second.
* `eq_of_pairwise_before`: rows can be put in order in one way only.
* `mergeSort_eq_map_order`: any rows are sorted as their numbers are.
-/

namespace Keyspan.Sample

/-- Whether a row stands in front of another, by their numbers: the rows are in ascending order of
their keys, and rows of one key in that of their numbers. -/
def Before (keys : List Bytes) (i j : Nat) : Prop :=
  ∃ k l, keys[i]? = some k ∧ keys[j]? = some l ∧ (Bytes.lt k l = true ∨ k = l ∧ i < j)

instance (keys : List Bytes) (i j : Nat) : Decidable (Before keys i j) :=
  match hi : keys[i]?, hj : keys[j]? with
  | some k, some l =>
    decidable_of_iff (Bytes.lt k l = true ∨ k = l ∧ i < j) (by simp [Before, hi, hj])
  | none, _ => isFalse (by simp [Before, hi])
  | _, none => isFalse (by simp [Before, hj])

/-- The key of the row of a number. -/
def keyAt (keys : List Bytes) (i : Nat) : Bytes := keys[i]?.getD []

/-- **The numbers of the rows**, in the order of their keys. -/
def order (keys : List Bytes) : List Nat :=
  (List.range keys.length).mergeSort fun i j => Bytes.le (keyAt keys i) (keyAt keys j)

theorem mem_order {keys : List Bytes} {i : Nat} : i ∈ order keys ↔ i < keys.length := by
  unfold order
  rw [List.mem_mergeSort, List.mem_range]

theorem getElem?_eq_some_keyAt {keys : List Bytes} {i : Nat} (h : i < keys.length) :
    keys[i]? = some (keyAt keys i) := by
  unfold keyAt
  rw [List.getElem?_eq_getElem h]
  rfl

theorem map_keyAt_range (keys : List Bytes) :
    (List.range keys.length).map (keyAt keys) = keys := by
  refine List.ext_getElem (by simp) fun i _ hi => ?_
  simp [keyAt, hi]

theorem bytesLE_trans {a b c : Bytes} (hab : Bytes.le a b = true) (hbc : Bytes.le b c = true) :
    Bytes.le a c = true := by
  rw [Bytes.le_iff] at hab hbc ⊢
  exact hab.trans hbc

theorem bytesLE_total (a b : Bytes) : (Bytes.le a b || Bytes.le b a) = true := by
  rw [Bool.or_eq_true, Bytes.le_iff, Bytes.le_iff]
  exact le_total _ _

/-- What a row in front of another has: not the greater key, and the smaller number if the keys are
equal. -/
theorem before_of_zipIdxLE {keys : List Bytes} {i j : Nat} (hi : i < keys.length)
    (hj : j < keys.length) (hne : i ≠ j)
    (hle : List.zipIdxLE (fun a b => Bytes.le (keyAt keys a) (keyAt keys b)) (i, i) (j, j) =
      true) : Before keys i j := by
  refine ⟨keyAt keys i, keyAt keys j, getElem?_eq_some_keyAt hi, getElem?_eq_some_keyAt hj, ?_⟩
  unfold List.zipIdxLE at hle
  dsimp only at hle
  by_cases hback : Bytes.le (keyAt keys j) (keyAt keys i) = true
  · by_cases hforth : Bytes.le (keyAt keys i) (keyAt keys j) = true
    · have hkeys : keyAt keys i = keyAt keys j :=
        Bytes.codes_injective (le_antisymm (Bytes.le_iff.mp hforth) (Bytes.le_iff.mp hback))
      rw [if_pos hforth, if_pos hback, decide_eq_true_eq] at hle
      exact .inr ⟨hkeys, Nat.lt_of_le_of_ne hle hne⟩
    · rw [if_neg hforth] at hle
      exact absurd hle Bool.false_ne_true
  · rw [Bytes.le_iff, not_le] at hback
    exact .inl (Bytes.lt_iff.mpr hback)

theorem nodup_order (keys : List Bytes) : (order keys).Nodup :=
  (List.mergeSort_perm _ _).nodup_iff.mpr List.nodup_range

/-- **Sorting is by key first and by number second.** -/
theorem pairwise_order (keys : List Bytes) : (order keys).Pairwise (Before keys) := by
  have hdistinct := nodup_order keys
  unfold order at hdistinct ⊢
  -- sorting is stable: it is the same as sorting numbered items, with ties cut by their numbers
  rw [← List.mergeSort_zipIdx] at hdistinct ⊢
  rw [List.Nodup, List.pairwise_map] at hdistinct
  rw [List.pairwise_map]
  have hsorted := List.pairwise_mergeSort
    (List.zipIdxLE_trans fun a b c => bytesLE_trans (a := keyAt keys a) (b := keyAt keys b)
      (c := keyAt keys c))
    (List.zipIdxLE_total fun a b => bytesLE_total (keyAt keys a) (keyAt keys b))
    (List.range keys.length).zipIdx
  have hnumbered {p : Nat × Nat} (hp : p ∈ (List.range keys.length).zipIdx) :
      p.1 < keys.length ∧ p = (p.1, p.1) := by
    obtain ⟨i, j⟩ := p
    have hget := List.mem_zipIdx_iff_getElem?.mp hp
    obtain ⟨hj, hij⟩ := List.getElem?_eq_some_iff.mp hget
    rw [List.getElem_range] at hij
    rw [List.length_range] at hj
    exact ⟨hij ▸ hj, congrArg (Prod.mk i) hij⟩
  refine (hsorted.and hdistinct).imp_of_mem fun {p q} hp hq hpq => ?_
  obtain ⟨hle, hne⟩ := hpq
  obtain ⟨hi, hp⟩ := hnumbered (List.mem_mergeSort.mp hp)
  obtain ⟨hj, hq⟩ := hnumbered (List.mem_mergeSort.mp hq)
  rw [hp, hq] at hle
  exact before_of_zipIdxLE hi hj hne hle

theorem Before.asymm {keys : List Bytes} {i j : Nat} (hij : Before keys i j)
    (hji : Before keys j i) : False := by
  obtain ⟨k, l, hk, hl, hkl⟩ := hij
  obtain ⟨l', k', hl', hk', hlk⟩ := hji
  obtain rfl : l' = l := Option.some.inj (hl'.symm.trans hl)
  obtain rfl : k' = k := Option.some.inj (hk'.symm.trans hk)
  rcases hkl with hlt | ⟨rfl, hlt⟩
  · rcases hlk with hlt' | ⟨rfl, -⟩
    · exact lt_asymm (Bytes.lt_iff.mp hlt) (Bytes.lt_iff.mp hlt')
    · exact lt_irrefl _ (Bytes.lt_iff.mp hlt)
  · rcases hlk with hlt' | ⟨-, hlt'⟩
    · exact lt_irrefl _ (Bytes.lt_iff.mp hlt')
    · exact Nat.lt_asymm hlt hlt'

/-- **Rows can be put in order in one way only.** -/
theorem eq_of_pairwise_before {keys : List Bytes} {xs ys : List Nat}
    (hxs : xs.Pairwise (Before keys)) (hys : ys.Pairwise (Before keys))
    (hmem : ∀ i, i ∈ xs ↔ i ∈ ys) : xs = ys := by
  have hnodup {l : List Nat} (hl : l.Pairwise (Before keys)) : l.Nodup := by
    refine hl.imp fun {i j} hij => ?_
    rintro rfl
    exact hij.asymm hij
  have hperm := (List.perm_ext_iff_of_nodup (hnodup hxs) (hnodup hys)).mpr hmem
  exact hperm.eq_of_pairwise (fun i j _ _ hij hji => (hij.asymm hji).elim) hxs hys

theorem order_eq {keys : List Bytes} {numbers : List Nat}
    (hperm : numbers.Perm (List.range keys.length)) (h : numbers.Pairwise (Before keys)) :
    order keys = numbers :=
  eq_of_pairwise_before (pairwise_order keys) h fun i => by
    rw [mem_order, hperm.mem_iff, List.mem_range]

/-- **Any rows are sorted as their numbers are.** -/
theorem mergeSort_eq_map_order {α : Type} (rows : List α) (key : α → Bytes) (none : α) :
    (rows.mergeSort fun a b => Bytes.le (key a) (key b)) =
      (order (rows.map key)).map fun i => rows[i]?.getD none := by
  have hrows : rows = (List.range rows.length).map fun i => rows[i]?.getD none := by
    refine List.ext_getElem (by simp) fun i hi _ => ?_
    simp [List.getElem?_eq_getElem hi]
  unfold order
  rw [List.length_map]
  conv_lhs => rw [hrows]
  refine (List.map_mergeSort fun i hi j hj => ?_).symm
  have hkey {i : Nat} (hi : i ∈ List.range rows.length) :
      keyAt (rows.map key) i = key (rows[i]?.getD none) := by
    unfold keyAt
    rw [List.getElem?_map, List.getElem?_eq_getElem (List.mem_range.mp hi)]
    rfl
  rw [hkey hi, hkey hj]

/-- The numbers of the rows whose keys lie in a range, in the order of their keys. -/
def chosenIn (keys : List Bytes) (range : KeyRange) : List Nat :=
  (order keys).filter fun i => range.contains (keyAt keys i)

theorem mem_chosenIn {keys : List Bytes} {range : KeyRange} {i : Nat} :
    i ∈ chosenIn keys range ↔ ∃ key, keys[i]? = some key ∧ range.contains key = true := by
  unfold chosenIn
  rw [List.mem_filter, mem_order]
  constructor
  · rintro ⟨hi, hin⟩
    exact ⟨keyAt keys i, getElem?_eq_some_keyAt hi, hin⟩
  · rintro ⟨key, hkey, hin⟩
    have hi := (List.getElem?_eq_some_iff.mp hkey).1
    obtain rfl := Option.some.inj ((getElem?_eq_some_keyAt hi).symm.trans hkey)
    exact ⟨hi, hin⟩

end Keyspan.Sample
