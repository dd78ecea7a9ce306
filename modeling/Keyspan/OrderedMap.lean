/-!
# Maps in order of first arrival

A map from keys to values that remembers the order in which its keys first arrived. Storing a
value at a key that is there replaces the value and leaves the key in its place.

Results: the view of a map is its look-up. `lookup_put_self` and `lookup_put_of_ne` say what
storing does to it, and `keys_put_of_mem`, `keys_put_of_notMem` say what it does to the order;
`lookup_putIfAbsent` and `keys_putIfAbsent` do so for storing what is new. Values are told by
look-ups, too: `filterMap_lookup_keys`; `lookup_foldl_put` is about storing many of them.
-/

namespace Keyspan

/-- A map from keys to values, in order of first arrival. -/
structure OrderedMap (κ : Type) (α : Type) where
  entries : List (κ × α)
  deriving DecidableEq

namespace OrderedMap

variable {κ α : Type} [DecidableEq κ]

def empty : OrderedMap κ α := ⟨[]⟩

/-- The value of a key among entries. -/
def lookupIn (key : κ) : List (κ × α) → Option α
  | [] => none
  | (k, v) :: rest => if key = k then some v else lookupIn key rest

/-- Store a value at a key among entries: in place if the key is there, else at the end. -/
def putIn (key : κ) (v : α) : List (κ × α) → List (κ × α)
  | [] => [(key, v)]
  | (k, w) :: rest => if key = k then (k, v) :: rest else (k, w) :: putIn key v rest

def lookup (m : OrderedMap κ α) (key : κ) : Option α := lookupIn key m.entries

def put (m : OrderedMap κ α) (key : κ) (v : α) : OrderedMap κ α := ⟨putIn key v m.entries⟩

/-- Store a value at a key that is not there; a key that is there keeps its value. -/
def putIfAbsent (m : OrderedMap κ α) (key : κ) (v : α) : OrderedMap κ α :=
  match m.lookup key with
  | none => m.put key v
  | some _ => m

/-- The keys, in order of first arrival. -/
def keys (m : OrderedMap κ α) : List κ := m.entries.map Prod.fst

/-- The values, in the order of their keys. -/
def values (m : OrderedMap κ α) : List α := m.entries.map Prod.snd

def size (m : OrderedMap κ α) : Nat := m.entries.length

/-- The map that stores the given pairs one after another. -/
def ofList (pairs : List (κ × α)) : OrderedMap κ α :=
  pairs.foldl (fun m pair => m.put pair.1 pair.2) empty

theorem lookupIn_putIn_self (key : κ) (v : α) (entries : List (κ × α)) :
    lookupIn key (putIn key v entries) = some v := by
  induction entries with
  | nil => simp [putIn, lookupIn]
  | cons e rest ih =>
    obtain ⟨k, w⟩ := e
    unfold putIn
    split
    · rename_i h
      simp [lookupIn, h]
    · rename_i h
      rw [lookupIn, if_neg h]
      exact ih

theorem lookupIn_putIn_of_ne {key other : κ} (h : other ≠ key) (v : α)
    (entries : List (κ × α)) : lookupIn other (putIn key v entries) = lookupIn other entries := by
  induction entries with
  | nil => simp [putIn, lookupIn, h]
  | cons e rest ih =>
    obtain ⟨k, w⟩ := e
    unfold putIn
    split
    · rename_i hk
      have hne : ¬ other = k := fun e => h (e.trans hk.symm)
      simp [lookupIn, hne]
    · simp only [lookupIn]
      split
      · rfl
      · exact ih

@[simp] theorem lookup_put_self (m : OrderedMap κ α) (key : κ) (v : α) :
    (m.put key v).lookup key = some v := lookupIn_putIn_self key v m.entries

theorem lookup_put_of_ne (m : OrderedMap κ α) {key other : κ} (h : other ≠ key) (v : α) :
    (m.put key v).lookup other = m.lookup other := lookupIn_putIn_of_ne h v m.entries

theorem keys_putIn (key : κ) (v : α) (entries : List (κ × α)) :
    (putIn key v entries).map Prod.fst =
      if key ∈ entries.map Prod.fst then entries.map Prod.fst
      else entries.map Prod.fst ++ [key] := by
  induction entries with
  | nil => rfl
  | cons e rest ih =>
    obtain ⟨k, w⟩ := e
    unfold putIn
    split
    · rename_i h
      simp [h]
    · rename_i h
      rw [List.map_cons, ih]
      by_cases hr : key ∈ rest.map Prod.fst
      · rw [if_pos hr, if_pos (by simp [hr])]
        rfl
      · rw [if_neg hr, if_neg (by simpa [h] using hr)]
        rfl

theorem keys_put_of_mem {m : OrderedMap κ α} {key : κ} (h : key ∈ m.keys) (v : α) :
    (m.put key v).keys = m.keys := by
  unfold keys put at *
  rw [keys_putIn, if_pos h]

theorem keys_put_of_notMem {m : OrderedMap κ α} {key : κ} (h : key ∉ m.keys) (v : α) :
    (m.put key v).keys = m.keys ++ [key] := by
  unfold keys put at *
  rw [keys_putIn, if_neg h]

theorem lookupIn_eq_none_iff (key : κ) (entries : List (κ × α)) :
    lookupIn key entries = none ↔ key ∉ entries.map Prod.fst := by
  induction entries with
  | nil => simp [lookupIn]
  | cons e rest ih =>
    obtain ⟨k, v⟩ := e
    by_cases h : key = k <;> simp [lookupIn, h, ih]

theorem lookup_eq_none_iff (m : OrderedMap κ α) (key : κ) : m.lookup key = none ↔ key ∉ m.keys :=
  lookupIn_eq_none_iff key m.entries

theorem nodup_keys_put {m : OrderedMap κ α} (h : m.keys.Nodup) (key : κ) (v : α) :
    (m.put key v).keys.Nodup := by
  by_cases hkey : key ∈ m.keys
  · rwa [keys_put_of_mem hkey]
  · rw [keys_put_of_notMem hkey, List.nodup_append]
    refine ⟨h, List.nodup_cons.mpr ⟨List.not_mem_nil, List.nodup_nil⟩, fun a ha b hb => ?_⟩
    rintro rfl
    exact hkey (List.mem_singleton.mp hb ▸ ha)

section Fold

variable {β : Type} (key : β → κ) (value : β → α)

/-- **Of what is stored one after another the last value of a key is there.** -/
theorem lookup_foldl_put (items : List β) (m : OrderedMap κ α) (k : κ) :
    (items.foldl (fun m b => m.put (key b) (value b)) m).lookup k =
      ((items.filter fun b => key b = k).getLast?.map value).or (m.lookup k) := by
  induction items generalizing m with
  | nil => rfl
  | cons b rest ih =>
    rw [List.foldl_cons, ih]
    by_cases hb : key b = k
    · subst hb
      rw [lookup_put_self, List.filter_cons_of_pos (by simp), List.getLast?_cons]
      cases (rest.filter fun c => key c = key b).getLast? <;> rfl
    · rw [lookup_put_of_ne m (Ne.symm hb), List.filter_cons_of_neg (by simpa using hb)]

theorem nodup_keys_foldl_put (items : List β) {m : OrderedMap κ α} (h : m.keys.Nodup) :
    (items.foldl (fun m b => m.put (key b) (value b)) m).keys.Nodup := by
  induction items generalizing m with
  | nil => exact h
  | cons b rest ih => exact ih (nodup_keys_put h (key b) (value b))

end Fold

theorem lookup_putIfAbsent (m : OrderedMap κ α) (key : κ) (v : α) (other : κ) :
    (m.putIfAbsent key v).lookup other =
      (m.lookup other).or (if other = key then some v else none) := by
  unfold putIfAbsent
  by_cases h : other = key
  · subst h
    cases hk : m.lookup other with
    | none => simp
    | some w => simp [hk]
  · rw [if_neg h, Option.or_none]
    cases m.lookup key with
    | none => exact lookup_put_of_ne m h v
    | some w => rfl

theorem keys_putIfAbsent (m : OrderedMap κ α) (key : κ) (v : α) :
    (m.putIfAbsent key v).keys = if key ∈ m.keys then m.keys else m.keys ++ [key] := by
  unfold putIfAbsent
  cases h : m.lookup key with
  | none =>
    have hk := (lookup_eq_none_iff m key).1 h
    rw [if_neg hk]
    exact keys_put_of_notMem hk v
  | some w =>
    rw [if_pos (Decidable.not_not.1 fun hk => by simp [(lookup_eq_none_iff m key).2 hk] at h)]

theorem lookupIn_of_mem {entries : List (κ × α)} (h : (entries.map Prod.fst).Nodup) {e : κ × α}
    (he : e ∈ entries) : lookupIn e.1 entries = some e.2 := by
  induction entries with
  | nil => exact absurd he List.not_mem_nil
  | cons first rest ih =>
    obtain ⟨k, v⟩ := first
    obtain ⟨hk, hrest⟩ := List.nodup_cons.1 h
    rcases List.mem_cons.1 he with rfl | he
    · exact if_pos rfl
    · have hmem : e.1 ∈ rest.map Prod.fst := List.mem_map_of_mem he
      have hne : ¬ e.1 = k := fun heq => hk (heq ▸ hmem)
      exact (if_neg hne).trans (ih hrest he)

/-- **Every value is found at its key**, if no key is there twice. -/
theorem filterMap_lookup_keys {m : OrderedMap κ α} (h : m.keys.Nodup) :
    m.keys.filterMap m.lookup = m.values := by
  -- of any of the entries, the values are found at the keys
  suffices hpart : ∀ part : List (κ × α), (∀ e ∈ part, e ∈ m.entries) →
      (part.map Prod.fst).filterMap m.lookup = part.map Prod.snd from
    hpart m.entries fun _ he => he
  intro part hsub
  induction part with
  | nil => rfl
  | cons e rest ih =>
    have he : m.lookup e.1 = some e.2 := lookupIn_of_mem h (hsub e List.mem_cons_self)
    rw [List.map_cons, List.filterMap_cons, he, ih fun e he => hsub e (List.mem_cons_of_mem _ he)]
    rfl

end OrderedMap

end Keyspan
