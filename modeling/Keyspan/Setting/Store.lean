import Keyspan.Index
import Keyspan.Setting.Scan

/-!
# Setting maps that are shared

Several parties may hold one setting map: what one of them writes, the others read. A `Store`
holds the maps that callers gave, the maps that parties made for themselves, and the *handles*: a
handle is a party that holds one of these maps. Attaching to a given map shares it, copying a
handle gives the copy a map of its own, and a map that was made for one party is never given to
another (`ScanOptions.from_dict`, `ScanOptions.copy`).

* `Store.attach`, `Store.add`, `Store.copy`: new handles.
* `Store.settings`: the map of a handle.
* `Store.put`, `Store.write`: writing as a caller and writing as a party.

Results: `settings_update`: what a party wrote is read by every party that shares its map, itself
included; `settings_update_of_ne`: no other party reads it.
-/

namespace Keyspan.Setting

/-- Where a map is kept: among those that callers gave, or among those made for one party. -/
inductive Place where
  | given (index : Nat)
  | own (index : Nat)
  deriving DecidableEq

/-- The maps, and for each handle the place of the map it holds. -/
structure Store where
  given : List Settings
  own : List Settings
  handles : List Place

namespace Store

/-- A store that holds the given maps and has no handles. -/
def ofMaps (maps : List Settings) : Store := ⟨maps, [], []⟩

/-- The map at a place. -/
def mapAt (st : Store) : Place → Except Failure Settings
  | .given index => itemAt st.given index
  | .own index => itemAt st.own index

/-- Replace the map at a place. -/
def replace (st : Store) (place : Place) (s : Settings) : Store :=
  match place with
  | .given index => { st with given := st.given.set index s }
  | .own index => { st with own := st.own.set index s }

/-- **The map that a handle holds.** -/
def settings (st : Store) (handle : Nat) : Except Failure Settings := do
  st.mapAt (← itemAt st.handles handle)

/-- A new handle on a given map, and its number. -/
def attach (st : Store) (index : Nat) : Except Failure (Store × Nat) :=
  (itemAt st.given index).map fun _ =>
    ({ st with handles := st.handles ++ [.given index] }, st.handles.length)

/-- A new handle on a new map, and its number. -/
def add (st : Store) (s : Settings) : Store × Nat :=
  (⟨st.given, st.own ++ [s], st.handles ++ [.own st.own.length]⟩, st.handles.length)

/-- A new handle on a copy of a handle's map, and its number (`copy`). -/
def copy (st : Store) (handle : Nat) : Except Failure (Store × Nat) :=
  (st.settings handle).map st.add

/-- **Write as a caller**: store a raw value in a given map. The map after it comes along. -/
def put (st : Store) (index : Nat) (key : String) (v : Value) :
    Except Failure (Store × Settings) :=
  (itemAt st.given index).map fun s =>
    let changed := s.put key v
    (st.replace (.given index) changed, changed)

/-- Replace the map that a handle holds, for all that share it. -/
def update (st : Store) (handle : Nat) (s : Settings) : Store :=
  match itemAt st.handles handle with
  | .ok place => st.replace place s
  | .error _ => st

/-- **Write as a party**: store the text of a value. The map after it comes along. -/
def write (st : Store) (handle : Nat) (d : Declaration) (v : Value) :
    Except Failure (Store × Settings) := do
  let s ← st.settings handle
  let changed ← s.write d v
  return (st.update handle changed, changed)

theorem mapAt_replace_self {st : Store} {place : Place} {before : Settings}
    (h : st.mapAt place = .ok before) (s : Settings) :
    (st.replace place s).mapAt place = .ok s := by
  cases place <;>
  · unfold mapAt itemAt at h ⊢
    unfold replace
    dsimp only at h ⊢
    split at h
    · rename_i hi
      have hlt := (List.getElem?_eq_some_iff.1 hi).1
      simp [hlt]
    · simp at h

theorem mapAt_replace_of_ne (st : Store) {place other : Place} (h : other ≠ place)
    (s : Settings) : (st.replace place s).mapAt other = st.mapAt other := by
  cases place <;> cases other <;> unfold mapAt itemAt replace <;> dsimp only
  all_goals
    rename_i i j
    have hij : i ≠ j := fun e => h (e ▸ rfl)
    simp [hij]

/-- **What one party wrote is read by every party that shares its map**, itself included. -/
theorem settings_update {st : Store} {handle other : Nat} {place : Place} {before : Settings}
    (hh : itemAt st.handles handle = .ok place) (ho : itemAt st.handles other = .ok place)
    (hp : st.mapAt place = .ok before) (s : Settings) :
    (st.update handle s).settings other = .ok s := by
  have hu : st.update handle s = st.replace place s := by unfold update; rw [hh]
  have hs : (st.replace place s).handles = st.handles := by cases place <;> rfl
  unfold settings
  rw [hu, hs, ho]
  exact mapAt_replace_self hp s

/-- **A party that holds another map does not read what was written.** -/
theorem settings_update_of_ne {st : Store} {handle other : Nat} {place elsewhere : Place}
    (hh : itemAt st.handles handle = .ok place) (ho : itemAt st.handles other = .ok elsewhere)
    (hne : elsewhere ≠ place) (s : Settings) :
    (st.update handle s).settings other = st.settings other := by
  have hu : st.update handle s = st.replace place s := by unfold update; rw [hh]
  have hs : (st.replace place s).handles = st.handles := by cases place <;> rfl
  unfold settings
  rw [hu, hs, ho]
  exact mapAt_replace_of_ne st hne s

end Store

end Keyspan.Setting
