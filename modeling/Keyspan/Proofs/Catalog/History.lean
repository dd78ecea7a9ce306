import Keyspan.Catalog
import Keyspan.Proofs.Assignment.Order
import Mathlib.Data.List.Induction

/-!
# A catalog answers by the last registrations

What a catalog answers is determined by its history: the changes that were made to it, one after
another, some of which it refused. A registration is checked as a whole before the first of the two
maps is written, so one that is refused leaves no trace, and one that is not refused writes both. So
the maps stay in step, and a table is known by the last registration that was not refused, whatever
else was registered; all questions about a table are answered or fail for one reason.

* `Catalog.Registrable`: what can be registered for a table.
* `Catalog.InStep`: the two maps have the same tables.
* `Catalog.Change`, `Catalog.after`, `Catalog.run`: the changes of a catalog, and the catalog after
  them.
* `Catalog.lastRegistration?`, `Catalog.lastAvailability`: what the changes come to.

Results:
* `register_cases`: a registration enters its table in both maps, or changes nothing.
* `after_of_error`: no change that fails leaves a trace.
* `InStep.after`, `InStep.run`: the maps stay in step.
* `schemas_after`, `locations_after`, `available_after`: what one change does.
* `run_of_after`: what all changes of a history do, by what one of them does.
* `schemas_run`, `locations_run`, `available_run`: what is known of a table, and whether the catalog
  is within reach.
* `answers_of_history`: what a catalog refuses and what it answers after any changes.
-/

namespace Keyspan.Catalog

/-! ## Registrations -/

/-- **What can be registered for a table**: partitions of that table, no two of them under one
id. -/
structure Registrable (table : String) (partitions : List Hosted) : Prop where
  own : ∀ h ∈ partitions, h.partition.table = table
  distinct : (partitions.map Hosted.id).Nodup

theorem registrable_iff {table : String} {partitions : List Hosted} :
    Registrable table partitions ↔
      (∀ h ∈ partitions, h.partition.table = table) ∧ (partitions.map Hosted.id).Nodup :=
  ⟨fun h => ⟨h.own, h.distinct⟩, fun ⟨hown, hdistinct⟩ => ⟨hown, hdistinct⟩⟩

instance (table : String) (partitions : List Hosted) : Decidable (Registrable table partitions) :=
  decidable_of_iff' _ registrable_iff

/-- A catalog with a table in both maps. -/
def enter (c : Catalog) (schema : Schema) (partitions : List Hosted) : Catalog :=
  { c with
    schemas := c.schemas.put schema.table schema
    locations := c.locations.put schema.table (Hosted.sort partitions) }

/-- Partitions are checked for their table one after the other; no check changes the catalog. -/
theorem checkOwn_cases (table : String) (partitions : List Hosted) (c : Catalog) :
    ((∀ h ∈ partitions, h.partition.table = table) ∧
      (checkOwn table partitions).on c = (.ok (), c)) ∨
    (∃ h ∈ partitions, h.partition.table ≠ table) ∧
      ∃ f, (checkOwn table partitions).on c = (.error f, c) ∧ f.category = .invalidInput := by
  induction partitions with
  | nil => exact .inl ⟨fun _ h => absurd h List.not_mem_nil, rfl⟩
  | cons h rest ih =>
    unfold checkOwn
    by_cases hown : h.partition.table = table
    · rw [if_neg (not_not.mpr hown)]
      rcases ih with ⟨hall, hok⟩ | ⟨⟨other, hmem, hne⟩, hrefused⟩
      · exact .inl ⟨List.forall_mem_cons.mpr ⟨hown, hall⟩, hok⟩
      · exact .inr ⟨⟨other, List.mem_cons_of_mem h hmem, hne⟩, hrefused⟩
    · rw [if_pos hown]
      exact .inr ⟨⟨h, List.mem_cons_self, hown⟩, _, rfl, rfl⟩

/-- **A registration enters its table in both maps, or it is refused** as invalid input and changes
nothing. -/
theorem register_cases (c : Catalog) (schema : Schema) (partitions : List Hosted) :
    (Registrable schema.table partitions ∧
      (register schema partitions).on c = (.ok (), c.enter schema partitions)) ∨
    (¬ Registrable schema.table partitions ∧
      ∃ f, (register schema partitions).on c = (.error f, c) ∧ f.category = .invalidInput) := by
  unfold register
  rcases checkOwn_cases schema.table partitions c with
    ⟨hown, hok⟩ | ⟨⟨h, hmem, hne⟩, f, hf, hcategory⟩
  · rw [Op.on_bind_of_ok hok]
    dsimp only
    by_cases hdistinct : (partitions.map Hosted.id).Nodup
    · rw [if_pos hdistinct]
      exact .inl ⟨⟨hown, hdistinct⟩, rfl⟩
    · rw [if_neg hdistinct]
      exact .inr ⟨fun hr => hdistinct hr.distinct, _, rfl, rfl⟩
  · rw [Op.on_bind_of_error hf]
    exact .inr ⟨fun hr => hne (hr.own h hmem), f, rfl, hcategory⟩

theorem register_eq_ok_iff {c c' : Catalog} {schema : Schema} {partitions : List Hosted} :
    (register schema partitions).on c = (.ok (), c') ↔
      Registrable schema.table partitions ∧ c' = c.enter schema partitions := by
  rcases c.register_cases schema partitions with ⟨hr, heq⟩ | ⟨hr, f, heq, -⟩
  · simp [heq, hr, eq_comm]
  · simp [heq, hr]

theorem available_of_register {c c' : Catalog} {schema : Schema} {partitions : List Hosted}
    (h : (register schema partitions).on c = (.ok (), c')) : c'.available = c.available := by
  rw [(register_eq_ok_iff.mp h).2]
  rfl

/-! ## Changes -/

/-- The changes that are made to a catalog. -/
inductive Change where
  /-- A table is registered. -/
  | register (schema : Schema) (partitions : List Hosted)
  /-- The catalog comes within reach or gets out of it. -/
  | setAvailable (available : Bool)

/-- What a change does. -/
def Change.op : Change → Op Unit
  | .register schema partitions => Catalog.register schema partitions
  | .setAvailable available => Catalog.setAvailable available

/-- The catalog after a change, whether the change is refused or not. -/
def after (c : Catalog) (k : Change) : Catalog := (k.op.on c).2

/-- Changes, one after another. -/
def run (c : Catalog) (changes : List Change) : Catalog := changes.foldl after c

/-- What a change registers for a table, if it does and is not refused. -/
def Change.registers? (table : String) : Change → Option (Schema × List Hosted)
  | .register schema partitions =>
    if schema.table = table ∧ Registrable table partitions then some (schema, partitions) else none
  | .setAvailable _ => none

/-- Whether a change brings the catalog within reach, if it is about that. -/
def Change.available? : Change → Option Bool
  | .register .. => none
  | .setAvailable available => some available

/-- **The last registration of a table** that was not refused. -/
def lastRegistration? (table : String) (changes : List Change) : Option (Schema × List Hosted) :=
  (changes.filterMap (Change.registers? table)).getLast?

/-- **Whether the catalog was last within reach**; at first it is. -/
def lastAvailability (changes : List Change) : Bool :=
  (changes.filterMap Change.available?).getLast?.getD true

theorem after_register (c : Catalog) (schema : Schema) (partitions : List Hosted) :
    c.after (.register schema partitions) =
      if Registrable schema.table partitions then c.enter schema partitions else c := by
  unfold after Change.op
  rcases c.register_cases schema partitions with ⟨hr, heq⟩ | ⟨hr, f, heq, -⟩
  · rw [heq, if_pos hr]
  · rw [heq, if_neg hr]

/-- **A change that fails leaves no trace.** -/
theorem after_of_error {c : Catalog} {k : Change} {f : Failure} (h : (k.op.on c).1 = .error f) :
    c.after k = c := by
  cases k with
  | setAvailable available => cases h
  | register schema partitions =>
    rw [after_register]
    unfold Change.op at h
    rcases c.register_cases schema partitions with ⟨-, heq⟩ | ⟨hr, -⟩
    · rw [heq] at h
      cases h
    · exact if_neg hr

/-- The two maps of a catalog have the same tables. -/
def InStep (c : Catalog) : Prop :=
  ∀ table, (c.schemas.lookup table).isSome = (c.locations.lookup table).isSome

/-- **A change keeps the maps in step.** -/
theorem InStep.after {c : Catalog} (h : c.InStep) (k : Change) : (c.after k).InStep := by
  intro table
  cases k with
  | setAvailable available => exact h table
  | register schema partitions =>
    rw [after_register]
    split
    · unfold enter
      by_cases ht : table = schema.table
      · subst ht
        simp
      · simp only [OrderedMap.lookup_put_of_ne _ ht]
        exact h table
    · exact h table

theorem InStep.run {c : Catalog} (h : c.InStep) (changes : List Change) :
    (c.run changes).InStep := by
  induction changes generalizing c with
  | nil => exact h
  | cons k rest ih => exact ih (h.after k)

/-- What a registration makes of one map: it is entered for its table, unless it is refused. -/
theorem lookup_put_registers {α : Type} (tables : OrderedMap String α)
    (part : Schema × List Hosted → α) (schema : Schema) (partitions : List Hosted)
    (table : String) :
    (if Registrable schema.table partitions then
        tables.put schema.table (part (schema, partitions))
      else tables).lookup table =
      (((Change.register schema partitions).registers? table).map part).or
        (tables.lookup table) := by
  unfold Change.registers?
  dsimp only
  by_cases hr : Registrable schema.table partitions
  · rw [if_pos hr]
    by_cases ht : schema.table = table
    · subst ht
      rw [if_pos ⟨rfl, hr⟩]
      exact OrderedMap.lookup_put_self _ _ _
    · rw [if_neg fun h => ht h.1]
      exact OrderedMap.lookup_put_of_ne _ (Ne.symm ht) _
  · rw [if_neg hr, if_neg]
    · rfl
    · rintro ⟨rfl, h⟩
      exact hr h

/-- **One change** gives a table the schema that it registers, and no other table any. -/
theorem schemas_after (c : Catalog) (k : Change) (table : String) :
    (c.after k).schemas.lookup table =
      ((k.registers? table).map Prod.fst).or (c.schemas.lookup table) := by
  cases k with
  | setAvailable available => rfl
  | register schema partitions =>
    rw [after_register, ← lookup_put_registers c.schemas Prod.fst]
    split <;> rfl

/-- The partitions of a registration, in order. -/
def sorted (r : Schema × List Hosted) : List Hosted := Hosted.sort r.2

theorem locations_after (c : Catalog) (k : Change) (table : String) :
    (c.after k).locations.lookup table =
      ((k.registers? table).map sorted).or (c.locations.lookup table) := by
  cases k with
  | setAvailable available => rfl
  | register schema partitions =>
    rw [after_register, ← lookup_put_registers c.locations sorted]
    split <;> rfl

theorem available_after (c : Catalog) (k : Change) :
    some (c.after k).available = k.available?.or (some c.available) := by
  cases k with
  | setAvailable available => rfl
  | register schema partitions =>
    rw [after_register]
    split <;> rfl

/-! ## Histories -/

/-- **What every change either makes new or leaves as it is**, is after all changes as the last of
them made it that did, and as it was if none did. -/
theorem run_of_after {α : Type} (view : Catalog → Option α) (news : Change → Option α)
    (hafter : ∀ c k, view (c.after k) = (news k).or (view c)) (c : Catalog)
    (changes : List Change) :
    view (c.run changes) = (changes.filterMap news).getLast?.or (view c) := by
  unfold run
  induction changes using List.reverseRecOn with
  | nil => rfl
  | append_singleton changes k ih =>
    rw [List.foldl_concat, hafter, ih, List.filterMap_append, List.getLast?_append, Option.or_assoc]
    cases hk : news k <;> simp [hk]

/-- **After any changes a table has the schema of its last registration.** -/
theorem schemas_run (changes : List Change) (table : String) :
    (empty.run changes).schemas.lookup table = (lastRegistration? table changes).map Prod.fst := by
  have hrun := run_of_after (fun c => c.schemas.lookup table)
    (fun k => (k.registers? table).map Prod.fst) (fun c k => c.schemas_after k table) empty changes
  rw [← List.map_filterMap, List.getLast?_map] at hrun
  exact hrun.trans Option.or_none

theorem locations_run (changes : List Change) (table : String) :
    (empty.run changes).locations.lookup table =
      (lastRegistration? table changes).map sorted := by
  have hrun := run_of_after (fun c => c.locations.lookup table)
    (fun k => (k.registers? table).map sorted) (fun c k => c.locations_after k table) empty changes
  rw [← List.map_filterMap, List.getLast?_map] at hrun
  exact hrun.trans Option.or_none

theorem available_run (changes : List Change) :
    (empty.run changes).available = lastAvailability changes := by
  have hrun := run_of_after (fun c => some c.available) Change.available? available_after empty
    changes
  exact Option.some.inj (hrun.trans Option.or_some)

/-- The last registration of a table is one of the table, and was not refused. -/
theorem registrable_of_lastRegistration {changes : List Change} {table : String} {schema : Schema}
    {partitions : List Hosted} (h : lastRegistration? table changes = some (schema, partitions)) :
    schema.table = table ∧ Registrable table partitions := by
  obtain ⟨k, -, hk⟩ := List.mem_filterMap.mp (List.mem_of_getLast? h)
  cases k with
  | setAvailable available => exact nomatch hk
  | register schema' partitions' =>
    unfold Change.registers? at hk
    dsimp only at hk
    split at hk
    · rename_i hr
      obtain ⟨rfl, rfl⟩ := Prod.mk.inj (Option.some.inj hk)
      exact hr
    · exact nomatch hk

/-! ## Questions -/

theorem outcome_locate (c : Catalog) (table : String) (range : KeyRange) :
    (c.locate table range).outcome = (c.located table).map (Hosted.overlapping range) := by
  unfold locate Traced.call
  cases c.located table <;> rfl

theorem overlapping_unbounded (partitions : List Hosted) :
    Hosted.overlapping ⟨[], []⟩ partitions = partitions := by
  simp [Hosted.overlapping, KeyRange.overlaps]

/-- **What one map answers after any changes**, if it has of every table what part of its last
registration it keeps. -/
theorem entry_run {α : Type} {part : Schema × List Hosted → α} {changes : List Change}
    {tables : OrderedMap String α} {table : String}
    (h : tables.lookup table = (lastRegistration? table changes).map part) :
    (do (empty.run changes).checkAvailable; entry tables table) =
      if lastAvailability changes then
        match lastRegistration? table changes with
        | some r => .ok (part r)
        | none => .error (.unknownTable table)
      else .error outage := by
  unfold checkAvailable entry
  rw [available_run, h]
  cases lastAvailability changes <;> cases lastRegistration? table changes <;> rfl

/-- **A catalog answers by the last registrations.** After any changes, a registration is refused,
as invalid input, iff it has a partition of another table or two partitions of one id, and then the
catalog is as it was; a change that fails could as well not have been made. Out of reach the catalog
answers nothing and reports that. Within reach a table that was never registered without being
refused is unknown, whatever is asked of it; any other table has the schema and the partitions of
its last such registration, in order of start key and id, no two of them with one id: a question for
its schema, for its ids or for the partitions in a range is answered by these. -/
theorem answers_of_history (changes : List Change) :
    let c := empty.run changes
    (∀ schema partitions,
      if (∃ h ∈ partitions, h.partition.table ≠ schema.table) ∨
          ¬ (partitions.map Hosted.id).Nodup then
        ∃ f, (register schema partitions).on c = (.error f, c) ∧ f.category = .invalidInput
      else ∃ c', (register schema partitions).on c = (.ok (), c')) ∧
      (∀ k f later, (k.op.on c).1 = .error f →
        empty.run (changes ++ k :: later) = empty.run (changes ++ later)) ∧
      ∀ table,
        if lastAvailability changes then
          match lastRegistration? table changes with
          | some (schema, partitions) => ∃ sorted : List Hosted, sorted.Perm partitions ∧
            (sorted.Pairwise fun a b => a.sortKey < b.sortKey) ∧ (sorted.map Hosted.id).Nodup ∧
            (c.askSchema table).outcome = .ok schema ∧
            (c.askIds table).outcome = .ok (sorted.map Hosted.id) ∧
            (c.locate table ⟨[], []⟩).outcome = .ok sorted ∧
            ∀ range, (c.locate table range).outcome =
              .ok (sorted.filter fun h => h.partition.range.overlaps range)
          | none =>
            (c.askSchema table).outcome = .error (.unknownTable table) ∧
            (c.askIds table).outcome = .error (.unknownTable table) ∧
            ∀ range, (c.locate table range).outcome = .error (.unknownTable table)
        else
          (c.askSchema table).outcome = .error outage ∧
          (c.askIds table).outcome = .error outage ∧
          ∀ range, (c.locate table range).outcome = .error outage := by
  intro c
  refine ⟨fun schema partitions => ?_, fun k f later hk => ?_, fun table => ?_⟩
  · rcases c.register_cases schema partitions with ⟨hr, heq⟩ | ⟨hr, hrefused⟩
    · rw [if_neg]
      · exact ⟨_, heq⟩
      · rintro (⟨h, hmem, hne⟩ | hshared)
        · exact hne (hr.own h hmem)
        · exact hshared hr.distinct
    · rw [if_pos]
      · exact hrefused
      · by_contra hno
        obtain ⟨hown, hdistinct⟩ := not_or.mp hno
        exact hr ⟨by simpa using hown, not_not.mp hdistinct⟩
  · unfold run
    rw [List.foldl_append, List.foldl_append, List.foldl_cons]
    exact congrArg (List.foldl after · later) (after_of_error hk)
  · have hschema : (c.askSchema table).outcome = _ := entry_run (schemas_run changes table)
    have hlocated : c.located table = _ := entry_run (locations_run changes table)
    have hids : (c.askIds table).outcome =
        (c.located table).map fun partitions => partitions.map Hosted.id := rfl
    simp only [hschema, hids, outcome_locate, hlocated]
    split
    · cases hlast : lastRegistration? table changes with
      | none => exact ⟨rfl, rfl, fun _ => rfl⟩
      | some r =>
        obtain ⟨schema, partitions⟩ := r
        have hdistinct := (registrable_of_lastRegistration hlast).2.distinct
        refine ⟨Hosted.sort partitions, Hosted.sort_perm partitions, Hosted.sort_strict hdistinct,
          ((Hosted.sort_perm partitions).map Hosted.id).nodup_iff.mpr hdistinct, rfl, rfl, ?_,
          fun _ => rfl⟩
        exact congrArg Except.ok (overlapping_unbounded (Hosted.sort partitions))
    · exact ⟨rfl, rfl, fun _ => rfl⟩

end Keyspan.Catalog
