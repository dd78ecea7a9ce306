import Keyspan.Proofs.Assignment.Order
import Keyspan.Proofs.Plan.Calls

/-!
# What copies of a plan node keep

A copy of a node is built anew: the partitions are sorted again, the columns are asked for again
and checked again, the sizes are added up again. What building makes of a node, building again
leaves as it is, so a copy differs from its node in what was to be changed and in nothing else,
however many copies lie between the two.

* `PlanNode.Built`: the nodes there are.
* `PlanNode.changed`: the node with what a copying changes.
* `PlanNode.Refused`: the copyings that are refused, and why.

Results:
* `Built.normal`: what building a node once more would leave as it is.
* `copy_cases`, `copies_cases`: a copying changes what it says or is refused, and so do copyings in
  a row.
* `copies_keep`: after copyings in a row a node has the projection and the mark that were last asked
  for, and everything else that it had before; they fail iff one of them is refused.
-/

namespace Keyspan

open Setting (Settings)

theorem Hosted.sort_sort (hs : List Hosted) : sort (sort hs) = sort hs :=
  List.mergeSort_of_pairwise (sort_sorted hs)

theorem Projection.columnsOf_eq (p : Projection) :
    p.columnsOf =
      if p = none ∨ p = some [] ∨ star ∈ p.getD [] then [star] else p.getD [] := by
  unfold columnsOf isStar
  cases p with
  | none => rfl
  | some columns => cases columns <;> simp

/-- **A projection is invalid iff it names no star and a column with an unknown root**; the first
one is reported. -/
theorem Schema.validate_eq_error_iff (s : Schema) (p : Projection) (f : Failure) :
    s.validate p = .error f ↔ p.isStar = false ∧ ∃ known c rest, p = some (known ++ c :: rest) ∧
      (∀ k ∈ known, s.has (root k) = true) ∧ s.has (root c) = false ∧
      f = .unknownColumn s.table (root c) := by
  unfold validate
  cases hstar : p.isStar with
  | true => simp
  | false =>
    obtain ⟨columns, rfl⟩ : ∃ columns, p = some columns := by
      cases p with
      | none => exact nomatch hstar
      | some columns => exact ⟨columns, rfl⟩
    dsimp only [Option.getD_some]
    rw [if_neg Bool.false_ne_true]
    constructor
    · intro h
      cases hr : s.unknownRoot? columns with
      | none =>
        rw [hr] at h
        exact nomatch h
      | some r =>
        rw [hr] at h
        obtain ⟨hunknown, known, c, rest, rfl, rfl, hknown⟩ :=
          (s.unknownRoot?_eq_some_iff columns r).mp hr
        exact ⟨rfl, known, c, rest, rfl, hknown, hunknown, (Except.error.inj h).symm⟩
    · rintro ⟨-, known, c, rest, hsplit, hknown, hunknown, rfl⟩
      rw [(s.unknownRoot?_eq_some_iff columns (root c)).mpr
        ⟨hunknown, known, c, rest, Option.some.inj hsplit, rfl, hknown⟩]

namespace PlanNode

/-! ## Nodes -/

/-- **A node is what was built of something.** -/
def Built (n : PlanNode) : Prop :=
  ∃ scan p partitions statistics schema settings filterPushed,
    (make scan p partitions statistics schema settings filterPushed).outcome = .ok n

/-- **What building once more leaves as it is.** -/
structure Normal (n : PlanNode) : Prop where
  columns : Projection.columnsOf (some n.columns) = n.columns
  partitions : Hosted.sort n.partitions = n.partitions
  valid : n.schema.validate (some n.columns) = .ok ()
  totalBytes :
    ((n.partitions.map Hosted.id).map n.statistics.bytesOf).foldr (· + ·) 0 = n.totalBytes

/-- **A node that was built is left as it is.** -/
theorem Built.normal {n : PlanNode} (h : n.Built) : n.Normal := by
  obtain ⟨scan, p, partitions, statistics, schema, settings, filterPushed, h⟩ := h
  rw [outcome_make_eq] at h
  cases hvalid : schema.validate (some p.columnsOf) with
  | error f =>
    rw [hvalid] at h
    exact nomatch h
  | ok u =>
    rw [hvalid] at h
    obtain rfl := Except.ok.inj h
    exact ⟨p.columnsOf_columnsOf, Hosted.sort_sort partitions, hvalid, rfl⟩

/-- **Building a node again** asks for the projection and sets the mark. -/
theorem Normal.outcome_make {n : PlanNode} (h : n.Normal) (p : Projection) (filterPushed : Bool) :
    (make n.scan p n.partitions n.statistics n.schema n.settings filterPushed).outcome =
      (n.schema.validate (some p.columnsOf)).map fun _ =>
        { n with columns := p.columnsOf, filterPushed := filterPushed } := by
  rw [outcome_make_eq, h.partitions, h.totalBytes]

/-! ## One copy -/

/-- The projection that a copying asks for, if it asks for one. -/
def Copying.projection? : Copying → Option Projection
  | .withColumns p => some p
  | _ => none

/-- The mark that a copying sets, if it sets one. -/
def Copying.filterPushed? : Copying → Option Bool
  | .withFilterPushed filterPushed => some filterPushed
  | _ => none

/-- **The node with what a copying changes.** -/
def changed (n : PlanNode) : Copying → PlanNode
  | .withColumns p => { n with columns := p.columnsOf }
  | .withFilterPushed filterPushed => { n with filterPushed := filterPushed }
  | .specialize _ => n

/-- **The copyings that are refused, and why.** A node has no inputs. A projection that does not
ask for all columns has to name columns whose roots are the row key or columns of the table; the
first one that is neither is named. -/
inductive Refused (s : Schema) : Copying → Failure → Prop
  | inputs {children : Nat} (h : children ≠ 0) :
      Refused s (.specialize children) (.notALeaf children)
  | column {known rest : List String} {c : String} (hstar : Projection.star ∉ known ++ c :: rest)
      (hknown : ∀ k ∈ known, Schema.root k = s.rowKey ∨ Schema.root k ∈ s.columns)
      (hunknown : ¬ (Schema.root c = s.rowKey ∨ Schema.root c ∈ s.columns)) :
      Refused s (.withColumns (some (known ++ c :: rest)))
        (.unknownColumn s.table (Schema.root c))

/-- The category of a refusal: columns do not match the schema, anything else is invalid. -/
def Copying.refusal : Copying → Failure.Category
  | .withColumns _ => .schemaMismatch
  | _ => .invalidInput

theorem Refused.category {s : Schema} {k : Copying} {f : Failure} (h : Refused s k f) :
    f.category = k.refusal := by
  cases h <;> rfl

theorem refused_withColumns_iff {s : Schema} {p : Projection} {f : Failure} :
    Refused s (.withColumns p) f ↔ s.validate (some p.columnsOf) = .error f := by
  rw [Schema.validate_eq_error_iff]
  constructor
  · rintro ⟨⟩
    rename_i known rest c hstar hknown hunknown
    have hasked : Projection.columnsOf (some (known ++ c :: rest)) = known ++ c :: rest :=
      (Projection.columnsOf_eq _).trans (if_neg (by simpa using hstar))
    rw [hasked]
    refine ⟨by simpa [Projection.isStar] using hstar, known, c, rest, rfl, fun k hk => ?_, ?_, rfl⟩
    · exact (s.has_iff _).mpr (hknown k hk)
    · exact Bool.eq_false_iff.mpr fun h => hunknown ((s.has_iff _).mp h)
  · rintro ⟨hstar, known, c, rest, hsplit, hknown, hunknown, rfl⟩
    rw [Projection.columnsOf_eq] at hsplit hstar
    split at hsplit
    · rename_i hall
      rw [if_pos hall] at hstar
      exact nomatch hstar
    · rename_i hsome
      obtain ⟨hnone, -, hnotStar⟩ := not_or.mp hsome |>.imp_right not_or.mp
      obtain ⟨columns, rfl⟩ := Option.ne_none_iff_exists'.mp hnone
      obtain rfl : columns = known ++ c :: rest := Option.some.inj hsplit
      refine .column hnotStar (fun k hk => (s.has_iff _).mp (hknown k hk)) fun h => ?_
      rw [(s.has_iff _).mpr h] at hunknown
      exact nomatch hunknown

/-- **A copying changes what it says, or is refused.** -/
theorem copy_cases {n : PlanNode} (h : n.Normal) (k : Copying) :
    (n.copy k).outcome = .ok (n.changed k) ∧ (∀ f, ¬ Refused n.schema k f) ∨
      ∃ f, (n.copy k).outcome = .error f ∧ Refused n.schema k f := by
  cases k with
  | withColumns p =>
    have hcopy : (n.copy (.withColumns p)).outcome = _ := h.outcome_make p n.filterPushed
    rw [hcopy]
    simp only [refused_withColumns_iff]
    cases n.schema.validate (some p.columnsOf) with
    | ok u => exact Or.inl ⟨rfl, fun f hf => nomatch hf⟩
    | error f => exact Or.inr ⟨f, rfl, rfl⟩
  | withFilterPushed filterPushed =>
    have hcopy : (n.copy (.withFilterPushed filterPushed)).outcome = _ :=
      h.outcome_make (some n.columns) filterPushed
    rw [hcopy, h.columns, h.valid]
    exact Or.inl ⟨rfl, fun f hf => nomatch hf⟩
  | specialize children =>
    by_cases hleaf : children = 0
    · subst hleaf
      have hcopy : (n.copy (.specialize 0)).outcome = _ :=
        h.outcome_make (some n.columns) n.filterPushed
      rw [hcopy, h.columns, h.valid]
      refine Or.inl ⟨rfl, ?_⟩
      rintro f ⟨hinputs⟩
      exact hinputs rfl
    · have hcopy : n.copy (.specialize children) = Traced.fail (.notALeaf children) := if_neg hleaf
      rw [hcopy]
      exact Or.inr ⟨_, rfl, .inputs hleaf⟩

theorem Built.copy {n n' : PlanNode} {k : Copying} (h : (n.copy k).outcome = .ok n') :
    n'.Built := by
  cases k with
  | withColumns p => exact ⟨_, _, _, _, _, _, _, h⟩
  | withFilterPushed filterPushed => exact ⟨_, _, _, _, _, _, _, h⟩
  | specialize children =>
    by_cases hleaf : children = 0
    · subst hleaf
      exact ⟨_, _, _, _, _, _, _, h⟩
    · have hcopy : n.copy (.specialize children) = Traced.fail (.notALeaf children) := if_neg hleaf
      rw [hcopy] at h
      exact nomatch h

/-! ## Copies in a row -/

/-- **A copy of a copy of a copy.** -/
def copies (n : PlanNode) (ks : List Copying) : Traced PlanNode := ks.foldlM copy n

theorem schema_changed (n : PlanNode) (k : Copying) : (n.changed k).schema = n.schema := by
  cases k <;> rfl

/-- **Copyings in a row change what they say, or the first that is refused ends them.** -/
theorem copies_cases {n : PlanNode} (h : n.Built) (ks : List Copying) :
    (n.copies ks).outcome = .ok (ks.foldl changed n) ∧
        (∀ k ∈ ks, ∀ f, ¬ Refused n.schema k f) ∨
      ∃ f, (n.copies ks).outcome = .error f ∧ ∃ done k left, ks = done ++ k :: left ∧
        (∀ j ∈ done, ∀ g, ¬ Refused n.schema j g) ∧ Refused n.schema k f := by
  induction ks generalizing n with
  | nil => exact Or.inl ⟨rfl, fun k hk => nomatch hk⟩
  | cons k ks ih =>
    have hcopies : n.copies (k :: ks) = n.copy k >>= fun n' => n'.copies ks := List.foldlM_cons
    rw [hcopies]
    rcases copy_cases h.normal k with ⟨hok, hk⟩ | ⟨f, hf, hk⟩
    · have hrest := ih (Built.copy hok)
      rw [schema_changed] at hrest
      rw [Traced.outcome_bind_of_ok hok]
      rcases hrest with ⟨hall, hks⟩ | ⟨f, hf, done, j, left, rfl, hdone, hj⟩
      · exact Or.inl ⟨hall, List.forall_mem_cons.mpr ⟨hk, hks⟩⟩
      · exact Or.inr ⟨f, hf, k :: done, j, left, rfl, List.forall_mem_cons.mpr ⟨hk, hdone⟩, hj⟩
    · rw [Traced.outcome_bind_of_error hf]
      exact Or.inr ⟨f, rfl, [], k, ks, rfl, List.forall_mem_nil _, hk⟩

/-- **What copyings in a row change**: the last projection and the last mark that are asked for. -/
theorem foldl_changed (n : PlanNode) (ks : List Copying) :
    ks.foldl changed n = { n with
      columns := ((ks.filterMap Copying.projection?).getLast?.map Projection.columnsOf).getD
        n.columns
      filterPushed := (ks.filterMap Copying.filterPushed?).getLast?.getD n.filterPushed } := by
  induction ks generalizing n with
  | nil => rfl
  | cons k ks ih =>
    rw [List.foldl_cons, ih]
    cases k with
    | withColumns p =>
      have hasked : (Copying.withColumns p :: ks).filterMap Copying.projection? =
          p :: ks.filterMap Copying.projection? := rfl
      rw [hasked, List.getLast?_cons]
      cases (ks.filterMap Copying.projection?).getLast? <;> rfl
    | withFilterPushed filterPushed =>
      have hset : (Copying.withFilterPushed filterPushed :: ks).filterMap Copying.filterPushed? =
          filterPushed :: ks.filterMap Copying.filterPushed? := rfl
      rw [hset, List.getLast?_cons]
      rfl
    | specialize children => rfl

/-- **Copies keep everything but projection and mark.** Copyings in a row fail iff one of them is
refused, and the first that is says why. Otherwise the last copy has the columns that were last
asked for, all of them if none or the star was named, and the mark that was last set; whatever was
not asked for is as it was. Scan, partitions, bytes, statistics, schema, settings and width are
those of the node, and so are assignment and affinities, whatever the endpoints. -/
theorem copies_keep {n : PlanNode} (h : n.Built) (ks : List Copying) :
    match (n.copies ks).outcome with
    | .error f => ∃ done k left, ks = done ++ k :: left ∧
        (∀ j ∈ done, ∀ g, ¬ Refused n.schema j g) ∧ Refused n.schema k f ∧
        f.category = k.refusal
    | .ok n' => (∀ k ∈ ks, ∀ f, ¬ Refused n.schema k f) ∧
        (n'.columns = match (ks.filterMap Copying.projection?).getLast? with
          | none => n.columns
          | some p => if p = none ∨ p = some [] ∨ Projection.star ∈ p.getD [] then
              [Projection.star] else p.getD []) ∧
        n'.filterPushed = (ks.filterMap Copying.filterPushed?).getLast?.getD n.filterPushed ∧
        n'.scan = n.scan ∧ n'.partitions = n.partitions ∧ n'.totalBytes = n.totalBytes ∧
        n'.statistics = n.statistics ∧ n'.schema = n.schema ∧ n'.settings = n.settings ∧
        n'.width = n.width ∧ ∀ endpoints, n'.assign endpoints = n.assign endpoints ∧
          n'.affinities endpoints = n.affinities endpoints := by
  rcases copies_cases h ks with ⟨hok, hks⟩ | ⟨f, hf, done, k, left, hsplit, hdone, hk⟩
  · rw [hok, foldl_changed]
    refine ⟨hks, ?_, rfl, rfl, rfl, rfl, rfl, rfl, rfl, rfl, fun endpoints => ⟨rfl, rfl⟩⟩
    cases (ks.filterMap Copying.projection?).getLast? with
    | none => rfl
    | some p => exact p.columnsOf_eq
  · rw [hf]
    exact ⟨done, k, left, hsplit, hdone, hk, hk.category⟩

/-- The last projection asks for all columns, after one that named some. -/
theorem copies_keep_all_columns :
    let partitions : List Hosted :=
      [⟨⟨"q", "t", ⟨[5], []⟩⟩, ⟨"b", 1⟩⟩, ⟨⟨"p", "t", ⟨[], [5]⟩⟩, ⟨"a", 1⟩⟩]
    let ks : List Copying :=
      [.withFilterPushed true, .withColumns (some ["k", "a.y"]), .specialize 0,
        .withColumns (some [])]
    ∃ n n', (make ⟨"t", ⟨[], []⟩, none⟩ (some ["a.x"]) partitions ⟨.unknown, none⟩
        ⟨"t", ["a"], "k"⟩ .empty false).outcome = .ok n ∧
      (n.copies ks).outcome = .ok n' ∧ n'.columns = ["*"] ∧ n'.filterPushed = true ∧
      n'.partitions = n.partitions ∧ n'.totalBytes = n.totalBytes := by
  intro partitions ks
  obtain ⟨n, hn, hschema⟩ : ∃ n, (make ⟨"t", ⟨[], []⟩, none⟩ (some ["a.x"]) partitions
      ⟨.unknown, none⟩ ⟨"t", ["a"], "k"⟩ .empty false).outcome = .ok n ∧
        n.schema = ⟨"t", ["a"], "k"⟩ := by
    rw [outcome_make_eq]
    exact ⟨_, rfl, rfl⟩
  have hbuilt : n.Built := ⟨_, _, _, _, _, _, _, hn⟩
  have hnamed : (n.schema.validate (some (Projection.columnsOf (some ["k", "a.y"])))) = .ok () := by
    rw [hschema]
    rfl
  have hkeep := copies_keep hbuilt ks
  rcases copies_cases hbuilt ks with ⟨hn', -⟩ | ⟨f, -, done, k, left, hsplit, -, hk⟩
  · rw [hn'] at hkeep
    obtain ⟨-, hcolumns, hpushed, -, hpartitions, hbytes, -⟩ := hkeep
    exact ⟨n, _, hn, hn', hcolumns, hpushed, hpartitions, hbytes⟩
  · have hmem : k ∈ ks := hsplit ▸ List.mem_append_right done List.mem_cons_self
    simp only [ks, List.mem_cons, List.not_mem_nil, or_false] at hmem
    rcases hmem with rfl | rfl | rfl | rfl
    · exact nomatch hk
    · rw [refused_withColumns_iff, hnamed] at hk
      exact nomatch hk
    · obtain ⟨hinputs⟩ := hk
      exact absurd rfl hinputs
    · rw [refused_withColumns_iff] at hk
      exact nomatch hk

end PlanNode

end Keyspan
