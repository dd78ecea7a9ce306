import Keyspan.Duration.Notation
import Keyspan.Proofs.Number.Literal
import Keyspan.Proofs.Text.Normal
import Mathlib.Logic.Relation

/-!
# Which texts are durations

A text is a duration iff, without blanks around it and in lower case, it is a run of digits that is
an integer literal, then any blanks, and then nothing or the label of a unit; and the milliseconds
they stand for are in range. Being out of range is a failure of its own, and every other text is
refused for its form. Blanks and the case of letters do not count.

* `Label`, `States`: the grammar.
* `Respelled`: one text is another one with other blanks, or with other ASCII letters in capitals.

Results:
* `parse_of_states`: what a text in the grammar is read as.
* `category_of_parse`: how a text outside of it is refused.
* `parse_of_respelled`: reading does not depend on the spelling.
* `parse_of_numeral`: a number that is written with a label is read back.
* `parse_eq_ok_iff`, `parse_outOfRange_iff`, `parse_invalidInput_iff`: the three outcomes;
  `parse_grammar`: all of this at once.
-/

namespace Keyspan.Duration

open Text (isDigit isBlank normal)

/-! ## The grammar -/

/-- **What stands behind the number**, and how many milliseconds the number counts by it. -/
inductive Label : List Char → Nat → Prop where
  | bare : Label [] 1
  | unit {u : TimeUnit} {label : String} (h : label ∈ u.labels) : Label label.toList u.millis

/-- **A text states a number with a factor**: its digits in front, as many as there are, are a
numeral for the number, and what follows them is a label behind any blanks. -/
def States (s : List Char) (n factor : Nat) : Prop :=
  Numeral (s.takeWhile isDigit) n ∧
    ∃ gap label, s.dropWhile isDigit = gap ++ label ∧ (∀ c ∈ gap, isBlank c = true) ∧
      Label label factor

theorem Label.trim_append {label : List Char} {factor : Nat} (h : Label label factor)
    {gap : List Char} (hgap : ∀ c ∈ gap, isBlank c = true) :
    Text.trim (gap ++ label) = label := by
  rw [Text.trim_append_left hgap]
  cases h with
  | bare => rfl
  | unit h =>
    have hall : ∀ u : TimeUnit, ∀ l ∈ u.labels, Text.trim l.toList = l.toList := by
      intro u
      cases u <;> decide
    exact hall _ _ h

/-- What follows the digits of a text is what `splitNumber` takes for the label, behind blanks. -/
theorem exists_gap {s : List Char} (h : ∀ c, s.getLast? = some c → isBlank c = false) :
    ∃ gap, s.dropWhile isDigit = gap ++ (splitNumber s).2 ∧ ∀ c ∈ gap, isBlank c = true := by
  have hlast : ∀ c, (Text.trimLeft (s.dropWhile isDigit)).getLast? = some c →
      isBlank c = false := by
    intro c hc
    obtain ⟨front, hfront⟩ : Text.trimLeft (s.dropWhile isDigit) <:+ s :=
      (List.dropWhile_suffix isBlank).trans (List.dropWhile_suffix isDigit)
    refine h c ?_
    rw [← hfront, List.getLast?_append, hc]
    rfl
  refine ⟨(s.dropWhile isDigit).takeWhile isBlank, ?_, fun c hc => ?_⟩
  · show _ = _ ++ Text.trimRight (Text.trimLeft (s.dropWhile isDigit))
    rw [Text.trimRight_eq_self hlast]
    exact List.takeWhile_append_dropWhile.symm
  · exact List.all_eq_true.mp List.all_takeWhile c hc

/-! ## Reading -/

theorem ofMillis_of_inRange {millis : Int} (h : InRange (millis * 1000)) :
    ofMillis millis = .ok ⟨millis * 1000, h⟩ := ofMicros_eq_ok_iff.mpr rfl

/-- A number in the unit of a label. -/
def inUnit (n : Int) (label : List Char) : Except Failure Duration :=
  if label = [] then ofMillis n
  else
    match TimeUnit.ofLabel? (String.ofList label) with
    | some u => ofMillis (n * u.millis)
    | none => .error (.unknownUnit (String.ofList label))

/-- Reading looks at a text as it is compared: at its digits in front and at what follows them. -/
theorem parse_eq (text : String) :
    parse text =
      if normal text.toList = [] then .error .durationBlank
      else if (splitNumber (normal text.toList)).1 = [] then .error .durationWithoutNumber
      else (readInteger (String.ofList (splitNumber (normal text.toList)).1)).bind fun n =>
        inUnit n (splitNumber (normal text.toList)).2 := by
  unfold parse
  rw [show Text.lower (Text.trim text.toList) = normal text.toList from rfl]
  generalize normal text.toList = s
  dsimp only
  by_cases hs : s = []
  · rw [if_pos hs, if_pos hs]
    rfl
  · rw [if_neg hs, if_neg hs]
    by_cases hdigits : (splitNumber s).1 = []
    · rw [if_pos hdigits, if_pos hdigits]
      rfl
    · rw [if_neg hdigits, if_neg hdigits]
      cases readInteger (String.ofList (splitNumber s).1) <;> rfl

theorem inUnit_of_label {label : List Char} {factor : Nat} (h : Label label factor) (n : Nat) :
    inUnit n label = ofMillis (n * factor : Nat) := by
  unfold inUnit
  cases h with
  | bare => rw [if_pos rfl, Nat.mul_one]
  | @unit u label h =>
    have hlabel : label.toList ≠ [] := by
      have hall : ∀ u : TimeUnit, ∀ l ∈ u.labels, l.toList ≠ [] := by
        intro u
        cases u <;> decide
      exact hall u label h
    rw [if_neg hlabel, String.ofList_toList, TimeUnit.ofLabel?_eq_some_iff.mpr h]
    push_cast
    rfl

/-- **What a text in the grammar is read as.** -/
theorem parse_of_states {text : String} {n factor : Nat}
    (h : States (normal text.toList) n factor) :
    parse text = ofMillis (n * factor : Nat) := by
  obtain ⟨hnumeral, gap, label, hrest, hgap, hlabel⟩ := h
  have hread : readInteger (String.ofList ((normal text.toList).takeWhile isDigit)) =
      .ok (n : Int) :=
    (readInteger_eq_ok_iff fun c hc => List.all_eq_true.mp List.all_takeWhile c hc).mpr
      ⟨n, rfl, hnumeral⟩
  have hsplit : splitNumber (normal text.toList) =
      ((normal text.toList).takeWhile isDigit, label) := by
    unfold splitNumber
    rw [hrest, hlabel.trim_append hgap]
  have hne : normal text.toList ≠ [] := by
    intro hnil
    rw [hnil] at hnumeral
    exact hnumeral.1 rfl
  rw [parse_eq, hsplit, if_neg hne, if_neg hnumeral.1, hread]
  exact inUnit_of_label hlabel n

/-- **A text outside of the grammar is refused for its form.** -/
theorem category_of_parse {text : String}
    (h : ¬ ∃ n factor, States (normal text.toList) n factor) :
    ∃ f, parse text = .error f ∧ f.category = .invalidInput := by
  rw [parse_eq]
  split
  · exact ⟨_, rfl, rfl⟩
  · split
    · exact ⟨_, rfl, rfl⟩
    · cases hread : readInteger (String.ofList (splitNumber (normal text.toList)).1) with
      | error f => exact ⟨f, rfl, category_of_readInteger hread⟩
      | ok i =>
        obtain ⟨n, rfl, hnumeral⟩ := (readInteger_eq_ok_iff fun c hc =>
          List.all_eq_true.mp List.all_takeWhile c hc).mp hread
        obtain ⟨gap, hrest, hgap⟩ := exists_gap (s := normal text.toList)
          fun _ hlast => Text.isBlank_of_getLast?_normal hlast
        have hstates {factor : Nat} (hlabel : Label (splitNumber (normal text.toList)).2 factor) :
            States (normal text.toList) n factor := ⟨hnumeral, gap, _, hrest, hgap, hlabel⟩
        show ∃ f, inUnit n (splitNumber (normal text.toList)).2 = .error f ∧ _
        unfold inUnit
        split
        · rename_i hbare
          exact absurd ⟨n, 1, hstates (hbare ▸ .bare)⟩ h
        · split
          · rename_i u hu
            have hlabel := Label.unit (TimeUnit.ofLabel?_eq_some_iff.mp hu)
            rw [String.toList_ofList] at hlabel
            exact absurd ⟨n, u.millis, hstates hlabel⟩ h
          · exact ⟨_, rfl, rfl⟩

/-! ## Spelling -/

/-- **One text is another spelling of the other one**: it has other blanks around it, other ASCII
letters in capitals, or other blanks between digits in front and what follows them. -/
inductive Respelled : List Char → List Char → Prop where
  | surrounded {before after : List Char} (hbefore : ∀ c ∈ before, isBlank c = true)
    (hafter : ∀ c ∈ after, isBlank c = true) (s : List Char) :
    Respelled (before ++ s ++ after) s
  | recased {s t : List Char} (h : s.map Char.toLower = t.map Char.toLower) : Respelled s t
  | respaced {digits gap other rest : List Char} (hdigits : ∀ c ∈ digits, isDigit c = true)
    (hgap : ∀ c ∈ gap, isBlank c = true) (hother : ∀ c ∈ other, isBlank c = true)
    (hrest : ∀ c, rest.head? = some c → isDigit c = false) :
    Respelled (digits ++ gap ++ rest) (digits ++ other ++ rest)

theorem parse_congr {text other : String} (h : normal text.toList = normal other.toList) :
    parse text = parse other := by
  rw [parse_eq, parse_eq, h]

/-- Nothing in front of a text that is made of digits and blanks is a letter. -/
theorem meetsCased_digits {digits gap : List Char} (hdigits : ∀ c ∈ digits, isDigit c = true)
    (hgap : ∀ c ∈ gap, isBlank c = true) :
    Text.meetsCased (gap.reverse ++ digits.reverse) = false := by
  refine Text.meetsCased_eq_false fun c hc => ?_
  rcases List.mem_append.mp hc with hc | hc
  · exact Text.not_cased_of_isBlank (hgap c (List.mem_reverse.mp hc))
  · exact Text.not_cased_of_isDigit (hdigits c (List.mem_reverse.mp hc))

theorem trim_digits {digits gap rest : List Char} (hne : digits ≠ [])
    (hdigits : ∀ c ∈ digits, isDigit c = true) (hgap : ∀ c ∈ gap, isBlank c = true) :
    Text.trim (digits ++ gap ++ rest) =
      digits ++ if Text.trimRight rest = [] then [] else gap ++ Text.trimRight rest := by
  have hplain : ∀ c ∈ digits, isBlank c = false :=
    fun c hc => Text.isBlank_of_isDigit (hdigits c hc)
  have hfirst : Text.trimLeft (digits ++ gap ++ rest) = digits ++ gap ++ rest := by
    obtain ⟨d, ds, rfl⟩ := List.exists_cons_of_ne_nil hne
    refine Text.trimLeft_eq_self fun c hc => ?_
    rw [List.cons_append, List.cons_append, List.head?_cons] at hc
    exact Option.some.inj hc ▸ hplain d List.mem_cons_self
  have hlast : Text.trimRight digits = digits :=
    Text.trimRight_eq_self fun c hc => hplain c (List.mem_of_getLast? hc)
  unfold Text.trim
  rw [hfirst, List.append_assoc, Text.trimRight_append, Text.trimRight_append gap rest]
  by_cases hrest : Text.trimRight rest = []
  · rw [if_pos hrest, if_pos hrest, if_pos (Text.trimRight_blank hgap), hlast, List.append_nil]
  · rw [if_neg hrest, if_neg hrest, if_neg (by simp [hrest])]

/-- **What reading finds** in a text of digits, blanks and a rest: the blanks do not matter. -/
theorem splitNumber_normal {digits gap rest : List Char} (hne : digits ≠ [])
    (hdigits : ∀ c ∈ digits, isDigit c = true) (hgap : ∀ c ∈ gap, isBlank c = true)
    (hrest : ∀ c, rest.head? = some c → isDigit c = false) :
    splitNumber (normal (digits ++ gap ++ rest)) =
      (digits, Text.trim (Text.lowerAfter digits.reverse (Text.trimRight rest))) := by
  unfold normal Text.lower
  rw [trim_digits hne hdigits hgap, Text.lowerAfter_append Text.isCaseless_digitRanges hdigits,
    List.append_nil]
  unfold splitNumber
  rw [List.takeWhile_append_of_pos hdigits, List.dropWhile_append_of_pos hdigits]
  by_cases hnil : Text.trimRight rest = []
  · rw [if_pos hnil, hnil]
    exact Prod.ext (List.append_nil digits) rfl
  · rw [if_neg hnil, Text.lowerAfter_append Text.isCaseless_blankRanges hgap]
    have hnone : ∀ c ∈ ([] : List Char), isBlank c = true := nofun
    have hcontext : Text.meetsCased (gap.reverse ++ digits.reverse) =
        Text.meetsCased digits.reverse :=
      (meetsCased_digits hdigits hgap).trans (meetsCased_digits hdigits hnone).symm
    rw [Text.lowerAfter_congr hcontext]
    -- neither a blank nor the first character of the rest is a digit
    have hstop : ∀ c, (gap ++ Text.lowerAfter digits.reverse (Text.trimRight rest)).head? = some c →
        isDigit c = false := by
      intro c hc
      cases gap with
      | nil =>
        refine Text.head?_lowerAfter Text.isCaseless_digitRanges (fun d hd => ?_) _ c hc
        obtain ⟨blanks, hblanks, -⟩ := Text.exists_eq_trimRight_append rest
        refine hrest d ?_
        rw [hblanks, List.head?_append, hd]
        rfl
      | cons b gap =>
        obtain rfl := Option.some.inj hc
        refine Bool.eq_false_iff.mpr fun hdigit => ?_
        exact nomatch (Text.isBlank_of_isDigit hdigit).symm.trans (hgap b List.mem_cons_self)
    generalize hL : Text.lowerAfter digits.reverse (Text.trimRight rest) = L at hstop ⊢
    have hsplit : (gap ++ L).takeWhile isDigit = [] ∧ (gap ++ L).dropWhile isDigit = gap ++ L := by
      cases hjoin : gap ++ L with
      | nil => exact ⟨rfl, rfl⟩
      | cons c r =>
        have hc : isDigit c = false := hstop c (by rw [hjoin, List.head?_cons])
        simp [hc]
    rw [hsplit.1, hsplit.2, List.append_nil, Text.trim_append_left hgap]

/-- **Reading does not depend on the spelling**: the outcome is the same, be it a duration or a
failure. -/
theorem parse_of_respelled {s t : List Char} (h : Respelled s t) :
    parse (String.ofList s) = parse (String.ofList t) := by
  cases h with
  | surrounded hbefore hafter s =>
    apply parse_congr
    rw [String.toList_ofList, String.toList_ofList, Text.normal_surrounded hbefore hafter]
  | recased h =>
    apply parse_congr
    rw [String.toList_ofList, String.toList_ofList, ← Text.normal_map_toLower, h,
      Text.normal_map_toLower]
  | @respaced digits gap other rest hdigits hgap hother hrest =>
    by_cases hne : digits = []
    · -- without digits the blanks are in front of the text
      subst hne
      apply parse_congr
      rw [String.toList_ofList, String.toList_ofList, List.nil_append, List.nil_append]
      unfold normal
      rw [Text.trim_append_left hgap, Text.trim_append_left hother]
    · have hnil {s : List Char} (hs : (splitNumber s).1 = digits) : s ≠ [] := by
        rintro rfl
        exact hne hs.symm
      have hleft := splitNumber_normal hne hdigits hgap hrest
      have hright := splitNumber_normal hne hdigits hother hrest
      rw [parse_eq, parse_eq, String.toList_ofList, String.toList_ofList, hleft, hright,
        if_neg (hnil (congrArg Prod.fst hleft)), if_neg (hnil (congrArg Prod.fst hright))]

/-! ## What is written -/

theorem Label.lowerAfter_eq_self {label : List Char} {factor : Nat} (h : Label label factor)
    (before : List Char) : Text.lowerAfter before label = label := by
  have hsmall : ∀ u : TimeUnit, ∀ l ∈ u.labels,
      (l.toList.all fun c => decide (∀ final, Text.smallForms final c = [c])) = true := by
    intro u
    cases u <;> decide +kernel
  cases h with
  | bare => rfl
  | unit h =>
    have hself := List.all_eq_true.mp (hsmall _ _ h)
    exact Text.lowerAfter_eq_self (fun c hc => of_decide_eq_true (hself c hc)) before

theorem Label.ends {label : List Char} {factor : Nat} (h : Label label factor) :
    (∀ c, label.head? = some c → isDigit c = false) ∧ Text.trimRight label = label := by
  have hall : ∀ u : TimeUnit, ∀ l ∈ u.labels,
      (l.toList.head?.all fun c => !isDigit c) = true ∧ Text.trimRight l.toList = l.toList := by
    intro u
    cases u <;> decide +kernel
  cases h with
  | bare => exact ⟨nofun, rfl⟩
  | unit h =>
    obtain ⟨hhead, hlast⟩ := hall _ _ h
    refine ⟨fun c hc => ?_, hlast⟩
    rw [hc] at hhead
    exact (Bool.not_eq_true' _).mp hhead

/-- **A numeral with a label behind it**, and any blanks between them, is read as so many
milliseconds. -/
theorem parse_of_numeral {digits gap label : List Char} {n factor : Nat}
    (hnumeral : Numeral digits n) (hgap : ∀ c ∈ gap, isBlank c = true)
    (hlabel : Label label factor) :
    parse (String.ofList (digits ++ gap ++ label)) = ofMillis (n * factor : Nat) := by
  have hdigits := hnumeral.isDigit
  obtain ⟨hhead, hlast⟩ := hlabel.ends
  have hsplit := splitNumber_normal hnumeral.1 hdigits hgap hhead
  have htrim : Text.trim ([] ++ label) = label := hlabel.trim_append nofun
  rw [hlast, hlabel.lowerAfter_eq_self, show Text.trim label = label from htrim] at hsplit
  have hne : normal (digits ++ gap ++ label) ≠ [] := by
    intro hnil
    rw [hnil] at hsplit
    exact hnumeral.1 (congrArg Prod.fst hsplit).symm
  rw [parse_eq, String.toList_ofList, if_neg hne, hsplit, if_neg hnumeral.1,
    (readInteger_eq_ok_iff hdigits).mpr ⟨n, rfl, hnumeral⟩]
  exact inUnit_of_label hlabel n

/-! ## All of it -/

/-- **Which texts are durations**, and of what length. -/
theorem parse_eq_ok_iff {text : String} {d : Duration} :
    parse text = .ok d ↔
      ∃ n factor, States (normal text.toList) n factor ∧ InRange ((n * factor : Nat) * 1000) ∧
        d.micros = (n * factor : Nat) * 1000 := by
  constructor
  · intro hok
    by_cases hstates : ∃ n factor, States (normal text.toList) n factor
    · obtain ⟨n, factor, hstates⟩ := hstates
      rw [parse_of_states hstates] at hok
      have hmicros := ofMicros_eq_ok_iff.mp hok
      exact ⟨n, factor, hstates, hmicros ▸ d.inRange, hmicros⟩
    · obtain ⟨f, herror, -⟩ := category_of_parse hstates
      exact nomatch herror.symm.trans hok
  · rintro ⟨n, factor, hstates, -, hmicros⟩
    rw [parse_of_states hstates]
    exact ofMicros_eq_ok_iff.mpr hmicros

/-- **Which texts are refused for their size.** -/
theorem parse_outOfRange_iff {text : String} :
    (∃ f, parse text = .error f ∧ f.category = .outOfRange) ↔
      ∃ n factor, States (normal text.toList) n factor ∧
        ¬ InRange ((n * factor : Nat) * 1000) := by
  constructor
  · rintro ⟨f, herror, hcategory⟩
    by_cases hstates : ∃ n factor, States (normal text.toList) n factor
    · obtain ⟨n, factor, hstates⟩ := hstates
      rw [parse_of_states hstates] at herror
      exact ⟨n, factor, hstates, ofMicros_eq_error_iff.mp ⟨f, herror, hcategory⟩⟩
    · obtain ⟨f', herror', hcategory'⟩ := category_of_parse hstates
      obtain rfl := Except.error.inj (herror.symm.trans herror')
      exact nomatch hcategory.symm.trans hcategory'
  · rintro ⟨n, factor, hstates, hrange⟩
    rw [parse_of_states hstates]
    exact ofMicros_eq_error_iff.mpr hrange

/-- **Which texts are refused for their form**: those outside of the grammar. -/
theorem parse_invalidInput_iff {text : String} :
    (∃ f, parse text = .error f ∧ f.category = .invalidInput) ↔
      ¬ ∃ n factor, States (normal text.toList) n factor := by
  refine ⟨?_, category_of_parse⟩
  rintro ⟨f, herror, hcategory⟩ ⟨n, factor, hstates⟩
  by_cases hrange : InRange ((n * factor : Nat) * 1000)
  · rw [parse_of_states hstates, ofMillis_of_inRange hrange] at herror
    exact nomatch herror
  · obtain ⟨f', herror', hcategory'⟩ := parse_outOfRange_iff.mpr ⟨n, factor, hstates, hrange⟩
    obtain rfl := Except.error.inj (herror.symm.trans herror')
    exact nomatch hcategory.symm.trans hcategory'

theorem parse_of_spelled {s t : List Char} (h : Relation.EqvGen Respelled s t) :
    parse (String.ofList s) = parse (String.ofList t) := by
  induction h with
  | rel s t h => exact parse_of_respelled h
  | refl s => rfl
  | symm s t _ ih => exact ih.symm
  | trans s t u _ _ ih₁ ih₂ => exact ih₁.trans ih₂

/-- **The grammar of duration texts.** With `s` for the text without blanks around it and in lower
case, a text is read as a duration iff `s` states a number with a factor and so many milliseconds
are in range, and then it is just that many; it is refused for its size iff `s` states a number with
a factor and they are not in range, and every other text is refused for its form. Texts that differ
in their spelling only have one outcome. -/
theorem parse_grammar (text : String) :
    (∀ d, parse text = .ok d ↔
      ∃ n factor, States (normal text.toList) n factor ∧ InRange ((n * factor : Nat) * 1000) ∧
        d.micros = (n * factor : Nat) * 1000) ∧
    ((∃ f, parse text = .error f ∧ f.category = .outOfRange) ↔
      ∃ n factor, States (normal text.toList) n factor ∧ ¬ InRange ((n * factor : Nat) * 1000)) ∧
    ((∃ f, parse text = .error f ∧ f.category = .invalidInput) ↔
      ¬ ∃ n factor, States (normal text.toList) n factor) ∧
    ∀ other : String, Relation.EqvGen Respelled text.toList other.toList →
      parse other = parse text := by
  refine ⟨fun d => parse_eq_ok_iff, parse_outOfRange_iff, parse_invalidInput_iff,
    fun other h => ?_⟩
  have hsame := parse_of_spelled h
  rw [String.ofList_toList, String.ofList_toList] at hsame
  exact hsame.symm

/-- Two minutes with capitals and blanks of all kinds are two minutes without. -/
theorem parse_grammar_two_minutes :
    parse " 2 \tMIN\n" = .ok ⟨120000000, by decide⟩ ∧ parse "2min" = parse " 2 \tMIN\n" := by
  obtain ⟨hok, -, -, hspelled⟩ := parse_grammar " 2 \tMIN\n"
  have hnormal : normal " 2 \tMIN\n".toList = ['2'] ++ ([' ', '\t'] ++ "min".toList) := by
    decide +kernel
  have hgap : ∀ c ∈ [' ', '\t'], isBlank c = true := List.all_eq_true.mp (by decide)
  have hstates : States (normal " 2 \tMIN\n".toList) 2 TimeUnit.minute.millis := by
    rw [hnormal]
    exact ⟨⟨by decide, by decide, [2], by decide, by decide⟩, [' ', '\t'], "min".toList,
      by decide, hgap, .unit (by decide)⟩
  have hblank : ∀ c ∈ [' '], isBlank c = true := List.all_eq_true.mp (by decide)
  have hbehind : ∀ c ∈ ['\n'], isBlank c = true := List.all_eq_true.mp (by decide)
  have hsurrounded : Respelled " 2 \tMIN\n".toList "2 \tMIN".toList :=
    .surrounded hblank hbehind "2 \tMIN".toList
  have hdigit : ∀ c ∈ ['2'], isDigit c = true := List.all_eq_true.mp (by decide)
  have hnone : ∀ c ∈ ([] : List Char), isBlank c = true := nofun
  have hunit : ∀ c, "MIN".toList.head? = some c → isDigit c = false :=
    fun c hc => Option.some.inj hc ▸ by decide
  have hrespaced : Respelled "2 \tMIN".toList "2MIN".toList :=
    .respaced hdigit hgap hnone hunit
  have hrecased : Respelled "2MIN".toList "2min".toList := .recased (by decide)
  exact ⟨(hok _).mpr ⟨2, _, hstates, by decide, by decide⟩, hspelled "2min"
    (.trans _ _ _ (.rel _ _ hsurrounded) (.trans _ _ _ (.rel _ _ hrespaced) (.rel _ _ hrecased)))⟩

end Keyspan.Duration
