import Keyspan.Text.Blank
import Keyspan.Text.Digit
import Keyspan.Text.Lower

/-!
# Texts without blanks around them, in lower case

Setting texts are compared after their outer blanks are dropped and all letters are small. Digits
and blanks have no part in the change of case: they stay what they are, and no other character
becomes one of them. A capital sigma looks at its neighbours, but only as far as the nearest
letters, and so digits and blanks in front of a text do not count for its lower case.

* `normal`: a text as it is compared.

Results:
* `smallForms_of_contains`, `contains_of_mem_smallForms`: a class of characters that case does not
  touch.
* `head?_lowerAfter`, `getLast?_lowerAfter`: the ends of a text stay outside of such a class.
* `lowerAfter_congr`: how much of what is in front of a text counts.
* `trim_append_left`, `trim_append_right`, `trimRight_append`: blanks at the ends.
* `normal_surrounded`, `normal_map_toLower`: outer blanks and the case of ASCII letters do not
  count.
-/

namespace Keyspan.Text

/-- A text as it is compared: without blanks around it, in lower case. -/
def normal (s : List Char) : List Char := lower (trim s)

/-! ## Classes that case does not touch -/

/-- Whether no range reaches into the code points from `first` to `last`. -/
def CodeRanges.isApart (ranges : CodeRanges) (first last : Nat) : Bool :=
  ranges.all fun r => last.blt r.1 || r.2.blt first

/-- **Whether case does not touch a class**: it holds no capital and no small form of one. -/
def CodeRanges.isCaseless (ranges : CodeRanges) : Bool :=
  (lowerRuns.all fun run => ranges.isApart run.first run.last &&
      ranges.isApart (run.first + run.distance).toNat (run.last + run.distance).toNat) &&
    ['i', '\u0307', '\u0130', 'Σ', 'σ', 'ς'].all fun c => !ranges.contains c.toNat

theorem CodeRanges.contains_of_isApart {ranges : CodeRanges} {first last : Nat}
    (h : ranges.isApart first last = true) {code : Nat} (hlow : first ≤ code)
    (hhigh : code ≤ last) : ranges.contains code = false := by
  refine Bool.eq_false_iff.mpr fun hmem => ?_
  obtain ⟨r, hr, hr₁, hr₂⟩ := (contains_iff _ _).mp hmem
  have hapart := List.all_eq_true.mp h r hr
  simp only [Bool.or_eq_true, Nat.blt_eq] at hapart
  omega

theorem CodeRanges.contains_of_all_isApart {ranges others : CodeRanges}
    (hapart : (ranges.all fun r => others.isApart r.1 r.2) = true) {code : Nat}
    (h : ranges.contains code = true) : others.contains code = false := by
  obtain ⟨r, hr, hlow, hhigh⟩ := (contains_iff _ _).mp h
  exact contains_of_isApart (List.all_eq_true.mp hapart r hr) hlow hhigh

theorem isCaseless_blankRanges : blankRanges.isCaseless = true := by decide +kernel

theorem isCaseless_digitRanges : digitRanges.isCaseless = true := by decide +kernel

/-- The small forms of one character; a capital sigma has two. -/
def smallForms (final : Bool) (c : Char) : List Char :=
  if c = 'Σ' then [if final then 'ς' else 'σ'] else lowerChar c

theorem lowerAfter_cons (before : List Char) (c : Char) (rest : List Char) :
    lowerAfter before (c :: rest) =
      smallForms (meetsCased before && !meetsCased rest) c ++ lowerAfter (c :: before) rest := rfl

theorem toNat_smallForm {run : LowerRun} (hrun : run ∈ lowerRuns) {code : Nat}
    (hlow : run.first ≤ code) (hhigh : code ≤ run.last) :
    let small := (Char.ofNat (code + run.distance).toNat).toNat
    (run.first + run.distance).toNat ≤ small ∧ small ≤ (run.last + run.distance).toNat := by
  have htable : ∀ run ∈ lowerRuns, run.last + run.distance < 0xD800 ∨
      0xDFFF < run.first + run.distance ∧ run.last + run.distance < 0x110000 := by
    decide +kernel
  have hrange := htable run hrun
  have hvalid : (code + run.distance).toNat.isValidChar := by
    unfold Nat.isValidChar
    omega
  have hself : (Char.ofNat (code + run.distance).toNat).toNat = (code + run.distance).toNat := by
    rw [Char.ofNat, dif_pos hvalid]
    rfl
  omega

/-- **The small forms of a character**: the character itself, or forms of letters that a caseless
class does not hold, of a letter that it does not hold either. -/
theorem smallForms_cases {ranges : CodeRanges} (h : ranges.isCaseless = true) (final : Bool)
    (c : Char) :
    smallForms final c = [c] ∨
      ranges.contains c.toNat = false ∧ smallForms final c ≠ [] ∧
        ∀ c' ∈ smallForms final c, ranges.contains c'.toNat = false := by
  obtain ⟨hruns, hletters⟩ := Bool.and_eq_true_iff.mp h
  have hletter {l : Char} (hl : l ∈ ['i', '\u0307', '\u0130', 'Σ', 'σ', 'ς']) :
      ranges.contains l.toNat = false := by
    simpa using List.all_eq_true.mp hletters l hl
  unfold smallForms
  split
  · rename_i hc
    subst hc
    refine .inr ⟨hletter (by decide), by simp, fun c' hc' => ?_⟩
    rw [List.mem_singleton.mp hc']
    cases final <;> exact hletter (by decide)
  · unfold lowerChar
    split
    · rename_i hdot
      rw [hdot]
      refine .inr ⟨hletter (l := '\u0130') (by decide), by simp, fun c' hc' => ?_⟩
      exact hletter (List.mem_append_left ['\u0130', 'Σ', 'σ', 'ς'] hc')
    · split
      · rename_i run hfind
        have hrun := List.mem_of_find?_eq_some hfind
        have hin := List.find?_some hfind
        simp only [Bool.and_eq_true, decide_eq_true_eq] at hin
        obtain ⟨⟨hlow, hhigh⟩, -⟩ := hin
        obtain ⟨hcapital, hsmall⟩ := Bool.and_eq_true_iff.mp (List.all_eq_true.mp hruns run hrun)
        obtain ⟨hfirst, hlast⟩ := toNat_smallForm hrun hlow hhigh
        refine .inr ⟨CodeRanges.contains_of_isApart hcapital hlow hhigh, by simp,
          fun c' hc' => ?_⟩
        rw [List.mem_singleton.mp hc']
        exact CodeRanges.contains_of_isApart hsmall hfirst hlast
      · exact .inl rfl

/-- **Small characters in front of a text** stay as they are. -/
theorem lowerAfter_append_small {s : List Char} (hs : ∀ c ∈ s, ∀ final, smallForms final c = [c])
    (before rest : List Char) :
    lowerAfter before (s ++ rest) = s ++ lowerAfter (s.reverse ++ before) rest := by
  induction s generalizing before with
  | nil => rfl
  | cons c s ih =>
    rw [List.cons_append, lowerAfter_cons, hs c List.mem_cons_self,
      ih (fun d hd => hs d (List.mem_cons_of_mem c hd)), List.reverse_cons, List.append_assoc]
    rfl

/-- **A text of small characters** stays as it is. -/
theorem lowerAfter_eq_self {s : List Char} (hs : ∀ c ∈ s, ∀ final, smallForms final c = [c])
    (before : List Char) : lowerAfter before s = s := by
  have happend := lowerAfter_append_small hs before []
  rw [List.append_nil] at happend
  exact happend.trans (List.append_nil s)

section Caseless

variable {ranges : CodeRanges} (h : ranges.isCaseless = true)

include h

theorem smallForms_of_contains {c : Char} (hc : ranges.contains c.toNat = true) (final : Bool) :
    smallForms final c = [c] := by
  rcases smallForms_cases h final c with hself | ⟨hnot, -, -⟩
  · exact hself
  · exact nomatch hnot.symm.trans hc

theorem contains_of_mem_smallForms {c c' : Char} {final : Bool} (hc' : c' ∈ smallForms final c) :
    ranges.contains c'.toNat = ranges.contains c.toNat := by
  rcases smallForms_cases h final c with hself | ⟨hnot, -, hforms⟩
  · rw [hself, List.mem_singleton] at hc'
    rw [hc']
  · rw [hforms c' hc', hnot]

theorem smallForms_ne_nil (c : Char) (final : Bool) : smallForms final c ≠ [] := by
  rcases smallForms_cases h final c with hself | ⟨-, hne, -⟩
  · rw [hself]
    exact List.cons_ne_nil c []
  · exact hne

/-- **Characters of a caseless class in front of a text** stay where they are. -/
theorem lowerAfter_append {s : List Char} (hs : ∀ c ∈ s, ranges.contains c.toNat = true)
    (before rest : List Char) :
    lowerAfter before (s ++ rest) = s ++ lowerAfter (s.reverse ++ before) rest :=
  lowerAfter_append_small (fun c hc final => smallForms_of_contains h (hs c hc) final) before rest

/-- **The first character** of the lower case is in the class only if that of the text is. -/
theorem head?_lowerAfter {s : List Char}
    (hs : ∀ c, s.head? = some c → ranges.contains c.toNat = false) (before : List Char) :
    ∀ c, (lowerAfter before s).head? = some c → ranges.contains c.toNat = false := by
  cases s with
  | nil => exact fun _ hc => nomatch hc
  | cons c rest =>
    intro c' hc'
    obtain ⟨l, forms, hforms⟩ := List.exists_cons_of_ne_nil
      (smallForms_ne_nil h c (meetsCased before && !meetsCased rest))
    rw [lowerAfter_cons, hforms, List.cons_append, List.head?_cons] at hc'
    obtain rfl := Option.some.inj hc'
    rw [contains_of_mem_smallForms h (hforms ▸ List.mem_cons_self)]
    exact hs c rfl

theorem lowerAfter_ne_nil {s : List Char} (hs : s ≠ []) (before : List Char) :
    lowerAfter before s ≠ [] := by
  cases s with
  | nil => exact absurd rfl hs
  | cons c rest =>
    rw [lowerAfter_cons]
    exact List.append_ne_nil_of_left_ne_nil (smallForms_ne_nil h c _) _

theorem getLast?_lowerAfter {s : List Char}
    (hs : ∀ c, s.getLast? = some c → ranges.contains c.toNat = false) (before : List Char) :
    ∀ c, (lowerAfter before s).getLast? = some c → ranges.contains c.toNat = false := by
  induction s generalizing before with
  | nil => exact fun _ hc => nomatch hc
  | cons c rest ih =>
    intro c' hc'
    cases rest with
    | nil =>
      rw [lowerAfter_cons, lowerAfter, List.append_nil] at hc'
      rw [contains_of_mem_smallForms h (List.mem_of_getLast? hc')]
      exact hs c rfl
    | cons d rest =>
      have hne := lowerAfter_ne_nil h (List.cons_ne_nil d rest) (c :: before)
      rw [lowerAfter_cons, List.getLast?_append, List.getLast?_eq_some_getLast hne,
        Option.some_or, ← List.getLast?_eq_some_getLast hne] at hc'
      exact ih (fun l hl => hs l (by rwa [List.getLast?_cons_cons])) _ c' hc'

end Caseless

/-! ## What counts in front of a text -/

theorem meetsCased_cons (c : Char) (s : List Char) :
    meetsCased (c :: s) =
      if ignorableRanges.contains c.toNat then meetsCased s else casedRanges.contains c.toNat := by
  unfold meetsCased
  rw [List.dropWhile_cons]
  by_cases h : ignorableRanges.contains c.toNat = true
  · rw [if_pos h, if_pos h]
  · rw [if_neg h, if_neg h]

/-- **Only whether a letter is met counts** of what is in front of a text. -/
theorem lowerAfter_congr {before other : List Char} (h : meetsCased before = meetsCased other)
    (s : List Char) : lowerAfter before s = lowerAfter other s := by
  induction s generalizing before other with
  | nil => rfl
  | cons c rest ih =>
    rw [lowerAfter_cons, lowerAfter_cons, h]
    congr 1
    exact ih (by rw [meetsCased_cons, meetsCased_cons, h])

-- the sigma behind a letter is final, the one behind a blank is not
example : lower "ΑΣ ΣΑ".toList = "ας σα".toList := by decide +kernel

theorem meetsCased_eq_false {s : List Char}
    (h : ∀ c ∈ s, casedRanges.contains c.toNat = false) : meetsCased s = false := by
  induction s with
  | nil => rfl
  | cons c s ih =>
    obtain ⟨hc, hs⟩ := List.forall_mem_cons.mp h
    rw [meetsCased_cons, hc, ih hs, ite_self]

theorem not_cased_of_isBlank {c : Char} (h : isBlank c = true) :
    casedRanges.contains c.toNat = false :=
  CodeRanges.contains_of_all_isApart (by decide +kernel) h

theorem not_cased_of_isDigit {c : Char} (h : isDigit c = true) :
    casedRanges.contains c.toNat = false :=
  CodeRanges.contains_of_all_isApart (by decide +kernel) h

theorem isBlank_of_isDigit {c : Char} (h : isDigit c = true) : isBlank c = false :=
  CodeRanges.contains_of_all_isApart (by decide +kernel) h

/-! ## Blanks at the ends -/

theorem trimLeft_append {blanks : List Char} (h : ∀ c ∈ blanks, isBlank c = true)
    (s : List Char) : trimLeft (blanks ++ s) = trimLeft s :=
  List.dropWhile_append_of_pos h

theorem trimLeft_blank {blanks : List Char} (h : ∀ c ∈ blanks, isBlank c = true) :
    trimLeft blanks = [] := by
  rw [← List.append_nil blanks, trimLeft_append h]
  rfl

theorem trimLeft_eq_self {s : List Char} (h : ∀ c, s.head? = some c → isBlank c = false) :
    trimLeft s = s :=
  (trimLeft_eq_self_iff s).mpr fun c r hs => h c (by rw [hs, List.head?_cons])

/-- **What is kept on the right**: of a text that ends in blanks only the part before them. -/
theorem trimRight_append (s t : List Char) :
    trimRight (s ++ t) = if trimRight t = [] then trimRight s else s ++ trimRight t := by
  unfold trimRight trimLeft
  rw [List.reverse_append, List.dropWhile_append]
  cases List.dropWhile isBlank t.reverse with
  | nil => rfl
  | cons c r => simp

theorem trimRight_blank {blanks : List Char} (h : ∀ c ∈ blanks, isBlank c = true) :
    trimRight blanks = [] := by
  unfold trimRight
  rw [trimLeft_blank fun c hc => h c (List.mem_reverse.mp hc), List.reverse_nil]

theorem trimRight_eq_self {s : List Char} (h : ∀ c, s.getLast? = some c → isBlank c = false) :
    trimRight s = s := by
  unfold trimRight
  rw [trimLeft_eq_self fun c hc => h c (by rwa [List.head?_reverse] at hc), List.reverse_reverse]

theorem trim_eq_self {s : List Char} (h : ∀ c ∈ s, isBlank c = false) : trim s = s := by
  unfold trim
  rw [trimLeft_eq_self fun c hc => h c (List.mem_of_head? hc),
    trimRight_eq_self fun c hc => h c (List.mem_of_getLast? hc)]

/-- **What is dropped on the right** is blank. -/
theorem exists_eq_trimRight_append (s : List Char) :
    ∃ blanks, s = trimRight s ++ blanks ∧ ∀ c ∈ blanks, isBlank c = true := by
  refine ⟨(s.reverse.takeWhile isBlank).reverse, ?_, fun c hc => ?_⟩
  · unfold trimRight trimLeft
    rw [← List.reverse_append, List.takeWhile_append_dropWhile, List.reverse_reverse]
  · exact List.all_eq_true.mp List.all_takeWhile c (List.mem_reverse.mp hc)

theorem isBlank_of_getLast?_trimRight {s : List Char} {c : Char}
    (h : (trimRight s).getLast? = some c) : isBlank c = false := by
  unfold trimRight trimLeft at h
  rw [List.getLast?_reverse] at h
  have hstop := List.head?_dropWhile_not isBlank s.reverse
  rwa [h] at hstop

/-- **Blanks in front do not count.** -/
theorem trim_append_left {blanks : List Char} (h : ∀ c ∈ blanks, isBlank c = true)
    (s : List Char) : trim (blanks ++ s) = trim s := by
  unfold trim
  rw [trimLeft_append h]

theorem trim_append_right {blanks : List Char} (h : ∀ c ∈ blanks, isBlank c = true)
    (s : List Char) : trim (s ++ blanks) = trim s := by
  unfold trim trimLeft
  rw [List.dropWhile_append]
  split
  · rename_i hempty
    have hnil : blanks.dropWhile isBlank = [] := trimLeft_blank h
    rw [List.isEmpty_iff.mp hempty, hnil]
  · rw [trimRight_append, if_pos (trimRight_blank h)]

/-- **Blanks around a text do not count** when it is compared. -/
theorem normal_surrounded {before after : List Char} (hbefore : ∀ c ∈ before, isBlank c = true)
    (hafter : ∀ c ∈ after, isBlank c = true) (s : List Char) :
    normal (before ++ s ++ after) = normal s := by
  unfold normal
  rw [trim_append_right hafter, trim_append_left hbefore]

theorem isBlank_of_getLast?_normal {s : List Char} {c : Char}
    (h : (normal s).getLast? = some c) : isBlank c = false :=
  getLast?_lowerAfter isCaseless_blankRanges
    (fun _ hlast => isBlank_of_getLast?_trimRight hlast) [] c h

/-! ## ASCII letters -/

/-- The characters that have an ASCII small letter of their own, checked one by one. -/
theorem ascii_of_toLower_ne {c : Char} (h : c.toLower ≠ c) :
    isBlank c.toLower = isBlank c ∧
      ignorableRanges.contains c.toLower.toNat = ignorableRanges.contains c.toNat ∧
      casedRanges.contains c.toLower.toNat = casedRanges.contains c.toNat ∧
      ∀ final, smallForms final c.toLower = smallForms final c := by
  have hcapital : 0x41 ≤ c.toNat ∧ c.toNat ≤ 0x5A :=
    Decidable.byContradiction fun hnot => h (dif_neg fun hrange => hnot hrange)
  have hclasses : ∀ n ∈ List.range' 0x41 26, (Char.ofNat n).toLower.toNat = n + 0x20 ∧
      isBlank (Char.ofNat n).toLower = isBlank (Char.ofNat n) ∧
      casedRanges.contains (Char.ofNat n).toLower.toNat =
        casedRanges.contains (Char.ofNat n).toNat := by
    decide +kernel
  have hforms : ∀ n ∈ List.range' 0x41 26, (Char.ofNat n).toLower ≠ 'Σ' ∧ Char.ofNat n ≠ 'Σ' ∧
      lowerChar (Char.ofNat n).toLower = lowerChar (Char.ofNat n) := by
    decide +kernel
  have hmem : c.toNat ∈ List.range' 0x41 26 := List.mem_range'_1.mpr (by omega)
  have hclass := hclasses c.toNat hmem
  have hform := hforms c.toNat hmem
  rw [Char.ofNat_toNat] at hclass hform
  obtain ⟨hdistance, hblank, hcased⟩ := hclass
  have hignorable : ignorableRanges.contains c.toLower.toNat =
      ignorableRanges.contains c.toNat := by
    have hlarge : ignorableRanges.isApart 0x41 0x5A = true := by decide +kernel
    have hsmall : ignorableRanges.isApart 0x61 0x7A = true := by decide +kernel
    rw [CodeRanges.contains_of_isApart hlarge hcapital.1 hcapital.2,
      CodeRanges.contains_of_isApart hsmall (by omega) (by omega)]
  obtain ⟨hsmall, hlarge, hform⟩ := hform
  refine ⟨hblank, hignorable, hcased, fun final => ?_⟩
  unfold smallForms
  rw [if_neg hsmall, if_neg hlarge, hform]

theorem isBlank_toLower (c : Char) : isBlank c.toLower = isBlank c := by
  by_cases h : c.toLower = c
  · rw [h]
  · exact (ascii_of_toLower_ne h).1

theorem meetsCased_map_toLower (s : List Char) :
    meetsCased (s.map Char.toLower) = meetsCased s := by
  induction s with
  | nil => rfl
  | cons c s ih =>
    rw [List.map_cons, meetsCased_cons, meetsCased_cons, ih]
    by_cases h : c.toLower = c
    · rw [h]
    · obtain ⟨-, hignorable, hcased, -⟩ := ascii_of_toLower_ne h
      rw [hignorable, hcased]

/-- The case of ASCII letters does not count, neither in a text nor in front of it. -/
theorem lowerAfter_map_toLower (before s : List Char) :
    lowerAfter (before.map Char.toLower) (s.map Char.toLower) = lowerAfter before s := by
  induction s generalizing before with
  | nil => rfl
  | cons c rest ih =>
    rw [List.map_cons, lowerAfter_cons, lowerAfter_cons, meetsCased_map_toLower,
      meetsCased_map_toLower, ← List.map_cons, ih]
    congr 1
    by_cases h : c.toLower = c
    · rw [h]
    · exact (ascii_of_toLower_ne h).2.2.2 _

theorem trimLeft_map_toLower (s : List Char) :
    trimLeft (s.map Char.toLower) = (trimLeft s).map Char.toLower := by
  unfold trimLeft
  rw [List.dropWhile_map]
  congr 2
  exact funext isBlank_toLower

/-- **The case of ASCII letters does not count** when a text is compared. -/
theorem normal_map_toLower (s : List Char) : normal (s.map Char.toLower) = normal s := by
  have htrim : trim (s.map Char.toLower) = (trim s).map Char.toLower := by
    unfold trim trimRight
    rw [trimLeft_map_toLower, ← List.map_reverse, trimLeft_map_toLower, List.map_reverse]
  unfold normal lower
  rw [htrim]
  exact lowerAfter_map_toLower [] (trim s)

end Keyspan.Text
