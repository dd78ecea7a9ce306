import Keyspan.Text.Quoted
import Mathlib.Algebra.Group.Nat.Defs
import Mathlib.Logic.Basic

/-!
# Quoted texts are read back

What is shown between quotes says where it ends: read character by character, it gives back what it
holds and leaves what follows it. So a message of several quoted texts, one behind the other, is a
message of these texts only, whatever punctuation they hold.

* `readEscape`: the code point that is written first, and what follows it.
* `Escaped`: the ways to write a code point between given quotes.
* `SelfDelimiting`: forms that say where they end.

Results:
* `escaped_escape`, `escaped_escapeByte`: how characters and bytes are written.
* `Escaped.read`: whatever way a code point is written, it is read back.
* `SelfDelimiting.flatMap_inj`: pieces up to an end mark.
* `selfDelimiting_quotedChars`, `selfDelimiting_quotedByteChars`, `SelfDelimiting.bracketed`: quoted
  contents say where they end, and so do bracketed lists of what does.
-/

namespace Keyspan.Text

/-! ## Reading a code point -/

/-- The value of a hexadecimal digit. -/
def hexDigitValue (c : Char) : Nat := if c.toNat < 0x61 then c.toNat - 0x30 else c.toNat - 0x57

/-- The number that hexadecimal digits stand for. -/
def hexValue (digits : List Char) : Nat := digits.foldl (fun n c => 16 * n + hexDigitValue c) 0

/-- How many hexadecimal digits follow a mark, if any do. -/
def hexWidth? (mark : Char) : Option Nat :=
  if mark = 'x' then some 2
  else if mark = 'u' then some 4
  else if mark = 'U' then some 8
  else none

/-- The blank that a letter stands for. -/
def blankOfLetter? (letter : Char) : Option Nat :=
  if letter = 't' then some 9
  else if letter = 'n' then some 10
  else if letter = 'r' then some 13
  else none

/-- The code point that is written behind a backslash, and what follows it. -/
def readMarked : List Char → Option (Nat × List Char)
  | [] => none
  | mark :: rest =>
    match hexWidth? mark with
    | some width => some (hexValue (rest.take width), rest.drop width)
    | none => some ((blankOfLetter? mark).getD mark.toNat, rest)

/-- **The code point that is written first**, and what follows it. -/
def readEscape : List Char → Option (Nat × List Char)
  | [] => none
  | c :: rest => if c = backslash then readMarked rest else some (c.toNat, rest)

theorem hexDigitValue_hexDigit {d : Nat} (h : d < 16) : hexDigitValue (hexDigit d) = d := by
  have hall : ∀ d < 16, hexDigitValue (hexDigit d) = d := by decide
  exact hall d h

/-- **Hexadecimal digits are read back**, if there are enough of them. -/
theorem hexValue_hex {width n : Nat} (h : n < 16 ^ width) : hexValue (hex width n) = n := by
  induction width generalizing n with
  | zero =>
    have hzero : n = 0 := by simpa using h
    subst hzero
    rfl
  | succ width ih =>
    rw [Nat.pow_succ] at h
    have hfront : hexValue (hex width (n / 16)) = n / 16 := ih (by omega)
    have hlast : hexDigitValue (hexDigit (n % 16)) = n % 16 :=
      hexDigitValue_hexDigit (Nat.mod_lt n (by decide))
    unfold hexValue at hfront ⊢
    rw [hex, List.foldl_append, hfront, List.foldl_cons, List.foldl_nil, hlast]
    omega

theorem readEscape_of_hexWidth?_none {mark : Char} (h : hexWidth? mark = none)
    (rest : List Char) :
    readEscape (backslash :: mark :: rest) =
      some ((blankOfLetter? mark).getD mark.toNat, rest) := by
  simp [readEscape, readMarked, h]

theorem readEscape_hex {mark : Char} {width code : Nat} (hmark : hexWidth? mark = some width)
    (hcode : code < 16 ^ width) (rest : List Char) :
    readEscape (backslash :: mark :: hex width code ++ rest) = some (code, rest) := by
  simp [readEscape, readMarked, hmark, hexValue_hex hcode]

/-! ## Writing a code point -/

/-- The quotes there are. -/
def IsQuote (quote : Char) : Prop := quote = apostrophe ∨ quote = quotationMark

theorem isQuote_quoteFor (hasApostrophe hasMark : Bool) :
    IsQuote (quoteFor hasApostrophe hasMark) := by
  unfold quoteFor
  split
  · exact .inr rfl
  · exact .inl rfl

theorem IsQuote.ne_backslash {quote : Char} (h : IsQuote quote) : backslash ≠ quote := by
  rcases h with rfl | rfl <;> decide

/-- **The ways to write a code point** between the given quotes. -/
inductive Escaped (quote : Char) (code : Nat) : List Char → Prop where
  /-- A character stands for itself. -/
  | plain {c : Char} (hc : c.toNat = code) (hquote : c ≠ quote) (hback : c ≠ backslash) :
    Escaped quote code [c]
  /-- A quote or a backslash stands behind a backslash. -/
  | marked {c : Char} (hc : c.toNat = code) (hmark : c = quote ∨ c = backslash) :
    Escaped quote code [backslash, c]
  /-- A letter stands for a blank. -/
  | blank {letter : Char} (hletter : blankLetter? code = some letter) :
    Escaped quote code [backslash, letter]
  /-- The code point stands there as a number. -/
  | number {mark : Char} {width : Nat} (hmark : hexWidth? mark = some width)
    (hcode : code < 16 ^ width) : Escaped quote code (backslash :: mark :: hex width code)

theorem escaped_escape (quote c : Char) : Escaped quote c.toNat (escape quote c) := by
  unfold escape
  split
  · exact .marked rfl ‹_›
  · rename_i hc
    obtain ⟨hquote, hback⟩ := not_or.mp hc
    split
    · exact .blank ‹_›
    · split
      · exact .plain rfl hquote hback
      · split
        · exact .number rfl ‹_›
        · split
          · exact .number rfl ‹_›
          · exact .number rfl c.val.toNat_lt

theorem toNat_ofNat_toNat (b : UInt8) : (Char.ofNat b.toNat).toNat = b.toNat := by
  have hvalid : b.toNat.isValidChar := .inl (Nat.lt_trans b.toNat_lt (by decide))
  rw [Char.ofNat, dif_pos hvalid]
  rfl

theorem escaped_escapeByte (quote : Char) (b : UInt8) :
    Escaped quote b.toNat (escapeByte quote b) := by
  unfold escapeByte
  dsimp only
  split
  · exact .marked (toNat_ofNat_toNat b) ‹_›
  · rename_i hc
    obtain ⟨hquote, hback⟩ := not_or.mp hc
    split
    · exact .blank ‹_›
    · split
      · exact .plain (toNat_ofNat_toNat b) hquote hback
      · exact .number rfl b.toNat_lt

namespace Escaped

variable {quote : Char} {code : Nat} {e : List Char}

/-- **What is written is read back**, and what is behind it is left. -/
theorem read (h : Escaped quote code e) (hquote : IsQuote quote) (rest : List Char) :
    readEscape (e ++ rest) = some (code, rest) := by
  cases h with
  | plain hc _ hback =>
    subst hc
    exact if_neg hback
  | @marked c hc hmark =>
    subst hc
    have hknown : c = apostrophe ∨ c = quotationMark ∨ c = backslash := by
      unfold IsQuote at hquote
      grind
    rcases hknown with rfl | rfl | rfl <;> exact readEscape_of_hexWidth?_none rfl rest
  | @blank letter hletter =>
    have hknown : (code, letter) ∈ [(9, 't'), (10, 'n'), (13, 'r')] := by
      unfold blankLetter? at hletter
      grind
    simp only [List.mem_cons, Prod.mk.injEq, List.not_mem_nil, or_false] at hknown
    rcases hknown with ⟨rfl, rfl⟩ | ⟨rfl, rfl⟩ | ⟨rfl, rfl⟩ <;>
      exact readEscape_of_hexWidth?_none rfl rest
  | number hmark hcode => exact readEscape_hex hmark hcode rest

theorem head_ne (h : Escaped quote code e) (hquote : IsQuote quote) :
    ∃ c rest, e = c :: rest ∧ c ≠ quote := by
  cases h with
  | plain _ hne _ => exact ⟨_, _, rfl, hne⟩
  | marked => exact ⟨_, _, rfl, hquote.ne_backslash⟩
  | blank => exact ⟨_, _, rfl, hquote.ne_backslash⟩
  | number => exact ⟨_, _, rfl, hquote.ne_backslash⟩

end Escaped

/-! ## Forms that say where they end -/

section SelfDelimiting

variable {α : Type}

/-- **A form that says where it ends**: two values written in it, each with something behind it, are
alike only if the values are and what is behind them is. -/
def SelfDelimiting {β : Type} [Append β] (form : α → β) : Prop :=
  ∀ ⦃a b : α⦄ ⦃r u : β⦄, form a ++ r = form b ++ u → a = b ∧ r = u

theorem selfDelimiting_toList_iff {form : α → String} :
    SelfDelimiting (fun a => (form a).toList) ↔ SelfDelimiting form := by
  constructor
  · intro h a b r u heq
    have hchars := congrArg String.toList heq
    rw [String.toList_append, String.toList_append] at hchars
    obtain ⟨hab, hru⟩ := h hchars
    exact ⟨hab, String.toList_inj.mp hru⟩
  · intro h a b r u heq
    have htext : form a ++ String.ofList r = form b ++ String.ofList u := by
      rw [← String.toList_inj]
      simpa using heq
    obtain ⟨hab, hru⟩ := h htext
    exact ⟨hab, String.ofList_inj.mp hru⟩

variable {form : α → List Char}

/-- A form that never starts with the given mark. -/
def StartsUnlike (mark : Char) (form : α → List Char) : Prop :=
  ∀ a, ∃ c rest, form a = c :: rest ∧ c ≠ mark

/-- What is in front of every value says nothing of where the values end. -/
theorem SelfDelimiting.append_left (h : SelfDelimiting form) (front : List Char) :
    SelfDelimiting fun a => front ++ form a := by
  intro a b r u heq
  simp only [List.append_assoc] at heq
  exact h (List.append_cancel_left heq)

/-- What starts with the mark is not what starts with a value. -/
theorem StartsUnlike.ne {mark : Char} (h : StartsUnlike mark form) (a : α) (r u : List Char) :
    mark :: r ≠ form a ++ u := by
  obtain ⟨c, rest, hform, hc⟩ := h a
  rw [hform]
  exact fun heq => hc (List.head_eq_of_cons_eq heq).symm

/-- **Values up to an end mark** that none of them starts with are told, and so is what is behind
the mark. -/
theorem SelfDelimiting.flatMap_inj (h : SelfDelimiting form) {mark : Char}
    (hmark : StartsUnlike mark form) {s t : List α} {r u : List Char}
    (heq : s.flatMap form ++ mark :: r = t.flatMap form ++ mark :: u) : s = t ∧ r = u := by
  induction s generalizing t with
  | nil =>
    cases t with
    | nil => exact ⟨rfl, List.tail_eq_of_cons_eq heq⟩
    | cons b t =>
      rw [List.flatMap_cons, List.append_assoc] at heq
      exact absurd heq (hmark.ne b _ _)
  | cons a s ih =>
    rw [List.flatMap_cons, List.append_assoc] at heq
    cases t with
    | nil => exact absurd heq.symm (hmark.ne a _ _)
    | cons b t =>
      rw [List.flatMap_cons, List.append_assoc] at heq
      obtain ⟨hab, hrest⟩ := h heq
      obtain ⟨hst, hru⟩ := ih hrest
      exact ⟨by rw [hab, hst], hru⟩

/-- **Values between quotes** say where they end, if each is written as an escape of its own. -/
theorem selfDelimiting_of_escaped {quote : Char} {code : α → Nat} (hquote : IsQuote quote)
    (hcode : ∀ ⦃a b⦄, code a = code b → a = b) (h : ∀ a, Escaped quote (code a) (form a)) :
    SelfDelimiting fun s : List α => s.flatMap form ++ [quote] := by
  have hform : SelfDelimiting form := by
    intro a b r u heq
    have hboth := ((h a).read hquote r).symm.trans
      ((congrArg readEscape heq).trans ((h b).read hquote u))
    obtain ⟨hab, hru⟩ := Prod.mk.inj (Option.some.inj hboth)
    exact ⟨hcode hab, hru⟩
  have hmark : StartsUnlike quote form := fun a => (h a).head_ne hquote
  intro s t r u heq
  simp only [List.append_assoc, List.singleton_append] at heq
  exact hform.flatMap_inj hmark heq

end SelfDelimiting

/-! ## Quoted contents -/

/-- **A quoted text says where it ends.** -/
theorem selfDelimiting_quotedChars : SelfDelimiting quotedChars := by
  intro s t r u h
  have hquote := isQuote_quoteFor (s.contains apostrophe) (s.contains quotationMark)
  simp only [quotedChars, List.cons_append, List.cons.injEq] at h
  obtain ⟨hsame, h⟩ := h
  -- both contents are between the quotes of the first
  rw [← hsame] at h
  exact selfDelimiting_of_escaped hquote (fun _ _ => Char.toNat_inj.mp) (escaped_escape _) h

/-- **A quoted string of bytes says where it ends.** -/
theorem selfDelimiting_quotedByteChars : SelfDelimiting quotedByteChars := by
  intro s t r u h
  have hquote := isQuote_quoteFor (s.contains 0x27) (s.contains 0x22)
  simp only [quotedByteChars, List.cons_append, List.cons.injEq, true_and] at h
  obtain ⟨hsame, h⟩ := h
  rw [← hsame] at h
  exact selfDelimiting_of_escaped hquote (fun _ _ => UInt8.toNat_inj.mp) (escaped_escapeByte _) h

theorem selfDelimiting_quoted : SelfDelimiting quoted := by
  rw [← selfDelimiting_toList_iff]
  intro s t r u h
  simp only [quoted, String.toList_ofList] at h
  obtain ⟨hst, hru⟩ := selfDelimiting_quotedChars h
  exact ⟨String.toList_inj.mp hst, hru⟩

theorem selfDelimiting_quotedBytes : SelfDelimiting quotedBytes := by
  rw [← selfDelimiting_toList_iff]
  intro s t r u h
  simp only [quotedBytes, String.toList_ofList] at h
  exact selfDelimiting_quotedByteChars h

theorem startsUnlike_quoted {mark : Char} (hmark : ¬ IsQuote mark) :
    StartsUnlike mark fun s => (quoted s).toList := by
  intro s
  simp only [quoted, String.toList_ofList]
  exact ⟨_, _, rfl, fun h => hmark (h ▸ isQuote_quoteFor _ _)⟩

/-! ## Bracketed lists -/

theorem toList_intercalate_cons (separator item : String) (items : List String) :
    (separator.intercalate (item :: items)).toList =
      item.toList ++ items.flatMap fun next => separator.toList ++ next.toList := by
  induction items generalizing item with
  | nil => simp
  | cons next items ih => simp [String.intercalate_cons_cons, ih]

/-- **A bracketed list says where it ends**, if its items do and none looks like its end. -/
theorem SelfDelimiting.bracketed {α : Type} {form : α → String} (h : SelfDelimiting form)
    (hmark : StartsUnlike ']' fun a => (form a).toList) :
    SelfDelimiting fun items : List α => bracketed (items.map form) := by
  rw [← selfDelimiting_toList_iff] at h ⊢
  have hcomma : StartsUnlike ']' fun a => ", ".toList ++ (form a).toList := fun _ =>
    ⟨',', _, rfl, by decide⟩
  have hnil : ∀ r : List Char,
      (Text.bracketed (([] : List α).map form)).toList ++ r = '[' :: ']' :: r := by
    intro r
    simp [Text.bracketed]
  have hcons : ∀ (a : α) (items : List α) (r : List Char),
      (Text.bracketed ((a :: items).map form)).toList ++ r =
        '[' :: ((form a).toList ++
          (items.flatMap (fun next => ", ".toList ++ (form next).toList) ++ ']' :: r)) := by
    intro a items r
    simp only [Text.bracketed, String.toList_append, List.map_cons, toList_intercalate_cons,
      List.flatMap_map, List.append_assoc]
    rfl
  intro items others r u heq
  cases items with
  | nil =>
    cases others with
    | nil => exact ⟨rfl, List.append_cancel_left heq⟩
    | cons b others =>
      rw [hnil, hcons] at heq
      exact absurd (List.tail_eq_of_cons_eq heq) (hmark.ne b _ _)
  | cons a items =>
    rw [hcons] at heq
    cases others with
    | nil =>
      rw [hnil] at heq
      exact absurd (List.tail_eq_of_cons_eq heq).symm (hmark.ne a _ _)
    | cons b others =>
      rw [hcons] at heq
      obtain ⟨hab, hrest⟩ := h (List.tail_eq_of_cons_eq heq)
      obtain ⟨hitems, hru⟩ := (h.append_left ", ".toList).flatMap_inj hcomma hrest
      exact ⟨by rw [hab, hitems], hru⟩

end Keyspan.Text
