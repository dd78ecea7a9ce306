import Keyspan.Proofs.Number.Literal
import Keyspan.Proofs.Setting.Reading
import Keyspan.Proofs.Text.Normal
import Mathlib.Data.List.Induction

/-!
# Settings read as they were last set

A setting keeps the text of what it is set to, and reading it converts that text. The words for
flags, the digits of integers and texts themselves all convert back, so a setting that is set to a
value of its own kind, and of one of these three, reads as that value whatever default is given.
Settings are told by their keys, and what is written at one key is never seen at another. An integer
with more digits than are written is the one value that cannot be set.

* `Writing`, `Writing.Exact`: a setting and what it is set to, a value of just the declared kind.
* `Settings.after`, `Settings.run`: the settings after writings, some of which may be refused.
* `lastWriting?`: the last writing at a key that was not refused.

Results:
* `convert_of_toText`: flags, integers and texts are regained from their texts.
* `toText_eq_error_iff`: which of them have none.
* `lookup_after`, `lookup_run`: what one writing leaves at a key, and what all of them do.
* `reads_as_last_set`: what settings read as after any writings.
-/

namespace Keyspan.Setting

namespace Value

/-! ## From values to texts and back -/

theorem trimmed_toString (n : Int) : trimmed (toString n) = toString n := by
  have hdigits : ∀ c ∈ Nat.toDigits 10 n.natAbs, Text.isBlank c = false := fun c hc =>
    Text.isBlank_of_isDigit (Text.isDigit_of_decimalValue?
      (Text.decimalValue?_of_isDigit (Nat.isDigit_of_mem_toDigits (by decide) (by decide) hc)))
  have hminus : Text.isBlank '-' = false := by decide
  have hplain : ∀ c ∈ (toString n).toList, Text.isBlank c = false := by
    rw [toString_eq_ofList, String.toList_ofList]
    split
    · exact List.forall_mem_cons.mpr ⟨hminus, hdigits⟩
    · exact hdigits
  unfold trimmed
  rw [Text.trim_eq_self hplain, String.ofList_toList]

variable {v : Value}

/-- **Flags, integers and texts are regained from their texts.** -/
theorem convert_of_toText {written : String} (hv : v.kind ∈ [Kind.flag, .integer, .text])
    (h : v.toText = .ok written) : (text written).convert v.kind = .ok v := by
  cases v with
  | flag b =>
    have hflag : (text written).toFlag = .ok b := by
      obtain rfl := Except.ok.inj h
      cases b <;> decide +kernel
    show (text written).toFlag.map flag = .ok (flag b)
    rw [hflag]
    rfl
  | integer n =>
    obtain ⟨hwritable, rfl⟩ := integerText_eq_ok_iff.mp h
    have hinteger : (text (toString n)).toInteger = .ok n := by
      unfold toInteger
      dsimp only
      rw [trimmed_toString, readInteger_toString hwritable]
    show (text (toString n)).toInteger.map integer = .ok (integer n)
    rw [hinteger]
    rfl
  | text s => exact Except.ok.inj h ▸ rfl
  | _ => exact absurd hv (by simp [kind])

/-- **Of flags, integers and texts only integers may have no text**, namely those with more digits
than are written. -/
theorem toText_eq_error_iff (hv : v.kind ∈ [Kind.flag, .integer, .text]) {f : Failure} :
    v.toText = .error f ↔
      ∃ n, v = .integer n ∧ 10 ^ maxDigits ≤ n.natAbs ∧ f = .numeralTooLong := by
  cases v with
  | flag b =>
    have htext : (flag b).toText = .ok (if b then "true" else "false") := rfl
    simp [htext]
  | integer n =>
    have htext : (integer n).toText =
        if isWritable n = true then .ok (toString n) else .error .numeralTooLong := rfl
    have hlong : ¬ isWritable n = true ↔ 10 ^ maxDigits ≤ n.natAbs := by
      rw [isWritable_iff, Nat.not_lt]
    rw [htext]
    split
    · rename_i hwritable
      simp only [reduceCtorEq, false_iff]
      rintro ⟨_, ⟨⟩, hn, -⟩
      exact absurd hwritable (hlong.mpr hn)
    · rename_i hrefused
      refine ⟨fun h => ⟨n, rfl, hlong.mp hrefused, (Except.error.inj h).symm⟩, ?_⟩
      rintro ⟨-, -, -, rfl⟩
      rfl
  | text s =>
    have htext : (text s).toText = .ok s := rfl
    simp [htext]
  | _ => exact absurd hv (by simp [kind])

end Value

/-! ## Writings -/

/-- A setting, and the value that it is set to. -/
structure Writing where
  setting : Declaration
  value : Value

/-- **A value of just the declared kind**, which is one of the three whose texts convert back. A
flag is not an integer here. -/
structure Writing.Exact (w : Writing) : Prop where
  plain : w.setting.kind ∈ [Kind.flag, .integer, .text]
  same : w.value.kind = w.setting.kind

/-- Whether a writing leaves a text at a key: it is about that key and is not refused. -/
def Writing.entersAt (key : String) (w : Writing) : Bool :=
  w.setting.key == key && w.value.toText.isOk

/-- **The last writing at a key** that was not refused. -/
def lastWriting? (key : String) (ws : List Writing) : Option Writing :=
  (ws.filter (Writing.entersAt key)).getLast?

namespace Settings

variable {s t : Settings} {d : Declaration}

/-- The settings after a writing. One that is refused leaves them as they are. -/
def after (s : Settings) (w : Writing) : Settings :=
  match s.write w.setting w.value with
  | .ok t => t
  | .error _ => s

/-- Writings, one after another. -/
def run (s : Settings) (ws : List Writing) : Settings := ws.foldl after s

/-! ## What is read depends on one key -/

theorem contains_congr (h : t.lookup d.key = s.lookup d.key) : t.contains d = s.contains d :=
  congrArg Option.isSome h

theorem read_congr (h : t.lookup d.key = s.lookup d.key) (given : Value) :
    t.read d given = s.read d given := by
  unfold read
  rw [h]

theorem contains_of_lookup {raw : Value} (h : s.lookup d.key = some raw) : s.contains d = true :=
  congrArg Option.isSome h

theorem read_of_lookup_text {written : String} (h : s.lookup d.key = some (.text written))
    (given : Value) : s.read d given = (Value.text written).convert d.kind := by
  unfold read
  rw [h]
  exact if_neg nofun

/-! ## What writings leave behind -/

/-- **A writing leaves the text of its value at its key**, if the value has one. -/
theorem write_eq_ok_iff {v : Value} :
    s.write d v = .ok t ↔ ∃ written, v.toText = .ok written ∧ t = s.put d.key (.text written) := by
  unfold write
  cases v.toText with
  | ok written => simp [Except.map, eq_comm]
  | error f => simp [Except.map]

theorem write_eq_error_iff {v : Value} {f : Failure} :
    s.write d v = .error f ↔ v.toText = .error f := by
  unfold write
  cases v.toText <;> simp [Except.map]

/-- **One writing** leaves a text at its own key, and nothing anywhere else. -/
theorem lookup_after (s : Settings) (w : Writing) (key : String) :
    (s.after w).lookup key =
      if w.entersAt key then w.value.toText.toOption.map .text else s.lookup key := by
  unfold after write Writing.entersAt
  cases w.value.toText with
  | error f => simp [Except.map, Except.isOk, Except.toBool]
  | ok written =>
    by_cases hkey : w.setting.key = key
    · subst hkey
      simp [Except.map, Except.isOk, Except.toBool, Except.toOption]
    · simp [Except.map, hkey, OrderedMap.lookup_put_of_ne _ (Ne.symm hkey)]

/-- **All writings** leave at a key the text of the last one there, if there is one. -/
theorem lookup_run (s : Settings) (ws : List Writing) (key : String) :
    (s.run ws).lookup key =
      match lastWriting? key ws with
      | some w => w.value.toText.toOption.map .text
      | none => s.lookup key := by
  unfold run lastWriting?
  -- the last writing comes last, so the induction takes writings off at the end
  induction ws using List.reverseRecOn with
  | nil => rfl
  | append_singleton ws w ih =>
    rw [List.foldl_append, List.foldl_cons, List.foldl_nil, lookup_after, List.filter_append,
      List.getLast?_append]
    by_cases hw : w.entersAt key = true
    · rw [if_pos hw, List.filter_cons_of_pos hw]
      rfl
    · rw [if_neg hw, List.filter_cons_of_neg hw, ih]
      rfl

end Settings

/-- The last writing at a key is one of the writings, is about that key and has a text. -/
theorem lastWriting?_eq_some {key : String} {ws : List Writing} {w : Writing}
    (h : lastWriting? key ws = some w) :
    w ∈ ws ∧ w.setting.key = key ∧ ∃ written, w.value.toText = .ok written := by
  obtain ⟨hmem, henters⟩ := List.mem_filter.mp (List.mem_of_getLast? h)
  obtain ⟨hkey, htext⟩ := Bool.and_eq_true_iff.mp henters
  refine ⟨hmem, eq_of_beq hkey, ?_⟩
  cases hw : w.value.toText with
  | ok written => exact ⟨written, rfl⟩
  | error f =>
    rw [hw] at htext
    exact nomatch htext

theorem Writing.Exact.value_plain {w : Writing} (hw : w.Exact) :
    w.value.kind ∈ [Kind.flag, .integer, .text] :=
  hw.same ▸ hw.plain

/-- A writing of a value of just the declared kind leaves a text that converts back. -/
theorem Writing.Exact.convert {w : Writing} (hw : w.Exact) {written : String}
    (h : w.value.toText = .ok written) :
    (Value.text written).convert w.setting.kind = .ok w.value :=
  hw.same ▸ Value.convert_of_toText hw.value_plain h

/-- **Settings read as they were last set.** Let the value be of just the kind that the setting
declares, a flag, an integer or a text. Setting it is refused only if it is an integer with more
digits than are written. If it is not refused, the setting is there and reads as that value, of that
kind, whatever default is given, and a setting with another key is there and reads as before. So
after any such writings a setting with a key that none of them entered is there and reads as before,
and any other setting is there and reads as the value that was last set at its key; if it declares
another kind than was set there, it reads as what the text of that value converts to. -/
theorem reads_as_last_set (s : Settings) :
    (∀ w : Writing, w.Exact →
      ((∃ f, s.write w.setting w.value = .error f) ↔
        ∃ n, w.value = .integer n ∧ 10 ^ maxDigits ≤ n.natAbs) ∧
      ∀ t, s.write w.setting w.value = .ok t →
        (∀ given, t.read w.setting given = .ok w.value) ∧ t.contains w.setting = true ∧
        ∀ other : Declaration, other.key ≠ w.setting.key →
          t.contains other = s.contains other ∧
            ∀ given, t.read other given = s.read other given) ∧
    ∀ ws : List Writing, (∀ w ∈ ws, w.Exact) → ∀ d : Declaration,
      match lastWriting? d.key ws with
      | none =>
        (s.run ws).contains d = s.contains d ∧
          ∀ given, (s.run ws).read d given = s.read d given
      | some w =>
        (s.run ws).contains d = true ∧
          (d.kind = w.setting.kind → ∀ given, (s.run ws).read d given = .ok w.value) ∧
          ∃ written, w.value.toText = .ok written ∧
            ∀ given, (s.run ws).read d given = (Value.text written).convert d.kind := by
  refine ⟨fun w hw => ⟨?_, fun t ht => ?_⟩, fun ws hws d => ?_⟩
  · simp only [Settings.write_eq_error_iff, Value.toText_eq_error_iff hw.value_plain]
    exact ⟨fun ⟨_, n, hn, hlong, _⟩ => ⟨n, hn, hlong⟩, fun ⟨n, hn, hlong⟩ => ⟨_, n, hn, hlong, rfl⟩⟩
  · obtain ⟨written, htext, rfl⟩ := Settings.write_eq_ok_iff.mp ht
    have hown := OrderedMap.lookup_put_self s w.setting.key (Value.text written)
    refine ⟨fun given => ?_, Settings.contains_of_lookup hown, fun other hne => ?_⟩
    · rw [Settings.read_of_lookup_text hown, hw.convert htext]
    · have hother := OrderedMap.lookup_put_of_ne s hne (Value.text written)
      exact ⟨Settings.contains_congr hother, Settings.read_congr hother⟩
  · have hlookup := Settings.lookup_run s ws d.key
    cases hlast : lastWriting? d.key ws with
    | none =>
      rw [hlast] at hlookup
      exact ⟨Settings.contains_congr hlookup, Settings.read_congr hlookup⟩
    | some w =>
      obtain ⟨hmem, -, written, htext⟩ := lastWriting?_eq_some hlast
      rw [hlast] at hlookup
      dsimp only at hlookup
      rw [htext] at hlookup
      have hread := Settings.read_of_lookup_text hlookup
      refine ⟨Settings.contains_of_lookup hlookup, fun hkind given => ?_, written, htext, hread⟩
      rw [hread, hkind, (hws w hmem).convert htext]

/-- A flag is set; and the number of rows to sample is set twice, the second time below zero, with a
text that has blanks around it in between, at a key of its own. -/
theorem reads_as_last_set_below_zero :
    let label : Declaration := ⟨"label", .text, "", .missing, by decide⟩
    let ws : List Writing :=
      [⟨sampleRows, .integer 12⟩, ⟨label, .text " on "⟩, ⟨sampleRows, .integer (-7)⟩]
    (∃ t, Settings.write .empty sizesEnabled (.flag true) = .ok t ∧
        t.read sizesEnabled (.flag false) = .ok (.flag true) ∧
        t.read sampleRows .missing = .ok (.integer 100)) ∧
      (∀ w ∈ ws, w.Exact) ∧
      Settings.read (Settings.run .empty ws) sampleRows (.integer 5) = .ok (.integer (-7)) ∧
      Settings.read (Settings.run .empty ws) label .missing = .ok (.text " on ") ∧
      Settings.contains (Settings.run .empty ws) sizesEnabled = false := by
  intro label ws
  have hexact : ∀ w ∈ ws, w.Exact := by
    intro w hw
    rcases List.mem_cons.mp hw with rfl | hw
    · exact ⟨by decide, rfl⟩
    · rcases List.mem_cons.mp hw with rfl | hw
      · exact ⟨by decide, rfl⟩
      · exact List.mem_singleton.mp hw ▸ ⟨by decide, rfl⟩
  obtain ⟨t, ht⟩ : ∃ t, Settings.write .empty sizesEnabled (.flag true) = .ok t := ⟨_, rfl⟩
  obtain ⟨hflag, -, hothers⟩ :=
    ((reads_as_last_set .empty).1 ⟨sizesEnabled, .flag true⟩ ⟨by decide, rfl⟩).2 t ht
  have hrowsKept := (hothers sampleRows (by decide)).2 .missing
  have hread := (reads_as_last_set .empty).2 ws hexact
  have hrows : lastWriting? sampleRows.key ws = some ⟨sampleRows, .integer (-7)⟩ := rfl
  have hlabel : lastWriting? label.key ws = some ⟨label, .text " on "⟩ := rfl
  have hnone : lastWriting? sizesEnabled.key ws = none := rfl
  have hreadRows := hread sampleRows
  have hreadLabel := hread label
  have hreadOther := hread sizesEnabled
  rw [hrows] at hreadRows
  rw [hlabel] at hreadLabel
  rw [hnone] at hreadOther
  exact ⟨⟨t, ht, hflag _, hrowsKept⟩, hexact, hreadRows.2.1 rfl _, hreadLabel.2.1 rfl _,
    hreadOther.1⟩

end Keyspan.Setting
