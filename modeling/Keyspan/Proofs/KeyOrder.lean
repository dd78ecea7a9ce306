import Keyspan.Lexicographic
import Mathlib.Data.List.Lex

/-!
# Row keys and identifiers are linearly ordered

Both orders are the lexicographic order on sequences of numbers: a row key stands for its unsigned
bytes, an identifier for its code points. No two of them stand for the same sequence, so whatever
holds of a linear order holds of row keys and of identifiers.

Results: `Bytes.lt_iff`, `Bytes.le_iff`, `identLT_iff`.
-/

namespace Keyspan

/-- **`lexLT` is the lexicographic order.** -/
theorem lexLT_iff {a b : List Nat} : lexLT a b = true ↔ a < b := by
  induction a generalizing b with
  | nil => cases b <;> simp [lexLT]
  | cons x a ih =>
    cases b with
    | nil => simp [lexLT]
    | cons y b => simp [lexLT, List.cons_lt_cons_iff, ih]

namespace Bytes

/-- The unsigned bytes of a byte string. -/
def codes (b : Bytes) : List Nat := b.map UInt8.toNat

theorem codes_injective {a b : Bytes} (h : a.codes = b.codes) : a = b :=
  List.map_injective_iff.mpr (fun _ _ => UInt8.toNat_inj.mp) h

theorem nil_le (b : Bytes) : codes [] ≤ b.codes := not_lt.mp (List.not_lt_nil b.codes)

theorem lt_iff {a b : Bytes} : lt a b = true ↔ a.codes < b.codes := lexLT_iff

theorem lt_eq_false_iff {a b : Bytes} : lt a b = false ↔ b.codes ≤ a.codes := by
  rw [← Bool.not_eq_true, lt_iff, not_lt]

theorem le_iff {a b : Bytes} : le a b = true ↔ a.codes ≤ b.codes := by
  unfold le
  rw [Bool.not_eq_true', lt_eq_false_iff]

end Bytes

/-- The code points of an identifier. -/
def identCodes (s : String) : List Nat := s.toList.map Char.toNat

theorem identCodes_injective {s t : String} (h : identCodes s = identCodes t) : s = t :=
  String.toList_injective (List.map_injective_iff.mpr (fun _ _ => Char.toNat_inj.mp) h)

theorem identLT_iff {s t : String} : identLT s t = true ↔ identCodes s < identCodes t := lexLT_iff

end Keyspan
