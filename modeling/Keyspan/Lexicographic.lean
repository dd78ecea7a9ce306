/-!
# Lexicographic order

The first difference decides, and a proper initial part comes first. Row keys are ordered this
way by their bytes, identifiers by their code points; both go through `lexLT` on natural numbers.

Results: `lexLT` is a strict linear order (`lexLT_irrefl`, `lexLT_trans`, `lexLT_total`).
-/

namespace Keyspan

/-- Whether the first sequence comes strictly before the second. -/
def lexLT : List Nat → List Nat → Bool
  | _, [] => false
  | [], _ :: _ => true
  | a :: as, b :: bs => decide (a < b) || (a == b && lexLT as bs)

theorem lexLT_irrefl (a : List Nat) : lexLT a a = false := by
  induction a with
  | nil => rfl
  | cons x a ih => simp [lexLT, ih]

theorem lexLT_trans {a b c : List Nat} (hab : lexLT a b = true) (hbc : lexLT b c = true) :
    lexLT a c = true := by
  induction a generalizing b c with
  | nil =>
    cases b with
    | nil => simp [lexLT] at hab
    | cons y b => cases c with
      | nil => simp [lexLT] at hbc
      | cons z c => rfl
  | cons x a ih =>
    cases b with
    | nil => simp [lexLT] at hab
    | cons y b =>
      cases c with
      | nil => simp [lexLT] at hbc
      | cons z c =>
        simp only [lexLT, Bool.or_eq_true, decide_eq_true_eq, Bool.and_eq_true,
          beq_iff_eq] at hab hbc ⊢
        rcases hab with h | ⟨rfl, h⟩
        · rcases hbc with h' | ⟨rfl, _⟩
          · exact Or.inl (by omega)
          · exact Or.inl h
        · rcases hbc with h' | ⟨rfl, h'⟩
          · exact Or.inl h'
          · exact Or.inr ⟨rfl, ih h h'⟩

/-- **Any two sequences are comparable**: if neither comes first they are equal. -/
theorem lexLT_total {a b : List Nat} (hab : lexLT a b = false) (hba : lexLT b a = false) :
    a = b := by
  induction a generalizing b with
  | nil =>
    cases b with
    | nil => rfl
    | cons y b => simp [lexLT] at hab
  | cons x a ih =>
    cases b with
    | nil => simp [lexLT] at hba
    | cons y b =>
      simp only [lexLT, Bool.or_eq_false_iff, decide_eq_false_iff_not, Bool.and_eq_false_iff,
        beq_eq_false_iff_ne] at hab hba
      have hxy : x = y := by omega
      subst hxy
      rw [ih (hab.2.resolve_left (by simp)) (hba.2.resolve_left (by simp))]

/-- A byte string: a row key, a bound of a key range or a serialized filter. -/
abbrev Bytes := List UInt8

/-- Byte strings are ordered by their unsigned bytes. -/
def Bytes.lt (a b : Bytes) : Bool := lexLT (a.map UInt8.toNat) (b.map UInt8.toNat)

/-- The order of byte strings, equality included. -/
def Bytes.le (a b : Bytes) : Bool := !Bytes.lt b a

/-- Identifiers are ordered by their code points. -/
def identLT (a b : String) : Bool := lexLT (a.toList.map Char.toNat) (b.toList.map Char.toNat)

end Keyspan
