import Keyspan.Failure

/-!
# Items of a list by index

An index past the end of a list is a failure, and one beyond `maxIndex`, which no list reaches,
is a failure of its own.

Results: `itemAt_eq_ok_iff`: an item is found iff the list has it at the index.
-/

namespace Keyspan

/-- The greatest index that an item of a list can have. -/
def maxIndex : Nat := 9223372036854775807

/-- Why there is no item at an index. -/
def missingItem (index : Nat) : Failure :=
  if index ≤ maxIndex then .noSuchItem else .indexTooLarge

/-- The item at an index of a list, or the failure to find it. -/
def itemAt {α : Type} (xs : List α) (index : Nat) : Except Failure α :=
  match xs[index]? with
  | some x => .ok x
  | none => .error (missingItem index)

theorem itemAt_eq_ok_iff {α : Type} {xs : List α} {index : Nat} {x : α} :
    itemAt xs index = .ok x ↔ xs[index]? = some x := by
  unfold itemAt
  cases xs[index]? <;> simp

end Keyspan
