import Keyspan.Text.Printable

/-!
# Quoted texts

How a text, or a string of bytes, is shown inside a longer message: between quotes, with every
character that could be mistaken written as an escape. The apostrophe is the quote unless the
content holds an apostrophe and no quotation mark, so that most contents need no escape at all.

* `escape`: one character; a printable one stands for itself, the quote and the backslash get a
  backslash in front, tab, line feed and carriage return have letters, and all others are
  written by their code point in two, four or eight hexadecimal digits.
* `quoted`, `quotedBytes`: a whole text, a whole string of bytes.
* `bracketed`, `numbered`: a list of shown items, a map of them by number.
-/

namespace Keyspan.Text

/-- The apostrophe, the quote of first choice. -/
def apostrophe : Char := '\x27'

def quotationMark : Char := '\x22'

def backslash : Char := '\x5c'

/-- A hexadecimal digit, in small letters. -/
def hexDigit (d : Nat) : Char :=
  if d < 10 then Char.ofNat (0x30 + d) else Char.ofNat (0x57 + d)

/-- The last `width` hexadecimal digits of a number. -/
def hex : Nat → Nat → List Char
  | 0, _ => []
  | width + 1, n => hex width (n / 16) ++ [hexDigit (n % 16)]

@[simp] theorem length_hex (width n : Nat) : (hex width n).length = width := by
  induction width generalizing n with
  | zero => rfl
  | succ width ih => simp [hex, ih]

/-- **The quote of a content**, from whether it holds apostrophes and quotation marks. -/
def quoteFor (hasApostrophe hasMark : Bool) : Char :=
  if hasApostrophe && !hasMark then quotationMark else apostrophe

/-- The letter of a blank that has an escape of its own. -/
def blankLetter? (code : Nat) : Option Char :=
  if code = 9 then some 't'
  else if code = 10 then some 'n'
  else if code = 13 then some 'r'
  else none

/-- One character of a text between the given quotes. -/
def escape (quote c : Char) : List Char :=
  if c = quote ∨ c = backslash then [backslash, c]
  else
    match blankLetter? c.toNat with
    | some l => [backslash, l]
    | none =>
      if isPrintable c then [c]
      else if c.toNat < 0x100 then backslash :: 'x' :: hex 2 c.toNat
      else if c.toNat < 0x10000 then backslash :: 'u' :: hex 4 c.toNat
      else backslash :: 'U' :: hex 8 c.toNat

/-- One byte of a string of bytes between the given quotes: ASCII alone stands for itself. -/
def escapeByte (quote : Char) (b : UInt8) : List Char :=
  let c := Char.ofNat b.toNat
  if c = quote ∨ c = backslash then [backslash, c]
  else
    match blankLetter? b.toNat with
    | some l => [backslash, l]
    | none =>
      if 0x20 ≤ b.toNat ∧ b.toNat < 0x7F then [c] else backslash :: 'x' :: hex 2 b.toNat

/-- The characters of a quoted text. -/
def quotedChars (s : List Char) : List Char :=
  let quote := quoteFor (s.contains apostrophe) (s.contains quotationMark)
  quote :: s.flatMap (escape quote) ++ [quote]

/-- The characters of a quoted string of bytes, with the mark `b` in front. -/
def quotedByteChars (bytes : List UInt8) : List Char :=
  let quote := quoteFor (bytes.contains 0x27) (bytes.contains 0x22)
  'b' :: quote :: bytes.flatMap (escapeByte quote) ++ [quote]

/-- **A text between quotes.** -/
def quoted (s : String) : String := String.ofList (quotedChars s.toList)

/-- **A string of bytes between quotes.** -/
def quotedBytes (bytes : List UInt8) : String := String.ofList (quotedByteChars bytes)

/-- Shown items between square brackets. -/
def bracketed (items : List String) : String := "[" ++ ", ".intercalate items ++ "]"

/-- Shown items under their numbers, between braces. -/
def numbered (items : List String) : String :=
  let item := fun (shown, i) => toString (i : Nat) ++ ": " ++ shown
  "\x7b" ++ ", ".intercalate (items.zipIdx.map item) ++ "\x7d"

end Keyspan.Text
