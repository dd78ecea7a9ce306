import Keyspan.Text.Ranges

/-!
# Blank characters and trimming

`isBlank` is the class of characters that separate or surround a value in an option text: the
Unicode white space together with the four information separators U+001C to U+001F. `trim` drops
blanks at both ends and nothing else.

Results:
* `isBlank_of_isWhitespace`: the class extends the ASCII white space of `Char.isWhitespace`;
* `trimLeft_eq_self_iff`: a text is unchanged by trimming on the left iff it is empty or starts
  with a character that is not blank.
-/

namespace Keyspan.Text

/-- The blank code points. The zero width space and the byte order mark are not among them. -/
def blankRanges : CodeRanges :=
  [(0x9, 0xD), (0x1C, 0x20), (0x85, 0x85), (0xA0, 0xA0), (0x1680, 0x1680), (0x2000, 0x200A),
   (0x2028, 0x2029), (0x202F, 0x202F), (0x205F, 0x205F), (0x3000, 0x3000)]

/-- Whether a character is blank. -/
def isBlank (c : Char) : Bool := blankRanges.contains c.toNat

def trimLeft (s : List Char) : List Char := s.dropWhile isBlank

def trimRight (s : List Char) : List Char := (trimLeft s.reverse).reverse

/-- Drop the blanks at both ends. -/
def trim (s : List Char) : List Char := trimRight (trimLeft s)

/-- **Every ASCII white space character is blank**: the class adds to it and takes nothing away. -/
theorem isBlank_of_isWhitespace (c : Char) (h : c.isWhitespace = true) : isBlank c = true := by
  simp [Char.isWhitespace] at h
  rcases h with ((h | h) | h) | h <;> subst h <;> decide

theorem trimLeft_eq_self_iff (s : List Char) :
    trimLeft s = s ↔ ∀ c r, s = c :: r → isBlank c = false := by
  cases s with
  | nil => simp [trimLeft]
  | cons c r =>
    simp only [trimLeft, List.dropWhile_cons]
    split
    · rename_i hc
      refine ⟨fun h => ?_, fun h => ?_⟩
      · have hlen := (List.dropWhile_suffix (l := r) isBlank).length_le
        rw [h] at hlen
        exact absurd hlen (by simp)
      · exact absurd (h c r rfl) (by simp [hc])
    · rename_i hc
      simpa using hc

end Keyspan.Text
