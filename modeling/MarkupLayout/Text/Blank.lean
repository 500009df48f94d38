import MarkupLayout.Text.Basic
import MarkupLayout.Text.CodeRanges

/-!
# Blank characters

The blank characters are Unicode's white space together with the four information separators
U+001C to U+001F: 29 characters. The zero-width space and the byte order mark are not blank.
Trimming removes them from the ends of a text and never from its inside.
-/

namespace MarkupLayout
namespace Text

/-- The blank characters. -/
def blankRanges : CodeRanges :=
  [(0x09, 0x0D), (0x1C, 0x20), (0x85, 0x85), (0xA0, 0xA0), (0x1680, 0x1680), (0x2000, 0x200A),
   (0x2028, 0x2029), (0x202F, 0x202F), (0x205F, 0x205F), (0x3000, 0x3000)]

/-- Whether the character is blank. -/
def isBlank (c : Char) : Bool := blankRanges.covers c.toNat

/-- Every white space character of the core library is blank. -/
theorem isBlank_of_isWhitespace {c : Char} (h : c.isWhitespace = true) : isBlank c = true := by
  simp only [Char.isWhitespace, Bool.or_eq_true, decide_eq_true_eq] at h
  rcases h with ((h | h) | h) | h <;> subst h <;> decide

/-- Removes the blanks in front. -/
def trimLeft (t : Text) : Text := t.dropWhile isBlank

/-- Removes the blanks at the end: `rstrip`. -/
def trimRight (t : Text) : Text := (t.reverse.dropWhile isBlank).reverse

/-- Removes the blanks at both ends: `strip`. -/
def trim (t : Text) : Text := trimRight (trimLeft t)

end Text
end MarkupLayout
