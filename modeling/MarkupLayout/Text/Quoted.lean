import MarkupLayout.Text.Numeral
import MarkupLayout.Text.Printable

/-!
# Quoted texts

Messages show texts between quotation marks, in one line and in printable characters. The mark is
an apostrophe unless the text holds an apostrophe and no double quote. A backslash stands before
the mark, before another backslash and in front of the escapes.
-/

namespace MarkupLayout
namespace Text

/-- The written form of one character between two marks. -/
def escape (mark c : Char) : Text :=
  if c = mark || c = '\\' then ['\\', c]
  else if c = '\n' then ['\\', 'n']
  else if c = '\r' then ['\\', 'r']
  else if c = '\t' then ['\\', 't']
  else if isPrintable c then [c]
  else if c.toNat < 0x100 then '\\' :: 'x' :: ofNatHex 2 c.toNat
  else if c.toNat < 0x10000 then '\\' :: 'u' :: ofNatHex 4 c.toNat
  else '\\' :: 'U' :: ofNatHex 8 c.toNat

/-- The quotation mark for a text. -/
def quotationMark (t : Text) : Char :=
  if '\x27' ∈ t ∧ '\x22' ∉ t then '\x22' else '\x27'

/-- The text between quotation marks. -/
def quote (t : Text) : Text :=
  let mark := quotationMark t
  mark :: t.flatMap (escape mark) ++ [mark]

end Text
end MarkupLayout
