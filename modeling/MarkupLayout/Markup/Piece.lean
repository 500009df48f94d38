import MarkupLayout.Text.Basic

/-!
# Pieces of a document

A document is put on one line and cut into tags and the text between them. A tag begins with `<`
and ends with the first `>` that leaves at least one character between the two; this character may
be any, also another bracket. A `<` that no such `>` follows begins no tag, and then no later `<`
does: the rest of the line is text.

A `>` in an attribute value ends the tag early. All this is the tokenizer of specification §4.1.
-/

namespace MarkupLayout
namespace Text

/-- Puts a document on one line: line ends vanish and tabs become spaces. `normalize_whitespace`,
specification §4.1. -/
def singleLine (t : Text) : Text :=
  (t.filter fun c => c ≠ '\n' && c ≠ '\r').map fun c => if c = '\t' then ' ' else c

end Text

namespace Markup

/-- Where the next character of a line stands. -/
inductive Place where
  /-- Outside the tags. -/
  | text
  /-- Right after the bracket that begins a tag. -/
  | bracket
  /-- Further inside a tag. -/
  | tag
  deriving DecidableEq, Repr

/-- Whether a bracket before the rest of a line begins a match of `TAG_PATTERN`. -/
def opensTag (rest : Text) : Bool := '>' ∈ rest.drop 1

/-- Cuts the rest of a line as `tokenize` splits it by `TAG_PATTERN`, whose lazy matches are tags.
The first part continues what stands before it, and parts of text may be empty. -/
def cut : Place → Text → List Text
  | _, [] => [[]]
  | .text, c :: rest =>
    if c = '<' then
      -- no later bracket begins a tag if this one does not
      if opensTag rest then [] :: Text.glue c (cut .bracket rest) else [c :: rest]
    else Text.glue c (cut .text rest)
  | .bracket, c :: rest => Text.glue c (cut .tag rest)
  | .tag, c :: rest => if c = '>' then [c] :: cut .text rest else Text.glue c (cut .tag rest)

/-- Cutting loses nothing. -/
theorem flatten_cut (place : Place) (t : Text) : (cut place t).flatten = t := by
  induction t generalizing place with
  | nil => cases place <;> rfl
  | cons c rest ih =>
    cases place with
    | text =>
      rw [cut]
      split
      · split <;> simp [ih]
      · simp [ih]
    | bracket => simp [cut, ih]
    | tag => rw [cut]; split <;> simp [ih]

/-- The tags of a document and the texts between them, in order. None is empty. `tokenize`,
specification §4.1. -/
def pieces (document : Text) : List Text :=
  (cut .text document.singleLine).filter fun piece => !piece.isEmpty

/-- The pieces of a document joined are its single line, the invariant of specification §3. -/
theorem flatten_pieces (document : Text) : (pieces document).flatten = document.singleLine := by
  rw [pieces, List.flatten_filter_not_isEmpty, flatten_cut]

end Markup
end MarkupLayout
