import MarkupLayout.Markup.Piece
import MarkupLayout.Text.Blank
import MarkupLayout.Text.Quoted
import MarkupLayout.Text.Word

/-!
# Tokens

A token is a piece of a document with its kind and the name of its tag. The kind is read off the
two ends of the trimmed piece, the name off the beginning of the piece as it stands: blanks in
front of a bracket hide the name and not the kind. This is the classifier of specification §4.2.
-/

namespace MarkupLayout

/-- The kind of a token. -/
inductive Kind where
  /-- A comment, a declaration or anything else that begins with `<!`. -/
  | comment
  /-- A tag that ends an element. -/
  | closing
  /-- A tag that is an element of its own. -/
  | standalone
  /-- A tag that begins an element. -/
  | opening
  /-- Text between the tags. -/
  | text
  /-- A label that the layout does not know; such tokens are not shown. -/
  | other (label : Text)
  deriving DecidableEq, Repr

namespace Kind

/-- The word for a kind. -/
def label : Kind → Text
  | comment => "comment".toList
  | closing => "closing".toList
  | standalone => "standalone".toList
  | opening => "opening".toList
  | text => "text".toList
  | other label => label

/-- The kind with a given word. -/
def ofLabel (label : Text) : Kind :=
  ([comment, closing, standalone, opening, text].find? (·.label = label)).getD (other label)

/-- A kind read off its word has that word. -/
theorem label_ofLabel (label : Text) : (ofLabel label).label = label := by
  rw [ofLabel]
  cases h : [comment, closing, standalone, opening, text].find? (·.label = label) with
  | none => rfl
  | some kind => simpa using List.find?_some h

/-- The kind of a piece. Of two rules that apply, the first in this list decides. The `RULES` of
`classify`, specification §4.2. -/
def ofPiece (piece : Text) : Kind :=
  let shown := piece.trim
  if ['<', '!'].isPrefixOf shown then comment
  else if ['<', '/'].isPrefixOf shown then closing
  else if ['/', '>'].isSuffixOf shown then standalone
  else if ['<'].isPrefixOf shown then opening
  else text

end Kind

/-- The longest run of word characters in front, if a space or a closing bracket ends it: the group
of `TAG_NAME_PATTERN`. -/
def leadingName (t : Text) : Text :=
  match t.dropWhile Text.isWord with
  | ' ' :: _ => t.takeWhile Text.isWord
  | '>' :: _ => t.takeWhile Text.isWord
  | _ => []

/-- The name of a tag, or nothing if no name stands right after the opening bracket and the slash
that may follow it. A slash after the name hides it. `extract_tag_name`, specification §4.2. -/
def tagName : Text → Text
  | '<' :: '/' :: rest => leadingName rest
  | '<' :: rest => leadingName rest
  | _ => []

/-- A piece of a document, its kind and the name of its tag (`Token`, specification §3). -/
structure Token where
  content : Text
  kind : Kind
  name : Text
  deriving DecidableEq, Repr

namespace Token

/-- The token for a piece, as `classify` tells its kind and its name. -/
def ofPiece (piece : Text) : Token := ⟨piece, .ofPiece piece, tagName piece⟩

/-- Whether the token is text of blanks only: `is_blank`, specification §10.6. -/
def isBlank (token : Token) : Bool := token.kind = .text && token.content.trim.isEmpty

/-- One line that shows the three parts of a token. -/
def describe (token : Token) : Text :=
  "Token(".toList ++ token.kind.label ++ ", ".toList ++ token.name.quote ++ ", ".toList ++
    token.content.quote ++ ")".toList

end Token

/-- The tokens of a document: `parse_dom` after `tokenize`, specification §2. -/
def tokens (document : Text) : List Token := (Markup.pieces document).map .ofPiece

end MarkupLayout
