import MarkupLayout.Layout.Fragment
import MarkupLayout.Markup.Token
import MarkupLayout.Text.Squeeze

/-!
# Placing tokens

Tokens are placed from first to last. Opening tags, tags of their own, comments and texts begin
a line, with these exceptions: a closing tag stays on the line if it is inline or follows an
opening tag, and a text stays on the line of the last opening tag if that is inline and no text
has come in between.

What has been placed matters to the tokens that follow by three things only, which `Cursor` holds.
The depth sinks below zero where closing tags outnumber opening tags. This is the single pass of
specification §4.3.
-/

namespace MarkupLayout

/-- What the tokens so far mean for the next one. `hosting` and `afterOpening` say what
`reindent` asks of `previous` and of the token that `_find_previous` finds. -/
structure Cursor where
  /-- The opening tags that indent, less the closing tags. -/
  depth : Int := 0
  /-- Whether the last opening tag is inline and no text that is not blank has followed it. -/
  hosting : Bool := false
  /-- Whether the last token that is not blank is an opening tag. -/
  afterOpening : Bool := false
  deriving DecidableEq, Repr

/-- Whether the token is a closing tag that stays on the line: `_is_inline_closing`. -/
def Style.closesInline (style : Style) (token : Token) : Bool :=
  token.kind = .closing && token.name ∈ style.inlineTags

namespace Cursor

/-- The cursor after a token: what a pass of the loop of `reindent` changes. -/
def advance (style : Style) (cursor : Cursor) (token : Token) : Cursor :=
  if token.isBlank then cursor
  else match token.kind with
    | .opening =>
      { depth := if token.name ∈ style.flushTags then cursor.depth else cursor.depth + 1
        hosting := token.name ∈ style.inlineTags
        afterOpening := true }
    | .closing => { cursor with depth := cursor.depth - 1, afterOpening := false }
    | .text => { cursor with hosting := false, afterOpening := false }
    | .comment | .standalone | .other _ => { cursor with afterOpening := false }

/-- The fragment of a token: what a pass of the loop of `reindent` puts out. A text on the line of
its tag keeps the blank at its end only in front of a closing tag that stays on the line, which has
to be the very next token (specification §10.6). -/
def place (style : Style) (cursor : Cursor) (token : Token) (next? : Option Token) : Fragment :=
  if token.isBlank then .absent
  else match token.kind with
    | .opening | .standalone | .comment => .line cursor.depth token.content.trim
    | .closing =>
      if style.closesInline token || cursor.afterOpening then .joined token.content.trim
      else .line (cursor.depth - 1) token.content.trim
    | .text =>
      let body := token.content.squeeze
      if cursor.hosting then
        .joined (if next?.any style.closesInline then body else body.trimRight)
      else .line cursor.depth body.trim
    | .other _ => .absent

/-- The fragments of the remaining tokens, one for each. -/
def fragments (style : Style) : Cursor → List Token → List Fragment
  | _, [] => []
  | cursor, token :: rest =>
    cursor.place style token rest.head? :: fragments style (cursor.advance style token) rest

/-- Each token has one fragment. -/
@[simp] theorem length_fragments (style : Style) (cursor : Cursor) (tokens : List Token) :
    (fragments style cursor tokens).length = tokens.length := by
  induction tokens generalizing cursor with
  | nil => rfl
  | cons token rest ih => simp [fragments, ih]

end Cursor

/-- Lays out a list of tokens: `reindent`, specification §4.3. -/
def layout (style : Style) (tokens : List Token) : Text :=
  Text.trim ((Cursor.fragments style {} tokens).flatMap (·.render style))

end MarkupLayout
