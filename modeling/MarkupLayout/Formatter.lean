import MarkupLayout.Layout.Event
import MarkupLayout.Text.Utf8

/-!
# Formatting documents

A formatter has a style and may trace its work. It takes text or bytes and never fails: malformed
markup gets a less useful layout, and ill-formed bytes get the replacement character (specification
§7, §10.2).
-/

namespace MarkupLayout

/-- A document as it is handed in. -/
inductive Source where
  /-- No document, which formats like an empty one. -/
  | absent
  /-- A document in characters. -/
  | text (content : Text)
  /-- A document in UTF-8. -/
  | bytes (content : List UInt8)
  deriving DecidableEq, Repr

/-- The text of a document. -/
def Source.content : Source → Text
  | absent => []
  | text content => content
  | bytes content => Utf8.decodeLossy content

/-- A style, and whether each token is reported: `HtmlFormatter`, specification §10.2. -/
structure Formatter where
  style : Style := {}
  trace : Bool := false
  deriving DecidableEq

namespace Formatter

/-- Lays out a document: `format`, specification §6. -/
def format (formatter : Formatter) (source : Source) : Text :=
  layout formatter.style (tokens source.content)

/-- The journal of laying out a document: what `format` logs, in order. An empty document leaves
none. -/
def journal (formatter : Formatter) (source : Source) : List Event :=
  let content := source.content
  if content.isEmpty then []
  else
    let tokens := tokens content
    (if formatter.trace then [.begun content] else []) ++
    MarkupLayout.journal formatter.style formatter.trace tokens ++
    [.done tokens.length content.length (formatter.format source).length]

end Formatter
end MarkupLayout
