import MarkupLayout.Layout.Cursor
import MarkupLayout.Text.Numeral

/-!
# The journal of a layout

Laying out can be followed in a journal of events. Events are data; `Event.message` words them.
Only a trace reports each token, but the first closing tag without an opening tag is always told
(specification §10.4).
-/

namespace MarkupLayout

/-- How much an event matters. -/
inductive Level where
  | debug
  | info
  deriving DecidableEq, Repr

/-- What a journal tells. -/
inductive Event where
  /-- A document is about to be laid out. -/
  | begun (content : Text)
  /-- A token that is not blank is reached at a depth. -/
  | reached (position : Nat) (token : Token) (depth : Int)
  /-- A closing tag takes the depth below zero. -/
  | unbalanced (position : Nat) (token : Token)
  /-- A document is laid out: its tokens, its length and the length of the result. -/
  | done (tokens before after : Nat)
  deriving DecidableEq, Repr

namespace Event

/-- What a trace adds is information, all else is for debugging. -/
def level : Event → Level
  | begun _ => .info
  | reached .. => .info
  | unbalanced .. => .debug
  | done .. => .debug

/-- The wording of an event. -/
def message : Event → Text
  | begun content => "format ===>\n".toList ++ content ++ "<===\n".toList
  | reached position token depth =>
    "  ".toList ++ .ofNat position ++ ": ".toList ++ token.kind.label ++ " ".toList ++
      token.name.quote ++ " depth=".toList ++ .ofInt depth
  | unbalanced position token =>
    "unbalanced closing tag ".toList ++ token.content.trim ++ " at token ".toList ++
      .ofNat position
  | done tokens before after =>
    "formatted ".toList ++ .ofNat tokens ++ " tokens, ".toList ++ .ofNat before ++
      " -> ".toList ++ .ofNat after ++ " chars".toList

/-- The line of an event: how much it matters, and its wording. -/
def line (event : Event) : Level × Text := (event.level, event.message)

end Event

namespace Cursor

/-- Whether the token takes the depth below zero. -/
def unbalances (cursor : Cursor) (token : Token) : Bool :=
  token.kind = .closing && cursor.depth ≤ 0

/-- The events of the remaining tokens, of which the first has the given position. Once `told`,
closing tags without an opening tag are not reported any more. -/
def events (style : Style) (trace : Bool) :
    (told : Bool) → (position : Nat) → Cursor → List Token → List Event
  | _, _, _, [] => []
  | told, position, cursor, token :: rest =>
    let unbalanced := cursor.unbalances token
    (if trace && !token.isBlank then [.reached position token cursor.depth] else []) ++
    (if unbalanced && !told then [.unbalanced position token] else []) ++
    events style trace (told || unbalanced) (position + 1) (cursor.advance style token) rest

end Cursor

/-- The journal of laying out a list of tokens: what `reindent` logs, in order. -/
def journal (style : Style) (trace : Bool) (tokens : List Token) : List Event :=
  Cursor.events style trace false 0 {} tokens

end MarkupLayout
