import MarkupLayout.Proofs.Layout.Position

/-!
# The levels of nested tags

The depth rises behind an opening tag that indents and sinks behind every closing tag. Where tags
nest, the two balance for all elements but the flush ones: an element that is flush leaves the
depth one lower than it finds it. So a child stands one level below the opening tag of its element,
and the closing tag on the level of the opening tag, exactly if no flush element ends in between.
Specification §8 promises both of every balanced document, but by §4.3 each closing tag lowers the
depth and only the tags that indent raise it.
-/

namespace MarkupLayout

open Cursor

/-- How many units indent the line that a fragment begins, if it begins one. -/
def Fragment.level? : Fragment → Option Nat
  | line depth _ => some depth.toNat
  | joined _ => none
  | absent => none

namespace Style

/-- How many units indent the line that the token at a position begins, if it begins one. -/
def level? (style : Style) (tokens : List Token) (i : Nat) : Option Nat :=
  (fragments style {} tokens)[i]?.bind Fragment.level?

/-- Lists of tokens in which tags nest: each closing tag ends the element of an opening tag of the
same name. An opening tag that is flush may stand without a closing tag. -/
inductive Nested (style : Style) : List Token → Prop
  | nil : Nested style []
  | single {token : Token} {rest : List Token} (hopening : token.kind ≠ .opening)
      (hclosing : token.kind ≠ .closing) (hrest : Nested style rest) :
      Nested style (token :: rest)
  | void {token : Token} {rest : List Token} (hopening : token.kind = .opening)
      (hflush : token.name ∈ style.flushTags) (hrest : Nested style rest) :
      Nested style (token :: rest)
  | element {opening closing : Token} {content rest : List Token}
      (hopening : opening.kind = .opening) (hclosing : closing.kind = .closing)
      (hname : closing.name = opening.name) (hcontent : Nested style content)
      (hrest : Nested style rest) : Nested style (opening :: (content ++ closing :: rest))

variable {style : Style} {before behind content rest tokens : List Token}
  {token opening closing : Token}

/-- The depth behind two lists is the sum of the depths behind each. -/
theorem depthBehind_append (style : Style) (before behind : List Token) :
    style.depthBehind (before ++ behind) =
      style.depthBehind before + style.depthBehind behind := by
  simp only [depthBehind, List.countP_append]
  omega

/-- Some tokens leave the cursor at the depth behind them. -/
theorem depth_after (style : Style) (before : List Token) :
    (after style {} before).depth = style.depthBehind before :=
  ((Cursor.Describes.initial style).after before).depth

end Style

/-- An element that is not flush in a list of tokens: its tags, the content between them and what
stands before and behind. -/
structure Element (style : Style) where
  before : List Token
  opening : Token
  content : List Token
  closing : Token
  behind : List Token
  opening_kind : opening.kind = .opening
  not_flush : opening.name ∉ style.flushTags
  closing_kind : closing.kind = .closing
  closing_name : closing.name = opening.name
  nested : style.Nested content

/-- A child of an element: a token of the content that ends no element and has nested tags before
it. -/
structure Element.Child {style : Style} (element : Element style) where
  before : List Token
  token : Token
  behind : List Token
  content_eq : element.content = before ++ token :: behind
  kind_ne : token.kind ≠ .closing
  nested : style.Nested before

namespace Element

variable {style : Style} (element : Element style)

/-- The tokens that the element stands in. -/
def tokens : List Token :=
  element.before ++ element.opening :: (element.content ++ element.closing :: element.behind)

/-- The depth before the element. -/
def depth : Int := style.depthBehind element.before

/-- The level of the line that a child begins, if it begins one. -/
def Child.level? {element : Element style} (child : element.Child) : Option Nat :=
  style.level? element.tokens (element.before ++ element.opening :: child.before).length

end Element

namespace Style

variable {style : Style} {before behind tokens : List Token} {opening : Token}

private theorem Nested.cons_cons {opening closing : Token} (hopening : opening.kind = .opening)
    (hclosing : closing.kind = .closing) (hname : closing.name = opening.name)
    (h : style.Nested tokens) : style.Nested (opening :: closing :: tokens) :=
  .element hopening hclosing hname .nil h

end Style

end MarkupLayout
