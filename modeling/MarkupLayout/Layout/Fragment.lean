import MarkupLayout.Style

/-!
# Fragments of a layout

Each token contributes one fragment to the laid out document. Where a fragment begins a line its
depth is kept and not its indentation, so that fragments do not depend on the unit of a style.
-/

namespace MarkupLayout

/-- What one token contributes to the laid out document. -/
inductive Fragment where
  /-- Nothing. -/
  | absent
  /-- A text that stays on the line reached so far. -/
  | joined (body : Text)
  /-- A text that begins a line at a depth. -/
  | line (depth : Int) (body : Text)
  deriving DecidableEq, Repr

/-- The text of a fragment, with the line feed and the indentation of a line that it begins. -/
def Fragment.render (style : Style) : Fragment → Text
  | absent => []
  | joined body => body
  | line depth body => '\n' :: style.indent depth ++ body

end MarkupLayout
