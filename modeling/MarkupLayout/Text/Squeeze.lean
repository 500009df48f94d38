import MarkupLayout.Text.Basic

/-!
# Squeezing runs of spaces

A space followed by further spaces and tabs becomes that one space. A run is entered by a space
only: tabs in front of the first space of a run stay as they are (specification §9).
-/

namespace MarkupLayout
namespace Text

/-- Squeezes the rest of a text; `inRun` tells whether a space has just been read. -/
def squeezeFrom (inRun : Bool) : Text → Text
  | [] => []
  | c :: rest =>
    if inRun && (c = ' ' || c = '\t') then squeezeFrom true rest
    else c :: squeezeFrom (c = ' ') rest

/-- Leaves of each space only itself and drops the spaces and tabs that follow it:
`collapse_whitespace`, the matches of `WHITESPACE_RUN` replaced. -/
def squeeze (t : Text) : Text := squeezeFrom false t

end Text
end MarkupLayout
