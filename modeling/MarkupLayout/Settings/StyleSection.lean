import MarkupLayout.Settings.Document
import MarkupLayout.Settings.Template
import MarkupLayout.Style

/-!
# The section with the style

The section `FORMAT` of a settings document describes a style in three options. What they leave
open is as in the standard style, and without the section all of it is (specification §10.3).
-/

namespace MarkupLayout
namespace Settings

/-- The header of the section with the style. -/
def styleHeader : Text := "FORMAT".toList

/-- Replaces each backslash before a `t`, together with it, by a tab. -/
def unescapeTabs : Text → Text
  | '\\' :: 't' :: rest => '\t' :: unescapeTabs rest
  | c :: rest => c :: unescapeTabs rest
  | [] => []

/-- The text between two quotation marks that are alike, or else the text itself. -/
def unquote (t : Text) : Text :=
  match t with
  | mark :: rest =>
    if (mark = '\x22' || mark = '\x27') && rest.getLast? = some mark then rest.dropLast else t
  | [] => []

/-- The unit of a style as an option gives it: `unquote_value`, specification §10.3. Values are
trimmed, so a unit of spaces stands between quotation marks; a tab can be written as a backslash
and a `t`. -/
def unitOfValue (value : Text) : Text := unescapeTabs (unquote value)

/-- An option of the style that cannot be filled in, with its value as it was read. -/
structure OptionFault where
  name : Text
  raw : Text
  fault : Template.Fault
  deriving DecidableEq, Repr

/-- The wording of the fault. -/
def OptionFault.message (f : OptionFault) : Text := f.fault.message styleHeader f.name f.raw

namespace Document

/-- The value of an option of the style, filled in. -/
def styleOption? (document : Document) (name : Text) : Except OptionFault (Option Text) :=
  let lookup? := document.lookup? styleHeader
  match lookup? name with
  | none => .ok none
  | some raw =>
    match Template.fill lookup? Template.stepLimit raw with
    | .ok value => .ok (some value)
    | .error fault => .error ⟨name, raw, fault⟩

/-- The style that a document describes: `from_config`, specification §10.3. -/
def style (document : Document) : Except OptionFault Style :=
  if document.hasSection styleHeader then do
    let unit? ← document.styleOption? "indent_with".toList
    let flush? ← document.styleOption? "tags_without_indentation".toList
    let inline? ← document.styleOption? "tags_without_newline".toList
    let standard : Style := {}
    return {
      unit := (unit?.map unitOfValue).getD standard.unit
      flushTags := (flush?.map .ofCommaList).getD standard.flushTags
      inlineTags := (inline?.map .ofCommaList).getD standard.inlineTags }
  else return {}

end Document
end Settings
end MarkupLayout
