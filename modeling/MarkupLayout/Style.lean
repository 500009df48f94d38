import MarkupLayout.Text.Blank
import MarkupLayout.Text.Quoted
import Std.Data.ExtTreeSet

/-!
# Styles of layout

A style has the text that indents by one level and two sets of tag names. The content of a flush
tag stays on the level of the tag; the text and the closing tag of an inline tag stay on its line.

Sets of names can be written as a list with commas. Blanks around the names do not count, and
neither do empty places, so no set that is read from a list holds the empty name (specification
§10.3).
-/

namespace MarkupLayout

/-- A set of tag names, listed in the order of their code points. -/
abbrev TagSet := Std.ExtTreeSet Text

namespace TagSet

/-- The names in a list with commas: `parse_tag_list`, specification §10.3. -/
def ofCommaList (t : Text) : TagSet :=
  Std.ExtTreeSet.ofList (((t.fields ',').map Text.trim).filter fun name => !name.isEmpty)

/-- The names of a list are its trimmed fields, the empty ones left out. -/
theorem mem_ofCommaList {t name : Text} :
    name ∈ ofCommaList t ↔ name ≠ [] ∧ ∃ field ∈ t.fields ',', field.trim = name := by
  simp only [ofCommaList, Std.ExtTreeSet.mem_ofList, List.contains_iff_mem, List.mem_filter,
    List.mem_map]
  constructor
  · rintro ⟨⟨field, hfield, rfl⟩, hname⟩
    exact ⟨by simpa using hname, field, hfield, rfl⟩
  · rintro ⟨hname, field, hfield, rfl⟩
    exact ⟨⟨field, hfield, rfl⟩, by simpa using hname⟩

/-- No list holds the empty name. -/
theorem nil_not_mem_ofCommaList (t : Text) : [] ∉ ofCommaList t :=
  fun h => (mem_ofCommaList.mp h).1 rfl

/-- The quoted names in brackets, in order. -/
def describe (tags : TagSet) : Text :=
  '[' :: ", ".toList.intercalate (tags.toList.map Text.quote) ++ [']']

end TagSet

/-- How documents are laid out: `FormatterConfig`, specification §3. -/
structure Style where
  /-- The text that indents by one level. -/
  unit : Text := "    ".toList
  /-- The tags whose content stays on their level. -/
  flushTags : TagSet := .ofCommaList "html,link,img,meta".toList
  /-- The tags whose text and closing tag stay on their line. -/
  inlineTags : TagSet := .ofCommaList "a,b,i,span,h1,h2,h3,title".toList
  deriving DecidableEq

namespace Style

/-- The style with two lists of names with commas: `from_strings`, specification §10.3. -/
def ofCommaLists (unit flush inline : Text) : Style where
  unit := unit
  flushTags := .ofCommaList flush
  inlineTags := .ofCommaList inline

/-- The indentation at a depth. Below the first level there is none, as specification §4.3 asks of
`indent`. -/
def indent (style : Style) (depth : Int) : Text :=
  (List.replicate depth.toNat style.unit).flatten

/-- No depth below the first level indents. -/
theorem indent_of_nonpos (style : Style) {depth : Int} (h : depth ≤ 0) :
    style.indent depth = [] := by
  simp [indent, Int.toNat_of_nonpos h]

/-- One line that shows the three parts of a style. -/
def describe (style : Style) : Text :=
  "FormatterConfig(indent_with=".toList ++ style.unit.quote ++
    ", no_indent_tags=".toList ++ style.flushTags.describe ++
    ", no_newline_tags=".toList ++ style.inlineTags.describe ++ ")".toList

end Style
end MarkupLayout
