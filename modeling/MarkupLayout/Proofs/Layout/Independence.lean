import Mathlib.Data.List.Forall2
import MarkupLayout.Session

/-!
# What a layout asks of a style

Besides the unit, a layout asks two things of a style: whether an opening tag is flush, and whether
an opening or a closing tag is inline. It asks about no other name: neither the token that a cursor
remembers nor the one that it looks ahead at is asked about unless it is such a tag. So names in the
sets that no tag has do not matter, and neither do the names of the other tokens.
-/

namespace MarkupLayout

open Cursor

variable {style style' : Style} {cursor : Cursor} {token token' : Token}
  {tokens tokens' : List Token}

namespace Token

/-- Whether a token begins or ends an element. -/
def Delimits (token : Token) : Prop := token.kind = .opening ∨ token.kind = .closing

/-- Decided by the kind. -/
instance (token : Token) : Decidable token.Delimits := inferInstanceAs (Decidable (_ ∨ _))

/-- Two tokens that differ at most in a name that belongs to neither an opening nor a closing
tag. -/
structure SameTag (token token' : Token) : Prop where
  content : token'.content = token.content
  kind : token'.kind = token.kind
  name : token.Delimits → token'.name = token.name

/-- Two tokens, each in a style of its own, about which a layout gets the same answers. -/
structure ReadsAs (style style' : Style) (token token' : Token) : Prop where
  content : token'.content = token.content
  kind : token'.kind = token.kind
  flush : token.kind = .opening →
    (token'.name ∈ style'.flushTags ↔ token.name ∈ style.flushTags)
  inline : token.Delimits → (token'.name ∈ style'.inlineTags ↔ token.name ∈ style.inlineTags)

namespace ReadsAs

private theorem isBlank_eq (h : ReadsAs style style' token token') :
    token'.isBlank = token.isBlank := by
  rw [isBlank, h.content, h.kind, isBlank]

private theorem closesInline_eq (h : ReadsAs style style' token token') :
    style'.closesInline token' = style.closesInline token := by
  rw [Style.closesInline, h.kind, Style.closesInline]
  by_cases hk : token.kind = .closing
  · rw [decide_eq_decide.mpr (h.inline (.inr hk))]
  · rw [decide_eq_false hk, Bool.false_and, Bool.false_and]

private theorem advance_eq (h : ReadsAs style style' token token') (cursor : Cursor) :
    cursor.advance style' token' = cursor.advance style token := by
  unfold advance
  rw [h.isBlank_eq, h.kind]
  split
  · rfl
  · cases hk : token.kind with
    | opening => simp only [h.flush hk, h.inline (.inl hk)]
    | _ => rfl

private theorem place_eq (h : ReadsAs style style' token token') (cursor : Cursor)
    {next? next?' : Option Token}
    (hnext : next?'.any style'.closesInline = next?.any style.closesInline) :
    cursor.place style' token' next?' = cursor.place style token next? := by
  unfold place
  rw [h.isBlank_eq, h.kind, h.content, h.closesInline_eq, hnext]

private theorem fragments_eq (h : List.Forall₂ (ReadsAs style style') tokens tokens')
    (cursor : Cursor) :
    fragments style' cursor tokens' = fragments style cursor tokens := by
  induction h generalizing cursor with
  | nil => rfl
  | @cons token token' rest rest' htoken hrest ih =>
    -- of the token ahead, only whether it closes inline is asked
    have hnext : rest'.head?.any style'.closesInline = rest.head?.any style.closesInline := by
      cases hrest with
      | nil => rfl
      | cons hfirst _ => exact hfirst.closesInline_eq
    rw [fragments, fragments, htoken.place_eq cursor hnext, htoken.advance_eq, ih]

end ReadsAs
end Token

private theorem Fragment.render_eq_of_unit_eq (h : style'.unit = style.unit) (fragment : Fragment) :
    fragment.render style' = fragment.render style := by
  cases fragment with
  | line depth body => rw [render, render, Style.indent, Style.indent, h]
  | _ => rfl

/-- Tokens that read alike are laid out alike by styles with the same unit. -/
theorem layout_eq_of_readsAs (hunit : style'.unit = style.unit)
    (h : List.Forall₂ (Token.ReadsAs style style') tokens tokens') :
    layout style' tokens' = layout style tokens := by
  rw [layout, layout, Token.ReadsAs.fragments_eq h]
  simp only [Fragment.render_eq_of_unit_eq hunit]

namespace TagSet

variable {tags : TagSet} {name other : Text}

/-- Inserting a name does not matter to the others. -/
theorem mem_insert_of_ne (h : other ≠ name) : other ∈ tags.insert name ↔ other ∈ tags := by
  rw [Std.ExtTreeSet.mem_insert, or_iff_right]
  exact fun heq => h (Std.LawfulEqCmp.eq_of_compare heq).symm

/-- Erasing a name does not matter to the others. -/
theorem mem_erase_of_ne (h : other ≠ name) : other ∈ tags.erase name ↔ other ∈ tags := by
  rw [Std.ExtTreeSet.mem_erase, and_iff_right]
  exact fun heq => h (Std.LawfulEqCmp.eq_of_compare heq).symm

end TagSet

/-- Two styles that agree on the tags among some tokens lay them out alike if they indent alike. -/
theorem layout_eq_of_mem_iff (hunit : style'.unit = style.unit)
    (hflush : ∀ token ∈ tokens, token.kind = .opening →
      (token.name ∈ style'.flushTags ↔ token.name ∈ style.flushTags))
    (hinline : ∀ token ∈ tokens, token.Delimits →
      (token.name ∈ style'.inlineTags ↔ token.name ∈ style.inlineTags)) :
    layout style' tokens = layout style tokens := by
  apply layout_eq_of_readsAs hunit
  apply List.forall₂_same.mpr
  intro token htoken
  exact ⟨rfl, rfl, hflush token htoken, hinline token htoken⟩

/-- Changing a set of a style in a way that does not matter to the tags among some tokens does not
matter to their layout. -/
theorem layout_mapTags (style : Style) (role : TagRole) {f : TagSet → TagSet}
    (h : ∀ token ∈ tokens, token.Delimits → ∀ tags : TagSet, token.name ∈ f tags ↔
      token.name ∈ tags) :
    layout (style.mapTags role f) tokens = layout style tokens := by
  cases role with
  | flush =>
    exact layout_eq_of_mem_iff rfl
      (fun token htoken hk => h token htoken (.inl hk) style.flushTags) fun _ _ _ => Iff.rfl
  | inline =>
    exact layout_eq_of_mem_iff rfl (fun _ _ _ => Iff.rfl)
      fun token htoken hk => h token htoken hk style.inlineTags

/-- Styles with one unit that agree on which opening tags are flush, and on which opening and
closing tags are inline, lay out tokens alike. So nothing changes when a set gains or loses a name
that no opening or closing tag has, or when the other tokens get other names. -/
theorem layout_eq_of_agree (style : Style) (tokens : List Token) :
    (∀ style' : Style, style'.unit = style.unit →
      (∀ token ∈ tokens, token.kind = .opening →
        (token.name ∈ style'.flushTags ↔ token.name ∈ style.flushTags)) →
      (∀ token ∈ tokens, token.Delimits →
        (token.name ∈ style'.inlineTags ↔ token.name ∈ style.inlineTags)) →
      layout style' tokens = layout style tokens) ∧
    (∀ (role : TagRole) (name : Text),
      (∀ token ∈ tokens, token.Delimits → token.name ≠ name) →
      layout (style.mapTags role (·.insert name)) tokens = layout style tokens ∧
        layout (style.mapTags role (·.erase name)) tokens = layout style tokens) ∧
    ∀ tokens' : List Token, List.Forall₂ Token.SameTag tokens tokens' →
      layout style tokens' = layout style tokens := by
  refine ⟨fun style' hunit hflush hinline => layout_eq_of_mem_iff hunit hflush hinline,
    fun role name hname => ⟨?_, ?_⟩, fun tokens' hsame => ?_⟩
  · exact layout_mapTags style role fun token htoken hk tags =>
      TagSet.mem_insert_of_ne (hname token htoken hk)
  · exact layout_mapTags style role fun token htoken hk tags =>
      TagSet.mem_erase_of_ne (hname token htoken hk)
  · apply layout_eq_of_readsAs rfl
    apply hsame.imp
    intro token token' h
    refine ⟨h.content, h.kind, fun hk => ?_, fun hk => ?_⟩
    · rw [h.name (.inl hk)]
    · rw [h.name hk]

/-- The name of the text between these tags does not matter, whether a set has it or not. -/
theorem layout_eq_of_agree_bold :
    let tokens : List Token := [⟨"<b>".toList, .opening, "b".toList⟩,
      ⟨" x ".toList, .text, "p".toList⟩, ⟨"</b>".toList, .closing, "b".toList⟩]
    let tokens' : List Token := [⟨"<b>".toList, .opening, "b".toList⟩,
      ⟨" x ".toList, .text, "b".toList⟩, ⟨"</b>".toList, .closing, "b".toList⟩]
    let style' : Style :=
      { flushTags := .ofCommaList "p".toList, inlineTags := .ofCommaList "b,p".toList }
    (∀ token ∈ tokens, token.kind = .opening →
        (token.name ∈ style'.flushTags ↔ token.name ∈ ({} : Style).flushTags)) ∧
      (∀ token ∈ tokens, token.Delimits →
        (token.name ∈ style'.inlineTags ↔ token.name ∈ ({} : Style).inlineTags)) ∧
      (∀ token ∈ tokens, token.Delimits → token.name ≠ "p".toList) ∧
      List.Forall₂ Token.SameTag tokens tokens' ∧
      layout style' tokens = "<b> x </b>".toList ∧
      layout (({} : Style).mapTags .inline (·.insert "p".toList)) tokens = "<b> x </b>".toList ∧
      layout {} tokens' = "<b> x </b>".toList := by
  intro tokens tokens' style'
  have hflush : ∀ token ∈ tokens, token.kind = .opening →
      (token.name ∈ style'.flushTags ↔ token.name ∈ ({} : Style).flushTags) := by decide
  have hinline : ∀ token ∈ tokens, token.Delimits →
      (token.name ∈ style'.inlineTags ↔ token.name ∈ ({} : Style).inlineTags) := by decide
  have hname : ∀ token ∈ tokens, token.Delimits → token.name ≠ "p".toList := by decide
  have hsame : List.Forall₂ Token.SameTag tokens tokens' :=
    .cons ⟨rfl, rfl, fun _ => rfl⟩ (.cons ⟨rfl, rfl, by decide⟩
      (.cons ⟨rfl, rfl, fun _ => rfl⟩ .nil))
  have hlayout : layout {} tokens = "<b> x </b>".toList := by decide
  obtain ⟨hstyle, hrole, hnames⟩ := layout_eq_of_agree {} tokens
  exact ⟨hflush, hinline, hname, hsame, (hstyle style' rfl hflush hinline).trans hlayout,
    (hrole .inline _ hname).1.trans hlayout, (hnames tokens' hsame).trans hlayout⟩

end MarkupLayout
