import Mathlib.Data.List.Forall2
import MarkupLayout.Proofs.Layout.Lines

/-!
# Layouts in two styles

What a set of tags decides shows when the same tokens are laid out in two styles, side by side. More
flush tags leave the lines and their bodies as they are, and no line gets deeper. More inline tags
may join a token to the line before it, but never part one from that line, and the lines that are
still begun have the same depths. Both rest on what relates the two cursors: a token keeps it, and
so do all tokens.
-/

namespace MarkupLayout

open Text Markup Cursor

variable {style : Style} {cursor cursor' : Cursor} {token : Token} {tags : TagSet}

/-! ### More flush tags -/

/-- Two fragments that differ in their depths at most: the second is no deeper. -/
inductive Fragment.Shallower : Fragment → Fragment → Prop
  | absent : Shallower absent absent
  | joined (body : Text) : Shallower (joined body) (joined body)
  | line {depth depth' : Int} (hdepth : depth' ≤ depth) (body : Text) :
      Shallower (line depth body) (line depth' body)

/-- Two lines that differ in their depths at most: the second is no deeper. -/
structure Line.Shallower (line line' : Line) : Prop where
  body : line'.body = line.body
  depth : line'.depth ≤ line.depth

/-- Two cursors that differ in their depths at most: the second is no deeper. -/
structure Cursor.Shallower (cursor cursor' : Cursor) : Prop where
  depth : cursor'.depth ≤ cursor.depth
  hosting : cursor'.hosting = cursor.hosting
  afterOpening : cursor'.afterOpening = cursor.afterOpening

namespace Cursor.Shallower

private theorem place (h : Shallower cursor cursor') (token : Token) (next? : Option Token) :
    Fragment.Shallower (cursor.place style token next?)
      (cursor'.place { style with flushTags := tags } token next?) := by
  -- flush tags matter to the tokens that follow only
  change Fragment.Shallower _ (cursor'.place style token next?)
  unfold Cursor.place
  rw [h.hosting, h.afterOpening]
  split
  · exact .absent
  · cases token.kind with
    | closing =>
      dsimp only
      split
      · exact .joined _
      · exact .line (Int.sub_le_sub_right h.depth 1) _
    | text =>
      dsimp only
      split
      · exact .joined _
      · exact .line h.depth _
    | other label => exact .absent
    | _ => exact .line h.depth _

private theorem advance (h : Shallower cursor cursor')
    (hsub : ∀ name ∈ style.flushTags, name ∈ tags) (token : Token) :
    Shallower (cursor.advance style token)
      (cursor'.advance { style with flushTags := tags } token) := by
  have hdepth := h.depth
  unfold Cursor.advance
  split
  · exact h
  · cases token.kind with
    | opening =>
      refine ⟨?_, rfl, rfl⟩
      by_cases hflush : token.name ∈ style.flushTags
      · simpa [hflush, hsub _ hflush] using hdepth
      · simp only [hflush, if_false]
        split <;> omega
    | closing => exact ⟨Int.sub_le_sub_right hdepth 1, h.hosting, rfl⟩
    | text => exact ⟨hdepth, rfl, rfl⟩
    | _ => exact ⟨hdepth, h.hosting, rfl⟩

/-- With more flush tags, tokens are placed no deeper. -/
theorem fragments (h : Shallower cursor cursor') (hsub : ∀ name ∈ style.flushTags, name ∈ tags)
    (tokens : List Token) :
    List.Forall₂ Fragment.Shallower (fragments style cursor tokens)
      (fragments { style with flushTags := tags } cursor' tokens) := by
  induction tokens generalizing cursor cursor' with
  | nil => exact .nil
  | cons token rest ih => exact .cons (h.place token rest.head?) (ih (h.advance hsub token))

end Cursor.Shallower

namespace Fragment

variable {fragments fragments' : List Fragment}

private theorem lead_eq_of_shallower (h : List.Forall₂ Shallower fragments fragments') :
    lead fragments' = lead fragments := by
  induction h with
  | nil => rfl
  | cons hfirst _ ih =>
    cases hfirst with
    | absent => exact ih
    | joined body => exact congrArg (body ++ ·) ih
    | line => rfl

private theorem lines_shallower (h : List.Forall₂ Shallower fragments fragments') :
    List.Forall₂ Line.Shallower (lines fragments) (lines fragments') := by
  induction h with
  | nil => exact .nil
  | cons hfirst hrest ih =>
    cases hfirst with
    | absent => exact ih
    | joined body => exact ih
    | line hdepth body =>
      exact .cons ⟨congrArg (body ++ ·) (lead_eq_of_shallower hrest),
        Int.toNat_le_toNat hdepth⟩ ih

private theorem allLines_shallower (h : List.Forall₂ Shallower fragments fragments') :
    List.Forall₂ Line.Shallower (allLines fragments) (allLines fragments') := by
  unfold allLines
  rw [lead_eq_of_shallower h]
  split
  · exact lines_shallower h
  · exact .cons ⟨rfl, Nat.le_refl 0⟩ (lines_shallower h)

end Fragment

/-- Whatever the unit, more flush tags leave a document its lines, and none gets deeper. -/
theorem exists_lines_flushTags {flush flush' : TagSet} (hsub : ∀ name ∈ flush, name ∈ flush')
    (inline : TagSet) (source : Source) :
    ∃ lines lines' : List Line, List.Forall₂ Line.Shallower lines lines' ∧
      (∀ line ∈ lines, line.WellFormed) ∧
      ∀ (unit : Text) (trace : Bool),
        Formatter.format ⟨⟨unit, flush, inline⟩, trace⟩ source =
          ['\n'].intercalate (lines.map (·.render unit)) ∧
        Formatter.format ⟨⟨unit, flush', inline⟩, trace⟩ source =
          ['\n'].intercalate (lines'.map (·.render unit)) := by
  let style : Style := ⟨[], flush, inline⟩
  have hstart : Shallower {} {} := ⟨Int.le_refl 0, rfl, rfl⟩
  have hfragments : List.Forall₂ Fragment.Shallower (fragments style {} (tokens source.content))
      (fragments { style with flushTags := flush' } {} (tokens source.content)) :=
    hstart.fragments hsub _
  refine ⟨layoutLines style (tokens source.content),
    layoutLines { style with flushTags := flush' } (tokens source.content),
    Fragment.allLines_shallower hfragments,
    wellFormed_layoutLines fun _ => oneLine_of_mem_pieces, fun unit trace => ⟨?_, ?_⟩⟩
  · exact format_eq_intercalate flush inline source unit trace
  · exact format_eq_intercalate flush' inline source unit trace

/-- A division that gets flush: its content moves up by one level, and its closing tag cannot. -/
theorem exists_lines_flushTags_division :
    (∀ name ∈ ({} : Style).flushTags, name ∈ ({} : Style).flushTags.insert "div".toList) ∧
      ∃ lines lines' : List Line, List.Forall₂ Line.Shallower lines lines' ∧
        "<div>\n-<p>\n--a\n-</p>\n</div>".toList =
          ['\n'].intercalate (lines.map (·.render ['-'])) ∧
        "<div>\n<p>\n-a\n</p>\n</div>".toList =
          ['\n'].intercalate (lines'.map (·.render ['-'])) := by
  have hsub : ∀ name ∈ ({} : Style).flushTags,
      name ∈ ({} : Style).flushTags.insert "div".toList :=
    fun _ hname => Std.ExtTreeSet.mem_insert.mpr (.inr hname)
  obtain ⟨lines, lines', hlines, -, hformat⟩ := exists_lines_flushTags hsub ({} : Style).inlineTags
    (.text "<div><p>a</p></div>".toList)
  obtain ⟨hlong, hshort⟩ := hformat ['-'] false
  exact ⟨hsub, lines, lines', hlines, .trans (by decide) hlong, .trans (by decide) hshort⟩

/-! ### More inline tags -/

/-- Two fragments of which the second may be joined where the first begins a line. If they differ,
their bodies differ in blanks at the ends at most. -/
inductive Fragment.Tighter : Fragment → Fragment → Prop
  | absent : Tighter absent absent
  | line (depth : Int) (body : Text) : Tighter (line depth body) (line depth body)
  | joined {body body' : Text} (htrim : body'.trim = body.trim) :
      Tighter (joined body) (joined body')
  | moved (depth : Int) {body body' : Text} (htrim : body'.trim = body.trim) :
      Tighter (line depth body) (joined body')

/-- Two cursors of which the second may join a text to its line where the first does not. -/
structure Cursor.Tighter (cursor cursor' : Cursor) : Prop where
  depth : cursor'.depth = cursor.depth
  hosting : cursor.hosting = true → cursor'.hosting = true
  afterOpening : cursor'.afterOpening = cursor.afterOpening

private theorem Style.closesInline_of_subset (hsub : ∀ name ∈ style.inlineTags, name ∈ tags)
    (h : style.closesInline token = true) :
    Style.closesInline { style with inlineTags := tags } token = true := by
  rw [closesInline, Bool.and_eq_true, decide_eq_true_eq, decide_eq_true_eq] at h ⊢
  exact ⟨h.1, hsub _ h.2⟩

namespace Cursor.Tighter

-- With more inline tags, a token that stays on the line still does. Whether the token behind it
-- closes inline decides about a blank at its end only.
private theorem place (h : Tighter cursor cursor') (hsub : ∀ name ∈ style.inlineTags, name ∈ tags)
    (token : Token) (next? : Option Token) :
    Fragment.Tighter (cursor.place style token next?)
      (cursor'.place { style with inlineTags := tags } token next?) := by
  unfold Cursor.place
  rw [h.depth, h.afterOpening]
  split
  · exact .absent
  · cases token.kind with
    | closing =>
      dsimp only
      by_cases hjoined : (style.closesInline token || cursor.afterOpening) = true
      · have hjoined' : (Style.closesInline { style with inlineTags := tags } token ||
            cursor.afterOpening) = true := by
          rw [Bool.or_eq_true] at hjoined ⊢
          exact hjoined.imp_left (Style.closesInline_of_subset hsub)
        rw [if_pos hjoined, if_pos hjoined']
        exact .joined rfl
      · rw [if_neg hjoined]
        split
        · exact .moved _ rfl
        · exact .line _ _
    | text =>
      dsimp only
      by_cases hhosting : cursor.hosting = true
      · rw [if_pos hhosting, if_pos (h.hosting hhosting)]
        refine .joined ?_
        split <;> split <;> simp
      · rw [if_neg hhosting]
        split
        · refine .moved _ ?_
          split <;> simp
        · exact .line _ _
    | other label => exact .absent
    | _ => exact .line _ _

private theorem advance (h : Tighter cursor cursor') (hsub : ∀ name ∈ style.inlineTags, name ∈ tags)
    (token : Token) :
    Tighter (cursor.advance style token)
      (cursor'.advance { style with inlineTags := tags } token) := by
  unfold Cursor.advance
  rw [h.depth]
  split
  · exact h
  · cases token.kind with
    | opening =>
      exact ⟨rfl, fun hinline => decide_eq_true (hsub _ (of_decide_eq_true hinline)), rfl⟩
    | closing => exact ⟨rfl, h.hosting, rfl⟩
    | text => exact ⟨rfl, id, rfl⟩
    | _ => exact ⟨rfl, h.hosting, rfl⟩

/-- With more inline tags, a cursor that joins a text to its line still does behind some tokens. -/
theorem after (h : Tighter cursor cursor') (hsub : ∀ name ∈ style.inlineTags, name ∈ tags)
    (tokens : List Token) :
    Tighter (cursor.after style tokens)
      (cursor'.after { style with inlineTags := tags } tokens) := by
  induction tokens generalizing cursor cursor' with
  | nil => exact h
  | cons token rest ih => exact ih (h.advance hsub token)

end Cursor.Tighter

namespace Fragment.Tighter

variable {fragment fragment' : Fragment}

private theorem margin (h : Tighter fragment fragment') (style : Style) :
    fragment'.margin style = fragment.margin style ∨ fragment'.margin style = [] := by
  cases h with
  | absent => exact .inl rfl
  | line => exact .inl rfl
  | joined => exact .inl rfl
  | moved => exact .inr rfl

private theorem trim_body (h : Tighter fragment fragment') :
    fragment'.body.trim = fragment.body.trim := by
  cases h with
  | absent => rfl
  | line => rfl
  | joined htrim => exact htrim
  | moved _ htrim => exact htrim

end Fragment.Tighter

/-- More inline tags only take line feeds and indentations away. Of the tokens that are written at
all, those that stay on the line still do, those that begin a line both times begin it with the
same indentation, and none has another body but for blanks at its ends. -/
theorem exists_fragments_inlineTags (style : Style) {inline : TagSet}
    (hsub : ∀ name ∈ style.inlineTags, name ∈ inline) {tokens : List Token} {i : Nat}
    {token : Token} (htoken : tokens[i]? = some token) (hblank : token.isBlank = false)
    (hkind : ∀ label, token.kind ≠ .other label) :
    let style' := { style with inlineTags := inline }
    ∃ fragment fragment', (fragments style {} tokens)[i]? = some fragment ∧
      (fragments style' {} tokens)[i]? = some fragment' ∧
      fragment ≠ .absent ∧ fragment' ≠ .absent ∧
      (fragment.margin style = [] → fragment'.margin style' = []) ∧
      (fragment.margin style ≠ [] → fragment'.margin style' ≠ [] →
        fragment'.margin style' = fragment.margin style) ∧
      fragment'.body.trim = fragment.body.trim := by
  intro style'
  have hplace := getElem?_fragments style {} tokens i
  have hplace' := getElem?_fragments style' {} tokens i
  rw [htoken, Option.map_some] at hplace hplace'
  have hstart : Tighter {} {} := ⟨rfl, id, rfl⟩
  have htighter := (hstart.after hsub (tokens.take i)).place hsub token tokens[i + 1]?
  refine ⟨_, _, hplace, hplace', place_ne_absent hblank hkind, place_ne_absent hblank hkind,
    fun hnone => ?_, fun _ hsome' => ?_, htighter.trim_body⟩
  · obtain hsame | hnone' := htighter.margin style
    · exact hsame.trans hnone
    · exact hnone'
  · exact (htighter.margin style).resolve_right hsome'

/-- In a paragraph that gets inline, its first text is joined to the line, and the text of a tag in
it stays where it is. -/
theorem exists_fragments_inlineTags_paragraph :
    let style' : Style := { inlineTags := ({} : Style).inlineTags.insert "p".toList }
    let tokens := tokens "<p>x<b> y </b>z</p>".toList
    (∀ name ∈ ({} : Style).inlineTags, name ∈ style'.inlineTags) ∧
      tokens[3]? = some (.ofPiece " y ".toList) ∧
      (fragments {} {} tokens)[1]? = some (.line 1 "x".toList) ∧
      (fragments style' {} tokens)[1]? = some (.joined "x".toList) ∧
      (fragments {} {} tokens)[3]? = some (.joined " y ".toList) ∧
      ∃ fragment', (fragments style' {} tokens)[3]? = some fragment' ∧ fragment' ≠ .absent ∧
        fragment'.margin style' = [] := by
  intro style' tokens
  have hsub : ∀ name ∈ ({} : Style).inlineTags, name ∈ style'.inlineTags :=
    fun _ hname => Std.ExtTreeSet.mem_insert.mpr (.inr hname)
  have htoken : tokens[3]? = some (.ofPiece " y ".toList) := by decide
  have hjoined : (fragments {} {} tokens)[3]? = some (.joined " y ".toList) := by decide
  obtain ⟨fragment, fragment', hfragment, hfragment', -, hwritten, hmargin, -⟩ :=
    exists_fragments_inlineTags {} hsub htoken (by decide)
      (Kind.ofPiece_ne_other " y ".toList)
  obtain rfl := Option.some.inj (hjoined.symm.trans hfragment)
  exact ⟨hsub, htoken, by decide, by decide, hjoined, fragment', hfragment', hwritten, hmargin rfl⟩

end MarkupLayout
