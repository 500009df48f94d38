import MarkupLayout.Formatter
import MarkupLayout.Proofs.Layout.Writing

/-!
# The lines of a layout

A layout is made of lines, each of which has a depth and a body. The lines do not depend on the
unit that indents, whatever that is: a body begins and ends with ink and has no line ends. This
rests on two facts about fragments. One that begins a line has ink in front, and one that keeps a
blank at its end is followed by a closing tag that is joined to it.
-/

namespace MarkupLayout

open Text Markup Cursor

/-- A line of a layout: how many units indent it and what follows them. -/
structure Line where
  depth : Nat
  body : Text
  deriving DecidableEq, Repr

namespace Line

/-- The text of a line. -/
def render (unit : Text) (line : Line) : Text :=
  (List.replicate line.depth unit).flatten ++ line.body

/-- What every line of a layout has. -/
structure WellFormed (line : Line) : Prop where
  ne_nil : line.body ≠ []
  head : ∀ c ∈ line.body.head?, isBlank c = false
  getLast : ∀ c ∈ line.body.getLast?, isBlank c = false
  oneLine : OneLine line.body

private theorem WellFormed.not_allBlank {line : Line} (h : line.WellFormed) :
    ¬ AllBlank line.body := by
  intro hb
  rw [← trimLeft_eq_nil_iff, trimLeft_eq_self_iff.mpr h.head] at hb
  exact h.ne_nil hb

end Line

namespace Fragment

/-- What the fragments in front join to the line before them. -/
def lead : List Fragment → Text
  | [] => []
  | absent :: rest => lead rest
  | joined body :: rest => body ++ lead rest
  | line _ _ :: _ => []

/-- The lines that fragments begin. -/
def lines : List Fragment → List Line
  | [] => []
  | absent :: rest => lines rest
  | joined _ :: rest => lines rest
  | line depth body :: rest => ⟨depth.toNat, body ++ lead rest⟩ :: lines rest

/-- All lines of fragments. What is joined to no line is a line that is not indented. -/
def allLines (fragments : List Fragment) : List Line :=
  if lead fragments = [] then lines fragments else ⟨0, lead fragments⟩ :: lines fragments

private theorem flatMap_render (style : Style) (fragments : List Fragment) :
    fragments.flatMap (·.render style) =
      lead fragments ++ (lines fragments).flatMap fun line => '\n' :: line.render style.unit := by
  induction fragments with
  | nil => rfl
  | cons fragment rest ih =>
    rw [List.flatMap_cons, ih]
    cases fragment with
    | absent => rfl
    | joined body => simp [Fragment.render, lead, lines]
    | line depth body => simp [Fragment.render, lead, lines, Line.render, Style.indent]

/-- Fragments that make well-formed lines. Where a fragment ends in a blank, the next ones join
ink to it. -/
inductive Neat : List Fragment → Prop
  | nil : Neat []
  | absent {rest : List Fragment} (hrest : Neat rest) : Neat (absent :: rest)
  | joined {body : Text} {rest : List Fragment} (hline : OneLine body)
      (hend : trimRight body = body ∨ ¬ AllBlank (lead rest)) (hrest : Neat rest) :
      Neat (joined body :: rest)
  | line {depth : Int} {body : Text} {rest : List Fragment} (hline : OneLine body)
      (htrim : trim body = body) (hink : ¬ AllBlank body) (hrest : Neat rest) :
      Neat (line depth body :: rest)

variable {body lead' : Text} {fragments : List Fragment}

private theorem trimRight_append (hlead : trimRight lead' = lead')
    (h : trimRight body = body ∨ ¬ AllBlank lead') :
    trimRight (body ++ lead') = body ++ lead' := by
  by_cases hb : AllBlank lead'
  · have hnil : lead' = [] := by rw [← hlead, trimRight_eq_nil_iff.mpr hb]
    rw [hnil, List.append_nil, h.resolve_right (not_not_intro hb)]
  · rw [trimRight_append_of_not_allBlank hb, hlead]

-- What neat fragments join to the line before them ends in ink.
private theorem Neat.trimRight_lead (h : Neat fragments) :
    trimRight (lead fragments) = lead fragments := by
  induction h with
  | nil => rfl
  | absent _ ih => exact ih
  | joined _ hend _ ih => exact trimRight_append ih hend
  | line => rfl

private theorem Neat.oneLine_lead (h : Neat fragments) : OneLine (lead fragments) := by
  induction h with
  | nil => exact fun c hc => by cases hc
  | absent _ ih => exact ih
  | joined hline _ _ ih => exact List.forall_mem_append.mpr ⟨hline, ih⟩
  | line => exact fun c hc => by cases hc

private theorem Neat.wellFormed_lines (h : Neat fragments) :
    ∀ line ∈ lines fragments, line.WellFormed := by
  induction h with
  | nil => exact fun line hl => by cases hl
  | absent _ ih => exact ih
  | joined _ _ _ ih => exact ih
  | @line depth body rest hline htrim hink hrest ih =>
    have hfront : trimLeft (body ++ lead rest) = body ++ lead rest := by
      rw [trimLeft_append_of_not_allBlank hink, ← htrim, trimLeft_trim]
    have hend : trimRight (body ++ lead rest) = body ++ lead rest :=
      trimRight_append hrest.trimRight_lead (.inl (by rw [← htrim, trimRight_trim]))
    refine List.forall_mem_cons.mpr ⟨⟨?_, ?_, ?_, ?_⟩, ih⟩
    · rintro hnil
      obtain ⟨rfl, -⟩ := List.append_eq_nil_iff.mp hnil
      exact hink allBlank_nil
    · exact trimLeft_eq_self_iff.mp hfront
    · exact trimRight_eq_self_iff.mp hend
    · exact List.forall_mem_append.mpr ⟨hline, hrest.oneLine_lead⟩

end Fragment

namespace Cursor

open Fragment

variable {style : Style} {cursor : Cursor} {piece : Text} {pieces : List Text}

/-- The unit of a style does not matter to the fragments. -/
theorem fragments_unit (style : Style) (unit : Text) (cursor : Cursor) (tokens : List Token) :
    fragments { style with unit } cursor tokens = fragments style cursor tokens := by
  induction tokens generalizing cursor with
  | nil => rfl
  | cons token rest ih =>
    rw [fragments, fragments]
    exact congrArg₂ _ rfl (ih _)

private theorem not_allBlank_lead
    (h : (pieces.map Token.ofPiece).head?.any style.closesInline = true) :
    ¬ AllBlank (lead (fragments style cursor (pieces.map .ofPiece))) := by
  cases pieces with
  | nil => cases h
  | cons piece pieces =>
    have hclose : style.closesInline (.ofPiece piece) = true := h
    have hk : Kind.ofPiece piece = .closing :=
      of_decide_eq_true (Bool.and_eq_true_iff.mp hclose).1
    have hink : ¬ AllBlank piece := Token.not_allBlank_of_kind_ne_text (by rw [hk]; decide)
    rw [List.map_cons, fragments, place_of_closesInline hclose, lead, allBlank_append]
    exact fun hb => hink (allBlank_trim.mp hb.1)

/-- Pieces without line ends have neat fragments. -/
theorem neat_fragments (h : ∀ piece ∈ pieces, OneLine piece) (cursor : Cursor) :
    Neat (fragments style cursor (pieces.map .ofPiece)) := by
  induction pieces generalizing cursor with
  | nil => exact .nil
  | cons piece pieces ih =>
    obtain ⟨hpiece, hrest⟩ := List.forall_mem_cons.mp h
    have hneat := ih hrest (cursor.advance style (.ofPiece piece))
    rw [List.map_cons, fragments]
    by_cases hb : AllBlank piece
    · rw [place_of_allBlank hb]
      exact .absent hneat
    · set next? := (pieces.map Token.ofPiece).head?
      have hline : OneLine (cursor.place style (.ofPiece piece) next?).body :=
        hpiece.sublist body_place_sublist
      obtain ⟨depth, -, hplace, htrim⟩ | ⟨hplace, -⟩ := place_cases style cursor hb next?
      · rw [hplace]
        exact .line hline htrim (mt allBlank_body_place.mp hb) hneat
      · rw [hplace]
        refine .joined hline ?_ hneat
        cases hclose : next?.any style.closesInline with
        | true => exact .inr (not_allBlank_lead hclose)
        | false => exact .inl (trimRight_body_place hclose)

private theorem trimLeft_lead (hhosting : cursor.hosting = false) (pieces : List Text) :
    trimLeft (lead (fragments style cursor (pieces.map .ofPiece))) =
      lead (fragments style cursor (pieces.map .ofPiece)) := by
  induction pieces with
  | nil => rfl
  | cons piece pieces ih =>
    rw [List.map_cons, fragments]
    by_cases hb : AllBlank piece
    · rw [place_of_allBlank hb, advance_of_isBlank (Token.isBlank_ofPiece.mpr hb)]
      exact ih
    · obtain ⟨depth, -, hplace, -⟩ | ⟨hplace, htrim⟩ :=
        place_cases style cursor hb (pieces.map Token.ofPiece).head?
      · rw [hplace]
        rfl
      · rw [hplace, lead, trimLeft_append_of_not_allBlank (mt allBlank_body_place.mp hb),
          ← htrim hhosting, trimLeft_trim]

private theorem depth_head_lines (hdepth : cursor.depth ≤ 0) (pieces : List Text)
    (h : lead (fragments style cursor (pieces.map .ofPiece)) = []) :
    ∀ line ∈ (lines (fragments style cursor (pieces.map .ofPiece))).head?, line.depth = 0 := by
  induction pieces with
  | nil => exact fun line hl => by cases hl
  | cons piece pieces ih =>
    rw [List.map_cons, fragments] at h ⊢
    by_cases hb : AllBlank piece
    · rw [place_of_allBlank hb, advance_of_isBlank (Token.isBlank_ofPiece.mpr hb)] at h ⊢
      exact ih h
    · obtain ⟨depth, hle, hplace, -⟩ | ⟨hplace, -⟩ :=
        place_cases style cursor hb (pieces.map Token.ofPiece).head?
      · rw [hplace]
        intro line hl
        obtain rfl := Option.some.inj hl
        exact Int.toNat_of_nonpos (Int.le_trans hle hdepth)
      · rw [hplace] at h
        have hnil := (List.append_eq_nil_iff.mp h).1
        exact absurd (allBlank_body_place.mp (hnil ▸ allBlank_nil)) hb

end Cursor

open Fragment

variable {style : Style} {pieces : List Text}

/-- The lines of a layout. -/
def layoutLines (style : Style) (tokens : List Token) : List Line :=
  allLines (fragments style {} tokens)

/-- The unit of a style does not matter to the lines. -/
theorem layoutLines_unit (style : Style) (unit : Text) (tokens : List Token) :
    layoutLines { style with unit } tokens = layoutLines style tokens := by
  rw [layoutLines, fragments_unit, layoutLines]

private theorem intercalate_lineFeed (t : Text) (ts : List Text) :
    ['\n'].intercalate (t :: ts) = t ++ ts.flatMap ('\n' :: ·) := by
  induction ts generalizing t with
  | nil => simp
  | cons u ts ih => simp [List.intercalate_cons_cons, ih]

/-- A layout does not begin with a line feed. -/
theorem layout_ne_cons_lineFeed (style : Style) (tokens : List Token) (t : Text) :
    layout style tokens ≠ '\n' :: t := by
  intro h
  have hleft : trimLeft (layout style tokens) = layout style tokens := trimLeft_trim _
  rw [trimLeft_eq_self_iff, h] at hleft
  exact absurd (hleft '\n' rfl) (by decide)

/-- A layout is made of its lines. -/
theorem layout_eq_intercalate (style : Style) (h : ∀ piece ∈ pieces, OneLine piece) :
    layout style (pieces.map .ofPiece) = ['\n'].intercalate
      ((layoutLines style (pieces.map .ofPiece)).map (·.render style.unit)) := by
  have hwrite := write_eq_layout_or style pieces
  have hneat : Neat (fragments style {} (pieces.map .ofPiece)) := neat_fragments h {}
  rw [write, flatMap_render] at hwrite
  unfold layoutLines allLines
  set fragments := fragments style {} (pieces.map .ofPiece)
  by_cases hlead : lead fragments = []
  · rw [if_pos hlead]
    rw [hlead, List.nil_append] at hwrite
    cases hlines : lines fragments with
    | nil =>
      rw [hlines] at hwrite
      obtain hwrite | hwrite := hwrite
      · exact hwrite.symm
      · cases hwrite
    | cons line rest =>
      rw [hlines] at hwrite
      rw [List.map_cons, intercalate_lineFeed, List.flatMap_map]
      obtain hwrite | hwrite := hwrite
      · exact absurd hwrite.symm (layout_ne_cons_lineFeed _ _ _)
      · exact (List.cons.inj hwrite).2.symm
  · rw [if_neg hlead, List.map_cons, intercalate_lineFeed, List.flatMap_map]
    obtain hwrite | hwrite := hwrite
    · exact hwrite.symm
    · obtain ⟨c, t, hc⟩ := List.exists_cons_of_ne_nil hlead
      have hfeed : c ≠ '\n' := (hneat.oneLine_lead c (hc ▸ List.mem_cons_self)).1
      rw [hc] at hwrite
      exact absurd (List.cons.inj hwrite).1 hfeed

/-- For all units, a formatted document is made of the same lines. -/
theorem format_eq_intercalate (flush inline : TagSet) (source : Source) (unit : Text)
    (trace : Bool) :
    Formatter.format ⟨⟨unit, flush, inline⟩, trace⟩ source = ['\n'].intercalate
      ((layoutLines ⟨[], flush, inline⟩ (tokens source.content)).map (·.render unit)) := by
  have hline : ∀ piece ∈ Markup.pieces source.content, OneLine piece :=
    fun _ => oneLine_of_mem_pieces
  have h := layout_eq_intercalate ⟨unit, flush, inline⟩ hline
  rwa [layoutLines_unit ⟨[], flush, inline⟩ unit] at h

/-- All lines of a layout are well-formed. -/
theorem wellFormed_layoutLines (h : ∀ piece ∈ pieces, OneLine piece) :
    ∀ line ∈ layoutLines style (pieces.map .ofPiece), line.WellFormed := by
  have hneat : Neat (fragments style {} (pieces.map .ofPiece)) := neat_fragments h {}
  unfold layoutLines allLines
  split
  · exact hneat.wellFormed_lines
  · next hlead =>
    exact List.forall_mem_cons.mpr ⟨⟨hlead, trimLeft_eq_self_iff.mp (trimLeft_lead rfl pieces),
      trimRight_eq_self_iff.mp hneat.trimRight_lead, hneat.oneLine_lead⟩, hneat.wellFormed_lines⟩

/-- The first line of a layout is not indented. -/
theorem depth_head_layoutLines (style : Style) (pieces : List Text) :
    ∀ line ∈ (layoutLines style (pieces.map .ofPiece)).head?, line.depth = 0 := by
  unfold layoutLines allLines
  split
  · next hlead => exact depth_head_lines (Int.le_refl 0) pieces hlead
  · intro line hl
    obtain rfl := Option.some.inj hl
    rfl

/-- A layout has no lines if its pieces are all blank. -/
theorem layoutLines_eq_nil_iff :
    layoutLines style (pieces.map .ofPiece) = [] ↔ ∀ piece ∈ pieces, AllBlank piece := by
  have hwrite : write style {} (pieces.map .ofPiece) = [] ↔ ∀ piece ∈ pieces, AllBlank piece :=
    write_eq_nil_iff
  rw [← hwrite, write, flatMap_render, List.append_eq_nil_iff]
  unfold layoutLines allLines
  split
  · next hlead =>
    rw [and_iff_right hlead]
    cases lines (fragments style {} (pieces.map .ofPiece)) <;> simp
  · next hlead => exact iff_of_false (List.cons_ne_nil _ _) fun hn => hlead hn.1

namespace Line

variable {unit : Text} {line : Line} {lines : List Line}

private theorem WellFormed.lineFeed_not_mem (h : line.WellFormed) (hunit : '\n' ∉ unit) :
    '\n' ∉ line.render unit := by
  rw [render, List.mem_append]
  rintro (hm | hm)
  · obtain ⟨t, ht, hm⟩ := List.mem_flatten.mp hm
    rw [List.eq_of_mem_replicate ht] at hm
    exact hunit hm
  · exact (h.oneLine _ hm).1 rfl

/-- Lines without line feeds can be read off the text that they make. -/
theorem splitOn_intercalate (h : ∀ line ∈ lines, line.WellFormed) (hunit : '\n' ∉ unit)
    (hne : lines ≠ []) :
    (['\n'].intercalate (lines.map (·.render unit))).splitOn '\n' = lines.map (·.render unit) := by
  apply List.splitOn_intercalate '\n' _ (by simpa using hne)
  intro row hrow
  obtain ⟨line, hline, rfl⟩ := List.mem_map.mp hrow
  exact (h line hline).lineFeed_not_mem hunit

private theorem WellFormed.trimRight_render (h : line.WellFormed) (unit : Text) :
    ¬ AllBlank (line.render unit) ∧ trimRight (line.render unit) = line.render unit := by
  rw [render, trimRight_append_of_not_allBlank h.not_allBlank,
    trimRight_eq_self_iff.mpr h.getLast, allBlank_append]
  exact ⟨fun hb => h.not_allBlank hb.2, rfl⟩

end Line

/-- A document has one list of lines for all units: they make its layout, which is what its tokens
write up to a line feed in front. If the unit has no line feed, no line of the text is blank or
ends in a blank. -/
theorem exists_lines_format (flush inline : TagSet) (source : Source) :
    ∃ lines : List Line, (∀ line ∈ lines, line.WellFormed) ∧
      (∀ line ∈ lines.head?, line.depth = 0) ∧ (lines = [] ↔ AllBlank source.content) ∧
      ∀ (unit : Text) (trace : Bool),
        let formatter : Formatter := ⟨⟨unit, flush, inline⟩, trace⟩
        let result := formatter.format source
        let written := write formatter.style {} (tokens source.content)
        result = ['\n'].intercalate (lines.map (·.render unit)) ∧
        (written = result ∨ written = '\n' :: result) ∧
        ('\n' ∉ unit → result ≠ [] → ∀ row ∈ result.splitOn '\n',
          ¬ AllBlank row ∧ trimRight row = row) := by
  have hline : ∀ piece ∈ Markup.pieces source.content, OneLine piece :=
    fun _ => oneLine_of_mem_pieces
  let lines := layoutLines ⟨[], flush, inline⟩ (tokens source.content)
  have hwell : ∀ line ∈ lines, line.WellFormed := wellFormed_layoutLines hline
  refine ⟨lines, hwell, depth_head_layoutLines _ _,
    layoutLines_eq_nil_iff.trans forall_allBlank_pieces, fun unit trace => ?_⟩
  have hresult : Formatter.format ⟨⟨unit, flush, inline⟩, trace⟩ source =
      ['\n'].intercalate (lines.map (·.render unit)) :=
    format_eq_intercalate flush inline source unit trace
  refine ⟨hresult, write_eq_layout_or _ _, fun hunit hne row hrow => ?_⟩
  have hlines : lines ≠ [] := by
    intro hnil
    rw [hnil] at hresult
    exact hne hresult
  rw [hresult, Line.splitOn_intercalate hwell hunit hlines] at hrow
  obtain ⟨line, hm, rfl⟩ := List.mem_map.mp hrow
  exact (hwell line hm).trimRight_render unit

end MarkupLayout
