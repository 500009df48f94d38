import Mathlib.Data.List.Forall2
import MarkupLayout.Formatter
import MarkupLayout.Proofs.Layout.Writing

/-!
# Reading a layout again

Put on one line and cut, a layout has the tags of the document as they were. Each text between
them keeps its body and gets new blanks around it: those of its own margin in front and those of
the margin of the tag behind it at its end. A respaced piece shows what the piece shows and so has
its kind.
-/

namespace MarkupLayout

open Text Markup

variable {style : Style} {cursor : Cursor} {piece piece' gap tag tail : Text}
  {parts : List Text}

/-- The blanks of a margin that are left on one line. -/
def Fragment.space (style : Style) (fragment : Fragment) : Text :=
  (fragment.margin style).singleLine

/-- A unit of blanks leaves blanks between the bodies. -/
theorem Fragment.allBlank_space (hunit : AllBlank style.unit) (fragment : Fragment) :
    AllBlank (fragment.space style) :=
  allBlank_singleLine.mpr (fragment.allBlank_margin hunit)

/-! ### Respaced pieces -/

/-- What respacing keeps of a piece. -/
structure Markup.Respaced (piece piece' : Text) : Prop where
  shown : piece'.shown = piece.shown
  tag : IsTag piece → piece' = piece
  trim : Kind.ofPiece piece ≠ .text → piece'.trim = piece.trim

namespace Markup.Respaced

/-- Blanks around the body of a fragment respace the piece of the fragment. -/
theorem of_body_place {w w' : Text} (hw : AllBlank w) (hw' : AllBlank w') (h : ¬ IsTag piece)
    (style : Style) (cursor : Cursor) (next? : Option Token) :
    Respaced piece (w ++ ((cursor.place style (.ofPiece piece) next?).body ++ w')) where
  shown := by
    rw [shown_append_of_allBlank_left hw, shown_append_of_allBlank_right hw',
      Cursor.shown_body_place]
  tag ht := absurd ht h
  trim hk := by
    rw [trim_append_of_allBlank_left hw, trim_append_of_allBlank_right hw',
      Cursor.body_place_of_ne_text hk, trim_trim]

/-- A tag is left as it is. -/
theorem refl (piece : Text) : Respaced piece piece := ⟨rfl, fun _ => rfl, fun _ => rfl⟩

/-- A respaced piece has the kind of the piece. -/
theorem kind_eq (h : Respaced piece piece') : Kind.ofPiece piece' = Kind.ofPiece piece :=
  Kind.ofPiece_eq_of_shown_eq h.shown

/-- A respaced piece is blank if the piece is. -/
theorem isBlank_eq (h : Respaced piece piece') :
    (Token.ofPiece piece').isBlank = (Token.ofPiece piece).isBlank := by
  rw [Bool.eq_iff_iff, Token.isBlank_ofPiece, Token.isBlank_ofPiece, ← shown_eq_nil_iff, h.shown,
    shown_eq_nil_iff]

end Markup.Respaced

namespace Cursor

/-- A text between tags as it is read again from its layout. -/
def respaceGap (style : Style) (cursor : Cursor) (gap tag : Text) : Text :=
  let fragment := cursor.place style (.ofPiece gap) (some (.ofPiece tag))
  let next := (cursor.advance style (.ofPiece gap)).place style (.ofPiece tag) none
  fragment.space style ++ (fragment.body ++ next.space style)

/-- Texts and tags in turn as they are read again from their layout. -/
def respace (style : Style) : Cursor → List Text → List Text
  | cursor, gap :: tag :: parts =>
    cursor.respaceGap style gap tag :: tag ::
      respace style (cursor.after style [.ofPiece gap, .ofPiece tag]) parts
  | _, _ => []

/-- The text at the end as it is read again from its layout. -/
def respaceTail (style : Style) (cursor : Cursor) (tail : Text) : Text :=
  let fragment := cursor.place style (.ofPiece tail) none
  fragment.space style ++ fragment.body

/-! ### One line -/

private theorem singleLine_render_place (style : Style) (cursor : Cursor) (h : OneLine piece)
    (next? : Option Token) :
    ((cursor.place style (.ofPiece piece) next?).render style).singleLine =
      (cursor.place style (.ofPiece piece) next?).space style ++
        (cursor.place style (.ofPiece piece) next?).body := by
  rw [Fragment.render_eq_margin_append, singleLine_append,
    singleLine_of_oneLine (h.sublist body_place_sublist)]
  rfl

/-- On one line, what texts and tags in turn write are the respaced parts. -/
theorem singleLine_write (h : Paired parts) (hline : ∀ part ∈ parts, OneLine part) :
    (write style cursor (parts.map .ofPiece)).singleLine =
      (respace style cursor parts).flatten := by
  induction h generalizing cursor with
  | nil => rfl
  | @cons gap tag parts hgap htag _ ih =>
    obtain ⟨hlgap, hline⟩ := List.forall_mem_cons.mp hline
    obtain ⟨hltag, hline⟩ := List.forall_mem_cons.mp hline
    have hk : (Token.ofPiece tag).kind ≠ .text := Kind.ofPiece_ne_text htag
    have hplace := singleLine_render_place style (cursor.advance style (.ofPiece gap)) hltag none
    rw [body_place_of_ne_text hk, htag.trim_eq] at hplace
    rw [List.map_cons, List.map_cons, write_cons, write_cons, singleLine_append,
      singleLine_append, singleLine_render_place style cursor hlgap, ih hline,
      place_eq_of_ne_text hk _ none, hplace]
    simp only [respace, respaceGap, List.flatten_cons, List.append_assoc, List.head?_cons]
    rfl

/-! ### The parts of a layout -/

private theorem respaceGap_eq (hunit : AllBlank style.unit) (cursor : Cursor) (gap tag : Text) :
    ∃ w w', AllBlank w ∧ AllBlank w' ∧ cursor.respaceGap style gap tag =
      w ++ ((cursor.place style (.ofPiece gap) (some (.ofPiece tag))).body ++ w') :=
  ⟨_, _, Fragment.allBlank_space hunit _, Fragment.allBlank_space hunit _, rfl⟩

/-- A text between tags is respaced. -/
theorem respaced_respaceGap (hunit : AllBlank style.unit) (hgap : '<' ∉ gap)
    (cursor : Cursor) (tag : Text) : Respaced gap (cursor.respaceGap style gap tag) := by
  obtain ⟨w, w', hw, hw', hr⟩ := respaceGap_eq hunit cursor gap tag
  rw [hr]
  exact .of_body_place hw hw' (not_isTag_of_untagged (untagged_of_not_mem hgap)) style cursor _

/-- The text at the end is respaced. -/
theorem respaced_respaceTail (hunit : AllBlank style.unit) (h : Untagged tail)
    (cursor : Cursor) : Respaced tail (cursor.respaceTail style tail) := by
  have hspace := (cursor.place style (.ofPiece tail) none).allBlank_space hunit
  have hr := Respaced.of_body_place hspace allBlank_nil (not_isTag_of_untagged h) style cursor none
  rwa [List.append_nil] at hr

/-- Texts and tags in turn are respaced one by one. -/
theorem forall₂_respace (hunit : AllBlank style.unit) (h : Paired parts) :
    List.Forall₂ Respaced parts (respace style cursor parts) := by
  induction h generalizing cursor with
  | nil => exact .nil
  | @cons gap tag parts hgap _ _ ih =>
    exact .cons (respaced_respaceGap hunit hgap cursor tag) (.cons (.refl tag) ih)

/-- Respaced parts are texts and tags in turn again. -/
theorem paired_respace (hunit : AllBlank style.unit) (h : Paired parts) :
    Paired (respace style cursor parts) := by
  induction h generalizing cursor with
  | nil => exact .nil
  | @cons gap tag parts hgap htag _ ih =>
    obtain ⟨w, w', hw, hw', hr⟩ := respaceGap_eq hunit cursor gap tag
    refine .cons ?_ htag ih
    rw [hr, List.mem_append, List.mem_append]
    rintro (hm | hm | hm)
    · exact not_mem_of_allBlank hw hm
    · exact hgap (body_place_sublist.subset hm)
    · exact not_mem_of_allBlank hw' hm

/-- The respaced text at the end begins no tag. -/
theorem untagged_respaceTail (hunit : AllBlank style.unit) (h : Untagged tail) :
    Untagged (cursor.respaceTail style tail) :=
  (untagged_append_iff (not_mem_of_allBlank (Fragment.allBlank_space hunit _))).mpr
    (untagged_body_place h)

/-- The layout of a document is cut into its respaced parts. -/
theorem cut_layout (hunit : AllBlank style.unit) {document : Text} (h : Paired parts)
    (htail : Untagged tail) (hcut : cut .text document.singleLine = parts ++ [tail]) :
    cut .text (layout style (tokens document)).singleLine =
      respace style {} parts ++
        [(after style {} (parts.map .ofPiece)).respaceTail style tail] := by
  have hline : ∀ part ∈ parts ++ [tail], OneLine part := by
    intro part hm
    have hs : part.Sublist document.singleLine := by
      rw [← flatten_cut .text document.singleLine, hcut]
      exact List.sublist_flatten_of_mem hm
    exact (oneLine_singleLine document).sublist hs
  obtain ⟨hparts, hlast⟩ := List.forall_mem_append.mp hline
  have hwritten : (layout style (tokens document)).singleLine =
      (respace style {} parts).flatten ++
        (after style {} (parts.map .ofPiece)).respaceTail style tail := by
    rw [tokens, singleLine_layout, ← tokens, write_tokens h hcut, singleLine_append,
      singleLine_write h hparts,
      singleLine_render_place style _ (hlast tail (List.mem_singleton.mpr rfl))]
    rfl
  rw [hwritten, (paired_respace hunit h).cut_append_untagged (untagged_respaceTail hunit htail)]

end Cursor
end MarkupLayout
