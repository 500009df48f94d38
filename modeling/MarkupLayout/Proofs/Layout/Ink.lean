import MarkupLayout.Formatter
import MarkupLayout.Proofs.Layout.Writing

/-!
# Layouts keep the ink

With a unit of blanks, laying out pieces changes blanks only: whatever the pieces are, the layout
has their ink, in their order: the content preservation of specification §8.
-/

namespace MarkupLayout

open Text Cursor

/-- A text shows all of its ink. -/
theorem Text.ink_shown (t : Text) : ink (shown t) = ink t := by
  rw [shown, ink_trim, ink_squeeze]

/-- The body of a piece has the ink of the piece. -/
theorem Cursor.ink_body_place (style : Style) (cursor : Cursor) (piece : Text)
    (next? : Option Token) : ink (cursor.place style (.ofPiece piece) next?).body = ink piece := by
  rw [← ink_shown, shown_body_place, ink_shown]

/-- The fragment of a piece has the ink of the piece. -/
theorem Cursor.ink_render_place {style : Style} (hunit : AllBlank style.unit) (cursor : Cursor)
    (piece : Text) (next? : Option Token) :
    ink ((cursor.place style (.ofPiece piece) next?).render style) = ink piece := by
  rw [Fragment.render_eq_margin_append, ink_append,
    ink_eq_nil_iff.mpr (Fragment.allBlank_margin hunit _), List.nil_append, ink_body_place]

/-- What pieces write has the ink of the pieces. -/
theorem Cursor.ink_write {style : Style} (hunit : AllBlank style.unit) (cursor : Cursor)
    (pieces : List Text) :
    ink (write style cursor (pieces.map .ofPiece)) = ink pieces.flatten := by
  induction pieces generalizing cursor with
  | nil => rfl
  | cons piece pieces ih =>
    rw [List.map_cons, write_cons, ink_append, ink_render_place hunit, ih, List.flatten_cons,
      ink_append]

/-- The layout of any pieces has their ink, and a formatted document the ink of the document. -/
theorem layout_keeps_ink (style : Style) (hunit : AllBlank style.unit) :
    (∀ pieces : List Text, ink (layout style (pieces.map .ofPiece)) = ink pieces.flatten) ∧
    ∀ (trace : Bool) (document : Text),
      ink (Formatter.format ⟨style, trace⟩ (.text document)) = ink document := by
  have hlayout (pieces : List Text) :
      ink (layout style (pieces.map .ofPiece)) = ink pieces.flatten := by
    rw [layout, ink_trim]
    exact ink_write hunit {} pieces
  refine ⟨hlayout, fun trace document => ?_⟩
  calc ink (layout style (tokens document))
      = ink (Markup.pieces document).flatten := hlayout _
    _ = ink document := by rw [Markup.flatten_pieces, ink_singleLine]

/-- The pieces may be empty and have line ends and no-break spaces. -/
theorem layout_keeps_ink_blanks :
    AllBlank ['\t'] ∧
    ink (layout { unit := ['\t'] } (["<b>".toList, " a\n\u00a0".toList, [], "b".toList].map
      .ofPiece)) = "<b>ab".toList :=
  ⟨by decide, ((layout_keeps_ink { unit := ['\t'] } (by decide)).1 _).trans (by decide)⟩

end MarkupLayout
