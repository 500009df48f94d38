import MarkupLayout.Layout.Cursor
import MarkupLayout.Proofs.Markup.Kinds

/-!
# The fragment of a piece

A fragment is a margin of blanks and a body. The body of a piece is made of the characters of the
piece, shows what the piece shows and begins no tag unless the piece does. It ends in ink, but for
a text before a closing tag that stays on the line. Only texts look at the token that follows.
-/

namespace MarkupLayout

open Text Markup

variable {style : Style} {cursor : Cursor} {piece : Text} {token : Token}
  {next? : Option Token}

/-- A unit of blanks indents with blanks. -/
theorem Style.allBlank_indent (hunit : AllBlank style.unit) (depth : Int) :
    AllBlank (style.indent depth) := by
  intro c hc
  obtain ⟨unit, hm, hc⟩ := List.mem_flatten.mp hc
  rw [List.eq_of_mem_replicate hm] at hc
  exact hunit c hc

namespace Fragment

/-- The line feed and the indentation of a fragment that begins a line. -/
def margin (style : Style) : Fragment → Text
  | line depth _ => '\n' :: style.indent depth
  | joined _ => []
  | absent => []

/-- The text of a fragment without its margin. -/
def body : Fragment → Text
  | line _ body => body
  | joined body => body
  | absent => []

/-- A fragment is written as its margin and its body. -/
theorem render_eq_margin_append (fragment : Fragment) :
    fragment.render style = fragment.margin style ++ fragment.body := by
  cases fragment <;> rfl

/-- A unit of blanks leaves the margins blank. -/
theorem allBlank_margin (hunit : AllBlank style.unit) (fragment : Fragment) :
    AllBlank (fragment.margin style) := by
  cases fragment with
  | line depth body => exact allBlank_cons.mpr ⟨by decide, style.allBlank_indent hunit depth⟩
  | joined body => exact allBlank_nil
  | absent => exact allBlank_nil

end Fragment

namespace Cursor

/-! ### The fragment of a piece -/

/-- Only a text looks at the token that follows it. -/
theorem place_eq_of_ne_text (h : token.kind ≠ .text) (next? next?' : Option Token) :
    cursor.place style token next? = cursor.place style token next?' := by
  unfold place
  split
  · rfl
  · cases hk : token.kind with
    | text => exact absurd hk h
    | _ => rfl

/-- A token that is not blank is written if its kind is known. -/
theorem place_ne_absent (hblank : token.isBlank = false)
    (hkind : ∀ label, token.kind ≠ .other label) :
    cursor.place style token next? ≠ .absent := by
  rw [place, if_neg (by rw [hblank]; exact Bool.false_ne_true)]
  cases h : token.kind with
  | closing =>
    dsimp only
    split <;> nofun
  | text =>
    dsimp only
    split <;> nofun
  | other label => exact absurd h (hkind label)
  | _ => nofun

/-- A blank piece is not written. -/
theorem place_of_allBlank (h : AllBlank piece) :
    cursor.place style (.ofPiece piece) next? = .absent := by
  rw [place, if_pos (Token.isBlank_ofPiece.mpr h)]

/-- A text that is not blank is written squeezed, on the line of its tag or on its own. -/
theorem place_of_text (hk : Kind.ofPiece piece = .text) (h : ¬ AllBlank piece) :
    cursor.place style (.ofPiece piece) next? =
      if cursor.hosting then
        .joined (if next?.any style.closesInline then piece.squeeze else piece.squeeze.trimRight)
      else .line cursor.depth piece.shown := by
  have hkind : (Token.ofPiece piece).kind = .text := hk
  rw [place, if_neg (mt Token.isBlank_ofPiece.mp h), hkind]
  rfl

/-- An opening tag begins a line at the depth of the cursor. -/
theorem place_of_opening (h : token.kind = .opening) :
    cursor.place style token next? = .line cursor.depth token.content.trim := by
  have hb : ¬ token.isBlank = true := mt Token.kind_of_isBlank (by rw [h]; decide)
  rw [place, if_neg hb, h]

/-- A closing tag stays on the line, or it begins a line one level above the cursor. -/
theorem place_eq_joined_or_line (h : token.kind = .closing) :
    cursor.place style token next? = .joined token.content.trim ∨
      cursor.place style token next? = .line (cursor.depth - 1) token.content.trim := by
  have hb : ¬ token.isBlank = true := mt Token.kind_of_isBlank (by rw [h]; decide)
  rw [place, if_neg hb, h]
  dsimp only
  split
  · exact .inl rfl
  · exact .inr rfl

/-- A closing tag that stays on the line for its name is joined to it. -/
theorem place_of_closesInline (h : style.closesInline token = true) :
    cursor.place style token next? = .joined token.content.trim := by
  have hk : token.kind = .closing := of_decide_eq_true (Bool.and_eq_true_iff.mp h).1
  have hb : ¬ token.isBlank = true := mt Token.kind_of_isBlank (by rw [hk]; decide)
  rw [place, if_neg hb, hk, h]
  rfl

/-- The body of a piece that is not text is the trimmed piece. -/
theorem body_place_of_ne_text (h : Kind.ofPiece piece ≠ .text) :
    (cursor.place style (.ofPiece piece) next?).body = piece.trim := by
  have hb : ¬ (Token.ofPiece piece).isBlank = true :=
    mt Token.isBlank_ofPiece.mp (Token.not_allBlank_of_kind_ne_text h)
  rw [place, if_neg hb]
  cases hk : (Token.ofPiece piece).kind with
  | text => exact absurd hk h
  | other label => exact absurd hk (Kind.ofPiece_ne_other piece label)
  | closing => dsimp only; split <;> rfl
  | _ => rfl

/-- The body of a piece is nothing, the trimmed piece or the squeezed piece, trimmed or not. -/
theorem body_place_cases (style : Style) (cursor : Cursor) (piece : Text)
    (next? : Option Token) :
    let body := (cursor.place style (.ofPiece piece) next?).body
    (AllBlank piece ∧ body = []) ∨ (¬ AllBlank piece ∧
      (body = piece.trim ∨ body = piece.shown ∨ body = piece.squeeze.trimRight ∨
        next?.any style.closesInline = true ∧ body = piece.squeeze)) := by
  by_cases h : AllBlank piece
  · refine .inl ⟨h, ?_⟩
    rw [place_of_allBlank h]
    rfl
  · refine .inr ⟨h, ?_⟩
    by_cases hk : Kind.ofPiece piece = .text
    · rw [place_of_text hk h]
      split
      · split
        · next hnext => exact .inr (.inr (.inr ⟨hnext, rfl⟩))
        · exact .inr (.inr (.inl rfl))
      · exact .inr (.inl rfl)
    · exact .inl (body_place_of_ne_text hk)

/-- The body of a piece shows what the piece shows. -/
theorem shown_body_place (style : Style) (cursor : Cursor) (piece : Text)
    (next? : Option Token) :
    (cursor.place style (.ofPiece piece) next?).body.shown = piece.shown := by
  obtain ⟨hb, h⟩ | ⟨-, h | h | h | ⟨-, h⟩⟩ := body_place_cases style cursor piece next?
  · rw [h, shown_eq_nil_iff.mpr hb]
    rfl
  · rw [h, shown_trim]
  · rw [h, shown_shown]
  · rw [h, shown_trimRight, shown_squeeze]
  · rw [h, shown_squeeze]

/-- The body of a piece has only blanks if the piece has. -/
theorem allBlank_body_place :
    AllBlank (cursor.place style (.ofPiece piece) next?).body ↔ AllBlank piece := by
  rw [← shown_eq_nil_iff, shown_body_place, shown_eq_nil_iff]

/-- The body of a piece is made of characters of the piece, in order. -/
theorem body_place_sublist :
    (cursor.place style (.ofPiece piece) next?).body.Sublist piece := by
  obtain ⟨-, h⟩ | ⟨-, h | h | h | ⟨-, h⟩⟩ := body_place_cases style cursor piece next?
  · rw [h]
    exact List.nil_sublist _
  · rw [h]
    exact trim_sublist piece
  · rw [h]
    exact (trim_sublist _).trans (squeeze_sublist piece)
  · rw [h]
    exact (trimRight_sublist _).trans (squeeze_sublist piece)
  · rw [h]
    exact squeeze_sublist piece

/-- The body of a piece that begins no tag begins none. -/
theorem untagged_body_place (h : Untagged piece) :
    Untagged (cursor.place style (.ofPiece piece) next?).body := by
  obtain ⟨-, hb⟩ | ⟨-, hb | hb | hb | ⟨-, hb⟩⟩ := body_place_cases style cursor piece next?
  · rw [hb]
    exact untagged_of_not_mem List.not_mem_nil
  · rw [hb]
    exact h.trim
  · rw [hb]
    exact h.squeeze.trim
  · rw [hb]
    exact h.squeeze.trimRight
  · rw [hb]
    exact h.squeeze

/-- A body ends in ink unless a closing tag that stays on the line follows. -/
theorem trimRight_body_place (h : next?.any style.closesInline = false) :
    (cursor.place style (.ofPiece piece) next?).body.trimRight =
      (cursor.place style (.ofPiece piece) next?).body := by
  obtain ⟨-, hb⟩ | ⟨-, hb | hb | hb | ⟨hn, -⟩⟩ := body_place_cases style cursor piece next?
  · rw [hb]
    rfl
  · rw [hb, trimRight_trim]
  · rw [hb, shown, trimRight_trim]
  · rw [hb, trimRight_trimRight]
  · rw [h] at hn
    cases hn

/-- A piece that is not blank begins a line, trimmed and no deeper than the cursor, or is joined
to the line. Away from inline tags it is joined trimmed as well. -/
theorem place_cases (style : Style) (cursor : Cursor) (h : ¬ AllBlank piece)
    (next? : Option Token) :
    let fragment := cursor.place style (.ofPiece piece) next?
    (∃ depth ≤ cursor.depth, fragment = .line depth fragment.body ∧
        fragment.body.trim = fragment.body) ∨
      fragment = .joined fragment.body ∧
        (cursor.hosting = false → fragment.body.trim = fragment.body) := by
  by_cases hk : Kind.ofPiece piece = .text
  · rw [place_of_text hk h]
    cases hh : cursor.hosting with
    | false => exact .inl ⟨cursor.depth, Int.le_refl _, rfl, trim_trim _⟩
    | true => exact .inr ⟨rfl, fun hf => absurd hf (by decide)⟩
  · rw [place, if_neg (mt Token.isBlank_ofPiece.mp h)]
    cases hkind : (Token.ofPiece piece).kind with
    | text => exact absurd hkind hk
    | other label => exact absurd hkind (Kind.ofPiece_ne_other piece label)
    | closing =>
      dsimp only
      split
      · exact .inr ⟨rfl, fun _ => trim_trim piece⟩
      · exact .inl ⟨cursor.depth - 1, by omega, rfl, trim_trim piece⟩
    | _ => exact .inl ⟨cursor.depth, Int.le_refl _, rfl, trim_trim piece⟩

/-- Above the first level and away from inline tags, a piece is written trimmed, behind the line
feed of its line if it begins one. -/
theorem render_place_of_outside (style : Style) (hdepth : cursor.depth ≤ 0)
    (hhosting : cursor.hosting = false) (h : ¬ AllBlank piece) (next? : Option Token) :
    ∃ body, trim body = body ∧ ¬ AllBlank body ∧
      ((cursor.place style (.ofPiece piece) next?).render style = body ∨
        (cursor.place style (.ofPiece piece) next?).render style = '\n' :: body) := by
  have hink : ¬ AllBlank (cursor.place style (.ofPiece piece) next?).body :=
    mt allBlank_body_place.mp h
  obtain ⟨depth, hle, hline, htrim⟩ | ⟨hjoined, htrim⟩ := place_cases style cursor h next?
  · refine ⟨_, htrim, hink, .inr ?_⟩
    rw [hline, Fragment.render, style.indent_of_nonpos (Int.le_trans hle hdepth)]
    rfl
  · refine ⟨_, htrim hhosting, hink, .inl ?_⟩
    rw [hjoined]
    rfl

end Cursor
end MarkupLayout
