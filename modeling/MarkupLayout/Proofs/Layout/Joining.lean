import MarkupLayout.Formatter
import MarkupLayout.Proofs.Layout.Lines
import MarkupLayout.Proofs.Layout.Position
import MarkupLayout.Proofs.Markup.Joining

/-!
# Layouts of joined documents

What a document leaves to the one behind it is its last cursor. Behind a document that ends with a
tag, nothing changes its layout. Blanks between two tags do not move the cursor and are not written,
so they do not matter to the layout. Where the first document ends outside all tags, the cursor
knows at most that an opening tag has come last, and only a closing tag asks for this: such
documents are laid out each on its own, with a line feed between them.
-/

namespace MarkupLayout

open Text Markup

namespace Cursor

variable {style : Style} {cursor : Cursor} {document : Text} {token : Token}
  {next? : Option Token}

/-! ### Cursors behind documents -/

/-- What follows a tag is written from the cursor that the document with the tag leaves. -/
theorem write_tokens_append (h : ∀ piece ∈ (pieces document).getLast?, IsTag piece)
    (behind : Text) :
    write style cursor (tokens (document ++ behind)) =
      write style cursor (tokens document) ++
        write style (after style cursor (tokens document)) (tokens behind) := by
  rw [tokens_append h]
  apply write_append
  intro token htoken
  rw [tokens, List.getLast?_map] at htoken
  obtain ⟨piece, hpiece, rfl⟩ := Option.map_eq_some_iff.mp htoken
  exact Kind.ofPiece_ne_text (h piece hpiece)

private theorem exists_after_eq {tokens : List Token} (hdepth : style.depthBehind tokens = 0)
    (hhosting : style.hostsBehind tokens = false) :
    ∃ afterOpening, after style {} tokens = { ({} : Cursor) with afterOpening } := by
  have hdescribes := (Describes.initial style).after tokens
  have hd : (after style {} tokens).depth = 0 := hdescribes.depth.trans hdepth
  have hh : (after style {} tokens).hosting = false := hdescribes.hosting.trans hhosting
  exact ⟨(after style {} tokens).afterOpening, congrArg₂ (Cursor.mk · · _) hd hh⟩

/-! ### Blanks in front -/

private theorem write_append_of_allBlank {front : List Text} (h : ∀ piece ∈ front, AllBlank piece)
    (tokens : List Token) :
    write style cursor (front.map .ofPiece ++ tokens) = write style cursor tokens := by
  induction front with
  | nil => rfl
  | cons piece front ih =>
    obtain ⟨hpiece, hfront⟩ := List.forall_mem_cons.mp h
    rw [List.map_cons, List.cons_append, write_cons_of_allBlank hpiece, ih hfront]

private theorem write_tokens_append_of_allBlank {blanks : Text} (hblanks : AllBlank blanks)
    (h : ∀ piece ∈ (pieces document).head?, IsTag piece) :
    write style cursor (tokens (blanks ++ document)) = write style cursor (tokens document) := by
  obtain ⟨front, hfront, hpieces⟩ := exists_pieces_append_eq hblanks h
  rw [tokens, hpieces, List.map_append, write_append_of_allBlank hfront]
  rfl

/-! ### The first token that is shown -/

private theorem place_of_isBlank (h : token.isBlank = true) :
    cursor.place style token next? = .absent := by
  rw [place, if_pos h]

private theorem place_afterOpening (h : token.kind ≠ .closing) (afterOpening : Bool) :
    place style { cursor with afterOpening } token next? = place style cursor token next? := by
  unfold place
  split
  · rfl
  · cases hk : token.kind with
    | closing => exact absurd hk h
    | _ => rfl

private theorem advance_afterOpening (h : ¬ token.isBlank = true) (afterOpening : Bool) :
    advance style { cursor with afterOpening } token = advance style cursor token := by
  rw [advance, if_neg h, advance, if_neg h]

-- Where no closing tag is shown first, it does not matter whether an opening tag has come last.
private theorem write_afterOpening {tokens : List Token}
    (h : ∀ token ∈ tokens.find? (!·.isBlank), token.kind ≠ .closing) (afterOpening : Bool) :
    write style { cursor with afterOpening } tokens = write style cursor tokens := by
  induction tokens with
  | nil => rfl
  | cons token rest ih =>
    rw [write_cons, write_cons]
    by_cases hb : token.isBlank = true
    · rw [List.find?_cons_of_neg (by simp [hb])] at h
      rw [place_of_isBlank hb, place_of_isBlank hb, advance_of_isBlank hb, advance_of_isBlank hb,
        ih h]
    · have hk : token.kind ≠ .closing := h token (List.find?_cons_of_pos (by simpa using hb))
      rw [place_afterOpening hk, advance_afterOpening hb]

private theorem exists_place_eq_line (style : Style) {piece : Text}
    (hhosting : cursor.hosting = false)
    (hb : ¬ AllBlank piece) (hk : Kind.ofPiece piece ≠ .closing) (next? : Option Token) :
    ∃ body, cursor.place style (.ofPiece piece) next? = .line cursor.depth body := by
  rw [place, if_neg (mt Token.isBlank_ofPiece.mp hb), hhosting]
  cases hkind : (Token.ofPiece piece).kind with
  | closing => exact absurd hkind hk
  | other label => exact absurd hkind (Kind.ofPiece_ne_other piece label)
  | _ => exact ⟨_, rfl⟩

private theorem exists_write_eq_cons (style : Style) {pieces : List Text}
    (hhosting : cursor.hosting = false)
    (h : ∃ token ∈ (pieces.map Token.ofPiece).find? (!·.isBlank), token.kind ≠ .closing) :
    ∃ t, write style cursor (pieces.map .ofPiece) = '\n' :: t := by
  induction pieces with
  | nil =>
    obtain ⟨token, htoken, -⟩ := h
    cases htoken
  | cons piece pieces ih =>
    rw [List.map_cons] at h ⊢
    by_cases hb : AllBlank piece
    · rw [List.find?_cons_of_neg (by simp [Token.isBlank_ofPiece.mpr hb])] at h
      rw [write_cons_of_allBlank hb]
      exact ih h
    · rw [List.find?_cons_of_pos (by simpa using mt Token.isBlank_ofPiece.mp hb)] at h
      obtain ⟨token, htoken, hk⟩ := h
      obtain rfl := Option.some.inj htoken
      obtain ⟨body, hbody⟩ :=
        exists_place_eq_line style hhosting hb hk (pieces.map Token.ofPiece).head?
      rw [write_cons, hbody]
      exact ⟨_, rfl⟩

/-! ### Layouts of joined documents -/

private theorem allBlank_write_iff {pieces : List Text} :
    AllBlank (write style cursor (pieces.map .ofPiece)) ↔ ∀ piece ∈ pieces, AllBlank piece := by
  rw [← trimRight_eq_nil_iff, trimRight_write, write_eq_nil_iff]

/-- The layout of a document that ends with a tag goes on with what follows the tag. -/
theorem layout_tokens_append (h : ∃ piece ∈ (pieces document).getLast?, IsTag piece)
    (behind : Text) :
    layout style (tokens (document ++ behind)) =
      layout style (tokens document) ++
        write style (after style {} (tokens document)) (tokens behind) := by
  obtain ⟨tag, hlast, htag⟩ := h
  have hall : ∀ piece ∈ (pieces document).getLast?, IsTag piece := by
    intro piece hpiece
    obtain rfl := Option.some.inj (hlast.symm.trans hpiece)
    exact htag
  have hink : ¬ AllBlank (write style {} (tokens document)) := by
    intro hblank
    exact htag.not_allBlank (allBlank_write_iff.mp hblank tag (List.mem_of_getLast? hlast))
  have hleft : trimLeft (write style {} (tokens document)) = layout style (tokens document) := by
    rw [tokens, ← trimRight_write, trimLeft_trimRight]
    rfl
  change trim (write style {} (tokens (document ++ behind))) = _
  rw [write_tokens_append hall]
  by_cases hbehind : AllBlank (write style (after style {} (tokens document)) (tokens behind))
  · rw [tokens.eq_1 behind, allBlank_write_iff, ← write_eq_nil_iff] at hbehind
    rw [tokens.eq_1 behind, hbehind, List.append_nil, List.append_nil]
    rfl
  · rw [trim_append_of_not_allBlank hink hbehind, hleft, tokens.eq_1 behind, trimRight_write]

end Cursor

open Cursor

/-- Blanks between two tags, in front of a document and at its end do not matter. -/
theorem format_append_blanks (formatter : Formatter) (before blanks behind : Text)
    (hblanks : AllBlank blanks) (hbefore : ∀ piece ∈ (pieces before).getLast?, TagShaped piece)
    (hbehind : ∀ piece ∈ (pieces behind).head?, TagShaped piece) :
    formatter.format (.text (before ++ blanks ++ behind)) =
      formatter.format (.text (before ++ behind)) := by
  have htag : ∀ piece ∈ (pieces before).getLast?, IsTag piece := by
    intro piece hpiece
    exact (hbefore piece hpiece).isTag (List.mem_of_getLast? hpiece)
  have htag' : ∀ piece ∈ (pieces behind).head?, IsTag piece := by
    intro piece hpiece
    exact (hbehind piece hpiece).isTag (List.mem_of_head? hpiece)
  change trim (write _ {} (tokens (before ++ blanks ++ behind))) =
    trim (write _ {} (tokens (before ++ behind)))
  rw [List.append_assoc, write_tokens_append htag, write_tokens_append_of_allBlank hblanks htag',
    write_tokens_append htag]

/-- Blanks and line ends between an opening tag and its closing tag do not matter. -/
theorem format_append_blanks_closing :
    AllBlank " \n\u00a0".toList ∧ (∀ piece ∈ (pieces "<p>".toList).getLast?, TagShaped piece) ∧
      (∀ piece ∈ (pieces "</p>x".toList).head?, TagShaped piece) ∧
      Formatter.format ⟨{ unit := ['-'] }, false⟩ (.text "<p> \n\u00a0</p>x".toList) =
        Formatter.format ⟨{ unit := ['-'] }, false⟩ (.text "<p></p>x".toList) := by
  have hbefore : ∀ piece ∈ (pieces "<p>".toList).getLast?, TagShaped piece := by decide
  have hbehind : ∀ piece ∈ (pieces "</p>x".toList).head?, TagShaped piece := by decide
  exact ⟨by decide, hbefore, hbehind, format_append_blanks ⟨{ unit := ['-'] }, false⟩
    "<p>".toList " \n\u00a0".toList "</p>x".toList (by decide) hbefore hbehind⟩

/-- What follows a tag at the end of a document leaves the layout before it as it is, and shows in
the layout unless it is blank. -/
theorem format_isPrefix_format_append (formatter : Formatter) (before behind : Text)
    (hlast : ∃ piece ∈ (pieces before).getLast?, TagShaped piece) :
    formatter.format (.text before) <+: formatter.format (.text (before ++ behind)) ∧
      (formatter.format (.text (before ++ behind)) = formatter.format (.text before) ↔
        AllBlank behind) := by
  obtain ⟨tag, htag, hshape⟩ := hlast
  have happend : formatter.format (.text (before ++ behind)) =
      formatter.format (.text before) ++
        write formatter.style (after formatter.style {} (tokens before)) (tokens behind) :=
    layout_tokens_append ⟨tag, htag, hshape.isTag (List.mem_of_getLast? htag)⟩ behind
  refine ⟨⟨_, happend.symm⟩, ?_⟩
  rw [happend, List.append_right_eq_self, tokens.eq_1 behind, write_eq_nil_iff,
    forall_allBlank_pieces]

/-- An open bracket behind an inline tag, and a unit of ink, do not reach back into the layout. -/
theorem format_isPrefix_format_append_bracket :
    (∃ piece ∈ (pieces "<p><b>".toList).getLast?, TagShaped piece) ∧
      Formatter.format ⟨{ unit := ['>'] }, false⟩ (.text "<p><b>".toList) = "<p>\n><b>".toList ∧
      Formatter.format ⟨{ unit := ['>'] }, false⟩ (.text "<p><b>".toList) <+:
        Formatter.format ⟨{ unit := ['>'] }, false⟩ (.text "<p><b> x\t<".toList) := by
  have hlast : ∃ piece ∈ (pieces "<p><b>".toList).getLast?, TagShaped piece :=
    ⟨"<b>".toList, by decide, by decide⟩
  exact ⟨hlast, by decide,
    (format_isPrefix_format_append ⟨{ unit := ['>'] }, false⟩ "<p><b>".toList " x\t<".toList
      hlast).1⟩

private theorem write_tokens_eq_cons {style : Style} {document : Text}
    (h : ∃ token ∈ (tokens document).find? (!·.isBlank), token.kind ≠ .closing) :
    write style {} (tokens document) = '\n' :: layout style (tokens document) := by
  have houtside : ({} : Cursor).hosting = false := rfl
  obtain ⟨t, ht⟩ := exists_write_eq_cons style houtside h
  obtain hwrite | hwrite := write_eq_layout_or style (pieces document)
  · exact absurd (hwrite.symm.trans ht) (layout_ne_cons_lineFeed style _ t)
  · exact hwrite

/-- A document that ends outside all tags is laid out on its own, and so is what follows it. -/
theorem format_append_eq (formatter : Formatter) (before behind : Text)
    (hlast : ∃ piece ∈ (pieces before).getLast?, TagShaped piece)
    (hdepth : formatter.style.depthBehind (tokens before) = 0)
    (hhosting : formatter.style.hostsBehind (tokens before) = false)
    (hfirst : ∃ token ∈ (tokens behind).find? (!·.isBlank), token.kind ≠ .closing) :
    formatter.format (.text (before ++ behind)) =
      formatter.format (.text before) ++ '\n' :: formatter.format (.text behind) := by
  obtain ⟨tag, htag, hshape⟩ := hlast
  obtain ⟨afterOpening, hcursor⟩ := exists_after_eq hdepth hhosting
  have hclosing : ∀ token ∈ (tokens behind).find? (!·.isBlank), token.kind ≠ .closing := by
    obtain ⟨first, hmem, hk⟩ := hfirst
    intro token htoken
    obtain rfl := Option.some.inj (hmem.symm.trans htoken)
    exact hk
  change layout formatter.style (tokens (before ++ behind)) = _
  rw [layout_tokens_append ⟨tag, htag, hshape.isTag (List.mem_of_getLast? htag)⟩, hcursor,
    write_afterOpening hclosing, write_tokens_eq_cons hfirst]
  rfl

/-- The first document may end with an opening tag, if that is flush and not inline. -/
theorem format_append_eq_flush :
    (∃ piece ∈ (pieces "<i>a</i><meta>".toList).getLast?, TagShaped piece) ∧
      ({} : Style).depthBehind (tokens "<i>a</i><meta>".toList) = 0 ∧
      ({} : Style).hostsBehind (tokens "<i>a</i><meta>".toList) = false ∧
      (∃ token ∈ (tokens " \n b</p>".toList).find? (!·.isBlank), token.kind ≠ .closing) ∧
      Formatter.format {} (.text "<i>a</i><meta> \n b</p>".toList) =
        "<i>a</i>\n<meta>".toList ++ '\n' :: "b\n</p>".toList := by
  have hlast : ∃ piece ∈ (pieces "<i>a</i><meta>".toList).getLast?, TagShaped piece :=
    ⟨"<meta>".toList, by decide, by decide⟩
  have hdepth : ({} : Style).depthBehind (tokens "<i>a</i><meta>".toList) = 0 := by decide
  have hhosting : ({} : Style).hostsBehind (tokens "<i>a</i><meta>".toList) = false := by decide
  have hfirst : ∃ token ∈ (tokens " \n b</p>".toList).find? (!·.isBlank),
      token.kind ≠ .closing := ⟨.ofPiece "  b".toList, by decide, by decide⟩
  refine ⟨hlast, hdepth, hhosting, hfirst, ?_⟩
  exact (format_append_eq {} "<i>a</i><meta>".toList " \n b</p>".toList hlast hdepth hhosting
    hfirst).trans (by decide)

end MarkupLayout
