import MarkupLayout.Proofs.Layout.Respacing

/-!
# Tokens survive formatting

The tokens of a formatted document that are not blank are those of the document, one for one and
in order. Kinds and tags stay as they are, texts keep their words, and the other tokens keep all
but the blanks at their ends.
-/

namespace MarkupLayout

open Text Markup Cursor

variable {piece piece' : Text}

/-- What formatting keeps of a token. -/
structure Token.Survives (token token' : Token) : Prop where
  kind : token'.kind = token.kind
  tag : IsTag token.content → token'.content = token.content
  words : token.kind = .text → token'.content.words = token.content.words
  trim : token.kind ≠ .text → token'.content.trim = token.content.trim

/-- The token of a respaced piece survives. -/
theorem Markup.Respaced.survives (h : Respaced piece piece') :
    Token.Survives (.ofPiece piece) (.ofPiece piece') where
  kind := h.kind_eq
  tag := h.tag
  words _ := by
    calc piece'.words = piece'.shown.words := (words_shown piece').symm
      _ = piece.shown.words := by rw [h.shown]
      _ = piece.words := words_shown piece
  trim := h.trim

private theorem filter_not_isBlank_tokens (document : Text) :
    (tokens document).filter (!·.isBlank) =
      ((cut .text document.singleLine).map Token.ofPiece).filter (!·.isBlank) := by
  rw [tokens, pieces, List.filter_map, List.filter_map, List.filter_filter]
  congr 2
  funext part
  cases part with
  | nil => rfl
  | cons c part => exact Bool.and_true _

/-- Every token that is not blank survives formatting, and no other token comes up. -/
theorem forall₂_survives_tokens_format (formatter : Formatter)
    (hunit : AllBlank formatter.style.unit) (document : Text) :
    List.Forall₂ Token.Survives ((tokens document).filter (!·.isBlank))
      ((tokens (formatter.format (.text document))).filter (!·.isBlank)) := by
  obtain ⟨parts, tail, hparts, htail, hcut⟩ := exists_cut_eq document.singleLine
  have hlayout := cut_layout hunit hparts htail hcut
  have hrespaced : List.Forall₂ Respaced (cut .text document.singleLine)
      (cut .text (layout formatter.style (tokens document)).singleLine) := by
    rw [hcut, hlayout]
    exact List.rel_append (forall₂_respace hunit hparts)
      (.cons (respaced_respaceTail hunit htail _) .nil)
  let shows (piece : Text) : Bool := !(Token.ofPiece piece).isBlank
  have hshows : Relator.LiftFun Respaced Iff (shows · = true) (shows · = true) := by
    intro piece piece' h
    simp only [shows, h.isBlank_eq]
  have hshown := List.rel_filter hshows hrespaced
  rw [filter_not_isBlank_tokens, filter_not_isBlank_tokens, List.filter_map, List.filter_map,
    List.forall₂_map_left_iff, List.forall₂_map_right_iff]
  exact hshown.imp fun _ _ h => h.survives

/-- A document with words to squeeze, a blank kept in an inline tag and a tag without its end. -/
theorem forall₂_survives_tokens_format_unended :
    AllBlank ['\t'] ∧
    List.Forall₂ Token.Survives
      (["a  b ", "<i>", "c ", "</i>", "x <u "].map fun piece => Token.ofPiece piece.toList)
      (["a b", "<i>", "c ", "</i>", "x <u"].map fun piece => Token.ofPiece piece.toList) := by
  refine ⟨by decide, ?_⟩
  have h := forall₂_survives_tokens_format ⟨{ unit := ['\t'] }, false⟩ (by decide)
    "a  b \n<i>c </i>x <u ".toList
  have hbefore : (tokens "a  b \n<i>c </i>x <u ".toList).filter (!·.isBlank) =
      ["a  b ", "<i>", "c ", "</i>", "x <u "].map fun piece => Token.ofPiece piece.toList := by
    decide
  have hafter : (tokens (Formatter.format ⟨{ unit := ['\t'] }, false⟩
      (.text "a  b \n<i>c </i>x <u ".toList))).filter (!·.isBlank) =
      ["a b", "<i>", "c ", "</i>", "x <u"].map fun piece => Token.ofPiece piece.toList := by
    decide
  rwa [hbefore, hafter] at h

end MarkupLayout
