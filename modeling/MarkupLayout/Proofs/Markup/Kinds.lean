import MarkupLayout.Markup.Token
import MarkupLayout.Proofs.Markup.Cutting

/-!
# Kinds and names of pieces

The kind of a piece can be read off what the piece shows: neither blanks at its ends nor squeezing
change it. A tag is never text, and a piece without an opening bracket is text or a tag of its own.
The name of a piece hangs on blanks as well: one in front hides it, and one may end it.
-/

namespace MarkupLayout

open Text Markup

variable {piece piece' tag w : Text}

namespace Kind

/-- Only the trimmed piece matters to its kind. -/
theorem ofPiece_eq_of_trim_eq (h : piece.trim = piece'.trim) : ofPiece piece = ofPiece piece' := by
  rw [ofPiece, h, ofPiece]

/-- Squeezing does not change the kind of a piece. -/
theorem ofPiece_squeeze (piece : Text) : ofPiece piece.squeeze = ofPiece piece := by
  have front (c : Char) (hc : isBlank c = false) :
      ['<', c].isPrefixOf piece.trim.squeeze = ['<', c].isPrefixOf piece.trim := by
    rw [Bool.eq_iff_iff, List.isPrefixOf_iff_prefix, List.isPrefixOf_iff_prefix]
    exact isPrefix_squeeze_iff (by simpa [hc] using (by decide : isBlank '<' = false))
  have bracket : ['<'].isPrefixOf piece.trim.squeeze = ['<'].isPrefixOf piece.trim := by
    rw [Bool.eq_iff_iff, List.isPrefixOf_iff_prefix, List.isPrefixOf_iff_prefix]
    exact isPrefix_squeeze_iff (List.forall_mem_singleton.mpr (by decide))
  have back : ['/', '>'].isSuffixOf piece.trim.squeeze = ['/', '>'].isSuffixOf piece.trim := by
    rw [Bool.eq_iff_iff, List.isSuffixOf_iff_suffix, List.isSuffixOf_iff_suffix]
    exact isSuffix_squeezeFrom_iff
      (List.forall_mem_cons.mpr ⟨by decide, List.forall_mem_singleton.mpr (by decide)⟩)
  simp only [ofPiece, trim_squeeze, front '!' (by decide), front '/' (by decide), bracket, back]

/-- Pieces that show the same have the same kind. -/
theorem ofPiece_eq_of_shown_eq (h : piece.shown = piece'.shown) :
    ofPiece piece = ofPiece piece' := by
  calc ofPiece piece = ofPiece piece.squeeze := (ofPiece_squeeze piece).symm
    _ = ofPiece piece'.squeeze := ofPiece_eq_of_trim_eq h
    _ = ofPiece piece' := ofPiece_squeeze piece'

/-- Blanks are text. -/
theorem ofPiece_of_allBlank (h : AllBlank piece) : ofPiece piece = text := by
  rw [ofPiece, trim_eq_nil_iff.mpr h]
  rfl

/-- The kind of a piece is one of the five. -/
theorem ofPiece_ne_other (piece label : Text) : ofPiece piece ≠ other label := by
  unfold ofPiece
  dsimp only
  repeat' split
  all_goals simp

/-- A piece without a bracket in front is a tag of its own if a slash and a closing bracket end it,
and else text. -/
theorem ofPiece_of_not_isPrefix (h : ¬ ['<'] <+: piece.trim) :
    ofPiece piece = standalone ∧ ['/', '>'] <:+ piece.trim ∨
      ofPiece piece = text ∧ ¬ ['/', '>'] <:+ piece.trim := by
  have front (u : Text) : ¬ ('<' :: u).isPrefixOf piece.trim = true := by
    rw [List.isPrefixOf_iff_prefix]
    exact fun hu => h ((List.prefix_append ['<'] u).trans hu)
  unfold ofPiece
  dsimp only
  rw [if_neg (front _), if_neg (front _), if_neg (front _)]
  split
  · next hend => exact .inl ⟨rfl, List.isSuffixOf_iff_suffix.mp hend⟩
  · next hend => exact .inr ⟨rfl, mt List.isSuffixOf_iff_suffix.mpr hend⟩

/-- A piece with a bracket in front is a comment, a closing or an opening tag, unless a slash and a
closing bracket end it. -/
theorem ofPiece_of_isPrefix (h : ['<'] <+: piece.trim) (hend : ¬ ['/', '>'] <:+ piece.trim) :
    ofPiece piece ∈ [comment, closing, opening] := by
  unfold ofPiece
  dsimp only
  rw [if_neg (mt List.isSuffixOf_iff_suffix.mp hend), if_pos (List.isPrefixOf_iff_prefix.mpr h)]
  repeat' split
  all_goals decide

/-- A piece without an opening bracket is text or a tag of its own. -/
theorem ofPiece_of_not_mem (h : '<' ∉ piece) :
    ofPiece piece = text ∨ ofPiece piece = standalone := by
  have hfront : ¬ ['<'] <+: piece.trim := by
    intro hp
    exact h ((trim_sublist piece).subset (hp.subset List.mem_cons_self))
  obtain ⟨hkind, -⟩ | ⟨hkind, -⟩ := ofPiece_of_not_isPrefix hfront
  · exact .inr hkind
  · exact .inl hkind

/-- A tag is not text. -/
theorem ofPiece_ne_text (h : IsTag tag) : ofPiece tag ≠ text := by
  obtain ⟨t, ht⟩ := h.exists_eq_cons
  have hb : ['<'].isPrefixOf tag.trim = true := by
    rw [h.trim_eq, ht]
    exact List.isPrefixOf_iff_prefix.mpr ⟨t, rfl⟩
  unfold ofPiece
  dsimp only
  simp only [hb, if_true]
  repeat' split
  all_goals simp

/-- A piece that begins with an opening bracket and a slash is a closing tag. -/
theorem ofPiece_slash (t : Text) : ofPiece ('<' :: '/' :: t) = closing := by
  have ht : trim ('<' :: '/' :: t) = '<' :: '/' :: trimRight t := by
    rw [trim_cons_of_ink (by decide), trimRight_cons, if_neg]
    exact fun h => absurd (allBlank_cons.mp h).1 (by decide)
  rw [ofPiece, ht]
  rfl

/-- Only blanks can stand before the bracket and the slash of a closing tag. -/
theorem exists_of_ofPiece_eq_closing (h : ofPiece piece = closing) :
    ∃ w t, AllBlank w ∧ piece = w ++ '<' :: '/' :: t := by
  obtain ⟨w, hw, hpiece⟩ := exists_eq_append_trimLeft piece
  obtain ⟨w', -, hleft⟩ := exists_eq_trimRight_append (trimLeft piece)
  have hfront : ['<', '/'].isPrefixOf piece.trim = true := by
    by_contra hf
    unfold ofPiece at h
    dsimp only at h
    rw [if_neg hf] at h
    repeat' split at h
    all_goals cases h
  obtain ⟨t, ht⟩ := List.isPrefixOf_iff_prefix.mp hfront
  refine ⟨w, t ++ w', hw, ?_⟩
  rw [hpiece, hleft, ← trim, ← ht]
  rfl

end Kind

namespace Token

/-- Only texts are blank. -/
theorem kind_of_isBlank {token : Token} (h : token.isBlank = true) : token.kind = .text :=
  of_decide_eq_true (Bool.and_eq_true_iff.mp h).1

/-- The blank tokens of pieces are those of blanks. -/
theorem isBlank_ofPiece : (ofPiece piece).isBlank = true ↔ AllBlank piece := by
  simp only [isBlank, ofPiece, Bool.and_eq_true, List.isEmpty_iff, trim_eq_nil_iff]
  exact and_iff_right_of_imp fun h => decide_eq_true (Kind.ofPiece_of_allBlank h)

/-- A token of another kind than text has ink. -/
theorem not_allBlank_of_kind_ne_text (h : Kind.ofPiece piece ≠ .text) : ¬ AllBlank piece :=
  mt Kind.ofPiece_of_allBlank h

end Token

/-- The name in front of a text is a run of word characters with a space or a closing bracket
behind it. -/
theorem leadingName_eq_iff {name t : Text} (hne : name ≠ []) :
    leadingName t = name ↔ (∀ c ∈ name, isWord c = true) ∧
      ∃ c rest, (c = ' ' ∨ c = '>') ∧ t = name ++ c :: rest := by
  constructor
  · intro h
    unfold leadingName at h
    split at h
    · next rest hrest =>
      subst h
      exact ⟨fun _ hc => List.mem_takeWhile_imp hc, ' ', rest, .inl rfl,
        hrest ▸ List.takeWhile_append_dropWhile.symm⟩
    · next rest hrest =>
      subst h
      exact ⟨fun _ hc => List.mem_takeWhile_imp hc, '>', rest, .inr rfl,
        hrest ▸ List.takeWhile_append_dropWhile.symm⟩
    · exact absurd h.symm hne
  · rintro ⟨hname, c, rest, hc, rfl⟩
    have hword : ¬ isWord c = true := by
      obtain rfl | rfl := hc <;> decide
    have hdrop : (name ++ c :: rest).dropWhile isWord = c :: rest := by
      rw [List.dropWhile_append_of_pos hname, List.dropWhile_cons_of_neg hword]
    have htake : (name ++ c :: rest).takeWhile isWord = name := by
      rw [List.takeWhile_append_of_pos hname, List.takeWhile_cons_of_neg hword, List.append_nil]
    unfold leadingName
    rw [hdrop, htake]
    obtain rfl | rfl := hc <;> rfl

/-- A blank in front of a piece hides its name. -/
theorem tagName_append_of_allBlank (hw : AllBlank w) (hne : w ≠ []) :
    tagName (w ++ piece) = [] := by
  cases w with
  | nil => exact absurd rfl hne
  | cons c w =>
    have hc : c ≠ '<' := by
      rintro rfl
      exact absurd (hw _ List.mem_cons_self) (by decide)
    unfold tagName
    split
    · next heq => exact absurd (List.cons.inj heq).1 hc
    · next heq => exact absurd (List.cons.inj heq).1 hc
    · rfl

end MarkupLayout
