import MarkupLayout.Proofs.Markup.Joining
import MarkupLayout.Proofs.Markup.Kinds
import MarkupLayout.Proofs.Markup.Splitting

/-!
# Shapes and kinds of pieces

A line is cut by its brackets, and the kind of a piece is read off the ends of the trimmed piece.
The two agree: no tag is text, and a piece that is no tag is text with two exceptions. A text that
ends with a slash and a closing bracket is taken for a tag of its own, and a text at the end of the
document that begins with a bracket for the tag that it has not finished.
-/

namespace MarkupLayout

open Text Markup

variable {document piece t : Text} {i : Nat}

namespace Markup

/-! ### Tags -/

private theorem IsTag.tagShaped (h : IsTag piece) : TagShaped piece := by
  obtain ⟨hhead, hlast, hlength, -⟩ := isTag_iff.mp h
  exact ⟨hhead, hlast, hlength⟩

private theorem isTag_of_mem_of_lt (h : (pieces document)[i]? = some piece) (hm : '<' ∈ piece)
    (hi : i + 1 < (pieces document).length) : IsTag piece := by
  have hdrop : (pieces document).dropLast[i]? = some piece := by
    rw [List.getElem?_dropLast, if_pos (by omega), h]
  have hpiece := (isSplit_pieces document).not_mem piece (List.mem_of_getElem? hdrop)
  exact hpiece.resolve_right fun hnone => hnone hm

/-! ### Texts that begin no tag -/

private theorem Untagged.not_mem_of_isSuffix (h : Untagged t) (hend : ['/', '>'] <:+ t) :
    '<' ∉ t := by
  obtain ⟨front, rfl⟩ := hend
  intro hm
  have hfront : '<' ∈ front := by simpa using hm
  obtain ⟨gap, u, hgap, rfl⟩ := exists_of_mem_bracket hfront
  rw [List.append_assoc, List.cons_append, untagged_append_cons_iff hgap] at h
  apply h
  cases u <;> simp

private theorem Untagged.ofPiece_of_isPrefix (h : Untagged piece) (hfront : ['<'] <+: piece.trim) :
    Kind.ofPiece piece ∈ [.comment, .closing, .opening] := by
  apply Kind.ofPiece_of_isPrefix hfront
  intro hend
  exact h.trim.not_mem_of_isSuffix hend (hfront.subset List.mem_cons_self)

/-- Before the last piece, only tags are comments, closing or opening tags. -/
theorem isTag_of_ofPiece_mem_of_lt (h : (pieces document)[i]? = some piece)
    (hkind : Kind.ofPiece piece ∈ [.comment, .closing, .opening])
    (hi : i + 1 < (pieces document).length) : IsTag piece := by
  have hm : '<' ∈ piece := by
    by_contra hnone
    obtain hk | hk := Kind.ofPiece_of_not_mem hnone
    all_goals
      rw [hk] at hkind
      exact absurd hkind (by decide)
  exact isTag_of_mem_of_lt h hm hi

/-- The brackets by which a document is cut and those by which its pieces are told apart agree. A
tag is trimmed and is not text. A piece that is no tag is text, but for one that ends with a slash
and a closing bracket and has no opening bracket, which is a tag of its own, and for the last one
if it shows an opening bracket in front, which is a comment, a closing or an opening tag. So a
piece before the last one is none of these three unless it is a tag. -/
theorem ofPiece_of_getElem?_pieces (h : (pieces document)[i]? = some piece) :
    (TagShaped piece ↔ IsTag piece) ∧
    (IsTag piece → piece.trim = piece ∧ Kind.ofPiece piece ≠ .text) ∧
    (¬ IsTag piece →
      (Kind.ofPiece piece = .text ∧ ¬ (['/', '>'] <:+ piece.trim ∧ '<' ∉ piece.trim) ∧
        ¬ (i + 1 = (pieces document).length ∧ ['<'] <+: piece.trim)) ∨
      (Kind.ofPiece piece = .standalone ∧ ['/', '>'] <:+ piece.trim ∧ '<' ∉ piece.trim) ∨
      (Kind.ofPiece piece ∈ [.comment, .closing, .opening] ∧
        i + 1 = (pieces document).length ∧ ['<'] <+: piece.trim)) ∧
    (Kind.ofPiece piece ∈ [.comment, .closing, .opening] → i + 1 < (pieces document).length →
      IsTag piece) := by
  have hmem : piece ∈ pieces document := List.mem_of_getElem? h
  have hi : i < (pieces document).length := (List.getElem?_eq_some_iff.mp h).1
  refine ⟨⟨fun hshape => hshape.isTag hmem, IsTag.tagShaped⟩,
    fun htag => ⟨htag.trim_eq, Kind.ofPiece_ne_text htag⟩, fun htag => ?_,
    isTag_of_ofPiece_mem_of_lt h⟩
  have huntagged : Untagged piece := (isTag_or_untagged hmem).resolve_left htag
  by_cases hfront : ['<'] <+: piece.trim
  · have hm : '<' ∈ piece := (trim_sublist piece).subset (hfront.subset List.mem_cons_self)
    have hlast : i + 1 = (pieces document).length := by
      by_contra hne
      exact htag (isTag_of_mem_of_lt h hm (by omega))
    exact .inr (.inr ⟨huntagged.ofPiece_of_isPrefix hfront, hlast, hfront⟩)
  · obtain ⟨hkind, hend⟩ | ⟨hkind, hend⟩ := Kind.ofPiece_of_not_isPrefix hfront
    · exact .inr (.inl ⟨hkind, hend, huntagged.trim.not_mem_of_isSuffix hend⟩)
    · exact .inl ⟨hkind, fun hboth => hend hboth.1, fun hboth => hfront hboth.2⟩

/-- A text that is taken for a tag of its own, a tag, and a closing tag that the end of the document
leaves unfinished. -/
theorem ofPiece_of_getElem?_pieces_unfinished :
    let pieces := pieces " x/> <p> </b".toList
    pieces[0]? = some " x/> ".toList ∧ pieces[1]? = some "<p>".toList ∧
      pieces[2]? = some " </b".toList ∧
      (¬ IsTag " x/> ".toList ∧ Kind.ofPiece " x/> ".toList = .standalone) ∧
      (IsTag "<p>".toList ∧ Kind.ofPiece "<p>".toList ≠ .text) ∧
      (¬ IsTag " </b".toList ∧ Kind.ofPiece " </b".toList = .closing ∧ 2 + 1 = pieces.length) := by
  intro pieces
  have hfirst : pieces[0]? = some " x/> ".toList := by decide
  have hsecond : pieces[1]? = some "<p>".toList := by decide
  have hlast : pieces[2]? = some " </b".toList := by decide
  have htext : ¬ IsTag " x/> ".toList := by decide
  have htag : IsTag "<p>".toList := by decide
  have hclosing : Kind.ofPiece " </b".toList = .closing := by decide
  have htail : ¬ IsTag " </b".toList := by
    intro h
    exact absurd ((ofPiece_of_getElem?_pieces hlast).2.1 h).1 (by decide)
  refine ⟨hfirst, hsecond, hlast, ⟨htext, ?_⟩,
    ⟨htag, ((ofPiece_of_getElem?_pieces hsecond).2.1 htag).2⟩, htail, hclosing, ?_⟩
  · obtain ⟨-, hnone, -⟩ | ⟨hkind, -⟩ | ⟨-, hend, -⟩ :=
      (ofPiece_of_getElem?_pieces hfirst).2.2.1 htext
    · exact absurd (by decide) hnone
    · exact hkind
    · exact absurd hend (by decide)
  · obtain ⟨hkind, -⟩ | ⟨hkind, -⟩ | ⟨-, hend, -⟩ :=
      (ofPiece_of_getElem?_pieces hlast).2.2.1 htail
    · exact absurd (hclosing.symm.trans hkind) (by decide)
    · exact absurd (hclosing.symm.trans hkind) (by decide)
    · exact hend

end Markup
end MarkupLayout
