import MarkupLayout.Markup.Token
import MarkupLayout.Proofs.Markup.Cutting

/-!
# Pieces of joined documents

A document that ends with a tag keeps its pieces whatever follows it, since no bracket is left
open at its end. Blanks in front of a document that begins with a tag become a piece of their own.
Whether a piece is a tag shows at its ends: a text with brackets there would have been cut.
-/

namespace MarkupLayout
namespace Markup

open Text

variable {document blanks piece : Text} {parts : List Text}

/-- Whether a piece has the brackets of a tag at its ends and something between them. -/
def TagShaped (piece : Text) : Prop :=
  piece.head? = some '<' ∧ piece.getLast? = some '>' ∧ 3 ≤ piece.length

/-- Decided by the two ends and the length. -/
instance (piece : Text) : Decidable (TagShaped piece) :=
  inferInstanceAs (Decidable (_ ∧ _ ∧ _))

/-! ### Tags by their shape -/

private theorem TagShaped.not_untagged (h : TagShaped piece) : ¬ Untagged piece := by
  obtain ⟨hhead, hlast, hlength⟩ := h
  match piece with
  | [] => cases hhead
  | [_] => simp at hlength
  | [_, _] => simp at hlength
  | b :: c :: d :: rest =>
    obtain rfl : b = '<' := Option.some.inj hhead
    rw [← List.nil_append ('<' :: _), untagged_append_cons_iff List.not_mem_nil, not_not]
    apply List.mem_of_getLast?
    simpa using hlast

private theorem Paired.isTag_or_not_mem (h : Paired parts) :
    ∀ part ∈ parts, IsTag part ∨ '<' ∉ part := by
  induction h with
  | nil => simp
  | cons hgap htag _ ih =>
    intro part hpart
    simp only [List.mem_cons] at hpart
    rcases hpart with rfl | rfl | hpart
    · exact .inr hgap
    · exact .inl htag
    · exact ih part hpart

/-- A piece of a document is a tag or begins none. -/
theorem isTag_or_untagged (h : piece ∈ pieces document) : IsTag piece ∨ Untagged piece := by
  obtain ⟨parts, tail, hparts, htail, hcut⟩ := exists_cut_eq document.singleLine
  have hpart : piece ∈ parts ++ [tail] := by
    rw [← hcut]
    exact (List.mem_filter.mp h).1
  simp only [List.mem_append, List.mem_singleton] at hpart
  rcases hpart with hpart | rfl
  · exact (hparts.isTag_or_not_mem piece hpart).imp_right untagged_of_not_mem
  · exact .inr htail

/-- A piece in the shape of a tag is a tag. -/
theorem TagShaped.isTag (hshape : TagShaped piece) (h : piece ∈ pieces document) : IsTag piece :=
  (isTag_or_untagged h).resolve_right hshape.not_untagged

/-! ### Behind a tag -/

private theorem exists_cut_eq_of_getLast? (h : ∀ piece ∈ (pieces document).getLast?, IsTag piece) :
    ∃ parts, Paired parts ∧ cut .text document.singleLine = parts ++ [[]] := by
  obtain ⟨parts, tail, hparts, htail, hcut⟩ := exists_cut_eq document.singleLine
  have hnil : tail = [] := by
    by_contra hne
    apply not_isTag_of_untagged htail
    apply h
    rw [pieces, hcut, List.filter_append, List.filter_cons_of_pos (by simpa using hne),
      List.filter_nil, List.getLast?_concat]
    rfl
  exact ⟨parts, hparts, hnil ▸ hcut⟩

/-- Behind a tag, or behind nothing, a document is split as it is alone. -/
theorem pieces_append (h : ∀ piece ∈ (pieces document).getLast?, IsTag piece) (behind : Text) :
    pieces (document ++ behind) = pieces document ++ pieces behind := by
  obtain ⟨parts, hparts, hcut⟩ := exists_cut_eq_of_getLast? h
  have hline : document.singleLine = parts.flatten := by
    rw [← flatten_cut .text document.singleLine, hcut]
    simp
  rw [pieces, singleLine_append, hline, hparts.cut_append, pieces, hcut]
  simp [pieces]

/-- Behind a tag, or behind nothing, a document has the tokens that it has alone. -/
theorem tokens_append (h : ∀ piece ∈ (pieces document).getLast?, IsTag piece) (behind : Text) :
    tokens (document ++ behind) = tokens document ++ tokens behind := by
  rw [tokens, pieces_append h, List.map_append]
  rfl

/-! ### Blanks in front of a tag -/

private theorem exists_cut_eq_cons (t : Text) :
    ∃ gap parts, Untagged gap ∧ cut .text t = gap :: parts := by
  obtain ⟨parts, tail, hparts, htail, hcut⟩ := exists_cut_eq t
  cases hparts with
  | nil => exact ⟨tail, [], htail, hcut⟩
  | cons hgap _ _ => exact ⟨_, _, untagged_of_not_mem hgap, hcut⟩

/-- Blanks in front of a tag, or of nothing, are pieces of their own. -/
theorem exists_pieces_append_eq (hblanks : AllBlank blanks)
    (h : ∀ piece ∈ (pieces document).head?, IsTag piece) :
    ∃ front, (∀ piece ∈ front, AllBlank piece) ∧
      pieces (blanks ++ document) = front ++ pieces document := by
  obtain ⟨gap, parts, hgap, hcut⟩ := exists_cut_eq_cons document.singleLine
  have hnil : gap = [] := by
    by_contra hne
    apply not_isTag_of_untagged hgap
    apply h
    rw [pieces, hcut, List.filter_cons_of_pos (by simpa using hne)]
    rfl
  have hline : AllBlank blanks.singleLine := allBlank_singleLine.mpr hblanks
  refine ⟨[blanks.singleLine].filter fun piece => !piece.isEmpty, ?_, ?_⟩
  · intro piece hpiece
    obtain rfl := List.mem_singleton.mp (List.mem_filter.mp hpiece).1
    exact hline
  · rw [pieces, singleLine_append, cut_text_append (not_mem_of_allBlank hline) hcut, pieces, hcut,
      hnil, List.append_nil, ← List.singleton_append, List.filter_append]
    rfl

end Markup
end MarkupLayout
