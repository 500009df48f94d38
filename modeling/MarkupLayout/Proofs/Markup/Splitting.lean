import Mathlib.Data.List.Chain
import MarkupLayout.Proofs.Markup.Cutting

/-!
# The one split of a line

The pieces of a document can be told from the line alone, without cutting it: they are the only
way to split the line into tags and texts such that no two texts are neighbours, no text in front
of a tag has an opening bracket and no text at the end begins a tag.
-/

namespace MarkupLayout
namespace Markup

variable {piece next gap tag tail : Text} {pieces parts : List Text}

/-- A tag has brackets at its ends, a character between them, and no closing bracket from its
third character to its last but one. -/
theorem isTag_iff :
    IsTag piece ↔ piece.head? = some '<' ∧ piece.getLast? = some '>' ∧ 3 ≤ piece.length ∧
      '>' ∉ (piece.drop 2).dropLast := by
  constructor
  · rintro ⟨c, body, hbody, rfl⟩
    refine ⟨rfl, ?_, by simp, by simpa using hbody⟩
    rw [← List.cons_append, ← List.cons_append, List.getLast?_concat]
  · rintro ⟨hhead, hlast, hlength, hinner⟩
    match piece with
    | [] => cases hhead
    | [_] => simp at hlength
    | [_, _] => simp at hlength
    | b :: c :: d :: rest =>
      obtain rfl : b = '<' := Option.some.inj hhead
      obtain ⟨body, hbody⟩ : ∃ body, d :: rest = body ++ ['>'] :=
        List.getLast?_eq_some_iff.mp (by simpa using hlast)
      rw [List.drop_succ_cons, List.drop_succ_cons, List.drop_zero, hbody,
        List.dropLast_concat] at hinner
      exact ⟨c, body, hinner, by rw [hbody]⟩

/-- Decided by the positions of the brackets. -/
instance (piece : Text) : Decidable (IsTag piece) := decidable_of_iff _ isTag_iff.symm

/-- Whether pieces are split as the pieces of a line are. A piece that is no tag is a text. -/
structure IsSplit (pieces : List Text) : Prop where
  /-- No piece is empty. -/
  ne_nil : ∀ piece ∈ pieces, piece ≠ []
  /-- No two texts are neighbours. -/
  isChain : pieces.IsChain fun piece next => IsTag piece ∨ IsTag next
  /-- A text that is not last has no opening bracket. -/
  not_mem : ∀ piece ∈ pieces.dropLast, IsTag piece ∨ '<' ∉ piece
  /-- A text that is last begins no tag. -/
  untagged : ∀ piece ∈ pieces.getLast?, IsTag piece ∨ Untagged piece

private theorem isSplit_nil : IsSplit [] := ⟨by simp, .nil, by simp, by simp⟩

private theorem isSplit_singleton_iff :
    IsSplit [piece] ↔ piece ≠ [] ∧ (IsTag piece ∨ Untagged piece) := by
  constructor
  · intro h
    exact ⟨h.ne_nil piece (List.mem_singleton.mpr rfl), h.untagged piece rfl⟩
  · rintro ⟨hne, hpiece⟩
    exact ⟨by simpa using hne, .singleton piece, by simp, by simpa using hpiece⟩

private theorem isSplit_cons_cons_iff :
    IsSplit (piece :: next :: pieces) ↔
      piece ≠ [] ∧ (IsTag piece ∨ '<' ∉ piece ∧ IsTag next) ∧ IsSplit (next :: pieces) := by
  constructor
  · intro h
    obtain ⟨hne, hrest⟩ := List.forall_mem_cons.mp h.ne_nil
    obtain ⟨hpair, hchain⟩ := List.isChain_cons_cons.mp h.isChain
    obtain ⟨hpiece, hgaps⟩ := List.forall_mem_cons.mp h.not_mem
    refine ⟨hne, or_and_left.mpr ⟨hpiece, hpair⟩, hrest, hchain, hgaps, ?_⟩
    intro last hl
    exact h.untagged last (by rwa [List.getLast?_cons_cons])
  · rintro ⟨hne, hpiece, h⟩
    obtain ⟨hgap, hpair⟩ := or_and_left.mp hpiece
    exact ⟨List.forall_mem_cons.mpr ⟨hne, h.ne_nil⟩, .cons_cons hpair h.isChain,
      List.forall_mem_cons.mpr ⟨hgap, h.not_mem⟩, by
        intro last hl
        exact h.untagged last (by rwa [List.getLast?_cons_cons] at hl)⟩

private theorem IsSplit.of_cons (h : IsSplit (piece :: pieces)) : IsSplit pieces := by
  cases pieces with
  | nil => exact isSplit_nil
  | cons next pieces => exact (isSplit_cons_cons_iff.mp h).2.2

private theorem IsSplit.cons_isTag (htag : IsTag tag) (h : IsSplit pieces) :
    IsSplit (tag :: pieces) := by
  have hne : tag ≠ [] := by
    obtain ⟨t, rfl⟩ := htag.exists_eq_cons
    exact List.cons_ne_nil _ _
  cases pieces with
  | nil => exact isSplit_singleton_iff.mpr ⟨hne, .inl htag⟩
  | cons next pieces => exact isSplit_cons_cons_iff.mpr ⟨hne, .inl htag, h⟩

private theorem Paired.isSplit_filter (h : Paired parts) (htail : Untagged tail) :
    IsSplit ((parts ++ [tail]).filter fun part => !part.isEmpty) := by
  induction h with
  | nil =>
    cases tail with
    | nil => exact isSplit_nil
    | cons c tail => exact isSplit_singleton_iff.mpr ⟨List.cons_ne_nil _ _, .inr htail⟩
  | @cons gap tag parts hgap htag _ ih =>
    have hsplit := ih.cons_isTag htag
    obtain ⟨t, rfl⟩ := htag.exists_eq_cons
    cases gap with
    | nil => exact hsplit
    | cons c gap =>
      exact isSplit_cons_cons_iff.mpr ⟨List.cons_ne_nil _ _, .inr ⟨hgap, htag⟩, hsplit⟩

/-- The pieces of a document are split as the pieces of a line are. -/
theorem isSplit_pieces (document : Text) : IsSplit (Markup.pieces document) := by
  obtain ⟨parts, tail, hparts, htail, hcut⟩ := exists_cut_eq document.singleLine
  rw [Markup.pieces, hcut]
  exact hparts.isSplit_filter htail

/-- Split pieces are texts and tags in turn and a text that begins no tag, the empty texts left
out. -/
theorem IsSplit.exists_paired : ∀ {pieces : List Text}, IsSplit pieces →
    ∃ parts tail, Paired parts ∧ Untagged tail ∧
      pieces = (parts ++ [tail]).filter fun part => !part.isEmpty
  | [], _ => ⟨[], [], .nil, untagged_of_not_mem List.not_mem_nil, rfl⟩
  | [piece], h => by
    obtain ⟨hne, htag | htail⟩ := isSplit_singleton_iff.mp h
    · refine ⟨[[], piece], [], .cons List.not_mem_nil htag .nil,
        untagged_of_not_mem List.not_mem_nil, ?_⟩
      simp [hne]
    · exact ⟨[], piece, .nil, htail, by simp [hne]⟩
  | piece :: next :: pieces, h => by
    obtain ⟨hne, htag | ⟨hgap, htag⟩, hsplit⟩ := isSplit_cons_cons_iff.mp h
    · obtain ⟨parts, tail, hparts, htail, heq⟩ := exists_paired hsplit
      refine ⟨[] :: piece :: parts, tail, .cons List.not_mem_nil htag hparts, htail, ?_⟩
      simp [hne, heq]
    · obtain ⟨parts, tail, hparts, htail, heq⟩ := exists_paired hsplit.of_cons
      obtain ⟨t, rfl⟩ := htag.exists_eq_cons
      refine ⟨piece :: _ :: parts, tail, .cons hgap htag hparts, htail, ?_⟩
      simp [hne, heq]

/-- The pieces of a document are the only split of its line. -/
theorem eq_pieces_iff (document : Text) (pieces : List Text) :
    pieces = Markup.pieces document ↔ pieces.flatten = document.singleLine ∧ IsSplit pieces := by
  constructor
  · rintro rfl
    exact ⟨flatten_pieces document, isSplit_pieces document⟩
  · rintro ⟨hflatten, hsplit⟩
    obtain ⟨parts, tail, hparts, htail, rfl⟩ := hsplit.exists_paired
    have hcut := hparts.cut_append_untagged htail
    rw [List.flatten_filter_not_isEmpty, List.flatten_append, List.flatten_singleton] at hflatten
    rw [Markup.pieces, ← hflatten, hcut]

/-- A closing bracket right behind the opening one does not end a tag. -/
example : Markup.pieces "a<>b>c<>".toList = ["a".toList, "<>b>".toList, "c<>".toList] ∧
    IsTag "<>b>".toList ∧ ¬ IsTag "<>".toList := by decide

end Markup
end MarkupLayout
