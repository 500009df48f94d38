import MarkupLayout.Markup.Piece
import MarkupLayout.Proofs.Text.Squeezing

/-!
# Where a line is cut

Cutting a line gives texts and tags in turn and a text at the end, all of which may be empty but
the tags. The texts before tags have no opening bracket and the last one begins no tag. These
properties determine the parts: any texts and tags in turn are what their joined line is cut into.
-/

namespace MarkupLayout
namespace Text

variable {t u : Text}

/-- Whether a text has neither line ends nor tabs. -/
def OneLine (t : Text) : Prop := ∀ c ∈ t, c ≠ '\n' ∧ c ≠ '\r' ∧ c ≠ '\t'

/-- Parts and thinned texts of a line are lines. -/
theorem OneLine.sublist (h : OneLine u) (hs : t.Sublist u) : OneLine t :=
  fun c hc => h c (hs.subset hc)

/-- A document is put on one line part by part. -/
theorem singleLine_append (t u : Text) : singleLine (t ++ u) = singleLine t ++ singleLine u := by
  rw [singleLine, List.filter_append, List.map_append]
  rfl

/-- A document on one line has neither line ends nor tabs. -/
theorem oneLine_singleLine (t : Text) : OneLine (singleLine t) := by
  intro c hc
  obtain ⟨d, hd, rfl⟩ := List.mem_map.mp hc
  have hline := (List.mem_filter.mp hd).2
  simp only [Bool.and_eq_true, decide_eq_true_eq] at hline
  split
  · decide
  · next htab => exact ⟨hline.1, hline.2, htab⟩

/-- A line stays as it is. -/
theorem singleLine_of_oneLine (h : OneLine t) : singleLine t = t := by
  have hf : t.filter (fun c => c ≠ '\n' && c ≠ '\r') = t := by
    apply List.filter_eq_self.mpr
    intro c hc
    simp only [ne_eq, (h c hc).1, (h c hc).2.1, not_false_eq_true, decide_true, Bool.and_self]
  rw [singleLine, hf]
  refine (List.map_congr_left fun c hc => ?_).trans t.map_id
  rw [if_neg (h c hc).2.2, id]

/-- Putting a document on one line takes no ink. -/
@[simp] theorem ink_singleLine (t : Text) : ink (singleLine t) = ink t := by
  induction t with
  | nil => rfl
  | cons c t ih =>
    rw [← List.singleton_append, singleLine_append, ink_append, ink_append, ih]
    congr 1
    by_cases hn : c = '\n'
    · subst hn; decide
    · by_cases hr : c = '\r'
      · subst hr; decide
      · by_cases ht : c = '\t'
        · subst ht; decide
        · rw [singleLine_of_oneLine]
          intro d hd
          obtain rfl := List.mem_singleton.mp hd
          exact ⟨hn, hr, ht⟩

/-- A document on one line has only blanks if the document has. -/
theorem allBlank_singleLine : AllBlank (singleLine t) ↔ AllBlank t := by
  rw [← ink_eq_nil_iff, ink_singleLine, ink_eq_nil_iff]

end Text

namespace Markup

open Text

variable {t u w gap tag : Text} {parts : List Text}

/-- Whether a piece is a tag: an opening bracket, one character or more, and the first closing
bracket behind the first of them. -/
def IsTag (piece : Text) : Prop := ∃ c body, '>' ∉ body ∧ piece = '<' :: c :: (body ++ ['>'])

/-- Whether a text begins no tag: no closing bracket stands two places or more behind its first
opening bracket. -/
def Untagged (t : Text) : Prop := '>' ∉ (t.dropWhile (· ≠ '<')).drop 2

/-- Texts without an opening bracket and tags, in turn. -/
inductive Paired : List Text → Prop
  | nil : Paired []
  | cons {gap tag : Text} {parts : List Text} (hgap : '<' ∉ gap) (htag : IsTag tag)
      (hparts : Paired parts) : Paired (gap :: tag :: parts)

/-! ### Texts without tags -/

/-- Only what follows the first opening bracket matters. -/
theorem untagged_append_cons_iff (h : '<' ∉ gap) :
    Untagged (gap ++ '<' :: t) ↔ '>' ∉ t.drop 1 := by
  have hgap : ∀ c ∈ gap, decide (c ≠ '<') = true := by
    intro c hc
    exact decide_eq_true fun he => h (he ▸ hc)
  rw [Untagged, List.dropWhile_append_of_pos hgap, List.dropWhile_cons_of_neg (by decide),
    List.drop_succ_cons]

/-- A text without an opening bracket begins no tag. -/
theorem untagged_of_not_mem (h : '<' ∉ t) : Untagged t := by
  have ht : t.dropWhile (· ≠ '<') = [] := by
    apply List.dropWhile_eq_nil_iff.mpr
    intro c hc
    exact decide_eq_true fun he => h (he ▸ hc)
  rw [Untagged, ht]
  exact List.not_mem_nil

/-- A text that begins no tag has no opening bracket or a first one. -/
theorem exists_of_mem_bracket (h : '<' ∈ t) : ∃ gap u, '<' ∉ gap ∧ t = gap ++ '<' :: u := by
  obtain ⟨gap, u, ht, hgap⟩ := List.eq_append_cons_of_mem h
  exact ⟨gap, u, hgap, ht⟩

/-- Blanks are no opening brackets. -/
theorem not_mem_of_allBlank (h : AllBlank w) : '<' ∉ w := h.not_mem (by decide)

/-- What stands in front of the first opening bracket does not matter. -/
theorem untagged_append_iff (h : '<' ∉ gap) : Untagged (gap ++ t) ↔ Untagged t := by
  by_cases ht : '<' ∈ t
  · obtain ⟨front, u, hfront, rfl⟩ := exists_of_mem_bracket ht
    have hm : '<' ∉ gap ++ front := by simp [h, hfront]
    rw [← List.append_assoc, untagged_append_cons_iff hm, untagged_append_cons_iff hfront]
  · have hm : '<' ∉ gap ++ t := by simp [h, ht]
    exact iff_of_true (untagged_of_not_mem hm) (untagged_of_not_mem ht)

private theorem Untagged.of_append (h : Untagged (t ++ u)) : Untagged t := by
  by_cases ht : '<' ∈ t
  · obtain ⟨gap, v, hgap, rfl⟩ := exists_of_mem_bracket ht
    rw [List.append_assoc, List.cons_append, untagged_append_cons_iff hgap] at h
    rw [untagged_append_cons_iff hgap]
    intro hm
    apply h
    rw [List.drop_append]
    exact List.mem_append_left _ hm
  · exact untagged_of_not_mem ht

/-- Trimming a text that begins no tag from the right makes no tag. -/
theorem Untagged.trimRight (h : Untagged t) : Untagged t.trimRight := by
  obtain ⟨w, -, ht⟩ := exists_eq_trimRight_append t
  exact Untagged.of_append (ht ▸ h)

/-- Trimming a text that begins no tag makes no tag. -/
theorem Untagged.trim (h : Untagged t) : Untagged t.trim := by
  obtain ⟨w, hw, ht⟩ := exists_eq_append_trimLeft t
  rw [ht, untagged_append_iff (not_mem_of_allBlank hw)] at h
  exact h.trimRight

/-- Squeezing a text that begins no tag makes no tag. -/
theorem Untagged.squeeze (h : Untagged t) : Untagged t.squeeze := by
  by_cases ht : '<' ∈ t
  · obtain ⟨gap, u, hgap, rfl⟩ := exists_of_mem_bracket ht
    have hs : '<' ∉ squeezeFrom false gap := mt (fun hm => (squeezeFrom_sublist _ _).subset hm) hgap
    rw [untagged_append_cons_iff hgap] at h
    rw [Text.squeeze, squeezeFrom_append_cons (by decide), untagged_append_cons_iff hs]
    cases u with
    | nil => exact List.not_mem_nil
    | cons c u =>
      rw [squeezeFrom_cons_of_kept rfl]
      exact mt (fun hm => (squeezeFrom_sublist _ _).subset hm) h
  · exact untagged_of_not_mem (mt (fun hm => (squeeze_sublist t).subset hm) ht)

/-! ### Tags -/

/-- A tag begins with an opening bracket. -/
theorem IsTag.exists_eq_cons (h : IsTag tag) : ∃ t, tag = '<' :: t := by
  obtain ⟨c, body, -, rfl⟩ := h
  exact ⟨_, rfl⟩

/-- A tag has ink. -/
theorem IsTag.not_allBlank (h : IsTag tag) : ¬ AllBlank tag := by
  obtain ⟨t, rfl⟩ := h.exists_eq_cons
  exact fun hb => absurd (allBlank_cons.mp hb).1 (by decide)

/-- A text that begins no tag is none. -/
theorem not_isTag_of_untagged (h : Untagged t) : ¬ IsTag t := by
  rintro ⟨c, body, -, rfl⟩
  rw [← List.nil_append ('<' :: _), untagged_append_cons_iff List.not_mem_nil] at h
  exact h (List.mem_append_right _ List.mem_cons_self)

/-- Tags begin and end with ink. -/
@[simp] theorem IsTag.trim_eq (h : IsTag tag) : tag.trim = tag := by
  obtain ⟨c, body, -, rfl⟩ := h
  have hlast : trimRight ['>'] = ['>'] := by decide
  have hink : ¬ AllBlank ['>'] := by decide
  rw [trim_cons_of_ink (by decide), ← List.cons_append, trimRight_append_of_not_allBlank hink,
    hlast]

/-- Texts and tags in turn end with a tag. -/
theorem Paired.eq_nil_or_concat (h : Paired parts) :
    parts = [] ∨ ∃ front tag, IsTag tag ∧ parts = front ++ [tag] := by
  induction h with
  | nil => exact .inl rfl
  | @cons gap tag parts _ htag _ ih =>
    obtain rfl | ⟨front, last, hlast, rfl⟩ := ih
    · exact .inr ⟨[gap], tag, htag, rfl⟩
    · exact .inr ⟨gap :: tag :: front, last, hlast, rfl⟩

/-- Every text begins no tag or can be split at its first tag. -/
theorem untagged_or_exists_tag (t : Text) :
    Untagged t ∨ ∃ gap tag u, '<' ∉ gap ∧ IsTag tag ∧ t = gap ++ (tag ++ u) := by
  by_cases ht : '<' ∈ t
  · obtain ⟨gap, u, hgap, rfl⟩ := exists_of_mem_bracket ht
    rw [untagged_append_cons_iff hgap]
    by_cases hu : '>' ∈ u.drop 1
    · obtain ⟨body, v, hv, hbody⟩ := List.eq_append_cons_of_mem hu
      cases u with
      | nil => cases hu
      | cons c u =>
        change u = body ++ '>' :: v at hv
        refine .inr ⟨gap, '<' :: c :: (body ++ ['>']), v, hgap, ⟨c, body, hbody, rfl⟩, ?_⟩
        simp [hv]
    · exact .inl hu
  · exact .inl (untagged_of_not_mem ht)

/-! ### Cutting -/

/-- The pieces of a document have neither line ends nor tabs. -/
theorem oneLine_of_mem_pieces {document piece : Text} (h : piece ∈ pieces document) :
    OneLine piece := by
  apply (oneLine_singleLine document).sublist
  rw [← flatten_pieces]
  exact List.sublist_flatten_of_mem h

/-- The pieces of a document are all blank if the document is. -/
theorem forall_allBlank_pieces {document : Text} :
    (∀ piece ∈ pieces document, AllBlank piece) ↔ AllBlank document := by
  rw [← allBlank_singleLine, ← flatten_pieces]
  exact List.forall_mem_flatten.symm

/-- A text in front of the first opening bracket becomes a part of the first text. -/
theorem cut_text_append (hgap : '<' ∉ gap) (h : cut .text t = u :: parts) :
    cut .text (gap ++ t) = (gap ++ u) :: parts := by
  induction gap with
  | nil => exact h
  | cons c gap ih =>
    have hc : c ≠ '<' := fun he => hgap (he ▸ List.mem_cons_self)
    rw [List.cons_append, cut, if_neg hc, ih (mt (List.mem_cons_of_mem _) hgap)]
    rfl

/-- A text that begins no tag is not cut. -/
theorem cut_of_untagged (h : Untagged t) : cut .text t = [t] := by
  by_cases ht : '<' ∈ t
  · obtain ⟨gap, u, hgap, rfl⟩ := exists_of_mem_bracket ht
    have hopens : opensTag u = false := decide_eq_false ((untagged_append_cons_iff hgap).mp h)
    apply cut_text_append hgap
    rw [cut, if_pos rfl, hopens]
    rfl
  · have hcut := cut_text_append (t := []) ht rfl
    rwa [List.append_nil] at hcut

private theorem cut_tag_append (h : '>' ∉ t) :
    cut .tag (t ++ '>' :: u) = (t ++ ['>']) :: cut .text u := by
  induction t with
  | nil => rw [List.nil_append, cut, if_pos rfl]; rfl
  | cons c t ih =>
    have hc : c ≠ '>' := fun he => h (he ▸ List.mem_cons_self)
    rw [List.cons_append, cut, if_neg hc, ih (mt (List.mem_cons_of_mem _) h)]
    rfl

private theorem cut_isTag_append (h : IsTag tag) (t : Text) :
    cut .text (tag ++ t) = [] :: tag :: cut .text t := by
  obtain ⟨c, body, hbody, rfl⟩ := h
  have hopens : opensTag (c :: (body ++ '>' :: t)) = true := by
    apply decide_eq_true
    exact List.mem_append_right _ List.mem_cons_self
  simp only [List.cons_append, List.append_assoc, List.nil_append]
  rw [cut, if_pos rfl, if_pos hopens, cut, cut_tag_append hbody]
  rfl

/-- Texts and tags in turn are cut off as they are. -/
theorem Paired.cut_append (h : Paired parts) (t : Text) :
    cut .text (parts.flatten ++ t) = parts ++ cut .text t := by
  induction h with
  | nil => rfl
  | @cons gap tag parts hgap htag _ ih =>
    rw [List.flatten_cons, List.flatten_cons, List.append_assoc, List.append_assoc,
      cut_text_append hgap (cut_isTag_append htag _), ih, List.append_nil]
    rfl

/-- Texts and tags in turn and a text that begins no tag are what their line is cut into. -/
theorem Paired.cut_append_untagged (h : Paired parts) (ht : Untagged t) :
    cut .text (parts.flatten ++ t) = parts ++ [t] := by
  rw [h.cut_append, cut_of_untagged ht]

/-- Every line is cut into texts and tags in turn and a text that begins no tag. -/
theorem exists_cut_eq (t : Text) :
    ∃ parts tail, Paired parts ∧ Untagged tail ∧ cut .text t = parts ++ [tail] := by
  induction hn : t.length using Nat.strongRecOn generalizing t with
  | ind n ih =>
    obtain ht | ⟨gap, tag, u, hgap, htag, rfl⟩ := untagged_or_exists_tag t
    · exact ⟨[], t, .nil, ht, cut_of_untagged ht⟩
    · obtain ⟨_, rfl⟩ := htag.exists_eq_cons
      have hlt : u.length < n := by
        subst hn
        simp only [List.length_append, List.length_cons]
        omega
      obtain ⟨parts, tail, hparts, htail, hcut⟩ := ih _ hlt u rfl
      refine ⟨gap :: _ :: parts, tail, .cons hgap htag hparts, htail, ?_⟩
      rw [cut_text_append hgap (cut_isTag_append htag u), hcut, List.append_nil]
      rfl

end Markup
end MarkupLayout
