import Mathlib.Data.List.TakeWhile
import MarkupLayout.Text.Blank

/-!
# Trimming, ink and words

Trimming takes blanks from the ends of a text and nothing else. The ink of a text is what it has
besides blanks, its words are the longest runs of ink; both survive trimming, and both are empty
for exactly the texts of blanks.
-/

namespace MarkupLayout
namespace Text

/-- Whether a text has only blanks. -/
def AllBlank (t : Text) : Prop := ∀ c ∈ t, isBlank c = true

/-- Decided character by character. -/
instance (t : Text) : Decidable t.AllBlank :=
  List.decidableBAll (isBlank · = true) t

/-- The characters of a text that are not blank, in order. -/
def ink (t : Text) : Text := t.filter fun c => !isBlank c

/-- The longest runs of characters that are not blank, in order. -/
def words (t : Text) : List Text := (t.splitOnP isBlank).filter fun word => !word.isEmpty

variable {t u w : Text} {c : Char}

/-! ### Texts of blanks -/

/-- The empty text has only blanks. -/
@[simp] theorem allBlank_nil : AllBlank [] := by
  intro c hc
  cases hc

/-- A text has only blanks if its first character and the rest have. -/
@[simp] theorem allBlank_cons : AllBlank (c :: t) ↔ isBlank c = true ∧ AllBlank t :=
  List.forall_mem_cons

/-- A joined text has only blanks if both parts have. -/
@[simp] theorem allBlank_append : AllBlank (t ++ u) ↔ AllBlank t ∧ AllBlank u :=
  List.forall_mem_append

/-- A text that has only blanks has no ink in it. -/
theorem AllBlank.not_mem (h : AllBlank t) (hc : isBlank c = false) : c ∉ t := by
  intro hmem
  rw [h c hmem] at hc
  cases hc

/-- Some character of ink ends the blanks at the beginning of a text that has any ink. -/
theorem exists_of_not_allBlank (h : ¬ AllBlank t) :
    ∃ w c u, AllBlank w ∧ isBlank c = false ∧ t = w ++ c :: u := by
  induction t with
  | nil => exact absurd allBlank_nil h
  | cons d t ih =>
    by_cases hd : isBlank d = true
    · obtain ⟨w, c, u, hw, hc, rfl⟩ := ih fun ht => h (allBlank_cons.mpr ⟨hd, ht⟩)
      exact ⟨d :: w, c, u, allBlank_cons.mpr ⟨hd, hw⟩, hc, rfl⟩
    · exact ⟨[], d, t, allBlank_nil, by simpa using hd, rfl⟩

/-! ### Trimming one end -/

/-- Exactly the texts of blanks trim to nothing from the left. -/
theorem trimLeft_eq_nil_iff : trimLeft t = [] ↔ AllBlank t := List.dropWhile_eq_nil_iff

/-- Exactly the texts of blanks trim to nothing from the right. -/
theorem trimRight_eq_nil_iff : trimRight t = [] ↔ AllBlank t := by
  rw [trimRight, List.reverse_eq_nil_iff, List.dropWhile_eq_nil_iff]
  simp only [List.mem_reverse, AllBlank]

/-- Blanks in front do not matter to trimming from the left. -/
theorem trimLeft_append_of_allBlank (h : AllBlank w) : trimLeft (w ++ t) = trimLeft t :=
  List.dropWhile_append_of_pos h

/-- Blanks at the end do not matter to trimming from the right. -/
theorem trimRight_append_of_allBlank (h : AllBlank w) : trimRight (t ++ w) = trimRight t := by
  rw [trimRight, List.reverse_append, List.dropWhile_append_of_pos (by simpa [AllBlank] using h)]
  rfl

/-- Trimming from the left stops at the first character of ink. -/
theorem trimLeft_cons_of_ink (h : isBlank c = false) : trimLeft (c :: t) = c :: t :=
  List.dropWhile_cons_of_neg (by simp [h])

/-- Trimming from the left does not go beyond a part with ink. -/
theorem trimLeft_append_of_not_allBlank (h : ¬ AllBlank t) :
    trimLeft (t ++ u) = trimLeft t ++ u := by
  have ht : trimLeft t ≠ [] := mt trimLeft_eq_nil_iff.mp h
  rw [trimLeft, List.dropWhile_append, if_neg (by simpa [trimLeft] using ht)]
  rfl

/-- Trimming from the right does not go beyond a part with ink. -/
theorem trimRight_append_of_not_allBlank (h : ¬ AllBlank u) :
    trimRight (t ++ u) = t ++ trimRight u := by
  have hu : u.reverse.dropWhile isBlank ≠ [] := by
    intro he
    exact h (trimRight_eq_nil_iff.mp (by rw [trimRight, he, List.reverse_nil]))
  rw [trimRight, List.reverse_append, List.dropWhile_append, if_neg (by simpa using hu),
    List.reverse_append, List.reverse_reverse]
  rfl

/-- Trimming from the right keeps the first character if there is ink from there on. -/
theorem trimRight_cons (c : Char) (t : Text) :
    trimRight (c :: t) = if AllBlank (c :: t) then [] else c :: trimRight t := by
  split
  · next h => exact trimRight_eq_nil_iff.mpr h
  · next h =>
    by_cases ht : AllBlank t
    · have hc : isBlank c = false := by
        by_contra hc
        exact h (allBlank_cons.mpr ⟨by simpa using hc, ht⟩)
      rw [show c :: t = [c] ++ t from rfl, trimRight_append_of_allBlank ht,
        trimRight_eq_nil_iff.mpr ht]
      simp [trimRight, hc]
    · exact trimRight_append_of_not_allBlank (t := [c]) ht

/-- What trimming from the left takes away is blank. -/
theorem exists_eq_append_trimLeft (t : Text) : ∃ w, AllBlank w ∧ t = w ++ trimLeft t :=
  ⟨t.takeWhile isBlank, fun _ hc => List.mem_takeWhile_imp hc,
    (List.takeWhile_append_dropWhile).symm⟩

/-- What trimming from the right takes away is blank. -/
theorem exists_eq_trimRight_append (t : Text) : ∃ w, AllBlank w ∧ t = trimRight t ++ w := by
  obtain ⟨w, hw, ht⟩ := exists_eq_append_trimLeft t.reverse
  refine ⟨w.reverse, by simpa [AllBlank] using hw, ?_⟩
  rw [trimRight, ← List.reverse_append, ← trimLeft, ← ht, List.reverse_reverse]

/-- Exactly the texts of blanks trim to nothing. -/
theorem trim_eq_nil_iff : trim t = [] ↔ AllBlank t := by
  obtain ⟨w, hw, ht⟩ := exists_eq_append_trimLeft t
  have hblank : AllBlank t ↔ AllBlank w ∧ AllBlank (trimLeft t) := by rw [← allBlank_append, ← ht]
  rw [trim, trimRight_eq_nil_iff, hblank, and_iff_right hw]

/-- Trimming from the left once is enough. -/
@[simp] theorem trimLeft_trimLeft (t : Text) : trimLeft (trimLeft t) = trimLeft t := by
  obtain ⟨w, hw, ht⟩ := exists_eq_append_trimLeft t
  rw [← trimLeft_append_of_allBlank (t := trimLeft t) hw, ← ht]

/-- Trimming from the right once is enough. -/
@[simp] theorem trimRight_trimRight (t : Text) : trimRight (trimRight t) = trimRight t := by
  obtain ⟨w, hw, ht⟩ := exists_eq_trimRight_append t
  rw [← trimRight_append_of_allBlank (t := trimRight t) hw, ← ht]

/-- The two ends can be trimmed in either order. -/
theorem trimLeft_trimRight (t : Text) : trimLeft (trimRight t) = trim t := by
  by_cases h : AllBlank t
  · rw [trimRight_eq_nil_iff.mpr h, trim_eq_nil_iff.mpr h]
    rfl
  · obtain ⟨w, c, u, hw, hc, rfl⟩ := exists_of_not_allBlank h
    have hu : ¬ AllBlank (c :: u) := by simp [hc]
    rw [trimRight_append_of_not_allBlank hu, trim, trimLeft_append_of_allBlank hw,
      trimLeft_append_of_allBlank hw, trimLeft_cons_of_ink hc, trimRight_cons,
      if_neg hu, trimLeft_cons_of_ink hc]

/-- The texts that trimming from the left leaves alone are those that begin with ink, if they
begin at all. -/
theorem trimLeft_eq_self_iff : trimLeft t = t ↔ ∀ c ∈ t.head?, isBlank c = false := by
  cases t with
  | nil => simp [trimLeft]
  | cons d t =>
    simp only [List.head?_cons, Option.mem_some_iff, forall_eq']
    constructor
    · intro h
      by_contra hd
      have hdrop : trimLeft (d :: t) = trimLeft t := List.dropWhile_cons_of_pos (by simpa using hd)
      have hle : (trimLeft t).length ≤ t.length := (List.dropWhile_sublist isBlank).length_le
      rw [← hdrop, h, List.length_cons] at hle
      omega
    · exact trimLeft_cons_of_ink

/-- The texts that trimming from the right leaves alone are those that end with ink, if they end
at all. -/
theorem trimRight_eq_self_iff : trimRight t = t ↔ ∀ c ∈ t.getLast?, isBlank c = false := by
  rw [← List.head?_reverse, ← trimLeft_eq_self_iff, trimRight, trimLeft]
  exact List.reverse_eq_iff

/-! ### Trimming both ends -/

/-- Blanks in front do not matter to trimming. -/
theorem trim_append_of_allBlank_left (h : AllBlank w) : trim (w ++ t) = trim t := by
  rw [trim, trimLeft_append_of_allBlank h, trim]

/-- Blanks at the end do not matter to trimming. -/
theorem trim_append_of_allBlank_right (h : AllBlank w) : trim (t ++ w) = trim t := by
  rw [← trimLeft_trimRight, trimRight_append_of_allBlank h, trimLeft_trimRight]

/-- Trimming two parts with ink does not go beyond them. -/
theorem trim_append_of_not_allBlank (ht : ¬ AllBlank t) (hu : ¬ AllBlank u) :
    trim (t ++ u) = trimLeft t ++ trimRight u := by
  rw [trim, trimLeft_append_of_not_allBlank ht, trimRight_append_of_not_allBlank hu]

/-- Trimming from the right does nothing before trimming. -/
@[simp] theorem trim_trimRight (t : Text) : trim (trimRight t) = trim t := by
  rw [← trimLeft_trimRight, trimRight_trimRight, trimLeft_trimRight]

/-- A trimmed text has no blanks at its end. -/
@[simp] theorem trimRight_trim (t : Text) : trimRight (trim t) = trim t := by
  rw [trim, trimRight_trimRight]

/-- A trimmed text has no blanks in front. -/
@[simp] theorem trimLeft_trim (t : Text) : trimLeft (trim t) = trim t := by
  rw [← trimLeft_trimRight, trimLeft_trimLeft]

/-- Trimming once is enough. -/
@[simp] theorem trim_trim (t : Text) : trim (trim t) = trim t := by
  rw [trim, trimLeft_trim, trimRight_trim]

/-- A text that begins with ink and is trimmed from the right is trimmed. -/
theorem trim_cons_of_ink (h : isBlank c = false) : trim (c :: t) = c :: trimRight t := by
  rw [trim, trimLeft_cons_of_ink h, trimRight_cons, if_neg (by simp [h])]

/-- Trimming from the right takes characters away and moves none. -/
theorem trimRight_sublist (t : Text) : (trimRight t).Sublist t := by
  simpa [trimRight] using (List.dropWhile_sublist (l := t.reverse) isBlank).reverse

/-- Trimming takes characters away and moves none. -/
theorem trim_sublist (t : Text) : (trim t).Sublist t :=
  (trimRight_sublist _).trans (List.dropWhile_sublist _)

/-! ### Ink -/

/-- The ink of a joined text is that of its parts. -/
@[simp] theorem ink_append (t u : Text) : ink (t ++ u) = ink t ++ ink u :=
  List.filter_append ..

/-- The texts without ink are those of blanks. -/
theorem ink_eq_nil_iff : ink t = [] ↔ AllBlank t := by
  simp only [ink, List.filter_eq_nil_iff, Bool.not_eq_true', Bool.not_eq_false, AllBlank]

/-- Trimming from the right takes no ink. -/
@[simp] theorem ink_trimRight (t : Text) : ink (trimRight t) = ink t := by
  obtain ⟨w, hw, ht⟩ := exists_eq_trimRight_append t
  have h := congrArg ink ht
  rw [ink_append, ink_eq_nil_iff.mpr hw, List.append_nil] at h
  exact h.symm

/-- Trimming from the left takes no ink. -/
@[simp] theorem ink_trimLeft (t : Text) : ink (trimLeft t) = ink t := by
  obtain ⟨w, hw, ht⟩ := exists_eq_append_trimLeft t
  have h := congrArg ink ht
  rw [ink_append, ink_eq_nil_iff.mpr hw, List.nil_append] at h
  exact h.symm

/-- Trimming takes no ink. -/
@[simp] theorem ink_trim (t : Text) : ink (trim t) = ink t := by
  rw [trim, ink_trimRight, ink_trimLeft]

/-- A trimmed text has only blanks if the text has. -/
@[simp] theorem allBlank_trim : AllBlank (trim t) ↔ AllBlank t := by
  rw [← ink_eq_nil_iff, ink_trim, ink_eq_nil_iff]

/-! ### Words -/

/-- A blank separates the words before it from those behind it. -/
theorem words_append_cons (h : isBlank c = true) (t u : Text) :
    words (t ++ c :: u) = words t ++ words u := by
  rw [words, List.splitOnP_append_cons _ _ h, List.filter_append]
  rfl

/-- A text of blanks has no words. -/
theorem words_of_allBlank (h : AllBlank t) : words t = [] := by
  induction t with
  | nil => simp [words]
  | cons c t ih =>
    obtain ⟨hc, ht⟩ := allBlank_cons.mp h
    rw [← List.nil_append (c :: t), words_append_cons hc, ih ht]
    simp [words]

/-- Blanks in front do not matter to the words. -/
theorem words_append_of_allBlank_left (h : AllBlank w) : words (w ++ t) = words t := by
  induction w with
  | nil => rfl
  | cons c w ih =>
    obtain ⟨hc, hw⟩ := allBlank_cons.mp h
    rw [List.cons_append, ← List.nil_append (c :: _), words_append_cons hc, ih hw]
    simp [words]

/-- Blanks at the end do not matter to the words. -/
theorem words_append_of_allBlank_right (h : AllBlank w) : words (t ++ w) = words t := by
  cases w with
  | nil => rw [List.append_nil]
  | cons c w =>
    obtain ⟨hc, hw⟩ := allBlank_cons.mp h
    rw [words_append_cons hc, words_of_allBlank hw, List.append_nil]

/-- Trimming keeps the words. -/
@[simp] theorem words_trim (t : Text) : words (trim t) = words t := by
  obtain ⟨w, hw, ht⟩ := exists_eq_append_trimLeft t
  obtain ⟨w', hw', ht'⟩ := exists_eq_trimRight_append (trimLeft t)
  have h := congrArg words ht
  have h' := congrArg words ht'
  rw [words_append_of_allBlank_left hw] at h
  rw [words_append_of_allBlank_right hw'] at h'
  rw [trim, h, h']

end Text
end MarkupLayout
