import MarkupLayout.Proofs.Text.Trimming
import MarkupLayout.Text.Squeeze

/-!
# Laws of squeezing

Squeezing drops blanks only, joins no words, and commutes with trimming. Squeezed texts stay as
they are. Whether a text begins or ends with some given ink can be read off the squeezed text.
-/

namespace MarkupLayout
namespace Text

/-- What a text shows on a line of its own: it is squeezed and trimmed. -/
def shown (t : Text) : Text := t.squeeze.trim

variable {t u w : Text} {c : Char} {inRun : Bool}

private theorem isBlank_of_dropped (h : (c = ' ' || c = '\t') = true) : isBlank c = true := by
  simp only [Bool.or_eq_true, decide_eq_true_eq] at h
  rcases h with rfl | rfl <;> decide

/-- Reading on at a character that is kept. -/
theorem squeezeFrom_cons_of_kept (h : (inRun && (c = ' ' || c = '\t')) = false) :
    squeezeFrom inRun (c :: t) = c :: squeezeFrom (c = ' ') t := by
  rw [squeezeFrom, if_neg (by simp [h])]

private theorem squeezeFrom_cons_of_ink (h : isBlank c = false) :
    squeezeFrom inRun (c :: t) = c :: squeezeFrom false t := by
  have hc : (c = ' ' || c = '\t') = false := by
    by_contra hc
    rw [isBlank_of_dropped (eq_true_of_ne_false hc)] at h
    cases h
  have hs : decide (c = ' ') = false := (Bool.or_eq_false_iff.mp hc).1
  rw [squeezeFrom_cons_of_kept (by rw [hc, Bool.and_false]), hs]

/-- Squeezing takes characters away and moves none. -/
theorem squeezeFrom_sublist (inRun : Bool) (t : Text) : (squeezeFrom inRun t).Sublist t := by
  induction t generalizing inRun with
  | nil => exact List.Sublist.refl _
  | cons c t ih =>
    rw [squeezeFrom]
    split
    · exact (ih _).cons _
    · exact (ih _).cons_cons _

/-- Squeezing a whole text takes characters away and moves none. -/
theorem squeeze_sublist (t : Text) : (squeeze t).Sublist t := squeezeFrom_sublist false t

private theorem ink_squeezeFrom (inRun : Bool) (t : Text) : ink (squeezeFrom inRun t) = ink t := by
  induction t generalizing inRun with
  | nil => rfl
  | cons c t ih =>
    rw [squeezeFrom]
    split
    · next h =>
      have hc : isBlank c = true := isBlank_of_dropped (Bool.and_eq_true_iff.mp h).2
      rw [ih]
      simp [ink, hc]
    · rw [← List.singleton_append (l := squeezeFrom _ _), ink_append, ih, ← ink_append,
        List.singleton_append]

/-- Squeezing a whole text takes no ink. -/
@[simp] theorem ink_squeeze (t : Text) : ink (squeeze t) = ink t := ink_squeezeFrom false t

/-- A squeezed text has only blanks if the text has. -/
theorem allBlank_squeezeFrom : AllBlank (squeezeFrom inRun t) ↔ AllBlank t := by
  rw [← ink_eq_nil_iff, ink_squeezeFrom, ink_eq_nil_iff]

private theorem squeezeFrom_squeezeFrom (inRun : Bool) (t : Text) :
    squeezeFrom inRun (squeezeFrom inRun t) = squeezeFrom inRun t := by
  induction t generalizing inRun with
  | nil => rfl
  | cons c t ih =>
    cases h : inRun && (c = ' ' || c = '\t') with
    | true =>
      obtain rfl : inRun = true := (Bool.and_eq_true_iff.mp h).1
      rw [squeezeFrom, if_pos h]
      exact ih true
    | false => rw [squeezeFrom_cons_of_kept h, squeezeFrom_cons_of_kept h, ih]

/-- Squeezing a whole text once is enough. -/
@[simp] theorem squeeze_squeeze (t : Text) : squeeze (squeeze t) = squeeze t :=
  squeezeFrom_squeezeFrom false t

/-- A part before a character of ink is squeezed on its own. -/
theorem squeezeFrom_append_cons (h : isBlank c = false) :
    squeezeFrom inRun (t ++ c :: u) = squeezeFrom inRun t ++ c :: squeezeFrom false u := by
  induction t generalizing inRun with
  | nil => exact squeezeFrom_cons_of_ink h
  | cons d t ih =>
    rw [List.cons_append, squeezeFrom, squeezeFrom]
    split
    · exact ih
    · rw [ih, List.cons_append]

private theorem trimLeft_squeezeFrom (inRun : Bool) (t : Text) :
    trimLeft (squeezeFrom inRun t) = squeezeFrom false (trimLeft t) := by
  by_cases ht : AllBlank t
  · rw [trimLeft_eq_nil_iff.mpr (allBlank_squeezeFrom.mpr ht), trimLeft_eq_nil_iff.mpr ht]
    rfl
  · obtain ⟨w, c, u, hw, hc, rfl⟩ := exists_of_not_allBlank ht
    rw [squeezeFrom_append_cons hc, trimLeft_append_of_allBlank (allBlank_squeezeFrom.mpr hw),
      trimLeft_append_of_allBlank hw, trimLeft_cons_of_ink hc, trimLeft_cons_of_ink hc,
      squeezeFrom_cons_of_ink hc]

private theorem trimRight_squeezeFrom (inRun : Bool) (t : Text) :
    trimRight (squeezeFrom inRun t) = squeezeFrom inRun (trimRight t) := by
  induction t generalizing inRun with
  | nil => rfl
  | cons c t ih =>
    by_cases ht : AllBlank (c :: t)
    · rw [trimRight_eq_nil_iff.mpr (allBlank_squeezeFrom.mpr ht), trimRight_eq_nil_iff.mpr ht]
      rfl
    · rw [trimRight_cons c t, if_neg ht]
      cases h : inRun && (c = ' ' || c = '\t') with
      | true =>
        rw [squeezeFrom, squeezeFrom, if_pos h, if_pos h]
        exact ih true
      | false =>
        rw [squeezeFrom_cons_of_kept h, squeezeFrom_cons_of_kept h, trimRight_cons, if_neg, ih]
        rwa [allBlank_cons, allBlank_squeezeFrom, ← allBlank_cons]

/-- Trimming from the right commutes with squeezing. -/
theorem trimRight_squeeze (t : Text) : trimRight (squeeze t) = squeeze (trimRight t) :=
  trimRight_squeezeFrom false t

/-- Trimming commutes with squeezing. -/
theorem trim_squeeze (t : Text) : trim (squeeze t) = squeeze (trim t) := by
  rw [trim, squeeze, trimLeft_squeezeFrom, trimRight_squeezeFrom, trim, squeeze]

/-! ### The shown text -/

/-- Nothing is shown of exactly the texts of blanks. -/
theorem shown_eq_nil_iff : shown t = [] ↔ AllBlank t := by
  rw [shown, trim_eq_nil_iff]
  exact allBlank_squeezeFrom

/-- Only the trimmed text matters to what is shown. -/
theorem shown_trim (t : Text) : shown (trim t) = shown t := by
  rw [shown, shown, trim_squeeze, trim_squeeze, trim_trim]

/-- Squeezing does not matter to what is shown. -/
@[simp] theorem shown_squeeze (t : Text) : shown (squeeze t) = shown t := by
  rw [shown, squeeze_squeeze, shown]

/-- Trimming from the right does not matter to what is shown. -/
@[simp] theorem shown_trimRight (t : Text) : shown (trimRight t) = shown t := by
  rw [← shown_trim, trim_trimRight, shown_trim]

/-- What is shown shows itself. -/
@[simp] theorem shown_shown (t : Text) : shown (shown t) = shown t := by
  calc shown (shown t) = shown (squeeze t) := shown_trim _
    _ = shown t := shown_squeeze t

/-- Blanks in front are not shown. -/
theorem shown_append_of_allBlank_left (h : AllBlank w) : shown (w ++ t) = shown t := by
  rw [← shown_trim, trim_append_of_allBlank_left h, shown_trim]

/-- Blanks at the end are not shown. -/
theorem shown_append_of_allBlank_right (h : AllBlank w) : shown (t ++ w) = shown t := by
  rw [← shown_trim, trim_append_of_allBlank_right h, shown_trim]

/-! ### Words -/

private theorem words_append_squeezeFrom (word : Text) (h : inRun = true → word = []) :
    words (word ++ squeezeFrom inRun t) = words (word ++ t) := by
  induction t generalizing inRun word with
  | nil => rfl
  | cons c t ih =>
    have hnil : words [] = [] := words_of_allBlank allBlank_nil
    cases hd : inRun && (c = ' ' || c = '\t') with
    | true =>
      have hc : isBlank c = true := isBlank_of_dropped (Bool.and_eq_true_iff.mp hd).2
      rw [h (Bool.and_eq_true_iff.mp hd).1, squeezeFrom, if_pos hd, words_append_cons hc, hnil]
      exact ih [] fun _ => rfl
    | false =>
      rw [squeezeFrom_cons_of_kept hd]
      by_cases hc : isBlank c = true
      · rw [words_append_cons hc, words_append_cons hc]
        exact congrArg _ (ih [] fun _ => rfl)
      · -- the word goes on, and its ink cannot have begun a run
        have hs : c ≠ ' ' := by
          rintro rfl
          exact hc (by decide)
        have hi := @ih (c = ' ') (word ++ [c]) fun he => absurd (of_decide_eq_true he) hs
        simpa only [List.append_assoc, List.singleton_append] using hi

/-- Squeezing keeps the words. -/
@[simp] theorem words_squeeze (t : Text) : words (squeeze t) = words t :=
  words_append_squeezeFrom [] fun h => by cases h

/-- The words of a text can be read off what it shows. -/
@[simp] theorem words_shown (t : Text) : words (shown t) = words t := by
  rw [shown, words_trim, words_squeeze]

/-! ### Ink at the ends -/

private theorem decide_eq_space_of_ink (h : isBlank c = false) : decide (c = ' ') = false := by
  apply decide_eq_false
  rintro rfl
  cases h

private theorem squeezeFrom_eq_self (h : ∀ c ∈ squeezeFrom false t, isBlank c = false) :
    squeezeFrom false t = t := by
  induction t with
  | nil => rfl
  | cons c t ih =>
    rw [squeezeFrom_cons_of_kept rfl] at h ⊢
    obtain ⟨hc, ht⟩ := List.forall_mem_cons.mp h
    rw [decide_eq_space_of_ink hc] at ht ⊢
    rw [ih ht]

private theorem squeezeFrom_of_ink (h : ∀ c ∈ t, isBlank c = false) :
    squeezeFrom inRun t = t := by
  induction t generalizing inRun with
  | nil => rfl
  | cons c t ih =>
    obtain ⟨hc, ht⟩ := List.forall_mem_cons.mp h
    rw [squeezeFrom_cons_of_ink hc, ih ht]

/-- A text begins with some ink exactly if the squeezed text does. -/
theorem isPrefix_squeeze_iff (hw : ∀ c ∈ w, isBlank c = false) : w <+: squeeze t ↔ w <+: t := by
  unfold squeeze
  induction w generalizing t with
  | nil => simp only [List.nil_prefix]
  | cons d w ih =>
    obtain ⟨hd, hw⟩ := List.forall_mem_cons.mp hw
    cases t with
    | nil => simp only [squeezeFrom]
    | cons c t =>
      rw [squeezeFrom_cons_of_kept rfl, List.cons_prefix_cons, List.cons_prefix_cons]
      apply and_congr_right
      rintro rfl
      rw [decide_eq_space_of_ink hd]
      exact ih hw

/-- A text ends with some ink exactly if the squeezed text does. -/
theorem isSuffix_squeezeFrom_iff (hw : ∀ c ∈ w, isBlank c = false) :
    w <:+ squeezeFrom inRun t ↔ w <:+ t := by
  induction t generalizing inRun with
  | nil => simp only [squeezeFrom]
  | cons c t ih =>
    rw [squeezeFrom]
    split
    · next h =>
      -- a dropped character is blank and cannot begin the ink
      have hc : isBlank c = true := isBlank_of_dropped (Bool.and_eq_true_iff.mp h).2
      rw [ih, List.suffix_cons_iff, or_iff_right]
      rintro rfl
      rw [hw c List.mem_cons_self] at hc
      cases hc
    · rw [List.suffix_cons_iff, List.suffix_cons_iff, ih]
      apply or_congr_left'
      intro _
      constructor
      · rintro rfl
        obtain ⟨hc, ht⟩ := List.forall_mem_cons.mp hw
        rw [decide_eq_space_of_ink hc] at ht ⊢
        rw [squeezeFrom_eq_self ht]
      · rintro rfl
        rw [squeezeFrom_of_ink (List.forall_mem_cons.mp hw).2]

end Text
end MarkupLayout
