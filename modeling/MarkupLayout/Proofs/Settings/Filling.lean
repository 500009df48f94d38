import MarkupLayout.Proofs.Text.Trimming
import MarkupLayout.Settings.Template

/-!
# Values without references

A value in which each percent sign is written twice has no references and no faults: filled in, it
is the text that was written, whatever the other options hold. Doubling the percent signs keeps the
characters of a text and its two ends.
-/

namespace MarkupLayout
namespace Settings
namespace Template

variable {t : Text} {c : Char}

/-- The text with each percent sign written twice. -/
def doublePercents (t : Text) : Text := t.flatMap fun c => if c = '%' then ['%', '%'] else [c]

/-- The first character is written first. -/
theorem doublePercents_cons (c : Char) (t : Text) :
    doublePercents (c :: t) = (if c = '%' then ['%', '%'] else [c]) ++ doublePercents t :=
  List.flatMap_cons

/-- Joined texts are written one after the other. -/
theorem doublePercents_append (t u : Text) :
    doublePercents (t ++ u) = doublePercents t ++ doublePercents u :=
  List.flatMap_append

/-- A doubled text has the characters of the text. -/
theorem mem_doublePercents : c ∈ doublePercents t ↔ c ∈ t := by
  induction t with
  | nil => simp [doublePercents]
  | cons d t ih =>
    rw [doublePercents_cons, List.mem_append, ih, List.mem_cons]
    split
    · next h => simp [h]
    · simp

private theorem head?_doublePercents (t : Text) : (doublePercents t).head? = t.head? := by
  cases t with
  | nil => rfl
  | cons c t =>
    rw [doublePercents_cons]
    split
    · next h => simp [h]
    · rfl

private theorem getLast?_doublePercents (t : Text) : (doublePercents t).getLast? = t.getLast? := by
  obtain rfl | ⟨t, c, rfl⟩ := t.eq_nil_or_concat
  · rfl
  · rw [List.concat_eq_append, doublePercents_append, List.getLast?_concat, doublePercents_cons]
    split
    · next h => simp [h, doublePercents]
    · simp [doublePercents]

/-- A doubled text is trimmed if the text is. -/
theorem trim_doublePercents (h : t.trim = t) : (doublePercents t).trim = doublePercents t := by
  have hleft : t.trimLeft = t := by rw [← h, Text.trimLeft_trim]
  have hright : t.trimRight = t := by rw [← h, Text.trimRight_trim]
  rw [Text.trimLeft_eq_self_iff, ← head?_doublePercents, ← Text.trimLeft_eq_self_iff] at hleft
  rw [Text.trimRight_eq_self_iff, ← getLast?_doublePercents, ← Text.trimRight_eq_self_iff] at hright
  rw [Text.trim, hleft, hright]

/-- The segments of a doubled text are its characters. -/
theorem segments_doublePercents (t : Text) : segments (doublePercents t) = t.map .literal := by
  induction t with
  | nil => simp [doublePercents, segments]
  | cons c t ih =>
    rw [doublePercents_cons, List.map_cons]
    split
    · next h =>
      change segments ('%' :: '%' :: doublePercents t) = _
      rw [segments, ih, h]
    · next h =>
      change segments (c :: doublePercents t) = _
      rw [segments, ih]
      all_goals simp [h]

private theorem mapM_literal {f : Segment → Except Fault Text}
    (hf : ∀ c, f (.literal c) = .ok [c]) (t : Text) :
    (t.map .literal).mapM f = .ok (t.map fun c => [c]) := by
  induction t with
  | nil => rfl
  | cons c t ih =>
    rw [List.map_cons, List.mapM_cons, hf, ih]
    rfl

/-- A doubled text is filled in with the text, whatever the options hold. -/
theorem fill_doublePercents (lookup? : Text → Option Text) (steps : Nat) (t : Text) :
    fill lookup? (steps + 1) (doublePercents t) = .ok t := by
  rw [fill, segments_doublePercents, mapM_literal fun _ => rfl]
  change Except.ok (t.map fun c => [c]).flatten = _
  rw [← List.flatMap_def, List.flatMap_singleton']

end Template
end Settings
end MarkupLayout
