import MarkupLayout.Text.Basic

/-!
# Fields and lines of joined texts

A separator ends the fields of the text before it, and a line feed ends a line: the text behind
is cut as it is alone. So parts without separators are the fields of their join, and rows without
line feeds are the lines of the text that they make.
-/

namespace MarkupLayout
namespace Text

variable {separator : Char} {t part : Text} {parts rows : List Text}

/-! ### Fields -/

private theorem glue_append (c : Char) (h : parts ≠ []) (rest : List Text) :
    glue c (parts ++ rest) = glue c parts ++ rest := by
  cases parts with
  | nil => exact absurd rfl h
  | cons part parts => rfl

/-- A separator sets the fields before it apart from those behind it. -/
theorem fields_append_cons (separator : Char) (t u : Text) :
    fields separator (t ++ separator :: u) = fields separator t ++ fields separator u := by
  induction t with
  | nil => simp [fields]
  | cons c t ih =>
    rw [List.cons_append, fields, fields, ih]
    split
    · rfl
    · exact glue_append c (fields_ne_nil separator t) _

/-- A text without separators is one field. -/
theorem fields_of_not_mem (h : separator ∉ t) : fields separator t = [t] := by
  induction t with
  | nil => rfl
  | cons c t ih =>
    simp only [List.mem_cons, not_or] at h
    rw [fields, if_neg (Ne.symm h.1), ih h.2]
    rfl

/-- No field has a separator. -/
theorem not_mem_of_mem_fields (h : part ∈ fields separator t) : separator ∉ part := by
  induction t generalizing part with
  | nil =>
    obtain rfl : part = [] := by simpa [fields] using h
    exact List.not_mem_nil
  | cons c t ih =>
    rw [fields] at h
    split at h
    · rcases List.mem_cons.mp h with rfl | hpart
      · exact List.not_mem_nil
      · exact ih hpart
    · next hc =>
      obtain ⟨first, rest, hfields⟩ := List.exists_cons_of_ne_nil (fields_ne_nil separator t)
      rw [hfields] at h ih
      rcases List.mem_cons.mp h with rfl | hpart
      · rw [List.mem_cons, not_or]
        exact ⟨Ne.symm hc, ih List.mem_cons_self⟩
      · exact ih (List.mem_cons_of_mem first hpart)

/-- Parts without separators are the fields of their join. -/
theorem fields_intercalate (hne : parts ≠ []) (h : ∀ part ∈ parts, separator ∉ part) :
    fields separator ([separator].intercalate parts) = parts := by
  induction parts with
  | nil => exact absurd rfl hne
  | cons part parts ih =>
    obtain ⟨hpart, hparts⟩ := List.forall_mem_cons.mp h
    cases parts with
    | nil => simpa using fields_of_not_mem hpart
    | cons next parts =>
      rw [List.intercalate_cons_cons, List.append_assoc, List.singleton_append, fields_append_cons,
        fields_of_not_mem hpart, ih (List.cons_ne_nil _ _) hparts]
      rfl

/-! ### Lines -/

/-- A line feed ends the line before it. -/
theorem lines_append_cons (h : '\n' ∉ t) (u : Text) :
    lines (t ++ '\n' :: u) = (t ++ ['\n']) :: lines u := by
  induction t with
  | nil => rfl
  | cons c t ih =>
    simp only [List.mem_cons, not_or] at h
    rw [List.cons_append, lines, if_neg (Ne.symm h.1), ih h.2]
    rfl

/-- Rows without line feeds are the lines of the text that they make. -/
theorem lines_flatMap (h : ∀ row ∈ rows, '\n' ∉ row) :
    lines (rows.flatMap (· ++ ['\n'])) = rows.map (· ++ ['\n']) := by
  induction rows with
  | nil => rfl
  | cons row rows ih =>
    obtain ⟨hrow, hrows⟩ := List.forall_mem_cons.mp h
    rw [List.flatMap_cons, List.append_assoc, List.singleton_append, lines_append_cons hrow,
      ih hrows, List.map_cons]

/-- A text without carriage returns has one kind of line ends. -/
theorem unifyLineEnds_of_not_mem (h : '\r' ∉ t) : unifyLineEnds t = t := by
  induction t with
  | nil => rfl
  | cons c t ih =>
    simp only [List.mem_cons, not_or] at h
    rw [unifyLineEnds.eq_4 c t (fun _ he _ => h.1 he.symm) fun he => h.1 he.symm, ih h.2]

end Text
end MarkupLayout
