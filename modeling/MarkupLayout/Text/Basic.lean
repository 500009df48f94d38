/-!
# Texts

Documents, tag names and settings are sequences of code points. Cutting a text into consecutive
parts goes from left to right in three places of this library (pieces of a document, lines of a
settings file, fields of a list); all three grow the part that is being read with `glue`.
-/

namespace MarkupLayout

/-- A sequence of code points. Lengths and positions count code points. -/
abbrev Text := List Char

namespace Text

/-- Puts one character in front of the first part, and opens a part if there is none. -/
def glue (c : Char) : List Text → List Text
  | [] => [[c]]
  | part :: parts => (c :: part) :: parts

/-- Gluing adds exactly the glued character to the joined parts. -/
@[simp] theorem flatten_glue (c : Char) (parts : List Text) :
    (glue c parts).flatten = c :: parts.flatten := by
  cases parts <;> simp [glue]

/-- A glued list has a first part. -/
@[simp] theorem glue_ne_nil (c : Char) (parts : List Text) : glue c parts ≠ [] := by
  cases parts <;> simp [glue]

/-- The fields between the separators, at least one and possibly empty. -/
def fields (separator : Char) : Text → List Text
  | [] => [[]]
  | c :: rest =>
    if c = separator then [] :: fields separator rest else glue c (fields separator rest)

/-- Every text has a field. -/
theorem fields_ne_nil (separator : Char) (t : Text) : fields separator t ≠ [] := by
  cases t with
  | nil => simp [fields]
  | cons c rest =>
    rw [fields]
    split <;> simp

/-- The fields joined by the separator are the text. -/
theorem intercalate_fields (separator : Char) (t : Text) :
    [separator].intercalate (fields separator t) = t := by
  have cons_glue (c : Char) (parts : List Text) (h : parts ≠ []) :
      [separator].intercalate (glue c parts) = c :: [separator].intercalate parts := by
    match parts, h with
    | [_], _ => simp [glue, List.intercalate]
    | _ :: _ :: _, _ => simp [glue, List.intercalate]
  induction t with
  | nil => rfl
  | cons c rest ih =>
    rw [fields]
    split
    · next h =>
      obtain ⟨f, fs, hf⟩ := List.exists_cons_of_ne_nil (fields_ne_nil separator rest)
      rw [hf] at ih ⊢
      simpa [List.intercalate, h] using ih
    · rw [cons_glue c _ (fields_ne_nil separator rest), ih]

/-- The lines of a text. Each keeps the line feed that ends it, so only the last can lack one. -/
def lines : Text → List Text
  | [] => []
  | c :: rest => if c = '\n' then ['\n'] :: lines rest else glue c (lines rest)

/-- Nothing is lost between the lines. -/
theorem flatten_lines (t : Text) : (lines t).flatten = t := by
  induction t with
  | nil => rfl
  | cons c rest ih =>
    rw [lines]
    split
    · next h => simp [ih, h]
    · simp [ih]

/-- Replaces each carriage return, with the line feed that may follow it, by one line feed. -/
def unifyLineEnds : Text → Text
  | [] => []
  | '\r' :: '\n' :: rest => '\n' :: unifyLineEnds rest
  | '\r' :: rest => '\n' :: unifyLineEnds rest
  | c :: rest => c :: unifyLineEnds rest

end Text
end MarkupLayout
