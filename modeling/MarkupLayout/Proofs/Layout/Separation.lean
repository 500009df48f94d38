import MarkupLayout.Proofs.Layout.Ink
import MarkupLayout.Proofs.Text.Gaps

/-!
# What stays apart

Formatting never joins two words of a piece that a space, a tab or any other blank but a line end
keeps apart, nor does it take a word apart. Line ends are not blanks in this respect: they vanish
when the document is put on one line, and the words before and behind them are joined, as
specification §4.1 has it.
-/

namespace MarkupLayout

open Text Markup Cursor

variable {piece document : Text} {i : Nat}

namespace Text

private theorem singleLine_cons_of_ink {c : Char} (h : isBlank c = false) (t : Text) :
    singleLine (c :: t) = c :: singleLine t := by
  have hone : singleLine [c] = [c] := by
    apply singleLine_of_oneLine
    intro d hd
    obtain rfl := List.mem_singleton.mp hd
    refine ⟨?_, ?_, ?_⟩ <;> rintro rfl <;> cases h
  rw [← List.singleton_append, singleLine_append, hone, List.singleton_append]

/-- On one line, each gap is what is left of it on one line. -/
theorem gapAt_singleLine (t : Text) (i : Nat) :
    gapAt (singleLine t) i = singleLine (gapAt t i) := by
  apply gapAt_map rfl fun _ hw => allBlank_singleLine.mpr hw
  intro w c u _ hc
  rw [singleLine_append, singleLine_cons_of_ink hc]

/-- Something is left of a text on one line unless it has line ends only. -/
theorem singleLine_ne_nil_iff {t : Text} :
    singleLine t ≠ [] ↔ ∃ c ∈ t, c ≠ '\n' ∧ c ≠ '\r' := by
  simp [singleLine]

end Text

/-- Whether the ink at an index and the ink before it stand in one piece of the document. -/
def Markup.Continues (document : Text) (i : Nat) : Prop :=
  ∃ before piece after, pieces document = before ++ piece :: after ∧
    (ink before.flatten).length < i ∧ i < (ink before.flatten).length + (ink piece).length

private theorem Cursor.gapAt_body_place_eq_nil_iff (style : Style) (cursor : Cursor)
    (next? : Option Token) (h : i + 1 < (ink piece).length) :
    gapAt (cursor.place style (.ofPiece piece) next?).body (i + 1) = [] ↔
      gapAt piece (i + 1) = [] := by
  have hsqueeze : i + 1 < (ink piece.squeeze).length := by rwa [ink_squeeze]
  obtain ⟨hb, -⟩ | ⟨-, hbody | hbody | hbody | ⟨-, hbody⟩⟩ :=
    body_place_cases style cursor piece next?
  · rw [ink_eq_nil_iff.mpr hb] at h
    cases h
  · rw [hbody, gapAt_trim h]
  · rw [hbody, shown, gapAt_trim hsqueeze, gapAt_squeeze, squeeze_eq_nil_iff]
  · rw [hbody, gapAt_trimRight hsqueeze, gapAt_squeeze, squeeze_eq_nil_iff]
  · rw [hbody, gapAt_squeeze, squeeze_eq_nil_iff]

private theorem Cursor.exists_write_eq {style : Style} (hunit : AllBlank style.unit)
    (cursor : Cursor) (before : List Text) (piece : Text) (after : List Text) :
    ∃ cursor' front back, ink front = ink before.flatten ∧
      write style cursor ((before ++ piece :: after).map .ofPiece) =
        front ++ ((place style cursor' (.ofPiece piece) (after.map Token.ofPiece).head?).body ++
          back) := by
  induction before generalizing cursor with
  | nil =>
    let fragment := cursor.place style (.ofPiece piece) (after.map Token.ofPiece).head?
    refine ⟨cursor, fragment.margin style,
      write style (cursor.advance style (.ofPiece piece)) (after.map .ofPiece),
      ink_eq_nil_iff.mpr (Fragment.allBlank_margin hunit _), ?_⟩
    rw [List.nil_append, List.map_cons, write_cons, Fragment.render_eq_margin_append,
      List.append_assoc]
  | cons first before ih =>
    obtain ⟨cursor', front, back, hink, hwrite⟩ := ih (cursor.advance style (.ofPiece first))
    let next? := ((before ++ piece :: after).map Token.ofPiece).head?
    refine ⟨cursor', (cursor.place style (.ofPiece first) next?).render style ++ front, back,
      ?_, ?_⟩
    · rw [ink_append, ink_render_place hunit, hink, List.flatten_cons, ink_append]
    · rw [List.cons_append, List.map_cons, write_cons, hwrite, List.append_assoc]

/-- Between two characters of ink in one piece, formatting leaves blanks exactly where the document
has blanks other than line ends. -/
theorem gapAt_format_ne_nil_iff (formatter : Formatter) (hunit : AllBlank formatter.style.unit)
    (document : Text) (h : Continues document i) :
    gapAt (formatter.format (.text document)) i ≠ [] ↔
      ∃ c ∈ gapAt document i, c ≠ '\n' ∧ c ≠ '\r' := by
  obtain ⟨before, piece, after, hpieces, hlow, hhigh⟩ := h
  obtain ⟨j, rfl⟩ : ∃ j, i = (ink before.flatten).length + (j + 1) :=
    ⟨i - (ink before.flatten).length - 1, by omega⟩
  have hpiece : j + 1 < (ink piece).length := by omega
  have hline : gapAt document.singleLine ((ink before.flatten).length + (j + 1)) =
      gapAt piece (j + 1) := by
    rw [← flatten_pieces, hpieces, List.flatten_append, List.flatten_cons, gapAt_append_right,
      gapAt_append_left _ hpiece]
  obtain ⟨cursor, front, back, hink, hwrite⟩ := exists_write_eq hunit {} before piece after
  set body := (cursor.place formatter.style (.ofPiece piece) _).body with hbody
  have hsize : j + 1 < (ink body).length := by rwa [hbody, ink_body_place]
  have hformat : gapAt (formatter.format (.text document))
      ((ink before.flatten).length + (j + 1)) = gapAt body (j + 1) := by
    change gapAt (trim (write formatter.style {} (tokens document))) _ = _
    rw [tokens, hpieces, hwrite, ← hink, ← Nat.add_assoc, gapAt_trim, Nat.add_assoc,
      gapAt_append_right, gapAt_append_left _ hsize]
    rw [ink_append, ink_append, List.length_append, List.length_append]
    omega
  rw [hformat, ← singleLine_ne_nil_iff, ← gapAt_singleLine, hline, Ne, hbody,
    gapAt_body_place_eq_nil_iff _ _ _ hpiece]

/-- The words of a paragraph stay apart where a space stands before the line end. -/
theorem gapAt_format_ne_nil_iff_paragraph :
    AllBlank ['\t'] ∧ Continues "<p>a \nb</p>".toList 4 ∧
      gapAt (Formatter.format ⟨{ unit := ['\t'] }, false⟩
        (.text "<p>a \nb</p>".toList)) 4 ≠ [] := by
  have hcontinues : Continues "<p>a \nb</p>".toList 4 :=
    ⟨["<p>".toList], "a b".toList, ["</p>".toList], by decide, by decide, by decide⟩
  refine ⟨by decide, hcontinues, ?_⟩
  exact (gapAt_format_ne_nil_iff ⟨{ unit := ['\t'] }, false⟩ (by decide) _ hcontinues).mpr
    ⟨' ', by decide, by decide, by decide⟩

/-- Words of one piece that only a line end keeps apart are joined. -/
theorem not_forall_gapAt_format_ne_nil :
    ¬ ∀ formatter : Formatter, AllBlank formatter.style.unit → ∀ (document : Text) (i : Nat),
      Continues document i → gapAt document i ≠ [] →
        gapAt (formatter.format (.text document)) i ≠ [] := by
  intro hall
  have hcontinues : Continues "a\nb".toList 1 :=
    ⟨[], "ab".toList, [], by decide, by decide, by decide⟩
  exact hall ⟨{}, false⟩ (by decide) "a\nb".toList 1 hcontinues (by decide) (by decide)

end MarkupLayout
