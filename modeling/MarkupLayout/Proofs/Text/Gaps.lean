import MarkupLayout.Proofs.Text.Squeezing

/-!
# Gaps between ink

The gaps of a text are the blanks in front of each character of its ink and those at its end, most
of them empty in an ordinary text. Ink is counted from zero, so the gap at an index stands between
the ink at that index and the ink before it.
-/

namespace MarkupLayout
namespace Text

variable {t u w : Text} {c : Char} {i : Nat}

/-- The blanks in front of each character of ink, and those at the end. -/
def gaps (t : Text) : List Text := t.splitOnP fun c => !isBlank c

/-- The blanks in front of the ink at an index. -/
def gapAt (t : Text) (i : Nat) : Text := t.gaps[i]?.getD []

private theorem gaps_of_allBlank (h : AllBlank w) : gaps w = [w] :=
  List.splitOnP_eq_singleton fun c hc => by simpa using h c hc

private theorem gaps_append_cons (hw : AllBlank w) (hc : isBlank c = false) (u : Text) :
    gaps (w ++ c :: u) = w :: gaps u := by
  have hsplit : gaps (w ++ c :: u) = gaps w ++ gaps u :=
    List.splitOnP_append_cons w u (by simpa using hc)
  rw [hsplit, gaps_of_allBlank hw, List.singleton_append]

/-- A text of blanks has only the gap at index zero. -/
theorem gapAt_of_allBlank (h : AllBlank w) (i : Nat) : gapAt w (i + 1) = [] := by
  rw [gapAt, gaps_of_allBlank h]
  rfl

private theorem gapAt_zero (hw : AllBlank w) (hc : isBlank c = false) (u : Text) :
    gapAt (w ++ c :: u) 0 = w := by
  rw [gapAt, gaps_append_cons hw hc]
  rfl

private theorem gapAt_succ (hw : AllBlank w) (hc : isBlank c = false) (u : Text) (i : Nat) :
    gapAt (w ++ c :: u) (i + 1) = gapAt u i := by
  rw [gapAt, gaps_append_cons hw hc]
  rfl

private theorem length_ink_append_cons (hw : AllBlank w) (hc : isBlank c = false) (u : Text) :
    (ink (w ++ c :: u)).length = (ink u).length + 1 := by
  rw [ink_append, ink_eq_nil_iff.mpr hw, List.nil_append, ink,
    List.filter_cons_of_pos (by simp [hc])]
  rfl

-- Texts can be read gap by gap: a text is all blank, or a gap and some ink stand in front of the
-- rest.
private theorem ink_induction {motive : Text → Prop} (blank : ∀ w, AllBlank w → motive w)
    (ink : ∀ w c u, AllBlank w → isBlank c = false → motive u → motive (w ++ c :: u))
    (t : Text) : motive t := by
  induction hn : t.length using Nat.strongRecOn generalizing t with
  | ind n ih =>
    by_cases ht : AllBlank t
    · exact blank t ht
    · obtain ⟨w, c, u, hw, hc, rfl⟩ := exists_of_not_allBlank ht
      refine ink w c u hw hc (ih u.length ?_ u rfl)
      rw [← hn, List.length_append, List.length_cons]
      omega

/-! ### Gaps of joined texts -/

/-- The gaps in front of the ink of a text do not depend on what follows. -/
theorem gapAt_append_left (u : Text) (h : i < (ink t).length) : gapAt (t ++ u) i = gapAt t i := by
  induction t using ink_induction generalizing i with
  | blank w hw =>
    rw [ink_eq_nil_iff.mpr hw] at h
    cases h
  | ink w c t hw hc ih =>
    rw [List.append_assoc, List.cons_append]
    cases i with
    | zero => rw [gapAt_zero hw hc, gapAt_zero hw hc]
    | succ i =>
      rw [length_ink_append_cons hw hc] at h
      rw [gapAt_succ hw hc, gapAt_succ hw hc, ih (by omega)]

/-- Blanks in front change the first gap only. -/
theorem gapAt_append_of_allBlank (hw : AllBlank w) (u : Text) (i : Nat) :
    gapAt (w ++ u) (i + 1) = gapAt u (i + 1) := by
  by_cases hu : AllBlank u
  · rw [gapAt_of_allBlank (allBlank_append.mpr ⟨hw, hu⟩), gapAt_of_allBlank hu]
  · obtain ⟨w', c, u, hw', hc, rfl⟩ := exists_of_not_allBlank hu
    rw [← List.append_assoc, gapAt_succ (allBlank_append.mpr ⟨hw, hw'⟩) hc, gapAt_succ hw' hc]

/-- Behind the ink of a text, the gaps are those of what follows, but for the first one. -/
theorem gapAt_append_right (t u : Text) (i : Nat) :
    gapAt (t ++ u) ((ink t).length + (i + 1)) = gapAt u (i + 1) := by
  induction t using ink_induction with
  | blank w hw =>
    rw [ink_eq_nil_iff.mpr hw, List.length_nil, Nat.zero_add, gapAt_append_of_allBlank hw]
  | ink w c t hw hc ih =>
    rw [List.append_assoc, List.cons_append, length_ink_append_cons hw hc,
      Nat.add_right_comm _ 1, gapAt_succ hw hc, ih]

/-! ### Gaps of trimmed and squeezed texts -/

/-- Trimming from the right keeps the gaps in front of ink. -/
theorem gapAt_trimRight (h : i < (ink t).length) : gapAt (trimRight t) i = gapAt t i := by
  obtain ⟨w, -, ht⟩ := exists_eq_trimRight_append t
  calc gapAt (trimRight t) i
      = gapAt (trimRight t ++ w) i := (gapAt_append_left w (by rwa [ink_trimRight])).symm
    _ = gapAt t i := by rw [← ht]

/-- Trimming keeps the gaps between ink. -/
theorem gapAt_trim (h : i + 1 < (ink t).length) : gapAt (trim t) (i + 1) = gapAt t (i + 1) := by
  obtain ⟨w, hw, ht⟩ := exists_eq_append_trimLeft t
  calc gapAt (trim t) (i + 1)
      = gapAt (trimLeft t) (i + 1) := gapAt_trimRight (by rwa [ink_trimLeft])
    _ = gapAt (w ++ trimLeft t) (i + 1) := (gapAt_append_of_allBlank hw _ i).symm
    _ = gapAt t (i + 1) := by rw [← ht]

/-- What works on each gap of a text by itself and leaves the ink in place gives the gaps it makes
of the gaps. -/
theorem gapAt_map {f : Text → Text} (hnil : f [] = []) (hblank : ∀ w, AllBlank w → AllBlank (f w))
    (hink : ∀ w c u, AllBlank w → isBlank c = false → f (w ++ c :: u) = f w ++ c :: f u)
    (t : Text) (i : Nat) : gapAt (f t) i = f (gapAt t i) := by
  induction t using ink_induction generalizing i with
  | blank w hw =>
    rw [gapAt, gapAt, gaps_of_allBlank hw, gaps_of_allBlank (hblank w hw)]
    cases i with
    | zero => rfl
    | succ i => exact hnil.symm
  | ink w c t hw hc ih =>
    rw [hink w c t hw hc]
    cases i with
    | zero => rw [gapAt_zero (hblank w hw) hc, gapAt_zero hw hc]
    | succ i => rw [gapAt_succ (hblank w hw) hc, gapAt_succ hw hc, ih]

/-- Squeezing a text squeezes its gaps. -/
theorem gapAt_squeeze (t : Text) (i : Nat) : gapAt (squeeze t) i = squeeze (gapAt t i) :=
  gapAt_map rfl (fun _ hw => allBlank_squeezeFrom.mpr hw)
    (fun _ _ _ _ hc => squeezeFrom_append_cons hc) t i

/-- Squeezing leaves something of every text. -/
theorem squeeze_eq_nil_iff : squeeze t = [] ↔ t = [] := by
  cases t with
  | nil => exact Iff.rfl
  | cons c t =>
    rw [squeeze, squeezeFrom_cons_of_kept rfl]
    simp

end Text
end MarkupLayout
