import Mathlib.Data.List.SplitBy
import MarkupLayout.Proofs.Text.Squeezing

/-!
# Runs of spaces and tabs

A text is a sequence of runs: its longest runs of spaces and tabs, and the longest runs of other
characters between them. Squeezing works on each run by itself. A run without spaces stays as it
is, and of a run with spaces the tabs in front and the first space are left.
-/

namespace MarkupLayout
namespace Text

/-- Whether the character is a space or a tab. -/
def isSpacing (c : Char) : Bool := c = ' ' || c = '\t'

/-- The longest runs of spaces and tabs, and those of other characters between them. -/
def runs (t : Text) : List Text := t.splitBy fun c d => isSpacing c == isSpacing d

/-- What squeezing makes of a run. -/
inductive Squeezed : Text → Text → Prop
  | spaceless {run : Text} (h : ' ' ∉ run) : Squeezed run run
  | spaced (k : Nat) (rest : Text) :
    Squeezed (List.replicate k '\t' ++ ' ' :: rest) (List.replicate k '\t' ++ [' '])

variable {t u run : Text} {rest : List Text} {c d : Char} {inRun : Bool}

/-! ### Runs of a text -/

private theorem isSpacing_eq_of_isChain (h : run.IsChain fun c d => isSpacing c == isSpacing d)
    (hc : c ∈ run) (hd : d ∈ run) : isSpacing c = isSpacing d := by
  have hchain : (run.map isSpacing).IsChain (· = ·) := by
    rw [List.isChain_map]
    simpa using h
  exact hchain.pairwise.forall_of_forall (fun _ _ => rfl) (List.mem_map_of_mem hc)
    (List.mem_map_of_mem hd)

-- The first run of a text has characters of one kind, and the text behind it has its own runs
-- and begins with a character of the other kind, if it begins at all.
private theorem exists_eq_append_of_runs_eq_cons (h : runs t = run :: rest) :
    ∃ u, t = run ++ u ∧ runs u = rest ∧ (∀ c ∈ run, ∀ d ∈ run, isSpacing c = isSpacing d) ∧
      ∀ c ∈ run, ∀ d ∈ u.head?, isSpacing c ≠ isSpacing d := by
  obtain ⟨ht, hne, hchain, hapart⟩ := List.splitBy_eq_iff.mp h
  simp only [List.mem_cons, not_or] at hne
  obtain ⟨hrun, hrest⟩ := List.forall_mem_cons.mp hchain
  obtain ⟨hnext, hapart⟩ := List.isChain_cons.mp hapart
  have halike : ∀ c ∈ run, ∀ d ∈ run, isSpacing c = isSpacing d := fun c hc d hd =>
    isSpacing_eq_of_isChain hrun hc hd
  refine ⟨rest.flatten, ht, List.splitBy_eq_iff.mpr ⟨rfl, hne.2, hrest, hapart⟩, halike, ?_⟩
  intro c hc d hd
  cases rest with
  | nil => cases hd
  | cons next rest =>
    -- the last character of the run differs from the first of the next run, and so do all others
    obtain ⟨hlast, hhead, hdiffer⟩ := hnext next rfl
    obtain ⟨e, next, rfl⟩ := List.exists_cons_of_ne_nil hhead
    obtain rfl : e = d := by simpa using hd
    rw [halike c hc _ (List.getLast_mem hlast)]
    simpa using hdiffer

/-! ### Squeezing a run -/

/-- Squeezing does not change what stands in front of the first space. -/
theorem squeeze_append_of_not_mem (h : ' ' ∉ t) (u : Text) : squeeze (t ++ u) = t ++ squeeze u := by
  unfold squeeze
  induction t with
  | nil => rfl
  | cons c t ih =>
    simp only [List.mem_cons, not_or] at h
    rw [List.cons_append, squeezeFrom_cons_of_kept rfl, decide_eq_false (Ne.symm h.1), ih h.2]
    rfl

private theorem squeezeFrom_append_of_isSpacing (h : ∀ c ∈ t, isSpacing c = true) (u : Text) :
    squeezeFrom true (t ++ u) = squeezeFrom true u := by
  induction t with
  | nil => rfl
  | cons c t ih =>
    obtain ⟨hc, ht⟩ := List.forall_mem_cons.mp h
    rw [List.cons_append, squeezeFrom, if_pos (by simpa [isSpacing] using hc), ih ht]

private theorem squeezeFrom_eq_squeeze (h : ∀ c ∈ t.head?, isSpacing c = false) :
    squeezeFrom inRun t = squeeze t := by
  cases t with
  | nil => rfl
  | cons c t =>
    have hkept : (inRun && (c = ' ' || c = '\t')) = false := by
      rw [← isSpacing, h c rfl, Bool.and_false]
    rw [squeeze, squeezeFrom_cons_of_kept hkept, squeezeFrom_cons_of_kept rfl]

/-- Squeezing drops what follows the first space of a run. -/
theorem squeeze_append_cons_append {tabs rest : Text} (htabs : ' ' ∉ tabs)
    (hrest : ∀ c ∈ rest, isSpacing c = true) (hu : ∀ c ∈ u.head?, isSpacing c = false) :
    squeeze ((tabs ++ ' ' :: rest) ++ u) = (tabs ++ [' ']) ++ squeeze u := by
  calc squeeze ((tabs ++ ' ' :: rest) ++ u)
      = tabs ++ squeeze (' ' :: (rest ++ u)) := by
        rw [List.append_assoc, squeeze_append_of_not_mem htabs, List.cons_append]
    _ = tabs ++ ' ' :: squeezeFrom true (rest ++ u) := rfl
    _ = tabs ++ ' ' :: squeeze u := by
        rw [squeezeFrom_append_of_isSpacing hrest, squeezeFrom_eq_squeeze hu]
    _ = (tabs ++ [' ']) ++ squeeze u := by rw [List.append_assoc, List.singleton_append]

private theorem exists_eq_replicate_append (h : ∀ c ∈ run, isSpacing c = true)
    (hspace : ' ' ∈ run) :
    ∃ k rest, run = List.replicate k '\t' ++ ' ' :: rest := by
  obtain ⟨tabs, rest, rfl, htabs⟩ := List.eq_append_cons_of_mem hspace
  have hreplicate : tabs = List.replicate tabs.length '\t' := by
    apply List.eq_replicate_of_mem
    intro c hc
    have hne : c ≠ ' ' := fun he => htabs (he ▸ hc)
    simpa [isSpacing, hne] using h c (List.mem_append_left _ hc)
  exact ⟨tabs.length, rest, by rw [← hreplicate]⟩

private theorem exists_squeezed_append (hrun : ∀ c ∈ run, ∀ d ∈ run, isSpacing c = isSpacing d)
    (hu : ∀ c ∈ run, ∀ d ∈ u.head?, isSpacing c ≠ isSpacing d) :
    ∃ part, Squeezed run part ∧ squeeze (run ++ u) = part ++ squeeze u := by
  by_cases hspace : ' ' ∈ run
  · have hspacing : ∀ c ∈ run, isSpacing c = true := fun c hc => hrun c hc ' ' hspace
    obtain ⟨k, rest, rfl⟩ := exists_eq_replicate_append hspacing hspace
    refine ⟨_, .spaced k rest, squeeze_append_cons_append ?_ ?_ ?_⟩
    · intro hmem
      cases List.eq_of_mem_replicate hmem
    · intro c hc
      exact hspacing c (List.mem_append_right _ (List.mem_cons_of_mem _ hc))
    · intro d hd
      exact Bool.eq_false_iff.mpr (hu ' ' hspace d hd).symm
  · exact ⟨run, .spaceless hspace, squeeze_append_of_not_mem hspace u⟩

/-- A squeezed text is the sequence of its squeezed runs. -/
theorem exists_forall₂_squeezed (t : Text) :
    ∃ parts, List.Forall₂ Squeezed (runs t) parts ∧ squeeze t = parts.flatten := by
  generalize hruns : runs t = rest
  induction rest generalizing t with
  | nil =>
    obtain rfl : t = [] := List.splitBy_eq_nil.mp hruns
    exact ⟨[], .nil, rfl⟩
  | cons run rest ih =>
    obtain ⟨u, rfl, hu, halike, hapart⟩ := exists_eq_append_of_runs_eq_cons hruns
    obtain ⟨part, hpart, hsqueeze⟩ := exists_squeezed_append halike hapart
    obtain ⟨parts, hparts, hrest⟩ := ih u hu
    exact ⟨part :: parts, .cons hpart hparts, by rw [hsqueeze, hrest, List.flatten_cons]⟩

/-- Squeezing makes of each run of a text what it makes of that run alone. So a text is squeezed
once and for all, it keeps its words, and its squeezed and trimmed form stays the same when it is
squeezed again, also with blanks around it. -/
theorem squeeze_acts_on_runs (t : Text) :
    (∃ parts, List.Forall₂ Squeezed (runs t) parts ∧ squeeze t = parts.flatten) ∧
      squeeze (squeeze t) = squeeze t ∧ words (squeeze t) = words t ∧
      squeeze (trim (squeeze t)) = trim (squeeze t) ∧
      ∀ w w', AllBlank w → AllBlank w' →
        trim (squeeze (w ++ trim (squeeze t) ++ w')) = trim (squeeze t) := by
  refine ⟨exists_forall₂_squeezed t, squeeze_squeeze t, words_squeeze t, ?_, ?_⟩
  · rw [← trim_squeeze, squeeze_squeeze]
  · intro w w' hw hw'
    change shown (w ++ shown t ++ w') = shown t
    rw [shown_append_of_allBlank_right hw', shown_append_of_allBlank_left hw, shown_shown]

/-- A run with a tab in front of its space, a run of tabs and a run at the end, set between blanks
that are neither spaces nor tabs. -/
theorem squeeze_acts_on_runs_tabs :
    let t := "\t \ta\t\tb\t  ".toList
    AllBlank "\n\r".toList ∧ AllBlank "\u3000".toList ∧ squeeze t = "\t a\t\tb\t ".toList ∧
      trim (squeeze ("\n\r".toList ++ trim (squeeze t) ++ "\u3000".toList)) = "a\t\tb".toList := by
  intro t
  have hfront : AllBlank "\n\r".toList := by decide
  have hend : AllBlank "\u3000".toList := by decide
  have hshown : trim (squeeze t) = "a\t\tb".toList := by decide
  exact ⟨hfront, hend, rfl, ((squeeze_acts_on_runs t).2.2.2.2 _ _ hfront hend).trans hshown⟩

end Text
end MarkupLayout
