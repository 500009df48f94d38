import MarkupLayout.Proofs.Layout.Journals

/-!
# The lines of journals

A journal is read as lines, each with its level and its text. The lines of a document are written
out here, in order: the document if it is traced, the lines of each position, and a summary. Of the
lines that tell of an unbalanced tag there is one at most, which names the first such tag. These
are the lines that `format` and `reindent` log (specification §10.4).
-/

namespace MarkupLayout

variable {source : Source}

/-! ### The lines of a token -/

/-- The line that tells of an unbalanced tag. -/
def unbalancedLine (i : Nat) (token : Token) : Level × Text :=
  (.debug, "unbalanced closing tag ".toList ++ token.content.trim ++ " at token ".toList ++
    (toString i).toList)

/-- The line of a trace that tells of a token at a depth. -/
def reachedLine (i : Nat) (token : Token) (depth : Int) : Level × Text :=
  (.info, "  ".toList ++ (toString i).toList ++ ": ".toList ++ token.kind.label ++ " ".toList ++
    token.name.quote ++ " depth=".toList ++ (toString depth).toList)

/-- The lines of a journal that tell of the token at a position. -/
def Style.linesAt (style : Style) (trace : Bool) (tokens : List Token) (i : Nat) :
    List (Level × Text) :=
  match tokens[i]? with
  | none => []
  | some token =>
    if token.isBlank then []
    else
      (if trace then [reachedLine i token (style.depthBehind (tokens.take i))] else []) ++
      (if style.FirstUnbalances tokens i then [unbalancedLine i token] else [])

/-- Whether a line is worded as one that tells of an unbalanced tag. -/
def tellsUnbalanced (line : Level × Text) : Bool :=
  "unbalanced closing tag ".toList.isPrefixOf line.2

namespace Event

private theorem line_reached (i : Nat) (token : Token) (depth : Int) :
    (reached i token depth).line = reachedLine i token depth := by
  rw [reachedLine, ← Text.ofNat_eq_toString, ← Text.ofInt_eq_toString]
  rfl

private theorem line_unbalanced (i : Nat) (token : Token) :
    (unbalanced i token).line = unbalancedLine i token := by
  rw [unbalancedLine, ← Text.ofNat_eq_toString]
  rfl

/-- The wording shows which events tell of an unbalanced tag. -/
theorem tellsUnbalanced_line (event : Event) :
    tellsUnbalanced event.line = event.isUnbalanced := by
  cases event <;> rfl

end Event

/-- The lines of a position are those of its events. -/
theorem Style.map_line_eventsAt (style : Style) (trace : Bool) (tokens : List Token) (i : Nat) :
    (style.eventsAt trace tokens i).map Event.line = style.linesAt trace tokens i := by
  unfold eventsAt linesAt
  cases tokens[i]? with
  | none => rfl
  | some token =>
    dsimp only
    split
    · rfl
    · rw [List.map_append, apply_ite (List.map Event.line), apply_ite (List.map Event.line),
        List.map_cons, List.map_cons, List.map_nil, Event.line_reached, Event.line_unbalanced]

/-! ### The lines of a document -/

namespace Formatter

/-- The lines of a document that is not empty: the document, if it is traced, then the lines of each
position, and a summary. -/
theorem map_line_journal (formatter : Formatter) (h : ¬ source.IsEmpty) :
    (formatter.journal source).map Event.line =
      (if formatter.trace then
        [(.info, "format ===>\n".toList ++ source.content ++ "<===\n".toList)] else []) ++
      (List.range (tokens source.content).length).flatMap
        (formatter.style.linesAt formatter.trace (tokens source.content)) ++
      [(.debug, "formatted ".toList ++ (toString (tokens source.content).length).toList ++
        " tokens, ".toList ++ (toString source.content.length).toList ++ " -> ".toList ++
        (toString (formatter.format source).length).toList ++ " chars".toList)] := by
  rw [journal_of_not_isEmpty h, journal_eq_flatMap_eventsAt, List.map_append, List.map_append,
    List.map_flatMap, apply_ite (List.map Event.line)]
  simp only [Style.map_line_eventsAt, ← Text.ofNat_eq_toString]
  rfl

/-- A line tells of an unbalanced tag if it is the line of an event that does. -/
theorem mem_map_line_iff (formatter : Formatter) (h : ¬ source.IsEmpty) (line : Level × Text) :
    line ∈ (formatter.journal source).map Event.line ∧ tellsUnbalanced line = true ↔
      ∃ i token, (tokens source.content)[i]? = some token ∧
        formatter.style.FirstUnbalances (tokens source.content) i ∧
          unbalancedLine i token = line := by
  rw [List.mem_map]
  constructor
  · rintro ⟨⟨event, hevent, rfl⟩, htells⟩
    rw [Event.tellsUnbalanced_line] at htells
    cases event with
    | unbalanced i token =>
      obtain ⟨htoken, hfirst⟩ := (unbalanced_mem_journal_iff h).mp hevent
      exact ⟨i, token, htoken, hfirst, (Event.line_unbalanced i token).symm⟩
    | _ => cases htells
  · rintro ⟨i, token, htoken, hfirst, rfl⟩
    have hevent : .unbalanced i token ∈ formatter.journal source :=
      (unbalanced_mem_journal_iff h).mpr ⟨htoken, hfirst⟩
    rw [← Event.line_unbalanced]
    exact ⟨⟨_, hevent, rfl⟩, Event.tellsUnbalanced_line _⟩

end Formatter

/-- The lines of a document that is not empty: the document, if it is traced, then the lines of each
position, and a summary. What a trace adds is information only. At most one line tells of an
unbalanced tag; it names the first by which more tags are closed than were opened to indent, and
stands there whenever there is one. The result does not hang on the trace, and neither the result
nor the journal on what the formatter was used for before. -/
theorem journal_format_eq (formatter : Formatter) (hsource : ¬ source.IsEmpty) :
    let style := formatter.style
    let content := source.content
    let tokens := tokens content
    let result := formatter.format source
    let lines := (formatter.journal source).map Event.line
    lines =
        (if formatter.trace then
          [(.info, "format ===>\n".toList ++ content ++ "<===\n".toList)] else []) ++
        (List.range tokens.length).flatMap (style.linesAt formatter.trace tokens) ++
        [(.debug, "formatted ".toList ++ (toString tokens.length).toList ++ " tokens, ".toList ++
          (toString content.length).toList ++ " -> ".toList ++ (toString result.length).toList ++
          " chars".toList)] ∧
      lines.filter (·.1 = .debug) =
        (Formatter.journal { formatter with trace := false } source).map Event.line ∧
      lines.countP tellsUnbalanced ≤ 1 ∧
      (∀ line, line ∈ lines ∧ tellsUnbalanced line = true ↔
        ∃ i token, tokens[i]? = some token ∧ style.FirstUnbalances tokens i ∧
          unbalancedLine i token = line) ∧
      ((∃ line ∈ lines, tellsUnbalanced line = true) ↔ ∃ i, style.Unbalances tokens i) ∧
      (∀ trace, Formatter.format { formatter with trace } source = result) ∧
      ∀ (last : Text) (requests : List Request),
        (∀ request ∈ requests, request.KeepsFormatter) →
        ∀ i : Nat, requests[i]? = some (.format source) →
          (Session.run ⟨formatter, last⟩ requests)[i]? =
            some (.text result, formatter.journal source) := by
  intro style content tokens result lines
  have hmem := formatter.mem_map_line_iff hsource
  refine ⟨formatter.map_line_journal hsource, ?_, ?_, hmem, ⟨?_, ?_⟩, fun _ => rfl,
    fun last requests hrequests i hi => Session.getElem?_run_format hrequests hi⟩
  · rw [List.filter_map, ← Formatter.filter_debug_journal hsource]
    rfl
  · rw [List.countP_map, show tellsUnbalanced ∘ Event.line = (·.isUnbalanced) from
      funext Event.tellsUnbalanced_line]
    exact Formatter.countP_journal_le hsource
  · rintro ⟨line, hline, htells⟩
    obtain ⟨i, -, -, hfirst, -⟩ := (hmem line).mp ⟨hline, htells⟩
    exact ⟨i, hfirst.1⟩
  · rintro ⟨i, hi⟩
    obtain ⟨j, hj⟩ := Style.exists_firstUnbalances hi
    obtain ⟨token, htoken, -⟩ := (Option.any_eq_true _ _).mp hj.1.1
    obtain ⟨hline, htells⟩ := (hmem _).mpr ⟨j, token, htoken, hj, rfl⟩
    exact ⟨_, hline, htells⟩

/-- Of these two closing tags without opening tags the first is told, behind its own line in the
trace, and again when the document is formatted again. The blank in front of it counts as a token
and has no line. -/
theorem journal_format_eq_bold :
    let formatter : Formatter := { trace := true }
    let source : Source := .text "<!--c--><br/><p>x</p> </b></b>".toList
    let result : Text := "<!--c-->\n<br/>\n<p>\n    x\n</p></b></b>".toList
    let requests : List Request := [.format source, .again, .format source]
    ¬ source.IsEmpty ∧
      (∀ request ∈ requests, request.KeepsFormatter) ∧
      formatter.style.FirstUnbalances (tokens source.content) 6 ∧
      (formatter.journal source).map Event.line =
        [(.info, "format ===>\n<!--c--><br/><p>x</p> </b></b><===\n".toList),
          (.info, "  0: comment '' depth=0".toList),
          (.info, "  1: standalone '' depth=0".toList),
          (.info, "  2: opening 'p' depth=0".toList),
          (.info, "  3: text '' depth=1".toList),
          (.info, "  4: closing 'p' depth=1".toList),
          (.info, "  6: closing 'b' depth=0".toList),
          (.debug, "unbalanced closing tag </b> at token 6".toList),
          (.info, "  7: closing 'b' depth=-1".toList),
          (.debug, "formatted 8 tokens, 30 -> 37 chars".toList)] ∧
      (Session.run ⟨formatter, []⟩ requests)[2]? =
        some (.text result, formatter.journal source) := by
  intro formatter source result requests
  have hsource : ¬ source.IsEmpty := List.cons_ne_nil _ _
  have hrequests : ∀ request ∈ requests, request.KeepsFormatter := by
    simp [requests, Request.KeepsFormatter]
  have hresult : formatter.format source = result := by decide
  obtain ⟨hlines, -, -, hmem, -, -, hrun⟩ := journal_format_eq formatter hsource
  have hagain := hrun [] requests hrequests 2 rfl
  rw [hresult] at hagain
  refine ⟨hsource, hrequests, by decide, ?_, hagain⟩
  rw [hlines]
  decide

end MarkupLayout
