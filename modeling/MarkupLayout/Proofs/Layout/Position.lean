import MarkupLayout.Proofs.Layout.Writing

/-!
# Layouts by position

What a token contributes to a layout can be told from its position alone, without walking through
the tokens before it: from how many tags were opened and closed before, from the nearest token
that is not blank, from the last opening tag and from the token that follows.
-/

namespace MarkupLayout

open Cursor

namespace Style

variable (style : Style)

/-- The depth behind some tokens: the opening tags that indent, less the closing tags. -/
def depthBehind (before : List Token) : Int :=
  before.countP (fun token => token.kind = .opening && token.name ∉ style.flushTags) -
    before.countP (·.kind = .closing)

/-- Whether the last token that is not blank is an opening tag. -/
def opensBehind (before : List Token) : Bool :=
  (before.reverse.find? (!·.isBlank)).any (·.kind = .opening)

/-- Whether the last opening tag is inline and no text that is not blank stands behind it. -/
def hostsBehind (before : List Token) : Bool :=
  (before.reverse.find? (·.kind = .opening)).any (·.name ∈ style.inlineTags) &&
    (before.reverse.takeWhile (·.kind ≠ .opening)).all fun token =>
      token.kind ≠ .text || token.isBlank

/-- What the token at a position writes. -/
def fragmentAt (tokens : List Token) (i : Nat) : Text :=
  let depth := style.depthBehind (tokens.take i)
  match tokens[i]? with
  | none => []
  | some token =>
    match token.kind with
    | .other _ => []
    | .opening | .standalone | .comment => '\n' :: style.indent depth ++ token.content.trim
    | .closing =>
      if token.name ∈ style.inlineTags || opensBehind (tokens.take i) then token.content.trim
      else '\n' :: style.indent (depth - 1) ++ token.content.trim
    | .text =>
      if token.isBlank then []
      else if style.hostsBehind (tokens.take i) then
        if tokens[i + 1]?.any style.closesInline then token.content.squeeze
        else token.content.squeeze.trimRight
      else '\n' :: style.indent depth ++ token.content.squeeze.trim

/-! ### One more token -/

variable {style} (before : List Token) (token : Token)

/-- The depth rises behind an opening tag that indents and sinks behind a closing tag. -/
theorem depthBehind_concat :
    style.depthBehind (before ++ [token]) = style.depthBehind before +
      (if token.kind = .opening ∧ token.name ∉ style.flushTags then 1 else 0) -
      (if token.kind = .closing then 1 else 0) := by
  simp only [depthBehind, List.countP_append, List.countP_singleton, Bool.and_eq_true,
    decide_eq_true_eq]
  by_cases ho : token.kind = .opening ∧ token.name ∉ style.flushTags
  · have hc : token.kind ≠ .closing := by
      rw [ho.1]
      decide
    rw [if_pos ho, if_pos ho, if_neg hc, if_neg hc]
    omega
  · rw [if_neg ho, if_neg ho]
    split <;> omega

-- The last token that is not blank is the new one, unless that is blank.
private theorem opensBehind_concat :
    opensBehind (before ++ [token]) =
      if token.isBlank then opensBehind before else token.kind = .opening := by
  rw [opensBehind, List.reverse_concat, List.find?_cons]
  cases token.isBlank <;> rfl

-- A new opening tag decides by itself, and a new text can only end the line.
private theorem hostsBehind_concat :
    style.hostsBehind (before ++ [token]) =
      if token.kind = .opening then decide (token.name ∈ style.inlineTags)
      else (token.kind ≠ .text || token.isBlank) && style.hostsBehind before := by
  rw [hostsBehind, List.reverse_concat, List.find?_cons, List.takeWhile_cons]
  by_cases hk : token.kind = .opening
  · simp only [hk, decide_true, Option.any_some, ne_eq, not_true_eq_false, decide_false,
      Bool.false_eq_true, if_false, if_true, List.all_nil, Bool.and_true]
  · simp only [hk, decide_false, ne_eq, not_false_eq_true, decide_true, if_true, if_false,
      List.all_cons, hostsBehind]
    exact Bool.and_left_comm ..

end Style

variable {style : Style} {cursor : Cursor} {before : List Token}

/-- What a cursor knows of the tokens before it. -/
structure Cursor.Describes (style : Style) (cursor : Cursor) (before : List Token) : Prop where
  depth : cursor.depth = style.depthBehind before
  hosting : cursor.hosting = style.hostsBehind before
  afterOpening : cursor.afterOpening = Style.opensBehind before

namespace Cursor.Describes

/-- The first cursor has no tokens before it. -/
theorem initial (style : Style) : Describes style {} [] := ⟨rfl, rfl, rfl⟩

/-- A cursor that moves on knows of the token as well. -/
theorem advance (h : Describes style cursor before) (token : Token) :
    Describes style (cursor.advance style token) (before ++ [token]) := by
  by_cases hb : token.isBlank = true
  · have hk : token.kind = .text := Token.kind_of_isBlank hb
    rw [advance_of_isBlank hb]
    refine ⟨?_, ?_, ?_⟩
    · rw [Style.depthBehind_concat, hk, ← h.depth]
      simp
    · rw [Style.hostsBehind_concat, hk, hb, ← h.hosting]
      simp
    · rw [Style.opensBehind_concat, if_pos hb, ← h.afterOpening]
  · rw [Cursor.advance, if_neg hb]
    refine ⟨?_, ?_, ?_⟩
    · rw [Style.depthBehind_concat, ← h.depth]
      cases hk : token.kind with
      | opening => by_cases hf : token.name ∈ style.flushTags <;> simp [hf]
      | _ => simp
    · rw [Style.hostsBehind_concat, ← h.hosting]
      cases hk : token.kind <;> simp [hb]
    · rw [Style.opensBehind_concat, if_neg hb]
      cases hk : token.kind <;> rfl

/-- A cursor that moves behind some tokens knows of them as well. -/
theorem after (h : Describes style cursor before) (tokens : List Token) :
    Describes style (cursor.after style tokens) (before ++ tokens) := by
  induction tokens generalizing cursor before with
  | nil => rwa [List.append_nil]
  | cons token rest ih =>
    rw [after_cons, List.append_cons]
    exact ih (h.advance token)

private theorem render_place (h : Describes style cursor before) (token : Token)
    (rest : List Token) :
    (cursor.place style token rest.head?).render style =
      style.fragmentAt (before ++ token :: rest) before.length := by
  unfold Style.fragmentAt Cursor.place
  rw [getElem?_length_succ, List.getElem?_append_right (Nat.le_refl _), Nat.sub_self,
    List.getElem?_cons_zero, List.take_left' rfl]
  dsimp only
  rw [← h.depth, ← h.hosting, ← h.afterOpening]
  by_cases hb : token.isBlank = true
  · have hk : token.kind = .text := Token.kind_of_isBlank hb
    rw [if_pos hb, hk]
    exact (if_pos hb).symm
  · rw [if_neg hb]
    cases hk : token.kind with
    | closing =>
      have hinline : style.closesInline token = decide (token.name ∈ style.inlineTags) := by
        rw [Style.closesInline, hk]
        exact Bool.true_and _
      dsimp only
      rw [hinline]
      split <;> rfl
    | text =>
      dsimp only
      rw [if_neg hb]
      split
      · split <;> rfl
      · rfl
    | _ => rfl

end Cursor.Describes

/-- Behind any tokens, the fragments of the others are those at their positions. -/
theorem Cursor.map_render_fragments {cursor : Cursor} {before : List Token}
    (h : Describes style cursor before) (tokens : List Token) :
    (fragments style cursor tokens).map (·.render style) =
      (List.range' before.length tokens.length).map (style.fragmentAt (before ++ tokens)) := by
  induction tokens generalizing cursor before with
  | nil => rfl
  | cons token rest ih =>
    have hrest := ih (h.advance token)
    rw [List.append_assoc, List.singleton_append, List.length_append, List.length_singleton]
      at hrest
    rw [fragments, List.map_cons, hrest, h.render_place, List.length_cons, List.range'_succ,
      List.map_cons]

/-- A layout is the trimmed text of the fragments at all positions, in order. -/
theorem layout_eq_trim_fragmentAt (style : Style) (tokens : List Token) :
    layout style tokens =
      Text.trim ((List.range tokens.length).flatMap (style.fragmentAt tokens)) := by
  have h := Cursor.map_render_fragments (.initial style) tokens
  rw [List.nil_append, List.length_nil, ← List.range_eq_range'] at h
  rw [layout, List.flatMap_def, h, ← List.flatMap_def]

end MarkupLayout
