import Mathlib.Data.Nat.Find
import MarkupLayout.Proofs.Layout.Position
import MarkupLayout.Proofs.Text.Decoding
import MarkupLayout.Session

/-!
# Journals by position

What a journal tells about a token can be told from its position: a trace tells of every token that
is not blank, with the depth behind the tokens before it, and of all closing tags by which more tags
are closed than were opened to indent, the first one is told. So that is told once at most, and it
is told whenever there is such a tag, however often the depth sinks below zero and rises again
(specification §10.4).
-/

namespace MarkupLayout

open Cursor

section Tokens

variable {style : Style} {trace told : Bool} {tokens before rest : List Token} {token : Token}
  {cursor : Cursor} {i : Nat}

namespace Style

/-- Whether the token at a position is a closing tag by which more tags are closed, itself
included, than tags that indent are opened before it. -/
def Unbalances (style : Style) (tokens : List Token) (i : Nat) : Prop :=
  tokens[i]?.any (·.kind = .closing) = true ∧
    (tokens.take i).countP (fun token => token.kind = .opening && token.name ∉ style.flushTags) <
      (tokens.take (i + 1)).countP (·.kind = .closing)

/-- Decided by counting. -/
instance : Decidable (style.Unbalances tokens i) := inferInstanceAs (Decidable (_ ∧ _))

/-- Whether the token at a position is the first closing tag by which more tags are closed than
tags that indent are opened before it. -/
def FirstUnbalances (style : Style) (tokens : List Token) (i : Nat) : Prop :=
  style.Unbalances tokens i ∧ ∀ j < i, ¬ style.Unbalances tokens j

/-- Decided by looking at the positions before. -/
instance : Decidable (style.FirstUnbalances tokens i) := inferInstanceAs (Decidable (_ ∧ _))

/-- What a journal tells about the token at a position. -/
def eventsAt (style : Style) (trace : Bool) (tokens : List Token) (i : Nat) : List Event :=
  match tokens[i]? with
  | none => []
  | some token =>
    if token.isBlank then []
    else
      (if trace then [.reached i token (style.depthBehind (tokens.take i))] else []) ++
      (if style.FirstUnbalances tokens i then [.unbalanced i token] else [])

private theorem unbalances_append_cons_iff :
    style.Unbalances (before ++ token :: rest) before.length ↔
      token.kind = .closing ∧ style.depthBehind before ≤ 0 := by
  rw [Unbalances, List.getElem?_append_right (Nat.le_refl _), Nat.sub_self, List.getElem?_cons_zero,
    Option.any_some, decide_eq_true_iff, List.take_left, List.take_length_add_append,
    List.take_succ_cons, List.take_zero, List.countP_append]
  apply and_congr_right
  intro hk
  rw [List.countP_singleton, if_pos (decide_eq_true hk), depthBehind]
  omega

/-- If any tag unbalances the tags, a first one does. -/
theorem exists_firstUnbalances (h : style.Unbalances tokens i) :
    ∃ j, style.FirstUnbalances tokens j :=
  ⟨Nat.find ⟨i, h⟩, Nat.find_spec ⟨i, h⟩, fun _ hj => Nat.find_min ⟨i, h⟩ hj⟩

end Style

/-! ### One token and all tokens -/

namespace Cursor

private theorem Describes.unbalances_iff (h : Describes style cursor before) (token : Token)
    (rest : List Token) :
    cursor.unbalances token = true ↔
      style.Unbalances (before ++ token :: rest) before.length := by
  rw [Style.unbalances_append_cons_iff, unbalances, Bool.and_eq_true, decide_eq_true_iff,
    decide_eq_true_iff, h.depth]

-- What is told about a token is what its position says, as long as `told` says whether some tag
-- before it has unbalanced the tags.
private theorem Describes.eventsAt_eq (h : Describes style cursor before) (trace : Bool)
    (htold : told = true ↔ ∃ j < before.length, style.Unbalances (before ++ token :: rest) j) :
    style.eventsAt trace (before ++ token :: rest) before.length =
      (if trace && !token.isBlank then [.reached before.length token cursor.depth] else []) ++
      (if cursor.unbalances token && !told then [.unbalanced before.length token] else []) := by
  have hfirst : (cursor.unbalances token && !told) = true ↔
      style.FirstUnbalances (before ++ token :: rest) before.length := by
    rw [Bool.and_eq_true, h.unbalances_iff token rest, Bool.not_eq_true', ← Bool.not_eq_true, htold,
      Style.FirstUnbalances]
    simp only [not_exists, not_and]
  rw [Style.eventsAt, List.getElem?_append_right (Nat.le_refl _), Nat.sub_self,
    List.getElem?_cons_zero, List.take_left]
  dsimp only
  by_cases hb : token.isBlank = true
  · -- a blank token is text and so unbalances nothing
    have hnone : cursor.unbalances token = false := by
      rw [unbalances, Token.kind_of_isBlank hb]
      rfl
    rw [if_pos hb, hb, hnone, Bool.not_true, Bool.and_false]
    rfl
  · rw [if_neg hb, Bool.eq_false_iff.mpr hb, Bool.not_false, Bool.and_true, h.depth]
    simp only [hfirst]

/-- Behind any tokens, the events of the others are those at their positions. -/
theorem Describes.events_eq_flatMap (h : Describes style cursor before) (trace : Bool)
    (htold : told = true ↔ ∃ j < before.length, style.Unbalances (before ++ rest) j) :
    events style trace told before.length cursor rest =
      (List.range' before.length rest.length).flatMap
        (style.eventsAt trace (before ++ rest)) := by
  -- the cursor and `told` always say of the tokens before what counting them says
  induction rest generalizing cursor before told with
  | nil => rfl
  | cons token rest ih =>
    have htold' : (told || cursor.unbalances token) = true ↔
        ∃ j < (before ++ [token]).length, style.Unbalances (before ++ [token] ++ rest) j := by
      rw [List.append_assoc, List.singleton_append, List.length_append, List.length_singleton,
        Bool.or_eq_true, htold, h.unbalances_iff token rest, Nat.exists_lt_succ_right]
    have hrest := ih (h.advance token) htold'
    rw [List.append_assoc, List.singleton_append, List.length_append, List.length_singleton]
      at hrest
    rw [events, hrest, List.length_cons, List.range'_succ, List.flatMap_cons,
      h.eventsAt_eq trace htold, List.append_assoc]

end Cursor

/-- A journal tells about all positions in order. -/
theorem journal_eq_flatMap_eventsAt (style : Style) (trace : Bool) (tokens : List Token) :
    journal style trace tokens =
      (List.range tokens.length).flatMap (style.eventsAt trace tokens) := by
  have htold : false = true ↔
      ∃ j < ([] : List Token).length, style.Unbalances ([] ++ tokens) j := by
    simp
  have h := (Cursor.Describes.initial style).events_eq_flatMap trace htold
  rwa [List.nil_append, List.length_nil, ← List.range_eq_range'] at h

/-! ### The first tag that unbalances the tags -/

private theorem unbalanced_mem_eventsAt_iff {position : Nat} :
    .unbalanced position token ∈ style.eventsAt trace tokens i ↔
      i = position ∧ tokens[i]? = some token ∧ style.FirstUnbalances tokens i := by
  unfold Style.eventsAt
  cases htoken : tokens[i]? with
  | none => simp
  | some token' =>
    dsimp only
    split
    · next hb =>
      -- a blank token is text and so unbalances nothing
      have hnone : ¬ style.FirstUnbalances tokens i := by
        intro hfirst
        have hk := hfirst.1.1
        rw [htoken, Option.any_some, Token.kind_of_isBlank hb] at hk
        cases hk
      simp [hnone]
    · simp only [List.mem_append, List.mem_ite_nil_right, List.mem_singleton, reduceCtorEq,
        and_false, false_or, Event.unbalanced.injEq, Option.some.injEq]
      constructor
      · rintro ⟨hfirst, rfl, rfl⟩
        exact ⟨rfl, rfl, hfirst⟩
      · rintro ⟨rfl, rfl, hfirst⟩
        exact ⟨hfirst, rfl, rfl⟩

/-- A journal tells of an unbalanced tag if it is the first that unbalances the tags. -/
theorem unbalanced_mem_journal_iff (trace : Bool) :
    .unbalanced i token ∈ journal style trace tokens ↔
      tokens[i]? = some token ∧ style.FirstUnbalances tokens i := by
  rw [journal_eq_flatMap_eventsAt, List.mem_flatMap]
  simp only [unbalanced_mem_eventsAt_iff, List.mem_range]
  constructor
  · rintro ⟨j, -, rfl, htoken, hfirst⟩
    exact ⟨htoken, hfirst⟩
  · rintro ⟨htoken, hfirst⟩
    exact ⟨i, (List.getElem?_eq_some_iff.mp htoken).1, rfl, htoken, hfirst⟩

/-- Whether an event tells of an unbalanced tag. -/
def Event.isUnbalanced : Event → Bool
  | unbalanced .. => true
  | begun _ | reached .. | done .. => false

namespace Cursor

private theorem countP_events_le (style : Style) (trace told : Bool) (position : Nat)
    (cursor : Cursor) (tokens : List Token) :
    (events style trace told position cursor tokens).countP (·.isUnbalanced) ≤
      if told then 0 else 1 := by
  induction tokens generalizing told position cursor with
  | nil => exact Nat.zero_le _
  | cons token rest ih =>
    have hrest := ih (told || cursor.unbalances token) (position + 1) (cursor.advance style token)
    have hreached : (if trace && !token.isBlank then
        [Event.reached position token cursor.depth] else []).countP (·.isUnbalanced) = 0 := by
      split <;> rfl
    rw [events, List.countP_append, List.countP_append, hreached, Nat.zero_add]
    cases told with
    | true =>
      rw [Bool.not_true, Bool.and_false, if_neg Bool.false_ne_true, List.countP_nil, Nat.zero_add]
      exact hrest
    | false =>
      cases hunbalances : cursor.unbalances token with
      | false =>
        rw [hunbalances] at hrest
        rw [Bool.false_and, if_neg Bool.false_ne_true, List.countP_nil, Nat.zero_add]
        exact hrest
      | true =>
        -- this tag is told, so none is told behind it
        rw [hunbalances] at hrest
        have hone : [Event.unbalanced position token].countP (·.isUnbalanced) = 1 := rfl
        rw [Bool.not_false, Bool.and_self, if_pos rfl, hone, Nat.le_zero.mp hrest]
        exact Nat.le_refl 1

private theorem filter_debug_events (style : Style) (trace told : Bool) (position : Nat)
    (cursor : Cursor) (tokens : List Token) :
    (events style trace told position cursor tokens).filter (·.level = .debug) =
      events style false told position cursor tokens := by
  induction tokens generalizing told position cursor with
  | nil => rfl
  | cons token rest ih =>
    rw [events, events, List.filter_append, List.filter_append, ih]
    congr 2
    · split <;> rfl
    · split <;> rfl

end Cursor
end Tokens

/-! ### Formatters -/

namespace Formatter

variable {formatter : Formatter} {source : Source}

/-- The journal of a document that is not empty: that of its tokens, between the document, if it is
traced, and a summary. -/
theorem journal_of_not_isEmpty (h : ¬ source.IsEmpty) :
    formatter.journal source =
      (if formatter.trace then [.begun source.content] else []) ++
        MarkupLayout.journal formatter.style formatter.trace (tokens source.content) ++
        [.done (tokens source.content).length source.content.length
          (formatter.format source).length] := by
  have hcontent : ¬ source.content.isEmpty = true := by
    rwa [List.isEmpty_iff, Source.content_eq_nil_iff]
  rw [journal]
  exact if_neg hcontent

/-- An event that tells of a token stands in the journal of the tokens. -/
theorem unbalanced_mem_journal_iff (h : ¬ source.IsEmpty) {i : Nat} {token : Token} :
    .unbalanced i token ∈ formatter.journal source ↔
      (tokens source.content)[i]? = some token ∧
        formatter.style.FirstUnbalances (tokens source.content) i := by
  rw [journal_of_not_isEmpty h, ← MarkupLayout.unbalanced_mem_journal_iff formatter.trace]
  simp

/-- A journal tells of one unbalanced tag at most. -/
theorem countP_journal_le (h : ¬ source.IsEmpty) :
    (formatter.journal source).countP (·.isUnbalanced) ≤ 1 := by
  have hbegun : (if formatter.trace then [Event.begun source.content] else []).countP
      (·.isUnbalanced) = 0 := by
    split <;> rfl
  rw [journal_of_not_isEmpty h, List.countP_append, List.countP_append, hbegun, Nat.zero_add]
  exact Cursor.countP_events_le formatter.style formatter.trace false 0 {} _

/-- What a trace adds to a journal is information only. -/
theorem filter_debug_journal (h : ¬ source.IsEmpty) :
    (formatter.journal source).filter (·.level = .debug) =
      journal { formatter with trace := false } source := by
  have hbegun : (if formatter.trace then [Event.begun source.content] else []).filter
      (·.level = .debug) = [] := by
    split <;> rfl
  rw [journal_of_not_isEmpty h, journal_of_not_isEmpty h, List.filter_append, List.filter_append,
    hbegun, MarkupLayout.journal, Cursor.filter_debug_events]
  rfl

end Formatter

/-! ### Sessions -/

/-- Whether a request leaves a session its formatter as it is. -/
def Request.KeepsFormatter : Request → Prop
  | .format _ | .again | .indent _ => True
  | _ => False

namespace Session

variable {session : Session} {request : Request} {requests : List Request} {source : Source}
  {i : Nat}

private theorem formatter_step (h : request.KeepsFormatter) :
    (session.step request).1.formatter = session.formatter := by
  cases request with
  | format _ => rfl
  | again => rfl
  | indent _ => rfl
  | _ => exact h.elim

/-- While the formatter stays as it is, a document is formatted as if it were the first one. -/
theorem getElem?_run_format (h : ∀ request ∈ requests, request.KeepsFormatter)
    (hi : requests[i]? = some (.format source)) :
    (session.run requests)[i]? =
      some (.text (session.formatter.format source), session.formatter.journal source) := by
  obtain ⟨session', hkept, hrun⟩ :=
    exists_getElem?_run (·.formatter = session.formatter)
      (fun hkept hrequest => (formatter_step hrequest).trans hkept) rfl h hi
  rw [hrun, ← hkept]
  rfl

end Session

end MarkupLayout
