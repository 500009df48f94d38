import MarkupLayout.Proofs.Layout.Nesting

/-!
# The depths of matched tags

An opening tag is matched by the closing tag behind which, for the first time, as many tags have
been closed as opened since; names do not count. Every closing tag lowers the depth, but a flush
opening tag does not raise it. So a closing tag is laid out as many levels above its opening tag as
there are flush opening tags from the one to the other.
-/

namespace MarkupLayout

open Cursor

/-- The opening tags among some tokens, less the closing tags. -/
def balance (tokens : List Token) : Int :=
  tokens.countP (·.kind = .opening) - tokens.countP (·.kind = .closing)

/-- An opening tag and the token that matches it: the first behind it up to which, both included,
as many tags are closed as opened. -/
structure Matches (tokens : List Token) (i j : Nat) : Prop where
  opens : ∃ opening ∈ tokens[i]?, opening.kind = .opening
  lt : i < j
  balanced : balance (tokens.extract i (j + 1)) = 0
  first : ∀ k < j, i < k → balance (tokens.extract i (k + 1)) ≠ 0

namespace Style

/-- Whether a token is the opening tag of a flush element. -/
def opensFlush (style : Style) (token : Token) : Bool :=
  token.kind = .opening && token.name ∈ style.flushTags

/-- The depth at which the token at a position is laid out: that behind the tokens before it, or
one less for a closing tag. -/
def depthAt (style : Style) (tokens : List Token) (i : Nat) : Int :=
  (after style {} (tokens.take i)).depth - if tokens[i]?.any (·.kind = .closing) then 1 else 0

end Style

variable {style : Style} {tokens inside : List Token} {token opening : Token} {i j : Nat}

/-! ### Balances -/

/-- No tags are balanced. -/
@[simp] theorem balance_nil : balance [] = 0 := rfl

/-- The balance of two lists is the sum of their balances. -/
theorem balance_append (before behind : List Token) :
    balance (before ++ behind) = balance before + balance behind := by
  simp only [balance, List.countP_append]
  omega

/-- A token in front counts apart. -/
theorem balance_cons (token : Token) (behind : List Token) :
    balance (token :: behind) = balance [token] + balance behind :=
  balance_append [token] behind

private theorem balance_of_opening (h : token.kind = .opening) : balance [token] = 1 := by
  simp [balance, h]

/-- Only a closing tag lowers a balance, and only by one. -/
theorem balance_singleton (token : Token) :
    0 ≤ balance [token] ∨ token.kind = .closing ∧ balance [token] = -1 := by
  by_cases h : token.kind = .closing
  · exact .inr ⟨h, by simp [balance, h]⟩
  · have hnone : [token].countP (·.kind = .closing) = 0 := by
      rw [List.countP_singleton, if_neg (by simpa using h)]
    refine .inl ?_
    rw [balance, hnone]
    omega

/-- The depth behind some tokens is their balance, less the flush opening tags. -/
theorem Style.depthBehind_eq_balance (style : Style) (tokens : List Token) :
    style.depthBehind tokens = balance tokens - tokens.countP style.opensFlush := by
  have hsplit : tokens.countP (·.kind = .opening) =
      tokens.countP (fun token => token.kind = .opening && token.name ∉ style.flushTags) +
        tokens.countP style.opensFlush := by
    rw [List.countP_eq_countP_filter_add _ _ fun token => decide (token.name ∉ style.flushTags),
      List.countP_filter, List.countP_filter]
    simp only [decide_not, Bool.not_not]
    rfl
  rw [depthBehind, balance]
  omega

/-! ### Matched tags -/

-- The token that first takes a level below zero is a closing tag, and the tokens before it take
-- the level to zero.
private theorem exists_eq_append_closing {level n : Nat} (h : level + balance (tokens.take n) = -1)
    (hfirst : ∀ m < n, level + balance (tokens.take m) ≠ -1) :
    ∃ inside closing behind, tokens = inside ++ closing :: behind ∧ inside.length + 1 = n ∧
      closing.kind = .closing ∧ level + balance inside = 0 := by
  -- any level that is not negative, since an opening tag in front raises it
  induction tokens generalizing level n with
  | nil =>
    rw [List.take_nil, balance_nil] at h
    omega
  | cons token rest ih =>
    cases n with
    | zero =>
      rw [List.take_zero, balance_nil] at h
      omega
    | succ n =>
      have hrest : ∀ m < n, level + balance [token] + balance (rest.take m) ≠ -1 := by
        intro m hm
        rw [Int.add_assoc, ← balance_cons, ← List.take_succ_cons]
        exact hfirst (m + 1) (Nat.succ_lt_succ hm)
      rw [List.take_succ_cons, balance_cons, ← Int.add_assoc] at h
      by_cases hbelow : level + balance [token] = -1
      · obtain hle | ⟨hclosing, hbalance⟩ := balance_singleton token
        · omega
        · -- this tag leads below zero, so no other one is taken
          obtain rfl : n = 0 := by
            by_contra hn
            exact hrest 0 (Nat.pos_of_ne_zero hn) (by rw [List.take_zero, balance_nil]; omega)
          exact ⟨[], token, rest, rfl, rfl, hclosing, by rw [balance_nil]; omega⟩
      · obtain ⟨level', hlevel⟩ : ∃ level' : Nat, level + balance [token] = level' := by
          apply Int.eq_ofNat_of_zero_le
          obtain hle | ⟨-, hbalance⟩ := balance_singleton token <;> omega
        rw [hlevel] at h hrest
        obtain ⟨inside, closing, behind, rfl, rfl, hclosing, hinside⟩ := ih h hrest
        refine ⟨token :: inside, closing, behind, rfl, rfl, hclosing, ?_⟩
        rw [balance_cons, ← Int.add_assoc, hlevel, hinside]

private theorem balance_extract (htoken : tokens[i]? = some token) (h : token.kind = .opening)
    (m : Nat) :
    balance (tokens.extract i (i + m + 1)) = 1 + balance ((tokens.drop (i + 1)).take m) := by
  obtain ⟨hi, rfl⟩ := List.getElem?_eq_some_iff.mp htoken
  rw [List.extract_eq_take_drop, List.drop_eq_getElem_cons hi, Nat.add_assoc,
    Nat.add_sub_cancel_left, List.take_succ_cons, balance_cons, balance_of_opening h]

private theorem Matches.exists_tags (h : Matches tokens i j) :
    ∃ opening closing, tokens[i]? = some opening ∧ tokens[j]? = some closing ∧
      opening.kind = .opening ∧ closing.kind = .closing ∧
      balance (tokens.extract (i + 1) j) = 0 ∧
      tokens.take j = tokens.take i ++ opening :: tokens.extract (i + 1) j := by
  obtain ⟨opening, hopening, hkind⟩ := h.opens
  obtain ⟨hi, rfl⟩ := List.getElem?_eq_some_iff.mp hopening
  obtain ⟨n, rfl⟩ := Nat.exists_eq_add_of_le (Nat.le_of_lt h.lt)
  -- the opening tag is left out: the tokens behind it lead below zero where all are balanced
  have hbelow : (0 : Nat) + balance ((tokens.drop (i + 1)).take n) = -1 := by
    have hbalanced := h.balanced
    rw [balance_extract hopening hkind] at hbalanced
    omega
  have hfirst : ∀ m < n, (0 : Nat) + balance ((tokens.drop (i + 1)).take m) ≠ -1 := by
    intro m hm
    cases m with
    | zero => simp
    | succ m =>
      have hne := h.first (i + (m + 1)) (by omega) (by omega)
      rw [balance_extract hopening hkind] at hne
      omega
  obtain ⟨inside, closing, behind, hrest, rfl, hclosing, hinside⟩ :=
    exists_eq_append_closing hbelow hfirst
  have hextract : tokens.extract (i + 1) (i + (inside.length + 1)) = inside := by
    rw [List.extract_eq_take_drop, hrest]
    exact List.take_left' (by omega)
  refine ⟨tokens[i], closing, hopening, ?_, hkind, hclosing, ?_, ?_⟩
  · rw [Nat.add_comm inside.length, ← Nat.add_assoc, ← List.getElem?_drop, hrest]
    simp
  · rw [hextract]
    omega
  · rw [hextract, List.take_add, List.drop_eq_getElem_cons hi, List.take_succ_cons, hrest,
      List.take_left' rfl]

/-! ### Depths -/

namespace Style

private theorem depthBehind_of_balanced (style : Style) (hopening : opening.kind = .opening)
    (hinside : balance inside = 0) :
    style.depthBehind (opening :: inside) =
      1 - inside.countP style.opensFlush - if opening.name ∈ style.flushTags then 1 else 0 := by
  have hflush : style.opensFlush opening = decide (opening.name ∈ style.flushTags) := by
    rw [opensFlush, hopening]
    exact Bool.true_and _
  rw [depthBehind_eq_balance, balance_cons, balance_of_opening hopening, hinside,
    List.countP_cons, hflush]
  split
  · next hmem =>
    rw [if_pos (of_decide_eq_true hmem)]
    omega
  · next hmem =>
    rw [if_neg (by simpa using hmem)]
    omega

/-- An opening tag is laid out at the depth behind the tokens before it. -/
theorem depthAt_of_opening (htoken : tokens[i]? = some token) (h : token.kind = .opening) :
    style.depthAt tokens i = style.depthBehind (tokens.take i) := by
  rw [depthAt, depth_after, htoken, Option.any_some, h]
  exact Int.sub_zero _

/-- A closing tag is laid out one level above the tokens before it. -/
theorem depthAt_of_closing (htoken : tokens[i]? = some token) (h : token.kind = .closing) :
    style.depthAt tokens i = style.depthBehind (tokens.take i) - 1 := by
  rw [depthAt, depth_after, htoken, Option.any_some, h]
  rfl

private theorem getElem?_fragments_of_opening (htoken : tokens[i]? = some token)
    (h : token.kind = .opening) :
    (fragments style {} tokens)[i]? =
      some (.line (style.depthAt tokens i) token.content.trim) := by
  rw [getElem?_fragments, htoken, Option.map_some, place_of_opening h, depth_after,
    depthAt_of_opening htoken h]

private theorem getElem?_fragments_of_closing (htoken : tokens[i]? = some token)
    (h : token.kind = .closing) :
    (fragments style {} tokens)[i]? = some (.joined token.content.trim) ∨
      (fragments style {} tokens)[i]? =
        some (.line (style.depthAt tokens i) token.content.trim) := by
  rw [getElem?_fragments, htoken, Option.map_some, depthAt_of_closing htoken h, ← depth_after]
  exact (place_eq_joined_or_line h).imp (congrArg some) (congrArg some)

end Style

/-- An opening tag begins a line at its depth, and the tag that matches it is a closing tag, which
begins a line at its own or stays on the line. It is laid out above the opening tag by one level for
each flush opening tag between the two, and by one more if the opening tag is flush itself: so the
depth comes back exactly if none of them is. -/
theorem Matches.depthAt_eq (style : Style) (h : Matches tokens i j) :
    ∃ opening closing, tokens[i]? = some opening ∧ tokens[j]? = some closing ∧
      opening.kind = .opening ∧ closing.kind = .closing ∧
      (fragments style {} tokens)[i]? =
        some (.line (style.depthAt tokens i) opening.content.trim) ∧
      ((fragments style {} tokens)[j]? = some (.joined closing.content.trim) ∨
        (fragments style {} tokens)[j]? =
          some (.line (style.depthAt tokens j) closing.content.trim)) ∧
      style.depthAt tokens j = style.depthAt tokens i -
        (tokens.extract (i + 1) j).countP style.opensFlush -
          (if opening.name ∈ style.flushTags then 1 else 0) ∧
      (style.depthAt tokens j = style.depthAt tokens i ↔ opening.name ∉ style.flushTags ∧
        ∀ token ∈ tokens.extract (i + 1) j,
          token.kind = .opening → token.name ∉ style.flushTags) := by
  obtain ⟨opening, closing, hi, hj, hopening, hclosing, hinside, htake⟩ := h.exists_tags
  have hdepth : style.depthAt tokens j = style.depthAt tokens i -
      (tokens.extract (i + 1) j).countP style.opensFlush -
        (if opening.name ∈ style.flushTags then 1 else 0) := by
    rw [Style.depthAt_of_opening hi hopening, Style.depthAt_of_closing hj hclosing, htake,
      Style.depthBehind_append, style.depthBehind_of_balanced hopening hinside]
    omega
  have hnone : (tokens.extract (i + 1) j).countP style.opensFlush = 0 ↔
      ∀ token ∈ tokens.extract (i + 1) j,
        token.kind = .opening → token.name ∉ style.flushTags := by
    simp [Style.opensFlush]
  refine ⟨opening, closing, hi, hj, hopening, hclosing,
    Style.getElem?_fragments_of_opening hi hopening,
    Style.getElem?_fragments_of_closing hj hclosing, hdepth, ?_⟩
  rw [hdepth, ← hnone]
  by_cases hflush : opening.name ∈ style.flushTags
  · rw [if_pos hflush]
    exact iff_of_false (by omega) fun hall => hall.1 hflush
  · rw [if_neg hflush, and_iff_right hflush]
    omega

/-- Among these tags, the fourth closing tag matches the first opening tag, in front of which the
depth is negative. This tag and one of the two others between are flush. -/
theorem Matches.depthAt_eq_document :
    let tokens := MarkupLayout.tokens "</i><html><p><meta></p></html></div>".toList
    Matches tokens 1 6 ∧ ({} : Style).depthAt tokens 1 = -1 ∧
      ({} : Style).depthAt tokens 6 = -1 - 1 - 1 := by
  intro tokens
  have hfirst : tokens[1]? = some (.ofPiece "<html>".toList) := by decide
  have hmatches : Matches tokens 1 6 :=
    ⟨⟨_, hfirst, rfl⟩, by decide, by decide, by decide⟩
  have hdepth : ({} : Style).depthAt tokens 1 = -1 := by decide
  obtain ⟨opening, closing, hopening, -, -, -, -, -, heq, -⟩ := Matches.depthAt_eq {} hmatches
  obtain rfl := Option.some.inj (hfirst.symm.trans hopening)
  refine ⟨hmatches, hdepth, heq.trans ?_⟩
  rw [hdepth]
  decide

end MarkupLayout
