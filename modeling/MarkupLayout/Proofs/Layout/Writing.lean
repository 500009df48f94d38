import MarkupLayout.Proofs.Layout.Placing

/-!
# Writing lists of tokens

From a cursor on, a list of tokens writes its fragments one after another and leaves a cursor
behind. Lists can be written part by part where no text stands at the boundary. What pieces write
ends in ink, and a document begins with ink except for the line feed of its first line: this line
feed is all that the last trimming of a layout takes.
-/

namespace MarkupLayout
namespace Cursor

open Text Markup

/-- The cursor after a list of tokens. -/
def after (style : Style) (cursor : Cursor) (tokens : List Token) : Cursor :=
  tokens.foldl (advance style) cursor

/-- What a list of tokens writes from a cursor on. -/
def write (style : Style) (cursor : Cursor) (tokens : List Token) : Text :=
  (fragments style cursor tokens).flatMap (·.render style)

variable {style : Style} {cursor : Cursor} {piece tail : Text} {parts : List Text}
  {token : Token}

/-- No tokens write nothing. -/
@[simp] theorem write_nil (style : Style) (cursor : Cursor) : write style cursor [] = [] := rfl

/-- The first token writes its fragment, the others write on from the cursor behind it. -/
theorem write_cons (style : Style) (cursor : Cursor) (token : Token) (tokens : List Token) :
    write style cursor (token :: tokens) =
      (cursor.place style token tokens.head?).render style ++
        write style (cursor.advance style token) tokens := rfl

/-- The cursor moves token by token. -/
theorem after_cons (style : Style) (cursor : Cursor) (token : Token) (tokens : List Token) :
    after style cursor (token :: tokens) = after style (cursor.advance style token) tokens := rfl

/-- A blank token leaves the cursor where it is. -/
theorem advance_of_isBlank (h : token.isBlank = true) : cursor.advance style token = cursor := by
  rw [advance, if_pos h]

/-- A blank piece in front writes nothing. -/
theorem write_cons_of_allBlank (h : AllBlank piece) (tokens : List Token) :
    write style cursor (.ofPiece piece :: tokens) = write style cursor tokens := by
  rw [write_cons, place_of_allBlank h, advance_of_isBlank (Token.isBlank_ofPiece.mpr h)]
  rfl

/-- Lists can be written one after the other where the first does not end with a text. -/
theorem write_append {before : List Token} (h : ∀ token ∈ before.getLast?, token.kind ≠ .text)
    (tokens : List Token) :
    write style cursor (before ++ tokens) =
      write style cursor before ++ write style (after style cursor before) tokens := by
  induction before generalizing cursor with
  | nil => rfl
  | cons token rest ih =>
    rw [List.cons_append, write_cons, write_cons, after_cons]
    cases rest with
    | nil =>
      have hk : token.kind ≠ .text := h token rfl
      rw [place_eq_of_ne_text hk _ none, write_nil, List.append_nil]
      rfl
    | cons next rest =>
      have hlast : ∀ last ∈ (next :: rest).getLast?, last.kind ≠ .text := by
        intro last hl
        exact h last (by rwa [List.getLast?_cons_cons])
      rw [ih hlast, List.append_assoc]
      rfl

/-- The token behind another one is the first of those that follow. -/
theorem getElem?_length_succ (before : List Token) (token : Token) (behind : List Token) :
    (before ++ token :: behind)[before.length + 1]? = behind.head? := by
  rw [List.getElem?_append_right (Nat.le_succ _), Nat.succ_sub (Nat.le_refl _), Nat.sub_self,
    List.getElem?_cons_succ, List.head?_eq_getElem?]

/-- Each token is placed from the cursor that the tokens before it leave. -/
theorem getElem?_fragments (style : Style) (cursor : Cursor) (tokens : List Token) (i : Nat) :
    (fragments style cursor tokens)[i]? = tokens[i]?.map fun token =>
      (after style cursor (tokens.take i)).place style token tokens[i + 1]? := by
  induction tokens generalizing cursor i with
  | nil => rfl
  | cons token rest ih =>
    cases i with
    | zero =>
      rw [fragments, List.head?_eq_getElem?]
      rfl
    | succ i =>
      rw [fragments, List.getElem?_cons_succ, ih, List.take_succ_cons, after_cons]
      rfl

/-! ### Texts and tags in turn -/

private theorem write_paired_append (h : Paired parts) (tokens : List Token) :
    write style cursor (parts.map .ofPiece ++ tokens) =
      write style cursor (parts.map .ofPiece) ++
        write style (after style cursor (parts.map .ofPiece)) tokens := by
  apply write_append
  intro token hl
  obtain rfl | ⟨front, tag, htag, rfl⟩ := h.eq_nil_or_concat
  · cases hl
  · rw [List.map_append, List.map_singleton, List.getLast?_concat] at hl
    obtain rfl := Option.some.inj hl
    exact Kind.ofPiece_ne_text htag

private theorem write_filter_append (h : Paired parts) (tail : Text) :
    write style cursor (((parts ++ [tail]).filter fun part => !part.isEmpty).map .ofPiece) =
      write style cursor ((parts ++ [tail]).map .ofPiece) := by
  induction h generalizing cursor with
  | nil =>
    cases tail with
    | nil => exact (write_cons_of_allBlank allBlank_nil []).symm
    | cons c tail => rfl
  | @cons gap tag parts _ htag _ ih =>
    have hk : (Token.ofPiece tag).kind ≠ .text := Kind.ofPiece_ne_text htag
    have htail (cursor : Cursor) :
        write style cursor (((tag :: (parts ++ [tail])).filter fun part => !part.isEmpty).map
          .ofPiece) = write style cursor ((tag :: (parts ++ [tail])).map .ofPiece) := by
      obtain ⟨t, rfl⟩ := htag.exists_eq_cons
      rw [List.filter_cons_of_pos rfl, List.map_cons, List.map_cons, write_cons, write_cons, ih,
        place_eq_of_ne_text hk]
    cases gap with
    | nil =>
      rw [List.cons_append, List.filter_cons_of_neg (by decide), List.map_cons,
        write_cons_of_allBlank allBlank_nil]
      exact htail cursor
    | cons c gap =>
      have hfirst := htail (cursor.advance style (.ofPiece (c :: gap)))
      obtain ⟨t, rfl⟩ := htag.exists_eq_cons
      rw [List.cons_append, List.filter_cons_of_pos rfl, List.map_cons, List.map_cons, write_cons,
        write_cons, List.cons_append, hfirst]
      rfl

/-- The tokens of a document write what its texts and tags in turn and its last text write. -/
theorem write_tokens {document : Text} (h : Paired parts)
    (hcut : cut .text document.singleLine = parts ++ [tail]) :
    write style cursor (tokens document) =
      write style cursor (parts.map .ofPiece) ++
        ((after style cursor (parts.map .ofPiece)).place style (.ofPiece tail) none).render
          style := by
  rw [tokens, pieces, hcut, write_filter_append h, List.map_append, write_paired_append h,
    List.map_singleton, write_cons, write_nil, List.append_nil]
  rfl

/-! ### The ends of what is written -/

/-- Pieces write nothing if they are all blank. -/
theorem write_eq_nil_iff {pieces : List Text} :
    write style cursor (pieces.map .ofPiece) = [] ↔ ∀ piece ∈ pieces, AllBlank piece := by
  induction pieces generalizing cursor with
  | nil => simp only [List.map_nil, write_nil, List.not_mem_nil, false_implies, implies_true]
  | cons piece pieces ih =>
    rw [List.map_cons, List.forall_mem_cons]
    by_cases h : AllBlank piece
    · rw [write_cons_of_allBlank h, ih, and_iff_right h]
    · refine iff_of_false (fun hw => ?_) (fun hp => h hp.1)
      rw [write_cons, Fragment.render_eq_margin_append] at hw
      have hbody := (List.append_eq_nil_iff.mp (List.append_eq_nil_iff.mp hw).1).2
      exact h (allBlank_body_place.mp (hbody ▸ allBlank_nil))

/-- What pieces write ends in ink. -/
theorem trimRight_write (style : Style) (cursor : Cursor) (pieces : List Text) :
    trimRight (write style cursor (pieces.map .ofPiece)) =
      write style cursor (pieces.map .ofPiece) := by
  induction pieces generalizing cursor with
  | nil => rfl
  | cons piece pieces ih =>
    rw [List.map_cons, write_cons]
    set rest := write style (cursor.advance style (.ofPiece piece)) (pieces.map .ofPiece) with hr
    by_cases hrest : AllBlank rest
    · -- nothing follows, so no closing tag does, and the body of the piece ends in ink
      have hnil : rest = [] := by rw [hr, ← ih, ← hr, trimRight_eq_nil_iff.mpr hrest]
      have hblank := write_eq_nil_iff.mp (hr ▸ hnil)
      have hnext : (pieces.map Token.ofPiece).head?.any style.closesInline = false := by
        cases pieces with
        | nil => rfl
        | cons next pieces =>
          have hk : (Token.ofPiece next).kind = .text :=
            Kind.ofPiece_of_allBlank (hblank next List.mem_cons_self)
          simp only [List.map_cons, List.head?_cons, Option.any_some, Style.closesInline, hk]
          rfl
      rw [hnil, List.append_nil]
      by_cases hp : AllBlank piece
      · rw [place_of_allBlank hp]
        rfl
      · rw [Fragment.render_eq_margin_append,
          trimRight_append_of_not_allBlank (mt allBlank_body_place.mp hp),
          trimRight_body_place hnext]
    · rw [trimRight_append_of_not_allBlank hrest, hr, ih]

/-- Outside all tags, what pieces write begins with ink, except for the line feed of its line. -/
theorem write_eq_trim_or (hdepth : cursor.depth ≤ 0) (hhosting : cursor.hosting = false)
    (pieces : List Text) :
    write style cursor (pieces.map .ofPiece) =
        trim (write style cursor (pieces.map .ofPiece)) ∨
      write style cursor (pieces.map .ofPiece) =
        '\n' :: trim (write style cursor (pieces.map .ofPiece)) := by
  rw [← trimLeft_trimRight, trimRight_write]
  induction pieces with
  | nil => exact .inl rfl
  | cons piece pieces ih =>
    rw [List.map_cons]
    by_cases h : AllBlank piece
    · rwa [write_cons_of_allBlank h]
    · obtain ⟨body, htrim, hink, hbody | hbody⟩ :=
        render_place_of_outside style hdepth hhosting h (pieces.map Token.ofPiece).head?
      all_goals have hleft : trimLeft body = body := by rw [← htrim, trimLeft_trim]
      · rw [write_cons, hbody, trimLeft_append_of_not_allBlank hink, hleft]
        exact .inl rfl
      · have hlf : trimLeft ('\n' :: body) = body := by
          rw [← List.singleton_append, trimLeft_append_of_allBlank (by decide), hleft]
        have hink' : ¬ AllBlank ('\n' :: body) := mt (fun hb => (allBlank_cons.mp hb).2) hink
        rw [write_cons, hbody, trimLeft_append_of_not_allBlank hink', hlf]
        exact .inr rfl

end Cursor

open Cursor

/-- A layout is what its tokens write, without the line feed of the first line. -/
theorem write_eq_layout_or (style : Style) (pieces : List Text) :
    write style {} (pieces.map .ofPiece) = layout style (pieces.map .ofPiece) ∨
      write style {} (pieces.map .ofPiece) = '\n' :: layout style (pieces.map .ofPiece) :=
  write_eq_trim_or (Int.le_refl 0) rfl pieces

/-- On one line, a layout is what its tokens write. -/
theorem singleLine_layout (style : Style) (pieces : List Text) :
    (layout style (pieces.map .ofPiece)).singleLine =
      (write style {} (pieces.map .ofPiece)).singleLine := by
  obtain h | h := write_eq_layout_or style pieces
  · rw [h]
  · rw [h]
    rfl

end MarkupLayout
