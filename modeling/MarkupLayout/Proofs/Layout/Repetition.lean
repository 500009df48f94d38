import MarkupLayout.Proofs.Layout.Respacing

/-!
# Laying out a layout

Read again, the texts and tags of a layout are placed as before: the texts between tags are placed
the same because they show the same, and those in inline tags because what a first layout strips
at their ends is stripped already. So a second layout differs in the text at the end at most. It
does so where this text is a closing tag without its end that stays on the line for its name: its
name may need the blank behind it or be hidden by the blanks in front.
-/

namespace MarkupLayout

open Text Markup

variable {style : Style} {cursor : Cursor} {piece piece' gap tag tail w : Text}
  {parts : List Text} {next? : Option Token}

/-! ### Closing tags that stay on the line -/

/-- Only a closing tag stays on the line for its name. -/
theorem Style.closesInline_of_kind_ne (h : Kind.ofPiece piece ≠ .closing) :
    style.closesInline (.ofPiece piece) = false := by
  have hk : decide ((Token.ofPiece piece).kind = .closing) = false := decide_eq_false h
  rw [Style.closesInline, hk, Bool.false_and]

/-- A piece that is no tag is a closing tag that stays on the line for its name if a space stands
behind the name. -/
theorem Style.closesInline_iff (hstyle : [] ∉ style.inlineTags) (h : Untagged piece) :
    style.closesInline (.ofPiece piece) = true ↔
      ∃ name rest, name ∈ style.inlineTags ∧ (∀ c ∈ name, isWord c = true) ∧
        piece = '<' :: '/' :: (name ++ ' ' :: rest) := by
  have hiff : style.closesInline (.ofPiece piece) = true ↔
      Kind.ofPiece piece = .closing ∧ tagName piece ∈ style.inlineTags := by
    rw [closesInline, Bool.and_eq_true, decide_eq_true_iff, decide_eq_true_iff]
    rfl
  rw [hiff]
  constructor
  · rintro ⟨hk, hname⟩
    obtain ⟨blanks, t, hblanks, rfl⟩ := Kind.exists_of_ofPiece_eq_closing hk
    have hnil : blanks = [] := by
      by_contra hne
      rw [tagName_append_of_allBlank hblanks hne] at hname
      exact hstyle hname
    subst hnil
    have hne : leadingName t ≠ [] := fun he => hstyle (he ▸ hname)
    obtain ⟨hword, c, rest, hc, ht⟩ := (leadingName_eq_iff hne).mp rfl
    have hgt : '>' ∉ t := (untagged_append_cons_iff List.not_mem_nil).mp h
    obtain rfl : c = ' ' := by
      refine hc.resolve_right fun hc => hgt ?_
      rw [ht, hc]
      exact List.mem_append_right _ List.mem_cons_self
    exact ⟨leadingName t, rest, hname, hword, congrArg ('<' :: '/' :: ·) ht⟩
  · rintro ⟨name, rest, hname, hword, rfl⟩
    have hne : name ≠ [] := fun he => hstyle (he ▸ hname)
    refine ⟨Kind.ofPiece_slash _, ?_⟩
    rw [tagName, (leadingName_eq_iff hne).mpr ⟨hword, ' ', rest, .inl rfl, rfl⟩]
    exact hname

/-! ### The same fragments again -/

namespace Cursor

/-- A token that is not blank decides whether it is an opening tag that has come last. -/
theorem afterOpening_advance {token : Token} (h : ¬ token.isBlank = true) :
    (cursor.advance style token).afterOpening = decide (token.kind = .opening) := by
  rw [advance, if_neg h]
  cases token.kind <;> rfl

private theorem advance_respaced (h : Respaced piece piece') (hk : Kind.ofPiece piece ≠ .opening) :
    cursor.advance style (.ofPiece piece') = cursor.advance style (.ofPiece piece) := by
  have hkind : (Token.ofPiece piece').kind = (Token.ofPiece piece).kind := h.kind_eq
  rw [advance, advance, h.isBlank_eq, hkind]
  cases hcase : (Token.ofPiece piece).kind with
  | opening => exact absurd hcase hk
  | _ => rfl

/-- A respaced piece that is not text is placed as the piece if it closes as the piece does, or
follows an opening tag. -/
theorem place_respaced (h : Respaced piece piece') (hk : Kind.ofPiece piece ≠ .text)
    (hclose : style.closesInline (.ofPiece piece') = style.closesInline (.ofPiece piece) ∨
      cursor.afterOpening = true) :
    cursor.place style (.ofPiece piece') next? = cursor.place style (.ofPiece piece) next? := by
  have hkind : (Token.ofPiece piece').kind = (Token.ofPiece piece).kind := h.kind_eq
  have htrim : (Token.ofPiece piece').content.trim = (Token.ofPiece piece).content.trim := h.trim hk
  rw [place, place, h.isBlank_eq, hkind, htrim]
  cases hcase : (Token.ofPiece piece).kind with
  | text => exact absurd hcase hk
  | closing =>
    obtain hc | hc := hclose
    · rw [hc]
    · rw [hc, Bool.or_true, Bool.or_true]
  | _ => rfl

/-- A text is placed the same with its margin in front. Where nothing is stripped at its end, none
of the blanks behind it may be new. -/
theorem place_respaced_text (hunit : AllBlank style.unit) (hk : Kind.ofPiece piece = .text)
    (hw : AllBlank w) (cursor : Cursor) (next? : Option Token)
    (hnext : next?.any style.closesInline = true → w = []) :
    cursor.place style (.ofPiece ((cursor.place style (.ofPiece piece) next?).space style ++
      ((cursor.place style (.ofPiece piece) next?).body ++ w))) next? =
        cursor.place style (.ofPiece piece) next? := by
  have htag : ¬ IsTag piece := fun h => Kind.ofPiece_ne_text h hk
  have hrespaced := Respaced.of_body_place (Fragment.allBlank_space hunit
    (cursor.place style (.ofPiece piece) next?)) hw htag style cursor next?
  by_cases hb : AllBlank piece
  · rw [place_of_allBlank hb] at hrespaced ⊢
    apply place_of_allBlank
    rwa [← shown_eq_nil_iff, hrespaced.shown, shown_eq_nil_iff]
  · rw [place_of_text (hrespaced.kind_eq.trans hk)
      (by rwa [← shown_eq_nil_iff, hrespaced.shown, shown_eq_nil_iff]), hrespaced.shown,
      place_of_text hk hb]
    by_cases hhost : cursor.hosting = true
    · rw [if_pos hhost, if_pos hhost]
      congr 1
      change (if _ then squeeze (_ ++ w) else trimRight (squeeze (_ ++ w))) = _
      by_cases hn : next?.any style.closesInline = true
      · rw [if_pos hn, if_pos hn, hnext hn, List.append_nil]
        exact squeeze_squeeze piece
      · rw [if_neg hn, if_neg hn, trimRight_squeeze, trimRight_append_of_allBlank hw]
        change squeeze (trimRight (trimRight (squeeze piece))) = _
        rw [trimRight_trimRight, trimRight_squeeze, squeeze_squeeze]
    · rw [if_neg hhost, if_neg hhost]

private theorem place_respaceGap (hunit : AllBlank style.unit) (hgap : '<' ∉ gap) :
    cursor.place style (.ofPiece (cursor.respaceGap style gap tag)) (some (.ofPiece tag)) =
      cursor.place style (.ofPiece gap) (some (.ofPiece tag)) := by
  obtain hk | hk := Kind.ofPiece_of_not_mem hgap
  · apply place_respaced_text hunit hk (Fragment.allBlank_space hunit _)
    intro hclose
    rw [place_of_closesInline hclose]
    rfl
  · have hrespaced := respaced_respaceGap hunit hgap cursor tag
    apply place_respaced hrespaced (by rw [hk]; decide)
    rw [Style.closesInline_of_kind_ne (by rw [hrespaced.kind_eq, hk]; decide),
      Style.closesInline_of_kind_ne (by rw [hk]; decide)]
    exact .inl rfl

private theorem advance_respaceGap (hunit : AllBlank style.unit) (hgap : '<' ∉ gap) :
    cursor.advance style (.ofPiece (cursor.respaceGap style gap tag)) =
      cursor.advance style (.ofPiece gap) := by
  apply advance_respaced (respaced_respaceGap hunit hgap cursor tag)
  obtain hk | hk := Kind.ofPiece_of_not_mem hgap <;> rw [hk] <;> decide

/-- Respaced parts leave the cursor that the parts leave. -/
theorem after_respace (hunit : AllBlank style.unit) (h : Paired parts) :
    after style cursor ((respace style cursor parts).map .ofPiece) =
      after style cursor (parts.map .ofPiece) := by
  induction h generalizing cursor with
  | nil => rfl
  | @cons gap tag parts hgap _ _ ih =>
    rw [respace, List.map_cons, List.map_cons, List.map_cons, List.map_cons, after_cons, after_cons,
      after_cons, after_cons, advance_respaceGap hunit hgap]
    exact ih

/-- Respaced parts write what the parts write. -/
theorem write_respace (hunit : AllBlank style.unit) (h : Paired parts) :
    write style cursor ((respace style cursor parts).map .ofPiece) =
      write style cursor (parts.map .ofPiece) := by
  induction h generalizing cursor with
  | nil => rfl
  | @cons gap tag parts hgap htag _ ih =>
    have hk : (Token.ofPiece tag).kind ≠ .text := Kind.ofPiece_ne_text htag
    rw [respace, List.map_cons, List.map_cons, List.map_cons, List.map_cons, write_cons, write_cons,
      write_cons, write_cons, advance_respaceGap hunit hgap, place_eq_of_ne_text hk _ none,
      place_eq_of_ne_text hk (parts.map Token.ofPiece).head? none]
    exact congrArg₂ (· ++ ·) (congrArg _ (place_respaceGap hunit hgap)) (congrArg _ ih)

end Cursor

/-! ### The text at the end -/

/-- Whether a piece is a closing tag without its end that loses its name with the blanks at its
end: an inline name with a space and any other blanks behind it. -/
def Style.ShedsName (style : Style) (piece : Text) : Prop :=
  ∃ name blanks, name ∈ style.inlineTags ∧ (∀ c ∈ name, isWord c = true) ∧ AllBlank blanks ∧
    piece = '<' :: '/' :: (name ++ ' ' :: blanks)

/-- A piece that sheds its name does not end in ink. -/
theorem Style.ShedsName.trimRight_ne (h : style.ShedsName piece) : piece.trimRight ≠ piece := by
  obtain ⟨name, blanks, -, -, hblanks, rfl⟩ := h
  have hspace : AllBlank (' ' :: blanks) := allBlank_cons.mpr ⟨by decide, hblanks⟩
  intro he
  rw [← List.cons_append, ← List.cons_append, trimRight_append_of_allBlank hspace] at he
  have hle := (trimRight_sublist ('<' :: '/' :: name)).length_le
  rw [he, List.length_append, List.length_cons (a := ' ')] at hle
  omega

private theorem Style.closesInline_trimRight (hstyle : [] ∉ style.inlineTags) (h : Untagged piece) :
    style.closesInline (.ofPiece piece.trimRight) = true ↔
      style.closesInline (.ofPiece piece) = true ∧ ¬ style.ShedsName piece := by
  rw [closesInline_iff hstyle h, closesInline_iff hstyle h.trimRight]
  constructor
  · rintro ⟨name, rest, hname, hword, htrim⟩
    obtain ⟨blanks, -, hpiece⟩ := exists_eq_trimRight_append piece
    rw [htrim] at hpiece
    refine ⟨⟨name, rest ++ blanks, hname, hword, by simpa using hpiece⟩, ?_⟩
    rintro ⟨name', blanks', -, hword', hblanks', hsheds⟩
    -- nothing would be left behind the name, but the trimmed piece has a space
    have hspace : AllBlank (' ' :: blanks') := allBlank_cons.mpr ⟨by decide, hblanks'⟩
    rw [hsheds, ← List.cons_append, ← List.cons_append,
      trimRight_append_of_allBlank hspace] at htrim
    have hm : ' ' ∈ '<' :: '/' :: name' := by
      apply (trimRight_sublist _).subset
      rw [htrim]
      simp
    have hname' : ' ' ∈ name' := by simpa using hm
    exact absurd (hword' _ hname') (by decide)
  · rintro ⟨⟨name, rest, hname, hword, rfl⟩, hsheds⟩
    have hrest : ¬ AllBlank rest := fun hblank => hsheds ⟨name, rest, hname, hword, hblank, rfl⟩
    refine ⟨name, trimRight rest, hname, hword, ?_⟩
    have hsplit :
        '<' :: '/' :: (name ++ ' ' :: rest) = ('<' :: '/' :: (name ++ [' '])) ++ rest := by
      simp
    rw [hsplit, trimRight_append_of_not_allBlank hrest]
    simp

namespace Cursor

/-- Unless a closing tag follows an opening tag, its name decides about its line. -/
theorem place_of_closing (hk : Kind.ofPiece piece = .closing)
    (hopen : cursor.afterOpening = false) :
    cursor.place style (.ofPiece piece) next? =
      if style.closesInline (.ofPiece piece) then .joined piece.trim
      else .line (cursor.depth - 1) piece.trim := by
  have hkind : (Token.ofPiece piece).kind = .closing := hk
  have hb : ¬ AllBlank piece := Token.not_allBlank_of_kind_ne_text (by rw [hk]; decide)
  rw [place, if_neg (mt Token.isBlank_ofPiece.mp hb), hkind, hopen]
  dsimp only
  rw [Bool.or_false]
  rfl

private theorem closesInline_respaceTail (hunit : AllBlank style.unit)
    (hstyle : [] ∉ style.inlineTags)
    (htail : Untagged tail) (hk : Kind.ofPiece tail = .closing) (hfront : trimLeft tail = tail)
    (hopen : cursor.afterOpening = false) :
    style.closesInline (.ofPiece (cursor.respaceTail style tail)) = true ↔
      style.closesInline (.ofPiece tail) = true ∧ ¬ style.ShedsName tail := by
  have htrim : tail.trim = tail.trimRight := by rw [trim, hfront]
  rw [← style.closesInline_trimRight hstyle htail, respaceTail, place_of_closing hk hopen, htrim]
  by_cases hc : style.closesInline (.ofPiece tail) = true
  · rw [if_pos hc]
    rfl
  · rw [if_neg hc]
    refine iff_of_false ?_ fun h => hc ((style.closesInline_trimRight hstyle htail).mp h).1
    have hspace := Fragment.allBlank_space hunit (.line (cursor.depth - 1) tail.trimRight)
    set space := (Fragment.line (cursor.depth - 1) tail.trimRight).space style
    change ¬ style.closesInline (.ofPiece (space ++ tail.trimRight)) = true
    by_cases hnil : space = []
    · rw [hnil]
      exact fun h => hc ((style.closesInline_trimRight hstyle htail).mp h).1
    · intro h
      have hname : tagName (space ++ tail.trimRight) ∈ style.inlineTags :=
        of_decide_eq_true (Bool.and_eq_true_iff.mp h).2
      rw [tagName_append_of_allBlank hspace hnil] at hname
      exact hstyle hname

/-- The text at the end is placed as before, unless it sheds its name and follows no opening
tag. -/
theorem place_respaceTail (hunit : AllBlank style.unit) (hstyle : [] ∉ style.inlineTags)
    (htail : Untagged tail) (hfront : Kind.ofPiece tail = .closing → trimLeft tail = tail)
    (hsheds : cursor.afterOpening = false → ¬ style.ShedsName tail) :
    cursor.place style (.ofPiece (cursor.respaceTail style tail)) none =
      cursor.place style (.ofPiece tail) none := by
  have hrespaced := respaced_respaceTail hunit htail cursor
  by_cases htext : Kind.ofPiece tail = .text
  · have hplace := place_respaced_text hunit htext allBlank_nil cursor none fun _ => rfl
    rwa [List.append_nil] at hplace
  · apply place_respaced hrespaced htext
    by_cases hk : Kind.ofPiece tail = .closing
    · cases hopen : cursor.afterOpening with
      | true => exact .inr rfl
      | false =>
        left
        rw [Bool.eq_iff_iff,
          closesInline_respaceTail hunit hstyle htail hk (hfront hk) hopen]
        exact and_iff_left (hsheds hopen)
    · rw [Style.closesInline_of_kind_ne hk,
        Style.closesInline_of_kind_ne (by rwa [hrespaced.kind_eq])]
      exact .inl rfl

/-- A text at the end that sheds its name goes from its line to a line of its own. -/
theorem place_of_shedsName (hunit : AllBlank style.unit) (hstyle : [] ∉ style.inlineTags)
    (htail : Untagged tail) (hsheds : style.ShedsName tail) (hopen : cursor.afterOpening = false) :
    cursor.place style (.ofPiece tail) none = .joined tail.trim ∧
      cursor.place style (.ofPiece (cursor.respaceTail style tail)) none =
        .line (cursor.depth - 1) tail.trim := by
  have hrespaced := respaced_respaceTail hunit htail cursor
  obtain ⟨name, blanks, hname, hword, -, ht⟩ := id hsheds
  have hk : Kind.ofPiece tail = .closing := by rw [ht, Kind.ofPiece_slash]
  have hfront : trimLeft tail = tail := by rw [ht, trimLeft_cons_of_ink (by decide)]
  have hclose : style.closesInline (.ofPiece tail) = true :=
    (style.closesInline_iff hstyle htail).mpr ⟨name, blanks, hname, hword, ht⟩
  have hclose' : ¬ style.closesInline (.ofPiece (cursor.respaceTail style tail)) = true :=
    fun h => ((closesInline_respaceTail hunit hstyle htail hk hfront hopen).mp h).2 hsheds
  rw [place_of_closing hk hopen, if_pos hclose, place_of_closing (hrespaced.kind_eq.trans hk) hopen,
    if_neg hclose', hrespaced.trim (by rw [hk]; decide)]
  exact ⟨rfl, rfl⟩

end Cursor
end MarkupLayout
