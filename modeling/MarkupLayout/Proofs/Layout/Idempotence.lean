import MarkupLayout.Proofs.Layout.Repetition

/-!
# Formatting twice

For a style whose names are read from lists, formatting a formatted document changes nothing, but
for one kind of document: the last token is an inline closing tag without its end, has only blanks
behind its name and follows another token than an opening tag. Formatting strips the blanks and
with them the name, so that the closing tag goes to a line of its own the second time.

Documents that end with blanks and a closing tag without its end are left out. Specification §8
promises this of well-formed documents.
-/

namespace MarkupLayout

open Text Markup Cursor

variable {style : Style} {piece tag tail : Text} {parts : List Text} {document : Text}

/-- Whether a piece has blanks before the bracket and the slash of a closing tag. -/
def Markup.HidesClosing (piece : Text) : Prop :=
  ∃ blanks rest, blanks ≠ [] ∧ AllBlank blanks ∧ piece = blanks ++ '<' :: '/' :: rest

/-- Whether the last token sheds its name behind a token that is no opening tag. -/
def Style.ShedsLastName (style : Style) (tokens : List Token) : Prop :=
  ∃ before token last, tokens = before ++ [token, last] ∧ token.kind ≠ .opening ∧
    style.ShedsName last.content

/-- A closing tag is hidden if trimming from the left changes the piece and shows it. -/
theorem Markup.hidesClosing_iff :
    HidesClosing piece ↔ trimLeft piece ≠ piece ∧ ['<', '/'] <+: trimLeft piece := by
  constructor
  · rintro ⟨blanks, rest, hne, hblanks, rfl⟩
    rw [trimLeft_append_of_allBlank hblanks, trimLeft_cons_of_ink (by decide)]
    exact ⟨fun he => hne (List.self_eq_append_left.mp he), rest, rfl⟩
  · rintro ⟨hne, rest, hrest⟩
    obtain ⟨blanks, hblanks, hpiece⟩ := exists_eq_append_trimLeft piece
    refine ⟨blanks, rest, ?_, hblanks, hpiece.trans (congrArg (blanks ++ ·) hrest.symm)⟩
    rintro rfl
    exact hne hpiece.symm

/-- Decided by what trimming from the left shows. -/
instance (piece : Text) : Decidable (HidesClosing piece) := decidable_of_iff _ hidesClosing_iff.symm

private theorem Markup.trimLeft_of_not_hidesClosing (hk : Kind.ofPiece piece = .closing)
    (h : ¬ HidesClosing piece) : trimLeft piece = piece := by
  obtain ⟨blanks, rest, hblanks, hpiece⟩ := Kind.exists_of_ofPiece_eq_closing hk
  by_contra hne
  refine h (hidesClosing_iff.mpr ⟨hne, rest, ?_⟩)
  rw [hpiece, trimLeft_append_of_allBlank hblanks, trimLeft_cons_of_ink (by decide)]
  rfl

/-! ### The last tokens -/

private theorem tokens_eq_append (hcut : cut .text document.singleLine = parts ++ [tail]) :
    tokens document = (parts.filter fun part => !part.isEmpty).map .ofPiece ++
      if tail = [] then [] else [.ofPiece tail] := by
  rw [tokens, pieces, hcut, List.filter_append, List.map_append]
  cases tail <;> rfl

namespace Style

-- Of two tokens at the end, the first decides whether the last may shed its name.
private theorem shedsLastName_append_iff {before : List Token} {token last : Token} :
    style.ShedsLastName (before ++ [token, last]) ↔
      token.kind ≠ .opening ∧ style.ShedsName last.content := by
  constructor
  · rintro ⟨before', token', last', htokens, hk, hsheds⟩
    obtain ⟨-, hlast⟩ := List.append_inj' htokens rfl
    rw [List.cons.injEq, List.cons.injEq] at hlast
    obtain ⟨rfl, rfl, -⟩ := hlast
    exact ⟨hk, hsheds⟩
  · rintro ⟨hk, hsheds⟩
    exact ⟨before, token, last, rfl, hk, hsheds⟩

private theorem not_shedsLastName_concat_of_isTag (htag : IsTag tag) (before : List Token) :
    ¬ style.ShedsLastName (before ++ [.ofPiece tag]) := by
  rintro ⟨before', token, last, htokens, -, hsheds⟩
  obtain rfl : last = .ofPiece tag := by simpa using (congrArg List.getLast? htokens).symm
  apply hsheds.trimRight_ne
  change trimRight tag = tag
  rw [← htag.trim_eq, trimRight_trim]

private theorem not_shedsLastName_of_length {tokens : List Token} (h : tokens.length ≤ 1) :
    ¬ style.ShedsLastName tokens := by
  rintro ⟨before, token, last, rfl, -⟩
  rw [List.length_append, List.length_cons, List.length_cons] at h
  omega

end Style

private theorem afterOpening_after_concat (htag : IsTag tag) (front : List Text) :
    (after style {} ((front ++ [tag]).map .ofPiece)).afterOpening = false ↔
      (Token.ofPiece tag).kind ≠ .opening := by
  have hink : ¬ (Token.ofPiece tag).isBlank = true := mt Token.isBlank_ofPiece.mp htag.not_allBlank
  rw [List.map_append, after, List.foldl_append, List.map_singleton, List.foldl_cons,
    List.foldl_nil, afterOpening_advance hink, decide_eq_false_iff_not]

/-- The last token sheds its name if the text at the end does and follows a tag that is no opening
tag. -/
theorem shedsLastName_tokens_iff (h : Paired parts)
    (hcut : cut .text document.singleLine = parts ++ [tail]) :
    style.ShedsLastName (tokens document) ↔
      parts ≠ [] ∧ (after style {} (parts.map .ofPiece)).afterOpening = false ∧
        style.ShedsName tail := by
  rw [tokens_eq_append hcut]
  obtain rfl | ⟨front, tag, htag, rfl⟩ := h.eq_nil_or_concat
  · refine iff_of_false (Style.not_shedsLastName_of_length ?_) fun hr => hr.1 rfl
    split <;> simp
  · have hne : (!tag.isEmpty) = true := by
      obtain ⟨t, rfl⟩ := htag.exists_eq_cons
      rfl
    rw [List.filter_append, List.filter_singleton, hne, List.map_append,
      afterOpening_after_concat htag, List.append_assoc]
    split
    · next hnil =>
      refine iff_of_false (Style.not_shedsLastName_concat_of_isTag htag _) ?_
      rintro ⟨-, -, name, blanks, -, -, -, he⟩
      rw [hnil] at he
      cases he
    · refine Style.shedsLastName_append_iff.trans (and_iff_right ?_).symm
      exact List.append_ne_nil_of_right_ne_nil _ (List.cons_ne_nil _ _)

/-! ### The second layout -/

/-- A layout is what its parts and the text at the end write, trimmed. -/
theorem layout_tokens (h : Paired parts)
    (hcut : cut .text document.singleLine = parts ++ [tail]) :
    layout style (tokens document) =
      trim (write style {} (parts.map .ofPiece) ++
        ((after style {} (parts.map .ofPiece)).place style (.ofPiece tail) none).render
          style) := by
  rw [← write_tokens h hcut]
  rfl

/-- A second layout can differ in the text at the end only. -/
theorem layout_tokens_layout (hunit : AllBlank style.unit) (h : Paired parts)
    (htail : Untagged tail) (hcut : cut .text document.singleLine = parts ++ [tail]) :
    layout style (tokens (layout style (tokens document))) =
      trim (write style {} (parts.map .ofPiece) ++
        ((after style {} (parts.map .ofPiece)).place style (.ofPiece
          ((after style {} (parts.map .ofPiece)).respaceTail style tail)) none).render style) := by
  rw [layout_tokens (paired_respace hunit h) (cut_layout hunit h htail hcut),
    write_respace hunit h, after_respace hunit h]

-- Behind other ink, the line feed in front of a text at the end is not trimmed.
private theorem trim_append_line_ne {written body : Text} (hwritten : ¬ AllBlank written)
    (hbody : ¬ AllBlank body) (depth : Int) :
    trim (written ++ (Fragment.line depth body.trim).render style) ≠
      trim (written ++ (Fragment.joined body.trim).render style) := by
  have hline : ¬ AllBlank ('\n' :: style.indent depth ++ body.trim) :=
    fun h => hbody (allBlank_trim.mp (allBlank_append.mp h).2)
  rw [Fragment.render, Fragment.render, trim_append_of_not_allBlank hwritten hline,
    trim_append_of_not_allBlank hwritten (mt allBlank_trim.mp hbody),
    trimRight_append_of_not_allBlank (mt allBlank_trim.mp hbody)]
  intro he
  have hlength := congrArg List.length (List.append_cancel_left he)
  simp only [List.length_append, List.length_cons] at hlength
  omega

/-- The second layout differs from the first exactly if the last token sheds its name. -/
theorem layout_tokens_layout_eq_iff (hunit : AllBlank style.unit) (hstyle : [] ∉ style.inlineTags)
    (hlast : ∀ token ∈ (tokens document).getLast?, ¬ HidesClosing token.content) :
    layout style (tokens (layout style (tokens document))) = layout style (tokens document) ↔
      ¬ style.ShedsLastName (tokens document) := by
  obtain ⟨parts, tail, hparts, htail, hcut⟩ := exists_cut_eq document.singleLine
  rw [shedsLastName_tokens_iff hparts hcut, layout_tokens_layout hunit hparts htail hcut,
    layout_tokens hparts hcut]
  set cursor := after style {} (parts.map Token.ofPiece)
  by_cases hsheds : cursor.afterOpening = false ∧ style.ShedsName tail
  · obtain ⟨hplace, hplace'⟩ := place_of_shedsName hunit hstyle htail hsheds.2 hsheds.1
    rw [hplace, hplace', and_iff_left hsheds, not_not]
    obtain rfl | ⟨front, tag, htag, rfl⟩ := hparts.eq_nil_or_concat
    · refine iff_of_true ?_ rfl
      rw [List.map_nil, write_nil, List.nil_append, List.nil_append,
        Fragment.render_eq_margin_append,
        trim_append_of_allBlank_left (Fragment.allBlank_margin hunit _)]
      rfl
    · have hwritten : ¬ AllBlank (write style {} ((front ++ [tag]).map Token.ofPiece)) := by
        intro hb
        have hnil := trimRight_eq_nil_iff.mpr hb
        rw [trimRight_write, write_eq_nil_iff] at hnil
        exact htag.not_allBlank (hnil tag (List.mem_append_right _ List.mem_cons_self))
      have hbody : ¬ AllBlank tail := by
        obtain ⟨name, blanks, -, -, -, ht⟩ := hsheds.2
        rw [ht]
        exact fun hb => absurd (allBlank_cons.mp hb).1 (by decide)
      exact iff_of_false (trim_append_line_ne hwritten hbody _) (by simp)
  · have hfront : Kind.ofPiece tail = .closing → trimLeft tail = tail := by
      intro hk
      apply trimLeft_of_not_hidesClosing hk
      have htoken : (tokens document).getLast? = some (.ofPiece tail) := by
        have hne : tail ≠ [] := by
          rintro rfl
          cases hk
        rw [tokens_eq_append hcut, if_neg hne, List.getLast?_concat]
      exact hlast _ htoken
    rw [place_respaceTail hunit hstyle htail hfront fun ho hs => hsheds ⟨ho, hs⟩]
    exact iff_of_true rfl fun hs => hsheds hs.2

/-- Formatting twice is formatting once exactly if the last token does not shed its name. -/
theorem format_format_eq_iff (unit flush inline : Text) (hunit : AllBlank unit) (trace : Bool)
    (document : Text)
    (hlast : ∀ token ∈ (tokens document).getLast?, ¬ HidesClosing token.content) :
    let formatter : Formatter := ⟨.ofCommaLists unit flush inline, trace⟩
    formatter.format (.text (formatter.format (.text document))) =
        formatter.format (.text document) ↔
      ¬ formatter.style.ShedsLastName (tokens document) :=
  layout_tokens_layout_eq_iff hunit (TagSet.nil_not_mem_ofCommaList inline) hlast

/-- Behind a closing tag, the blank at the end takes the name along. -/
theorem format_format_eq_iff_blank :
    AllBlank ['\t'] ∧
    (∀ token ∈ (tokens "</a></b ".toList).getLast?, ¬ HidesClosing token.content) ∧
    (Style.ofCommaLists ['\t'] [] ['b']).ShedsLastName (tokens "</a></b ".toList) := by
  have hlast : ∀ token ∈ (tokens "</a></b ".toList).getLast?, ¬ HidesClosing token.content := by
    decide
  refine ⟨by decide, hlast, ?_⟩
  by_contra hsheds
  have heq := (format_format_eq_iff ['\t'] [] ['b'] (by decide) false _ hlast).mpr hsheds
  revert heq
  decide

/-- Some documents are laid out differently the second time. -/
theorem not_forall_format_format_eq :
    ¬ ∀ unit flush inline : Text, AllBlank unit → ∀ (trace : Bool) (document : Text),
      (∀ token ∈ (tokens document).getLast?, ¬ HidesClosing token.content) →
      let formatter : Formatter := ⟨.ofCommaLists unit flush inline, trace⟩
      formatter.format (.text (formatter.format (.text document))) =
        formatter.format (.text document) := by
  intro hall
  have heq := hall "    ".toList "html,link,img,meta".toList "a,b,i,span,h1,h2,h3,title".toList
    (by decide) false "</a></b ".toList (by decide)
  revert heq
  decide

end MarkupLayout
