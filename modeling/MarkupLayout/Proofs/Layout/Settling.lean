import MarkupLayout.Proofs.Layout.Idempotence
import MarkupLayout.Session

/-!
# Formatting three times

The second layout of a document can differ from the first in the text at its end, where that is a
closing tag without its end: whether such a tag stays on the line hangs on the blanks around it.
The first layout takes those blanks away and leaves at most the indentation of the tag in front,
and then the question is decided for good: the third layout is the second. In a session, all
results from the first repetition on are the same.
-/

namespace MarkupLayout

open Text Markup

variable {style : Style} {cursor : Cursor} {piece tail blanks : Text}

/-! ### A closing tag at the end -/

private theorem Style.closesInline_append_of_allBlank (hstyle : [] ∉ style.inlineTags)
    (hblanks : AllBlank blanks) (hne : blanks ≠ []) (piece : Text) :
    style.closesInline (.ofPiece (blanks ++ piece)) = false := by
  have hname : (Token.ofPiece (blanks ++ piece)).name = [] :=
    tagName_append_of_allBlank hblanks hne
  rw [closesInline, hname, Bool.and_eq_false_iff]
  exact .inr (decide_eq_false hstyle)

namespace Cursor

/-- The blanks that the indentation of a closing tag leaves on one line. -/
def closingSpace (style : Style) (cursor : Cursor) : Text :=
  (Fragment.line (cursor.depth - 1) []).space style

-- A closing tag at the end that follows no opening tag is read again trimmed, with the blanks of
-- its indentation in front if it does not stay on the line.
private theorem respaceTail_of_closing (style : Style) (hk : Kind.ofPiece piece = .closing)
    (hopen : cursor.afterOpening = false) :
    cursor.respaceTail style piece =
      (if style.closesInline (.ofPiece piece) then [] else cursor.closingSpace style) ++
        piece.trim := by
  rw [respaceTail, place_of_closing hk hopen]
  split <;> rfl

private theorem closesInline_respaceTail_respaceTail (hunit : AllBlank style.unit)
    (hstyle : [] ∉ style.inlineTags) (htail : Untagged tail) (hk : Kind.ofPiece tail = .closing)
    (hopen : cursor.afterOpening = false) :
    style.closesInline (.ofPiece (cursor.respaceTail style (cursor.respaceTail style tail))) =
      style.closesInline (.ofPiece (cursor.respaceTail style tail)) := by
  have hrespaced := respaced_respaceTail hunit htail cursor
  have hspace : AllBlank (cursor.closingSpace style) := Fragment.allBlank_space hunit _
  have htrim : (cursor.respaceTail style tail).trim = tail.trim := hrespaced.trim (by simp [hk])
  have hagain := respaceTail_of_closing style (hrespaced.kind_eq.trans hk) hopen
  have hfirst := respaceTail_of_closing style hk hopen
  rw [htrim] at hagain
  rw [hagain]
  by_cases hnil : cursor.closingSpace style = []
  · -- without indentation nothing stands in front of the tag either time
    rw [hfirst, hnil, ite_self, ite_self]
  · by_cases hclose : style.closesInline (.ofPiece (cursor.respaceTail style tail)) = true
    · -- a tag that stays on the line has no blanks in front
      rw [if_pos hclose, hfirst]
      rw [hfirst] at hclose
      split
      · rfl
      · next hinline =>
        rw [if_neg hinline, style.closesInline_append_of_allBlank hstyle hspace hnil] at hclose
        cases hclose
    · rw [if_neg hclose, style.closesInline_append_of_allBlank hstyle hspace hnil]
      exact (Bool.eq_false_iff.mpr hclose).symm

private theorem place_respaceTail_respaceTail (hunit : AllBlank style.unit)
    (hstyle : [] ∉ style.inlineTags) (htail : Untagged tail) :
    cursor.place style
        (.ofPiece (cursor.respaceTail style (cursor.respaceTail style tail))) none =
      cursor.place style (.ofPiece (cursor.respaceTail style tail)) none := by
  have hrespaced := respaced_respaceTail hunit htail cursor
  have htail' : Untagged (cursor.respaceTail style tail) := untagged_respaceTail hunit htail
  have hagain := respaced_respaceTail hunit htail' cursor
  by_cases htext : Kind.ofPiece tail = .text
  · have hplace := place_respaced_text hunit htext allBlank_nil cursor none fun _ => rfl
    rw [List.append_nil] at hplace
    change cursor.place style (.ofPiece (cursor.respaceTail style tail)) none = _ at hplace
    have hfixed : cursor.respaceTail style (cursor.respaceTail style tail) =
        cursor.respaceTail style tail := by
      rw [respaceTail, hplace, respaceTail]
    rw [hfixed]
  · apply place_respaced hagain
    · rwa [hrespaced.kind_eq]
    · by_cases hk : Kind.ofPiece tail = .closing
      · cases hopen : cursor.afterOpening with
        | true => exact .inr rfl
        | false =>
          exact .inl (closesInline_respaceTail_respaceTail hunit hstyle htail hk hopen)
      · left
        have hk' : Kind.ofPiece (cursor.respaceTail style tail) ≠ .closing := by
          rwa [hrespaced.kind_eq]
        rw [Style.closesInline_of_kind_ne hk', Style.closesInline_of_kind_ne]
        rwa [hagain.kind_eq]

end Cursor

open Cursor

/-- The third layout of a document is the second. -/
theorem layout_tokens_layout_layout (hunit : AllBlank style.unit) (hstyle : [] ∉ style.inlineTags)
    (document : Text) :
    layout style (tokens (layout style (tokens (layout style (tokens document))))) =
      layout style (tokens (layout style (tokens document))) := by
  obtain ⟨parts, tail, hparts, htail, hcut⟩ := exists_cut_eq document.singleLine
  rw [layout_tokens_layout hunit (paired_respace hunit hparts) (untagged_respaceTail hunit htail)
      (cut_layout hunit hparts htail hcut), layout_tokens_layout hunit hparts htail hcut,
    write_respace hunit hparts, after_respace hunit hparts,
    place_respaceTail_respaceTail hunit hstyle htail]

/-! ### Sessions -/

/-- Whether a request asks for the last result again or for an indentation. -/
def Request.Repeats : Request → Prop
  | .again => True
  | .indent _ => True
  | _ => False

namespace Session

/-- Whether the last document of a session formats to a result that formats to itself. -/
structure Settled (session : Session) (result : Text) : Prop where
  last : session.formatter.format (.text session.last) = result
  fixed : session.formatter.format (.text result) = result

variable {session : Session} {result : Text} {request : Request}

private theorem Settled.step (h : session.Settled result) (hrequest : request.Repeats) :
    (session.step request).1.Settled result := by
  cases request with
  | again =>
    constructor
    · change session.formatter.format (.text (session.formatter.format (.text session.last))) = _
      rw [h.last, h.fixed]
    · exact h.fixed
  | indent depth => exact h
  | _ => exact hrequest.elim

/-- A settled session replies with its result whenever it is asked for the last result again. -/
theorem Settled.run (h : session.Settled result) {requests : List Request}
    (hrequests : ∀ request ∈ requests, request.Repeats) {i : Nat}
    (hi : requests[i]? = some .again) :
    ((session.run requests)[i]?).map Prod.fst = some (.text result) := by
  obtain ⟨session', hsettled, hrun⟩ :=
    exists_getElem?_run (Settled · result) Settled.step h hrequests hi
  rw [hrun]
  exact congrArg (fun t => some (Reply.text t)) hsettled.last

end Session

/-- Formatting a third time changes nothing, and after a document was formatted, all repetitions in
a session give the same result. -/
theorem format_format_format_eq (formatter : Formatter) (hunit : AllBlank formatter.style.unit)
    (hstyle : [] ∉ formatter.style.inlineTags) (source : Source) :
    let second := formatter.format (.text (formatter.format source))
    formatter.format (.text second) = second ∧
      ∀ (last : Text) (requests : List Request), (∀ request ∈ requests, request.Repeats) →
        ∀ i, requests[i]? = some .again →
          ((Session.run ⟨formatter, last⟩ (.format source :: requests))[i + 1]?).map Prod.fst =
            some (.text second) := by
  have hfixed := layout_tokens_layout_layout hunit hstyle source.content
  refine ⟨hfixed, ?_⟩
  intro last requests hrequests i hi
  have hsettled : Session.Settled ⟨formatter, formatter.format source⟩
      (formatter.format (.text (formatter.format source))) := ⟨rfl, hfixed⟩
  exact hsettled.run hrequests hi

/-- A closing tag that sheds its name goes to a line of its own the second time and stays there. -/
theorem format_format_format_eq_shed :
    AllBlank ({} : Style).unit ∧ [] ∉ ({} : Style).inlineTags ∧
      (∀ request ∈ [Request.again, .indent 2, .again], request.Repeats) ∧
      Formatter.format {} (.text "</a></b ".toList) = "</a></b".toList ∧
      ((Session.run {} [.format (.text "</a></b ".toList), .again, .indent 2, .again])[3]?).map
        Prod.fst = some (.text "</a>\n</b".toList) := by
  have hstyle : [] ∉ ({} : Style).inlineTags := TagSet.nil_not_mem_ofCommaList _
  have hrequests : ∀ request ∈ [Request.again, .indent 2, .again], request.Repeats := by
    simp [Request.Repeats]
  have hresult : Formatter.format {} (.text (Formatter.format {} (.text "</a></b ".toList))) =
      "</a>\n</b".toList := by decide
  refine ⟨by decide, hstyle, hrequests, by decide, ?_⟩
  rw [← hresult]
  exact (format_format_format_eq {} (by decide) hstyle (.text "</a></b ".toList)).2 [] _ hrequests 2
    rfl

end MarkupLayout
