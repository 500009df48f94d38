import MarkupLayout.Formatter

/-!
# Sessions

A session keeps a formatter and the last result. Its style can be changed between two documents,
and the last result can be formatted again.
-/

namespace MarkupLayout

/-- A formatter in use, and the last document that it gave. -/
structure Session where
  formatter : Formatter := {}
  last : Text := []
  deriving DecidableEq

/-- One of the two sets of a style. -/
inductive TagRole where
  | flush
  | inline
  deriving DecidableEq, Repr

/-- Changes one set of a style. -/
def Style.mapTags (style : Style) (role : TagRole) (f : TagSet → TagSet) : Style :=
  match role with
  | .flush => { style with flushTags := f style.flushTags }
  | .inline => { style with inlineTags := f style.inlineTags }

/-- What a session can be asked for. -/
inductive Request where
  /-- Formats a document. -/
  | format (source : Source)
  /-- Formats the last result. -/
  | again
  /-- Sets the unit of the style. -/
  | setUnit (unit : Text)
  /-- Adds a name to a set of the style. -/
  | insertTag (role : TagRole) (name : Text)
  /-- Removes a name from a set of the style. -/
  | eraseTag (role : TagRole) (name : Text)
  /-- Asks for the indentation at a depth. -/
  | indent (depth : Int)
  /-- Goes on with another formatter and keeps the last result. -/
  | renew (formatter : Formatter)

/-- What a session answers. -/
inductive Reply where
  | text (t : Text)
  | style (s : Style)

namespace Session

/-- Changes the style of the session and answers with it. -/
def restyle (session : Session) (style : Style) : Session × Reply × List Event :=
  ({ session with formatter.style := style }, .style style, [])

/-- Formats a document and keeps the result. -/
def format (session : Session) (source : Source) : Session × Reply × List Event :=
  let result := session.formatter.format source
  ({ session with last := result }, .text result, session.formatter.journal source)

/-- The session after a request, the reply and the journal of the request. -/
def step (session : Session) : Request → Session × Reply × List Event
  | .format source => session.format source
  | .again => session.format (.text session.last)
  | .setUnit unit => session.restyle { session.formatter.style with unit }
  | .insertTag role name =>
    session.restyle (session.formatter.style.mapTags role (·.insert name))
  | .eraseTag role name =>
    session.restyle (session.formatter.style.mapTags role (·.erase name))
  | .indent depth => (session, .text (session.formatter.style.indent depth), [])
  | .renew formatter => ({ session with formatter }, .style formatter.style, [])

/-- The replies and journals of a list of requests, in order. -/
def run (session : Session) : List Request → List (Reply × List Event)
  | [] => []
  | request :: rest => (session.step request).2 :: (session.step request).1.run rest

/-- What the allowed requests keep of a session holds of the session that answers any of them. -/
theorem exists_getElem?_run (Keeps : Session → Prop) {Allowed : Request → Prop}
    (hstep : ∀ {session : Session} {request : Request}, Keeps session → Allowed request →
      Keeps (session.step request).1) {session : Session} (h : Keeps session)
    {requests : List Request} (hrequests : ∀ request ∈ requests, Allowed request) {i : Nat}
    {request : Request} (hi : requests[i]? = some request) :
    ∃ session', Keeps session' ∧ (session.run requests)[i]? = some (session'.step request).2 := by
  induction requests generalizing session i with
  | nil => cases hi
  | cons first rest ih =>
    obtain ⟨hfirst, hrest⟩ := List.forall_mem_cons.mp hrequests
    cases i with
    | zero =>
      obtain rfl : first = request := Option.some.inj hi
      exact ⟨session, h, rfl⟩
    | succ i => exact ih (hstep h hfirst) hrest hi

end Session
end MarkupLayout
