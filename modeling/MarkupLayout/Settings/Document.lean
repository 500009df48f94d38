import MarkupLayout.Text.Blank
import MarkupLayout.Text.Lowercase
import MarkupLayout.Text.Numeral
import MarkupLayout.Text.Quoted

/-!
# Settings documents

A settings document has sections with options. A line `[header]` begins a section, a line
`name = value` or `name: value` an option. A line that is indented deeper than the line with the
option continues its value, and so does an empty line; a line that begins with `#` or `;` is a
comment. Names of options are read in lower case, headers as they are written.

The section `DEFAULT` holds the values for options that other sections lack. It may be begun more
than once, other sections once only. Lines that fit no form are collected and reported together,
after the rest of the document has been read; all other faults end the reading at once.
-/

namespace MarkupLayout
namespace Settings

/-- The header of the section that other sections fall back on. -/
def defaultHeader : Text := "DEFAULT".toList

/-- An option of a section. -/
structure Entry where
  header : Text
  name : Text
  /-- The lines of the value, trimmed, the last one first. -/
  lines : List Text
  deriving DecidableEq, Repr

/-- The value of an option: its lines, without the empty ones at the end. -/
def Entry.value (entry : Entry) : Text :=
  Text.trimRight (['\n'].intercalate entry.lines.reverse)

/-- A settings document. -/
structure Document where
  /-- The headers of the sections that were begun, apart from the default one. -/
  headers : List Text := []
  entries : List Entry := []
  deriving DecidableEq, Repr

namespace Document

/-- Whether a section, the default one apart, was begun under this header. -/
def hasSection (document : Document) (header : Text) : Bool := header ∈ document.headers

/-- The value of an option in exactly this section. -/
def value? (document : Document) (header name : Text) : Option Text :=
  (document.entries.find? fun entry => entry.header = header && entry.name = name).map (·.value)

/-- The value of an option in this section or, failing that, in the default section. -/
def lookup? (document : Document) (header name : Text) : Option Text :=
  document.value? header name <|> document.value? defaultHeader name

/-- Why a document cannot be read. Lines are counted from one. -/
inductive Fault where
  /-- An option stands before the first header. -/
  | missingHeader (position : Nat) (line : Text)
  /-- A section is begun a second time. -/
  | repeatedHeader (position : Nat) (header : Text)
  /-- A section holds an option of this name already. -/
  | repeatedName (position : Nat) (header name : Text)
  /-- Some lines are neither headers nor options with a name. -/
  | unreadable (lines : List (Nat × Text))
  deriving DecidableEq, Repr

/-- The wording of a fault in a file. -/
def Fault.message (file : Text) : Fault → Text
  | missingHeader position line =>
    "File contains no section headers.\nfile: ".toList ++ file.quote ++ ", line: ".toList ++
      .ofNat position ++ ['\n'] ++ line.quote
  | repeatedHeader position header =>
    place position ++ ": section ".toList ++ header.quote ++ " already exists".toList
  | repeatedName position header name =>
    place position ++ ": option ".toList ++ name.quote ++ " in section ".toList ++
      header.quote ++ " already exists".toList
  | unreadable lines =>
    "Source contains parsing errors: ".toList ++ file.quote ++
      lines.flatMap fun (position, line) =>
        "\n\t[line ".toList ++ number position ++ "]: ".toList ++ line.quote
where
  number (position : Nat) : Text := .padLeft ' ' 2 (.ofNat position)
  place (position : Nat) : Text :=
    "While reading from ".toList ++ file.quote ++ " [line ".toList ++ number position ++ [']']

/-- The header on a trimmed line: all between the opening bracket at its beginning and the last
closing bracket, if that is not nothing. -/
def header? : Text → Option Text
  | '[' :: rest =>
    match ((rest.reverse.dropWhile (· ≠ ']')).drop 1).reverse with
    | [] => none
    | header => some header
  | _ => none

/-- The name and the value on a trimmed line, which the first `=` or `:` sets apart. -/
def option? (line : Text) : Option (Text × Text) :=
  let isDelimiter (c : Char) : Bool := c = '=' || c = ':'
  match line.dropWhile (!isDelimiter ·) with
  | [] => none
  | _ :: value =>
    some ((Text.trimRight (line.takeWhile (!isDelimiter ·))).lower, Text.trim value)

/-- Whether a trimmed line is a comment. -/
def isComment : Text → Bool
  | '#' :: _ => true
  | ';' :: _ => true
  | _ => false

/-- What has been read of a document. -/
structure Reader where
  headers : List Text := []
  /-- The options so far, the last one first. -/
  entries : List Entry := []
  /-- The header of the section that is being read. -/
  header? : Option Text := none
  /-- Whether lines can continue the last option. -/
  continuable : Bool := false
  /-- The indentation of the last line that was a header, an option or unreadable. -/
  indent : Nat := 0
  /-- The unreadable lines, the last one first. -/
  unreadable : List (Nat × Text) := []

namespace Reader

/-- Adds a line to the value of the last option. -/
def continueWith (reader : Reader) (line : Text) : Reader :=
  match reader.entries with
  | [] => reader
  | entry :: rest => { reader with entries := { entry with lines := line :: entry.lines } :: rest }

/-- Reads a header. -/
def beginSection (reader : Reader) (position : Nat) (header : Text) : Except Fault Reader :=
  let next := { reader with header? := some header, continuable := false }
  if header = defaultHeader then .ok next
  else if header ∈ reader.headers then .error (.repeatedHeader position header)
  else .ok { next with headers := header :: reader.headers }

/-- Reads an option. The option without a name is kept like the others, so that it cannot occur
twice, but its line is unreadable and no line continues it. -/
def addOption (reader : Reader) (position : Nat) (line header name value : Text) :
    Except Fault Reader :=
  if reader.entries.any fun entry => entry.header = header && entry.name = name then
    .error (.repeatedName position header name)
  else
    .ok { reader with
      entries := ⟨header, name, [value]⟩ :: reader.entries
      continuable := !name.isEmpty
      unreadable := if name.isEmpty then (position, line) :: reader.unreadable
        else reader.unreadable }

/-- Reads a line that continues no option; `content` is the line trimmed. -/
def readEntry (reader : Reader) (position : Nat) (line content : Text) : Except Fault Reader :=
  match Document.header? content with
  | some header => reader.beginSection position header
  | none =>
    match reader.header? with
    | none => .error (.missingHeader position line)
    | some header =>
      match option? content with
      | some (name, value) => reader.addOption position line header name value
      | none => .ok { reader with unreadable := (position, line) :: reader.unreadable }

/-- Reads one line. -/
def readLine (reader : Reader) (position : Nat) (line : Text) : Except Fault Reader :=
  let content := line.trim
  let indent := (line.takeWhile Text.isBlank).length
  if isComment content then .ok reader
  else if content.isEmpty then
    .ok (if reader.continuable then reader.continueWith [] else reader)
  else if reader.continuable && reader.indent < indent then .ok (reader.continueWith content)
  else { reader with indent }.readEntry position line content

/-- Reads the remaining lines, of which the first has the given position. -/
def readLines (reader : Reader) (position : Nat) : List Text → Except Fault Reader
  | [] => .ok reader
  | line :: rest => do (← reader.readLine position line).readLines (position + 1) rest

end Reader

/-- Reads a document. -/
def read (t : Text) : Except Fault Document := do
  let reader ← Reader.readLines {} 1 t.unifyLineEnds.lines
  if reader.unreadable.isEmpty then
    return { headers := reader.headers.reverse, entries := reader.entries.reverse }
  else throw (.unreadable reader.unreadable.reverse)

end Document
end Settings
end MarkupLayout
