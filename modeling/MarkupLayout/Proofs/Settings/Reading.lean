import MarkupLayout.Proofs.Text.Fields
import MarkupLayout.Proofs.Text.Trimming
import MarkupLayout.Settings.Document

/-!
# Reading back a section

A settings document with one section is written as a row with the header and one row for each
option. No row is indented, so none continues the one before, and each option is read back with its
value trimmed. The first delimiter of a row is the one behind the name, so values may hold any
characters but line ends.
-/

namespace MarkupLayout
namespace Settings
namespace Document

open Text

variable {header name value : Text} {options : List (Text × Text)} {reader : Reader}

/-- Whether a text can be written and read back as the name of an option. -/
structure IsName (name : Text) : Prop where
  /-- The first character is ink and begins neither a header nor a comment. -/
  head : ∃ c ∈ name.head?, isBlank c = false ∧ c ≠ '[' ∧ c ≠ '#' ∧ c ≠ ';'
  trimRight : trimRight name = name
  delimiter : ∀ c ∈ name, c ≠ '=' ∧ c ≠ ':'
  lineEnd : '\n' ∉ name ∧ '\r' ∉ name
  lower : name.lower = name

/-- The row of a header. -/
def headerRow (header : Text) : Text := '[' :: (header ++ [']'])

/-- The row of an option. -/
def optionRow (name value : Text) : Text := name ++ ' ' :: '=' :: ' ' :: value

/-- The rows of a section: the header and the options, each with its name and its value. -/
def sectionRows (header : Text) (options : List (Text × Text)) : List Text :=
  headerRow header :: options.map fun option => optionRow option.1 option.2

/-- The text of a document with one section. -/
def sectionText (header : Text) (options : List (Text × Text)) : Text :=
  (sectionRows header options).flatMap (· ++ ['\n'])

/-- The document with one section. -/
def ofSection (header : Text) (options : List (Text × Text)) : Document where
  headers := [header]
  entries := options.map fun option => ⟨header, option.1, [trim option.2]⟩

/-! ### Rows -/

private theorem trim_headerRow (header : Text) :
    trim (headerRow header ++ ['\n']) = headerRow header := by
  have hlast : trimRight [']'] = [']'] := by decide
  rw [headerRow, List.cons_append, trim_cons_of_ink (by decide),
    trimRight_append_of_allBlank (by decide), trimRight_append_of_not_allBlank (by decide), hlast]

/-- The header is read off its row. -/
theorem header?_headerRow (h : header ≠ []) : header? (headerRow header) = some header := by
  have hrest : (((header ++ [']']).reverse.dropWhile (· ≠ ']')).drop 1).reverse = header := by
    simp
  simp only [headerRow, header?, hrest]

private theorem trim_optionRow (hname : IsName name) (value : Text) :
    trim (optionRow name value ++ ['\n']) =
      (name ++ [' ']) ++ '=' :: trimRight (' ' :: (value ++ ['\n'])) := by
  obtain ⟨c, hc, hink, -⟩ := hname.head
  obtain ⟨rest, rfl⟩ := List.head?_eq_some_iff.mp hc
  have hrow : optionRow (c :: rest) value ++ ['\n'] =
      c :: (rest ++ [' ']) ++ '=' :: ' ' :: (value ++ ['\n']) := by
    simp [optionRow]
  have heq : ¬ AllBlank ('=' :: ' ' :: (value ++ ['\n'])) := by
    rw [allBlank_cons]
    exact fun h => absurd h.1 (by decide)
  rw [hrow, List.cons_append, trim_cons_of_ink hink, trimRight_append_of_not_allBlank heq,
    trimRight_cons, if_neg heq]
  rfl

/-- The name and the trimmed value are read off the row of an option. -/
theorem option?_optionRow (hname : IsName name) (value : Text) :
    option? (trim (optionRow name value ++ ['\n'])) = some (name, trim value) := by
  have hgap : ∀ c ∈ name ++ [' '], (!(c = '=' || c = ':')) = true := by
    intro c hc
    simp only [List.mem_append, List.mem_singleton] at hc
    rcases hc with hc | rfl
    · simpa using hname.delimiter c hc
    · decide
  have htrim : trim (trimRight (' ' :: (value ++ ['\n']))) = trim value := by
    rw [trim_trimRight, ← List.singleton_append, trim_append_of_allBlank_left (by decide),
      trim_append_of_allBlank_right (by decide)]
  rw [trim_optionRow hname]
  simp only [option?]
  rw [List.dropWhile_append_of_pos hgap, List.dropWhile_cons_of_neg (by decide),
    List.takeWhile_append_of_pos hgap, List.takeWhile_cons_of_neg (by decide), List.append_nil]
  dsimp only
  rw [trimRight_append_of_allBlank (by decide), hname.trimRight, hname.lower, htrim]

private theorem header?_optionRow (hname : IsName name) (value : Text) :
    header? (trim (optionRow name value ++ ['\n'])) = none := by
  obtain ⟨c, hc, -, hbracket, -⟩ := hname.head
  obtain ⟨rest, rfl⟩ := List.head?_eq_some_iff.mp hc
  rw [trim_optionRow hname]
  unfold header?
  split
  · next heq => exact absurd (List.cons.inj heq).1 hbracket
  · rfl

private theorem isComment_optionRow (hname : IsName name) (value : Text) :
    isComment (trim (optionRow name value ++ ['\n'])) = false := by
  obtain ⟨c, hc, -, -, hhash, hsemicolon⟩ := hname.head
  obtain ⟨rest, rfl⟩ := List.head?_eq_some_iff.mp hc
  rw [trim_optionRow hname]
  unfold isComment
  split
  · next heq => exact absurd (List.cons.inj heq).1 hhash
  · next heq => exact absurd (List.cons.inj heq).1 hsemicolon
  · rfl

private theorem takeWhile_optionRow (hname : IsName name) (value : Text) :
    (optionRow name value ++ ['\n']).takeWhile isBlank = [] := by
  obtain ⟨c, hc, hink, -⟩ := hname.head
  obtain ⟨rest, rfl⟩ := List.head?_eq_some_iff.mp hc
  exact List.takeWhile_cons_of_neg (by simp [hink])

/-! ### Lines -/

namespace Reader

private theorem readLine_eq_readEntry {row : Text} (position : Nat)
    (hcomment : isComment row.trim = false)
    (hink : ¬ AllBlank row) (hindent : row.takeWhile isBlank = []) :
    reader.readLine position row =
      { reader with indent := 0 }.readEntry position row row.trim := by
  have hne : row.trim.isEmpty = false := by
    rw [List.isEmpty_eq_false_iff]
    exact mt trim_eq_nil_iff.mp hink
  simp [readLine, hcomment, hne, hindent]

private theorem readLine_headerRow (hne : header ≠ []) (hheader : header ≠ defaultHeader)
    (position : Nat) :
    readLine {} position (headerRow header ++ ['\n']) =
      .ok { headers := [header], header? := some header } := by
  have hink : ¬ AllBlank (headerRow header ++ ['\n']) := by
    intro h
    exact absurd (allBlank_cons.mp h).1 (by decide)
  rw [readLine_eq_readEntry position (by rw [trim_headerRow]; rfl) hink
    (List.takeWhile_cons_of_neg (by decide)), trim_headerRow, readEntry, header?_headerRow hne]
  simp [beginSection, hheader]

private theorem readLine_optionRow (hheader : reader.header? = some header) (hname : IsName name)
    (hfresh : ∀ entry ∈ reader.entries, entry.name ≠ name) (value : Text) (position : Nat) :
    reader.readLine position (optionRow name value ++ ['\n']) =
      .ok { reader with
        entries := ⟨header, name, [trim value]⟩ :: reader.entries
        continuable := true
        indent := 0 } := by
  have hink : ¬ AllBlank (optionRow name value ++ ['\n']) := by
    intro h
    have htrim := trim_eq_nil_iff.mpr h
    rw [trim_optionRow hname] at htrim
    simp at htrim
  have hne : name.isEmpty = false := by
    obtain ⟨c, hc, -⟩ := hname.head
    obtain ⟨rest, rfl⟩ := List.head?_eq_some_iff.mp hc
    rfl
  have hany : (reader.entries.any fun entry => entry.header = header && entry.name = name) =
      false := by
    rw [List.any_eq_false]
    intro entry hentry
    simp [hfresh entry hentry]
  rw [readLine_eq_readEntry position (isComment_optionRow hname value) hink
    (takeWhile_optionRow hname value), readEntry, header?_optionRow hname value]
  simp only [hheader, option?_optionRow hname value, addOption, hany, hne]
  rfl

private theorem exists_readLines_eq (hheader : reader.header? = some header)
    (hnames : ∀ option ∈ options, IsName option.1) (hnodup : (options.map Prod.fst).Nodup)
    (hfresh : ∀ entry ∈ reader.entries, entry.name ∉ options.map Prod.fst) (position : Nat) :
    ∃ last : Reader, reader.readLines position
        (options.map fun option => optionRow option.1 option.2 ++ ['\n']) = .ok last ∧
      last.headers = reader.headers ∧ last.unreadable = reader.unreadable ∧
      last.entries.reverse = reader.entries.reverse ++
        options.map fun option => ⟨header, option.1, [trim option.2]⟩ := by
  induction options generalizing reader position with
  | nil => exact ⟨reader, rfl, rfl, rfl, by simp⟩
  | cons option options ih =>
    obtain ⟨hname, hnames⟩ := List.forall_mem_cons.mp hnames
    obtain ⟨hnew, hnodup⟩ := List.nodup_cons.mp hnodup
    have hfirst : ∀ entry ∈ reader.entries, entry.name ≠ option.1 := by
      intro entry hentry he
      exact hfresh entry hentry (he ▸ List.mem_cons_self)
    let next : Reader := { reader with
      entries := ⟨header, option.1, [trim option.2]⟩ :: reader.entries
      continuable := true
      indent := 0 }
    have hrest : ∀ entry ∈ next.entries, entry.name ∉ options.map Prod.fst := by
      intro entry hentry
      rcases List.mem_cons.mp hentry with rfl | hentry
      · exact hnew
      · exact fun hm => hfresh entry hentry (List.mem_cons_of_mem _ hm)
    have hnext : next.header? = some header := hheader
    obtain ⟨last, hread, hheaders, hunreadable, hentries⟩ :=
      ih hnext hnames hnodup hrest (position + 1)
    refine ⟨last, ?_, hheaders, hunreadable, ?_⟩
    · rw [List.map_cons, readLines, readLine_optionRow hheader hname hfirst]
      exact hread
    · rw [hentries, List.map_cons, List.reverse_cons, List.append_assoc]
      rfl

end Reader

/-- A document with one section is read back. -/
theorem read_sectionText (hne : header ≠ []) (hheader : header ≠ defaultHeader)
    (hline : '\n' ∉ header ∧ '\r' ∉ header) (hnames : ∀ option ∈ options, IsName option.1)
    (hnodup : (options.map Prod.fst).Nodup)
    (hvalues : ∀ option ∈ options, '\n' ∉ option.2 ∧ '\r' ∉ option.2) :
    read (sectionText header options) = .ok (ofSection header options) := by
  have hrows : ∀ row ∈ sectionRows header options, '\n' ∉ row ∧ '\r' ∉ row := by
    intro row hrow
    rcases List.mem_cons.mp hrow with rfl | hrow
    · simp [headerRow, hline.1, hline.2]
    · obtain ⟨option, hoption, rfl⟩ := List.mem_map.mp hrow
      have hname := (hnames option hoption).lineEnd
      have hvalue := hvalues option hoption
      simp [optionRow, hname.1, hname.2, hvalue.1, hvalue.2]
  have hreturn : '\r' ∉ sectionText header options := by
    simp only [sectionText, List.mem_flatMap, List.mem_append, List.mem_singleton]
    rintro ⟨row, hrow, hm | hm⟩
    · exact (hrows row hrow).2 hm
    · exact absurd hm (by decide)
  let begun : Reader := { headers := [header], header? := some header }
  have hbegun : begun.header? = some header := rfl
  obtain ⟨last, hread, hheaders, hunreadable, hentries⟩ :=
    Reader.exists_readLines_eq hbegun hnames hnodup (by simp [begun]) 2
  have hlines : Reader.readLines {} 1 (sectionText header options).unifyLineEnds.lines =
      .ok last := by
    rw [unifyLineEnds_of_not_mem hreturn, sectionText,
      lines_flatMap fun row hrow => (hrows row hrow).1, sectionRows, List.map_cons, List.map_map,
      Reader.readLines, Reader.readLine_headerRow hne hheader]
    exact hread
  rw [read, hlines]
  change (if last.unreadable.isEmpty then
    Except.ok { headers := last.headers.reverse, entries := last.entries.reverse : Document }
    else .error (Fault.unreadable last.unreadable.reverse)) = _
  rw [hheaders, hunreadable, hentries]
  rfl

/-! ### Values -/

private theorem value_singleton (header name value : Text) :
    Entry.value ⟨header, name, [trim value]⟩ = trim value := by
  simp [Entry.value]

/-- An option of a section that stands alone has its value, trimmed, and no other option has
one. -/
theorem lookup?_ofSection (hheader : header ≠ defaultHeader) (options : List (Text × Text))
    (name : Text) :
    lookup? (ofSection header options) header name =
      (options.find? (·.1 = name)).map (trim ·.2) := by
  have hdefault : (options.map fun option => Entry.mk header option.1 [trim option.2]).find?
      (fun entry => entry.header = defaultHeader && entry.name = name) = none := by
    rw [List.find?_eq_none]
    intro entry hentry
    obtain ⟨option, -, rfl⟩ := List.mem_map.mp hentry
    simp [hheader]
  have hvalue : (fun option : Text × Text => (⟨header, option.1, [trim option.2]⟩ : Entry).value) =
      fun option => trim option.2 := by
    funext option
    exact value_singleton header option.1 option.2
  simp only [lookup?, value?, ofSection, hdefault, List.find?_map, Option.map_map, Option.map_none]
  simp [Function.comp_def, hvalue]

end Document
end Settings
end MarkupLayout
