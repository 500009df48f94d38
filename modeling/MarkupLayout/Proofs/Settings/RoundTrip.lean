import MarkupLayout.Proofs.Settings.Filling
import MarkupLayout.Proofs.Settings.Reading
import MarkupLayout.Proofs.Settings.TagLists
import MarkupLayout.Proofs.Text.Encoding
import MarkupLayout.Settings.Folder

/-!
# Reading back a style

A style is written as the section of a settings file: the unit between quotation marks, the sets of
names as lists with commas, all percent signs twice. On the way back a value passes through the
decoder, the lines, the trimming of values, the references, the quotation marks and the escaped
tabs. None of them changes more than the writing did, so the style is read back, and each option
that was left out is as in the standard style.
-/

namespace MarkupLayout

open Text

/-- Whether a style can be written in a settings file. -/
structure Style.Writable (style : Style) : Prop where
  unit_lineEnd : '\n' ∉ style.unit ∧ '\r' ∉ style.unit
  unit_escape : ¬ ['\\', 't'] <:+: style.unit
  flush : ∀ name ∈ style.flushTags, TagSet.Listable name ∧ '\n' ∉ name ∧ '\r' ∉ name
  inline : ∀ name ∈ style.inlineTags, TagSet.Listable name ∧ '\n' ∉ name ∧ '\r' ∉ name

namespace Settings

variable {t spelt : Text} {style : Style} {part : StyleOption} {parts : List StyleOption}

/-! ### Units -/

/-- The second text is the first one, with some of the tabs written as a backslash and a `t`. -/
inductive SpellsTabs : Text → Text → Prop where
  | nil : SpellsTabs [] []
  | same (c : Char) {t spelt : Text} (h : SpellsTabs t spelt) : SpellsTabs (c :: t) (c :: spelt)
  | escaped {t spelt : Text} (h : SpellsTabs t spelt) :
    SpellsTabs ('\t' :: t) ('\\' :: 't' :: spelt)

private theorem SpellsTabs.not_mem {c : Char} (h : SpellsTabs t spelt) (hc : c ∉ t)
    (hslash : c ≠ '\\') (hletter : c ≠ 't') : c ∉ spelt := by
  induction h with
  | nil => exact hc
  | same d h ih =>
    rw [List.mem_cons, not_or] at hc ⊢
    exact ⟨hc.1, ih hc.2⟩
  | escaped h ih =>
    rw [List.mem_cons, not_or] at hc
    simp [hslash, hletter, ih hc.2]

/-- A backslash and a `t` stand next to each other only where a tab was written, so exactly the tabs
are put back. -/
theorem SpellsTabs.unescapeTabs_eq (h : SpellsTabs t spelt) (hescape : ¬ ['\\', 't'] <:+: t) :
    unescapeTabs spelt = t := by
  induction h with
  | nil => rfl
  | @same c t spelt h ih =>
    have ht := ih (mt List.infix_cons hescape)
    by_cases hpair : ∃ rest, c = '\\' ∧ spelt = 't' :: rest
    · obtain ⟨rest, rfl, rfl⟩ := hpair
      cases h with
      | @same _ t _ h =>
        have hprefix : ['\\', 't'] <+: '\\' :: 't' :: t := List.prefix_append ['\\', 't'] t
        exact absurd hprefix.isInfix hescape
    · rw [unescapeTabs, ht]
      rintro rest rfl rfl
      exact hpair ⟨rest, rfl, rfl⟩
  | @escaped t spelt h ih =>
    rw [unescapeTabs, ih (mt List.infix_cons hescape)]

/-- The text between quotation marks, whatever quotation marks it has itself. -/
theorem unquote_quoted (t : Text) : unquote ('\x22' :: (t ++ ['\x22'])) = t := by
  simp [unquote]

/-! ### Options -/

/-- The options of a style. -/
inductive StyleOption where
  | unit
  | flush
  | inline
  deriving DecidableEq, Repr

namespace StyleOption

/-- The name of an option. -/
def name : StyleOption → Text
  | unit => "indent_with".toList
  | flush => "tags_without_indentation".toList
  | inline => "tags_without_newline".toList

private theorem name_inj {part other : StyleOption} : part.name = other.name ↔ part = other := by
  cases part <;> cases other <;> decide

private theorem isName_name (part : StyleOption) : Document.IsName part.name where
  head := by
    cases part
    all_goals exact ⟨_, rfl, by decide⟩
  trimRight := by
    cases part
    all_goals decide
  delimiter c hc := by
    have hall : (part.name.all fun c => c ≠ '=' && c ≠ ':') = true := by
      cases part
      all_goals decide
    simpa using List.all_eq_true.mp hall c hc
  lineEnd := by
    cases part
    all_goals decide
  lower := by
    cases part
    all_goals decide

end StyleOption

private theorem find?_name (value : StyleOption → Text) (part : StyleOption)
    (parts : List StyleOption) :
    (parts.map fun other => (other.name, value other)).find? (·.1 = part.name) =
      if part ∈ parts then some (part.name, value part) else none := by
  induction parts with
  | nil => rfl
  | cons other parts ih =>
    rw [List.map_cons, List.find?_cons, ih]
    by_cases h : other = part
    · simp [h]
    · simp [StyleOption.name_inj, h, Ne.symm h]

private theorem Folder.exists_settingsFile?_eq {folder : Folder} {item : Item}
    (h : folder.items.lookup "htmlformatter.local.ini".toList = some item ∨
      folder.items.lookup "htmlformatter.local.ini".toList = none ∧
        folder.items.lookup "htmlformatter.ini".toList = some item) :
    ∃ file, folder.settingsFile? = some (file, item) := by
  simp only [settingsFile?, fileNames, List.findSome?_cons]
  rcases h with hlocal | ⟨hlocal, hcommon⟩
  · exact ⟨"htmlformatter.local.ini".toList, by rw [hlocal, Option.map_some]⟩
  · exact ⟨"htmlformatter.ini".toList, by rw [hlocal, hcommon, Option.map_some, Option.map_none]⟩

end Settings

/-- The style that has some of the options of a style, and the other ones from the standard
style. -/
def Style.restrict (style : Style) (parts : List Settings.StyleOption) : Style where
  unit := if .unit ∈ parts then style.unit else ({} : Style).unit
  flushTags := if .flush ∈ parts then style.flushTags else ({} : Style).flushTags
  inlineTags := if .inline ∈ parts then style.inlineTags else ({} : Style).inlineTags

namespace Settings

/-! ### Files -/

/-- A way to write a style: which tabs of the unit are escaped, and in which order the names of the
two sets are listed. -/
structure Spelling (style : Style) where
  unit : Text
  flush : List Text
  inline : List Text
  spells : SpellsTabs style.unit unit
  mem_flush : ∀ name, name ∈ flush ↔ name ∈ style.flushTags
  mem_inline : ∀ name, name ∈ inline ↔ name ∈ style.inlineTags

namespace Spelling

variable (spelling : Spelling style)

/-- The value of an option, before its percent signs are doubled. -/
def value : StyleOption → Text
  | .unit => '\x22' :: (spelling.unit ++ ['\x22'])
  | .flush => [','].intercalate spelling.flush
  | .inline => [','].intercalate spelling.inline

/-- The value of an option if it is one of those that are written. -/
def value? (parts : List StyleOption) (part : StyleOption) : Option Text :=
  if part ∈ parts then some (spelling.value part) else none

/-- Some of the options, as they are written. -/
def options (parts : List StyleOption) : List (Text × Text) :=
  parts.map fun part => (part.name, Template.doublePercents (spelling.value part))

/-- The settings file with some of the options. -/
def text (parts : List StyleOption) : Text :=
  Document.sectionText styleHeader (spelling.options parts)

/-- The sets of a style, listed in the order in which they were given. -/
def ofLists (h : SpellsTabs t spelt) (flush inline : List Text) :
    Spelling ⟨t, .ofList flush, .ofList inline⟩ where
  unit := spelt
  flush := flush
  inline := inline
  spells := h
  mem_flush name := by simp [Std.ExtTreeSet.mem_ofList]
  mem_inline name := by simp [Std.ExtTreeSet.mem_ofList]

variable {spelling}

/-- A style can be written if its unit and the names that were given can. -/
theorem writable_ofLists {flush inline : List Text} (hlineEnd : '\n' ∉ t ∧ '\r' ∉ t)
    (hescape : ¬ ['\\', 't'] <:+: t)
    (hflush : ∀ name ∈ flush, TagSet.Listable name ∧ '\n' ∉ name ∧ '\r' ∉ name)
    (hinline : ∀ name ∈ inline, TagSet.Listable name ∧ '\n' ∉ name ∧ '\r' ∉ name) :
    Style.Writable ⟨t, .ofList flush, .ofList inline⟩ where
  unit_lineEnd := hlineEnd
  unit_escape := hescape
  flush name hname := hflush name (by simpa [Std.ExtTreeSet.mem_ofList] using hname)
  inline name hname := hinline name (by simpa [Std.ExtTreeSet.mem_ofList] using hname)

private theorem intercalate_names {names : List Text} {tags : TagSet}
    (h : ∀ name ∈ tags, TagSet.Listable name ∧ '\n' ∉ name ∧ '\r' ∉ name)
    (hmem : ∀ name, name ∈ names ↔ name ∈ tags) :
    trim ([','].intercalate names) = [','].intercalate names ∧
      '\n' ∉ [','].intercalate names ∧ '\r' ∉ [','].intercalate names := by
  have hnames (name : Text) (hname : name ∈ names) := h name ((hmem name).mp hname)
  refine ⟨?_, ?_, ?_⟩
  · exact TagSet.trim_intercalate fun name hname => (hnames name hname).1
  · exact TagSet.not_mem_intercalate (by decide) fun name hname => (hnames name hname).2.1
  · exact TagSet.not_mem_intercalate (by decide) fun name hname => (hnames name hname).2.2

private theorem trim_value (h : style.Writable) (part : StyleOption) :
    trim (spelling.value part) = spelling.value part := by
  cases part with
  | unit =>
    have hmark : ¬ AllBlank ['\x22'] := by decide
    have hlast : trimRight ['\x22'] = ['\x22'] := by decide
    change trim ('\x22' :: (spelling.unit ++ ['\x22'])) = '\x22' :: (spelling.unit ++ ['\x22'])
    rw [trim_cons_of_ink (by decide), trimRight_append_of_not_allBlank hmark, hlast]
  | flush => exact (intercalate_names h.flush spelling.mem_flush).1
  | inline => exact (intercalate_names h.inline spelling.mem_inline).1

private theorem lineEnd_value (h : style.Writable) (part : StyleOption) :
    '\n' ∉ spelling.value part ∧ '\r' ∉ spelling.value part := by
  cases part with
  | unit =>
    have hfeed := spelling.spells.not_mem h.unit_lineEnd.1 (by decide) (by decide)
    have hreturn := spelling.spells.not_mem h.unit_lineEnd.2 (by decide) (by decide)
    simp [value, hfeed, hreturn]
  | flush => exact (intercalate_names h.flush spelling.mem_flush).2
  | inline => exact (intercalate_names h.inline spelling.mem_inline).2

/-- The file is read as a document with the section and the options that were written. -/
theorem read_text (h : style.Writable) (hparts : parts.Nodup) :
    Document.read (spelling.text parts) =
      .ok (.ofSection styleHeader (spelling.options parts)) := by
  apply Document.read_sectionText
  · decide
  · decide
  · decide
  · intro option hoption
    obtain ⟨part, -, rfl⟩ := List.mem_map.mp hoption
    exact part.isName_name
  · rw [options, List.map_map]
    apply List.pairwise_map.mpr
    exact hparts.imp fun hne hname => hne (StyleOption.name_inj.mp hname)
  · intro option hoption
    obtain ⟨part, -, rfl⟩ := List.mem_map.mp hoption
    rw [Template.mem_doublePercents, Template.mem_doublePercents]
    exact lineEnd_value h part

private theorem styleOption?_name (h : style.Writable) (parts : List StyleOption)
    (part : StyleOption) :
    (Document.ofSection styleHeader (spelling.options parts)).styleOption? part.name =
      .ok (spelling.value? parts part) := by
  have hraw : trim (Template.doublePercents (spelling.value part)) =
      Template.doublePercents (spelling.value part) :=
    Template.trim_doublePercents (trim_value h part)
  rw [Document.styleOption?, Document.lookup?_ofSection (by decide), options,
    find?_name fun part => Template.doublePercents (spelling.value part), value?]
  by_cases hpart : part ∈ parts
  · simp only [if_pos hpart, Option.map_some, hraw, Template.stepLimit,
      Template.fill_doublePercents]
  · simp only [if_neg hpart, Option.map_none]

private theorem getD_map_value? {α : Type} (f : Text → α) (standard : α) :
    ((spelling.value? parts part).map f).getD standard =
      if part ∈ parts then f (spelling.value part) else standard := by
  rw [value?]
  split <;> rfl

/-- The style of the document has the options that were written. -/
theorem style_ofSection (h : style.Writable) (parts : List StyleOption) :
    (Document.ofSection styleHeader (spelling.options parts)).style =
      .ok (style.restrict parts) := by
  have hunit : unitOfValue (spelling.value .unit) = style.unit := by
    rw [unitOfValue, value, unquote_quoted, spelling.spells.unescapeTabs_eq h.unit_escape]
  have hflush : TagSet.ofCommaList (spelling.value .flush) = style.flushTags :=
    TagSet.ofCommaList_intercalate (fun name hname => (h.flush name hname).1) spelling.mem_flush
  have hinline : TagSet.ofCommaList (spelling.value .inline) = style.inlineTags :=
    TagSet.ofCommaList_intercalate (fun name hname => (h.inline name hname).1) spelling.mem_inline
  have hsection : (Document.ofSection styleHeader (spelling.options parts)).hasSection styleHeader =
      true := by
    simp [Document.hasSection, Document.ofSection]
  have hunit? : (Document.ofSection styleHeader (spelling.options parts)).styleOption?
      "indent_with".toList = .ok (spelling.value? parts .unit) :=
    styleOption?_name h parts .unit
  have hflush? : (Document.ofSection styleHeader (spelling.options parts)).styleOption?
      "tags_without_indentation".toList = .ok (spelling.value? parts .flush) :=
    styleOption?_name h parts .flush
  have hinline? : (Document.ofSection styleHeader (spelling.options parts)).styleOption?
      "tags_without_newline".toList = .ok (spelling.value? parts .inline) :=
    styleOption?_name h parts .inline
  rw [Document.style, if_pos hsection, hunit?, hflush?, hinline?]
  change Except.ok { unit := _, flushTags := _, inlineTags := _ : Style } = _
  rw [getD_map_value?, getD_map_value?, getD_map_value?, hunit, hflush, hinline]
  rfl

/-- A style that can be written is read back from the settings file of a folder, which is the local
one if there is one. An option that was left out is as in the standard style. -/
theorem style_folder {folder : Folder} (h : style.Writable) (spelling : Spelling style)
    (hparts : parts.Nodup)
    (hfile : let item := Item.file (Utf8.encode (spelling.text parts))
      folder.items.lookup "htmlformatter.local.ini".toList = some item ∨
        folder.items.lookup "htmlformatter.local.ini".toList = none ∧
          folder.items.lookup "htmlformatter.ini".toList = some item) :
    folder.style = .ok (style.restrict parts) := by
  obtain ⟨file, hitem⟩ := Folder.exists_settingsFile?_eq hfile
  have hdocument : folder.document = .ok (.ofSection styleHeader (spelling.options parts)) := by
    simp only [Folder.document, hitem, Utf8.decode?_encode, read_text h hparts]
    rfl
  rw [Folder.style, hdocument]
  change (Document.ofSection styleHeader (spelling.options parts)).style.mapError _ = _
  rw [style_ofSection h]
  rfl

/-- A unit with two tabs, one of them escaped, a percent sign, both quotation marks and a backslash,
and names with delimiters, percent signs and spaces. The option that is left out is not the empty
set of the style but the standard one. -/
theorem style_folder_marks :
    Folder.style
        { path := "site".toList
          items := [("htmlformatter.ini".toList, .directory),
            ("htmlformatter.local.ini".toList, .file (Utf8.encode
              ("[FORMAT]\nindent_with = \"\t\\t%% '\\\"x\"\n".toList ++
                "tags_without_newline = x y,100%%,a=b;\n".toList)))] } =
      .ok { unit := "\t\t% '\\\"x".toList
            inlineTags := .ofList ["x y".toList, "100%".toList, "a=b;".toList] } := by
  have hstyle : Style.Writable ⟨"\t\t% '\\\"x".toList, .ofList ([] : List Text),
      .ofList ["x y".toList, "100%".toList, "a=b;".toList]⟩ := by
    apply writable_ofLists
    all_goals decide +kernel
  have hspells : SpellsTabs "\t\t% '\\\"x".toList "\t\\t% '\\\"x".toList :=
    .same '\t' (.escaped (.same '%' (.same ' ' (.same '\x27' (.same '\\'
      (.same '\x22' (.same 'x' .nil)))))))
  let spelling := ofLists hspells [] ["x y".toList, "100%".toList, "a=b;".toList]
  have htext : "[FORMAT]\nindent_with = \"\t\\t%% '\\\"x\"\n".toList ++
      "tags_without_newline = x y,100%%,a=b;\n".toList = spelling.text [.unit, .inline] :=
    rfl
  have hparts : [StyleOption.unit, .inline].Nodup := by decide
  rw [htext]
  exact style_folder hstyle spelling hparts (.inl rfl)

end Spelling
end Settings
end MarkupLayout
