import MarkupLayout.Proofs.Text.Fields
import MarkupLayout.Proofs.Text.Trimming
import MarkupLayout.Style

/-!
# Lists of names with commas

The sets that are read from lists are those of names that can be listed: a name that is not empty,
has no comma and begins and ends with ink. Such a set is read from each list of its names. Their
order does not matter, a name may be listed more than once and have blanks around it, and places of
the list may be left blank. Joining two lists by a comma joins the two sets.

A list of names without blanks around them begins and ends with ink, so that trimming it changes
nothing.
-/

namespace MarkupLayout
namespace TagSet

open Text

variable {name item t : Text} {names items : List Text} {tags : TagSet}

/-- Whether a name can be listed with commas. -/
structure Listable (name : Text) : Prop where
  ne_nil : name ≠ []
  comma : ',' ∉ name
  trim : name.trim = name

/-- Decided by trimming the name and looking for a comma. -/
instance (name : Text) : Decidable (Listable name) :=
  decidable_of_iff (name ≠ [] ∧ ',' ∉ name ∧ name.trim = name)
    ⟨fun ⟨hne, hcomma, htrim⟩ => ⟨hne, hcomma, htrim⟩, fun h => ⟨h.ne_nil, h.comma, h.trim⟩⟩

private theorem Listable.not_allBlank (h : Listable name) : ¬ AllBlank name := by
  intro hblank
  have hnil : name.trim = [] := trim_eq_nil_iff.mpr hblank
  rw [h.trim] at hnil
  exact h.ne_nil hnil

/-- Whether an item of a list is a name with nothing but blanks around it. -/
def Padded (name item : Text) : Prop :=
  ∃ w w', AllBlank w ∧ AllBlank w' ∧ item = w ++ name ++ w'

/-- Whether the items of a list are those of a set: each is blank or a name of the set, and each
name of the set is among them. -/
structure Lists (items : List Text) (tags : TagSet) : Prop where
  allBlank_or_padded : ∀ item ∈ items, AllBlank item ∨ ∃ name ∈ tags, Padded name item
  exists_padded : ∀ name ∈ tags, ∃ item ∈ items, Padded name item

/-! ### Reading -/

/-- Joining two lists by a comma joins the two sets. -/
theorem ofCommaList_append_cons (t u : Text) :
    ofCommaList (t ++ ',' :: u) = ofCommaList t ∪ ofCommaList u := by
  apply Std.ExtTreeSet.ext_mem
  intro name
  rw [Std.ExtTreeSet.mem_union_iff, mem_ofCommaList, mem_ofCommaList, mem_ofCommaList,
    fields_append_cons, ← and_or_left]
  simp only [List.mem_append, or_and_right, exists_or]

/-- Every name that is read can be listed. -/
theorem listable_of_mem_ofCommaList (h : name ∈ ofCommaList t) : Listable name := by
  obtain ⟨hne, field, hfield, rfl⟩ := mem_ofCommaList.mp h
  exact ⟨hne, fun hcomma => not_mem_of_mem_fields hfield ((trim_sublist field).subset hcomma),
    trim_trim field⟩

private theorem mem_ofCommaList_intercalate (h : ∀ item ∈ items, ',' ∉ item) :
    name ∈ ofCommaList ([','].intercalate items) ↔
      name ≠ [] ∧ ∃ item ∈ items, item.trim = name := by
  rw [mem_ofCommaList]
  cases items with
  | nil =>
    -- the only field of the empty list is empty, and so is its name
    apply and_congr_right
    intro hne
    simp [fields, Text.trim, trimLeft, trimRight, Ne.symm hne]
  | cons first rest => rw [fields_intercalate (List.cons_ne_nil first rest) h]

private theorem Padded.trim_eq (hpadded : Padded name item) (h : Listable name) :
    item.trim = name := by
  obtain ⟨w, w', hw, hw', rfl⟩ := hpadded
  rw [trim_append_of_allBlank_right hw', trim_append_of_allBlank_left hw, h.trim]

private theorem Padded.comma_not_mem (hpadded : Padded name item) (h : Listable name) :
    ',' ∉ item := by
  obtain ⟨w, w', hw, hw', rfl⟩ := hpadded
  have hcomma : isBlank ',' = false := by decide
  simp only [List.mem_append, not_or]
  exact ⟨⟨hw.not_mem hcomma, h.comma⟩, hw'.not_mem hcomma⟩

private theorem Lists.comma_not_mem (hlists : Lists items tags) (h : ∀ name ∈ tags, Listable name)
    (hitem : item ∈ items) : ',' ∉ item := by
  rcases hlists.allBlank_or_padded item hitem with hblank | ⟨name, hname, hpadded⟩
  · exact hblank.not_mem (by decide)
  · exact hpadded.comma_not_mem (h name hname)

private theorem Lists.trim_mem (hlists : Lists items tags) (h : ∀ name ∈ tags, Listable name)
    (hitem : item ∈ items) (hne : item.trim ≠ []) : item.trim ∈ tags := by
  rcases hlists.allBlank_or_padded item hitem with hblank | ⟨name, hname, hpadded⟩
  · exact absurd (trim_eq_nil_iff.mpr hblank) hne
  · rwa [hpadded.trim_eq (h name hname)]

/-- A set of names that can be listed is read from each list of them. -/
theorem Lists.ofCommaList_eq (hlists : Lists items tags) (h : ∀ name ∈ tags, Listable name) :
    ofCommaList ([','].intercalate items) = tags := by
  apply Std.ExtTreeSet.ext_mem
  intro name
  rw [mem_ofCommaList_intercalate fun item hitem => hlists.comma_not_mem h hitem]
  constructor
  · rintro ⟨hne, item, hitem, rfl⟩
    exact hlists.trim_mem h hitem hne
  · intro hname
    obtain ⟨item, hitem, hpadded⟩ := hlists.exists_padded name hname
    exact ⟨(h name hname).ne_nil, item, hitem, hpadded.trim_eq (h name hname)⟩

/-- The names of a set are items for it. -/
theorem lists_of_mem_iff (hmem : ∀ name, name ∈ names ↔ name ∈ tags) : Lists names tags := by
  have hpadded (name : Text) : Padded name name := ⟨[], [], allBlank_nil, allBlank_nil, by simp⟩
  exact ⟨fun name hname => .inr ⟨name, (hmem name).mp hname, hpadded name⟩,
    fun name hname => ⟨name, (hmem name).mpr hname, hpadded name⟩⟩

/-- A set is read back from any list of its names. -/
theorem ofCommaList_intercalate (h : ∀ name ∈ tags, Listable name)
    (hmem : ∀ name, name ∈ names ↔ name ∈ tags) :
    ofCommaList ([','].intercalate names) = tags :=
  (lists_of_mem_iff hmem).ofCommaList_eq h

/-- The sets that are read from lists are those of names that can be listed. -/
theorem exists_ofCommaList_eq_iff :
    (∃ t, ofCommaList t = tags) ↔ ∀ name ∈ tags, Listable name := by
  constructor
  · rintro ⟨t, rfl⟩ name hname
    exact listable_of_mem_ofCommaList hname
  · intro h
    exact ⟨[','].intercalate tags.toList,
      ofCommaList_intercalate h fun name => Std.ExtTreeSet.mem_toList⟩

/-- Reading takes the comma between two lists to the union of two sets, and the sets that are read
are exactly those of names that can be listed. Each of them is read from every list of its names, in
any order, with repetitions, blanks around the names and blank places. So no set of a style that is
made from two lists has the empty name. -/
theorem ofCommaList_union_onto_listable :
    (∀ t u : Text, ofCommaList (t ++ ',' :: u) = ofCommaList t ∪ ofCommaList u) ∧
      (∀ tags : TagSet, (∃ t, ofCommaList t = tags) ↔ ∀ name ∈ tags, Listable name) ∧
      (∀ (items : List Text) (tags : TagSet), Lists items tags → (∀ name ∈ tags, Listable name) →
        ofCommaList ([','].intercalate items) = tags) ∧
      ∀ unit flush inline : Text, [] ∉ (Style.ofCommaLists unit flush inline).flushTags ∧
        [] ∉ (Style.ofCommaLists unit flush inline).inlineTags := by
  refine ⟨ofCommaList_append_cons, fun tags => exists_ofCommaList_eq_iff, ?_, ?_⟩
  · intro items tags hlists h
    exact hlists.ofCommaList_eq h
  · intro unit flush inline
    exact ⟨nil_not_mem_ofCommaList flush, nil_not_mem_ofCommaList inline⟩

/-- A name with a space inside and blanks on both sides, an empty place, a place with a no-break
space and a name that is listed twice. -/
theorem ofCommaList_union_onto_listable_blanks :
    let tags : TagSet := .ofList ["b".toList, "x y".toList]
    let items := [" b".toList, "".toList, "\tx y\n".toList, "\u00a0".toList, "b".toList]
    Lists items tags ∧ (∀ name ∈ tags, Listable name) ∧
      ofCommaList " b,,\tx y\n,\u00a0,b".toList = tags := by
  intro tags items
  have hmem (name : Text) : name ∈ tags ↔ name = "b".toList ∨ name = "x y".toList := by
    simp [tags, Std.ExtTreeSet.mem_ofList]
  have hb : Padded "b".toList " b".toList := ⟨[' '], [], by decide, by decide, rfl⟩
  have hb' : Padded "b".toList "b".toList := ⟨[], [], by decide, by decide, rfl⟩
  have hxy : Padded "x y".toList "\tx y\n".toList := ⟨['\t'], ['\n'], by decide, by decide, rfl⟩
  have hlists : Lists items tags := by
    constructor
    · simp only [items, List.forall_mem_cons, List.not_mem_nil, false_implies, implies_true,
        and_true]
      exact ⟨.inr ⟨_, (hmem _).mpr (.inl rfl), hb⟩, .inl (by decide),
        .inr ⟨_, (hmem _).mpr (.inr rfl), hxy⟩, .inl (by decide),
        .inr ⟨_, (hmem _).mpr (.inl rfl), hb'⟩⟩
    · intro name hname
      rcases (hmem name).mp hname with rfl | rfl
      · exact ⟨_, by simp [items], hb⟩
      · exact ⟨_, by simp [items], hxy⟩
  have hlistable : ∀ name ∈ tags, Listable name := by
    intro name hname
    rcases (hmem name).mp hname with rfl | rfl <;> decide +kernel
  exact ⟨hlists, hlistable, ofCommaList_union_onto_listable.2.2.1 items tags hlists hlistable⟩

/-! ### Writing -/

/-- A list has no characters but commas and those of the names. -/
theorem not_mem_intercalate {c : Char} (hcomma : c ≠ ',') (h : ∀ name ∈ names, c ∉ name) :
    c ∉ [','].intercalate names := by
  induction names with
  | nil => simp
  | cons first rest ih =>
    obtain ⟨hfirst, hrest⟩ := List.forall_mem_cons.mp h
    cases rest with
    | nil => simpa using hfirst
    | cons next rest =>
      rw [List.intercalate_cons_cons]
      simp [hfirst, hcomma, ih hrest]

private theorem trimLeft_intercalate (h : ∀ name ∈ names, Listable name) :
    trimLeft ([','].intercalate names) = [','].intercalate names := by
  cases names with
  | nil => rfl
  | cons first rest =>
    have hfirst := h first List.mem_cons_self
    have htrim : trimLeft first = first := by rw [← hfirst.trim, trimLeft_trim]
    cases rest with
    | nil => simpa using htrim
    | cons next rest =>
      rw [List.intercalate_cons_cons, List.append_assoc,
        trimLeft_append_of_not_allBlank hfirst.not_allBlank, htrim]

private theorem trimRight_intercalate (h : ∀ name ∈ names, Listable name) :
    trimRight ([','].intercalate names) = [','].intercalate names := by
  induction names with
  | nil => rfl
  | cons first rest ih =>
    obtain ⟨hfirst, hrest⟩ := List.forall_mem_cons.mp h
    cases rest with
    | nil =>
      have htrim : trimRight first = first := by rw [← hfirst.trim, trimRight_trim]
      simpa using htrim
    | cons next rest =>
      have hink : ¬ AllBlank (',' :: [','].intercalate (next :: rest)) := by
        intro hblank
        exact absurd (allBlank_cons.mp hblank).1 (by decide)
      rw [List.intercalate_cons_cons, List.append_assoc, List.singleton_append,
        trimRight_append_of_not_allBlank hink, trimRight_cons, if_neg hink, ih hrest]

/-- A list of names is not changed by trimming. -/
theorem trim_intercalate (h : ∀ name ∈ names, Listable name) :
    trim ([','].intercalate names) = [','].intercalate names := by
  rw [trim, trimLeft_intercalate h, trimRight_intercalate h]

end TagSet
end MarkupLayout
