import Mathlib.Data.List.Basic
import MarkupLayout.Formatter
import MarkupLayout.Proofs.Text.Encoding

/-!
# Reading UTF-8 between other bytes

Only the bytes from 0x80 to 0xBF continue a sequence, whatever bounds its second byte has, and no
character begins with one of them. So a sequence that any bytes leave open breaks off in front of a
character: the bytes of a text are read as that text between any other bytes, and those are read as
they are alone. Formatting bytes is formatting the text that is read in them.
-/

namespace MarkupLayout
namespace Utf8

variable {s : Begun} {open? : Option Begun} {byte : UInt8} {a b : List UInt8} {t : Text}

/-- Whether a byte can continue a sequence. -/
def Continues (byte : UInt8) : Prop := 0x80 ≤ byte.toNat ∧ byte.toNat ≤ 0xBF

/-- Whether a sequence takes only bytes that can continue one. -/
structure Begun.Bounded (s : Begun) : Prop where
  least : 0x80 ≤ s.least
  greatest : s.greatest ≤ 0xBF

/-! ### Open sequences -/

/-- A sequence that a byte begins takes only bytes that can continue one. -/
theorem Begun.Bounded.of_lead (h : lead byte = .sequence s) : s.Bounded := by
  unfold lead at h
  dsimp only at h
  repeat' split at h
  all_goals simp only [reduceCtorEq, Lead.sequence.injEq] at h
  all_goals
    rw [← h]
    exact ⟨by simp, by simp⟩

private theorem bounded_of_mem_start (h : s ∈ (start byte).2) : s.Bounded := by
  unfold start at h
  split at h
  · cases h
  · next hlead =>
    obtain rfl := Option.some.inj h
    exact .of_lead hlead
  · cases h

private theorem bounded_of_mem_step (h : s ∈ (step open? byte).2) : s.Bounded := by
  unfold step at h
  split at h
  · exact bounded_of_mem_start h
  · dsimp only at h
    split at h
    · split at h
      · cases h
      · obtain rfl := Option.some.inj h
        exact ⟨Nat.le_refl _, Nat.le_refl _⟩
    · exact bounded_of_mem_start h

/-- A sequence breaks off in front of a byte that does not continue it, which is then a first
byte. -/
theorem itemsFrom_some_cons_of_not (hbyte : ¬ (s.least ≤ byte.toNat ∧ byte.toNat ≤ s.greatest))
    (rest : List UInt8) :
    itemsFrom (some s) (byte :: rest) = none :: itemsFrom none (byte :: rest) := by
  rw [itemsFrom, step, if_neg hbyte, itemsFrom, step, List.cons_append]

private theorem itemsFrom_some_cons (hs : s.Bounded) (hbyte : ¬ Continues byte)
    (rest : List UInt8) :
    itemsFrom (some s) (byte :: rest) = none :: itemsFrom none (byte :: rest) := by
  apply itemsFrom_some_cons_of_not
  intro hin
  exact hbyte ⟨Nat.le_trans hs.least hin.1, Nat.le_trans hin.2 hs.greatest⟩

/-- Bytes are read in two parts where the second does not begin with a byte that continues a
sequence. -/
theorem itemsFrom_append (hopen : ∀ s ∈ open?, s.Bounded) (hb : ∀ byte ∈ b.head?, ¬ Continues byte)
    (a : List UInt8) : itemsFrom open? (a ++ b) = itemsFrom open? a ++ itemsFrom none b := by
  induction a generalizing open? with
  | nil =>
    cases open? with
    | none => rfl
    | some s =>
      -- the open sequence ends as ill-formed, at the end of the bytes or in front of the next one
      cases b with
      | nil => rfl
      | cons byte rest => exact itemsFrom_some_cons (hopen s rfl) (hb byte rfl) rest
  | cons byte a ih =>
    have hstep : ∀ s ∈ (step open? byte).2, s.Bounded := fun s hs => bounded_of_mem_step hs
    rw [List.cons_append, itemsFrom, itemsFrom, ih hstep, List.append_assoc]

/-! ### Texts between other bytes -/

private theorem not_continues_head?_utf8EncodeChar (c : Char) :
    ∀ byte ∈ (String.utf8EncodeChar c).head?, ¬ Continues byte := by
  have hvalid : c.val.toNat < 0x110000 := by
    obtain h | h := c.valid
    · exact Nat.lt_trans h (by decide)
    · exact h.2
  unfold String.utf8EncodeChar Continues
  generalize c.val.toNat = v at hvalid
  intro byte hbyte
  dsimp only at hbyte
  repeat' split at hbyte
  all_goals
    obtain rfl := Option.some.inj hbyte
    simp
    omega

private theorem not_continues_head?_encode_append (h : t ≠ []) (b : List UInt8) :
    ∀ byte ∈ (encode t ++ b).head?, ¬ Continues byte := by
  obtain ⟨c, rest, rfl⟩ := List.exists_cons_of_ne_nil h
  intro byte hbyte
  apply not_continues_head?_utf8EncodeChar c
  rw [encode, List.flatMap_cons, List.append_assoc] at hbyte
  rwa [List.head?_append_of_ne_nil _ String.utf8EncodeChar_ne_nil] at hbyte

/-- The bytes of a text are read as that text between any bytes, which are read as they are
alone. -/
theorem items_append_encode_append (h : t ≠ []) (a b : List UInt8) :
    items (a ++ (encode t ++ b)) = items a ++ (t.map some ++ items b) := by
  rw [items, itemsFrom_append (by simp) (not_continues_head?_encode_append h b),
    itemsFrom_encode_append]
  rfl

/-- The replacement characters for other bytes take no place of a text between them. -/
theorem decodeLossy_append_encode_append (h : t ≠ []) (a b : List UInt8) :
    decodeLossy (a ++ (encode t ++ b)) = decodeLossy a ++ (t ++ decodeLossy b) := by
  rw [decodeLossy, items_append_encode_append h, List.map_append, List.map_append, List.map_map]
  simp [decodeLossy, Function.comp_def]

/-! ### Bytes that are read at all -/

private theorem itemsFrom_some_ne_nil (s : Begun) (bytes : List UInt8) :
    itemsFrom (some s) bytes ≠ [] := by
  induction bytes generalizing s with
  | nil => exact List.cons_ne_nil _ _
  | cons byte rest ih =>
    rw [itemsFrom, step]
    dsimp only
    split
    · split
      · exact List.cons_ne_nil _ _
      · exact ih _
    · exact List.cons_ne_nil _ _

/-- Only no bytes at all are read as nothing. -/
theorem decodeLossy_eq_nil_iff {bytes : List UInt8} : decodeLossy bytes = [] ↔ bytes = [] := by
  rw [decodeLossy, List.map_eq_nil_iff, items]
  constructor
  · intro h
    cases bytes with
    | nil => rfl
    | cons byte rest =>
      rw [itemsFrom, step, start] at h
      split at h
      · cases h
      · exact absurd h (itemsFrom_some_ne_nil _ rest)
      · cases h
  · rintro rfl
    rfl

end Utf8

/-! ### Documents in bytes -/

/-- Whether neither a character nor a byte is handed in. -/
def Source.IsEmpty : Source → Prop
  | absent => True
  | text content => content = []
  | bytes content => content = []

/-- Exactly the empty documents have no text. -/
theorem Source.content_eq_nil_iff {source : Source} : source.content = [] ↔ source.IsEmpty := by
  cases source with
  | absent => exact iff_of_true rfl trivial
  | text content => exact Iff.rfl
  | bytes content => exact Utf8.decodeLossy_eq_nil_iff

/-- The bytes of a text are formatted as the text, and between any other bytes, however ill-formed
or cut off these are, as the text between what is read in those: none of its characters is lost. -/
theorem format_bytes_append (formatter : Formatter) (a b : List UInt8) {t : Text} (h : t ≠ []) :
    Utf8.decodeLossy (a ++ Utf8.encode t ++ b) =
        Utf8.decodeLossy a ++ t ++ Utf8.decodeLossy b ∧
      formatter.format (.bytes (a ++ Utf8.encode t ++ b)) =
        formatter.format (.text (Utf8.decodeLossy a ++ t ++ Utf8.decodeLossy b)) ∧
      formatter.format (.bytes (Utf8.encode t)) = formatter.format (.text t) := by
  have hread (a b : List UInt8) : Utf8.decodeLossy (a ++ Utf8.encode t ++ b) =
      Utf8.decodeLossy a ++ t ++ Utf8.decodeLossy b := by
    rw [List.append_assoc, List.append_assoc]
    exact Utf8.decodeLossy_append_encode_append h a b
  have halone : Utf8.decodeLossy (Utf8.encode t) = t := by
    have hnil := hread [] []
    rwa [List.append_nil, List.nil_append, Utf8.decodeLossy_eq_nil_iff.mpr rfl, List.nil_append,
      List.append_nil] at hnil
  refine ⟨hread a b, ?_, ?_⟩
  · exact congrArg (fun content => formatter.format (.text content)) (hread a b)
  · exact congrArg (fun content => formatter.format (.text content)) halone

/-- A paragraph stands between three bytes of four and the last one of two: the first take no byte
of the opening bracket, and the last is ill-formed by itself. -/
theorem format_bytes_append_paragraph :
    "<p>é".toList ≠ [] ∧ Utf8.encode "<p>é".toList = [60, 112, 62, 195, 169] ∧
      Utf8.decodeLossy [240, 159, 152, 60, 112, 62, 195, 169, 169] = "\uFFFD<p>é\uFFFD".toList ∧
      Formatter.format {} (.bytes [240, 159, 152, 60, 112, 62, 195, 169, 169]) =
        "\uFFFD\n<p>\n    é\uFFFD".toList := by
  have hne : "<p>é".toList ≠ [] := by decide
  have hbytes : Utf8.encode "<p>é".toList = [60, 112, 62, 195, 169] := by decide
  obtain ⟨hread, hformat, -⟩ := format_bytes_append {} [240, 159, 152] [169] hne
  rw [hbytes] at hread hformat
  exact ⟨hne, hbytes, hread.trans (by decide), hformat.trans (by decide)⟩

end MarkupLayout
