import Mathlib.Algebra.Group.Nat.Defs
import MarkupLayout.Proofs.Text.Decoding

/-!
# Maximal subparts

Where a character stands, it is read. Where none does, as many bytes as some character begins with
are read as one ill-formed sequence, or a single byte if no character begins with that. `Reads`
says so of all bytes, without following them through a sequence, and is what `items` computes. An
open sequence stands for the code points that it can still become: they are exactly those whose
characters begin with the bytes of the sequence.
-/

namespace MarkupLayout
namespace Utf8

open String (utf8EncodeChar)

variable {s : Begun} {part part' rest rest' bytes : List UInt8} {byte : UInt8} {item : Item}
  {items : List Item} {c : Char} {v bits further : Nat} {t : Text}

/-- Whether some character begins with the bytes. -/
def Begins (part : List UInt8) : Prop := ∃ c, part <+: utf8EncodeChar c

/-- Bytes that are one ill-formed sequence in front of others, if no character stands there. -/
inductive Subpart : List UInt8 → List UInt8 → Prop
  /-- As many bytes as some character begins with. -/
  | begun {part rest : List UInt8} (hne : part ≠ []) (hbegins : Begins part)
      (hmax : ∀ byte ∈ rest.head?, ¬ Begins (part ++ [byte])) : Subpart part rest
  /-- A byte with which no character begins. -/
  | byte {byte : UInt8} (rest : List UInt8) (hnone : ¬ Begins [byte]) : Subpart [byte] rest

/-- Whether the first bytes are read as one item in front of the rest. -/
inductive Takes : List UInt8 → Item → List UInt8 → Prop
  | character (c : Char) (rest : List UInt8) : Takes (utf8EncodeChar c) (some c) rest
  | illFormed {part rest : List UInt8} (hnone : ∀ c, ¬ utf8EncodeChar c <+: part ++ rest)
      (hpart : Subpart part rest) : Takes part none rest

/-- How bytes are read. -/
inductive Reads : List UInt8 → List Item → Prop
  | nil : Reads [] []
  | cons {part rest : List UInt8} {item : Item} {items : List Item}
      (htakes : Takes part item rest) (hrest : Reads rest items) :
      Reads (part ++ rest) (item :: items)

private theorem Begins.of_isPrefix (h : Begins part') (hp : part <+: part') : Begins part := by
  obtain ⟨c, hc⟩ := h
  exact ⟨c, hp.trans hc⟩

private theorem not_isPrefix_of_not_begins (h : ¬ Begins [byte]) (rest : List UInt8) (c : Char) :
    ¬ utf8EncodeChar c <+: byte :: rest := by
  intro hc
  obtain ⟨first, more, heq⟩ := List.exists_cons_of_ne_nil (String.utf8EncodeChar_ne_nil (c := c))
  rw [heq, List.cons_prefix_cons] at hc
  obtain ⟨rfl, -⟩ := hc
  exact h ⟨c, more, heq.symm⟩

namespace Subpart

private theorem ne_nil (h : Subpart part rest) : part ≠ [] := by
  cases h with
  | begun hne _ _ => exact hne
  | byte _ _ => exact List.cons_ne_nil _ _

private theorem eq_of_isPrefix (h : Subpart part rest) (h' : Subpart part' rest')
    (heq : part ++ rest = part' ++ rest') (hp : part <+: part') : part = part' := by
  obtain ⟨more, rfl⟩ := hp
  rw [List.append_assoc] at heq
  obtain rfl := List.append_cancel_left heq
  cases more with
  | nil => rw [List.append_nil]
  | cons next more =>
    exfalso
    generalize hpart' : part ++ next :: more = part' at h'
    cases h' with
    | begun _ hbegins _ =>
      have hlonger : part ++ [next] <+: part' := ⟨more, by rw [← hpart', List.append_assoc]; rfl⟩
      cases h with
      | begun _ _ hmax => exact hmax next rfl (hbegins.of_isPrefix hlonger)
      | byte _ hnone =>
        exact hnone (hbegins.of_isPrefix ((List.prefix_append _ _).trans hlonger))
    | byte _ _ =>
      have hlength := congrArg List.length hpart'
      have hpos := List.length_pos_iff.mpr h.ne_nil
      simp at hlength
      omega

private theorem eq (h : Subpart part rest) (h' : Subpart part' rest')
    (heq : part ++ rest = part' ++ rest') : part = part' := by
  obtain hp | hp := List.prefix_or_prefix_of_prefix ⟨rest, rfl⟩ ⟨rest', heq.symm⟩
  · exact h.eq_of_isPrefix h' heq hp
  · exact (h'.eq_of_isPrefix h heq.symm hp).symm

end Subpart

/-! ### Characters and their bytes -/

private theorem toNat_ofNat (h : v.isValidChar) : (Char.ofNat v).toNat = v := by
  rw [Char.ofNat, dif_pos h]
  rfl

/-- The last bytes of a code point, each with six of its bits. -/
def tail : Nat → Nat → List UInt8
  | 0, _ => []
  | n + 1, v => UInt8.ofNat (v / 64 ^ n % 64 + 128) :: tail n v

private theorem utf8EncodeChar_eq (c : Char) :
    let v := c.toNat
    (v < 0x80 ∧ utf8EncodeChar c = UInt8.ofNat v :: tail 0 v) ∨
      (0x80 ≤ v ∧ v < 0x800 ∧ utf8EncodeChar c = UInt8.ofNat (v / 64 + 192) :: tail 1 v) ∨
      (0x800 ≤ v ∧ v < 0x10000 ∧ (v < 0xD800 ∨ 0xDFFF < v) ∧
        utf8EncodeChar c = UInt8.ofNat (v / 4096 + 224) :: tail 2 v) ∨
      (0x10000 ≤ v ∧ v < 0x110000 ∧
        utf8EncodeChar c = UInt8.ofNat (v / 262144 + 240) :: tail 3 v) := by
  have hvalid : c.val.toNat < 0xD800 ∨ 0xDFFF < c.val.toNat ∧ c.val.toNat < 0x110000 := c.valid
  rw [Char.toNat]
  unfold utf8EncodeChar
  generalize c.val.toNat = v at hvalid
  dsimp only
  by_cases hone : v ≤ 0x7F
  · rw [if_pos hone]
    exact .inl ⟨by omega, rfl⟩
  · rw [if_neg hone]
    by_cases htwo : v ≤ 0x7FF
    · rw [if_pos htwo, Nat.mod_eq_of_lt (by omega : v / 64 < 32)]
      exact .inr (.inl ⟨by omega, by omega, by simp [tail]⟩)
    · rw [if_neg htwo]
      by_cases hthree : v ≤ 0xFFFF
      · rw [if_pos hthree, Nat.mod_eq_of_lt (by omega : v / 4096 < 16)]
        exact .inr (.inr (.inl ⟨by omega, by omega, by omega, by simp [tail]⟩))
      · rw [if_neg hthree, Nat.mod_eq_of_lt (by omega : v / 262144 < 8)]
        exact .inr (.inr (.inr ⟨by omega, by omega, by simp [tail]⟩))

/-! ### Open sequences -/

/-- Whether a sequence can become a code point. -/
def Begun.Covers (s : Begun) (v : Nat) : Prop :=
  64 * s.bits + s.least ≤ v / 64 ^ s.further + 128 ∧
    v / 64 ^ s.further + 128 ≤ 64 * s.bits + s.greatest

private theorem Begun.Covers.mod (h : s.Covers v) (hs : s.Bounded) :
    s.least ≤ v / 64 ^ s.further % 64 + 128 ∧ v / 64 ^ s.further % 64 + 128 ≤ s.greatest := by
  obtain ⟨hlow, hhigh⟩ := h
  obtain ⟨hleast, hgreatest⟩ := hs
  generalize v / 64 ^ s.further = w at *
  omega

private theorem Continues.exists_bits (h : Continues byte) :
    ∃ bits < 64, byte = UInt8.ofNat (bits + 128) := by
  obtain ⟨hlow, hhigh⟩ := h
  refine ⟨byte.toNat - 128, by omega, ?_⟩
  rw [Nat.sub_add_cancel hlow, UInt8.ofNat_toNat]

/-- What the sequence that some bytes have opened says of the characters that begin with them. -/
structure Opens (part : List UInt8) (s : Begun) : Prop where
  ne_nil : part ≠ []
  bounded : s.Bounded
  le : s.least ≤ s.greatest
  valid : ∀ v, s.Covers v → v.isValidChar
  covers : ∀ c, part <+: utf8EncodeChar c → s.Covers c.toNat
  eq_append : ∀ c : Char, s.Covers c.toNat → utf8EncodeChar c = part ++ tail (s.further + 1) c.toNat

namespace Opens

private theorem utf8EncodeChar_ofNat (h : Opens part s) (hv : s.Covers v) :
    utf8EncodeChar (Char.ofNat v) = part ++ tail (s.further + 1) v := by
  have heq := h.eq_append (Char.ofNat v)
  rw [toNat_ofNat (h.valid v hv)] at heq
  exact heq hv

private theorem exists_eq_append (h : Opens part s) :
    ∃ c more, more ≠ [] ∧ utf8EncodeChar c = part ++ more := by
  have hv : s.Covers ((64 * s.bits + (s.least - 128)) * 64 ^ s.further) := by
    have hleast := h.bounded.least
    have hle := h.le
    rw [Begun.Covers, Nat.mul_div_cancel _ (Nat.pow_pos (by decide))]
    omega
  exact ⟨_, _, List.cons_ne_nil _ _, h.utf8EncodeChar_ofNat hv⟩

private theorem begins (h : Opens part s) : Begins part := by
  obtain ⟨c, more, -, hc⟩ := h.exists_eq_append
  exact ⟨c, more, hc.symm⟩

-- The bytes of a sequence do not begin with a character: that would be read, and more after it,
-- where a longer character is.
private theorem not_utf8EncodeChar_isPrefix (h : Opens part s) (c : Char) :
    ¬ utf8EncodeChar c <+: part := by
  rintro ⟨between, rfl⟩
  obtain ⟨c', more, hmore, hc'⟩ := h.exists_eq_append
  have hread := itemsFrom_utf8EncodeChar c' []
  rw [List.append_nil, hc', List.append_assoc, itemsFrom_utf8EncodeChar] at hread
  have hnil : Utf8.items (between ++ more) = [] := (List.cons.inj hread).2
  have hempty := decodeLossy_eq_nil_iff.mp (List.map_eq_nil_iff.mpr hnil)
  exact hmore (List.append_eq_nil_iff.mp hempty).2

private theorem not_isPrefix (h : Opens part s)
    (hmax : ∀ byte ∈ rest.head?, ¬ Begins (part ++ [byte]))
    (c : Char) : ¬ utf8EncodeChar c <+: part ++ rest := by
  intro hc
  obtain hp | ⟨more, hmore⟩ := List.prefix_or_prefix_of_prefix hc (List.prefix_append part rest)
  · exact h.not_utf8EncodeChar_isPrefix c hp
  · cases more with
    | nil =>
      rw [List.append_nil] at hmore
      exact h.not_utf8EncodeChar_isPrefix c ⟨[], by rw [hmore, List.append_nil]⟩
    | cons next more =>
      rw [← hmore, List.prefix_append_right_inj] at hc
      obtain ⟨more', rfl⟩ := hc
      exact hmax next rfl ⟨c, more, by rw [← hmore, List.append_assoc]; rfl⟩

private theorem append_isPrefix_iff (h : Opens part s) (c : Char) (byte : UInt8) :
    part ++ [byte] <+: utf8EncodeChar c ↔
      s.Covers c.toNat ∧ byte.toNat = c.toNat / 64 ^ s.further % 64 + 128 := by
  have hbyte : byte = UInt8.ofNat (c.toNat / 64 ^ s.further % 64 + 128) ↔
      byte.toNat = c.toNat / 64 ^ s.further % 64 + 128 := by
    rw [← UInt8.toNat_inj, UInt8.toNat_ofNat', Nat.mod_eq_of_lt (by omega)]
  constructor
  · intro hp
    have hv := h.covers c ((List.prefix_append part [byte]).trans hp)
    rw [h.eq_append c hv, List.prefix_append_right_inj, tail, List.cons_prefix_cons, hbyte] at hp
    exact ⟨hv, hp.1⟩
  · rintro ⟨hv, hb⟩
    rw [h.eq_append c hv, List.prefix_append_right_inj, tail, List.cons_prefix_cons, hbyte]
    exact ⟨hb, List.nil_prefix⟩

/-- A byte outside the bounds of a sequence goes on with none of its characters. -/
theorem not_begins (h : Opens part s)
    (hbyte : ¬ (s.least ≤ byte.toNat ∧ byte.toNat ≤ s.greatest)) : ¬ Begins (part ++ [byte]) := by
  rintro ⟨c, hc⟩
  obtain ⟨hv, hb⟩ := (h.append_isPrefix_iff c byte).mp hc
  rw [hb] at hbyte
  exact hbyte (hv.mod h.bounded)

private theorem utf8EncodeChar_last (h : Opens part s) (hfurther : s.further = 0)
    (hbits : bits < 64) (hleast : s.least ≤ bits + 128) (hgreatest : bits + 128 ≤ s.greatest) :
    utf8EncodeChar (Char.ofNat (64 * s.bits + bits)) = part ++ [UInt8.ofNat (bits + 128)] := by
  have hv : s.Covers (64 * s.bits + bits) := by
    rw [Begun.Covers, hfurther, Nat.pow_zero, Nat.div_one]
    omega
  rw [h.utf8EncodeChar_ofNat hv, hfurther, tail, tail, Nat.pow_zero, Nat.div_one, Nat.mul_add_mod,
    Nat.mod_eq_of_lt hbits]

/-- A byte of a sequence that is not the last one leaves it open. -/
theorem concat (h : Opens part s) (hfurther : s.further = further + 1) (hbits : bits < 64)
    (hleast : s.least ≤ bits + 128) (hgreatest : bits + 128 ≤ s.greatest) :
    Opens (part ++ [UInt8.ofNat (bits + 128)]) { bits := 64 * s.bits + bits, further } := by
  have hlow := h.bounded.least
  have hhigh := h.bounded.greatest
  -- six bits more are known of the code points that remain
  have hcovers (v : Nat) : Begun.Covers { bits := 64 * s.bits + bits, further } v ↔
      s.Covers v ∧ bits = v / 64 ^ s.further % 64 := by
    rw [Begun.Covers, Begun.Covers, hfurther, Nat.pow_succ, ← Nat.div_div_eq_div_mul]
    dsimp only
    generalize v / 64 ^ further = w
    omega
  exact {
    ne_nil := List.append_ne_nil_of_right_ne_nil _ (List.cons_ne_nil _ _)
    bounded := ⟨Nat.le_refl _, Nat.le_refl _⟩
    le := by simp
    valid := fun v hv => h.valid v ((hcovers v).mp hv).1
    covers := fun c hc => by
      obtain ⟨hv, hb⟩ := (h.append_isPrefix_iff c _).mp hc
      rw [UInt8.toNat_ofNat', Nat.mod_eq_of_lt (by omega)] at hb
      exact (hcovers _).mpr ⟨hv, Nat.add_right_cancel hb⟩
    eq_append := fun c hc => by
      obtain ⟨hv, hb⟩ := (hcovers _).mp hc
      rw [h.eq_append c hv, tail, ← hb, hfurther, List.append_assoc]
      rfl }

end Opens

/-! ### First bytes -/

private theorem utf8EncodeChar_of_lead (h : lead byte = .character c) :
    utf8EncodeChar c = [byte] := by
  unfold lead at h
  dsimp only at h
  split at h
  · next hbyte =>
    obtain rfl := Lead.character.inj h
    have hvalid : byte.toNat.isValidChar := .inl (by omega)
    have hval : (Char.ofNat byte.toNat).val.toNat = byte.toNat := by
      rw [Char.toNat_val, toNat_ofNat hvalid]
    rw [utf8EncodeChar, hval, if_pos (by omega), UInt8.ofNat_toNat]
  · repeat' split at h
    all_goals cases h

private theorem not_begins_of_lead (h : lead byte = .illFormed) : ¬ Begins [byte] := by
  have hbyte : 0x80 ≤ byte.toNat ∧ byte.toNat < 0xC2 ∨ 0xF4 < byte.toNat := by
    unfold lead at h
    dsimp only at h
    repeat' split at h
    all_goals first | omega | cases h
  rintro ⟨c, hc⟩
  obtain ⟨hv, heq⟩ | ⟨hlow, hv, heq⟩ | ⟨hlow, hv, hvalid, heq⟩ | ⟨hlow, hv, heq⟩ :=
    utf8EncodeChar_eq c
  all_goals
    rw [heq, List.cons_prefix_cons, ← UInt8.toNat_inj, UInt8.toNat_ofNat'] at hc
    omega

private theorem least_le_greatest_of_lead (h : lead byte = .sequence s) : s.least ≤ s.greatest := by
  unfold lead at h
  dsimp only at h
  repeat' split at h
  all_goals simp only [reduceCtorEq, Lead.sequence.injEq] at h
  all_goals
    rw [← h]
    simp

-- A byte that begins a sequence tells its length, and the code points that the sequence can
-- become are those of as many bytes, the first of them this one.
private theorem covers_iff_of_lead (h : lead byte = .sequence s) :
    (0xC0 ≤ byte.toNat ∧ byte.toNat < 0xE0 ∧ s.further = 0 ∧
      ∀ v, s.Covers v ↔ 0x80 ≤ v ∧ v < 0x800 ∧ byte.toNat = v / 64 + 192) ∨
    (0xE0 ≤ byte.toNat ∧ byte.toNat < 0xF0 ∧ s.further = 1 ∧
      ∀ v, s.Covers v ↔ 0x800 ≤ v ∧ v < 0x10000 ∧ (v < 0xD800 ∨ 0xDFFF < v) ∧
        byte.toNat = v / 4096 + 224) ∨
    (0xF0 ≤ byte.toNat ∧ s.further = 2 ∧
      ∀ v, s.Covers v ↔ 0x10000 ≤ v ∧ v < 0x110000 ∧ byte.toNat = v / 262144 + 240) := by
  unfold lead at h
  unfold Begun.Covers
  dsimp only at h
  repeat' split at h
  all_goals simp only [reduceCtorEq, Lead.sequence.injEq] at h
  all_goals
    rw [← h]
    dsimp only
  · exact .inl ⟨by omega, by omega, rfl, fun v => by omega⟩
  · exact .inr (.inl ⟨by omega, by omega, rfl, fun v => by omega⟩)
  · exact .inr (.inl ⟨by omega, by omega, rfl, fun v => by omega⟩)
  · exact .inr (.inl ⟨by omega, by omega, rfl, fun v => by omega⟩)
  · exact .inr (.inr ⟨by omega, rfl, fun v => by omega⟩)
  · exact .inr (.inr ⟨by omega, rfl, fun v => by omega⟩)
  · exact .inr (.inr ⟨by omega, rfl, fun v => by omega⟩)

-- A byte opens a sequence if the code points that this can become are those of the characters
-- that begin with the byte.
private theorem Opens.of_forall (hs : s.Bounded) (hle : s.least ≤ s.greatest)
    (hvalid : ∀ v, s.Covers v → v.isValidChar)
    (hchar : ∀ c : Char,
      (s.Covers c.toNat ∧ utf8EncodeChar c = byte :: tail (s.further + 1) c.toNat) ∨
        (¬ s.Covers c.toNat ∧ ¬ [byte] <+: utf8EncodeChar c)) : Opens [byte] s where
  ne_nil := List.cons_ne_nil _ _
  bounded := hs
  le := hle
  valid := hvalid
  covers := fun c hc => ((hchar c).resolve_right fun hnot => hnot.2 hc).1
  eq_append := fun c hc => ((hchar c).resolve_right fun hnot => hnot.1 hc).2

private theorem opens_of_lead (h : lead byte = .sequence s) : Opens [byte] s := by
  have hfirst (b : Nat) (hb : b < 256) (more : List UInt8) :
      [byte] <+: UInt8.ofNat b :: more ↔ byte.toNat = b := by
    rw [List.cons_prefix_cons, and_iff_left List.nil_prefix, ← UInt8.toNat_inj,
      UInt8.toNat_ofNat', Nat.mod_eq_of_lt hb]
  have hcons (b : Nat) (more : List UInt8) (hb : byte.toNat = b) :
      UInt8.ofNat b :: more = byte :: more := by
    rw [← hb, UInt8.ofNat_toNat]
  refine .of_forall (.of_lead h) (least_le_greatest_of_lead h) (fun v hv => ?_) (fun c => ?_)
  · obtain ⟨-, -, -, hiff⟩ | ⟨-, -, -, hiff⟩ | ⟨-, -, hiff⟩ := covers_iff_of_lead h
    · obtain ⟨-, hv, -⟩ := (hiff v).mp hv
      exact .inl (by omega)
    · obtain ⟨-, hhigh, hv, -⟩ := (hiff v).mp hv
      exact hv.imp_right fun hlow => ⟨hlow, by omega⟩
    · obtain ⟨hlow, hhigh, -⟩ := (hiff v).mp hv
      exact .inr ⟨by omega, hhigh⟩
  · have hchar := utf8EncodeChar_eq c
    generalize c.toNat = v at hchar
    obtain ⟨hlow, hhigh, hfurther, hiff⟩ | ⟨hlow, hhigh, hfurther, hiff⟩ | ⟨hlow, hfurther, hiff⟩ :=
      covers_iff_of_lead h
    all_goals
      rw [hiff v, hfurther]
      obtain ⟨hv, heq⟩ | ⟨hv, hv', heq⟩ | ⟨hv, hv', hvalid, heq⟩ | ⟨hv, hv', heq⟩ := hchar
    all_goals
      by_cases hb : [byte] <+: utf8EncodeChar c
      · rw [heq, hfirst _ (by omega)] at hb
        first
        | omega
        | exact .inl ⟨by omega, heq.trans (hcons _ _ hb)⟩
      · refine .inr ⟨?_, hb⟩
        rw [heq, hfirst _ (by omega)] at hb
        omega

/-! ### All bytes -/

/-- What an open sequence has read is taken together with the bytes that still belong to it. -/
theorem Opens.exists_takes (h : Opens part s) (bytes : List UInt8) :
    ∃ more rest item, bytes = more ++ rest ∧ Takes (part ++ more) item rest ∧
      itemsFrom (some s) bytes = item :: Utf8.items rest := by
  induction bytes generalizing part s with
  | nil =>
    refine ⟨[], [], none, rfl, ?_, rfl⟩
    rw [List.append_nil]
    exact .illFormed (h.not_isPrefix (by simp)) (.begun h.ne_nil h.begins (by simp))
  | cons byte bytes ih =>
    by_cases hbyte : s.least ≤ byte.toNat ∧ byte.toNat ≤ s.greatest
    · have hcontinues : Continues byte :=
        ⟨Nat.le_trans h.bounded.least hbyte.1, Nat.le_trans hbyte.2 h.bounded.greatest⟩
      obtain ⟨bits, hbits, rfl⟩ := hcontinues.exists_bits
      rw [UInt8.toNat_ofNat', Nat.mod_eq_of_lt (by omega)] at hbyte
      cases hfurther : s.further with
      | zero =>
        refine ⟨[_], bytes, some _, rfl, ?_, itemsFrom_last hfurther hbits hbyte.1 hbyte.2 bytes⟩
        rw [← h.utf8EncodeChar_last hfurther hbits hbyte.1 hbyte.2]
        exact .character _ _
      | succ further =>
        obtain ⟨more, rest, item, rfl, htakes, hitems⟩ :=
          ih (h.concat hfurther hbits hbyte.1 hbyte.2)
        rw [List.append_assoc] at htakes
        refine ⟨_ :: more, rest, item, rfl, htakes, ?_⟩
        rw [itemsFrom_further hfurther hbits hbyte.1 hbyte.2, hitems]
    · have hmax : ∀ next ∈ (byte :: bytes).head?, ¬ Begins (part ++ [next]) := by
        intro next hnext
        obtain rfl := Option.some.inj hnext
        exact h.not_begins hbyte
      refine ⟨[], byte :: bytes, none, rfl, ?_, itemsFrom_some_cons_of_not hbyte bytes⟩
      rw [List.append_nil]
      exact .illFormed (h.not_isPrefix hmax) (.begun h.ne_nil h.begins hmax)

/-- The first item of bytes is what is taken in front of the others. -/
theorem exists_takes (byte : UInt8) (bytes : List UInt8) :
    ∃ part rest item, byte :: bytes = part ++ rest ∧ Takes part item rest ∧
      Utf8.items (byte :: bytes) = item :: Utf8.items rest := by
  cases hlead : lead byte with
  | character c =>
    refine ⟨[byte], bytes, some c, rfl, ?_, by simp [Utf8.items, itemsFrom, step, start, hlead]⟩
    rw [← utf8EncodeChar_of_lead hlead]
    exact .character c bytes
  | sequence s =>
    obtain ⟨more, rest, item, rfl, htakes, hitems⟩ := (opens_of_lead hlead).exists_takes bytes
    exact ⟨byte :: more, rest, item, rfl, htakes, (itemsFrom_of_lead hlead _).trans hitems⟩
  | illFormed =>
    have hnone := not_begins_of_lead hlead
    exact ⟨[byte], bytes, none, rfl, .illFormed (not_isPrefix_of_not_begins hnone bytes)
      (.byte bytes hnone), by simp [Utf8.items, itemsFrom, step, start, hlead]⟩

namespace Takes

private theorem ne_nil (h : Takes part item rest) : part ≠ [] := by
  cases h with
  | character c _ => exact String.utf8EncodeChar_ne_nil
  | illFormed _ hpart => exact hpart.ne_nil

/-- Bytes that are taken as an item are read as this item. -/
theorem items_append (h : Takes part item rest) :
    Utf8.items (part ++ rest) = item :: Utf8.items rest := by
  cases h with
  | character c _ => exact itemsFrom_utf8EncodeChar c rest
  | illFormed hnone hpart =>
    obtain ⟨byte, bytes, hcons⟩ :=
      List.exists_cons_of_ne_nil (List.append_ne_nil_of_left_ne_nil hpart.ne_nil rest)
    obtain ⟨part', rest', item', heq, htakes, hitems⟩ := exists_takes byte bytes
    rw [← hcons] at heq hitems
    cases htakes with
    | character c _ => exact absurd (heq ▸ List.prefix_append _ _) (hnone c)
    | illFormed _ hpart' =>
      obtain rfl := hpart.eq hpart' heq
      obtain rfl := List.append_cancel_left heq
      exact hitems

end Takes

/-- The items of bytes are what is read in them. -/
theorem reads_items (bytes : List UInt8) : Reads bytes (Utf8.items bytes) := by
  induction hlength : bytes.length using Nat.strongRecOn generalizing bytes with
  | _ n ih =>
    cases bytes with
    | nil => exact .nil
    | cons byte bytes =>
      obtain ⟨part, rest, item, heq, htakes, hitems⟩ := exists_takes byte bytes
      have hpos := List.length_pos_iff.mpr htakes.ne_nil
      rw [heq, List.length_append] at hlength
      rw [hitems, heq]
      exact .cons htakes (ih rest.length (by omega) rest rfl)

/-- Bytes are read in one way, with one item for each character and for each maximal subpart that
is ill-formed. -/
theorem reads_iff : Reads bytes items ↔ items = Utf8.items bytes := by
  constructor
  · intro h
    induction h with
    | nil => rfl
    | cons htakes _ ih => rw [htakes.items_append, ih]
  · rintro rfl
    exact reads_items bytes

/-- Exactly the bytes of a text are accepted as that text. -/
theorem decode?_eq_some_iff : decode? bytes = some t ↔ bytes = encode t := by
  constructor
  · intro h
    have hread : Reads bytes (t.map some) :=
      reads_iff.mpr (decode?_eq_some_iff_items.mp h).symm
    clear h
    induction t generalizing bytes with
    | nil =>
      cases hread with
      | nil => rfl
    | cons c t ih =>
      cases hread with
      | cons htakes hrest =>
        cases htakes with
        | character _ _ => rw [ih hrest, encode, encode, List.flatMap_cons]
  · rintro rfl
    exact decode?_encode t

end Utf8
end MarkupLayout
