import MarkupLayout.Text.Utf8

/-!
# Writing UTF-8

A character is written in one to four bytes: the first one tells their number and has the highest
bits, and each further byte has six bits. Characters are read back from their bytes, whatever
follows, because a character is never written in more bytes than it needs and is no surrogate: so
the bounds for the second byte hold.
-/

namespace MarkupLayout
namespace Utf8

variable {s : Begun} {bits further : Nat} {c : Char}

/-- The bytes of a text. -/
def encode (t : Text) : List UInt8 := t.flatMap String.utf8EncodeChar

/-! ### First bytes -/

private theorem lead_two : ∀ bits : Fin 32, 2 ≤ bits.val →
    lead (UInt8.ofNat (bits + 192)) = .sequence { bits, further := 0 } := by
  decide

private theorem lead_three : ∀ bits : Fin 16,
    lead (UInt8.ofNat (bits + 224)) = .sequence
      { bits, further := 1
        least := if bits.val = 0 then 0xA0 else 0x80
        greatest := if bits.val = 13 then 0x9F else 0xBF } := by
  decide

private theorem lead_four : ∀ bits : Fin 5,
    lead (UInt8.ofNat (bits + 240)) = .sequence
      { bits, further := 2
        least := if bits.val = 0 then 0x90 else 0x80
        greatest := if bits.val = 4 then 0x8F else 0xBF } := by
  decide

/-- A byte that begins a sequence opens it. -/
theorem itemsFrom_of_lead {byte : UInt8} (h : lead byte = .sequence s) (rest : List UInt8) :
    itemsFrom none (byte :: rest) = itemsFrom (some s) rest := by
  simp [itemsFrom, step, start, h]

/-! ### Further bytes -/

private theorem step_some (hbits : bits < 64) (hleast : s.least ≤ bits + 128)
    (hgreatest : bits + 128 ≤ s.greatest) :
    step (some s) (UInt8.ofNat (bits + 128)) =
      match s.further with
      | 0 => ([some (Char.ofNat (64 * s.bits + bits))], none)
      | further + 1 => ([], some { bits := 64 * s.bits + bits, further }) := by
  have hbyte : (UInt8.ofNat (bits + 128)).toNat = bits + 128 := by
    simp
    omega
  rw [step, hbyte, Nat.add_sub_cancel]
  exact if_pos ⟨hleast, hgreatest⟩

/-- The last byte of a sequence completes a character. -/
theorem itemsFrom_last (hfurther : s.further = 0) (hbits : bits < 64)
    (hleast : s.least ≤ bits + 128) (hgreatest : bits + 128 ≤ s.greatest) (rest : List UInt8) :
    itemsFrom (some s) (UInt8.ofNat (bits + 128) :: rest) =
      some (Char.ofNat (64 * s.bits + bits)) :: itemsFrom none rest := by
  rw [itemsFrom, step_some hbits hleast hgreatest, hfurther]
  rfl

/-- A byte of a sequence that is not the last one leaves it open. -/
theorem itemsFrom_further (hfurther : s.further = further + 1) (hbits : bits < 64)
    (hleast : s.least ≤ bits + 128) (hgreatest : bits + 128 ≤ s.greatest) (rest : List UInt8) :
    itemsFrom (some s) (UInt8.ofNat (bits + 128) :: rest) =
      itemsFrom (some { bits := 64 * s.bits + bits, further }) rest := by
  rw [itemsFrom, step_some hbits hleast hgreatest, hfurther]
  rfl

/-! ### Characters and texts -/

/-- A character is read back from its bytes. -/
theorem itemsFrom_utf8EncodeChar (c : Char) (rest : List UInt8) :
    itemsFrom none (String.utf8EncodeChar c ++ rest) = some c :: itemsFrom none rest := by
  have hchar (n : Nat) (h : n = c.val.toNat) : Char.ofNat n = c := by
    rw [h]
    exact Char.ofNat_toNat c
  have hvalid : c.val.toNat < 0xD800 ∨ 0xDFFF < c.val.toNat ∧ c.val.toNat < 0x110000 := c.valid
  unfold String.utf8EncodeChar
  generalize c.val.toNat = v at hchar hvalid
  dsimp only
  split
  · next hone =>
    have hbyte : (UInt8.ofNat v).toNat = v := by
      simp
      omega
    have hlead : lead (UInt8.ofNat v) = .character c := by
      rw [lead, hbyte, if_pos (by omega), hchar v rfl]
    simp [itemsFrom, step, start, hlead]
  · split
    · next htwo =>
      rw [List.cons_append, itemsFrom_of_lead (lead_two ⟨v / 64 % 32, by omega⟩ (by simp; omega)),
        List.cons_append, itemsFrom_last rfl (by omega) (by simp) (by simp; omega), hchar]
      · rfl
      · simp
        omega
    · split
      · next hthree =>
        rw [List.cons_append, itemsFrom_of_lead (lead_three ⟨v / 4096 % 16, by omega⟩),
          List.cons_append, itemsFrom_further rfl (by omega), List.cons_append,
          itemsFrom_last rfl (by omega) (by simp) (by simp; omega), hchar]
        · rfl
        · simp
          omega
        · simp
          split <;> omega
        · simp
          split <;> omega
      · next hfour =>
        rw [List.cons_append, itemsFrom_of_lead (lead_four ⟨v / 262144 % 8, by omega⟩),
          List.cons_append, itemsFrom_further rfl (by omega), List.cons_append,
          itemsFrom_further rfl (by omega) (by simp) (by simp; omega), List.cons_append,
          itemsFrom_last rfl (by omega) (by simp) (by simp; omega), hchar]
        · rfl
        · simp
          omega
        · simp
          split <;> omega
        · simp
          split <;> omega

/-- A text is read back from its bytes, whatever follows. -/
theorem itemsFrom_encode_append (t : Text) (rest : List UInt8) :
    itemsFrom none (encode t ++ rest) = t.map some ++ itemsFrom none rest := by
  rw [encode]
  induction t with
  | nil => rfl
  | cons c t ih =>
    rw [List.flatMap_cons, List.append_assoc, itemsFrom_utf8EncodeChar, ih, List.map_cons,
      List.cons_append]

/-- The items of the bytes of a text are its characters. -/
theorem items_encode (t : Text) : items (encode t) = t.map some := by
  have h := itemsFrom_encode_append t []
  rwa [List.append_nil, itemsFrom, List.append_nil] at h

/-- Bytes are accepted as a text if their items are its characters. -/
theorem decode?_eq_some_iff_items {bytes : List UInt8} {t : Text} :
    decode? bytes = some t ↔ items bytes = t.map some := by
  rw [decode?]
  generalize items bytes = items
  induction items generalizing t with
  | nil => cases t <;> simp
  | cons item items ih =>
    rw [List.mapM_cons]
    constructor
    · intro h
      simp only [id, Option.bind_eq_bind, Option.bind_eq_some_iff, Option.pure_def,
        Option.some.injEq] at h
      obtain ⟨c, rfl, rest, hrest, rfl⟩ := h
      rw [ih.mp hrest, List.map_cons]
    · intro h
      cases t with
      | nil => cases h
      | cons c t =>
        obtain ⟨rfl, hrest⟩ := List.cons.inj h
        rw [ih.mpr hrest]
        rfl

/-- A text is read back from its bytes. -/
theorem decode?_encode (t : Text) : decode? (encode t) = some t :=
  decode?_eq_some_iff_items.mpr (items_encode t)

end Utf8
end MarkupLayout
