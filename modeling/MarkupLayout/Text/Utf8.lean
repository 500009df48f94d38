import MarkupLayout.Text.Basic

/-!
# Reading UTF-8

Bytes are read one at a time. A sequence that has begun remembers the bits read so far, how many
bytes are missing and which bytes may come next; the last excludes overlong forms, surrogates and
code points beyond U+10FFFF at the second byte. A byte that does not continue the sequence ends
it as ill-formed and is then read afresh, so that an ill-formed sequence never takes a byte of
its neighbour.

`items` keeps what was read, a character or an ill-formed sequence at each place; `decodeLossy`
shows the replacement character for each of the latter, and `decode?` refuses them.
-/

namespace MarkupLayout
namespace Utf8

/-- A sequence of which the first bytes are read. -/
structure Begun where
  /-- The bits read so far. -/
  bits : Nat
  /-- The number of bytes that are missing after the next one. -/
  further : Nat
  /-- The least byte that continues the sequence. -/
  least : Nat := 0x80
  /-- The greatest byte that continues the sequence. -/
  greatest : Nat := 0xBF
  deriving DecidableEq, Repr

/-- What a byte says where a character should begin. -/
inductive Lead where
  /-- It is a character. -/
  | character (c : Char)
  /-- It begins a longer sequence. -/
  | sequence (s : Begun)
  /-- No character begins with it. -/
  | illFormed
  deriving DecidableEq, Repr

/-- Reads the first byte of a character. -/
def lead (byte : UInt8) : Lead :=
  let b := byte.toNat
  if b < 0x80 then .character (Char.ofNat b)
  else if b < 0xC2 then .illFormed
  else if b < 0xE0 then .sequence { bits := b - 0xC0, further := 0 }
  else if b = 0xE0 then .sequence { bits := 0, further := 1, least := 0xA0 }
  else if b = 0xED then .sequence { bits := 0xD, further := 1, greatest := 0x9F }
  else if b < 0xF0 then .sequence { bits := b - 0xE0, further := 1 }
  else if b = 0xF0 then .sequence { bits := 0, further := 2, least := 0x90 }
  else if b < 0xF4 then .sequence { bits := b - 0xF0, further := 2 }
  else if b = 0xF4 then .sequence { bits := 4, further := 2, greatest := 0x8F }
  else .illFormed

/-- A character that was read, or `none` for an ill-formed sequence. -/
abbrev Item := Option Char

/-- Reads a byte where a character should begin. -/
def start (byte : UInt8) : List Item × Option Begun :=
  match lead byte with
  | .character c => ([some c], none)
  | .sequence s => ([], some s)
  | .illFormed => ([none], none)

/-- Reads one more byte: the items that it completes, and the sequence that is then open. -/
def step (open? : Option Begun) (byte : UInt8) : List Item × Option Begun :=
  match open? with
  | none => start byte
  | some s =>
    let b := byte.toNat
    if s.least ≤ b ∧ b ≤ s.greatest then
      let bits := 64 * s.bits + (b - 0x80)
      match s.further with
      | 0 => ([some (Char.ofNat bits)], none)
      | further + 1 => ([], some { bits, further })
    else
      -- the sequence breaks off here, and the byte is read again as a first byte
      (none :: (start byte).1, (start byte).2)

/-- Reads the remaining bytes. A sequence that is open at the end is ill-formed. -/
def itemsFrom : Option Begun → List UInt8 → List Item
  | none, [] => []
  | some _, [] => [none]
  | open?, byte :: rest => (step open? byte).1 ++ itemsFrom (step open? byte).2 rest

/-- The characters and ill-formed sequences of the bytes, in order. -/
def items (bytes : List UInt8) : List Item := itemsFrom none bytes

/-- The text of the bytes, with the replacement character for each ill-formed sequence, as `format`
decodes a page (specification §10.2). -/
def decodeLossy (bytes : List UInt8) : Text := (items bytes).map (·.getD '\uFFFD')

/-- The text of the bytes, or `none` if some sequence is ill-formed. -/
def decode? (bytes : List UInt8) : Option Text := (items bytes).mapM id

end Utf8
end MarkupLayout
