import MarkupLayout.Text.Basic

/-!
# Numerals

Numbers in messages are decimal, with a minus sign in front of the negative ones.
-/

namespace MarkupLayout
namespace Text

/-- Fills up a text on its left to the width; a longer text stays as it is. -/
def padLeft (filler : Char) (width : Nat) (t : Text) : Text :=
  List.replicate (width - t.length) filler ++ t

/-- A natural number in decimal. -/
def ofNat (n : Nat) : Text := Nat.toDigits 10 n

/-- The decimal digits are those of the core library. -/
theorem ofNat_eq_toString (n : Nat) : ofNat n = (toString n).toList :=
  String.toList_ofList.symm

/-- An integer in decimal. -/
def ofInt : Int → Text
  | .ofNat n => ofNat n
  | .negSucc n => '-' :: ofNat (n + 1)

/-- The numerals of integers are those of the core library. -/
theorem ofInt_eq_toString (n : Int) : ofInt n = (toString n).toList := by
  cases n with
  | ofNat n => exact ofNat_eq_toString n
  | negSucc n =>
    change '-' :: ofNat (n + 1) = ("-" ++ toString (n + 1)).toList
    rw [String.toList_append, ofNat_eq_toString]
    rfl

/-- A natural number in hexadecimal, filled up with zeros to the width. -/
def ofNatHex (width n : Nat) : Text := padLeft '0' width (Nat.toDigits 16 n)

end Text
end MarkupLayout
