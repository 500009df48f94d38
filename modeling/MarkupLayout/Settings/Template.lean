import MarkupLayout.Text.Lowercase
import MarkupLayout.Text.Numeral
import MarkupLayout.Text.Quoted

/-!
# Values with references

In the value of an option, `%(key)s` stands for the value of another option and `%%` for a percent
sign; a percent sign that begins neither is a fault. Values that stand for a reference may hold
references themselves, up to a fixed number of steps, so that options that refer to each other in
a circle are refused.

A value is first cut into segments. The fault in a value is a segment too, because a reference
before it may have a fault of its own, which then counts.
-/

namespace MarkupLayout
namespace Settings
namespace Template

/-- Why a value cannot be filled in. -/
inductive Fault where
  /-- A percent sign is followed by neither a percent sign nor a parenthesis. -/
  | strayPercent (rest : Text)
  /-- A reference is not written out to its end. -/
  | unfinished (rest : Text)
  /-- A reference has a key without a value. -/
  | unknownKey (key : Text)
  /-- References lead to references too many times. -/
  | tooDeep
  deriving DecidableEq, Repr

/-- The number of steps in which a value has to be filled in. -/
def stepLimit : Nat := 10

/-- The wording of a fault in an option, of which `raw` is the value before it is filled in. -/
def Fault.message (header name raw : Text) : Fault → Text
  | strayPercent rest =>
    "'%' must be followed by '%' or '(', found: ".toList ++ rest.quote
  | unfinished rest => "bad interpolation variable reference ".toList ++ rest.quote
  | unknownKey key =>
    "Bad value substitution: ".toList ++ option ++ " contains an interpolation key ".toList ++
      key.quote ++ " which is not a valid option name. Raw value: ".toList ++ raw.quote
  | tooDeep =>
    "Recursion limit exceeded in value substitution: ".toList ++ option ++
      " contains an interpolation key which cannot be substituted in ".toList ++
      .ofNat stepLimit ++ " steps. Raw value: ".toList ++ raw.quote
where
  option : Text := "option ".toList ++ name.quote ++ " in section ".toList ++ header.quote

/-- A part of a value. -/
inductive Segment where
  /-- A character that stands for itself. -/
  | literal (c : Char)
  /-- The value of the option with this name. -/
  | reference (key : Text)
  /-- A fault, after which nothing is read. -/
  | broken (fault : Fault)
  deriving DecidableEq, Repr

/-- The key in front of `)s`, which has to be one character at least, and what follows. -/
def key? (t : Text) : Option (Text × Text) :=
  match t.dropWhile (· ≠ ')') with
  | ')' :: 's' :: rest =>
    let key := t.takeWhile (· ≠ ')')
    if key.isEmpty then none else some (key, rest)
  | _ => none

/-- What follows a key is shorter than what begins with the key. -/
theorem length_lt_of_key? {t key rest : Text} (h : key? t = some (key, rest)) :
    rest.length < t.length := by
  unfold key? at h
  split at h
  · next heq =>
    have hlength := (List.dropWhile_sublist (l := t) (· ≠ ')')).length_le
    rw [heq] at hlength
    dsimp only at h
    split at h
    · contradiction
    · cases h
      simp only [List.length_cons] at hlength
      omega
  · contradiction

/-- The segments of a value. -/
def segments (t : Text) : List Segment :=
  match t with
  | '%' :: '%' :: rest => .literal '%' :: segments rest
  | '%' :: '(' :: rest =>
    match _h : key? rest with
    | some (key, rest) => .reference key.lower :: segments rest
    | none => [.broken (.unfinished t)]
  | '%' :: _ => [.broken (.strayPercent t)]
  | c :: rest => .literal c :: segments rest
  | [] => []
termination_by t.length
decreasing_by
  · simp only [List.length_cons]
    omega
  · have := length_lt_of_key? _h
    simp only [List.length_cons]
    omega
  · simp only [List.length_cons]
    omega

/-- Fills in a value in at most the given number of steps. -/
def fill (lookup? : Text → Option Text) : Nat → Text → Except Fault Text
  | 0, _ => .error .tooDeep
  | steps + 1, t => do
    let parts ← (segments t).mapM fun
      | .literal c => .ok [c]
      | .broken fault => .error fault
      | .reference key =>
        match lookup? key with
        | none => .error (.unknownKey key)
        | some value => if '%' ∈ value then fill lookup? steps value else .ok value
    return parts.flatten

end Template
end Settings
end MarkupLayout
