import MarkupLayout.Text.Basic
import MarkupLayout.Text.CaseTables

/-!
# Lower case

The full lower-case mapping of Unicode. Two capitals need more than a table of characters: the
dotted capital I becomes two characters, and a capital sigma has a form of its own at the end of
a word.
-/

namespace MarkupLayout
namespace Text

/-- The lower-case form that the runs give, or the code point itself if it lies on none of them. -/
def lowerCode : List CaseRun → Nat → Nat
  | [], n => n
  | run :: rest, n =>
    if n < run.first then n
    else if n ≤ run.last then
      if (n - run.first) % run.step = 0 then run.target + (n - run.first) else n
    else lowerCode rest n

/-- The lower-case form of one character, apart from its neighbours. -/
def lowerChar (c : Char) : Text :=
  if c = '\u0130' then ['i', '\u0307'] else [Char.ofNat (lowerCode lowerRuns c.toNat)]

/-- Whether the character is looked past when the form of a sigma is decided. -/
def isCaseIgnorable (c : Char) : Bool := caseIgnorableRanges.covers c.toNat

/-- Whether the character has a case and is not looked past. -/
def isCased (c : Char) : Bool := casedRanges.covers c.toNat

/-- Whether the first character that counts for a sigma has a case. -/
def startsCased (t : Text) : Bool :=
  match t.dropWhile isCaseIgnorable with
  | [] => false
  | c :: _ => isCased c

/-- Lower case of the rest of a text; `afterCased` tells whether the nearest character before it
that counts for a sigma has a case. -/
def lowerFrom (afterCased : Bool) : Text → Text
  | [] => []
  | c :: rest =>
    let form :=
      if c = 'Σ' then
        -- the form at the end of a word: a letter before it and none after it
        if afterCased && !startsCased rest then ['ς'] else ['σ']
      else lowerChar c
    form ++ lowerFrom (if isCaseIgnorable c then afterCased else isCased c) rest

/-- The text in lower case. -/
def lower (t : Text) : Text := lowerFrom false t

end Text
end MarkupLayout
