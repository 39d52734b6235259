import Handoff.Text.Lowercase.Table
/-!
# Lowercase

The full lowercase mapping of the Unicode standard. It depends on the surroundings of a character
in one case only: a capital sigma at the end of a word has a form of its own. A word ends where,
characters that case ignores left aside, a cased character comes before and none comes after.
-/
namespace Handoff.Text

def lowerChar (c : Char) : Char :=
  match lowerRanges.find? (·.has c.toNat) with
  | some r => Char.ofNat (c.toNat + r.distance).toNat
  | none => c

/-- The lowercase form of a character by itself. -/
def lowerForm (c : Char) : List Char :=
  if c = 'İ' then ['i', '\u0307'] else [lowerChar c]

/-- The first character that case does not ignore is cased. -/
def meetsCased (s : List Char) : Bool :=
  match s.dropWhile caseIgnorable.has with
  | c :: _ => cased.has c
  | [] => false

/-- Lowercase of a text that follows `before`, which is given backwards. -/
def lowercaseAfter (before : List Char) : List Char → List Char
  | [] => []
  | c :: rest =>
    let form :=
      if c = 'Σ' then
        if meetsCased before && !meetsCased rest then ['ς'] else ['σ']
      else lowerForm c
    form ++ lowercaseAfter (c :: before) rest

def lowercase (s : List Char) : List Char := lowercaseAfter [] s

end Handoff.Text
