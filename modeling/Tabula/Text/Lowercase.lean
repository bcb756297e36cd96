import Tabula.Text.CaseTable

/-!
# Lowercase text

The lowercase form of a whole text: each character by its lowercase mapping, where a capital
sigma at the end of a word becomes the final form of the letter.
-/

namespace Tabula

/-- The capital sigma, whose lowercase form depends on its neighbours. -/
def capitalSigma : Char := 'Σ'

/-- The lowercase mapping of one character on its own. One character alone has a mapping of two
characters: the capital I with a dot above keeps its dot. -/
def lowercaseChar (c : Char) : List Char :=
  if c.toNat < 128 then [c.toLower]
  else if c.toNat = 0x130 then ['i', Char.ofNat 0x307]
  else [(lowercaseRuns.findSome? (·.image? c)).getD c]

/-- Whether the first character that is not case-ignorable is a cased one. -/
def startsCased (chars : List Char) : Bool :=
  match chars.dropWhile (inRanges caseIgnorableRanges) with
  | [] => false
  | c :: _ => inRanges casedRanges c

/-- The lowercase form of a text whose earlier characters, the nearest first, are `before`. A
capital sigma ends a word when a cased character precedes it and none follows, case-ignorable
characters not counting. -/
def lowercaseAfter (before : List Char) : List Char → List Char
  | [] => []
  | c :: rest =>
    let mapped :=
      if c = capitalSigma then [if startsCased before && !startsCased rest then 'ς' else 'σ']
      else lowercaseChar c
    mapped ++ lowercaseAfter (c :: before) rest

/-- The lowercase form of a text. -/
def lowercase (chars : List Char) : List Char := lowercaseAfter [] chars

end Tabula
