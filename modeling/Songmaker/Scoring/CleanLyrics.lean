import Songmaker.Foundation.PythonWords

/-!
`clean_lyrics`: what is left of a line of lyrics for a comparison. The character tables
behind `str.lower` and `\w` are data with the facts that the Unicode standard gives of
them.
-/

namespace Songmaker.Scoring.CleanLyrics

open Songmaker.Foundation

def capitalSigma : Char := 'Σ'
def smallSigma : Char := 'σ'
def finalSigma : Char := 'ς'

/-- What `str.lower` and `str.isalnum` know of the characters beyond ASCII. -/
structure CaseTable where
  lowercase : Char → List Char
  isCased : Char → Bool
  isCaseIgnorable : Char → Bool
  isAlnum : Char → Bool
  lowercase_ascii : ∀ c, c.toNat < 128 → lowercase c = [c.toLower]
  lowercase_beyond : ∀ c, 128 ≤ c.toNat → ∀ d ∈ lowercase c, d.toNat < 128 → d.isLower = true
  lowercase_stable : ∀ c, ∀ d ∈ lowercase c, lowercase d = [d]
  lowercase_capitalSigma : lowercase capitalSigma = [smallSigma]
  lowercase_finalSigma : lowercase finalSigma = [finalSigma]

variable (table : CaseTable)

/-! ### Lower case -/

/-- Whether a cased character is next but for case-ignorable ones. -/
def reachesCased (text : List Char) : Bool :=
  ((text.dropWhile table.isCaseIgnorable).head?).any table.isCased

def isFinalSigma (before after : List Char) : Bool :=
  reachesCased table before.reverse && !reachesCased table after

def lowerChar (before : List Char) (c : Char) (after : List Char) : List Char :=
  if c = capitalSigma then
    if isFinalSigma table before after then [finalSigma] else [smallSigma]
  else table.lowercase c

/-- `str.lower`, behind the characters that have been read. -/
def lowerFrom (before : List Char) : List Char → List Char
  | [] => []
  | c :: rest => lowerChar table before c rest ++ lowerFrom (before ++ [c]) rest

/-- `str.lower`. -/
def lower (text : List Char) : List Char :=
  lowerFrom table [] text

/-! ### The substitutions -/

/-- The substitution of `\[[^\]]*\]` by nothing; `inside` tells whether a tag is read. -/
def removeTags (inside : Bool) : List Char → List Char
  | [] => []
  | c :: rest =>
      if inside then removeTags (c != ']') rest
      else if c = '[' ∧ ']' ∈ rest then removeTags true rest
      else c :: removeTags false rest

def isWordChar (c : Char) : Bool :=
  table.isAlnum c || c == '_'

/-- Whether the text starts with a contraction that no word character follows. -/
def startsWith (contraction text : List Char) : Bool :=
  contraction.isPrefixOf text &&
    !((text.drop contraction.length).head?).any (isWordChar table)

/-- The substitution of a contraction and `\b`; `left` counts the characters of it that
are still to be read. -/
def expandContraction (contraction expansion : List Char) (left : Nat) : List Char → List Char
  | [] => []
  | c :: rest =>
      match left with
      | left + 1 => expandContraction contraction expansion left rest
      | 0 =>
          if startsWith table contraction (c :: rest) then
            expansion ++ expandContraction contraction expansion (contraction.length - 1) rest
          else c :: expandContraction contraction expansion 0 rest

def contractions : List (List Char × List Char) :=
  [(['\'', 'l', 'l'], [' ', 'w', 'i', 'l', 'l']),
    (['n', '\'', 't'], [' ', 'n', 'o', 't']),
    (['\'', 'r', 'e'], [' ', 'a', 'r', 'e']),
    (['\'', 'v', 'e'], [' ', 'h', 'a', 'v', 'e']),
    (['\'', 'm'], [' ', 'a', 'm']),
    (['\'', 's'], [])]

/-- The contractions are written out, one after the other. -/
def expandContractions (text : List Char) : List Char :=
  contractions.foldl (fun text pair => expandContraction table pair.1 pair.2 0 text) text

def punctuation : List Char := [',', '.', '?', '!', ';', ':', '"', '(', ')', '—']

/-- What becomes of the apostrophes, the hyphens and the punctuation. -/
def removePunctuation (text : List Char) : List Char :=
  ((text.filter (· != '\'')).map fun c => if c = '-' then ' ' else c).filter
    fun c => decide (c ∉ punctuation)

/-- The substitution of `\s+` by a space; `afterSpace` tells whether it has been written. -/
def collapseSpaces (afterSpace : Bool) : List Char → List Char
  | [] => []
  | c :: rest =>
      if isSpace c then
        if afterSpace then collapseSpaces true rest else ' ' :: collapseSpaces true rest
      else c :: collapseSpaces false rest

/-- The text without tags, contractions and punctuation, in small letters. -/
def cleanLyrics (text : List Char) : List Char :=
  let expanded := expandContractions table (lower table (removeTags false text))
  strip (collapseSpaces false (removePunctuation expanded))

end Songmaker.Scoring.CleanLyrics
