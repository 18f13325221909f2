import Mathlib.Data.List.DropRight
import Songmaker.Foundation.CodePoints

namespace Songmaker.Lyrics.NormalizeToken

open Songmaker.Foundation.CodePoints

inductive GeneralCategory where
  | uppercaseLetter | lowercaseLetter | titlecaseLetter | modifierLetter | otherLetter
  | nonspacingMark | spacingMark | enclosingMark
  | decimalNumber | letterNumber | otherNumber
  | connectorPunctuation | dashPunctuation | openPunctuation | closePunctuation
  | initialPunctuation | finalPunctuation | otherPunctuation
  | mathSymbol | currencySymbol | modifierSymbol | otherSymbol
  | spaceSeparator | lineSeparator | paragraphSeparator
  | control | format | surrogate | privateUse | unassigned
deriving DecidableEq

namespace GeneralCategory

def isLetter : GeneralCategory → Bool
  | uppercaseLetter | lowercaseLetter | titlecaseLetter | modifierLetter | otherLetter => true
  | _ => false

def isNumber : GeneralCategory → Bool
  | decimalNumber | letterNumber | otherNumber => true
  | _ => false

def isPunctuation : GeneralCategory → Bool
  | connectorPunctuation | dashPunctuation | openPunctuation | closePunctuation
  | initialPunctuation | finalPunctuation | otherPunctuation => true
  | _ => false

/-- What a white space of a regular expression can be. -/
def isBlank : GeneralCategory → Bool
  | spaceSeparator | lineSeparator | paragraphSeparator | control | format => true
  | _ => false

/-- What a character can be that has a lower case of its own. -/
def isUpper : GeneralCategory → Bool
  | uppercaseLetter | titlecaseLetter | letterNumber | otherSymbol => true
  | _ => false

/-- What a character can be that is the lower case of another one. -/
def isLowered : GeneralCategory → Bool
  | lowercaseLetter | nonspacingMark | letterNumber | otherSymbol | surrogate => true
  | _ => false

theorem not_isBlank_of_isLowered (category : GeneralCategory)
    (hlowered : category.isLowered = true) : category.isBlank = false := by
  cases category <;> first | rfl | exact absurd hlowered Bool.false_ne_true

theorem not_isPunctuation_of_isLowered (category : GeneralCategory)
    (hlowered : category.isLowered = true) : category.isPunctuation = false := by
  cases category <;> first | rfl | exact absurd hlowered Bool.false_ne_true

theorem not_isPunctuation_of_isBlank (category : GeneralCategory)
    (hblank : category.isBlank = true) : category.isPunctuation = false := by
  cases category <;> first | rfl | exact absurd hblank Bool.false_ne_true

theorem not_isUpper_of_isBlank (category : GeneralCategory)
    (hblank : category.isBlank = true) : category.isUpper = false := by
  cases category <;> first | rfl | exact absurd hblank Bool.false_ne_true

end GeneralCategory

def space : Nat := 0x20
def apostrophe : Nat := 0x27
def underscore : Nat := 0x5F
def modifierApostrophe : Nat := 0x2BC
def curlyApostrophes : List Nat := [0x2018, 0x2019, 0x201B, modifierApostrophe]
/-- The one character that NFKC takes apart into an apostrophe of `curlyApostrophes`. -/
def apostrophedN : Nat := 0x149
def sharpS : Nat := 0xDF
def capitalSigma : Nat := 0x3A3
def smallSigma : Nat := 0x3C3
def finalSigma : Nat := 0x3C2

/-- `\s` of a regular expression, which is also what `trim` takes off. -/
def isWhitespace (unit : Nat) : Bool :=
  (0x09 ≤ unit && unit ≤ 0x0D) || unit == 0x20 || unit == 0xA0 || unit == 0x1680 ||
    (0x2000 ≤ unit && unit ≤ 0x200A) || unit == 0x2028 || unit == 0x2029 || unit == 0x202F ||
    unit == 0x205F || unit == 0x3000 || unit == 0xFEFF

def isDigit (unit : Nat) : Bool :=
  0x30 ≤ unit && unit ≤ 0x39

def letters (word : List Char) : Text :=
  word.map Char.toNat

/-- The lower-case letters of this module's own texts. -/
def spelledLetters : Text :=
  letters ['a', 'b', 'c', 'd', 'e', 'f', 'g', 'h', 'i', 'l', 'n', 'o', 'r', 's', 't', 'u', 'v',
    'w', 'z', 'ä', 'ö', 'ü', 'ß', 'ς', 'σ']

/-- The Unicode character data: `category` is of a code unit on its own, the others are
of a text of one code point, and `normalizeNFKC` is of a whole text. -/
structure UnicodeData where
  category : Nat → GeneralCategory
  lowercaseMapping : Text → Text
  isCased : Text → Bool
  isCaseIgnorable : Text → Bool
  normalizeNFKC : Text → Text
  category_surrogate : ∀ unit, (isLeading unit || isTrailing unit) = true →
    category unit = .surrogate
  category_whitespace : ∀ unit, isWhitespace unit = true → (category unit).isBlank = true
  category_digit : ∀ unit, isDigit unit = true → category unit = .decimalNumber
  category_spelled : ∀ unit ∈ spelledLetters, category unit = .lowercaseLetter
  category_apostrophe : category apostrophe = .otherPunctuation
  category_underscore : category underscore = .connectorPunctuation
  category_curly : ∀ unit ∈ curlyApostrophes, unit ≠ modifierApostrophe →
    (category unit).isPunctuation = true
  category_modifier : category modifierApostrophe = .modifierLetter
  lowercase_sigma : lowercaseMapping [capitalSigma] = [smallSigma]
  lowercase_upper : ∀ unit, lowercaseMapping [unit] ≠ [unit] → (category unit).isUpper = true
  lowercase_lowered : ∀ point, IsPoint point → lowercaseMapping point ≠ point →
    ∀ unit ∈ lowercaseMapping point, (category unit).isLowered = true ∧ unit ≠ apostrophedN
  lowercase_replaces : ∀ point, IsPoint point → Replaces (lowercaseMapping point) point
  lowercase_stable : ∀ point, IsPoint point → ∀ lower ∈ codePoints (lowercaseMapping point),
    lowercaseMapping lower = lower
  nfkc_apostrophe : ∀ text, modifierApostrophe ∈ normalizeNFKC text →
    modifierApostrophe ∈ text ∨ apostrophedN ∈ text
  nfkc_apostrophedN : ∀ text, apostrophedN ∉ normalizeNFKC text

variable (data : UnicodeData)

/-! ### Stripping -/

/-- Curly apostrophes become straight ones. -/
def straighten (text : Text) : Text :=
  text.map fun unit => if unit ∈ curlyApostrophes then apostrophe else unit

def isPunctuation (unit : Nat) : Bool :=
  (data.category unit).isPunctuation

/-- `WORD_CHAR`. -/
def isWordChar (unit : Nat) : Bool :=
  (data.category unit).isLetter || (data.category unit).isNumber || unit == underscore

/-- The apostrophe stands between two word characters. -/
def isWordInternalApostrophe (text : Text) (index : Nat) : Bool :=
  (index != 0 && (text[index - 1]?).any (isWordChar data)) &&
    (text[index + 1]?).any (isWordChar data)

/-- The text without its punctuation, apostrophes within words apart. -/
def stripPunctuation (text : Text) : Text :=
  (text.zipIdx.filter fun (unit, i) =>
    (unit == apostrophe && isWordInternalApostrophe data text i) ||
      !isPunctuation data unit).map Prod.fst

/-- `afterSpace` tells whether the white space before has been written. -/
def collapseWhitespace (afterSpace : Bool) : Text → Text
  | [] => []
  | unit :: rest =>
      if isWhitespace unit then
        if afterSpace then collapseWhitespace true rest
        else space :: collapseWhitespace true rest
      else unit :: collapseWhitespace false rest

def trim (text : Text) : Text :=
  (text.dropWhile isWhitespace).rdropWhile isWhitespace

/-! ### Numbers -/

def units : List Text :=
  [letters ['n', 'u', 'l', 'l'], letters ['e', 'i', 'n', 's'], letters ['z', 'w', 'e', 'i'],
    letters ['d', 'r', 'e', 'i'], letters ['v', 'i', 'e', 'r'], letters ['f', 'ü', 'n', 'f'],
    letters ['s', 'e', 'c', 'h', 's'], letters ['s', 'i', 'e', 'b', 'e', 'n'],
    letters ['a', 'c', 'h', 't'], letters ['n', 'e', 'u', 'n'], letters ['z', 'e', 'h', 'n'],
    letters ['e', 'l', 'f'], letters ['z', 'w', 'ö', 'l', 'f'],
    letters ['d', 'r', 'e', 'i', 'z', 'e', 'h', 'n'],
    letters ['v', 'i', 'e', 'r', 'z', 'e', 'h', 'n'],
    letters ['f', 'ü', 'n', 'f', 'z', 'e', 'h', 'n'],
    letters ['s', 'e', 'c', 'h', 'z', 'e', 'h', 'n'],
    letters ['s', 'i', 'e', 'b', 'z', 'e', 'h', 'n'],
    letters ['a', 'c', 'h', 't', 'z', 'e', 'h', 'n'],
    letters ['n', 'e', 'u', 'n', 'z', 'e', 'h', 'n']]

def tens : List Text :=
  [[], [], letters ['z', 'w', 'a', 'n', 'z', 'i', 'g'],
    letters ['d', 'r', 'e', 'i', 'ß', 'i', 'g'], letters ['v', 'i', 'e', 'r', 'z', 'i', 'g'],
    letters ['f', 'ü', 'n', 'f', 'z', 'i', 'g'], letters ['s', 'e', 'c', 'h', 'z', 'i', 'g'],
    letters ['s', 'i', 'e', 'b', 'z', 'i', 'g'], letters ['a', 'c', 'h', 't', 'z', 'i', 'g'],
    letters ['n', 'e', 'u', 'n', 'z', 'i', 'g']]

def largestSpelledNumber : Nat := 9999

def numberPrefix (count : Nat) : Text :=
  if count = 1 then letters ['e', 'i', 'n'] else units.getD count []

/-- A number up to 999 in German words. -/
def spellGermanNumber (value : Nat) : Text :=
  if value < units.length then units.getD value []
  else if value < 100 then
    let unit := value % 10
    let ten := tens.getD (value / 10) []
    if unit = 0 then ten else numberPrefix unit ++ letters ['u', 'n', 'd'] ++ ten
  else if value < 1000 then
    numberPrefix (value / 100) ++ letters ['h', 'u', 'n', 'd', 'e', 'r', 't'] ++
      if value % 100 = 0 then [] else spellGermanNumber (value % 100)
  else
    numberPrefix (value / 1000) ++ letters ['t', 'a', 'u', 's', 'e', 'n', 'd'] ++
      if value % 1000 = 0 then [] else spellGermanNumber (value % 1000)
termination_by value
decreasing_by
  · omega
  · omega

/-- `Number` of a text of digits; one that a float rounds is far past the largest that
is spelled. -/
def digitsValue (token : Text) : Nat :=
  token.foldl (fun value unit => 10 * value + (unit - 0x30)) 0

/-- A number in words, another token as it is. -/
def spellToken (token : Text) : Text :=
  if token ≠ [] ∧ token.all isDigit = true ∧ digitsValue token ≤ largestSpelledNumber then
    spellGermanNumber (digitsValue token)
  else token

/-- The text with its numbers in words. -/
def spellOutNumbers (text : Text) : Text :=
  [space].intercalate ((text.splitOn space).map spellToken)

/-! ### Case -/

/-- Whether a cased letter comes after no more than case-ignorable characters. -/
def reachesCased : List Text → Bool
  | [] => false
  | point :: rest => data.isCased point || (data.isCaseIgnorable point && reachesCased rest)

/-- A letter with case comes before it and none after it. -/
def isFinalSigma (before after : List Text) : Bool :=
  reachesCased data before.reverse && !reachesCased data after

/-- The small letters of a character at its place. -/
def lowerPoint (points : List Text) (point : Text) (i : Nat) : Text :=
  if point = [capitalSigma] then
    if isFinalSigma data (points.take i) (points.drop (i + 1)) then [finalSigma] else [smallSigma]
  else data.lowercaseMapping point

/-- `toLowerCase`. -/
def toLowerCase (text : Text) : Text :=
  ((codePoints text).zipIdx.map fun (point, i) =>
    lowerPoint data (codePoints text) point i).flatten

/-- `FULL_CASEFOLD_OVERRIDES`. -/
def casefoldOverride (point : Text) : Text :=
  if point = [sharpS] then letters ['s', 's']
  else if point = [finalSigma] then [smallSigma]
  else point

/-- Small letters, and the two foldings that they leave out. -/
def casefold (text : Text) : Text :=
  (codePoints (toLowerCase data text)).flatMap casefoldOverride

/-- `UMLAUT_SPELLINGS`. -/
def umlautSpelling (unit : Nat) : Text :=
  if unit = 'ä'.toNat then letters ['a', 'e']
  else if unit = 'ö'.toNat then letters ['o', 'e']
  else if unit = 'ü'.toNat then letters ['u', 'e']
  else [unit]

/-- The text with its umlauts as two letters. -/
def spellOutUmlauts (text : Text) : Text :=
  text.flatMap umlautSpelling

/-- The stages one after the other. -/
def normalizeLyricsToken (text : Text) : Text :=
  let straightened := data.normalizeNFKC (straighten text)
  let words := trim (collapseWhitespace false (stripPunctuation data straightened))
  spellOutUmlauts (casefold data (spellOutNumbers words))

end Songmaker.Lyrics.NormalizeToken
