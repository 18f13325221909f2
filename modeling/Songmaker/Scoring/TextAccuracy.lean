import Songmaker.Lyrics.MatchedSize
import Songmaker.Scoring.CleanedWords

namespace Songmaker.Scoring.TextAccuracy

open Songmaker.Foundation
open Songmaker.Lyrics.SequenceMatcher
open Songmaker.Scoring.CleanLyrics

/-- `_VOCALIZATION_WORDS`. -/
def vocalizationWords : List (List Char) :=
  [['o', 'h'], ['a', 'h'], ['l', 'a'], ['n', 'a'], ['d', 'a'], ['h', 'e', 'y'],
    ['y', 'e', 'a', 'h'], ['e', 'h']]

/-- The word is the letter again and again. -/
def isRun (letter : Char) (least : Nat) (word : List Char) : Bool :=
  decide (least ≤ word.length) && word.all (· == letter)

/-- A run of `o`, with or without an `h` behind it. -/
def isOpenRun (least : Nat) (word : List Char) : Bool :=
  isRun 'o' least word || (word.getLast? == some 'h' && isRun 'o' least word.dropLast)

/-- A full match of `_REPEATED_VOCALIZATION_PATTERN`. -/
def isRepeatedVocalization (word : List Char) : Bool :=
  isOpenRun 2 word || (word.head? == some 'h' && isRun 'm' 1 word.tail) ||
    isRun 'm' 2 word || (word.head? == some 'w' && isOpenRun 1 word.tail)

/-- A word of the list, or one that draws out a sound. -/
def isVocalizationWord (word : List Char) : Bool :=
  decide (word ∈ vocalizationWords) || isRepeatedVocalization word

variable (table : CaseTable)

/-- The line has no other words. -/
def isVocalization (line : List Char) : Bool :=
  (splitWords (cleanLyrics table line)).all isVocalizationWord

/-- The words of the lines that are not only vocalizations. -/
def comparedWords (lines : List (List Char)) : List (List Char) :=
  splitWords
    (joinWords ((lines.filter fun line => !isVocalization table line).map (cleanLyrics table)))

/-- The share of the intended words that the matching blocks have. -/
def wordLevelAccuracy (intended transcribed : List (List Char)) : ℚ :=
  if intended = [] ∨ transcribed = [] then 0
  else if comparedWords table intended = [] then 0
  else if comparedWords table transcribed = [] then 0
  else (matchedSize (comparedWords table intended) (comparedWords table transcribed) : ℚ) /
    (comparedWords table intended).length

end Songmaker.Scoring.TextAccuracy
