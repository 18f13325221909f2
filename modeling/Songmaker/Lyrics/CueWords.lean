import Songmaker.Lyrics.AlignWords
import Songmaker.Lyrics.MatchingBlocks
import Songmaker.Lyrics.NormalizeToken

namespace Songmaker.Lyrics

open Songmaker.Foundation.CodePoints
open NormalizeToken

/-- When a line is sung, in seconds. -/
structure LyricLineInterval where
  start : ℚ
  endTime : ℚ
deriving DecidableEq

/-- A line of the lyrics, and when it is sung if that is known. -/
structure AlignedLyricLine where
  text : List Char
  interval : Option LyricLineInterval
deriving DecidableEq

structure WhisperWordCue where
  start : ℚ
  endTime : ℚ
  text : List Char
deriving DecidableEq

/-- A segment of the transcript. -/
structure WhisperCue where
  start : ℚ
  endTime : ℚ
  text : List Char
  words : Option (List WhisperWordCue)
deriving DecidableEq

/-- A word of the transcript with its time. -/
structure HeardWord where
  start : ℚ
  endTime : ℚ
  text : String
deriving DecidableEq

/-- A word of the lyrics with the line that it stands in. -/
structure LyricWord where
  lineIndex : Nat
  text : String
deriving DecidableEq

def lineMinAnchoredShare : ℚ := 1 / 2

def verbatimMaxTokens : Nat := 2

/-! ### Words -/

def trimStart (text : List Char) : List Char :=
  text.dropWhile fun c => isWhitespace c.toNat

def trimText (text : List Char) : List Char :=
  (trimStart text).rdropWhile fun c => isWhitespace c.toNat

section Tokens

variable (data : UnicodeData)

/-- The words of a text after its normalisation. -/
def tokens (text : List Char) : List String :=
  let normalized := decodeUtf16 (normalizeLyricsToken data (encodeUtf16 text))
  if normalized = [] then [] else (normalized.splitOn ' ').map String.ofList

/-- `SECTION_MARKER`. -/
def isSectionMarker (line : List Char) : Bool :=
  line.head? = some '[' && line.getLast? = some ']' &&
    (2 < line.length && ((line.drop 1).dropLast).all fun c => c != '[' && c != ']')

/-- A line with text that is not a section's heading. -/
def isSungLine (rawLine : List Char) : Bool :=
  trimText rawLine ≠ [] && !isSectionMarker (trimText rawLine)

/-- The words of the sung lines, each with the number of its line. -/
def lyricWords (rawLines : List (List Char)) : List LyricWord :=
  rawLines.zipIdx.flatMap fun (line, lineIndex) =>
    if isSungLine line then (tokens data line).map fun text => ⟨lineIndex, text⟩ else []

/-- The body of the loop of `joinHyphenPieces`. -/
def joinHyphenPiece (joined : List WhisperWordCue) (word : WhisperWordCue) :
    List WhisperWordCue :=
  match joined.getLast? with
  | none => joined ++ [word]
  | some previous =>
      if (trimStart word.text).head? = some '-' then
        joined.dropLast ++ [⟨previous.start, word.endTime, previous.text ++ trimText word.text⟩]
      else joined ++ [word]

/-- The pieces that Whisper has split at hyphens are joined. -/
def joinHyphenPieces (words : List WhisperWordCue) : List WhisperWordCue :=
  words.foldl joinHyphenPiece []

/-- The order of the sort of `heardWords`, which keeps the place of equal cues. -/
def cueBefore (left right : WhisperCue) : Bool :=
  left.start < right.start || (left.start = right.start && left.endTime ≤ right.endTime)

/-- The words of a segment; a segment without words is one word. -/
def cueWords (cue : WhisperCue) : List WhisperWordCue :=
  match cue.words with
  | none | some [] => [⟨cue.start, cue.endTime, cue.text⟩]
  | some words => joinHyphenPieces words

/-- The words of the transcript in order, each with its time. -/
def heardWords (cues : List WhisperCue) : List HeardWord :=
  ((cues.mergeSort cueBefore).flatMap cueWords).flatMap fun word =>
    (tokens data word.text).map fun text => ⟨word.start, word.endTime, text⟩

end Tokens

/-- How much of the two words is alike. -/
def wordSimilarity (heard lyric : String) : ℚ :=
  if heard = lyric then 1
  else SequenceMatcher.ratio (encodeUtf16 heard.toList) (encodeUtf16 lyric.toList)

/-! ### Lines -/

/-- `lyrics.split(/\r?\n/)`, with the line so far. -/
def splitLinesFrom (line : List Char) : List Char → List (List Char)
  | [] => [line]
  | '\n' :: rest => line :: splitLinesFrom [] rest
  | '\r' :: '\n' :: rest => line :: splitLinesFrom [] rest
  | c :: rest => splitLinesFrom (line ++ [c]) rest

/-- The lines of a text, as `split` gives them at newlines. -/
def splitLines (lyrics : List Char) : List (List Char) :=
  splitLinesFrom [] lyrics

/-- A short line must be heard word by word, of a longer one a share is enough. -/
def isLineHeard (lineAnchors : List (Option Anchor)) : Bool :=
  if lineAnchors.length ≤ verbatimMaxTokens then
    lineAnchors.all fun anchor => anchor.any fun anchor => anchor.similarity = 1
  else
    lineMinAnchoredShare ≤ ((lineAnchors.filter Option.isSome).length : ℚ) / lineAnchors.length

/-- From the first anchor of the line to its last. -/
def lineInterval (lineAnchors : List (Option Anchor)) (heard : List HeardWord) :
    Option (Option LyricLineInterval) :=
  if isLineHeard lineAnchors then do
    let sung ← (lineAnchors.filterMap id).mapM fun anchor => heard[anchor.heardIndex]?
    let first ← sung.head?
    return some ⟨first.start, (sung.getLast?.getD first).endTime⟩
  else some none

/-- What `anchorsByLine` holds for one line. -/
def anchorsOfLine (words : List LyricWord) (anchors : List (Option Anchor)) (index : Nat) :
    List (Option Anchor) :=
  ((words.zip anchors).filter fun (word, _) => word.lineIndex = index).map Prod.snd

/-- The line with the time of its anchors. -/
def alignedLine (words : List LyricWord) (anchors : List (Option Anchor)) (heard : List HeardWord)
    (text : List Char) (index : Nat) : Option AlignedLyricLine := do
  let lineAnchors := anchorsOfLine words anchors index
  let interval ← if lineAnchors = [] then some none else lineInterval lineAnchors heard
  return ⟨text, interval⟩

/-- Every line of the lyrics, with its time where it is heard. -/
def alignLyricsToCues (data : UnicodeData) (lyrics : List Char) (cues : List WhisperCue) :
    Option (List AlignedLyricLine) := do
  let rawLines := splitLines lyrics
  let words := lyricWords data rawLines
  let heard := heardWords data cues
  let (anchors, _) ← alignWords wordSimilarity (words.map LyricWord.text)
    (heard.map HeardWord.text)
  rawLines.zipIdx.mapM fun (text, index) => alignedLine words anchors.toList heard text index

end Songmaker.Lyrics
