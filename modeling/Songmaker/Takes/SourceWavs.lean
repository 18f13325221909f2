import Songmaker.Foundation.TransitionSystem

/-!
Repaint and cover requests of several server processes, with the wav files that
they have made of takes that came with only an mp3. The converter truncates its
output and then writes it piece by piece.
-/

namespace Songmaker.Takes.SourceWavs

open Songmaker.Foundation

abbrev Bytes := List UInt8

/-- The name of a file below `audio_dir`. -/
structure AudioPath where
  parent : String
  stem : String
  suffix : String
deriving DecidableEq

def AudioPath.withSuffix (path : AudioPath) (suffix : String) : AudioPath :=
  { path with suffix := suffix }

/-- `Generation.mp3_path` of every take. -/
structure Mp3Names where
  mp3Path : String → AudioPath
  suffix : ∀ gen, (mp3Path gen).suffix = ".mp3"

/-- The name that a conversion of the take's mp3 is written under. -/
def Mp3Names.wavName (names : Mp3Names) (gen : String) : AudioPath :=
  (names.mp3Path gen).withSuffix ".wav"

/-- How far a request has come with the wav of its take. -/
inductive Stage where
  /-- The take is read. -/
  | checked
  | launched
  /-- The converter has written the first `offset` bytes of `wav`. -/
  | converting (wav : Bytes) (offset : Nat)
  | resolved (name : AudioPath)
  | stored (name : AudioPath)
  | ended
deriving DecidableEq

/-- A request that needs the wav of a take. -/
structure Request where
  gen : String
  /-- `gen.wav_path` as the session has loaded it. -/
  seen : Option AudioPath
  stage : Stage
deriving DecidableEq

/-- The rows of the takes, the files, and the requests under way. -/
structure Sources where
  wavPath : String → Option AudioPath
  files : AudioPath → Option Bytes
  requests : List Request
  /-- The wavs that a request has stored as the take's or handed to a job. -/
  given : List (String × AudioPath)

/-- The file after `bytes` were written at the offset; a gap reads as zeros. -/
def writeAt (file : Bytes) (offset : Nat) (bytes : Bytes) : Bytes :=
  file.takeD offset 0 ++ bytes ++ file.drop (offset + bytes.length)

namespace Sources

def setFile (s : Sources) (name : AudioPath) (content : Bytes) : Sources :=
  { s with files := fun other => if other = name then some content else s.files other }

def setStage (s : Sources) (i : Nat) (request : Request) (stage : Stage) : Sources :=
  { s with requests := s.requests.set i { request with stage := stage } }

/-- A wav is stored as the take's, or handed to a job. -/
def give (s : Sources) (gen : String) (name : AudioPath) : Sources :=
  { s with given := s.given ++ [(gen, name)] }

def setWavPath (s : Sources) (gen : String) (name : AudioPath) : Sources :=
  { s with wavPath := fun other => if other = gen then some name else s.wavPath other }

/-- `_resolve_source_wav` up to the conversion. -/
def resolveSourceWav (names : Mp3Names) (ffmpeg : Bool) (s : Sources) (request : Request) : Stage :=
  match request.seen.filter fun name => (s.files name).isSome with
  | some name => .resolved name
  | none =>
      if s.files (names.mp3Path request.gen) = none then .ended
      else if (s.files (names.wavName request.gen)).isSome then
        .resolved (names.wavName request.gen)
      else if ffmpeg then .launched
      else .ended

end Sources

/-- A request arrives, its converter goes on, and rows and files are removed. -/
inductive SourceAct where
  /-- A request passes `check_generation_access`. -/
  | arrives (gen : String)
  | resolves (i : Nat) (ffmpeg : Bool)
  | opens (i : Nat)
  | writes (i : Nat) (length : Nat)
  | exits (i : Nat)
  /-- The take is committed with its job. -/
  | stores (i : Nat)
  | enqueues (i : Nat)
  /-- The request is refused, or its converter fails or is killed. -/
  | ends (i : Nat)
deriving DecidableEq

open Sources in
def act (convert : Bytes → Bytes) (names : Mp3Names) (s : Sources) : SourceAct → Option Sources
  | .arrives gen => some { s with requests := s.requests ++ [⟨gen, s.wavPath gen, .checked⟩] }
  | .resolves i ffmpeg =>
      s.requests[i]?.bind fun request =>
        match request.stage with
        | .checked => some (s.setStage i request (s.resolveSourceWav names ffmpeg request))
        | _ => none
  | .opens i =>
      s.requests[i]?.bind fun request =>
        match request.stage, s.files (names.mp3Path request.gen) with
        | .launched, some mp3 =>
            some ((s.setFile (names.wavName request.gen) []).setStage i request
              (.converting (convert mp3) 0))
        | _, _ => none
  | .writes i length =>
      s.requests[i]?.bind fun request =>
        match request.stage, s.files (names.wavName request.gen) with
        | .converting wav offset, some file =>
            some ((s.setFile (names.wavName request.gen)
                (writeAt file offset ((wav.drop offset).take length))).setStage i request
              (.converting wav (min (offset + length) wav.length)))
        | _, _ => none
  | .exits i =>
      s.requests[i]?.bind fun request =>
        match request.stage with
        | .converting wav offset =>
            if offset = wav.length then
              some (s.setStage i request (.resolved (names.wavName request.gen)))
            else none
        | _ => none
  | .stores i =>
      s.requests[i]?.bind fun request =>
        match request.stage with
        | .resolved name =>
            some (((s.setWavPath request.gen name).give request.gen name).setStage i request
              (.stored name))
        | _ => none
  | .enqueues i =>
      s.requests[i]?.bind fun request =>
        match request.stage with
        | .stored name => some ((s.give request.gen name).setStage i request .ended)
        | _ => none
  | .ends i => s.requests[i]?.map fun request => s.setStage i request .ended

/-- No take has a wav yet, though its row may hold the name that a conversion gives it. -/
structure OnlyMp3s (names : Mp3Names) (s : Sources) : Prop where
  wavPath : ∀ gen name, s.wavPath gen = some name → name = names.wavName gen
  files : ∀ gen, s.files (names.wavName gen) = none
  requests : s.requests = []
  given : s.given = []

/-- Takes that have their mp3 alone, and the steps of the requests. -/
def sources (convert : Bytes → Bytes) (names : Mp3Names) : TransitionSystem Sources SourceAct :=
  .ofAct (OnlyMp3s names) (act convert names)

end Songmaker.Takes.SourceWavs
