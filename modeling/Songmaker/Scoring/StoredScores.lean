import Songmaker.Scoring.ScorePipeline

/-!
The scores and the transcript that are stored of a take. The transactions that write them
lock the row of the take before they read or write anything of it, a scoring run after the
row of its job, and any of them may fail.
-/

namespace Songmaker.Scoring.StoredScores

open Songmaker.Foundation
open Songmaker.Scoring.ScorePipeline

def coherenceScoreKey : String := "lyrical_coherence"

def coherenceSummaryKey : String := "lyrical_summary"

/-- The transcript that is stored with a take. -/
structure Transcript where
  whisperText : String
  whisperCues : List WhisperCue
deriving DecidableEq

/-- What a transaction saves: the scores of a run, or the verdict of the co-writer. -/
inductive Operation where
  | scoringRun (request : ScoringRequest)
  | coherenceVerdict (score : Int) (summary : String)

namespace Operation

def pair (score : Int) (summary : String) : List (String × ScoreValue) :=
  [(coherenceScoreKey, .count score), (coherenceSummaryKey, .text summary)]

/-- The values that the operation stores. -/
def scores : Operation → Values
  | .scoringRun request => request.songScores.toDict
  | .coherenceVerdict score summary => fun key => (pair score summary).lookup key

/-- The keys that the operation writes, whether or not it has a value for them. -/
def refreshedKeys : Operation → List String
  | .scoringRun request => request.songScores.refreshedOutputKeys
  | .coherenceVerdict score summary => (pair score summary).map Prod.fst

/-- The transcript of a run that has a text accuracy. -/
def transcript : Operation → Option Transcript
  | .scoringRun request => request.songScores.textAccuracy.map fun score =>
      ⟨score.transcript, score.whisperCues⟩
  | .coherenceVerdict .. => none

end Operation

/-- A row of the scores of the take whose scorer is the batch. -/
structure BatchRow where
  id : Nat
  value : Values

/-- The values of a row after a run: the keys that it refreshed are dropped first. -/
def merged (existing scores : Values) (refreshedKeys : List String) : Values :=
  fun key => (scores key).or (if key ∈ refreshedKeys then none else existing key)

/-- How far a transaction is: before it has the take locked, before it has read the batch
row, with what it read, and with what it is about to commit. -/
inductive Stage where
  | idle
  | locking (operation : Operation)
  | reading (operation : Operation)
  | merging (operation : Operation) (existing : Option BatchRow)
  | saved (operation : Operation) (inserted : Bool) (row : BatchRow)
  | transcribed (operation : Operation) (inserted : Bool) (row : BatchRow)

/-- `batch` and `transcript` are what is committed; `commits` tells the operations that were
committed, in their order. -/
structure State where
  batch : List BatchRow
  transcript : Option Transcript
  lockedBy : Option Nat
  stage : Nat → Stage
  nextRow : Nat
  commits : List Operation

/-- A writer's transaction takes its next statement, or ends. -/
inductive Action where
  | start (writer : Nat) (operation : Operation)
  | lockGeneration (writer : Nat)
  | selectBatch (writer : Nat)
  | saveScores (writer : Nat)
  | setTranscript (writer : Nat)
  | commit (writer : Nat)
  | fail (writer : Nat)

def State.moveTo (state : State) (writer : Nat) (stage : Stage) : State :=
  { state with stage := Function.update state.stage writer stage }

/-- The row that `save_scores` inserts or writes anew. -/
def State.saveScores (state : State) (writer : Nat) (operation : Operation) :
    Option BatchRow → State
  | none =>
      { state.moveTo writer (.saved operation true ⟨state.nextRow, operation.scores⟩) with
        nextRow := state.nextRow + 1 }
  | some existing =>
      state.moveTo writer (.saved operation false
        ⟨existing.id, merged existing.value operation.scores operation.refreshedKeys⟩)

/-- The transaction's row and transcript become those of the take. -/
def State.commit (state : State) (writer : Nat) (operation : Operation) (inserted : Bool)
    (row : BatchRow) : State :=
  { state.moveTo writer .idle with
    batch :=
      if inserted then state.batch ++ [row]
      else state.batch.map fun other => if other.id = row.id then row else other
    transcript := operation.transcript.or state.transcript
    lockedBy := none
    commits := state.commits ++ [operation] }

/-- A transaction that ends without a commit leaves nothing but the lock it gives back. -/
def State.fail (state : State) (writer : Nat) : State :=
  { state.moveTo writer .idle with
    lockedBy := if state.lockedBy = some writer then none else state.lockedBy }

def act (state : State) : Action → Option State
  | .start writer operation =>
      match state.stage writer with
      | .idle => some (state.moveTo writer (.locking operation))
      | _ => none
  | .lockGeneration writer =>
      match state.stage writer with
      | .locking operation =>
          if state.lockedBy = none then
            some { state.moveTo writer (.reading operation) with lockedBy := some writer }
          else none
      | _ => none
  | .selectBatch writer =>
      match state.stage writer with
      | .reading operation => some (state.moveTo writer (.merging operation state.batch.head?))
      | _ => none
  | .saveScores writer =>
      match state.stage writer with
      | .merging operation existing => some (state.saveScores writer operation existing)
      | _ => none
  | .setTranscript writer =>
      match state.stage writer with
      | .saved operation inserted row =>
          some (state.moveTo writer (.transcribed operation inserted row))
      | _ => none
  | .commit writer =>
      match state.stage writer with
      | .transcribed operation inserted row => some (state.commit writer operation inserted row)
      | _ => none
  | .fail writer => some (state.fail writer)

/-- A take that was never scored. -/
def newTake : State where
  batch := []
  transcript := none
  lockedBy := none
  stage := fun _ => .idle
  nextRow := 0
  commits := []

/-- Every order of the statements of any number of transactions on one take. -/
def storedScores : TransitionSystem State Action :=
  .ofAct (fun state => state = newTake) act

/-- The value that is stored of a key. -/
def State.storedValue (state : State) (key : String) : Option ScoreValue :=
  state.batch.head?.bind fun row => row.value key

end Songmaker.Scoring.StoredScores
