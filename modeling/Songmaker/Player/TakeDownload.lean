import Songmaker.Foundation.TransitionSystem

/-!
The download of one take into the source buffer, byte by byte: the pieces of each
response body, the requests that resume it and the chunks that are appended.
Numbers are exact.
-/

namespace Songmaker.Player.TakeDownload

open Songmaker.Foundation

def chunkBytes : Nat := 1024 * 1024

/-- Attempts in a row before a download parks until the player retries it. -/
def downloadAttempts : Nat := 3

structure Response where
  status : Nat
  contentRange : Option String
  body : Option (List UInt8)
deriving DecidableEq

/-- The text after `bytes `, where the header begins so. -/
def afterUnit (contentRange : String) : Option (List Char) :=
  "bytes ".toList.isPrefixOf? contentRange.toList

/-- The number that the digits write. -/
def number (digits : List Char) : Nat :=
  digits.foldl (fun value digit => 10 * value + (digit.toNat - '0'.toNat)) 0

/-- The digits before a dash as a number, and the text behind the dash. -/
def leadingNumber (text : List Char) : Option (Nat × List Char) :=
  let digits := text.takeWhile Char.isDigit
  match text.dropWhile Char.isDigit with
  | '-' :: rest => if digits = [] then none else some (number digits, rest)
  | _ => none

/-- `Number` of what the pattern for `bytes`, digits and a dash finds; `none` is `NaN`. -/
def answeredFrom (contentRange : String) : Option Nat :=
  ((afterUnit contentRange).bind leadingNumber).map Prod.fst

/-- Why a response is refused, or `none`. -/
def refusalOf (response : Response) (fromByte : Nat) : Option String :=
  let resuming := 0 < fromByte
  if resuming ∧ response.status = 200 then some "ignored Range"
  else if response.status ≠ (if resuming then 206 else 200) then
    some s!"answered {response.status}"
  else if ¬resuming then none
  else
    match response.contentRange with
    | none => some "missing Content-Range"
    | some contentRange =>
        if answeredFrom contentRange = some fromByte then none
        else some (s!"Content-Range mismatch: asked from byte {fromByte}, " ++
          s!"answered {contentRange}")

/-- The message of a `TakeRefused`. -/
def takeRefused (url refusal : String) (cancelFailure : Option String) : String :=
  match cancelFailure with
  | some failure => s!"{url} {refusal}; cancelling its body failed: {failure}"
  | none => s!"{url} {refusal}"

/-- The body that a request reads, or the message of its refusal. -/
def request (url : String) (fromByte : Nat) (response : Response)
    (cancelFailure : Option String) : Except String (List UInt8) :=
  match refusalOf response fromByte with
  | some refusal => .error (takeRefused url refusal cancelFailure)
  | none =>
      match response.body with
      | none => .error (takeRefused url s!"answered {response.status} without a body" none)
      | some body => .ok body

/-- `whole.set(piece, offset)` -/
def setAt (whole piece : List UInt8) (offset : Nat) : List UInt8 :=
  whole.take offset ++ piece ++ whole.drop (offset + piece.length)

/-- The loop of `joined`, from an offset on. -/
def joinFrom (whole : List UInt8) (offset : Nat) : List (List UInt8) → List UInt8
  | [] => whole
  | piece :: pieces => joinFrom (setAt whole piece offset) (offset + piece.length) pieces

/-- The pieces in one buffer of the announced size. -/
def joined (pieces : List (List UInt8)) (totalBytes : Nat) : List UInt8 :=
  joinFrom (List.replicate totalBytes 0) 0 pieces

/-- Where `download` is: awaiting an answer, reading a body with these bytes still
to come, parked, or returned. -/
inductive Source where
  | requesting
  | reading (rest : List UInt8)
  | parked
  | returned
deriving DecidableEq

/-- How a download ends early. -/
inductive Failure where
  | refused (message : String)
  /-- The deck was closed, or the take withdrawn. -/
  | abandoned
  | bufferFailed
deriving DecidableEq

/-- Where `appendWholeTake` is: awaiting the next chunk, or appending one. -/
inductive Stage where
  | pulling
  | makingRoom (chunk : List UInt8)
  | evicting (chunk : List UInt8)
  | appending (chunk : List UInt8)
  | freeing (chunk : List UInt8)
  | appendingAgain (chunk : List UInt8)
  | done
  | failed (failure : Failure)
deriving DecidableEq

/-- `appended` is what the source buffer took. `retried` is the abort of the
attempt in flight. -/
structure Delivery where
  received : Nat
  failedInARow : Nat
  source : Source
  retried : Bool
  gathered : List (List UInt8)
  gatheredBytes : Nat
  stage : Stage
  closed : Bool
  withdrawn : Bool
  appended : List UInt8
deriving DecidableEq

/-- The answers of the fetch, the pieces of its body, and what the deck asks for. -/
inductive Action where
  | answers (response : Response) (cancelFailure : Option String)
  | fetchFails
  /-- The next bytes of the body, and whether little is buffered ahead. -/
  | pieceArrives (bytes : Nat) (runningLow : Bool)
  | bodyEnds
  | readFails
  | retryDownload
  | close
  | withdraw
  /-- An await that listens to the abort rejects. -/
  | abortNoticed
  | roomFound (evicts : Bool)
  | removalEnds
  | appendEnds
  | quotaExceeded (frees : Bool)
  /-- An update fails with an error event, an append after its first bytes. -/
  | updateFails (taken : Nat)

namespace Delivery

variable (delivery : Delivery)

def wantedAborted : Bool :=
  delivery.closed || delivery.withdrawn

def fail (failure : Failure) : Delivery :=
  { delivery with stage := .failed failure }

/-- `chunked` yields what it has gathered. -/
def yieldGathered : Delivery :=
  { delivery with
    stage := .makingRoom (joined delivery.gathered delivery.gatheredBytes)
    gathered := []
    gatheredBytes := 0 }

/-- The next chunk is asked for. -/
def pull : Delivery :=
  match delivery.source with
  | .returned =>
      if 0 < delivery.gatheredBytes then delivery.yieldGathered
      else { delivery with stage := .done }
  | _ => { delivery with stage := .pulling }

/-- The `catch` of `download`, for anything but a `TakeRefused`, and what follows it. -/
def attemptFailed : Delivery :=
  if delivery.wantedAborted then delivery.fail .abandoned
  else
    let failedInARow := if delivery.retried then 0 else delivery.failedInARow + 1
    { delivery with
      failedInARow := failedInARow
      source := if failedInARow = downloadAttempts then .parked else .requesting
      retried := false }

/-- The answer of the fetch, which may refuse the rest of the file. -/
def answered (url : String) (response : Response) (cancelFailure : Option String) : Delivery :=
  match request url delivery.received response cancelFailure with
  | .error message =>
      delivery.fail (if delivery.wantedAborted then .abandoned else .refused message)
  | .ok body => { delivery with source := .reading body }

/-- A piece passes `download` and joins what `chunked` has gathered. -/
def pieceReceived (piece rest : List UInt8) (runningLow : Bool) : Delivery :=
  let next := { delivery with
    received := delivery.received + piece.length
    source := .reading rest
    gathered := delivery.gathered ++ [piece]
    gatheredBytes := delivery.gatheredBytes + piece.length }
  if runningLow || chunkBytes ≤ next.gatheredBytes then next.yieldGathered else next

/-- Cuts the request in flight, or wakes a parked download. -/
def retryDownload : Delivery :=
  match delivery.source with
  | .requesting | .reading _ => { delivery with retried := true }
  | .parked =>
      match delivery.stage with
      | .pulling => { delivery with source := .requesting, failedInARow := 0 }
      | _ => delivery
  | .returned => delivery

/-- `update`: a closed deck leaves the buffer alone. -/
def update (stage : Stage) : Delivery :=
  if delivery.closed then delivery.fail .abandoned else { delivery with stage := stage }

/-- The buffer has the bytes. -/
def took (bytes : List UInt8) : Delivery :=
  { delivery with appended := delivery.appended ++ bytes }

end Delivery

/-- The server's body holds the bytes of the file that its headers claim. -/
def Honest (file : List UInt8) (response : Response) : Prop :=
  ∀ body ∈ response.body,
    (response.status = 200 → body = file) ∧
    (response.status = 206 → ∀ contentRange ∈ response.contentRange,
      ∀ start ∈ (afterUnit contentRange).bind leadingNumber,
        body <+: file.drop start.1 ∧
          ((start.2.takeWhile Char.isDigit ≠ []) →
            start.1 + body.length = number (start.2.takeWhile Char.isDigit) + 1))

instance (file : List UInt8) (response : Response) : Decidable (Honest file response) :=
  inferInstanceAs (Decidable (∀ body ∈ response.body, _))

/-- The running step goes on. -/
def resume (delivery : Delivery) : Stage → Source → Action → Option Delivery
  | .pulling, .requesting, .fetchFails => some delivery.attemptFailed
  | .pulling, .reading rest, .pieceArrives bytes runningLow =>
      if bytes ≤ rest.length then
        some (delivery.pieceReceived (rest.take bytes) (rest.drop bytes) runningLow)
      else none
  | .pulling, .reading rest, .bodyEnds =>
      if rest = [] then some { delivery with source := .returned }.pull else none
  | .pulling, .reading _, .readFails => some delivery.attemptFailed
  | .pulling, .parked, .abortNoticed =>
      if delivery.wantedAborted then some (delivery.fail .abandoned) else none
  | .makingRoom _, _, .abortNoticed =>
      if delivery.wantedAborted then some (delivery.fail .abandoned) else none
  | .makingRoom chunk, _, .roomFound evicts =>
      some (delivery.update (if evicts then .evicting chunk else .appending chunk))
  | .evicting chunk, _, .removalEnds => some (delivery.update (.appending chunk))
  | .evicting _, _, .updateFails _ => some (delivery.fail .bufferFailed)
  | .appending chunk, _, .appendEnds => some (delivery.took chunk).pull
  | .appending chunk, _, .quotaExceeded frees =>
      some (if frees then delivery.update (.freeing chunk) else delivery.fail .bufferFailed)
  | .appending chunk, _, .updateFails taken =>
      some ((delivery.took (chunk.take taken)).fail .bufferFailed)
  | .freeing chunk, _, .removalEnds => some (delivery.update (.appendingAgain chunk))
  | .freeing _, _, .updateFails _ => some (delivery.fail .bufferFailed)
  | .appendingAgain chunk, _, .appendEnds => some (delivery.took chunk).pull
  | .appendingAgain _, _, .quotaExceeded _ => some (delivery.fail .bufferFailed)
  | .appendingAgain chunk, _, .updateFails taken =>
      some ((delivery.took (chunk.take taken)).fail .bufferFailed)
  | _, _, _ => none

def act (url : String) (file : List UInt8) (delivery : Delivery) : Action → Option Delivery
  | .close => some { delivery with closed := true }
  | .withdraw => some { delivery with withdrawn := true }
  | .retryDownload => some delivery.retryDownload
  | .answers response cancelFailure =>
      if delivery.stage = .pulling ∧ delivery.source = .requesting ∧ Honest file response then
        some (delivery.answered url response cancelFailure)
      else none
  | action => resume delivery delivery.stage delivery.source action

def newDelivery : Delivery where
  received := 0
  failedInARow := 0
  source := .requesting
  retried := false
  gathered := []
  gatheredBytes := 0
  stage := .pulling
  closed := false
  withdrawn := false
  appended := []

/-- Every order of answers, pieces, failures, retries, aborts and buffer updates. -/
def takeDownload (url : String) (file : List UInt8) : TransitionSystem Delivery Action :=
  .ofAct (fun delivery => delivery = newDelivery) (act url file)

end Songmaker.Player.TakeDownload
