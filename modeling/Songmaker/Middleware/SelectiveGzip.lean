import Mathlib.Data.List.SplitBy
import Mathlib.Data.Rat.Defs
import Songmaker.Foundation.PythonText

namespace Songmaker.Middleware

open Songmaker.Foundation

/-! ### Headers -/

/-- Header names in lower case, each with its value, in order. -/
abbrev Headers := List (String × String)

namespace Headers

/-- The first value of the header. -/
def get (headers : Headers) (key : String) : Option String :=
  (headers.find? fun header => header.1 = key).map Prod.snd

def contains (headers : Headers) (key : String) : Bool :=
  headers.any fun header => header.1 = key

/-- The headers without those of the name. -/
def delete (headers : Headers) (key : String) : Headers :=
  headers.filter fun header => header.1 ≠ key

/-- The first header of the name gets the value, the others go. -/
def set (headers : Headers) (key value : String) : Headers :=
  match headers with
  | [] => [(key, value)]
  | header :: rest =>
      if header.1 = key then (key, value) :: Headers.delete rest key
      else header :: Headers.set rest key value

/-- The value is added to the `Vary` header. -/
def addVaryHeader (headers : Headers) (vary : String) : Headers :=
  match headers.get "vary" with
  | none => headers.set "vary" vary
  | some existing => headers.set "vary" (existing ++ ", " ++ vary)

end Headers

/-! ### Decisions -/

def compressibleContentTypePrefixes : List String :=
  ["application/json", "application/javascript", "application/manifest+json", "text/"]

def neverCompressContentTypePrefixes : List String :=
  ["text/event-stream"]

def httpOk : Nat := 200

def startsWith (text start : String) : Bool :=
  start.toList.isPrefixOf text.toList

/-- Texts and the like, but no event streams. -/
def isCompressibleContentType (contentType : String) : Bool :=
  if neverCompressContentTypePrefixes.any (startsWith contentType) then false
  else compressibleContentTypePrefixes.any (startsWith contentType)

/-- Whether the response depends on what the client accepts. -/
def isVariableByEncoding (status : Nat) (headers : Headers) : Bool :=
  if status ≠ httpOk then false
  else if headers.contains "content-encoding" then false
  else if headers.contains "content-range" then false
  else isCompressibleContentType ((headers.get "content-type").getD "")

/-- The q-value of a parameter list; `parseFloat` has no value for a text that is no
number. -/
def qvalueOf (parseFloat : List Char → Option ℚ) (params : List (List Char)) : ℚ :=
  params.foldl (fun qvalue param =>
    let loweredParam := param.map Char.toLower
    if ['q', '='].isPrefixOf loweredParam then (parseFloat (loweredParam.drop 2)).getD 0
    else qvalue) 1

/-- The body of the loop of `_accepts_gzip`: the q-values of `gzip` and of the wildcard. -/
def acceptEntry (parseFloat : List Char → Option ℚ) (found : Option ℚ × Option ℚ)
    (entry : List Char) : Option ℚ × Option ℚ :=
  match (entry.splitOn ';').map strip with
  | [] => found
  | coding :: params =>
      let coding := coding.map Char.toLower
      if coding = [] then found
      else if coding = ['g', 'z', 'i', 'p'] then (some (qvalueOf parseFloat params), found.2)
      else if coding = ['*'] then (found.1, some (qvalueOf parseFloat params))
      else found

/-- What the `Accept-Encoding` header says about gzip, or else about any coding. -/
def acceptsGzip (parseFloat : List Char → Option ℚ) (acceptEncoding : String) : Bool :=
  match (acceptEncoding.toList.splitOn ',').foldl (acceptEntry parseFloat) (none, none) with
  | (some gzipQvalue, _) => 0 < gzipQvalue
  | (none, some wildcardQvalue) => 0 < wildcardQvalue
  | (none, none) => false

/-! ### Messages -/

structure StartMessage where
  status : Nat
  headers : Option Headers
deriving DecidableEq

structure BodyMessage where
  body : Option (List UInt8)
  moreBody : Option Bool
deriving DecidableEq

/-- The messages that an application sends. -/
inductive Message where
  | start (message : StartMessage)
  | body (message : BodyMessage)
  | other (type : String)
  | empty
deriving DecidableEq

def BodyMessage.bytes (message : BodyMessage) : List UInt8 :=
  message.body.getD []

def BodyMessage.more (message : BodyMessage) : Bool :=
  message.moreBody.getD false

/-- A gzip file that writes into a buffer, and what reads it back. -/
structure GzipCodec where
  State : Type
  opened : State × List UInt8
  write : State → List UInt8 → State × List UInt8
  close : State → List UInt8
  decode : List UInt8 → Option (List UInt8)

variable (codec : GzipCodec)

/-- The bytes that a file in the state writes for the chunks until it is closed. -/
def GzipCodec.compressFrom (state : codec.State) : List (List UInt8) → List UInt8
  | [] => codec.close state
  | chunk :: rest => (codec.write state chunk).2 ++ compressFrom (codec.write state chunk).1 rest

/-- What the codec wrote reads back as what was written to it. -/
def GzipCodec.Correct : Prop :=
  ∀ chunks : List (List UInt8), codec.decode
    (codec.opened.2 ++ codec.compressFrom codec.opened.1 chunks) = some chunks.flatten

/-- `_CompressionResponder`. A closed gzip file is `none`, and so is a missing start. -/
structure Responder where
  minimumSize : Nat
  acceptsGzip : Bool
  initialMessage : Option StartMessage
  started : Bool
  isVariable : Bool
  shouldCompress : Bool
  gzipBuffer : List UInt8
  gzipFile : Option codec.State

def Responder.new (minimumSize : Nat) (acceptsGzip : Bool) : Responder codec where
  minimumSize := minimumSize
  acceptsGzip := acceptsGzip
  initialMessage := none
  started := false
  isVariable := false
  shouldCompress := false
  gzipBuffer := codec.opened.2
  gzipFile := some codec.opened.1

variable {codec}

namespace Responder

/-- Writing to a closed file raises. -/
def compressChunk (r : Responder codec) (body : List UInt8) (moreBody : Bool) :
    Option (Responder codec × List UInt8) := do
  let file ← r.gzipFile
  let (file, written) := codec.write file body
  if moreBody then
    return ({ r with gzipBuffer := [], gzipFile := some file }, r.gzipBuffer ++ written)
  else
    return ({ r with gzipBuffer := [], gzipFile := none },
      r.gzipBuffer ++ written ++ codec.close file)

/-- The message goes out, and stays as `initial_message` with its headers changed. -/
def sendInitialMessage (r : Responder codec) : Option (Responder codec × Message) :=
  match r.initialMessage with
  | none => if r.isVariable then none else some (r, .empty)
  | some message =>
      if r.isVariable then do
        let headers ← message.headers
        let message := { message with headers := some (headers.addVaryHeader "Accept-Encoding") }
        return ({ r with initialMessage := some message }, .start message)
      else some (r, .start message)

/-- The message as it came, behind the start message. -/
def forwardUncompressed (r : Responder codec) (message : Message) :
    Option (Responder codec × List Message) :=
  if r.started then some (r, [message])
  else do
    let (r, initial) ← sendInitialMessage { r with started := true }
    return (r, [initial, message])

/-- The chunk in compressed form, at whose end the codec is closed. -/
def applyCompression (r : Responder codec) (message : BodyMessage) (moreBody : Bool) :
    Option (Responder codec × BodyMessage) := do
  let (r, compressed) ← r.compressChunk message.bytes moreBody
  let initial ← r.initialMessage
  let headers ← initial.headers
  let headers := (headers.set "content-encoding" "gzip").delete "accept-ranges"
  let headers :=
    if moreBody then headers.delete "content-length"
    else headers.set "content-length" (toString compressed.length)
  return ({ r with initialMessage := some { initial with headers := some headers } },
    { message with body := some compressed })

/-- `send_with_compression`: the messages that it sends on. -/
def sendWithCompression (r : Responder codec) (message : Message) :
    Option (Responder codec × List Message) :=
  match message with
  | .start start => do
      let headers ← start.headers
      let isVariable := isVariableByEncoding start.status headers
      return ({ r with
        initialMessage := some start
        isVariable := isVariable
        shouldCompress := isVariable && r.acceptsGzip }, [])
  | .body body =>
      if !r.shouldCompress then r.forwardUncompressed message
      else if !r.started then do
        let r := { r with started := true }
        let (r, body) ←
          if r.minimumSize ≤ body.bytes.length ∨ body.more = true then
            r.applyCompression body body.more
          else some (r, body)
        let (r, initial) ← r.sendInitialMessage
        return (r, [initial, .body body])
      else do
        let (r, compressed) ← r.compressChunk body.bytes body.more
        return (r, [.body { body with body := some compressed }])
  | .other _ | .empty => r.forwardUncompressed message

/-- The messages of an application, one after another. -/
def respond (r : Responder codec) : List Message → Option (List Message)
  | [] => some []
  | message :: rest => do
      let (r, sent) ← r.sendWithCompression message
      let later ← respond r rest
      return sent ++ later

end Responder

/-- `SelectiveGZipMiddleware` for one request with the given `Accept-Encoding`. -/
def selectiveGzip (codec : GzipCodec) (parseFloat : List Char → Option ℚ) (minimumSize : Nat)
    (acceptEncoding : Option String) (messages : List Message) : Option (List Message) :=
  (Responder.new codec minimumSize (acceptsGzip parseFloat (acceptEncoding.getD ""))).respond
    messages

end Songmaker.Middleware
