import Songmaker.Middleware.SelectiveGzip

namespace Songmaker.Middleware

/-! ### Headers -/

namespace Headers

theorem get_cons (header : String × String) (rest : Headers) (key : String) :
    Headers.get (header :: rest) key =
      if header.1 = key then some header.2 else Headers.get rest key := by
  rw [Headers.get, List.find?_cons]
  by_cases hkey : header.1 = key
  · simp [hkey]
  · simp [hkey, Headers.get]

theorem get_delete (headers : Headers) (key other : String) :
    (headers.delete key).get other = if other = key then none else headers.get other := by
  induction headers with
  | nil => simp [Headers.delete, Headers.get]
  | cons header rest ih =>
      by_cases hheader : header.1 = key
      · have hdelete : Headers.delete (header :: rest) key = Headers.delete rest key := by
          simp [Headers.delete, hheader]
        rw [hdelete, ih, get_cons]
        by_cases hother : other = key
        · rw [if_pos hother, if_pos hother]
        · rw [if_neg hother, if_neg hother, if_neg]
          rw [hheader]
          exact fun heq => hother heq.symm
      · have hdelete : Headers.delete (header :: rest) key = header :: Headers.delete rest key := by
          simp [Headers.delete, hheader]
        rw [hdelete, get_cons, get_cons, ih]
        by_cases hother : header.1 = other
        · have hne : other ≠ key := fun heq => hheader (hother.trans heq)
          rw [if_pos hother, if_pos hother, if_neg hne]
        · rw [if_neg hother, if_neg hother]

theorem get_set (headers : Headers) (key value other : String) :
    (headers.set key value).get other = if other = key then some value else headers.get other := by
  induction headers with
  | nil =>
      rw [Headers.set, get_cons]
      by_cases hother : other = key
      · rw [if_pos hother.symm, if_pos hother]
      · rw [if_neg (Ne.symm hother), if_neg hother]
  | cons header rest ih =>
      rw [Headers.set]
      split
      · rename_i hheader
        rw [get_cons, get_cons, get_delete]
        by_cases hother : other = key
        · rw [if_pos hother.symm, if_pos hother]
        · rw [if_neg (Ne.symm hother), if_neg hother, if_neg hother, hheader,
            if_neg (Ne.symm hother)]
      · rename_i hheader
        rw [get_cons, get_cons, ih]
        by_cases hother : header.1 = other
        · have hne : other ≠ key := fun heq => hheader (hother.trans heq)
          rw [if_pos hother, if_pos hother, if_neg hne]
        · rw [if_neg hother, if_neg hother]

theorem get_addVaryHeader (headers : Headers) (vary : String) {other : String}
    (hother : other ≠ "vary") : (headers.addVaryHeader vary).get other = headers.get other := by
  rw [Headers.addVaryHeader]
  split
  · rw [get_set, if_neg hother]
  · rw [get_set, if_neg hother]

theorem mem_delete {headers : Headers} {key : String} {header : String × String} :
    header ∈ headers.delete key ↔ header ∈ headers ∧ header.1 ≠ key := by
  simp [Headers.delete]

theorem mem_set {headers : Headers} {key value : String} {header : String × String}
    (hheader : header ∈ headers.set key value) :
    header = (key, value) ∨ header ∈ headers ∧ header.1 ≠ key := by
  induction headers with
  | nil => exact .inl (List.mem_singleton.mp hheader)
  | cons first rest ih =>
      rw [Headers.set] at hheader
      split at hheader
      · rcases List.mem_cons.mp hheader with rfl | hrest
        · exact .inl rfl
        · obtain ⟨hmem, hne⟩ := mem_delete.mp hrest
          exact .inr ⟨List.mem_cons_of_mem first hmem, hne⟩
      · rename_i hfirst
        rcases List.mem_cons.mp hheader with rfl | hrest
        · exact .inr ⟨List.mem_cons_self, hfirst⟩
        · exact (ih hrest).imp_right fun h => ⟨List.mem_cons_of_mem first h.1, h.2⟩

theorem delete_set (headers : Headers) (key value : String) :
    (headers.set key value).delete key = headers.delete key := by
  induction headers with
  | nil => simp [Headers.set, Headers.delete]
  | cons header rest ih =>
      rw [Headers.set]
      split
      · rename_i hheader
        simp [Headers.delete, hheader]
      · rename_i hheader
        simpa [Headers.delete, hheader] using ih

theorem delete_addVaryHeader (headers : Headers) (vary : String) :
    (headers.addVaryHeader vary).delete "vary" = headers.delete "vary" := by
  rw [Headers.addVaryHeader]
  split
  · exact delete_set headers "vary" vary
  · exact delete_set headers "vary" _

theorem mem_addVaryHeader {headers : Headers} {vary : String} {header : String × String}
    (hne : header.1 ≠ "vary") :
    header ∈ headers.addVaryHeader vary ↔ header ∈ headers := by
  have hmem : ∀ headers : Headers, header ∈ headers.delete "vary" ↔ header ∈ headers :=
    fun headers => mem_delete.trans (and_iff_left hne)
  rw [← hmem, delete_addVaryHeader, hmem]

end Headers

/-! ### The run over the chunks -/

/-- The bytes of a body in all its chunks. -/
def bodyBytes (chunks : List BodyMessage) : List UInt8 :=
  (chunks.map BodyMessage.bytes).flatten

/-- The chunks of a response that is whole: each but the last promises more. -/
def Complete (chunks : List BodyMessage) : Prop :=
  ∃ before last, chunks = before ++ [last] ∧ (∀ chunk ∈ before, chunk.more = true) ∧
    last.more = false

theorem Complete.cons_cons {first second : BodyMessage} {rest : List BodyMessage}
    (hchunks : Complete (first :: second :: rest)) :
    first.more = true ∧ Complete (second :: rest) := by
  obtain ⟨before, last, heq, hbefore, hlast⟩ := hchunks
  cases before with
  | nil => simp at heq
  | cons chunk before =>
      obtain ⟨rfl, hrest⟩ := List.cons.inj heq
      exact ⟨hbefore first List.mem_cons_self, before, last, hrest,
        fun chunk hchunk => hbefore chunk (List.mem_cons_of_mem first hchunk), hlast⟩

theorem Complete.singleton {chunk : BodyMessage} (hchunk : Complete [chunk]) :
    chunk.more = false := by
  obtain ⟨before, last, heq, -, hlast⟩ := hchunk
  cases before with
  | nil =>
      obtain ⟨rfl, -⟩ := List.cons.inj heq
      exact hlast
  | cons first before => simp at heq

variable {codec : GzipCodec}

namespace Responder

theorem respond_cons {r after : Responder codec} {message : Message} {sent : List Message}
    (hsend : r.sendWithCompression message = some (after, sent)) (rest : List Message) :
    r.respond (message :: rest) = (after.respond rest).map (sent ++ ·) := by
  rw [respond, hsend]
  cases hrest : after.respond rest with
  | none => simp [hrest]
  | some later => simp [hrest]

/-- The headers that the start message goes out with. -/
def sentHeaders (r : Responder codec) (headers : Headers) : Headers :=
  if r.isVariable then headers.addVaryHeader "Accept-Encoding" else headers

theorem sendInitialMessage_eq {r : Responder codec} {status : Nat} {headers : Headers}
    (hinitial : r.initialMessage = some ⟨status, some headers⟩) :
    r.sendInitialMessage =
      some ({ r with initialMessage := some ⟨status, some (r.sentHeaders headers)⟩ },
        .start ⟨status, some (r.sentHeaders headers)⟩) := by
  simp only [sendInitialMessage, hinitial]
  by_cases hvariable : r.isVariable = true
  · simp only [sentHeaders, if_pos hvariable]
    rfl
  · simp only [sentHeaders, if_neg hvariable]
    rw [← hinitial]

/-- The responder when the first chunk is in. -/
def start (r : Responder codec) : Responder codec :=
  { r with started := true }

/-- The responder when the start message is out. -/
def sent (r : Responder codec) (status : Nat) (headers : Headers) : Responder codec :=
  { r with initialMessage := some ⟨status, some headers⟩ }

theorem send_first_forwarded {r : Responder codec} {status : Nat} {headers : Headers}
    (hinitial : r.initialMessage = some ⟨status, some headers⟩) (hstarted : r.started = false)
    (hcompress : r.shouldCompress = false) (first : BodyMessage) :
    r.sendWithCompression (.body first) =
      some (r.start.sent status (r.sentHeaders headers),
        [.start ⟨status, some (r.sentHeaders headers)⟩, .body first]) := by
  have hsend := sendInitialMessage_eq (r := r.start) hinitial
  have hforward : r.forwardUncompressed (.body first) =
      (r.start.sendInitialMessage).bind fun sent => some (sent.1, [sent.2, .body first]) := by
    simp only [forwardUncompressed, hstarted]
    rfl
  simp only [sendWithCompression, hcompress, Bool.not_false, if_true, hforward, hsend,
    Option.bind_some]
  rfl

theorem send_first_small {r : Responder codec} {status : Nat} {headers : Headers}
    (hinitial : r.initialMessage = some ⟨status, some headers⟩) (hstarted : r.started = false)
    (hcompress : r.shouldCompress = true) {first : BodyMessage}
    (hsmall : ¬(r.minimumSize ≤ first.bytes.length ∨ first.more = true)) :
    r.sendWithCompression (.body first) =
      some (r.start.sent status (r.sentHeaders headers),
        [.start ⟨status, some (r.sentHeaders headers)⟩, .body first]) := by
  have hsend := sendInitialMessage_eq (r := r.start) hinitial
  have hfirst : r.sendWithCompression (.body first) =
      (r.start.sendInitialMessage).bind fun sent => some (sent.1, [sent.2, .body first]) := by
    simp only [sendWithCompression, hcompress, hstarted, Bool.not_true, Bool.not_false,
      Bool.false_eq_true, if_false, if_true, if_neg hsmall, Option.bind_eq_bind, Option.bind_some]
    rw [start, hcompress]
    rfl
  rw [hfirst, hsend, Option.bind_some]
  rfl

/-- The headers of a compressed response, before `Vary` is added. -/
def compressedHeaders (headers : Headers) (more : Bool) (length : Nat) : Headers :=
  if more then
    ((headers.set "content-encoding" "gzip").delete "accept-ranges").delete "content-length"
  else
    ((headers.set "content-encoding" "gzip").delete "accept-ranges").set "content-length"
      (toString length)

theorem applyCompression_eq {r after : Responder codec} {status : Nat} {headers : Headers}
    {first : BodyMessage} {compressed : List UInt8}
    (hchunk : r.compressChunk first.bytes first.more = some (after, compressed))
    (hinitial : after.initialMessage = some ⟨status, some headers⟩) :
    r.applyCompression first first.more =
      some (after.sent status (compressedHeaders headers first.more compressed.length),
        { first with body := some compressed }) := by
  rw [applyCompression, hchunk]
  simp only [Option.bind_eq_bind, Option.bind_some, hinitial]
  rfl

theorem send_first_compressed {r after : Responder codec} {status : Nat} {headers : Headers}
    {first : BodyMessage} {compressed : List UInt8} (hstarted : r.started = false)
    (hcompress : r.shouldCompress = true)
    (hlarge : r.minimumSize ≤ first.bytes.length ∨ first.more = true)
    (hchunk : r.start.compressChunk first.bytes first.more = some (after, compressed))
    (hinitial : after.initialMessage = some ⟨status, some headers⟩) :
    ∃ headers', r.sendWithCompression (.body first) =
        some (after.sent status headers',
          [.start ⟨status, some headers'⟩, .body { first with body := some compressed }]) ∧
      headers' = after.sentHeaders (compressedHeaders headers first.more compressed.length) := by
  have happly := applyCompression_eq hchunk hinitial
  have hsend := sendInitialMessage_eq (r := after.sent status
    (compressedHeaders headers first.more compressed.length)) rfl
  have hfirst : r.sendWithCompression (.body first) =
      (r.start.applyCompression first first.more).bind fun applied =>
        (applied.1.sendInitialMessage).bind fun sent =>
          some (sent.1, [sent.2, .body applied.2]) := by
    simp only [sendWithCompression, hcompress, hstarted, Bool.not_true, Bool.not_false,
      Bool.false_eq_true, if_false, if_true, if_pos hlarge, Option.bind_eq_bind]
    rw [start, hcompress]
    rfl
  refine ⟨_, ?_, rfl⟩
  rw [hfirst, happly, Option.bind_some, hsend, Option.bind_some]
  rfl

theorem respond_forwarded (r : Responder codec) (hstarted : r.started = true)
    (hcompress : r.shouldCompress = false) (chunks : List BodyMessage) :
    r.respond (chunks.map Message.body) = some (chunks.map Message.body) := by
  induction chunks with
  | nil => rfl
  | cons chunk rest ih =>
      have hsend : r.sendWithCompression (.body chunk) = some (r, [.body chunk]) := by
        simp [sendWithCompression, hcompress, forwardUncompressed, hstarted]
      rw [List.map_cons, respond_cons hsend, ih]
      rfl

theorem compressChunk_more {r : Responder codec} {file : codec.State}
    (hfile : r.gzipFile = some file) (body : List UInt8) :
    r.compressChunk body true =
      some ({ r with gzipBuffer := [], gzipFile := some (codec.write file body).1 },
        r.gzipBuffer ++ (codec.write file body).2) := by
  simp [compressChunk, hfile]

theorem compressChunk_last {r : Responder codec} {file : codec.State}
    (hfile : r.gzipFile = some file) (body : List UInt8) :
    r.compressChunk body false = some ({ r with gzipBuffer := [], gzipFile := none },
      r.gzipBuffer ++ codec.compressFrom file [body]) := by
  simp [compressChunk, hfile, GzipCodec.compressFrom]

theorem send_compressed {r after : Responder codec} {chunk : BodyMessage}
    {compressed : List UInt8} (hstarted : r.started = true) (hcompress : r.shouldCompress = true)
    (hchunk : r.compressChunk chunk.bytes chunk.more = some (after, compressed)) :
    r.sendWithCompression (.body chunk) =
      some (after, [.body { chunk with body := some compressed }]) := by
  simp [sendWithCompression, hcompress, hstarted, hchunk]

theorem respond_compressed {r : Responder codec} (hstarted : r.started = true)
    (hcompress : r.shouldCompress = true) {file : codec.State} (hfile : r.gzipFile = some file)
    {chunks : List BodyMessage} (hchunks : Complete chunks) :
    ∃ sent : List BodyMessage,
      r.respond (chunks.map Message.body) = some (sent.map Message.body) ∧
      bodyBytes sent =
        r.gzipBuffer ++ codec.compressFrom file (chunks.map BodyMessage.bytes) ∧
      sent.map BodyMessage.moreBody = chunks.map BodyMessage.moreBody := by
  induction chunks generalizing r file with
  | nil =>
      obtain ⟨before, last, heq, -⟩ := hchunks
      simp at heq
  | cons chunk rest ih =>
      cases rest with
      | nil =>
          have hchunk := compressChunk_last hfile chunk.bytes
          rw [← hchunks.singleton] at hchunk
          refine ⟨[{ chunk with
            body := some (r.gzipBuffer ++ codec.compressFrom file [chunk.bytes]) }], ?_, ?_, rfl⟩
          · rw [List.map_cons, respond_cons (send_compressed hstarted hcompress hchunk)]
            rfl
          · simp [bodyBytes, BodyMessage.bytes]
      | cons second rest =>
          obtain ⟨hmore, hrest⟩ := hchunks.cons_cons
          have hchunk := compressChunk_more hfile chunk.bytes
          rw [← hmore] at hchunk
          generalize hafter : ({ r with
            gzipBuffer := [], gzipFile := some (codec.write file chunk.bytes).1 } :
              Responder codec) = after at hchunk
          have hstarted' : after.started = true := hafter ▸ hstarted
          have hcompress' : after.shouldCompress = true := hafter ▸ hcompress
          have hfile' : after.gzipFile = some (codec.write file chunk.bytes).1 := hafter ▸ rfl
          have hbuffer : after.gzipBuffer = [] := hafter ▸ rfl
          obtain ⟨sent, hsent, hbytes, hflags⟩ := ih hstarted' hcompress' hfile' hrest
          refine ⟨{ chunk with
            body := some (r.gzipBuffer ++ (codec.write file chunk.bytes).2) } :: sent, ?_, ?_, ?_⟩
          · rw [List.map_cons, respond_cons (send_compressed hstarted hcompress hchunk), hsent]
            rfl
          · rw [bodyBytes, List.map_cons, List.flatten_cons, ← bodyBytes, hbytes, hbuffer]
            simp [BodyMessage.bytes, GzipCodec.compressFrom]
          · rw [List.map_cons, hflags]
            rfl

end Responder

/-! ### The response -/

section Response

variable (codec) (parseFloat : List Char → Option ℚ) (minimumSize : Nat)
  (acceptEncoding : Option String) (status : Nat) (headers : Headers)

/-- Whether the middleware compresses a response, from what it sees with the first chunk. -/
def isTransformed (first : BodyMessage) : Bool :=
  isVariableByEncoding status headers && acceptsGzip parseFloat (acceptEncoding.getD "") &&
    (decide (minimumSize ≤ first.bytes.length) || first.more)

/-- The headers of a response that is not compressed. -/
def varyHeaders : Headers :=
  if isVariableByEncoding status headers then headers.addVaryHeader "Accept-Encoding" else headers

/-- The responder once the start message of a response is in. -/
def startedResponder : Responder codec :=
  { Responder.new codec minimumSize (acceptsGzip parseFloat (acceptEncoding.getD "")) with
    initialMessage := some ⟨status, some headers⟩
    isVariable := isVariableByEncoding status headers
    shouldCompress := isVariableByEncoding status headers &&
      acceptsGzip parseFloat (acceptEncoding.getD "") }

theorem selectiveGzip_eq (messages : List Message) :
    selectiveGzip codec parseFloat minimumSize acceptEncoding
        (.start ⟨status, some headers⟩ :: messages) =
      (startedResponder codec parseFloat minimumSize acceptEncoding status headers).respond
        messages := by
  have hsend : (Responder.new codec minimumSize
      (acceptsGzip parseFloat (acceptEncoding.getD ""))).sendWithCompression
      (.start ⟨status, some headers⟩) =
        some (startedResponder codec parseFloat minimumSize acceptEncoding status headers, []) :=
    rfl
  rw [selectiveGzip, Responder.respond_cons hsend]
  simp

/-- A response that cannot be compressed is sent as it comes, whatever its chunks are. -/
theorem respond_not_compressed (chunks : List BodyMessage) (hchunks : chunks ≠ [])
    (hcompress : (isVariableByEncoding status headers &&
      acceptsGzip parseFloat (acceptEncoding.getD "")) = false) :
    selectiveGzip codec parseFloat minimumSize acceptEncoding
        (.start ⟨status, some headers⟩ :: chunks.map Message.body) =
      some (.start ⟨status, some (varyHeaders status headers)⟩ :: chunks.map Message.body) := by
  obtain ⟨first, rest, rfl⟩ := List.exists_cons_of_ne_nil hchunks
  have hsend := Responder.send_first_forwarded
    (r := startedResponder codec parseFloat minimumSize acceptEncoding status headers) rfl rfl
    hcompress first
  rw [selectiveGzip_eq, List.map_cons, Responder.respond_cons hsend,
    Responder.respond_forwarded _ rfl hcompress]
  rfl

theorem respond_too_small {first : BodyMessage} {rest : List BodyMessage}
    (hchunks : Complete (first :: rest))
    (htransformed : isTransformed parseFloat minimumSize acceptEncoding status headers first =
      false) :
    selectiveGzip codec parseFloat minimumSize acceptEncoding
        (.start ⟨status, some headers⟩ :: (first :: rest).map Message.body) =
      some (.start ⟨status, some (varyHeaders status headers)⟩ ::
        (first :: rest).map Message.body) := by
  by_cases hcompress : (isVariableByEncoding status headers &&
      acceptsGzip parseFloat (acceptEncoding.getD "")) = true
  · rw [isTransformed, hcompress, Bool.true_and, Bool.or_eq_false_iff,
      decide_eq_false_iff_not] at htransformed
    have hrest : rest = [] := by
      cases rest with
      | nil => rfl
      | cons second rest =>
          have hmore := hchunks.cons_cons.1
          rw [htransformed.2] at hmore
          exact absurd hmore Bool.false_ne_true
    subst hrest
    have hsmall : ¬(minimumSize ≤ first.bytes.length ∨ first.more = true) := by
      rw [htransformed.2]
      simpa using htransformed.1
    have hsend := Responder.send_first_small
      (r := startedResponder codec parseFloat minimumSize acceptEncoding status headers) rfl rfl
      hcompress hsmall
    rw [selectiveGzip_eq, List.map_singleton, Responder.respond_cons hsend]
    rfl
  · exact respond_not_compressed codec parseFloat minimumSize acceptEncoding status headers
      (first :: rest) (List.cons_ne_nil first rest) (Bool.eq_false_iff.mpr hcompress)

theorem mem_sentHeaders {header : String × String} (hne : header.1 ≠ "vary")
    (r : Responder codec) (headers : Headers) :
    header ∈ r.sentHeaders headers ↔ header ∈ headers := by
  rw [Responder.sentHeaders]
  split
  · exact Headers.mem_addVaryHeader hne
  · rfl

theorem encoding_compressedHeaders (more : Bool) (length : Nat) (r : Responder codec) :
    (r.sentHeaders (Responder.compressedHeaders headers more length)).get "content-encoding" =
        some "gzip" ∧
      ∀ value, ("content-encoding", value) ∈
        r.sentHeaders (Responder.compressedHeaders headers more length) → value = "gzip" := by
  constructor
  · have hvary : ∀ headers : Headers, (r.sentHeaders headers).get "content-encoding" =
        headers.get "content-encoding" := by
      intro headers
      rw [Responder.sentHeaders]
      split
      · exact Headers.get_addVaryHeader headers _ (by decide)
      · rfl
    rw [hvary, Responder.compressedHeaders]
    split
    · simp [Headers.get_delete, Headers.get_set]
    · simp [Headers.get_delete, Headers.get_set]
  · intro value hvalue
    have hset : ∀ headers : Headers,
        ("content-encoding", value) ∈ (headers.set "content-encoding" "gzip").delete
          "accept-ranges" → value = "gzip" := by
      intro headers hmem
      rcases Headers.mem_set (Headers.mem_delete.mp hmem).1 with heq | ⟨-, hne⟩
      · exact congrArg Prod.snd heq
      · exact absurd rfl hne
    rw [mem_sentHeaders codec (by simp), Responder.compressedHeaders] at hvalue
    split at hvalue
    · exact hset _ (Headers.mem_delete.mp hvalue).1
    · rcases Headers.mem_set hvalue with heq | ⟨hmem, -⟩
      · simp at heq
      · exact hset _ hmem

/-- A compressed response that goes on declares no length, and any other its own. -/
theorem length_compressedHeaders {more : Bool} {length : Nat} {r : Responder codec}
    {value : String} (hvalue : ("content-length", value) ∈
      r.sentHeaders (Responder.compressedHeaders headers more length)) :
    more = false ∧ value = toString length := by
  rw [mem_sentHeaders codec (by simp), Responder.compressedHeaders] at hvalue
  split at hvalue
  · exact absurd rfl (Headers.mem_delete.mp hvalue).2
  · rename_i hmore
    rcases Headers.mem_set hvalue with heq | ⟨-, hne⟩
    · exact ⟨Bool.eq_false_iff.mpr hmore, congrArg Prod.snd heq⟩
    · exact absurd rfl hne

theorem respond_transformed {first : BodyMessage} {rest : List BodyMessage}
    (hchunks : Complete (first :: rest))
    (htransformed : isTransformed parseFloat minimumSize acceptEncoding status headers first =
      true) :
    ∃ headers' sent,
      selectiveGzip codec parseFloat minimumSize acceptEncoding
          (.start ⟨status, some headers⟩ :: (first :: rest).map Message.body) =
        some (.start ⟨status, some headers'⟩ :: sent.map Message.body) ∧
      sent.map BodyMessage.moreBody = (first :: rest).map BodyMessage.moreBody ∧
      bodyBytes sent = codec.opened.2 ++
        codec.compressFrom codec.opened.1 ((first :: rest).map BodyMessage.bytes) ∧
      headers'.get "content-encoding" = some "gzip" ∧
      (∀ value, ("content-encoding", value) ∈ headers' → value = "gzip") ∧
      ∀ length, ("content-length", length) ∈ headers' →
        length = toString (bodyBytes sent).length := by
  rw [isTransformed, Bool.and_eq_true, Bool.or_eq_true, decide_eq_true_eq] at htransformed
  obtain ⟨hcompress, hlarge⟩ := htransformed
  generalize hr : startedResponder codec parseFloat minimumSize acceptEncoding status headers = r
  have hcompress' : r.shouldCompress = true := hr ▸ hcompress
  have hstarted : r.started = false := hr ▸ rfl
  have hlarge' : r.minimumSize ≤ first.bytes.length ∨ first.more = true := hr ▸ hlarge
  have hinitial : r.initialMessage = some ⟨status, some headers⟩ := hr ▸ rfl
  have hfile : r.start.gzipFile = some codec.opened.1 := hr ▸ rfl
  have hbuffer : r.start.gzipBuffer = codec.opened.2 := hr ▸ rfl
  rw [selectiveGzip_eq, hr, List.map_cons]
  cases rest with
  | nil =>
      have hmore := hchunks.singleton
      have hchunk := Responder.compressChunk_last hfile first.bytes
      rw [← hmore, hbuffer] at hchunk
      obtain ⟨headers', hsend, hheaders⟩ := Responder.send_first_compressed hstarted hcompress'
        hlarge' hchunk hinitial
      have hencoding := encoding_compressedHeaders codec headers first.more
        (codec.opened.2 ++ codec.compressFrom codec.opened.1 [first.bytes]).length
        { r.start with gzipBuffer := [], gzipFile := none }
      rw [← hheaders] at hencoding
      refine ⟨headers', [{ first with
        body := some (codec.opened.2 ++ codec.compressFrom codec.opened.1 [first.bytes]) }], ?_,
        rfl, ?_, hencoding.1, hencoding.2, ?_⟩
      · rw [Responder.respond_cons hsend]
        rfl
      · simp [bodyBytes, BodyMessage.bytes]
      · intro length hlength
        rw [hheaders] at hlength
        rw [(length_compressedHeaders codec headers hlength).2]
        simp [bodyBytes, BodyMessage.bytes]
  | cons second rest =>
      obtain ⟨hmore, hrest⟩ := hchunks.cons_cons
      have hchunk := Responder.compressChunk_more hfile first.bytes
      rw [← hmore, hbuffer] at hchunk
      obtain ⟨headers', hsend, hheaders⟩ := Responder.send_first_compressed hstarted hcompress'
        hlarge' hchunk hinitial
      have hencoding := encoding_compressedHeaders codec headers first.more
        (codec.opened.2 ++ (codec.write codec.opened.1 first.bytes).2).length
        { r.start with
          gzipBuffer := [], gzipFile := some (codec.write codec.opened.1 first.bytes).1 }
      rw [← hheaders] at hencoding
      generalize hafter : (({ r.start with
        gzipBuffer := [], gzipFile := some (codec.write codec.opened.1 first.bytes).1 } :
          Responder codec).sent status headers') = after at hsend
      have hstarted' : after.started = true := hafter ▸ rfl
      have hcompressed : after.shouldCompress = true := hafter ▸ hcompress'
      have hopen : after.gzipFile = some (codec.write codec.opened.1 first.bytes).1 := hafter ▸ rfl
      have hempty : after.gzipBuffer = [] := hafter ▸ rfl
      obtain ⟨sent, hsent, hbytes, hflags⟩ :=
        Responder.respond_compressed hstarted' hcompressed hopen hrest
      refine ⟨headers', { first with
        body := some (codec.opened.2 ++ (codec.write codec.opened.1 first.bytes).2) } :: sent, ?_,
        ?_, ?_, hencoding.1, hencoding.2, ?_⟩
      · rw [Responder.respond_cons hsend, hsent]
        rfl
      · rw [List.map_cons, hflags]
        rfl
      · rw [bodyBytes, List.map_cons, List.flatten_cons, ← bodyBytes, hbytes, hempty]
        simp [BodyMessage.bytes, GzipCodec.compressFrom]
      · intro length hlength
        rw [hheaders] at hlength
        exact absurd (hmore.symm.trans (length_compressedHeaders codec headers hlength).1) (by simp)

theorem delete_varyHeaders :
    (varyHeaders status headers).delete "vary" = headers.delete "vary" := by
  rw [varyHeaders]
  split
  · exact Headers.delete_addVaryHeader headers _
  · rfl

theorem isVariableByEncoding_eq_false
    (hpass : status ≠ httpOk ∨ headers.contains "content-encoding" = true ∨
      headers.contains "content-range" = true ∨
      startsWith ((headers.get "content-type").getD "") "text/event-stream" = true) :
    isVariableByEncoding status headers = false := by
  rw [isVariableByEncoding]
  rcases hpass with hstatus | hencoding | hrange | hevents
  · rw [if_pos hstatus]
  · simp [hencoding]
  · simp [hrange]
  · simp [isCompressibleContentType, neverCompressContentTypePrefixes, hevents]

/-- A whole response that is compressed reads back as the response of the application, with
its encoding declared and any length that of the bytes sent. One that cannot be compressed,
whole or not, or that is whole and too small keeps its chunks and every header but `Vary`,
and what must not be touched is sent as it came. -/
theorem selectiveGzip_transparent (hcodec : codec.Correct) (first : BodyMessage)
    (rest : List BodyMessage) :
    (Complete (first :: rest) →
      isTransformed parseFloat minimumSize acceptEncoding status headers first = true →
      headers.contains "content-encoding" = false ∧
      ∃ headers' sent,
        selectiveGzip codec parseFloat minimumSize acceptEncoding
            (.start ⟨status, some headers⟩ :: (first :: rest).map Message.body) =
          some (.start ⟨status, some headers'⟩ :: sent.map Message.body) ∧
        sent.map BodyMessage.moreBody = (first :: rest).map BodyMessage.moreBody ∧
        headers'.get "content-encoding" = some "gzip" ∧
        (∀ value, ("content-encoding", value) ∈ headers' → value = "gzip") ∧
        codec.decode (bodyBytes sent) = some (bodyBytes (first :: rest)) ∧
        ∀ length, ("content-length", length) ∈ headers' →
          length = toString (bodyBytes sent).length) ∧
    (Complete (first :: rest) ∨ isVariableByEncoding status headers = false ∨
        acceptsGzip parseFloat (acceptEncoding.getD "") = false →
      isTransformed parseFloat minimumSize acceptEncoding status headers first = false →
      ∃ headers', headers'.delete "vary" = headers.delete "vary" ∧
        selectiveGzip codec parseFloat minimumSize acceptEncoding
            (.start ⟨status, some headers⟩ :: (first :: rest).map Message.body) =
          some (.start ⟨status, some headers'⟩ :: (first :: rest).map Message.body)) ∧
    (status ≠ httpOk ∨ headers.contains "content-encoding" = true ∨
        headers.contains "content-range" = true ∨
        startsWith ((headers.get "content-type").getD "") "text/event-stream" = true →
      selectiveGzip codec parseFloat minimumSize acceptEncoding
          (.start ⟨status, some headers⟩ :: (first :: rest).map Message.body) =
        some (.start ⟨status, some headers⟩ :: (first :: rest).map Message.body)) := by
  refine ⟨?_, ?_, ?_⟩
  · intro hchunks htransformed
    obtain ⟨headers', sent, hsent, hflags, hbytes, hencoding, hgzip, hlength⟩ :=
      respond_transformed codec parseFloat minimumSize acceptEncoding status headers hchunks
        htransformed
    have hvariable : isVariableByEncoding status headers = true := by
      rw [isTransformed, Bool.and_eq_true, Bool.and_eq_true] at htransformed
      exact htransformed.1.1
    refine ⟨?_, headers', sent, hsent, hflags, hencoding, hgzip, ?_, hlength⟩
    · by_contra hcontains
      rw [isVariableByEncoding_eq_false status headers
        (.inr (.inl ((Bool.not_eq_false _).mp hcontains)))] at hvariable
      exact Bool.false_ne_true hvariable
    · rw [hbytes, bodyBytes]
      exact hcodec _
  · intro hwhole htransformed
    refine ⟨varyHeaders status headers, delete_varyHeaders status headers, ?_⟩
    rcases hwhole with hchunks | hplain
    · exact respond_too_small codec parseFloat minimumSize acceptEncoding status headers hchunks
        htransformed
    · exact respond_not_compressed codec parseFloat minimumSize acceptEncoding status headers
        (first :: rest) (List.cons_ne_nil first rest) (Bool.and_eq_false_iff.mpr hplain)
  · intro hpass
    have hvariable := isVariableByEncoding_eq_false status headers hpass
    have hsend := respond_not_compressed codec parseFloat minimumSize acceptEncoding status headers
      (first :: rest) (List.cons_ne_nil first rest) (by rw [hvariable, Bool.false_and])
    rwa [varyHeaders, hvariable, if_neg Bool.false_ne_true] at hsend

end Response

/-- A codec that puts one byte before what it is given and one after it. -/
def framingCodec : GzipCodec where
  State := Unit
  opened := ((), [0x1F])
  write _ bytes := ((), bytes)
  close _ := [0x8B]
  decode bytes := some (bytes.drop 1).dropLast

theorem framingCodec_correct : framingCodec.Correct := by
  have hcompress : ∀ (chunks : List (List UInt8)),
      framingCodec.compressFrom () chunks = chunks.flatten ++ [0x8B] := by
    intro chunks
    induction chunks with
    | nil => rfl
    | cons chunk rest ih =>
        show chunk ++ framingCodec.compressFrom () rest = _
        rw [ih, List.flatten_cons, List.append_assoc]
  intro chunks
  show some (((0x1F : UInt8) :: framingCodec.compressFrom () chunks).drop 1).dropLast = _
  rw [hcompress, List.drop_one, List.tail_cons, List.dropLast_concat]

/-- Only the type of the content and its declared length. -/
def jsonHeaders (length : String) : Headers :=
  [("content-type", "application/json"), ("content-length", length)]

/-- The two halves of a page, sent one after the other. -/
def page : List BodyMessage :=
  [⟨some [0x7B], some true⟩, ⟨some [0x7D], none⟩]

/-- A streamed page is compressed for a client that takes gzip, kept for one that does not,
and not touched when its status is not 200. -/
theorem selectiveGzip_transparent_page :
    (∃ headers' sent,
      selectiveGzip framingCodec (fun _ => none) 500 (some "gzip")
          (.start ⟨200, some (jsonHeaders "2")⟩ :: page.map Message.body) =
        some (.start ⟨200, some headers'⟩ :: sent.map Message.body) ∧
      headers'.get "content-encoding" = some "gzip" ∧
      framingCodec.decode (bodyBytes sent) = some [0x7B, 0x7D]) ∧
    (∃ headers', Headers.delete headers' "vary" = jsonHeaders "2" ∧
      selectiveGzip framingCodec (fun _ => none) 500 none
          (.start ⟨200, some (jsonHeaders "2")⟩ :: page.map Message.body) =
        some (.start ⟨200, some headers'⟩ :: page.map Message.body)) ∧
    selectiveGzip framingCodec (fun _ => none) 500 (some "gzip")
        (.start ⟨404, some (jsonHeaders "2")⟩ :: page.map Message.body) =
      some (.start ⟨404, some (jsonHeaders "2")⟩ :: page.map Message.body) := by
  have hpage : Complete page := by
    refine ⟨[⟨some [0x7B], some true⟩], ⟨some [0x7D], none⟩, rfl, ?_, rfl⟩
    intro chunk hchunk
    rw [List.mem_singleton.mp hchunk]
    rfl
  have hsent := fun acceptEncoding status => selectiveGzip_transparent framingCodec
    (fun _ => none) 500 acceptEncoding status (jsonHeaders "2") framingCodec_correct
    ⟨some [0x7B], some true⟩ [⟨some [0x7D], none⟩]
  obtain ⟨-, headers', sent, hcompressed, -, hencoding, -, hdecoded, -⟩ :=
    (hsent (some "gzip") 200).1 hpage (by decide +kernel)
  refine ⟨⟨headers', sent, hcompressed, hencoding, hdecoded⟩, ?_,
    (hsent (some "gzip") 404).2.2 (.inl (by decide))⟩
  exact (hsent none 200).2.1 (.inr (.inr (by decide +kernel))) (by decide +kernel)

/-- The answer to a `HEAD` request declares a length of bytes that it does not send, and
of a response that breaks off the codec has not written all. -/
theorem selectiveGzip_head_and_broken_off :
    selectiveGzip framingCodec (fun _ => none) 500 (some "gzip")
        [.start ⟨200, some (jsonHeaders "5")⟩, .body ⟨some [], none⟩] =
      some [.start ⟨200, some (jsonHeaders "5" ++ [("vary", "Accept-Encoding")])⟩,
        .body ⟨some [], none⟩] ∧
    selectiveGzip framingCodec (fun _ => none) 500 (some "gzip")
        [.start ⟨200, some (jsonHeaders "5")⟩, .body ⟨some [0x7B], some true⟩] =
      some [.start ⟨200, some [("content-type", "application/json"),
          ("content-encoding", "gzip"), ("vary", "Accept-Encoding")]⟩,
        .body ⟨some [0x1F, 0x7B], some true⟩] ∧
    framingCodec.decode [0x1F, 0x7B] ≠ some [0x7B] := by
  decide +kernel

end Songmaker.Middleware
