import Songmaker.Player.TakeDownload

namespace Songmaker.Player.TakeDownload

open Songmaker.Foundation

theorem joinFrom_eq {whole : List UInt8} {pieces : List (List UInt8)} (done : List UInt8)
    (room : Nat) (hwhole : whole = done ++ List.replicate room 0)
    (hroom : pieces.flatten.length = room) :
    joinFrom whole done.length pieces = done ++ pieces.flatten := by
  induction pieces generalizing whole done room with
  | nil =>
      have hnone : room = 0 := by simpa using hroom.symm
      rw [joinFrom, hwhole, hnone]
      rfl
  | cons piece pieces ih =>
      rw [List.flatten_cons, List.length_append] at hroom
      have hset : setAt whole piece done.length =
          (done ++ piece) ++ List.replicate (room - piece.length) 0 := by
        rw [setAt, hwhole, List.take_left', List.drop_append, List.drop_replicate]
        · simp
        · rfl
      rw [joinFrom, ← List.length_append,
        ih (done ++ piece) (room - piece.length) hset (by omega), List.flatten_cons,
        List.append_assoc]

theorem joined_eq_flatten {pieces : List (List UInt8)} {totalBytes : Nat}
    (htotal : totalBytes = pieces.flatten.length) :
    joined pieces totalBytes = pieces.flatten := by
  exact joinFrom_eq [] totalBytes rfl htotal.symm

/-- The byte that a response begins at. -/
def startOf (response : Response) : Option Nat :=
  if response.status = 200 then some 0
  else if response.status = 206 then response.contentRange.bind answeredFrom
  else none

theorem startOf_of_refusalOf {response : Response} {fromByte : Nat}
    (h : refusalOf response fromByte = none) :
    startOf response = some fromByte ∧
      (response.status = 200 ∧ fromByte = 0 ∨ response.status = 206) := by
  unfold refusalOf at h
  dsimp only at h
  unfold startOf
  rcases Nat.eq_zero_or_pos fromByte with rfl | hresuming
  · simp only [Nat.lt_irrefl, false_and, if_false] at h
    have hstatus : response.status = 200 := by
      by_contra hother
      rw [if_pos hother] at h
      exact absurd h (Option.some_ne_none _)
    rw [if_pos hstatus]
    exact ⟨rfl, Or.inl ⟨hstatus, rfl⟩⟩
  · simp only [hresuming, true_and, if_true, not_true_eq_false, if_false] at h
    split_ifs at h with hignored hstatus
    have hpartial : response.status = 206 := not_not.mp hstatus
    rw [if_neg hignored, if_pos hpartial]
    cases hrange : response.contentRange with
    | none =>
        rw [hrange] at h
        exact absurd h (Option.some_ne_none _)
    | some contentRange =>
        rw [hrange] at h
        dsimp only at h
        split_ifs at h with hstart
        exact ⟨hstart, Or.inr hpartial⟩

theorem request_ok {url : String} {fromByte : Nat} {response : Response}
    {cancelFailure : Option String} {body : List UInt8}
    (h : request url fromByte response cancelFailure = .ok body) :
    refusalOf response fromByte = none ∧ response.body = some body := by
  unfold request at h
  cases hrefusal : refusalOf response fromByte with
  | some refusal =>
      rw [hrefusal] at h
      exact absurd h (by simp)
  | none =>
      rw [hrefusal] at h
      cases hbody : response.body with
      | none =>
          rw [hbody] at h
          exact absurd h (by simp)
      | some found =>
          rw [hbody] at h
          exact ⟨rfl, congrArg some (Except.ok.inj h)⟩

theorem body_of_request {url : String} {file : List UInt8} {fromByte : Nat}
    {response : Response} {cancelFailure : Option String} {body : List UInt8}
    (hhonest : Honest file response)
    (h : request url fromByte response cancelFailure = .ok body) :
    body <+: file.drop fromByte := by
  obtain ⟨hrefusal, hbody⟩ := request_ok h
  obtain ⟨hstart, hstatus⟩ := startOf_of_refusalOf hrefusal
  obtain ⟨hwhole, hpart⟩ := hhonest body hbody
  rcases hstatus with ⟨hstatus, rfl⟩ | hstatus
  · rw [hwhole hstatus]
    exact List.prefix_rfl
  · have hother : response.status ≠ 200 := by omega
    rw [startOf, if_neg hother, if_pos hstatus] at hstart
    obtain ⟨contentRange, hrange, hfrom⟩ := Option.bind_eq_some_iff.mp hstart
    obtain ⟨start, hread, rfl⟩ := Option.map_eq_some_iff.mp hfrom
    exact (hpart hstatus contentRange hrange start hread).1

/-- The answers to Range requests carry the file to its last byte. -/
def RunsToEnd (file : List UInt8) : Delivery → Action → Prop
  | _, .answers response _ => response.status = 206 →
      ∀ body ∈ response.body, ∀ contentRange ∈ response.contentRange,
        ∀ start ∈ answeredFrom contentRange, file.length ≤ start + body.length
  | _, _ => True

theorem wholeBody_of_request {url : String} {file : List UInt8} {delivery : Delivery}
    {response : Response} {cancelFailure : Option String} {body : List UInt8}
    (hhonest : Honest file response)
    (hruns : RunsToEnd file delivery (.answers response cancelFailure))
    (h : request url delivery.received response cancelFailure = .ok body) :
    file.length ≤ delivery.received + body.length := by
  obtain ⟨hrefusal, hbody⟩ := request_ok h
  obtain ⟨hstart, hstatus⟩ := startOf_of_refusalOf hrefusal
  rcases hstatus with ⟨hstatus, hfirst⟩ | hstatus
  · rw [(hhonest body hbody).1 hstatus]
    exact Nat.le_add_left _ _
  · have hother : response.status ≠ 200 := by omega
    rw [startOf, if_neg hother, if_pos hstatus] at hstart
    obtain ⟨contentRange, hrange, hfrom⟩ := Option.bind_eq_some_iff.mp hstart
    exact hruns hstatus body hbody contentRange hrange _ hfrom

/-- The chunk that a stage is appending; a failed one has given its chunk up. -/
def Stage.inHand : Stage → Option (List UInt8)
  | .pulling | .done => some []
  | .makingRoom chunk | .evicting chunk | .appending chunk => some chunk
  | .freeing chunk | .appendingAgain chunk => some chunk
  | .failed _ => none

/-- What was appended, is in hand and is gathered is what was received. -/
structure Balanced (file : List UInt8) (delivery : Delivery) (chunk : List UInt8) : Prop where
  received : delivery.received ≤ file.length
  counted : delivery.gatheredBytes = delivery.gathered.flatten.length
  bytes : delivery.appended ++ chunk ++ delivery.gathered.flatten =
    file.take delivery.received
  rest : ∀ rest, delivery.source = .reading rest → rest <+: file.drop delivery.received

/-- What was appended is the start of the file, and what is in hand comes next. -/
structure InOrder (file : List UInt8) (delivery : Delivery) : Prop where
  appended : delivery.appended <+: file
  balanced : ∀ chunk ∈ delivery.stage.inHand, Balanced file delivery chunk
  done : delivery.stage = .done → delivery.source = .returned ∧ delivery.gatheredBytes = 0

variable {url : String} {file chunk : List UInt8} {delivery : Delivery}

theorem Balanced.appended_first (h : Balanced file delivery chunk) :
    delivery.appended ++ chunk <+: file := by
  have htake : delivery.appended ++ chunk <+: file.take delivery.received :=
    ⟨delivery.gathered.flatten, h.bytes⟩
  exact htake.trans (List.take_prefix _ _)

theorem Balanced.inOrder (h : Balanced file delivery chunk)
    (hstage : delivery.stage.inHand = some chunk)
    (hdone : delivery.stage = .done →
      delivery.source = .returned ∧ delivery.gatheredBytes = 0) :
    InOrder file delivery where
  appended := (List.prefix_append _ chunk).trans h.appended_first
  balanced := by
    intro other hother
    rw [hstage] at hother
    rwa [← Option.some.inj hother]
  done := hdone

theorem inOrder_fail (happended : delivery.appended <+: file) (failure : Failure) :
    InOrder file (delivery.fail failure) where
  appended := happended
  balanced := fun chunk hchunk => absurd hchunk.symm (Option.some_ne_none chunk)
  done := fun hdone => absurd hdone (by simp [Delivery.fail])

theorem Balanced.goTo (h : Balanced file delivery chunk) (stage : Stage) :
    Balanced file { delivery with stage := stage } chunk :=
  ⟨h.received, h.counted, h.bytes, h.rest⟩

theorem Balanced.yieldGathered (h : Balanced file delivery []) :
    InOrder file delivery.yieldGathered := by
  have hjoined : joined delivery.gathered delivery.gatheredBytes = delivery.gathered.flatten :=
    joined_eq_flatten h.counted
  have hbytes := h.bytes
  rw [List.append_nil] at hbytes
  refine Balanced.inOrder
    (⟨h.received, rfl, ?_, h.rest⟩ :
      Balanced file delivery.yieldGathered delivery.gathered.flatten) ?_ ?_
  · rw [Delivery.yieldGathered, List.flatten_nil, List.append_nil]
    exact hbytes
  · exact congrArg some hjoined
  · intro hdone
    exact absurd hdone (by simp [Delivery.yieldGathered])

theorem Balanced.pull (h : Balanced file delivery []) : InOrder file delivery.pull := by
  unfold Delivery.pull
  split
  next hsource =>
    split_ifs with hgathered
    · exact h.yieldGathered
    · exact (h.goTo .done).inOrder rfl fun _ =>
        ⟨hsource, Nat.eq_zero_of_not_pos hgathered⟩
  next => exact (h.goTo .pulling).inOrder rfl fun hdone => absurd hdone (by simp)

theorem Balanced.took (h : Balanced file delivery chunk) :
    Balanced file (delivery.took chunk) [] where
  received := h.received
  counted := h.counted
  bytes := by
    rw [List.append_nil]
    exact h.bytes
  rest := h.rest

theorem Balanced.update (h : Balanced file delivery chunk) {stage : Stage}
    (hstage : stage.inHand = some chunk) (hdone : stage ≠ .done) :
    InOrder file (delivery.update stage) := by
  unfold Delivery.update
  split_ifs with hclosed
  · exact inOrder_fail ((List.prefix_append _ chunk).trans h.appended_first) .abandoned
  · exact (h.goTo stage).inOrder hstage fun hstop => absurd hstop hdone

theorem InOrder.attemptFailed (h : InOrder file delivery) (hstage : delivery.stage = .pulling) :
    InOrder file delivery.attemptFailed := by
  have hbalanced := h.balanced [] (by rw [hstage]; rfl)
  unfold Delivery.attemptFailed
  by_cases haborted : delivery.wantedAborted
  · rw [if_pos haborted]
    exact inOrder_fail h.appended .abandoned
  · rw [if_neg haborted]
    refine Balanced.inOrder (?_ : Balanced file _ []) (by rw [hstage]; rfl) ?_
    · refine ⟨hbalanced.received, hbalanced.counted, hbalanced.bytes, ?_⟩
      intro rest hrest
      dsimp only at hrest
      split_ifs at hrest
    · intro hdone
      exact absurd (hstage.symm.trans hdone) (by simp)

theorem InOrder.answered (h : InOrder file delivery) (hstage : delivery.stage = .pulling)
    {response : Response} (hhonest : Honest file response) (cancelFailure : Option String) :
    InOrder file (delivery.answered url response cancelFailure) := by
  have hbalanced := h.balanced [] (by rw [hstage]; rfl)
  unfold Delivery.answered
  split
  next => exact inOrder_fail h.appended _
  next body hbody =>
    refine Balanced.inOrder (?_ : Balanced file _ []) (by rw [hstage]; rfl) ?_
    · refine ⟨hbalanced.received, hbalanced.counted, hbalanced.bytes, ?_⟩
      intro rest hrest
      rw [← Source.reading.inj hrest]
      exact body_of_request hhonest hbody
    · intro hdone
      exact absurd (hstage.symm.trans hdone) (by simp)

theorem Balanced.nextPiece (h : Balanced file delivery []) {rest : List UInt8}
    (hsource : delivery.source = .reading rest) {bytes : Nat} (hbytes : bytes ≤ rest.length) :
    Balanced file { delivery with
      received := delivery.received + (rest.take bytes).length
      source := .reading (rest.drop bytes)
      gathered := delivery.gathered ++ [rest.take bytes]
      gatheredBytes := delivery.gatheredBytes + (rest.take bytes).length } [] := by
  obtain ⟨beyond, hbeyond⟩ := h.rest rest hsource
  have hlength : (rest.take bytes).length = bytes := by
    rw [List.length_take, Nat.min_eq_left hbytes]
  have hdropped : (file.drop delivery.received).length = rest.length + beyond.length := by
    rw [← hbeyond, List.length_append]
  rw [List.length_drop] at hdropped
  constructor
  · have := h.received
    dsimp only
    omega
  · dsimp only
    rw [List.flatten_append, List.length_append, h.counted]
    simp
  · dsimp only
    rw [hlength, List.take_add, ← h.bytes, ← hbeyond, List.take_append_of_le_length hbytes]
    simp
  · intro other hother
    rw [← Source.reading.inj hother, hlength, ← List.drop_drop, ← hbeyond,
      List.drop_append_of_le_length hbytes]
    exact List.prefix_append _ _

theorem InOrder.pieceReceived (h : InOrder file delivery) (hstage : delivery.stage = .pulling)
    {rest : List UInt8} (hsource : delivery.source = .reading rest) {bytes : Nat}
    (hbytes : bytes ≤ rest.length) (runningLow : Bool) :
    InOrder file (delivery.pieceReceived (rest.take bytes) (rest.drop bytes) runningLow) := by
  have hbalanced := h.balanced [] (by rw [hstage]; rfl)
  have hnext := hbalanced.nextPiece hsource hbytes
  unfold Delivery.pieceReceived
  dsimp only
  split_ifs
  · exact hnext.yieldGathered
  · refine hnext.inOrder (by rw [hstage]; rfl) ?_
    intro hdone
    exact absurd (hstage.symm.trans hdone) (by simp)

theorem InOrder.bodyEnds (h : InOrder file delivery) (hstage : delivery.stage = .pulling) :
    InOrder file { delivery with source := .returned }.pull := by
  have hbalanced := h.balanced [] (by rw [hstage]; rfl)
  refine Balanced.pull ⟨hbalanced.received, hbalanced.counted, hbalanced.bytes, ?_⟩
  intro rest hrest
  exact absurd hrest (by simp)

theorem InOrder.flagged (h : InOrder file delivery) (retried closed withdrawn : Bool) :
    InOrder file { delivery with
      retried := retried, closed := closed, withdrawn := withdrawn } where
  appended := h.appended
  balanced := by
    intro chunk hchunk
    have hbalanced := h.balanced chunk hchunk
    exact ⟨hbalanced.received, hbalanced.counted, hbalanced.bytes, hbalanced.rest⟩
  done := h.done

theorem InOrder.retryDownload (h : InOrder file delivery) :
    InOrder file delivery.retryDownload := by
  unfold Delivery.retryDownload
  split
  next => exact h.flagged true delivery.closed delivery.withdrawn
  next => exact h.flagged true delivery.closed delivery.withdrawn
  next =>
    split
    next hstage =>
      have hbalanced := h.balanced [] (by rw [hstage]; rfl)
      refine Balanced.inOrder (?_ : Balanced file _ []) (by rw [hstage]; rfl) ?_
      · exact ⟨hbalanced.received, hbalanced.counted, hbalanced.bytes,
          fun rest hrest => absurd hrest (by simp)⟩
      · intro hdone
        exact absurd (hstage.symm.trans hdone) (by simp)
    next => exact h
  next => exact h

theorem InOrder.failWith (h : InOrder file delivery) {taken : List UInt8}
    (htaken : taken <+: chunk) (hstage : delivery.stage.inHand = some chunk)
    (failure : Failure) : InOrder file ((delivery.took taken).fail failure) := by
  have hfirst : delivery.appended ++ taken <+: delivery.appended ++ chunk :=
    (List.prefix_append_right_inj _).mpr htaken
  exact inOrder_fail (hfirst.trans (h.balanced chunk hstage).appended_first) failure

theorem InOrder.resume (h : InOrder file delivery) {action : Action} {delivery' : Delivery}
    {stage : Stage} {source : Source} (hstage : delivery.stage = stage)
    (hsource : delivery.source = source)
    (hact : TakeDownload.resume delivery stage source action = some delivery') :
    InOrder file delivery' := by
  unfold TakeDownload.resume at hact
  split at hact
  next =>
    rw [← Option.some.inj hact]
    exact h.attemptFailed hstage
  next rest bytes runningLow =>
    split_ifs at hact with hbytes
    rw [← Option.some.inj hact]
    exact h.pieceReceived hstage hsource hbytes runningLow
  next rest =>
    split_ifs at hact
    rw [← Option.some.inj hact]
    exact h.bodyEnds hstage
  next =>
    rw [← Option.some.inj hact]
    exact h.attemptFailed hstage
  next =>
    split_ifs at hact
    rw [← Option.some.inj hact]
    exact inOrder_fail h.appended .abandoned
  next =>
    split_ifs at hact
    rw [← Option.some.inj hact]
    exact inOrder_fail h.appended .abandoned
  next chunk evicts =>
    rw [← Option.some.inj hact]
    have hbalanced := h.balanced chunk (by rw [hstage]; rfl)
    cases evicts
    · exact hbalanced.update rfl (by simp)
    · exact hbalanced.update rfl (by simp)
  next chunk =>
    rw [← Option.some.inj hact]
    exact (h.balanced chunk (by rw [hstage]; rfl)).update rfl (by simp)
  next =>
    rw [← Option.some.inj hact]
    exact inOrder_fail h.appended .bufferFailed
  next chunk =>
    rw [← Option.some.inj hact]
    exact (h.balanced chunk (by rw [hstage]; rfl)).took.pull
  next chunk frees =>
    rw [← Option.some.inj hact]
    cases frees
    · exact inOrder_fail h.appended .bufferFailed
    · exact (h.balanced chunk (by rw [hstage]; rfl)).update rfl (by simp)
  next chunk taken =>
    rw [← Option.some.inj hact]
    exact h.failWith (List.take_prefix taken chunk) (by rw [hstage]; rfl) .bufferFailed
  next chunk =>
    rw [← Option.some.inj hact]
    exact (h.balanced chunk (by rw [hstage]; rfl)).update rfl (by simp)
  next =>
    rw [← Option.some.inj hact]
    exact inOrder_fail h.appended .bufferFailed
  next chunk =>
    rw [← Option.some.inj hact]
    exact (h.balanced chunk (by rw [hstage]; rfl)).took.pull
  next =>
    rw [← Option.some.inj hact]
    exact inOrder_fail h.appended .bufferFailed
  next chunk taken =>
    rw [← Option.some.inj hact]
    exact h.failWith (List.take_prefix taken chunk) (by rw [hstage]; rfl) .bufferFailed
  next => exact absurd hact.symm (Option.some_ne_none delivery')

theorem InOrder.act (h : InOrder file delivery) {action : Action} {delivery' : Delivery}
    (hact : TakeDownload.act url file delivery action = some delivery') :
    InOrder file delivery' := by
  unfold TakeDownload.act at hact
  split at hact
  next =>
    rw [← Option.some.inj hact]
    exact h.flagged delivery.retried true delivery.withdrawn
  next =>
    rw [← Option.some.inj hact]
    exact h.flagged delivery.retried delivery.closed true
  next =>
    rw [← Option.some.inj hact]
    exact h.retryDownload
  next response cancelFailure =>
    split_ifs at hact with hasked
    rw [← Option.some.inj hact]
    exact h.answered hasked.1 hasked.2.2 cancelFailure
  next => exact h.resume rfl rfl hact

/-- The body being read, or the file received, runs to the end. -/
structure Whole (file : List UInt8) (delivery : Delivery) : Prop where
  reading : ∀ rest, delivery.source = .reading rest →
    file.length ≤ delivery.received + rest.length
  returned : delivery.source = .returned → file.length ≤ delivery.received

theorem Whole.of_same (h : Whole file delivery) {delivery' : Delivery}
    (hsource : delivery'.source = delivery.source)
    (hreceived : delivery'.received = delivery.received) : Whole file delivery' := by
  constructor
  · rw [hsource, hreceived]
    exact h.reading
  · rw [hsource, hreceived]
    exact h.returned

theorem whole_of_idle (hsource : delivery.source = .requesting ∨ delivery.source = .parked) :
    Whole file delivery := by
  constructor
  · intro rest hrest
    rcases hsource with hsource | hsource
    · exact absurd (hsource.symm.trans hrest) (by simp)
    · exact absurd (hsource.symm.trans hrest) (by simp)
  · intro hreturned
    rcases hsource with hsource | hsource
    · exact absurd (hsource.symm.trans hreturned) (by simp)
    · exact absurd (hsource.symm.trans hreturned) (by simp)

theorem Whole.attemptFailed (h : Whole file delivery) : Whole file delivery.attemptFailed := by
  unfold Delivery.attemptFailed
  by_cases haborted : delivery.wantedAborted
  · rw [if_pos haborted]
    exact h.of_same rfl rfl
  · rw [if_neg haborted]
    apply whole_of_idle
    dsimp only
    split_ifs
    all_goals simp

theorem Whole.pull (h : Whole file delivery) : Whole file delivery.pull := by
  unfold Delivery.pull
  split
  next =>
    split_ifs
    · exact h.of_same rfl rfl
    · exact h.of_same rfl rfl
  next => exact h.of_same rfl rfl

theorem Whole.update (h : Whole file delivery) (stage : Stage) :
    Whole file (delivery.update stage) := by
  unfold Delivery.update
  split_ifs
  · exact h.of_same rfl rfl
  · exact h.of_same rfl rfl

theorem Whole.pieceReceived (h : Whole file delivery) {rest : List UInt8}
    (hsource : delivery.source = .reading rest) {bytes : Nat} (hbytes : bytes ≤ rest.length)
    (runningLow : Bool) :
    Whole file (delivery.pieceReceived (rest.take bytes) (rest.drop bytes) runningLow) := by
  have hrest := h.reading rest hsource
  have hnext : ∀ delivery' : Delivery, delivery'.source = .reading (rest.drop bytes) →
      delivery'.received = delivery.received + (rest.take bytes).length →
      Whole file delivery' := by
    intro delivery' hsource' hreceived
    constructor
    · intro other hother
      rw [← Source.reading.inj (hsource'.symm.trans hother), hreceived, List.length_take,
        List.length_drop]
      omega
    · intro hreturned
      exact absurd (hsource'.symm.trans hreturned) (by simp)
  unfold Delivery.pieceReceived
  dsimp only
  split_ifs
  · exact hnext _ rfl rfl
  · exact hnext _ rfl rfl

theorem Whole.bodyEnds (h : Whole file delivery) (hsource : delivery.source = .reading []) :
    Whole file { delivery with source := .returned }.pull := by
  have hrest := h.reading [] hsource
  apply Whole.pull
  constructor
  · intro rest hreading
    exact absurd hreading (by simp)
  · intro
    exact hrest

theorem Whole.retryDownload (h : Whole file delivery) : Whole file delivery.retryDownload := by
  unfold Delivery.retryDownload
  split
  next => exact h.of_same rfl rfl
  next => exact h.of_same rfl rfl
  next =>
    split
    next => exact whole_of_idle (Or.inl rfl)
    next => exact h
  next => exact h

theorem Whole.resume (h : Whole file delivery) {action : Action} {delivery' : Delivery}
    {stage : Stage} {source : Source} (hsource : delivery.source = source)
    (hact : TakeDownload.resume delivery stage source action = some delivery') :
    Whole file delivery' := by
  unfold TakeDownload.resume at hact
  split at hact
  next =>
    rw [← Option.some.inj hact]
    exact h.attemptFailed
  next rest bytes runningLow =>
    split_ifs at hact with hbytes
    rw [← Option.some.inj hact]
    exact h.pieceReceived hsource hbytes runningLow
  next rest =>
    split_ifs at hact with hend
    rw [← Option.some.inj hact]
    exact h.bodyEnds (hend ▸ hsource)
  next =>
    rw [← Option.some.inj hact]
    exact h.attemptFailed
  next =>
    split_ifs at hact
    rw [← Option.some.inj hact]
    exact h.of_same rfl rfl
  next =>
    split_ifs at hact
    rw [← Option.some.inj hact]
    exact h.of_same rfl rfl
  next =>
    rw [← Option.some.inj hact]
    exact h.update _
  next =>
    rw [← Option.some.inj hact]
    exact h.update _
  next =>
    rw [← Option.some.inj hact]
    exact h.of_same rfl rfl
  next =>
    rw [← Option.some.inj hact]
    exact Whole.pull (h.of_same rfl rfl)
  next chunk frees =>
    rw [← Option.some.inj hact]
    cases frees
    · exact h.of_same rfl rfl
    · exact h.update _
  next =>
    rw [← Option.some.inj hact]
    exact h.of_same rfl rfl
  next =>
    rw [← Option.some.inj hact]
    exact h.update _
  next =>
    rw [← Option.some.inj hact]
    exact h.of_same rfl rfl
  next =>
    rw [← Option.some.inj hact]
    exact Whole.pull (h.of_same rfl rfl)
  next =>
    rw [← Option.some.inj hact]
    exact h.of_same rfl rfl
  next =>
    rw [← Option.some.inj hact]
    exact h.of_same rfl rfl
  next => exact absurd hact.symm (Option.some_ne_none delivery')

theorem Whole.answered (h : Whole file delivery) {response : Response}
    {cancelFailure : Option String} (hhonest : Honest file response)
    (hruns : RunsToEnd file delivery (.answers response cancelFailure)) :
    Whole file (delivery.answered url response cancelFailure) := by
  unfold Delivery.answered
  split
  next => exact h.of_same rfl rfl
  next body hbody =>
    constructor
    · intro rest hrest
      rw [← Source.reading.inj hrest]
      exact wholeBody_of_request hhonest hruns hbody
    · intro hreturned
      exact absurd hreturned (by simp)

theorem Whole.act (h : Whole file delivery) {action : Action} {delivery' : Delivery}
    (hact : TakeDownload.act url file delivery action = some delivery')
    (hruns : RunsToEnd file delivery action) : Whole file delivery' := by
  unfold TakeDownload.act at hact
  split at hact
  next =>
    rw [← Option.some.inj hact]
    exact h.of_same rfl rfl
  next =>
    rw [← Option.some.inj hact]
    exact h.of_same rfl rfl
  next =>
    rw [← Option.some.inj hact]
    exact h.retryDownload
  next response cancelFailure =>
    split_ifs at hact with hasked
    rw [← Option.some.inj hact]
    exact h.answered hasked.2.2 hruns
  next => exact h.resume rfl hact

/-- An append that ended without an error has appended all of a file received whole. -/
theorem InOrder.whole_file (h : InOrder file delivery) (hwhole : Whole file delivery)
    (hdone : delivery.stage = .done) : delivery.appended = file := by
  obtain ⟨hreturned, hgathered⟩ := h.done hdone
  have hbalanced := h.balanced [] (by rw [hdone]; rfl)
  have hflat : delivery.gathered.flatten = [] :=
    List.length_eq_zero_iff.mp (hbalanced.counted.symm.trans hgathered)
  have hbytes := hbalanced.bytes
  rwa [hflat, List.append_nil, List.append_nil,
    List.take_of_length_le (hwhole.returned hreturned)] at hbytes

theorem act_failed {failure : Failure} (hstage : delivery.stage = .failed failure)
    {action : Action} {delivery' : Delivery}
    (hact : TakeDownload.act url file delivery action = some delivery') :
    delivery'.stage = .failed failure ∧ delivery'.appended = delivery.appended := by
  unfold TakeDownload.act at hact
  split at hact
  next =>
    rw [← Option.some.inj hact]
    exact ⟨hstage, rfl⟩
  next =>
    rw [← Option.some.inj hact]
    exact ⟨hstage, rfl⟩
  next =>
    rw [← Option.some.inj hact, Delivery.retryDownload]
    split
    next => exact ⟨hstage, rfl⟩
    next => exact ⟨hstage, rfl⟩
    next =>
      rw [hstage]
      exact ⟨hstage, rfl⟩
    next => exact ⟨hstage, rfl⟩
  next =>
    split_ifs at hact with hasked
    exact absurd (hstage.symm.trans hasked.1) (by simp)
  next =>
    rw [hstage] at hact
    unfold TakeDownload.resume at hact
    split at hact
    all_goals simp_all

theorem appended_of_reaches {failure : Failure} (hstage : delivery.stage = .failed failure)
    {delivery' : Delivery} (hreaches : (takeDownload url file).Reaches delivery delivery') :
    delivery'.stage = .failed failure ∧ delivery'.appended = delivery.appended := by
  induction hreaches with
  | refl => exact ⟨hstage, rfl⟩
  | tail _ hlast ih =>
      obtain ⟨action, hact⟩ := hlast
      obtain ⟨hfailed, hsame⟩ := act_failed ih.1 hact
      exact ⟨hfailed, hsame.trans ih.2⟩

theorem answered_elsewhere {response : Response} (cancelFailure : Option String)
    (helsewhere : startOf response ≠ some delivery.received) :
    ∃ failure, (delivery.answered url response cancelFailure).stage = .failed failure ∧
      (delivery.answered url response cancelFailure).appended = delivery.appended := by
  unfold Delivery.answered
  split
  next => exact ⟨_, rfl, rfl⟩
  next body hbody =>
    exact absurd (startOf_of_refusalOf (request_ok hbody).1).1 helsewhere

theorem inOrder_newDelivery (file : List UInt8) : InOrder file newDelivery := by
  have hbalanced : Balanced file newDelivery [] :=
    ⟨Nat.zero_le _, rfl, rfl, fun rest hrest => absurd hrest (by simp [newDelivery])⟩
  exact hbalanced.inOrder rfl fun hdone => absurd hdone (by simp [newDelivery])

theorem take_delivered_once (url : String) (file : List UInt8)
    {run : List (Action × Delivery)} (hrun : (takeDownload url file).IsRun newDelivery run) :
    (∀ delivery ∈ TransitionSystem.visited newDelivery run, delivery.appended <+: file) ∧
    (∀ (earlier later : List (Action × Delivery)) (response : Response)
      (cancelFailure : Option String) (answered : Delivery),
      run = earlier ++ (.answers response cancelFailure, answered) :: later →
      startOf response ≠ some (TransitionSystem.lastOf newDelivery earlier).received →
      ∀ delivery ∈ TransitionSystem.visited answered later,
        delivery.appended = (TransitionSystem.lastOf newDelivery earlier).appended) ∧
    (TransitionSystem.StepsMeet (RunsToEnd file) newDelivery run →
      ∀ delivery ∈ TransitionSystem.visited newDelivery run,
        delivery.stage = .done → delivery.appended = file) := by
  have hnew := inOrder_newDelivery file
  refine ⟨?_, ?_, ?_⟩
  · intro delivery hdelivery
    have hinvariant : (takeDownload url file).Invariant (InOrder file) :=
      ⟨fun _ hinitial => hinitial ▸ hnew, fun _ _ _ h hstep => h.act hstep⟩
    exact (hinvariant.of_reachable
      (TransitionSystem.reachable_of_mem_visited (.initial rfl) hrun hdelivery)).appended
  · rintro earlier later response cancelFailure answered rfl helsewhere delivery hdelivery
    obtain ⟨hstep, hlater⟩ := TransitionSystem.isRun_middle hrun
    have hanswered : answered =
        (TransitionSystem.lastOf newDelivery earlier).answered url response cancelFailure := by
      change (if _ then some _ else none) = some answered at hstep
      split_ifs at hstep
      exact (Option.some.inj hstep).symm
    obtain ⟨failure, hfailed, hsame⟩ := answered_elsewhere cancelFailure helsewhere
    rw [← hanswered] at hfailed hsame
    have hkept := appended_of_reaches hfailed
      (TransitionSystem.reaches_of_mem_visited hlater hdelivery)
    exact hkept.2.trans hsame
  · intro hmeet delivery hdelivery hdone
    have hkept := TransitionSystem.forall_visited_of_stepsMeet
      (fun s a t (h : InOrder file s ∧ Whole file s) hstep hruns =>
        (⟨h.1.act hstep, h.2.act hstep hruns⟩ : InOrder file t ∧ Whole file t))
      ⟨hnew, whole_of_idle (Or.inl rfl)⟩ hrun hmeet delivery hdelivery
    exact hkept.1.whole_file hkept.2 hdone

/-- Two pieces, a failure between them, and an append that ends. -/
def resumedOnce (lastByte : String) (rest : List UInt8) : List Action :=
  [.answers ⟨200, none, some [1, 2, 3, 4]⟩ none, .pieceArrives 2 true, .roomFound false,
    .appendEnds, .readFails,
    .answers ⟨206, some ("bytes 2-" ++ lastByte ++ "/4"), some rest⟩ none,
    .pieceArrives rest.length true, .roomFound false, .appendEnds, .bodyEnds]

theorem take_delivered_once_resumed :
    (TransitionSystem.lastOf newDelivery (TransitionSystem.follow (act "take" [1, 2, 3, 4])
      newDelivery (resumedOnce "3" [3, 4]))).appended = [1, 2, 3, 4] := by
  have hrun := TransitionSystem.isRun_follow (fun delivery => delivery = newDelivery)
    (act "take" [1, 2, 3, 4]) newDelivery (resumedOnce "3" [3, 4])
  refine (take_delivered_once "take" [1, 2, 3, 4] hrun).2.2 ?_ _
    (TransitionSystem.lastOf_mem_visited _ _) ?_
  · apply TransitionSystem.stepsMeet_follow
    intro delivery action haction
    simp only [resumedOnce, List.mem_cons, List.not_mem_nil, or_false] at haction
    rcases haction with rfl | rfl | rfl | rfl | rfl | rfl | rfl | rfl | rfl | rfl
    · exact fun hpartial => absurd hpartial (by decide)
    all_goals first
      | trivial
      | dsimp only [RunsToEnd]
        decide +kernel
  · decide +kernel

/-- A resumed answer that stops before the end of the file ends the append without an error. -/
theorem take_delivered_in_part :
    ∃ run, (takeDownload "take" [1, 2, 3, 4]).IsRun newDelivery run ∧
      ∃ delivery ∈ TransitionSystem.visited newDelivery run,
        delivery.stage = .done ∧ delivery.appended = [1, 2, 3] := by
  refine ⟨TransitionSystem.follow (act "take" [1, 2, 3, 4]) newDelivery (resumedOnce "2" [3]),
    TransitionSystem.isRun_follow _ _ _ _, _, TransitionSystem.lastOf_mem_visited _ _, ?_⟩
  decide +kernel

end Songmaker.Player.TakeDownload
