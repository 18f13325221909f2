import Mathlib.Data.Rat.Floor

namespace Songmaker.Takes.RepaintSplice

/-- Stereo samples at a rate. -/
structure DecodedAudio where
  left : List ℚ
  right : List ℚ
  sampleRate : ℕ
  same_length : right.length = left.length
  rate_pos : 0 < sampleRate

def DecodedAudio.duration (audio : DecodedAudio) : ℚ :=
  (audio.left.length : ℚ) / audio.sampleRate

/-- How the splice refuses its input. -/
inductive SpliceError where
  | unsupportedDtype (message : String)
  | shapeMismatch
deriving DecidableEq

/-! ### Reading the source -/

inductive Dtype where
  | int16
  | int32
  | uint8
  | float32
  | float64
  | other (name : String)

def Dtype.name : Dtype → String
  | .int16 => "int16"
  | .int32 => "int32"
  | .uint8 => "uint8"
  | .float32 => "float32"
  | .float64 => "float64"
  | .other name => name

def int16Max : ℚ := 32768

/-- How samples of the type become numbers between minus one and one. -/
def normalizeDtype : Dtype → Option (ℚ → ℚ)
  | .int16 => some fun sample => sample / int16Max
  | .int32 => some fun sample => sample / 2147483648
  | .uint8 => some fun sample => (sample - 128) / 128
  | .float32 => some id
  | .float64 => some id
  | .other _ => none

/-- What `scipy_wavfile.read` returns, channel by channel. -/
structure RawWav where
  sampleRate : ℕ
  dtype : Dtype
  first : List ℚ
  others : List (List ℚ)
  same_length : ∀ channel ∈ others, channel.length = first.length
  rate_pos : 0 < sampleRate

/-- The channel to the right: the second one, or a copy of the only one. -/
def RawWav.second (wav : RawWav) : List ℚ :=
  wav.others.headD wav.first

theorem RawWav.length_second (wav : RawWav) : wav.second.length = wav.first.length := by
  rw [RawWav.second]
  rcases hothers : wav.others with _ | ⟨channel, others⟩
  · rfl
  · apply wav.same_length
    rw [hothers]
    exact List.mem_cons_self

theorem RawWav.length_normalized (wav : RawWav) (normalize : ℚ → ℚ) :
    (wav.second.map normalize).length = (wav.first.map normalize).length := by
  rw [List.length_map, List.length_map, wav.length_second]

/-- The samples of a source, whose type must be one that is known. -/
def readSourceWav (wav : RawWav) : Except SpliceError DecodedAudio :=
  match normalizeDtype wav.dtype with
  | none => .error (.unsupportedDtype ("Unsupported source WAV dtype: " ++ wav.dtype.name))
  | some normalize =>
      .ok {
        left := wav.first.map normalize
        right := wav.second.map normalize
        sampleRate := wav.sampleRate
        same_length := wav.length_normalized normalize
        rate_pos := wav.rate_pos }

/-! ### Arrays -/

/-- `np.linspace`. -/
def linspace (first last : ℚ) (count : ℕ) : List ℚ :=
  (List.range count).map fun i : ℕ => first + i * (last - first) / (count - 1)

/-- `samples[lo:hi]`. -/
def slice (samples : List ℚ) (lo hi : ℕ) : List ℚ :=
  (samples.take hi).drop lo

/-- `samples[lo:hi] = values`. -/
def assignSlice (samples : List ℚ) (lo hi : ℕ) (values : List ℚ) :
    Except SpliceError (List ℚ) :=
  if (slice samples lo hi).length = values.length then
    .ok (samples.take lo ++ values ++ samples.drop (max lo hi))
  else .error .shapeMismatch

/-- `source * (1.0 - ramp) + repainted * ramp`. -/
def mix (source repainted ramp : List ℚ) : Except SpliceError (List ℚ) :=
  if source.length = ramp.length ∧ repainted.length = ramp.length then
    .ok (List.zipWith (fun pair weight => pair.1 * (1 - weight) + pair.2 * weight)
      (source.zip repainted) ramp)
  else .error .shapeMismatch

/-- A stretch of a channel is replaced by its mix with the repaint. -/
def fadeSlice (channel repainted : List ℚ) (lo hi : ℕ) (ramp : List ℚ) :
    Except SpliceError (List ℚ) := do
  let mixed ← mix (slice channel lo hi) (slice repainted lo hi) ramp
  assignSlice channel lo hi mixed

/-- A step under an `if` without an `else`. -/
def stepIf (condition : Bool) (channel : List ℚ) (step : Except SpliceError (List ℚ)) :
    Except SpliceError (List ℚ) :=
  if condition then step else .ok channel

/-! ### The splice -/

def crossfadeSeconds : ℚ := 1 / 20

/-- `int(seconds * sr)`. -/
def toSample (seconds : ℚ) (rate : ℕ) : ℕ :=
  ⌊seconds * rate⌋₊

/-- `repainting_start` and `repainting_end`. -/
structure Region where
  start : ℚ
  finish : ℚ
  start_nonneg : 0 ≤ start
  start_le : start ≤ finish

/-- The lengths of the two crossfades, which share a region that is too short for both. -/
def repaintFadeLengths (regionLength fadeLength : ℕ) (hasFadeIn hasFadeOut : Bool) : ℕ × ℕ :=
  if hasFadeIn && hasFadeOut then
    let fadeIn := min fadeLength (regionLength / 2)
    (fadeIn, min fadeLength (regionLength - fadeIn))
  else if hasFadeIn then (min fadeLength regionLength, 0)
  else if hasFadeOut then (0, min fadeLength regionLength)
  else (0, 0)

/-- What is done to a channel of the first `n` samples of the source. -/
def spliceChannel (n start finish fadeIn fadeOut : ℕ) (source repainted : List ℚ) :
    Except SpliceError (List ℚ) := do
  let channel := source.take n
  let fadesIn := decide (0 < start) && decide (0 < fadeIn)
  let fadesOut := decide (finish < n) && decide (0 < fadeOut)
  let fadedIn ← stepIf fadesIn channel
    (fadeSlice channel repainted start (start + fadeIn) (linspace 0 1 fadeIn))
  let spliceStart := if fadesIn then start + fadeIn else start
  let fadedOut ← stepIf fadesOut fadedIn
    (fadeSlice fadedIn repainted (finish - fadeOut) finish (linspace 1 0 fadeOut))
  let spliceEnd := if fadesOut then finish - fadeOut else finish
  stepIf (spliceStart < spliceEnd) fadedOut
    (assignSlice fadedOut spliceStart spliceEnd (slice repainted spliceStart spliceEnd))

/-- The sample positions that a splice works with. -/
structure Layout where
  n : ℕ
  start : ℕ
  finish : ℕ
  fadeIn : ℕ
  fadeOut : ℕ

/-- Where the region and its crossfades lie in the result. -/
def layout (sourceLength repaintedLength rate : ℕ) (region : Region) : Layout :=
  let n := min sourceLength repaintedLength
  let start := min (toSample region.start rate) n
  let finish := min (toSample region.finish rate) n
  let fades := repaintFadeLengths (finish - start) (toSample crossfadeSeconds rate)
    (decide (0 < start)) (decide (finish < n))
  ⟨n, start, finish, fades.1, fades.2⟩

/-- The source outside the region, the repaint inside, and a crossfade at each border. -/
def spliceRepaint (repainted : DecodedAudio) (region : Region) (source : DecodedAudio) :
    Except SpliceError (List ℚ × List ℚ) := do
  let place := layout source.left.length repainted.left.length repainted.sampleRate region
  let left ← spliceChannel place.n place.start place.finish place.fadeIn place.fadeOut
    source.left repainted.left
  let right ← spliceChannel place.n place.start place.finish place.fadeIn place.fadeOut
    source.right repainted.right
  .ok (left, right)

/-- The channels of the result, which plays at the rate of the repaint. -/
def spliceRepaintRaw (repainted : DecodedAudio) (region : Region) (wav : RawWav) :
    Except SpliceError (List ℚ × List ℚ) := do
  let source ← readSourceWav wav
  spliceRepaint repainted region source

end Songmaker.Takes.RepaintSplice
