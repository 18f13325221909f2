import Songmaker.Takes.RepaintSplice

namespace Songmaker.Takes.RepaintSplice

/-! ### Arrays -/

theorem length_linspace (first last : ℚ) (count : ℕ) :
    (linspace first last count).length = count := by
  rw [linspace, List.length_map, List.length_range]

theorem getD_linspace {first last : ℚ} {count i : ℕ} (hi : i < count) :
    (linspace first last count).getD i 0 = first + i * (last - first) / (count - 1) := by
  rw [linspace, List.getD_eq_getElem?_getD, List.getElem?_map, List.getElem?_range hi]
  rfl

theorem length_slice {samples : List ℚ} {lo hi : ℕ} (hhi : hi ≤ samples.length) :
    (slice samples lo hi).length = hi - lo := by
  rw [slice, List.length_drop, List.length_take, min_eq_left hhi]

theorem getD_slice {samples : List ℚ} {lo hi i : ℕ} (hi' : i < hi - lo) :
    (slice samples lo hi).getD i 0 = samples.getD (lo + i) 0 := by
  rw [slice, List.getD_eq_getElem?_getD, List.getElem?_drop, List.getElem?_take,
    if_pos (by omega), List.getD_eq_getElem?_getD]

/-- What an assignment to a slice makes of the samples. -/
structure Assigned (samples : List ℚ) (lo hi : ℕ) (value : ℕ → ℚ) (result : List ℚ) : Prop where
  length_eq : result.length = samples.length
  inside : ∀ i, lo ≤ i → i < hi → result.getD i 0 = value i
  outside : ∀ i, i < lo ∨ hi ≤ i → result.getD i 0 = samples.getD i 0

theorem exists_assignSlice (samples values : List ℚ) {lo hi : ℕ} (hle : lo ≤ hi)
    (hhi : hi ≤ samples.length) (hlength : values.length = hi - lo) :
    ∃ result, assignSlice samples lo hi values = .ok result ∧
      Assigned samples lo hi (fun i => values.getD (i - lo) 0) result := by
  refine ⟨_, if_pos (by rw [length_slice hhi, hlength]), ?_, ?_, ?_⟩
  · simp only [List.length_append, List.length_take, List.length_drop, hlength]
    omega
  · intro i hlo hi'
    simp only [List.getD_eq_getElem?_getD]
    rw [List.append_assoc, List.getElem?_append_right (by rw [List.length_take]; omega),
      List.getElem?_append_left (by rw [List.length_take]; omega), List.length_take,
      min_eq_left (by omega)]
  · intro i hi'
    simp only [List.getD_eq_getElem?_getD]
    congr 1
    rcases hi' with hbefore | hafter
    · rw [List.append_assoc, List.getElem?_append_left (by rw [List.length_take]; omega),
        List.getElem?_take, if_pos hbefore]
    · rw [List.getElem?_append_right (by rw [List.length_append, List.length_take]; omega),
        List.getElem?_drop, List.length_append, List.length_take, hlength]
      congr 1
      omega

theorem exists_mix (source repainted ramp : List ℚ) (hsource : source.length = ramp.length)
    (hrepainted : repainted.length = ramp.length) :
    ∃ mixed, mix source repainted ramp = .ok mixed ∧ mixed.length = ramp.length ∧
      ∀ i < ramp.length, mixed.getD i 0 =
        source.getD i 0 * (1 - ramp.getD i 0) + repainted.getD i 0 * ramp.getD i 0 := by
  refine ⟨_, if_pos ⟨hsource, hrepainted⟩, ?_, ?_⟩
  · rw [List.length_zipWith, List.length_zip]
    omega
  · intro i hi
    simp only [List.getD_eq_getElem?_getD]
    have hlength : i < (List.zipWith (fun (pair : ℚ × ℚ) weight =>
        pair.1 * (1 - weight) + pair.2 * weight) (source.zip repainted) ramp).length := by
      rw [List.length_zipWith, List.length_zip]
      omega
    rw [List.getElem?_eq_getElem hlength, List.getElem?_eq_getElem (hi.trans_eq hsource.symm),
      List.getElem?_eq_getElem (hi.trans_eq hrepainted.symm), List.getElem?_eq_getElem hi,
      List.getElem_zipWith, List.getElem_zip]
    rfl

theorem exists_fadeSlice (channel repainted ramp : List ℚ) {lo hi : ℕ} (hle : lo ≤ hi)
    (hchannel : hi ≤ channel.length) (hrepainted : hi ≤ repainted.length)
    (hramp : ramp.length = hi - lo) :
    ∃ result, fadeSlice channel repainted lo hi ramp = .ok result ∧
      Assigned channel lo hi (fun i => channel.getD i 0 * (1 - ramp.getD (i - lo) 0) +
        repainted.getD i 0 * ramp.getD (i - lo) 0) result := by
  obtain ⟨mixed, hmix, hlength, hmixed⟩ := exists_mix _ _ ramp
    ((length_slice hchannel).trans hramp.symm) ((length_slice hrepainted).trans hramp.symm)
  obtain ⟨result, hresult, hassigned⟩ :=
    exists_assignSlice channel mixed hle hchannel (hlength.trans hramp)
  refine ⟨result, ?_, hassigned.length_eq, ?_, hassigned.outside⟩
  · rw [fadeSlice, hmix]
    exact hresult
  · intro i hlo hi'
    have hback : lo + (i - lo) = i := by omega
    rw [hassigned.inside i hlo hi', hmixed _ (by omega), getD_slice (by omega),
      getD_slice (by omega), hback]

theorem exists_stepIf (condition : Bool) {samples : List ℚ} {lo hi : ℕ} {value : ℕ → ℚ}
    {step : Except SpliceError (List ℚ)} (hempty : condition = false → lo = hi)
    (hstep : ∃ result, step = .ok result ∧ Assigned samples lo hi value result) :
    ∃ result, stepIf condition samples step = .ok result ∧
      Assigned samples lo hi value result := by
  cases condition with
  | true => exact hstep
  | false =>
      refine ⟨samples, rfl, rfl, ?_, fun i _ => rfl⟩
      intro i hlo hi'
      have hlohi := hempty rfl
      omega

/-! ### The layout -/

/-- The fades lie side by side in the region, and there is none at an end of the
recording. -/
structure Layout.Valid (place : Layout) : Prop where
  start_le : place.start ≤ place.finish
  finish_le : place.finish ≤ place.n
  apart : place.fadeIn + place.fadeOut ≤ place.finish - place.start
  fadeIn_eq : ¬0 < place.start → place.fadeIn = 0
  fadeOut_eq : ¬place.finish < place.n → place.fadeOut = 0

theorem repaintFadeLengths_apart (regionLength fadeLength : ℕ) (hasFadeIn hasFadeOut : Bool) :
    (repaintFadeLengths regionLength fadeLength hasFadeIn hasFadeOut).1 +
      (repaintFadeLengths regionLength fadeLength hasFadeIn hasFadeOut).2 ≤ regionLength := by
  cases hasFadeIn with
  | false =>
      cases hasFadeOut with
      | false => exact Nat.zero_le _
      | true =>
          simp only [repaintFadeLengths, Bool.false_and, Bool.false_eq_true, if_false, if_true]
          omega
  | true =>
      cases hasFadeOut with
      | false =>
          simp only [repaintFadeLengths, Bool.and_false, Bool.false_eq_true, if_false, if_true]
          omega
      | true =>
          simp only [repaintFadeLengths, Bool.and_true, if_true]
          omega

theorem repaintFadeLengths_of_none (regionLength fadeLength : ℕ) :
    (∀ hasFadeOut, (repaintFadeLengths regionLength fadeLength false hasFadeOut).1 = 0) ∧
      ∀ hasFadeIn, (repaintFadeLengths regionLength fadeLength hasFadeIn false).2 = 0 := by
  constructor
  · intro hasFadeOut
    cases hasFadeOut with
    | false => rfl
    | true => rfl
  · intro hasFadeIn
    cases hasFadeIn with
    | false => rfl
    | true => rfl

theorem repaintFadeLengths_le (regionLength fadeLength : ℕ) (hasFadeIn hasFadeOut : Bool) :
    (repaintFadeLengths regionLength fadeLength hasFadeIn hasFadeOut).1 ≤ fadeLength ∧
      (repaintFadeLengths regionLength fadeLength hasFadeIn hasFadeOut).2 ≤ fadeLength := by
  cases hasFadeIn with
  | false =>
      cases hasFadeOut with
      | false => exact ⟨Nat.zero_le _, Nat.zero_le _⟩
      | true => exact ⟨Nat.zero_le _, min_le_left _ _⟩
  | true =>
      cases hasFadeOut with
      | false => exact ⟨min_le_left _ _, Nat.zero_le _⟩
      | true => exact ⟨min_le_left _ _, min_le_left _ _⟩

theorem toSample_mono {first last : ℚ} (hle : first ≤ last) (rate : ℕ) :
    toSample first rate ≤ toSample last rate :=
  Nat.floor_le_floor (mul_le_mul_of_nonneg_right hle (Nat.cast_nonneg rate))

theorem layout_valid (sourceLength repaintedLength rate : ℕ) (region : Region) :
    (layout sourceLength repaintedLength rate region).Valid := by
  refine ⟨?_, min_le_right _ _, repaintFadeLengths_apart _ _ _ _, ?_, ?_⟩
  · exact min_le_min_right _ (toSample_mono region.start_le rate)
  · intro hstart
    have hfade := (repaintFadeLengths_of_none
      ((layout sourceLength repaintedLength rate region).finish -
        (layout sourceLength repaintedLength rate region).start)
      (toSample crossfadeSeconds rate)).1
    rw [layout] at hstart ⊢
    simp only at hstart ⊢
    rw [decide_eq_false hstart]
    exact hfade _
  · intro hfinish
    have hfade := (repaintFadeLengths_of_none
      ((layout sourceLength repaintedLength rate region).finish -
        (layout sourceLength repaintedLength rate region).start)
      (toSample crossfadeSeconds rate)).2
    rw [layout] at hfinish ⊢
    simp only at hfinish ⊢
    rw [decide_eq_false hfinish]
    exact hfade _

/-! ### The weight of the repaint -/

/-- How much of the repaint a sample of the result holds. -/
def Layout.weight (place : Layout) (i : ℕ) : ℚ :=
  if i < place.start ∨ place.finish ≤ i then 0
  else if i < place.start + place.fadeIn then
    ((i - place.start : ℕ) : ℚ) / (place.fadeIn - 1)
  else if i < place.finish - place.fadeOut then 1
  else 1 - ((i - (place.finish - place.fadeOut) : ℕ) : ℚ) / (place.fadeOut - 1)

/-- A weight that is 0 outside the region and 1 inside, and goes from the one to the
other in the crossfades. -/
structure IsCrossfade (place : Layout) (fadeLength : ℕ) (weight : ℕ → ℚ) : Prop where
  mem : ∀ i, 0 ≤ weight i ∧ weight i ≤ 1
  outside : ∀ i, i < place.start ∨ place.finish ≤ i → weight i = 0
  inside : ∀ i, place.start + place.fadeIn ≤ i → i < place.finish - place.fadeOut → weight i = 1
  rises : ∀ i j, place.start ≤ i → i < j → j < place.start + place.fadeIn → weight i < weight j
  falls : ∀ i j, place.finish - place.fadeOut ≤ i → i < j → j < place.finish →
    weight j < weight i
  apart : place.start + place.fadeIn ≤ place.finish - place.fadeOut
  short : place.fadeIn ≤ fadeLength ∧ place.fadeOut ≤ fadeLength

theorem share_mem (i count : ℕ) (hi : i < count) :
    (0 : ℚ) ≤ (i : ℚ) / (count - 1) ∧ (i : ℚ) / (count - 1) ≤ 1 := by
  have hcount : (1 : ℚ) ≤ count := by exact_mod_cast Nat.one_le_of_lt hi
  constructor
  · exact div_nonneg (Nat.cast_nonneg _) (by linarith)
  · apply div_le_one_of_le₀
    · have hle : (i : ℚ) + 1 ≤ count := by exact_mod_cast hi
      linarith
    · linarith

theorem share_lt {i j count : ℕ} (hij : i < j) (hj : j < count) :
    (i : ℚ) / (count - 1) < (j : ℚ) / (count - 1) := by
  have hcount : (2 : ℚ) ≤ count := by exact_mod_cast (show 2 ≤ count by omega)
  apply div_lt_div_of_pos_right
  · exact_mod_cast hij
  · linarith

theorem Layout.weight_fadeIn {place : Layout} (hplace : place.Valid) {i : ℕ}
    (hstart : place.start ≤ i) (hfade : i < place.start + place.fadeIn) :
    place.weight i = ((i - place.start : ℕ) : ℚ) / (place.fadeIn - 1) := by
  have hapart := hplace.apart
  have hle := hplace.start_le
  rw [Layout.weight, if_neg (by omega), if_pos hfade]

theorem Layout.weight_fadeOut {place : Layout} (hplace : place.Valid) {i : ℕ}
    (hfade : place.finish - place.fadeOut ≤ i) (hfinish : i < place.finish) :
    place.weight i = 1 - ((i - (place.finish - place.fadeOut) : ℕ) : ℚ) / (place.fadeOut - 1) := by
  have hapart := hplace.apart
  have hle := hplace.start_le
  rw [Layout.weight, if_neg (by omega), if_neg (by omega), if_neg (by omega)]

theorem Layout.weight_inside (place : Layout) {i : ℕ}
    (hfadeIn : place.start + place.fadeIn ≤ i) (hfadeOut : i < place.finish - place.fadeOut) :
    place.weight i = 1 := by
  rw [Layout.weight, if_neg (by omega), if_neg (by omega), if_pos hfadeOut]

theorem Layout.weight_outside (place : Layout) {i : ℕ}
    (houtside : i < place.start ∨ place.finish ≤ i) : place.weight i = 0 :=
  if_pos houtside

theorem Layout.weight_mem {place : Layout} (hplace : place.Valid) (i : ℕ) :
    0 ≤ place.weight i ∧ place.weight i ≤ 1 := by
  have hapart := hplace.apart
  have hle := hplace.start_le
  by_cases houtside : i < place.start ∨ place.finish ≤ i
  · rw [place.weight_outside houtside]
    exact ⟨le_rfl, zero_le_one⟩
  · by_cases hfadeIn : i < place.start + place.fadeIn
    · rw [place.weight_fadeIn hplace (by omega) hfadeIn]
      exact share_mem _ _ (by omega)
    · by_cases hfadeOut : i < place.finish - place.fadeOut
      · rw [place.weight_inside (by omega) hfadeOut]
        exact ⟨zero_le_one, le_rfl⟩
      · rw [place.weight_fadeOut hplace (by omega) (by omega)]
        obtain ⟨hnonneg, hone⟩ := share_mem (i - (place.finish - place.fadeOut))
          place.fadeOut (by omega)
        exact ⟨sub_nonneg.mpr hone, sub_le_self 1 hnonneg⟩

theorem layout_isCrossfade (sourceLength repaintedLength rate : ℕ) (region : Region) :
    IsCrossfade (layout sourceLength repaintedLength rate region)
      (toSample crossfadeSeconds rate)
      (layout sourceLength repaintedLength rate region).weight := by
  have hplace := layout_valid sourceLength repaintedLength rate region
  have hshort := repaintFadeLengths_le
    ((layout sourceLength repaintedLength rate region).finish -
      (layout sourceLength repaintedLength rate region).start)
    (toSample crossfadeSeconds rate)
  generalize hplaced : layout sourceLength repaintedLength rate region = place at hplace
  have hapart := hplace.apart
  have hle := hplace.start_le
  refine ⟨place.weight_mem hplace, fun i => place.weight_outside, fun i => place.weight_inside,
    ?_, ?_, by omega, ?_⟩
  · intro i j hi hij hj
    rw [place.weight_fadeIn hplace hi (hij.trans hj), place.weight_fadeIn hplace (by omega) hj]
    exact share_lt (by omega) (by omega)
  · intro i j hi hij hj
    rw [place.weight_fadeOut hplace hi (hij.trans hj), place.weight_fadeOut hplace (by omega) hj]
    exact sub_lt_sub_left (share_lt (by omega) (by omega)) 1
  · rw [← hplaced]
    exact hshort _ _

/-! ### A channel of the result -/

theorem exists_spliceChannel {place : Layout} (hplace : place.Valid) (source repainted : List ℚ)
    (hsource : place.n ≤ source.length) (hrepainted : place.n ≤ repainted.length) :
    ∃ result, spliceChannel place.n place.start place.finish place.fadeIn place.fadeOut
        source repainted = .ok result ∧ result.length = place.n ∧
      ∀ i < place.n, result.getD i 0 =
        (1 - place.weight i) * source.getD i 0 + place.weight i * repainted.getD i 0 := by
  have hapart := hplace.apart
  have hle := hplace.start_le
  have hn := hplace.finish_le
  have hinside : place.start + place.fadeIn ≤ place.finish - place.fadeOut := by omega
  have hlength : (source.take place.n).length = place.n := by
    rw [List.length_take, min_eq_left hsource]
  have hnoFadeIn : (decide (0 < place.start) && decide (0 < place.fadeIn)) = false →
      place.fadeIn = 0 := by
    intro hfalse
    rcases Bool.and_eq_false_iff.mp hfalse with hstart | hfade
    · exact hplace.fadeIn_eq (of_decide_eq_false hstart)
    · exact Nat.eq_zero_of_not_pos (of_decide_eq_false hfade)
  have hnoFadeOut : (decide (place.finish < place.n) && decide (0 < place.fadeOut)) = false →
      place.fadeOut = 0 := by
    intro hfalse
    rcases Bool.and_eq_false_iff.mp hfalse with hfinish | hfade
    · exact hplace.fadeOut_eq (of_decide_eq_false hfinish)
    · exact Nat.eq_zero_of_not_pos (of_decide_eq_false hfade)
  have hspliceStart : (if (decide (0 < place.start) && decide (0 < place.fadeIn)) = true then
      place.start + place.fadeIn else place.start) = place.start + place.fadeIn := by
    split
    · rfl
    · rename_i hfalse
      rw [hnoFadeIn (Bool.eq_false_iff.mpr hfalse), Nat.add_zero]
  have hspliceEnd : (if (decide (place.finish < place.n) && decide (0 < place.fadeOut)) = true then
      place.finish - place.fadeOut else place.finish) = place.finish - place.fadeOut := by
    split
    · rfl
    · rename_i hfalse
      rw [hnoFadeOut (Bool.eq_false_iff.mpr hfalse), Nat.sub_zero]
  obtain ⟨fadedIn, hfadedIn, hin⟩ := exists_stepIf
    (decide (0 < place.start) && decide (0 < place.fadeIn))
    (fun hfalse => by rw [hnoFadeIn hfalse, Nat.add_zero])
    (exists_fadeSlice (source.take place.n) repainted (linspace 0 1 place.fadeIn)
      (Nat.le_add_right place.start place.fadeIn) (by omega) (by omega)
      (by rw [length_linspace]; omega))
  have hfadedInLength := hin.length_eq
  obtain ⟨fadedOut, hfadedOut, hout⟩ := exists_stepIf
    (decide (place.finish < place.n) && decide (0 < place.fadeOut))
    (fun hfalse => by rw [hnoFadeOut hfalse, Nat.sub_zero])
    (exists_fadeSlice fadedIn repainted (linspace 1 0 place.fadeOut)
      (Nat.sub_le place.finish place.fadeOut) (by omega) (by omega)
      (by rw [length_linspace]; omega))
  have hfadedOutLength := hout.length_eq
  obtain ⟨result, hresult, hall⟩ := exists_stepIf
    (decide (place.start + place.fadeIn < place.finish - place.fadeOut))
    (fun hfalse => le_antisymm hinside (not_lt.mp (of_decide_eq_false hfalse)))
    (exists_assignSlice fadedOut
      (slice repainted (place.start + place.fadeIn) (place.finish - place.fadeOut))
      hinside (by omega) (length_slice (by omega)))
  refine ⟨result, ?_, by rw [hall.length_eq]; omega, ?_⟩
  · rw [spliceChannel]
    simp only
    rw [hspliceStart, hspliceEnd, hfadedIn]
    change (stepIf _ fadedIn _ >>= _) = _
    rw [hfadedOut]
    exact hresult
  · intro i hi
    have htake : (source.take place.n).getD i 0 = source.getD i 0 := by
      rw [List.getD_eq_getElem?_getD, List.getElem?_take, if_pos hi, List.getD_eq_getElem?_getD]
    by_cases hbetween : place.start + place.fadeIn ≤ i ∧ i < place.finish - place.fadeOut
    · rw [hall.inside i hbetween.1 hbetween.2, getD_slice (by omega),
        place.weight_inside hbetween.1 hbetween.2,
        show place.start + place.fadeIn + (i - (place.start + place.fadeIn)) = i by omega]
      ring
    · rw [hall.outside i (by omega)]
      by_cases hfadeOut : place.finish - place.fadeOut ≤ i ∧ i < place.finish
      · rw [hout.inside i hfadeOut.1 hfadeOut.2, hin.outside i (by omega), htake,
          getD_linspace (by omega), place.weight_fadeOut hplace hfadeOut.1 hfadeOut.2]
        ring
      · rw [hout.outside i (by omega)]
        by_cases hfadeIn : place.start ≤ i ∧ i < place.start + place.fadeIn
        · rw [hin.inside i hfadeIn.1 hfadeIn.2, htake, getD_linspace (by omega),
            place.weight_fadeIn hplace hfadeIn.1 hfadeIn.2]
          ring
        · rw [hin.outside i (by omega), htake, place.weight_outside (by omega)]
          ring

/-! ### The result in playing time -/

/-- The rates and lengths of two recordings, and a region of them. -/
structure Shape where
  sourceRate : ℕ
  repaintRate : ℕ
  sourceLength : ℕ
  repaintLength : ℕ
  region : Region
  sourceRate_pos : 0 < sourceRate
  repaintRate_pos : 0 < repaintRate

/-- The layout that recordings of the shape have. -/
def Shape.layout (shape : Shape) : Layout :=
  RepaintSplice.layout shape.sourceLength shape.repaintLength shape.repaintRate shape.region

/-- The sample that the source plays at the instant of a sample of the result. -/
def Shape.sourceIndex (shape : Shape) (i : ℕ) : ℕ :=
  i * shape.sourceRate / shape.repaintRate

/-- The shape is that of the two recordings. -/
structure Shape.Fits (shape : Shape) (source repainted : DecodedAudio) : Prop where
  sourceRate : source.sampleRate = shape.sourceRate
  repaintRate : repainted.sampleRate = shape.repaintRate
  sourceLength : source.left.length = shape.sourceLength
  repaintLength : repainted.left.length = shape.repaintLength

/-- A channel of the result mixes the repaint and what the source plays at the same
instant. Behind its end the source is silent. -/
def Shape.Mixes (shape : Shape) (source repainted result : List ℚ) : Prop :=
  result.length = shape.layout.n ∧ ∀ i < shape.layout.n, result.getD i 0 =
    (1 - shape.layout.weight i) * source.getD (shape.sourceIndex i) 0 +
      shape.layout.weight i * repainted.getD i 0

/-- Whatever the recordings hold, all outside the region is kept. -/
def Shape.KeepsOutside (shape : Shape) : Prop :=
  ∀ (wav : RawWav) (source repainted : DecodedAudio), readSourceWav wav = .ok source →
    shape.Fits source repainted → ∃ left right,
      spliceRepaintRaw repainted shape.region wav = .ok (left, right) ∧
      shape.Mixes source.left repainted.left left ∧
      shape.Mixes source.right repainted.right right

theorem exists_spliceRepaintRaw {shape : Shape} {wav : RawWav} {source repainted : DecodedAudio}
    (hread : readSourceWav wav = .ok source) (hfits : shape.Fits source repainted) :
    ∃ left right, spliceRepaintRaw repainted shape.region wav = .ok (left, right) ∧
      left.length = shape.layout.n ∧ right.length = shape.layout.n ∧
      ∀ i < shape.layout.n,
        left.getD i 0 = (1 - shape.layout.weight i) * source.left.getD i 0 +
          shape.layout.weight i * repainted.left.getD i 0 ∧
        right.getD i 0 = (1 - shape.layout.weight i) * source.right.getD i 0 +
          shape.layout.weight i * repainted.right.getD i 0 := by
  have hplace : shape.layout.Valid := layout_valid _ _ _ _
  have hsource : shape.layout.n ≤ source.left.length := by
    rw [hfits.sourceLength]
    exact min_le_left _ _
  have hrepainted : shape.layout.n ≤ repainted.left.length := by
    rw [hfits.repaintLength]
    exact min_le_right _ _
  obtain ⟨left, hleft, hleftLength, hleftMixed⟩ :=
    exists_spliceChannel hplace source.left repainted.left hsource hrepainted
  obtain ⟨right, hright, hrightLength, hrightMixed⟩ := exists_spliceChannel hplace
    source.right repainted.right (by rw [source.same_length]; exact hsource)
    (by rw [repainted.same_length]; exact hrepainted)
  refine ⟨left, right, ?_, hleftLength, hrightLength,
    fun i hi => ⟨hleftMixed i hi, hrightMixed i hi⟩⟩
  have hlayout : layout source.left.length repainted.left.length repainted.sampleRate
      shape.region = shape.layout := by
    rw [hfits.sourceLength, hfits.repaintLength, hfits.repaintRate]
    rfl
  rw [spliceRepaintRaw, hread]
  change spliceRepaint repainted shape.region source = _
  rw [spliceRepaint, hlayout, hleft, hright]
  rfl

/-! ### A click in silence -/

/-- A recording that is silent but for one sample. -/
def click (length position : ℕ) : List ℚ :=
  (List.range length).map fun i => if i = position then 1 else 0

theorem length_click (length position : ℕ) : (click length position).length = length := by
  rw [click, List.length_map, List.length_range]

theorem getD_click_self {length position : ℕ} (hposition : position < length) :
    (click length position).getD position 0 = 1 := by
  rw [click, List.getD_eq_getElem?_getD, List.getElem?_map, List.getElem?_range hposition]
  simp

theorem getD_click_of_ne (length : ℕ) {position i : ℕ} (hne : i ≠ position) :
    (click length position).getD i 0 = 0 := by
  rw [click, List.getD_eq_getElem?_getD, List.getElem?_map]
  by_cases hi : i < length
  · rw [List.getElem?_range hi]
    simp [hne]
  · rw [List.getElem?_eq_none (by simpa using hi)]
    rfl

/-- The source that clicks at one position. -/
def clickWav (shape : Shape) (position : ℕ) : RawWav where
  sampleRate := shape.sourceRate
  dtype := .float64
  first := click shape.sourceLength position
  others := []
  same_length := fun _ hchannel => absurd hchannel List.not_mem_nil
  rate_pos := shape.sourceRate_pos

/-- A source that is silent but for one sample. -/
def clickAudio (shape : Shape) (position : ℕ) : DecodedAudio where
  left := click shape.sourceLength position
  right := click shape.sourceLength position
  sampleRate := shape.sourceRate
  same_length := rfl
  rate_pos := shape.sourceRate_pos

/-- A repaint that is silent. -/
def silence (shape : Shape) : DecodedAudio where
  left := List.replicate shape.repaintLength 0
  right := List.replicate shape.repaintLength 0
  sampleRate := shape.repaintRate
  same_length := rfl
  rate_pos := shape.repaintRate_pos

theorem readSourceWav_clickWav (shape : Shape) (position : ℕ) :
    readSourceWav (clickWav shape position) = .ok (clickAudio shape position) := by
  have hsame : (click shape.sourceLength position).map id = click shape.sourceLength position :=
    List.map_id _
  simp only [readSourceWav, clickWav, normalizeDtype, clickAudio, RawWav.second, List.headD_nil,
    hsame]

theorem fits_click (shape : Shape) (position : ℕ) :
    shape.Fits (clickAudio shape position) (silence shape) :=
  ⟨rfl, rfl, length_click _ _, List.length_replicate⟩

/-- A source of two samples a second and a repaint of one, of which the last second is
spliced in. -/
def twoRates : Shape where
  sourceRate := 2
  repaintRate := 1
  sourceLength := 4
  repaintLength := 4
  region := ⟨3, 4, by decide, by decide⟩
  sourceRate_pos := by decide
  repaintRate_pos := by decide

/-- The click that the source plays after half a second is played after one second. -/
theorem click_played_late :
    spliceRepaintRaw (silence twoRates) twoRates.region (clickWav twoRates 1) =
      .ok (click 4 1, click 4 1) ∧
    ¬twoRates.Mixes (click 4 1) (silence twoRates).left (click 4 1) := by
  refine ⟨by decide +kernel, ?_⟩
  rintro ⟨-, hmixes⟩
  have hlate := hmixes 1 (by decide +kernel)
  revert hlate
  decide +kernel

/-- The splice never fails, its crossfades are well formed, and it keeps what lies
outside the region exactly where the source plays every sample that is kept of it at
the place that it has in the result. -/
theorem keepsOutside_iff (shape : Shape) :
    (∀ (wav : RawWav) (source repainted : DecodedAudio), readSourceWav wav = .ok source →
      shape.Fits source repainted →
        ∃ result, spliceRepaintRaw repainted shape.region wav = .ok result) ∧
    IsCrossfade shape.layout (toSample crossfadeSeconds shape.repaintRate) shape.layout.weight ∧
    (shape.KeepsOutside ↔
      ∀ i < shape.layout.n, shape.layout.weight i ≠ 1 → shape.sourceIndex i = i) := by
  refine ⟨?_, layout_isCrossfade _ _ _ _, ?_, ?_⟩
  · intro wav source repainted hread hfits
    obtain ⟨left, right, hresult, -⟩ := exists_spliceRepaintRaw hread hfits
    exact ⟨_, hresult⟩
  · intro hkeeps i hi hweight
    by_contra hne
    obtain ⟨left, right, hresult, ⟨-, hmixes⟩, -⟩ := hkeeps (clickWav shape i)
      (clickAudio shape i) (silence shape) (readSourceWav_clickWav shape i) (fits_click shape i)
    obtain ⟨left', right', hresult', -, -, hmixed⟩ :=
      exists_spliceRepaintRaw (readSourceWav_clickWav shape i) (fits_click shape i)
    rw [hresult] at hresult'
    obtain ⟨rfl, rfl⟩ := Prod.mk.inj (Except.ok.inj hresult')
    have hlength : i < shape.sourceLength := hi.trans_le (min_le_left _ _)
    have hleft := (hmixed i hi).1
    rw [hmixes i hi] at hleft
    simp only [clickAudio, getD_click_self hlength, getD_click_of_ne _ hne] at hleft
    apply hweight
    linarith
  · intro hall wav source repainted hread hfits
    obtain ⟨left, right, hresult, hleft, hright, hmixed⟩ := exists_spliceRepaintRaw hread hfits
    refine ⟨left, right, hresult, ⟨hleft, ?_⟩, hright, ?_⟩
    · intro i hi
      rw [(hmixed i hi).1]
      by_cases hweight : shape.layout.weight i = 1
      · rw [hweight, sub_self, zero_mul, zero_mul]
      · rw [hall i hi hweight]
    · intro i hi
      rw [(hmixed i hi).2]
      by_cases hweight : shape.layout.weight i = 1
      · rw [hweight, sub_self, zero_mul, zero_mul]
      · rw [hall i hi hweight]

end Songmaker.Takes.RepaintSplice
