import Mathlib.Data.List.GetD
import Songmaker.Foundation.CyclicOrder
import Songmaker.Player.QueueSteps

namespace Songmaker.Player.QueueSteps

open Songmaker.Foundation.CyclicOrder

/-- The takes at the places of a queue. -/
def QueueContext.places (ctx : QueueContext) : List PlaybackInfo :=
  match ctx.source with
  | .playlist _ entries _ => entries.map playlistEntryToPlaybackInfo
  | .library queue => queue.takes.getD []
  | .album _ queue => queue.takes.getD []

/-- The place holds a take that is not skipped. -/
def QueueContext.playable (ctx : QueueContext) (place : Nat) : Bool :=
  ctx.places[place]?.any fun take => take ∉ ctx.skipped

/-- The place that so many steps lead to. -/
def QueueDirection.place (direction : QueueDirection) (n i k : Nat) : Nat :=
  match direction with
  | .previous => behind n i k
  | .next => ahead n i k

theorem QueueDirection.place_lt {n : Nat} (hn : 0 < n) (direction : QueueDirection)
    (i k : Nat) : direction.place n i k < n := by
  cases direction with
  | previous => exact behind_lt hn i k
  | next => exact ahead_lt hn i k

theorem QueueDirection.place_ne {n i k : Nat} (direction : QueueDirection) (hi : i < n)
    (hk : 0 < k) (hkn : k < n) : direction.place n i k ≠ i := by
  cases direction with
  | previous =>
      rw [QueueDirection.place, behind_eq hi hkn]
      split_ifs
      all_goals omega
  | next =>
      rw [QueueDirection.place, ahead_eq hi hkn]
      split_ifs
      all_goals omega

theorem QueueDirection.exists_place {n i j : Nat} (direction : QueueDirection) (hi : i < n)
    (hj : j < n) (hne : j ≠ i) : ∃ k, 0 < k ∧ k < n ∧ direction.place n i k = j := by
  cases direction with
  | previous =>
      obtain ⟨k, hk, rfl⟩ := exists_behind hi hj
      refine ⟨k, Nat.pos_of_ne_zero ?_, hk, rfl⟩
      rintro rfl
      exact hne (by rw [behind_eq hi hk, if_pos (Nat.zero_le i), Nat.sub_zero])
  | next =>
      obtain ⟨k, hk, rfl⟩ := exists_ahead hi hj
      refine ⟨k, Nat.pos_of_ne_zero ?_, hk, rfl⟩
      rintro rfl
      exact hne (ahead_zero hi)

theorem stepIndex_eq {n i k : Nat} (direction : QueueDirection) (hk : k < n) :
    (((i : Int) + direction.sign * k + n) % n).toNat = direction.place n i k := by
  cases direction with
  | previous =>
      have hcast : (i : Int) + QueueDirection.previous.sign * k + n =
          ((i + n - k : Nat) : Int) := by
        simp only [QueueDirection.sign]
        omega
      rw [hcast, ← Int.natCast_emod, Int.toNat_natCast]
      rfl
  | next =>
      have hcast : (i : Int) + QueueDirection.next.sign * k + n =
          ((i + k + n : Nat) : Int) := by
        simp only [QueueDirection.sign]
        omega
      rw [hcast, ← Int.natCast_emod, Int.toNat_natCast, Nat.add_mod_right]
      rfl

/-- The steps that the loop looks at end before this one. -/
def QueuePlace.stop (place : QueuePlace) : Nat :=
  if place.endsWithItsWindow then place.length - place.index else place.length

def QueuePlace.ending (place : QueuePlace) : NextQueueTake :=
  if place.endsWithItsWindow then .windowEnd else .none

/-- The loop ends at the first playable step before the stop, or past all of them. -/
theorem playableFromStep_spec {skipped : List PlaybackInfo} {place : QueuePlace}
    {takes : List PlaybackInfo} {direction : QueueDirection}
    (hindex : place.index < place.length) (hlength : place.length = takes.length)
    (htakes : ∀ k, place.takeAt k = takes[k]?)
    {step steps : Nat} (hsteps : step + steps = place.length) (hstop : step ≤ place.stop)
    (hbound : place.stop ≤ place.length) :
    (∃ k take, step ≤ k ∧ k < place.stop ∧
        takes[direction.place place.length place.index k]? = some take ∧ take ∉ skipped ∧
        (∀ l, step ≤ l → l < k →
          ∀ other ∈ takes[direction.place place.length place.index l]?, other ∈ skipped) ∧
        playableFromStep skipped place direction step steps =
          .take (direction.place place.length place.index k) take) ∨
      ((∀ l, step ≤ l → l < place.stop →
          ∀ other ∈ takes[direction.place place.length place.index l]?, other ∈ skipped) ∧
        playableFromStep skipped place direction step steps = place.ending) := by
  induction steps generalizing step with
  | zero =>
      refine Or.inr ⟨fun l hl hlstop => absurd hlstop (by omega), rfl⟩
  | succ steps ih =>
      have hstep : step < place.length := by omega
      rw [playableFromStep]
      by_cases hwindow : place.endsWithItsWindow ∧ place.index + step = place.length
      · rw [if_pos hwindow]
        have hhere : place.stop ≤ step := by
          have hend := hwindow.2
          rw [QueuePlace.stop, if_pos hwindow.1]
          omega
        refine Or.inr ⟨fun l hl hlstop => absurd hlstop (by omega), ?_⟩
        rw [QueuePlace.ending, if_pos hwindow.1]
      · rw [if_neg hwindow]
        have hbefore : step < place.stop := by
          unfold QueuePlace.stop at hstop ⊢
          split_ifs at hstop ⊢ with hends
          · have hother : place.index + step ≠ place.length := fun h => hwindow ⟨hends, h⟩
            omega
          · exact hstep
        have hplace : direction.place place.length place.index step < takes.length :=
          hlength ▸ direction.place_lt (Nat.zero_lt_of_lt hstep) place.index step
        have hthere : takes[direction.place place.length place.index step]? =
            some takes[direction.place place.length place.index step] :=
          List.getElem?_eq_getElem hplace
        dsimp only
        rw [stepIndex_eq direction hstep, htakes, hthere]
        dsimp only
        by_cases hskipped : takes[direction.place place.length place.index step] ∉ skipped
        · rw [if_pos hskipped]
          exact Or.inl ⟨step, _, le_rfl, hbefore, hthere, hskipped,
            fun l hl hlstep => absurd hlstep (by omega), rfl⟩
        · rw [if_neg hskipped]
          have hpassed : ∀ other ∈ takes[direction.place place.length place.index step]?,
              other ∈ skipped := by
            intro other hother
            rw [hthere] at hother
            rw [← Option.some.inj hother]
            exact not_not.mp hskipped
          have hall : ∀ bound, (∀ l, step + 1 ≤ l → l < bound →
              ∀ other ∈ takes[direction.place place.length place.index l]?, other ∈ skipped) →
              ∀ l, step ≤ l → l < bound →
                ∀ other ∈ takes[direction.place place.length place.index l]?,
                  other ∈ skipped := by
            intro bound hrest l hl hlbound
            rcases Nat.lt_or_eq_of_le hl with hlt | rfl
            · exact hrest l hlt hlbound
            · exact hpassed
          rcases ih (show step + 1 + steps = place.length by omega) hbefore with
            ⟨k, take, hk, hkstop, htake, hplays, hbetween, hresult⟩ | ⟨hnone, hresult⟩
          · exact Or.inl ⟨k, take, by omega, hkstop, htake, hplays, hall k hbetween, hresult⟩
          · exact Or.inr ⟨hall place.stop hnone, hresult⟩

section Context

variable {ctx : QueueContext} {skippedComplete : Bool} {current : Option PlaybackInfo} {i : Nat}

/-- The place that `adjacentQueueTake` steps from. -/
def QueueContext.placeAt (ctx : QueueContext) (skippedComplete : Bool) (i : Nat)
    (direction : QueueDirection) : QueuePlace where
  index := i
  length := ctx.places.length
  takeAt := fun place => ctx.places[place]?
  endsWithItsWindow := endsWithItsWindow skippedComplete ctx.source direction

theorem nativeTakeIndex_takes {queue : NativeQueue} (h : nativeTakeIndex queue current = some i) :
    ∃ takes, queue.takes = some takes := by
  unfold nativeTakeIndex at h
  cases htakes : queue.takes with
  | none =>
      rw [htakes] at h
      exact absurd h.symm (Option.some_ne_none i)
  | some takes => exact ⟨takes, rfl⟩

theorem adjacentNativeTake_eq {queue : NativeQueue} (hplaces : ctx.places = queue.takes.getD [])
    (h : nativeTakeIndex queue current = some i) (direction : QueueDirection) :
    adjacentNativeTake skippedComplete ctx queue current direction =
      firstPlayableInDirection ctx.skipped (ctx.placeAt skippedComplete i direction)
        direction := by
  obtain ⟨takes, htakes⟩ := nativeTakeIndex_takes h
  rw [htakes] at hplaces
  unfold adjacentNativeTake QueueContext.placeAt
  rw [h, htakes, hplaces]
  rfl

theorem adjacentQueueTake_eq (h : queuePlaceOf ctx current = some i)
    (direction : QueueDirection) :
    adjacentQueueTake skippedComplete ctx current direction =
      firstPlayableInDirection ctx.skipped (ctx.placeAt skippedComplete i direction)
        direction := by
  obtain ⟨source, skipped⟩ := ctx
  cases source with
  | playlist id entries index =>
      obtain rfl := Option.some.inj h
      have htakes : (fun place : Nat => entries[place]?.map playlistEntryToPlaybackInfo) =
          fun place : Nat => (entries.map playlistEntryToPlaybackInfo)[place]? := by
        funext place
        exact List.getElem?_map.symm
      unfold adjacentQueueTake QueueContext.placeAt
      simp only [QueueContext.places, endsWithItsWindow, htakes, List.length_map]
  | library queue => exact adjacentNativeTake_eq rfl h direction
  | album albumId queue => exact adjacentNativeTake_eq rfl h direction

theorem findIdx?_of_nodup {α : Type} [DecidableEq α] {items : List α} (hnodup : items.Nodup)
    (hi : i < items.length) : (items.findIdx? fun item => item = items[i]) = some i := by
  apply List.findIdx?_eq_some_iff_getElem.mpr
  refine ⟨hi, decide_eq_true rfl, ?_⟩
  intro j hj
  rw [decide_eq_true_iff]
  intro hsame
  exact absurd ((List.Nodup.getElem_inj_iff hnodup).mp hsame) (Nat.ne_of_lt hj)

theorem nativeTakeIndex_of_take {queue : NativeQueue} {takes : List PlaybackInfo}
    (htakes : queue.takes = some takes) (hnodup : takes.Nodup) (hi : i < takes.length) :
    nativeTakeIndex queue (some takes[i]) = some i := by
  unfold nativeTakeIndex queuePositionOf
  rw [htakes]
  dsimp only
  rw [if_neg (by omega), findIdx?_of_nodup hnodup hi]

theorem queuePlaceOf_places (hnodup : ctx.places.Nodup) (hi : i < ctx.places.length) :
    queuePlaceOf ctx (some ctx.places[i]) = some i := by
  obtain ⟨source, skipped⟩ := ctx
  cases source with
  | playlist id entries index =>
      have hlength : i < entries.length := by
        simpa [QueueContext.places] using hi
      have hentries : entries.Nodup := List.Nodup.of_map _ hnodup
      have hfound := findIdx?_of_nodup hentries hlength
      unfold queuePlaceOf currentPlaylistIndex queuePositionOf
      simp only [QueueContext.places, List.getElem_map, playlistEntryToPlaybackInfo,
        PlaybackInfo.ofEntry.injEq, hfound, Option.getD_some]
  | library queue =>
      cases htakes : queue.takes with
      | none =>
          simp only [QueueContext.places, htakes] at hi
          exact absurd hi (Nat.not_lt_zero i)
      | some takes =>
          simp only [QueueContext.places, htakes, Option.getD_some] at hnodup hi ⊢
          exact nativeTakeIndex_of_take htakes hnodup hi
  | album albumId queue =>
      cases htakes : queue.takes with
      | none =>
          simp only [QueueContext.places, htakes] at hi
          exact absurd hi (Nat.not_lt_zero i)
      | some takes =>
          simp only [QueueContext.places, htakes, Option.getD_some] at hnodup hi ⊢
          exact nativeTakeIndex_of_take htakes hnodup hi

theorem adjacentQueueTake_spec (h : queuePlaceOf ctx current = some i)
    (hi : i < ctx.places.length) (direction : QueueDirection) :
    (∃ k take, 0 < k ∧ k < (ctx.placeAt skippedComplete i direction).stop ∧
        ctx.places[direction.place ctx.places.length i k]? = some take ∧
        ctx.playable (direction.place ctx.places.length i k) = true ∧
        (∀ l, 0 < l → l < k →
          ctx.playable (direction.place ctx.places.length i l) = false) ∧
        adjacentQueueTake skippedComplete ctx current direction =
          .take (direction.place ctx.places.length i k) take) ∨
      ((∀ l, 0 < l → l < (ctx.placeAt skippedComplete i direction).stop →
          ctx.playable (direction.place ctx.places.length i l) = false) ∧
        adjacentQueueTake skippedComplete ctx current direction =
          (ctx.placeAt skippedComplete i direction).ending) := by
  have hpassed : ∀ place, (∀ other ∈ ctx.places[place]?, other ∈ ctx.skipped) →
      ctx.playable place = false := by
    intro place hskipped
    unfold QueueContext.playable
    cases htake : ctx.places[place]? with
    | none => rfl
    | some take => simpa using hskipped take htake
  have hbound : (ctx.placeAt skippedComplete i direction).stop ≤ ctx.places.length := by
    unfold QueuePlace.stop
    split_ifs
    · exact Nat.sub_le _ _
    · exact le_rfl
  have hstop : 1 ≤ (ctx.placeAt skippedComplete i direction).stop := by
    unfold QueuePlace.stop
    split_ifs
    · exact Nat.sub_pos_of_lt hi
    · exact Nat.zero_lt_of_lt hi
  rw [adjacentQueueTake_eq h direction]
  unfold firstPlayableInDirection
  have hspec := @playableFromStep_spec ctx.skipped (ctx.placeAt skippedComplete i direction)
    ctx.places direction hi rfl (fun _ => rfl) 1 (ctx.places.length - 1)
    (Nat.add_sub_cancel' (Nat.zero_lt_of_lt hi)) hstop hbound
  rcases hspec with
    ⟨k, take, hk, hkstop, htake, hplays, hbetween, hresult⟩ | ⟨hnone, hresult⟩
  · refine Or.inl ⟨k, take, hk, hkstop, htake, ?_, ?_, hresult⟩
    · unfold QueueContext.playable
      rw [show ctx.places[direction.place ctx.places.length i k]? = some take from htake]
      exact decide_eq_true hplays
    · exact fun l hl hlk => hpassed _ (hbetween l hl hlk)
  · exact Or.inr ⟨fun l hl hlstop => hpassed _ (hnone l hl hlstop), hresult⟩

theorem step_in_circle (h : queuePlaceOf ctx current = some i) (hi : i < ctx.places.length)
    {direction : QueueDirection}
    (hwraps : endsWithItsWindow skippedComplete ctx.source direction = false) :
    (∀ j take, adjacentQueueTake skippedComplete ctx current direction = .take j take ↔
      First ctx.places.length (direction.place ctx.places.length i) ctx.playable j ∧
        ctx.places[j]? = some take) ∧
    (adjacentQueueTake skippedComplete ctx current direction = .none ↔
      ∀ j < ctx.places.length, j ≠ i → ctx.playable j = false) := by
  have hstop : (ctx.placeAt skippedComplete i direction).stop = ctx.places.length := by
    rw [QueuePlace.stop, if_neg (by rw [QueueContext.placeAt, hwraps]; exact Bool.false_ne_true)]
    rfl
  have hending : (ctx.placeAt skippedComplete i direction).ending = .none := by
    rw [QueuePlace.ending, if_neg (by rw [QueueContext.placeAt, hwraps]; exact Bool.false_ne_true)]
  rcases adjacentQueueTake_spec h hi direction with
    ⟨k, take, hk, hkn, htake, hplays, hbetween, hresult⟩ | ⟨hnone, hresult⟩
  · rw [hstop] at hkn
    rw [hresult]
    constructor
    · intro j other
      constructor
      · intro hsame
        obtain ⟨rfl, rfl⟩ := NextQueueTake.take.inj hsame
        exact ⟨⟨k, hk, hkn, rfl, hplays, hbetween⟩, htake⟩
      · rintro ⟨hfirst, hother⟩
        have hplace := hfirst.unique ⟨k, hk, hkn, rfl, hplays, hbetween⟩
        rw [hplace] at hother ⊢
        rw [Option.some.inj (htake.symm.trans hother)]
    · constructor
      · exact fun hsame => absurd hsame (by simp)
      · intro hall
        have hskipped := hall _ (direction.place_lt (Nat.zero_lt_of_lt hi) i k)
          (direction.place_ne hi hk hkn)
        exact absurd (hplays.symm.trans hskipped) (by simp)
  · rw [hstop] at hnone
    rw [hresult, hending]
    constructor
    · intro j other
      constructor
      · exact fun hsame => absurd hsame (by simp)
      · rintro ⟨⟨k, hk, hkn, rfl, hplays, -⟩, -⟩
        exact absurd (hplays.symm.trans (hnone k hk hkn)) (by simp)
    · refine ⟨fun _ j hj hne => ?_, fun _ => rfl⟩
      obtain ⟨k, hk, hkn, rfl⟩ := direction.exists_place hi hj hne
      exact hnone k hk hkn

/-- In a window that may go on, a step forward goes to the next playable place behind
or to the window's end. -/
theorem step_in_window (h : queuePlaceOf ctx current = some i) (hi : i < ctx.places.length)
    (hwindow : endsWithItsWindow skippedComplete ctx.source .next = true) :
    (∀ j take, adjacentQueueTake skippedComplete ctx current .next = .take j take ↔
      i < j ∧ ctx.playable j = true ∧ (∀ l, i < l → l < j → ctx.playable l = false) ∧
        ctx.places[j]? = some take) ∧
    (adjacentQueueTake skippedComplete ctx current .next = .windowEnd ↔
      ∀ j < ctx.places.length, i < j → ctx.playable j = false) := by
  have hstop : (ctx.placeAt skippedComplete i .next).stop = ctx.places.length - i :=
    if_pos hwindow
  have hending : (ctx.placeAt skippedComplete i .next).ending = .windowEnd :=
    if_pos hwindow
  have hplace : ∀ k, k < ctx.places.length - i →
      QueueDirection.next.place ctx.places.length i k = i + k := by
    intro k hk
    exact Nat.mod_eq_of_lt (by omega)
  rcases adjacentQueueTake_spec h hi .next with
    ⟨k, take, hk, hkn, htake, hplays, hbetween, hresult⟩ | ⟨hnone, hresult⟩
  · rw [hstop] at hkn
    rw [hplace k hkn] at htake hplays hresult
    rw [hresult]
    have hearlier : ∀ l, i < l → l < i + k → ctx.playable l = false := by
      intro l hl hlk
      have hskipped := hbetween (l - i) (by omega) (by omega)
      rwa [hplace (l - i) (by omega), Nat.add_sub_cancel' (Nat.le_of_lt hl)] at hskipped
    constructor
    · intro j other
      constructor
      · intro hsame
        obtain ⟨rfl, rfl⟩ := NextQueueTake.take.inj hsame
        exact ⟨by omega, hplays, hearlier, htake⟩
      · rintro ⟨hj, hplaysj, hbeforej, hother⟩
        obtain rfl : j = i + k := by
          rcases Nat.lt_trichotomy j (i + k) with hlt | heq | hlt
          · exact absurd (hplaysj.symm.trans (hearlier j hj hlt)) (by simp)
          · exact heq
          · exact absurd (hplays.symm.trans (hbeforej (i + k) (by omega) hlt)) (by simp)
        rw [Option.some.inj (htake.symm.trans hother)]
    · constructor
      · exact fun hsame => absurd hsame (by simp)
      · intro hall
        exact absurd (hplays.symm.trans (hall (i + k) (by omega) (by omega))) (by simp)
  · rw [hstop] at hnone
    rw [hresult, hending]
    have hlater : ∀ j < ctx.places.length, i < j → ctx.playable j = false := by
      intro j hj hij
      have hskipped := hnone (j - i) (by omega) (by omega)
      rwa [hplace (j - i) (by omega), Nat.add_sub_cancel' (Nat.le_of_lt hij)] at hskipped
    constructor
    · intro j other
      constructor
      · exact fun hsame => absurd hsame (by simp)
      · rintro ⟨hj, hplaysj, -, hother⟩
        have hlength := (List.getElem?_eq_some_iff.mp hother).1
        exact absurd (hplaysj.symm.trans (hlater j hlength hj)) (by simp)
    · exact ⟨fun _ => hlater, fun _ => rfl⟩

end Context

/-- What is kept of the queue when the take at another place becomes current. -/
structure Moved (playing next : Playing) (take : PlaybackInfo) : Prop where
  current : next.current = some take
  places : next.context.places = playing.context.places
  skipped : next.context.skipped = playing.context.skipped
  window : ∀ skippedComplete direction,
    endsWithItsWindow skippedComplete next.context.source direction =
      endsWithItsWindow skippedComplete playing.context.source direction

theorem Moved.refl {playing : Playing} {take : PlaybackInfo}
    (hcurrent : playing.current = some take) : Moved playing playing take :=
  ⟨hcurrent, rfl, rfl, fun _ _ => rfl⟩

section Native

variable {skippedComplete : Bool} {playing : Playing} {queue : NativeQueue}
  {source : NativeQueue → QueueSource} {index : Nat} {take : PlaybackInfo}

theorem takes_of_place (htake : (queue.takes.getD [])[index]? = some take) :
    ∃ takes, queue.takes = some takes ∧ takes[index]? = some take := by
  cases htakes : queue.takes with
  | none =>
      rw [htakes] at htake
      exact absurd htake.symm (Option.some_ne_none take)
  | some takes =>
      rw [htakes] at htake
      exact ⟨takes, rfl, htake⟩

theorem playNativeIndex_eq (htake : (queue.takes.getD [])[index]? = some take) :
    playNativeIndex playing queue source index = {
      context := { playing.context with source := source { queue with index := some index } }
      current := some take
      windowEnded := false } := by
  obtain ⟨takes, htakes, hat⟩ := takes_of_place htake
  unfold playNativeIndex
  rw [htakes]
  simp only [Option.bind_some, hat]

theorem hasTakes_of_place (htake : (queue.takes.getD [])[index]? = some take) :
    (queue.takes.any fun takes => 0 < takes.length) = true := by
  obtain ⟨takes, htakes, hat⟩ := takes_of_place htake
  rw [htakes]
  exact decide_eq_true (Nat.zero_lt_of_lt (List.getElem?_eq_some_iff.mp hat).1)

theorem playNativeTakes_take (source : NativeQueue → QueueSource)
    (htake : (queue.takes.getD [])[index]? = some take)
    (hnext : adjacentQueueTake skippedComplete playing.context playing.current .next =
      .take index take) :
    (if queue.takes.any fun takes => 0 < takes.length then
      playNativeTakesInDirection skippedComplete playing queue source .next else playing) = {
        context := { playing.context with source := source { queue with index := some index } }
        current := some take
        windowEnded := false } := by
  rw [if_pos (hasTakes_of_place htake)]
  unfold playNativeTakesInDirection
  rw [hnext]
  exact playNativeIndex_eq htake

theorem playNativeTakes_none
    (hnext : adjacentQueueTake skippedComplete playing.context playing.current .next = .none) :
    (if queue.takes.any fun takes => 0 < takes.length then
      playNativeTakesInDirection skippedComplete playing queue source .next else playing) =
        playing := by
  split_ifs
  · unfold playNativeTakesInDirection
    rw [hnext]
  · rfl

end Native

theorem playNextSong_take {skippedComplete : Bool} {playing : Playing} {index : Nat}
    {take : PlaybackInfo}
    (hnext : adjacentQueueTake skippedComplete playing.context playing.current .next =
      .take index take)
    (htake : playing.context.places[index]? = some take) :
    Moved playing (playNextSong skippedComplete playing) take := by
  obtain ⟨⟨source, skipped⟩, current, windowEnded⟩ := playing
  cases source with
  | playlist id entries at' =>
      obtain ⟨entry, hentry, rfl⟩ : ∃ entry, entries[index]? = some entry ∧
          playlistEntryToPlaybackInfo entry = take := by
        rwa [QueueContext.places, List.getElem?_map, Option.map_eq_some_iff] at htake
      unfold playNextSong playContextInDirection playPlaylistInDirection
      dsimp only
      rw [hnext]
      dsimp only
      unfold playPlaylistIndex
      rw [hentry]
      exact ⟨rfl, rfl, rfl, fun _ _ => rfl⟩
  | library queue =>
      have hplayed := playNativeTakes_take .library htake hnext
      unfold playNextSong playContextInDirection
      dsimp only
      rw [hplayed]
      exact ⟨rfl, rfl, rfl, fun _ _ => rfl⟩
  | album albumId queue =>
      have hplayed := playNativeTakes_take (.album albumId) htake hnext
      unfold playNextSong playContextInDirection
      dsimp only
      rw [hplayed]
      exact ⟨rfl, rfl, rfl, fun _ _ => rfl⟩

theorem playNextSong_none {skippedComplete : Bool} {playing : Playing}
    (hnext : adjacentQueueTake skippedComplete playing.context playing.current .next = .none) :
    playNextSong skippedComplete playing = playing := by
  obtain ⟨⟨source, skipped⟩, current, windowEnded⟩ := playing
  cases source with
  | playlist id entries at' =>
      unfold playNextSong playContextInDirection playPlaylistInDirection
      dsimp only
      rw [hnext]
  | library queue => exact playNativeTakes_none hnext
  | album albumId queue => exact playNativeTakes_none hnext

/-- After so many steps forward, the take in the transport is the one that many places
on in the round over the playable places. -/
theorem round_of_steps {skippedComplete : Bool} (playing : Playing) {i : Nat}
    (hnodup : playing.context.places.Nodup) (hi : i < playing.context.places.length)
    (hplays : playing.context.playable i = true)
    (hwraps : endsWithItsWindow skippedComplete playing.context.source .next = false)
    (hcurrent : playing.current = some playing.context.places[i]) (steps : Nat) :
    ∃ j take, (round playing.context.places.length i playing.context.playable)[
        steps % (round playing.context.places.length i playing.context.playable).length]? =
          some j ∧
      playing.context.places[j]? = some take ∧
      Moved playing ((playNextSong skippedComplete)^[steps] playing) take := by
  induction steps with
  | zero =>
      refine ⟨i, playing.context.places[i], ?_, List.getElem?_eq_getElem hi,
        Moved.refl hcurrent⟩
      rw [Nat.zero_mod]
      exact round_zero hi hplays
  | succ steps ih =>
      obtain ⟨j, take, hj, htake, hmoved⟩ := ih
      obtain ⟨hjlength, hat⟩ := List.getElem?_eq_some_iff.mp htake
      rw [Function.iterate_succ_apply']
      generalize hreached : (playNextSong skippedComplete)^[steps] playing = reached at hmoved
      have hplayable : reached.context.playable = playing.context.playable := by
        funext place
        rw [QueueContext.playable, QueueContext.playable, hmoved.places, hmoved.skipped]
      have hplace : queuePlaceOf reached.context reached.current = some j := by
        have hnodup' : reached.context.places.Nodup := hmoved.places ▸ hnodup
        have hjlength' : j < reached.context.places.length := hmoved.places ▸ hjlength
        have hfound := queuePlaceOf_places hnodup' hjlength'
        simp only [hmoved.places, hat] at hfound
        rw [hmoved.current]
        exact hfound
      have hjreached : j < reached.context.places.length := hmoved.places ▸ hjlength
      obtain ⟨htakes, hnone⟩ := step_in_circle hplace hjreached
        ((hmoved.window skippedComplete .next).trans hwraps)
      rw [hplayable, hmoved.places] at htakes hnone
      rcases Nat.lt_or_eq_of_le (round_pos hi hplays) with hmore | hone
      · obtain ⟨next, hnext, hfirst⟩ := next_of_round hi hplays hmore hj
        have hlength : next < playing.context.places.length :=
          ((mem_round hi).mp (List.mem_of_getElem? hnext)).1
        have hthere := List.getElem?_eq_getElem hlength
        have hstep := (htakes next playing.context.places[next]).mpr ⟨hfirst, hthere⟩
        have hmore := playNextSong_take hstep (hmoved.places.symm ▸ hthere)
        exact ⟨next, _, hnext, hthere, hmore.current, hmore.places.trans hmoved.places,
          hmore.skipped.trans hmoved.skipped,
          fun complete direction =>
            (hmore.window complete direction).trans (hmoved.window complete direction)⟩
      · have hstep := hnone.mpr fun other hother hne =>
          only_of_round hi hone.symm hj hother hne
        rw [playNextSong_none hstep]
        refine ⟨j, take, ?_, htake, hmoved⟩
        rw [← hone, Nat.mod_one] at hj ⊢
        exact hj

/-- Stepping a queue of distinct places. -/
theorem queue_steps (ctx : QueueContext) (hdistinct : ctx.places.Nodup)
    (skippedComplete : Bool) :
    (∀ (i : Nat) (hi : i < ctx.places.length),
      queuePlaceOf ctx (some ctx.places[i]) = some i) ∧
    (∀ (current : Option PlaybackInfo) (i : Nat) (direction : QueueDirection),
      queuePlaceOf ctx current = some i → i < ctx.places.length →
      endsWithItsWindow skippedComplete ctx.source direction = false →
      (∀ j take, adjacentQueueTake skippedComplete ctx current direction = .take j take ↔
        First ctx.places.length (direction.place ctx.places.length i) ctx.playable j ∧
          ctx.places[j]? = some take) ∧
      (adjacentQueueTake skippedComplete ctx current direction = .none ↔
        ∀ j < ctx.places.length, j ≠ i → ctx.playable j = false)) ∧
    (∀ (current : Option PlaybackInfo) (i : Nat),
      queuePlaceOf ctx current = some i → i < ctx.places.length →
      endsWithItsWindow skippedComplete ctx.source .next = true →
      (∀ j take, adjacentQueueTake skippedComplete ctx current .next = .take j take ↔
        i < j ∧ ctx.playable j = true ∧ (∀ l, i < l → l < j → ctx.playable l = false) ∧
          ctx.places[j]? = some take) ∧
      (adjacentQueueTake skippedComplete ctx current .next = .windowEnd ↔
        ∀ j < ctx.places.length, i < j → ctx.playable j = false)) ∧
    (∀ (i : Nat) (hi : i < ctx.places.length) (windowEnded : Bool), ctx.playable i = true →
      endsWithItsWindow skippedComplete ctx.source .next = false →
      (round ctx.places.length i ctx.playable)[0]? = some i ∧
      (round ctx.places.length i ctx.playable).Nodup ∧
      (∀ j, j ∈ round ctx.places.length i ctx.playable ↔
        j < ctx.places.length ∧ ctx.playable j = true) ∧
      ∀ steps, ∃ j take,
        (round ctx.places.length i ctx.playable)[
          steps % (round ctx.places.length i ctx.playable).length]? = some j ∧
        ctx.places[j]? = some take ∧
        ((playNextSong skippedComplete)^[steps]
          ⟨ctx, some ctx.places[i], windowEnded⟩).current = some take) := by
  refine ⟨fun i hi => queuePlaceOf_places hdistinct hi,
    fun current i direction hplace hi hwraps => step_in_circle hplace hi hwraps,
    fun current i hplace hi hwindow => step_in_window hplace hi hwindow, ?_⟩
  intro i hi windowEnded hplays hwraps
  refine ⟨round_zero hi hplays, round_nodup hi, fun j => mem_round hi, ?_⟩
  intro steps
  obtain ⟨j, take, hj, htake, hmoved⟩ := round_of_steps
    ⟨ctx, some ctx.places[i], windowEnded⟩ hdistinct hi hplays hwraps rfl steps
  exact ⟨j, take, hj, htake, hmoved.current⟩

/-- A playlist that holds one take at two places, with the take between them skipped. -/
def twiceHeld : QueueContext where
  source := .playlist "p" [⟨0, "a"⟩, ⟨1, "b"⟩, ⟨2, "a"⟩, ⟨3, "c"⟩] 0
  skipped := [.ofEntry ⟨1, "b"⟩]

theorem queue_steps_twiceHeld :
    queuePlaceOf twiceHeld (some (.ofEntry ⟨2, "a"⟩)) = some 2 ∧
    round 4 0 twiceHeld.playable = [0, 2, 3] ∧
    ∀ steps, ∃ j take,
      (round 4 0 twiceHeld.playable)[steps % (round 4 0 twiceHeld.playable).length]? = some j ∧
      twiceHeld.places[j]? = some take ∧
      ((playNextSong false)^[steps] ⟨twiceHeld, some (.ofEntry ⟨0, "a"⟩), false⟩).current =
        some take :=
  ⟨(queue_steps twiceHeld (by decide) false).1 2 (by decide), by decide,
    ((queue_steps twiceHeld (by decide) false).2.2.2 0 (by decide) false (by decide)
      (by decide)).2.2.2⟩

end Songmaker.Player.QueueSteps
