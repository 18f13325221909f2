import Songmaker.Player.PauseHolds

namespace Songmaker.Player.PauseHolds

open ContinuousDeck (DeckEntry)

variable {p : AudioPlayer} (around : Surroundings)

/-! ### Play, pause and track changes -/

theorem Quiet.recoverStream (hquiet : Quiet p) {reason : RecoveryReason}
    (hrecoverable : streamIsRecoverable p around = false) :
    Kept p (p.recoverStream around reason) := by
  rw [AudioPlayer.recoverStream]
  split
  · exact hquiet.refl
  · rename_i hready
    split
    · exact hquiet.refl
    · rename_i state hstate
      have hprobe : p.streamProbe = none := by
        simp only [Bool.or_eq_true, not_or, Bool.not_eq_true, Option.isSome_eq_false_iff,
          Option.isNone_iff_eq_none] at hready
        exact hready.2
      simp [streamIsRecoverable, hprobe, hstate] at hrecoverable

theorem Quiet.forgetRecovery (hquiet : Quiet p) : Kept p p.forgetRecovery where
  quiet := { hquiet with unrecovered := rfl, unwatched := rfl }
  asked := rfl

theorem Quiet.recoverOnPlay (hquiet : Quiet p) {reason : RecoveryReason}
    (hgoing : reloadSetsGoing p around = false) : Kept p (p.recoverOnPlay around reason) := by
  have hforgotten := hquiet.forgetRecovery
  simp only [AudioPlayer.recoverOnPlay]
  rw [reloadSetsGoing] at hgoing
  split
  · rename_i hactive
    rw [if_pos hactive] at hgoing
    exact hforgotten.trans (hforgotten.quiet.recoverStream around hgoing)
  · rename_i hinactive
    rw [if_neg hinactive] at hgoing
    obtain ⟨hdeck, hurl⟩ := Bool.or_eq_false_iff.mp hgoing
    split
    · exact hforgotten
    · split
      · have hnone : p.forgetRecovery.currentUrl = none := Option.isSome_eq_false_iff.mp hurl |>
          Option.isNone_iff_eq_none.mp
        have hreload : p.forgetRecovery.reloadAt around (p.reachedPosition around) =
            p.forgetRecovery := by
          simp [AudioPlayer.reloadAt, hnone]
        rw [hreload]
        exact hforgotten
      · rename_i session hsession
        rw [hsession] at hdeck
        contradiction

theorem Quiet.play (hquiet : Quiet p) (hgoing : playSetsGoing p around = false) :
    Kept p (p.play around) := by
  rw [AudioPlayer.play]
  split
  · exact hquiet.refl
  · rename_i hheld
    simp only [Bool.or_eq_true, Bool.not_eq_true', not_or, Bool.not_eq_false,
      Bool.not_eq_true, Option.isNone_eq_false_iff] at hheld
    simp only [playSetsGoing, hheld, Bool.true_and, Bool.or_eq_false_iff,
      Bool.not_eq_false'] at hgoing
    obtain ⟨hreloads, hgoing⟩ := hgoing
    split
    · exact hquiet.recoverOnPlay around hgoing
    · rename_i hresumes
      simp only [Bool.not_eq_true] at hresumes
      rw [playReloads, hresumes, Bool.false_or, Bool.and_eq_true, decide_eq_true_eq] at hreloads
      split
      · rename_i hloading
        simp [hreloads.1, hquiet.notBuffering] at hloading
      · rw [if_pos hreloads.2]
        exact hquiet.recoverOnPlay around hgoing

theorem wish_stopAsking : wish (p.stopAsking around) = ⟨p.status, false, none, none, asks p⟩ :=
  wish_pauseElement _ around

theorem quiet_pause (haudio : p.audio = true)
    (hends : around.element.ended = true → p.status ≠ .playing ∧ p.status ≠ .buffering) :
    Quiet (p.pause around) := by
  have hwish := wish_stopAsking (p := p) around
  have hgo : ¬(!p.audio) = true := by simp [haudio]
  rw [AudioPlayer.pause, if_neg hgo]
  split
  · exact quiet_of_wish (congrArg (fun w => { w with status := .paused }) hwish)
      PlayerStatus.noConfusion PlayerStatus.noConfusion
  · rename_i hkeeps
    have hshown : p.status = .error ∨ around.element.ended = true := by
      by_contra hneither
      obtain ⟨herror, hended⟩ := not_or.mp hneither
      exact hkeeps (by simp [herror, hended])
    rcases hshown with herror | hended
    · rw [herror] at hwish
      exact quiet_of_wish hwish PlayerStatus.noConfusion PlayerStatus.noConfusion
    · exact quiet_of_wish hwish (hends hended).1 (hends hended).2

theorem asks_pause : asks (p.pause around) = asks p := by
  have hasked := congrArg Wish.asked (wish_stopAsking (p := p) around)
  rw [AudioPlayer.pause]
  split
  · rfl
  · split
    · exact hasked
    · exact hasked

theorem wish_enterStreamTrack (engine : QueueStreamEngine) (streamState : StreamTrackState) :
    wish (p.enterStreamTrack around engine streamState false) = wish p := by
  rw [AudioPlayer.enterStreamTrack]
  exact wish_tell _ Command.noConfusion

theorem Quiet.enterStreamTrack (hquiet : Quiet p) {engine : QueueStreamEngine}
    (streamState : StreamTrackState) {autoplay : Bool} (hactive : engine.active = true)
    (hplays : autoplay = true → playReloads p around = true ∧ p.streamProbe.isSome) :
    Kept p (p.enterStreamTrack around engine streamState autoplay) := by
  have hentered : Kept p (p.enterStreamTrack around engine streamState false) :=
    .of_wish hquiet (wish_enterStreamTrack around engine streamState)
  cases autoplay with
  | false => exact hentered
  | true =>
      obtain ⟨hreloads, hprobe⟩ := hplays rfl
      have hreloads' : playReloads (p.enterStreamTrack around engine streamState false)
          (around.seeked streamState.absoluteTime) = true := hreloads
      have hgoing : reloadSetsGoing (p.enterStreamTrack around engine streamState false)
          (around.seeked streamState.absoluteTime) = false := by
        have hsome : (p.enterStreamTrack around engine streamState false).streamProbe.isSome =
          true := hprobe
        have hstream : (p.enterStreamTrack around engine streamState false).streamEngine.active =
          true := hactive
        rw [reloadSetsGoing, if_pos hstream, streamIsRecoverable,
          Option.isNone_eq_false_iff.mpr hsome, Bool.false_and]
      refine hentered.trans (hentered.quiet.play _ ?_)
      rw [playSetsGoing, hreloads', hgoing, Bool.not_true, Bool.false_or, Bool.and_false]

end Songmaker.Player.PauseHolds
