import Songmaker.Songs.SongSaves
import Mathlib.Data.List.Nodup

namespace Songmaker.Songs.VersionImmutability

open Songmaker.Foundation
open Songmaker.Jobs
open Songmaker.Songs.SongSaves

variable {Knob : Type}

theorem hasActiveJob_iff {state : State Knob} {version : VersionId} :
    state.hasActiveJobForVersion version = true ↔
      ∃ job ∈ state.jobs, job.versionId = some version ∧ job.status ∈ jobActiveStatuses := by
  simp [State.hasActiveJobForVersion]

theorem hasTake_iff {state : State Knob} {version : VersionId} :
    state.hasTake version = true ↔ ∃ take ∈ state.takes, take.versionId = some version := by
  simp [State.hasTake]

theorem latestVersion_mem {state : State Knob} {song : SongId} {version : Version Knob}
    (h : state.latestVersion song = some version) :
    version ∈ state.versions ∧ version.songId = song := by
  simpa using List.mem_of_getLast? h

variable [DecidableEq Knob]

/-- What a step leaves of the versions that have a take or an active job. -/
structure Immutable (state next : State Knob) : Prop where
  sung : ∀ version ∈ state.versions, state.hasTake version.id = true →
    ∀ version' ∈ next.versions, version'.id = version.id →
      version'.content.creativeDiffersFrom version = false
  rendered : ∀ version ∈ state.versions, state.hasActiveJobForVersion version.id = true →
    version ∈ next.versions

/-- The save that a session commits. -/
def committedSave : Stage Knob → Option (SongId × SaveRequest Knob)
  | .rewrite song request _ => some (song, request)
  | .newVersion song request _ => some (song, request)
  | _ => none

/-- Whether the saves of some kind that change nothing leave the versions as they are. -/
def KeepsEqualContent (kind : SaveRequest Knob → Prop) (state : State Knob)
    (action : Action Knob) (next : State Knob) : Prop :=
  ∀ session song request previous, action = .commit session →
    committedSave (state.stage session) = some (song, request) → kind request →
    state.latestVersion song = some previous →
    (request.content (some previous)).differsFrom previous = false →
    next.versions = state.versions

/-- The song that a session has locked at a stage. -/
def heldSong : Stage Knob → Option SongId
  | .saveLocked song _ | .checkJobs song .. | .checkTakes song .. | .rewrite song ..
  | .newVersion song .. | .jobLocked song _ | .newJob song _ | .deleteLocked song ..
  | .deleteVersion song .. => some song
  | .newTake job => some job.songId
  | _ => none

/-- The job that a session has locked at a stage. -/
def heldJob : Stage Knob → Option JobId
  | .lockForTake job | .newTake job => some job.id
  | _ => none

/-- A version id that only this song's versions can have. -/
def OfSong (state : State Knob) (version : VersionId) (song : SongId) : Prop :=
  version < state.nextVersion ∧ ∀ row ∈ state.versions, row.id = version → row.songId = song

/-- What a session knows at a stage, as long as it holds its locks. -/
def StageKept (state : State Knob) : Stage Knob → Prop
  | .checkJobs song request previous =>
      state.latestVersion song = some previous ∧ request.forceNewVersion = false ∧
        (request.content (some previous)).differsFrom previous = true
  | .checkTakes song request previous =>
      state.latestVersion song = some previous ∧ request.forceNewVersion = false ∧
        (request.content (some previous)).differsFrom previous = true ∧
        state.hasActiveJobForVersion previous.id = false
  | .rewrite song request previous =>
      state.latestVersion song = some previous ∧ request.forceNewVersion = false ∧
        ((request.content (some previous)).differsFrom previous = false ∨
          state.hasActiveJobForVersion previous.id = false ∧
            (state.hasTake previous.id = true →
              (request.content (some previous)).creativeDiffersFrom previous = false))
  | .newVersion song request previous =>
      state.latestVersion song = previous ∧ (request.forceNewVersion = true ∨
        ∀ row ∈ previous, (request.content (some row)).differsFrom row = true)
  | .newJob song version => ∃ row ∈ state.versions, row.id = version ∧ row.songId = song
  | .lockForDelete song version _ => OfSong state version song
  | .deleteLocked song version _ => OfSong state version song
  | .deleteVersion song version _ =>
      OfSong state version song ∧ state.hasActiveJobForVersion version = false
  | .lockForTake job => job ∈ state.jobs ∧ job.status ∈ jobActiveStatuses
  | .newTake job => job ∈ state.jobs ∧ job.status ∈ jobActiveStatuses
  | _ => True

/-- A session that goes on has the locks that its stage was reached with. -/
structure Invariant (state : State Knob) : Prop where
  ids : (state.versions.map (·.id)).Nodup
  fresh : ∀ version ∈ state.versions, version.id < state.nextVersion
  songLocks : ∀ session song, heldSong (state.stage session) = some song →
    state.songLock song = some session
  jobLocks : ∀ session job, heldJob (state.stage session) = some job →
    state.jobLock job = some session
  stages : ∀ session, StageKept state (state.stage session)

/-- No transaction runs, and every version has an id of its own. -/
structure Settled (state : State Knob) : Prop where
  idle : ∀ session, state.stage session = .idle
  ids : (state.versions.map (·.id)).Nodup
  fresh : ∀ version ∈ state.versions, version.id < state.nextVersion

/-- Songs without a session, and the steps of the sessions. -/
def songSaves (Knob : Type) [DecidableEq Knob] : TransitionSystem (State Knob) (Action Knob) :=
  .ofAct Settled act

theorem settled_invariant {state : State Knob} (h : Settled state) : Invariant state where
  ids := h.ids
  fresh := h.fresh
  songLocks session song hheld := by
    rw [h.idle session] at hheld
    exact absurd hheld (by simp [heldSong])
  jobLocks session job hheld := by
    rw [h.idle session] at hheld
    exact absurd hheld (by simp [heldJob])
  stages session := by
    rw [h.idle session]
    trivial

theorem Invariant.eq_of_id {state : State Knob} (hI : Invariant state) {first second : Version Knob}
    (hfirst : first ∈ state.versions) (hsecond : second ∈ state.versions)
    (hid : first.id = second.id) : first = second :=
  List.inj_on_of_nodup_map hI.ids hfirst hsecond hid

theorem Invariant.ofSong (hI : Invariant state) {row : Version Knob}
    (hrow : row ∈ state.versions) : OfSong state row.id row.songId :=
  ⟨hI.fresh row hrow, fun other hother hid => by rw [hI.eq_of_id hother hrow hid]⟩

section Frame

variable {state next : State Knob} {session : Session} {stage : Stage Knob}

/-- What a step of another session leaves of what a session at a stage knows. -/
structure Frame (state next : State Knob) (stage : Stage Knob) : Prop where
  latest : ∀ song, heldSong stage = some song → next.latestVersion song = state.latestVersion song
  found : ∀ song, heldSong stage = some song → ∀ row ∈ state.versions, row.songId = song →
    ∃ row' ∈ next.versions, row'.id = row.id ∧ row'.songId = song
  active : ∀ song version, heldSong stage = some song → OfSong state version song →
    state.hasActiveJobForVersion version = false → next.hasActiveJobForVersion version = false
  take : ∀ version, next.hasTake version = true →
    state.hasTake version = true ∨ state.hasActiveJobForVersion version = true
  ofSong : ∀ version song, OfSong state version song → OfSong next version song
  job : ∀ job ∈ state.jobs, job.status ∈ jobActiveStatuses → heldJob stage = some job.id →
    job ∈ next.jobs

theorem StageKept.frame (hI : Invariant state) (hkept : StageKept state stage)
    (hframe : Frame state next stage) : StageKept next stage := by
  have hprevious : ∀ {song previous}, state.latestVersion song = some previous →
      OfSong state previous.id song := by
    intro song previous hlatest
    obtain ⟨hmem, rfl⟩ := latestVersion_mem hlatest
    exact hI.ofSong hmem
  rcases stage with _ | _ | _ | ⟨song, request, previous⟩ | ⟨song, request, previous⟩ |
    ⟨song, request, previous⟩ | ⟨song, request, previous⟩ | _ | _ | ⟨song, version⟩ |
    ⟨song, version, _⟩ | ⟨song, version, _⟩ | ⟨song, version, _⟩ | _ | job | job
  case checkJobs =>
    exact ⟨(hframe.latest song rfl).trans hkept.1, hkept.2⟩
  case checkTakes =>
    obtain ⟨hlatest, hforce, hdiffers, hjobs⟩ := hkept
    exact ⟨(hframe.latest song rfl).trans hlatest, hforce, hdiffers,
      hframe.active song _ rfl (hprevious hlatest) hjobs⟩
  case rewrite =>
    obtain ⟨hlatest, hforce, hchange⟩ := hkept
    refine ⟨(hframe.latest song rfl).trans hlatest, hforce, hchange.imp_right ?_⟩
    rintro ⟨hjobs, htakes⟩
    refine ⟨hframe.active song _ rfl (hprevious hlatest) hjobs, fun htake => ?_⟩
    rcases hframe.take _ htake with htake | hactive
    · exact htakes htake
    · rw [hjobs] at hactive
      exact absurd hactive (by simp)
  case newVersion =>
    exact ⟨(hframe.latest song rfl).trans hkept.1, hkept.2⟩
  case newJob =>
    obtain ⟨row, hrow, rfl, hsong⟩ := hkept
    exact hframe.found song rfl row hrow hsong
  case lockForDelete => exact hframe.ofSong version song hkept
  case deleteLocked => exact hframe.ofSong version song hkept
  case deleteVersion =>
    exact ⟨hframe.ofSong version song hkept.1, hframe.active song version rfl hkept.1 hkept.2⟩
  case lockForTake => exact ⟨hframe.job job hkept.1 hkept.2 rfl, hkept.2⟩
  case newTake => exact ⟨hframe.job job hkept.1 hkept.2 rfl, hkept.2⟩
  all_goals trivial

omit [DecidableEq Knob] in
theorem frame_of_rows (hversions : next.versions = state.versions)
    (htakes : next.takes = state.takes) (hjobs : next.jobs = state.jobs)
    (hfresh : next.nextVersion = state.nextVersion) : Frame state next stage where
  latest song _ := by rw [State.latestVersion, hversions, State.latestVersion]
  found song _ row hrow hsong := ⟨row, hversions ▸ hrow, rfl, hsong⟩
  active song version _ _ hnone := by
    rw [State.hasActiveJobForVersion, hjobs]
    exact hnone
  take version htake := by
    rw [State.hasTake, htakes] at htake
    exact .inl htake
  ofSong version song h := by
    rw [OfSong, hversions, hfresh]
    exact h
  job job hjob _ _ := hjobs ▸ hjob

end Frame

section Steps

variable {state next : State Knob} {session : Session} {stage : Stage Knob}

theorem Invariant.step (hI : Invariant state) (session : Session)
    (hids : (next.versions.map (·.id)).Nodup)
    (hfresh : ∀ version ∈ next.versions, version.id < next.nextVersion)
    (hothers : ∀ other, other ≠ session → next.stage other = state.stage other)
    (hframe : ∀ other, other ≠ session → Frame state next (state.stage other))
    (hsongLock : ∀ other song, other ≠ session → state.songLock song = some other →
      next.songLock song = some other)
    (hjobLock : ∀ other job, other ≠ session → state.jobLock job = some other →
      next.jobLock job = some other)
    (hsong : ∀ song, heldSong (next.stage session) = some song →
      next.songLock song = some session)
    (hjob : ∀ job, heldJob (next.stage session) = some job → next.jobLock job = some session)
    (hstage : StageKept next (next.stage session)) : Invariant next where
  ids := hids
  fresh := hfresh
  songLocks other song hheld := by
    by_cases hother : other = session
    · subst hother
      exact hsong song hheld
    · rw [hothers other hother] at hheld
      exact hsongLock other song hother (hI.songLocks other song hheld)
  jobLocks other job hheld := by
    by_cases hother : other = session
    · subst hother
      exact hjob job hheld
    · rw [hothers other hother] at hheld
      exact hjobLock other job hother (hI.jobLocks other job hheld)
  stages other := by
    by_cases hother : other = session
    · subst hother
      exact hstage
    · rw [hothers other hother]
      exact (hI.stages other).frame hI (hframe other hother)

theorem Invariant.moveTo (hI : Invariant state)
    (hsong : ∀ song, heldSong stage = some song → state.songLock song = some session)
    (hjob : ∀ job, heldJob stage = some job → state.jobLock job = some session)
    (hstage : StageKept state stage) : Invariant (state.moveTo session stage) := by
  have hself : (state.moveTo session stage).stage session = stage := Function.update_self _ _ _
  apply hI.step session
  · exact hI.ids
  · exact hI.fresh
  · exact fun other hother => Function.update_of_ne hother _ _
  · exact fun _ _ => frame_of_rows rfl rfl rfl rfl
  · exact fun _ _ _ h => h
  · exact fun _ _ _ h => h
  · rw [hself]
    exact hsong
  · rw [hself]
    exact hjob
  · rw [hself]
    exact hstage.frame hI (frame_of_rows rfl rfl rfl rfl)

theorem Invariant.goOn (hI : Invariant state)
    (hsong : heldSong stage = heldSong (state.stage session))
    (hjob : heldJob stage = heldJob (state.stage session)) (hstage : StageKept state stage) :
    Invariant (state.moveTo session stage) :=
  hI.moveTo (fun song hheld => hI.songLocks session song (hsong.symm.trans hheld))
    (fun job hheld => hI.jobLocks session job (hjob.symm.trans hheld)) hstage

omit [DecidableEq Knob] in
theorem release_stage_self : (state.release session).stage session = .idle :=
  Function.update_self _ _ _

theorem Invariant.release (hI : Invariant state) (hids : (next.versions.map (·.id)).Nodup)
    (hfresh : ∀ version ∈ next.versions, version.id < next.nextVersion)
    (hstages : next.stage = state.stage) (hsongs : next.songLock = state.songLock)
    (hjobs : next.jobLock = state.jobLock)
    (hframe : ∀ other, other ≠ session → Frame state next (state.stage other)) :
    Invariant (next.release session) := by
  apply hI.step session
  · exact hids
  · exact hfresh
  · intro other hother
    rw [← hstages]
    exact Function.update_of_ne hother _ _
  · intro other hother
    exact ⟨(hframe other hother).latest, (hframe other hother).found, (hframe other hother).active,
      (hframe other hother).take, (hframe other hother).ofSong, (hframe other hother).job⟩
  · intro other song hother hlock
    have hne : next.songLock song ≠ some session := by simpa [hsongs, hlock] using hother
    exact (if_neg hne).trans (hsongs ▸ hlock)
  · intro other job hother hlock
    have hne : next.jobLock job ≠ some session := by simpa [hjobs, hlock] using hother
    exact (if_neg hne).trans (hjobs ▸ hlock)
  · rw [release_stage_self]
    exact fun _ h => absurd h (by simp [heldSong])
  · rw [release_stage_self]
    exact fun _ h => absurd h (by simp [heldJob])
  · rw [release_stage_self]
    trivial

theorem lockSong_invariant (hI : Invariant state) {song : SongId}
    (hlock : state.lockSong session song stage = some next) (hsong : heldSong stage = some song)
    (hjob : heldJob stage = heldJob (state.stage session)) (hstage : StageKept state stage) :
    Invariant next := by
  unfold State.lockSong at hlock
  split_ifs at hlock with hthere hunlocked
  · obtain rfl := Option.some.inj hlock
    apply hI.step session
    · exact hI.ids
    · exact hI.fresh
    · exact fun other hother => Function.update_of_ne hother _ _
    · exact fun _ _ => frame_of_rows rfl rfl rfl rfl
    · intro other song' _ hheld
      have hne : song' ≠ song := by
        rintro rfl
        rw [hunlocked] at hheld
        exact absurd hheld (by simp)
      exact (Function.update_of_ne hne _ _).trans hheld
    · exact fun _ _ _ h => h
    · intro song' hheld
      obtain rfl : song = song' := by
        simpa [State.moveTo, hsong] using hheld
      exact Function.update_self _ _ _
    · intro job hheld
      exact hI.jobLocks session job (by simpa [State.moveTo, hjob] using hheld)
    · have hkept : StageKept (State.moveTo { state with
          songLock := Function.update state.songLock song (some session) } session stage) stage :=
        hstage.frame hI (frame_of_rows rfl rfl rfl rfl)
      simpa [State.moveTo] using hkept
  · obtain rfl := Option.some.inj hlock
    exact hI.release hI.ids hI.fresh rfl rfl rfl fun _ _ => frame_of_rows rfl rfl rfl rfl

theorem Invariant.end (hI : Invariant state) : Invariant (state.release session) :=
  hI.release hI.ids hI.fresh rfl rfl rfl fun _ _ => frame_of_rows rfl rfl rfl rfl

theorem saveLocked_invariant (hI : Invariant state) {song : SongId} {request : SaveRequest Knob}
    (hat : state.stage session = .saveLocked song request)
    (hstep : advance state session = some next) : Invariant next := by
  unfold advance at hstep
  rw [hat] at hstep
  dsimp only at hstep
  have hgoOn : ∀ {stage : Stage Knob}, heldSong stage = some song → heldJob stage = none →
      StageKept state stage → Invariant (state.moveTo session stage) := fun hsong hjob hstage =>
    hI.goOn (by rw [hat, hsong]; rfl) (by rw [hat, hjob]; rfl) hstage
  split at hstep
  · rename_i hlatest
    obtain rfl := Option.some.inj hstep
    exact hgoOn rfl rfl ⟨hlatest, .inr (by simp)⟩
  · rename_i previous hlatest
    split_ifs at hstep with hforce hdiffers
    · obtain rfl := Option.some.inj hstep
      exact hgoOn rfl rfl ⟨hlatest, .inl hforce⟩
    · obtain rfl := Option.some.inj hstep
      exact hgoOn rfl rfl ⟨hlatest, by simpa using hforce, hdiffers⟩
    · obtain rfl := Option.some.inj hstep
      exact hgoOn rfl rfl ⟨hlatest, by simpa using hforce, .inl (by simpa using hdiffers)⟩

theorem checkJobs_invariant (hI : Invariant state) {song : SongId} {request : SaveRequest Knob}
    {previous : Version Knob} (hat : state.stage session = .checkJobs song request previous)
    (hstep : advance state session = some next) : Invariant next := by
  have hkept := hI.stages session
  rw [hat] at hkept
  obtain ⟨hlatest, hforce, hdiffers⟩ := hkept
  unfold advance at hstep
  rw [hat] at hstep
  dsimp only at hstep
  split_ifs at hstep with hjobs
  · obtain rfl := Option.some.inj hstep
    apply hI.goOn
    · rw [hat]
      rfl
    · rw [hat]
      rfl
    · refine ⟨hlatest, .inr ?_⟩
      rintro _ ⟨⟩
      exact hdiffers
  · obtain rfl := Option.some.inj hstep
    apply hI.goOn
    · rw [hat]
      rfl
    · rw [hat]
      rfl
    · exact ⟨hlatest, hforce, hdiffers, by simpa using hjobs⟩

theorem checkTakes_invariant (hI : Invariant state) {song : SongId} {request : SaveRequest Knob}
    {previous : Version Knob} (hat : state.stage session = .checkTakes song request previous)
    (hstep : advance state session = some next) : Invariant next := by
  have hkept := hI.stages session
  rw [hat] at hkept
  obtain ⟨hlatest, hforce, hdiffers, hjobs⟩ := hkept
  unfold advance at hstep
  rw [hat] at hstep
  dsimp only at hstep
  split_ifs at hstep with htakes
  · obtain rfl := Option.some.inj hstep
    apply hI.goOn
    · rw [hat]
      rfl
    · rw [hat]
      rfl
    · refine ⟨hlatest, .inr ?_⟩
      rintro _ ⟨⟩
      exact hdiffers
  · obtain rfl := Option.some.inj hstep
    apply hI.goOn
    · rw [hat]
      rfl
    · rw [hat]
      rfl
    · refine ⟨hlatest, hforce, .inr ⟨hjobs, fun htake => ?_⟩⟩
      simpa [htake] using htakes

theorem lockJob_invariant (hI : Invariant state) {job : JobId}
    (hat : state.stage session = .lockJob job)
    (hstep : advance state session = some next) : Invariant next := by
  unfold advance at hstep
  rw [hat] at hstep
  dsimp only at hstep
  split_ifs at hstep with hunlocked
  split at hstep
  · rename_i row hrow
    obtain rfl := Option.some.inj hstep
    have hfound := List.find?_some hrow
    simp only [decide_eq_true_eq, Bool.and_eq_true] at hfound
    apply hI.step session
    · exact hI.ids
    · exact hI.fresh
    · exact fun other hother => Function.update_of_ne hother _ _
    · exact fun _ _ => frame_of_rows rfl rfl rfl rfl
    · exact fun _ _ _ h => h
    · intro other job' _ hheld
      have hne : job' ≠ job := by
        rintro rfl
        rw [hunlocked] at hheld
        exact absurd hheld (by simp)
      exact (Function.update_of_ne hne _ _).trans hheld
    · exact fun song hheld => absurd hheld (by simp [State.moveTo, heldSong])
    · intro job' hheld
      obtain rfl : row.id = job' := by simpa [State.moveTo, heldJob] using hheld
      rw [← hfound.1]
      exact Function.update_self _ _ _
    · simpa [State.moveTo, StageKept] using ⟨List.mem_of_find?_eq_some hrow, hfound.2⟩
  · obtain rfl := Option.some.inj hstep
    exact hI.end

theorem jobLocked_invariant (hI : Invariant state) {song : SongId} {version : VersionId}
    (hat : state.stage session = .jobLocked song version)
    (hstep : advance state session = some next) : Invariant next := by
  unfold advance at hstep
  rw [hat] at hstep
  dsimp only at hstep
  split_ifs at hstep with hfound
  · obtain rfl := Option.some.inj hstep
    apply hI.goOn
    · rw [hat]
      rfl
    · rw [hat]
      rfl
    · simpa [StageKept] using hfound
  · obtain rfl := Option.some.inj hstep
    exact hI.end

theorem deleteLocked_invariant (hI : Invariant state) {song : SongId} {version : VersionId}
    {deleteGenerations : Bool}
    (hat : state.stage session = .deleteLocked song version deleteGenerations)
    (hstep : advance state session = some next) : Invariant next := by
  have hkept := hI.stages session
  rw [hat] at hkept
  unfold advance at hstep
  rw [hat] at hstep
  dsimp only at hstep
  split_ifs at hstep with hfree
  · obtain rfl := Option.some.inj hstep
    simp only [Bool.and_eq_true, Bool.not_eq_true'] at hfree
    apply hI.goOn
    · rw [hat]
      rfl
    · rw [hat]
      rfl
    · exact ⟨hkept, hfree.2⟩
  · obtain rfl := Option.some.inj hstep
    exact hI.end

theorem advance_invariant (hI : Invariant state) (hstep : advance state session = some next) :
    Invariant next := by
  have hkept := hI.stages session
  rcases hat : state.stage session with _ | _ | _ | _ | _ | _ | _ | _ | _ | _ |
    ⟨song, version, deleteGenerations⟩ | _ | _ | _ | job | _
  case saveLocked => exact saveLocked_invariant hI hat hstep
  case checkJobs => exact checkJobs_invariant hI hat hstep
  case checkTakes => exact checkTakes_invariant hI hat hstep
  case jobLocked => exact jobLocked_invariant hI hat hstep
  case deleteLocked => exact deleteLocked_invariant hI hat hstep
  case lockJob => exact lockJob_invariant hI hat hstep
  all_goals
    rw [hat] at hkept
    unfold advance at hstep
    rw [hat] at hstep
    dsimp only at hstep
  case lockForSave => exact lockSong_invariant hI hstep rfl (by rw [hat]; rfl) (by trivial)
  case lockForJob => exact lockSong_invariant hI hstep rfl (by rw [hat]; rfl) (by trivial)
  case lockForDelete => exact lockSong_invariant hI hstep rfl (by rw [hat]; rfl) hkept
  case lockForTake => exact lockSong_invariant hI hstep rfl (by rw [hat]; rfl) hkept
  all_goals exact absurd hstep (by simp)

theorem updateJobStatus_invariant (hI : Invariant state) {job : JobId} (status : JobStatus)
    (hunlocked : state.jobLock job = none) : Invariant (updateJobStatus state job status) := by
  have hactive : ∀ version,
      (updateJobStatus state job status).hasActiveJobForVersion version = true →
      state.hasActiveJobForVersion version = true := by
    intro version hactive
    obtain ⟨row, hrow, hversion, hstatus⟩ := hasActiveJob_iff.mp hactive
    obtain ⟨old, hold, rfl⟩ := List.mem_map.mp hrow
    refine hasActiveJob_iff.mpr ⟨old, hold, ?_⟩
    split at hversion
    · rename_i hchanged
      simp only [decide_eq_true_eq, Bool.and_eq_true] at hchanged
      exact ⟨hversion, hchanged.2⟩
    · rename_i hsame
      rw [if_neg hsame] at hstatus
      exact ⟨hversion, hstatus⟩
  have hframe : ∀ other, Frame state (updateJobStatus state job status) (state.stage other) := by
    intro other
    constructor
    · exact fun _ _ => rfl
    · exact fun song _ row hrow hsong => ⟨row, hrow, rfl, hsong⟩
    · intro song version _ _ hnone
      by_contra hsome
      rw [hactive version (by simpa using hsome)] at hnone
      exact absurd hnone (by simp)
    · exact fun version htake => .inl htake
    · exact fun version song h => h
    · intro row hrow _ hheld
      have hne : row.id ≠ job := by
        rintro rfl
        rw [hI.jobLocks other row.id hheld] at hunlocked
        exact absurd hunlocked (by simp)
      exact List.mem_map.mpr ⟨row, hrow, by simp [hne]⟩
  exact
    { ids := hI.ids
      fresh := hI.fresh
      songLocks := hI.songLocks
      jobLocks := hI.jobLocks
      stages := fun session => (hI.stages session).frame hI (hframe session) }

end Steps

section Commit

variable {state : State Knob} {session : Session} {stage : Stage Knob}

/-- The rows that a commit leaves. -/
def committed (state : State Knob) (stage : Stage Knob) : State Knob :=
  { state with
    versions := commitVersions state stage
    takes := commitTakes state stage
    jobs := commitJobs state stage
    nextVersion := state.nextVersion + 1
    nextJob := state.nextJob + 1 }

omit [DecidableEq Knob] in
theorem commit_eq_some {next : State Knob} (h : commit state session = some next) :
    (state.stage session).ready = true ∧
      next = (committed state (state.stage session)).release session := by
  unfold commit at h
  dsimp only at h
  split_ifs at h with hready
  simp only [Bool.and_eq_true] at hready
  exact ⟨hready.1, (Option.some.inj h).symm⟩

theorem commitVersions_ids (hI : Invariant state) (stage : Stage Knob) :
    ((commitVersions state stage).map (·.id)).Nodup ∧
      ∀ version ∈ commitVersions state stage, version.id < state.nextVersion + 1 := by
  have hfresh : ∀ version ∈ state.versions, version.id < state.nextVersion + 1 :=
    fun version hversion => Nat.lt_succ_of_lt (hI.fresh version hversion)
  unfold commitVersions
  split
  · rename_i request previous
    have hids : (state.versions.map fun version => if version.id = previous.id then
        { version with content := request.content (some previous) } else version).map (·.id) =
        state.versions.map (·.id) := by
      rw [List.map_map]
      apply List.map_congr_left
      intro version _
      dsimp only [Function.comp]
      split <;> rfl
    refine ⟨hids ▸ hI.ids, fun version hversion => ?_⟩
    obtain ⟨old, hold, rfl⟩ := List.mem_map.mp hversion
    split
    · exact hfresh old hold
    · exact hfresh old hold
  · constructor
    · rw [List.map_append, List.nodup_append]
      refine ⟨hI.ids, List.nodup_singleton _, ?_⟩
      rintro _ hid _ hnew rfl
      obtain ⟨version, hversion, hsame⟩ := List.mem_map.mp hid
      have hsameId : version.id = state.nextVersion := hsame.trans (by simpa using hnew)
      exact absurd (hI.fresh version hversion) (Nat.not_lt.mpr (Nat.le_of_eq hsameId.symm))
    · intro version hversion
      rcases List.mem_append.mp hversion with hversion | hversion
      · exact hfresh version hversion
      · obtain rfl := List.mem_singleton.mp hversion
        exact Nat.lt_succ_self _
  · refine ⟨hI.ids.sublist (List.filter_sublist.map _), fun version hversion => ?_⟩
    exact hfresh version (List.mem_filter.mp hversion).1
  · exact ⟨hI.ids, hfresh⟩

theorem commitVersions_filter (hI : Invariant state) (hkept : StageKept state stage)
    {song : SongId} (hother : heldSong stage ≠ some song) :
    ((commitVersions state stage).filter fun version => version.songId = song) =
      state.versions.filter fun version => version.songId = song := by
  unfold commitVersions
  split
  · rename_i held request previous
    obtain ⟨hprevious, rfl⟩ := latestVersion_mem hkept.1
    have hne : previous.songId ≠ song := fun hsame => hother (congrArg some hsame)
    rw [List.filter_map]
    have hfilter : ((fun version : Version Knob => decide (version.songId = song)) ∘ fun version =>
        if version.id = previous.id then
          { version with content := request.content (some previous) } else version) =
        fun version => decide (version.songId = song) := by
      funext version
      dsimp only [Function.comp]
      split <;> rfl
    rw [hfilter]
    refine (List.map_congr_left fun version hversion => ?_).trans (List.map_id _)
    obtain ⟨hmem, hsong⟩ := List.mem_filter.mp hversion
    refine if_neg fun hid => hne ?_
    rw [← hI.eq_of_id hmem hprevious hid]
    simpa using hsong
  · rename_i held request previous
    have hne : held ≠ song := fun hsame => hother (congrArg some hsame)
    simp [hne]
  · rename_i held version deleteGenerations
    rw [List.filter_filter]
    apply List.filter_congr
    intro row hrow
    have hne : row.songId = song → row.id ≠ version := by
      rintro rfl hid
      exact hother (congrArg some (hkept.1.2 row hrow hid).symm)
    by_cases hsong : row.songId = song
    · simp [hsong, hne hsong]
    · simp [hsong]
  · rfl

theorem hasActiveJob_commit (hkept : StageKept state stage) {version : VersionId}
    (hactive : (committed state stage).hasActiveJobForVersion version = true) :
    state.hasActiveJobForVersion version = true ∨
      ∃ song, heldSong stage = some song ∧
        ∃ row ∈ state.versions, row.id = version ∧ row.songId = song := by
  obtain ⟨job, hjob, hversion, hstatus⟩ := hasActiveJob_iff.mp hactive
  change job ∈ commitJobs state stage at hjob
  unfold commitJobs at hjob
  split at hjob
  · rename_i song version'
    rcases List.mem_append.mp hjob with hjob | hjob
    · exact .inl (hasActiveJob_iff.mpr ⟨job, hjob, hversion, hstatus⟩)
    · obtain rfl := List.mem_singleton.mp hjob
      obtain rfl : version' = version := Option.some.inj hversion
      exact .inr ⟨song, rfl, hkept⟩
  · obtain ⟨old, hold, rfl⟩ := List.mem_map.mp hjob
    split at hversion
    · exact absurd hversion (by simp)
    · rename_i hne
      rw [if_neg hne] at hstatus
      exact .inl (hasActiveJob_iff.mpr ⟨old, hold, hversion, hstatus⟩)
  · exact .inl (hasActiveJob_iff.mpr ⟨job, hjob, hversion, hstatus⟩)

theorem hasTake_commit (hkept : StageKept state stage) {version : VersionId}
    (htake : (committed state stage).hasTake version = true) :
    state.hasTake version = true ∨ state.hasActiveJobForVersion version = true := by
  obtain ⟨take, hmem, hversion⟩ := hasTake_iff.mp htake
  change take ∈ commitTakes state stage at hmem
  unfold commitTakes at hmem
  split at hmem
  · exact .inl (hasTake_iff.mpr ⟨take, (List.mem_filter.mp hmem).1, hversion⟩)
  · obtain ⟨old, hold, rfl⟩ := List.mem_map.mp hmem
    split at hversion
    · exact absurd hversion (by simp)
    · exact .inl (hasTake_iff.mpr ⟨old, hold, hversion⟩)
  · rename_i job
    rcases List.mem_append.mp hmem with hmem | hmem
    · exact .inl (hasTake_iff.mpr ⟨take, hmem, hversion⟩)
    · obtain rfl := List.mem_singleton.mp hmem
      exact .inr (hasActiveJob_iff.mpr ⟨job, hkept.1, hversion, hkept.2⟩)
  · exact .inl (hasTake_iff.mpr ⟨take, hmem, hversion⟩)

omit [DecidableEq Knob] in
theorem ofSong_commit (stage : Stage Knob) {version : VersionId} {song : SongId}
    (h : OfSong state version song) : OfSong (committed state stage) version song := by
  refine ⟨Nat.lt_succ_of_lt h.1, fun row hrow hid => ?_⟩
  change row ∈ commitVersions state stage at hrow
  unfold commitVersions at hrow
  split at hrow
  · obtain ⟨old, hold, rfl⟩ := List.mem_map.mp hrow
    split at hid
    · rename_i hsame
      rw [if_pos hsame]
      exact h.2 old hold hid
    · rename_i hne
      rw [if_neg hne]
      exact h.2 old hold hid
  · rcases List.mem_append.mp hrow with hrow | hrow
    · exact h.2 row hrow hid
    · obtain rfl := List.mem_singleton.mp hrow
      exact absurd h.1 (Nat.not_lt.mpr (Nat.le_of_eq hid))
  · exact h.2 row (List.mem_filter.mp hrow).1 hid
  · exact h.2 row hrow hid

theorem activeJob_commit (hkept : StageKept state stage) {job : Job} (hjob : job ∈ state.jobs)
    (hstatus : job.status ∈ jobActiveStatuses) : job ∈ commitJobs state stage := by
  unfold commitJobs
  split
  · exact List.mem_append_left _ hjob
  · rename_i song version deleteGenerations
    refine List.mem_map.mpr ⟨job, hjob, if_neg fun hversion => ?_⟩
    have hactive := hasActiveJob_iff.mpr ⟨job, hjob, hversion, hstatus⟩
    rw [hkept.2] at hactive
    exact absurd hactive (by simp)
  · exact hjob

theorem commit_frame (hI : Invariant state) (hkept : StageKept state stage)
    {other : Stage Knob}
    (hsongs : ∀ song, heldSong other = some song → heldSong stage ≠ some song) :
    Frame state (committed state stage) other where
  latest song hsong := congrArg List.getLast? (commitVersions_filter hI hkept (hsongs song hsong))
  found song hsong row hrow hrowSong := by
    have hmem : row ∈ state.versions.filter fun version => version.songId = song := by
      simpa [hrow] using hrowSong
    rw [← commitVersions_filter hI hkept (hsongs song hsong)] at hmem
    exact ⟨row, (List.mem_filter.mp hmem).1, rfl, hrowSong⟩
  active song version hsong hof hnone := by
    by_contra hsome
    rcases hasActiveJob_commit hkept (by simpa using hsome) with hactive | ⟨mine, hmine, hfound⟩
    · rw [hactive] at hnone
      exact absurd hnone (by simp)
    · obtain ⟨row, hrow, hid, hrowSong⟩ := hfound
      refine hsongs song hsong ?_
      rw [hmine, ← hrowSong, hof.2 row hrow hid]
  take version htake := hasTake_commit hkept htake
  ofSong version song h := ofSong_commit stage h
  job job hjob hstatus _ := activeJob_commit hkept hjob hstatus

theorem commit_invariant (hI : Invariant state) :
    Invariant ((committed state (state.stage session)).release session) := by
  obtain ⟨hids, hfresh⟩ := commitVersions_ids hI (state.stage session)
  refine hI.release hids hfresh rfl rfl rfl fun other hother => ?_
  refine commit_frame hI (hI.stages session) fun song hheld hmine => hother ?_
  have hlock := hI.songLocks other song hheld
  rw [hI.songLocks session song hmine] at hlock
  exact (Option.some.inj hlock).symm

omit [DecidableEq Knob] in
theorem creativeDiffersFrom_self (version : Version Knob) :
    version.content.creativeDiffersFrom version = false := by
  simp [VersionContent.creativeDiffersFrom]

theorem content_eq_of_differsFrom {content : VersionContent Knob} {version : Version Knob}
    (h : content.differsFrom version = false) : content = version.content := by
  rcases content with ⟨_, _, _, _, _, _, _⟩
  rcases version with ⟨_, _, _, ⟨_, _, _, _, _, _, _⟩⟩
  simp only [VersionContent.differsFrom, VersionContent.creativeDiffersFrom, ne_eq,
    Bool.or_eq_false_iff, decide_eq_false_iff_not, not_not] at h
  obtain ⟨⟨⟨⟨⟨⟨rfl, rfl⟩, rfl⟩, rfl⟩, rfl⟩, rfl⟩, rfl⟩ := h
  rfl

/-- A rewrite of the latest version changes nothing, or what no take and no job uses. -/
theorem rewrite_immutable (hI : Invariant state) {song : SongId} {request : SaveRequest Knob}
    {previous : Version Knob} (hkept : StageKept state (.rewrite song request previous)) :
    Immutable state (committed state (.rewrite song request previous)) := by
  obtain ⟨hlatest, -, hchange⟩ := hkept
  have hprevious := (latestVersion_mem hlatest).1
  constructor
  · intro version hversion htake version' hversion' hid
    obtain ⟨old, hold, rfl⟩ := List.mem_map.mp hversion'
    by_cases hold' : old.id = previous.id
    · rw [if_pos hold'] at hid ⊢
      obtain rfl := hI.eq_of_id hold hversion hid
      obtain rfl := hI.eq_of_id hold hprevious hold'
      rcases hchange with hsame | ⟨-, hnone⟩
      · rw [content_eq_of_differsFrom hsame]
        exact creativeDiffersFrom_self old
      · exact hnone htake
    · rw [if_neg hold'] at hid ⊢
      obtain rfl := hI.eq_of_id hold hversion hid
      exact creativeDiffersFrom_self old
  · intro version hversion hactive
    refine List.mem_map.mpr ⟨version, hversion, ?_⟩
    by_cases hid : version.id = previous.id
    · rw [if_pos hid]
      obtain rfl := hI.eq_of_id hversion hprevious hid
      rcases hchange with hsame | ⟨hnone, -⟩
      · rw [content_eq_of_differsFrom hsame]
      · rw [hnone] at hactive
        exact absurd hactive (by simp)
    · exact if_neg hid

theorem immutable_of_subset (hI : Invariant state) {next : State Knob}
    (hback : ∀ version ∈ next.versions, version ∈ state.versions ∨ state.nextVersion ≤ version.id)
    (hrendered : ∀ version ∈ state.versions,
      state.hasActiveJobForVersion version.id = true → version ∈ next.versions) :
    Immutable state next where
  sung version hversion _ version' hversion' hid := by
    rcases hback version' hversion' with hold | hnew
    · rw [hI.eq_of_id hold hversion hid]
      exact creativeDiffersFrom_self version
    · rw [hid] at hnew
      exact absurd (hI.fresh version hversion) (Nat.not_lt.mpr hnew)
  rendered := hrendered

theorem commit_immutable (hI : Invariant state) (hkept : StageKept state stage) :
    Immutable state (committed state stage) := by
  rcases stage with _ | _ | _ | _ | _ | ⟨song, request, previous⟩ | ⟨song, request, previous⟩ |
    _ | _ | _ | _ | _ | ⟨song, version, deleteGenerations⟩ | _ | _ | _
  case rewrite => exact rewrite_immutable hI hkept
  case newVersion =>
    apply immutable_of_subset hI
    · intro version hversion
      rcases List.mem_append.mp hversion with hversion | hversion
      · exact .inl hversion
      · obtain rfl := List.mem_singleton.mp hversion
        exact .inr (Nat.le_refl _)
    · exact fun version hversion _ => List.mem_append_left _ hversion
  case deleteVersion =>
    apply immutable_of_subset hI
    · exact fun row hrow => .inl (List.mem_filter.mp hrow).1
    · intro row hrow hactive
      refine List.mem_filter.mpr ⟨hrow, ?_⟩
      have hne : row.id ≠ version := by
        rintro rfl
        rw [hkept.2] at hactive
        exact absurd hactive (by simp)
      simpa using hne
  all_goals exact immutable_of_subset hI (fun _ h => .inl h) fun _ h _ => h

/-- A save that is not forced and changes nothing rewrites the latest version as it is. -/
theorem commit_keepsEqualContent (hI : Invariant state)
    {song : SongId} {request : SaveRequest Knob} {previous : Version Knob}
    (hkept : StageKept state stage) (hsave : committedSave stage = some (song, request))
    (hforce : request.forceNewVersion = false) (hlatest : state.latestVersion song = some previous)
    (hsame : (request.content (some previous)).differsFrom previous = false) :
    commitVersions state stage = state.versions := by
  rcases stage with _ | _ | _ | _ | _ | ⟨song', request', previous'⟩ |
    ⟨song', request', previous'⟩ | _ | _ | _ | _ | _ | _ | _ | _ | _
  case rewrite =>
    obtain ⟨rfl, rfl⟩ : song' = song ∧ request' = request := by simpa [committedSave] using hsave
    obtain rfl : previous' = previous := Option.some.inj (hkept.1.symm.trans hlatest)
    refine (List.map_congr_left fun version hversion => ?_).trans (List.map_id _)
    by_cases hid : version.id = previous'.id
    · rw [if_pos hid]
      obtain rfl := hI.eq_of_id hversion (latestVersion_mem hlatest).1 hid
      rw [content_eq_of_differsFrom hsame]
      rfl
    · exact if_neg hid
  case newVersion =>
    obtain ⟨rfl, rfl⟩ : song' = song ∧ request' = request := by simpa [committedSave] using hsave
    obtain ⟨hnow, hreason⟩ := hkept
    rcases hreason with hforced | hdiffers
    · rw [hforce] at hforced
      exact absurd hforced (by simp)
    · rw [hdiffers previous (hnow.symm.trans hlatest)] at hsame
      exact absurd hsame (by simp)
  all_goals exact absurd hsave (by simp [committedSave])

end Commit

section Runs

variable {state next : State Knob} {session : Session}

omit [DecidableEq Knob] in
theorem lockSong_versions {song : SongId} {stage : Stage Knob}
    (hlock : state.lockSong session song stage = some next) : next.versions = state.versions := by
  unfold State.lockSong at hlock
  split_ifs at hlock
  · obtain rfl := Option.some.inj hlock
    rfl
  · obtain rfl := Option.some.inj hlock
    rfl

theorem advance_versions (hstep : advance state session = some next) :
    next.versions = state.versions := by
  unfold advance at hstep
  split at hstep
  all_goals repeat' split at hstep
  all_goals
    first
    | exact lockSong_versions hstep
    | exact Option.some.inj hstep ▸ rfl
    | exact absurd hstep (by simp)

theorem spec_of_versions (hI : Invariant state) {action : Action Knob} (hnext : Invariant next)
    (hsame : next.versions = state.versions) :
    Invariant next ∧ Immutable state next ∧
      KeepsEqualContent (·.forceNewVersion = false) state action next :=
  ⟨hnext, immutable_of_subset hI (fun _ h => .inl (hsame ▸ h)) fun _ h _ => hsame ▸ h,
    fun _ _ _ _ _ _ _ _ _ => hsame⟩

theorem act_spec {action : Action Knob} (hI : Invariant state)
    (hstep : act state action = some next) :
    Invariant next ∧ Immutable state next ∧
      KeepsEqualContent (·.forceNewVersion = false) state action next := by
  rcases action with ⟨session, song, request⟩ | ⟨session, song, version⟩ |
    ⟨session, version, deleteGenerations⟩ | ⟨session, job⟩ | ⟨job, status⟩ | session | session |
    session
  case save =>
    unfold act at hstep
    dsimp only at hstep
    split_ifs at hstep with hidle
    obtain rfl := Option.some.inj hstep
    exact spec_of_versions hI (hI.moveTo nofun nofun (by trivial)) rfl
  case enqueue =>
    unfold act at hstep
    dsimp only at hstep
    split_ifs at hstep with hidle
    obtain rfl := Option.some.inj hstep
    exact spec_of_versions hI (hI.moveTo nofun nofun (by trivial)) rfl
  case delete =>
    unfold act at hstep
    dsimp only at hstep
    split_ifs at hstep with hidle
    split at hstep
    · rename_i row hrow
      obtain rfl := Option.some.inj hstep
      have hid : row.id = version := by simpa using List.find?_some hrow
      have hof := hI.ofSong (List.mem_of_find?_eq_some hrow)
      rw [hid] at hof
      exact spec_of_versions hI (hI.moveTo nofun nofun hof) rfl
    · obtain rfl := Option.some.inj hstep
      exact spec_of_versions hI hI rfl
  case take =>
    unfold act at hstep
    dsimp only at hstep
    split_ifs at hstep with hidle
    obtain rfl := Option.some.inj hstep
    exact spec_of_versions hI (hI.moveTo nofun nofun (by trivial)) rfl
  case updateJob =>
    unfold act at hstep
    dsimp only at hstep
    split_ifs at hstep with hunlocked
    obtain rfl := Option.some.inj hstep
    exact spec_of_versions hI (updateJobStatus_invariant hI status hunlocked) rfl
  case advance =>
    exact spec_of_versions hI (advance_invariant hI hstep) (advance_versions hstep)
  case commit =>
    obtain ⟨-, rfl⟩ := commit_eq_some hstep
    have hkept := hI.stages session
    have himmutable := commit_immutable hI hkept
    refine ⟨commit_invariant hI, ⟨himmutable.sung, himmutable.rendered⟩, ?_⟩
    rintro _ song request previous ⟨⟩ hsave hforce hlatest hsame
    exact commit_keepsEqualContent hI hkept hsave hforce hlatest hsame
  case abort =>
    obtain rfl := Option.some.inj hstep
    exact spec_of_versions hI hI.end rfl

/-- Whatever the order of saves, jobs, takes and deletions: a version with a take
keeps its words, style, tempo, length and key, one with an active job stays as it
is, and a save that is not forced and changes nothing makes no version. -/
theorem versions_immutable (hstate : (songSaves Knob).Reachable state) {action : Action Knob}
    (hstep : (songSaves Knob).step state action next) :
    Immutable state next ∧ KeepsEqualContent (·.forceNewVersion = false) state action next := by
  have hI : Invariant state := by
    refine TransitionSystem.Invariant.of_reachable (M := songSaves Knob) ⟨?_, ?_⟩ hstate
    · exact fun _ => settled_invariant
    · exact fun _ _ _ hI hstep => (act_spec hI hstep).1
  exact (act_spec hI hstep).2

end Runs

/-- One song with one version. -/
def oneVersion : State Nat where
  songs := [0]
  versions := [⟨0, 0, 1, ⟨['l'], ['p'], 120, 0, ['C'], none, none⟩⟩]
  takes := []
  jobs := []
  nextVersion := 1
  nextJob := 0
  songLock := fun _ => none
  jobLock := fun _ => none
  stage := fun _ => .idle

theorem oneVersion_settled : Settled oneVersion where
  idle _ := rfl
  ids := by decide
  fresh := by decide

/-- A job renders the version, its take commits and it completes; then a save
with other lyrics reads all that. -/
def savedAfterTake : State Nat :=
  TransitionSystem.lastOf oneVersion (TransitionSystem.follow act oneVersion
    [.enqueue 1 0 0, .advance 1, .advance 1, .commit 1, .take 2 0, .advance 2, .advance 2,
      .commit 2, .updateJob 0 .completed, .save 3 0 { lyrics := some ['m'] }, .advance 3,
      .advance 3, .advance 3, .advance 3])

theorem savedAfterTake_commits : (act savedAfterTake (.commit 3)).isSome = true := by
  decide +kernel

theorem versions_immutable_after_take :
    ∃ next, act savedAfterTake (.commit 3) = some next ∧ next.versions.length = 2 ∧
      Immutable savedAfterTake next ∧
      KeepsEqualContent (·.forceNewVersion = false) savedAfterTake (.commit 3) next := by
  have hstep := (Option.some_get savedAfterTake_commits).symm
  refine ⟨(act savedAfterTake (.commit 3)).get savedAfterTake_commits, hstep,
    by decide +kernel, ?_⟩
  exact versions_immutable
    (TransitionSystem.reachable_follow (.initial oneVersion_settled) _) hstep

/-- A forced save of the current content has read it. -/
def savedByForce : State Nat :=
  TransitionSystem.lastOf oneVersion (TransitionSystem.follow act oneVersion
    [.save 1 0 { forceNewVersion := true }, .advance 1, .advance 1])

theorem savedByForce_commits : (act savedByForce (.commit 1)).isSome = true := by
  decide +kernel

theorem forced_save_repeats_content :
    ¬ ∀ (state next : State Nat) (action : Action Nat), (songSaves Nat).Reachable state →
      (songSaves Nat).step state action next →
      KeepsEqualContent (fun _ => True) state action next := by
  intro hall
  have hkeeps := hall savedByForce _ (.commit 1)
    (TransitionSystem.reachable_follow (.initial oneVersion_settled) _)
    (Option.some_get savedByForce_commits).symm 1 0 { forceNewVersion := true }
    ⟨0, 0, 1, ⟨['l'], ['p'], 120, 0, ['C'], none, none⟩⟩ rfl (by decide +kernel) trivial
    (by decide +kernel) (by decide +kernel)
  exact absurd (congrArg List.length hkeeps) (by decide +kernel)

end Songmaker.Songs.VersionImmutability
