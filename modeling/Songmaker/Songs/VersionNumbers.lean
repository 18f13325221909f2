import Songmaker.Songs.VersionImmutability

/-!
What every state of the songs keeps besides the contents of its versions: the numbers
of a song's versions grow, its takes and jobs name versions of its own, and stored
generation parameters are as the writers leave them.
-/

namespace Songmaker.Songs.VersionNumbers

open Songmaker.Foundation
open Songmaker.Jobs
open Songmaker.Songs.SongSaves
open Songmaker.Songs.VersionImmutability

variable {Knob : Type} [DecidableEq Knob]

/-- `_rewrites_in_place`. -/
def rewritesInPlace (state : State Knob) (previous : Version Knob) (content : VersionContent Knob)
    (forceNewVersion : Bool) : Bool :=
  if forceNewVersion then false
  else if !content.differsFrom previous then true
  else if state.hasActiveJobForVersion previous.id then false
  else !(state.hasTake previous.id && content.creativeDiffersFrom previous)

/-- `update_song`, run with nothing in between. -/
def updateSong (state : State Knob) (song : SongId) (request : SaveRequest Knob) : Version Knob :=
  match state.latestVersion song with
  | some previous =>
      let content := request.content (some previous)
      if rewritesInPlace state previous content request.forceNewVersion then
        { previous with content := content }
      else ⟨state.nextVersion, song, previous.versionNumber + 1, content⟩
  | none => ⟨state.nextVersion, song, 1, request.content none⟩

/-- The version that a save commits. -/
def savedVersion (state : State Knob) : Stage Knob → Option (Version Knob)
  | .rewrite _ request previous => some { previous with content := request.content (some previous) }
  | .newVersion song request previous =>
      some ⟨state.nextVersion, song, (previous.map (·.versionNumber)).getD 0 + 1,
        request.content previous⟩
  | _ => none

/-- The versions of one song, in the order that they were made. -/
def versionsOf (versions : List (Version Knob)) (song : SongId) : List (Version Knob) :=
  versions.filter fun version => version.songId = song

omit [DecidableEq Knob] in
theorem latestVersion_eq (state : State Knob) (song : SongId) :
    state.latestVersion song = (versionsOf state.versions song).getLast? := rfl

variable {state next : State Knob} {session : Session} {song : SongId}
  {request : SaveRequest Knob} {stage : Stage Knob}

/-- The rows that a state holds. -/
structure SameRows (state next : State Knob) : Prop where
  versions : next.versions = state.versions
  takes : next.takes = state.takes
  jobs : next.jobs = state.jobs
  nextVersion : next.nextVersion = state.nextVersion

omit [DecidableEq Knob] in
theorem sameRows_moveTo (state : State Knob) (session : Session) (stage : Stage Knob) :
    SameRows state (state.moveTo session stage) :=
  ⟨rfl, rfl, rfl, rfl⟩

omit [DecidableEq Knob] in
theorem sameRows_release (state : State Knob) (session : Session) :
    SameRows state (state.release session) :=
  ⟨rfl, rfl, rfl, rfl⟩

omit [DecidableEq Knob] in
theorem lockSong_sameRows (hlock : state.lockSong session song stage = some next) :
    SameRows state next := by
  unfold State.lockSong at hlock
  split_ifs at hlock
  · obtain rfl := Option.some.inj hlock
    exact ⟨rfl, rfl, rfl, rfl⟩
  · obtain rfl := Option.some.inj hlock
    exact sameRows_release state session

theorem advance_sameRows (hstep : advance state session = some next) : SameRows state next := by
  unfold advance at hstep
  split at hstep
  all_goals repeat' split at hstep
  all_goals
    first
    | exact lockSong_sameRows hstep
    | exact Option.some.inj hstep ▸ ⟨rfl, rfl, rfl, rfl⟩
    | exact absurd hstep (by simp)

/-! ### Saves with nothing in between -/

theorem savedVersion_latest (hkept : StageKept state stage)
    {saved : Version Knob} (hsaved : savedVersion state stage = some saved)
    (hsong : heldSong stage = some song) :
    (versionsOf (commitVersions state stage) song).getLast? = some saved := by
  cases stage with
  | rewrite held request previous =>
      obtain rfl := Option.some.inj hsong
      obtain rfl := Option.some.inj hsaved
      have hlatest := hkept.1
      rw [latestVersion_eq] at hlatest
      rw [commitVersions, versionsOf, List.filter_map]
      have hfilter : ((fun version : Version Knob => decide (version.songId = held)) ∘
          fun version => if version.id = previous.id then
            { version with content := request.content (some previous) } else version) =
          fun version => decide (version.songId = held) := by
        funext version
        dsimp only [Function.comp]
        split <;> rfl
      rw [hfilter, List.getLast?_map]
      exact (congrArg (Option.map _) hlatest).trans (congrArg some (if_pos rfl))
  | newVersion held request previous =>
      obtain rfl := Option.some.inj hsong
      obtain rfl := Option.some.inj hsaved
      rw [commitVersions, versionsOf, List.filter_append, List.filter_cons_of_pos (by simp)]
      simp
  | _ => exact absurd hsaved.symm (Option.some_ne_none saved)

/-- The stage in which a save that has the lock reads nothing more. -/
def savingStage (state : State Knob) (song : SongId) (request : SaveRequest Knob) : Stage Knob :=
  match state.latestVersion song with
  | some previous =>
      if rewritesInPlace state previous (request.content (some previous)) request.forceNewVersion
      then .rewrite song request previous
      else .newVersion song request (some previous)
  | none => .newVersion song request none

theorem savedVersion_savingStage (state : State Knob) (song : SongId)
    (request : SaveRequest Knob) :
    savedVersion state (savingStage state song request) = some (updateSong state song request) := by
  unfold savingStage updateSong
  cases state.latestVersion song with
  | none => rfl
  | some previous =>
      dsimp only
      split
      · rfl
      · rfl

/-! ### What the rows keep -/

/-- The save that a stage belongs to. -/
def requestOf : Stage Knob → Option (SaveRequest Knob)
  | .lockForSave _ request | .saveLocked _ request | .checkJobs _ request _
  | .checkTakes _ request _ | .rewrite _ request _ | .newVersion _ request _ => some request
  | _ => none

/-- The generation parameters that a request sends are stored as `Stored` has them. -/
def Serves (Stored : Option (List Knob) → Prop) (request : SaveRequest Knob) : Prop :=
  ∀ params ∈ request.generationParams, Stored (params.filter (!·.isEmpty))

/-- The numbers of a song's versions go up, and every row names a version of its song. -/
structure RowsKept (Stored : Option (List Knob) → Prop) (state : State Knob) : Prop where
  numbers : ∀ song, (versionsOf state.versions song).Pairwise fun version later =>
    version.versionNumber < later.versionNumber
  stored : ∀ version ∈ state.versions, Stored version.content.generationParams
  takes : ∀ take ∈ state.takes, ∀ version ∈ take.versionId, OfSong state version take.songId
  jobs : ∀ job ∈ state.jobs, ∀ version ∈ job.versionId, OfSong state version job.songId
  requests : ∀ session, ∀ request ∈ requestOf (state.stage session), Serves Stored request

/-- The saves that start carry parameters as they are stored. -/
def StartsServed (Stored : Option (List Knob) → Prop) (_ : State Knob) :
    SongSaves.Action Knob → Prop
  | .save _ _ request => Serves Stored request
  | _ => True

variable {Stored : Option (List Knob) → Prop}

omit [DecidableEq Knob] in
theorem content_stored (hnone : Stored none) (hserves : Serves Stored request)
    {previous : Option (Version Knob)}
    (hprevious : ∀ version ∈ previous, Stored version.content.generationParams) :
    Stored (request.content previous).generationParams := by
  change Stored (versionGenerationParams request.generationParams previous)
  unfold versionGenerationParams
  split
  next params hparams => exact hserves params hparams
  next =>
    cases previous with
    | none => exact hnone
    | some version => exact hprevious version rfl

omit [DecidableEq Knob] in
theorem RowsKept.of_sameRows (hkept : RowsKept Stored state) (hsame : SameRows state next)
    (hrequests : ∀ session, ∀ request ∈ requestOf (next.stage session), Serves Stored request) :
    RowsKept Stored next := by
  have hof : ∀ {version song}, OfSong state version song → OfSong next version song := by
    intro version song h
    rw [OfSong, hsame.versions, hsame.nextVersion]
    exact h
  refine ⟨?_, ?_, ?_, ?_, hrequests⟩
  · rw [hsame.versions]
    exact hkept.numbers
  · rw [hsame.versions]
    exact hkept.stored
  · rw [hsame.takes]
    exact fun take htake version hversion => hof (hkept.takes take htake version hversion)
  · rw [hsame.jobs]
    exact fun job hjob version hversion => hof (hkept.jobs job hjob version hversion)

omit [DecidableEq Knob] in
theorem requests_update (hkept : RowsKept Stored state)
    (hstage : next.stage = Function.update state.stage session stage)
    (hserves : ∀ request ∈ requestOf stage, Serves Stored request) :
    ∀ session, ∀ request ∈ requestOf (next.stage session), Serves Stored request := by
  intro other request hrequest
  rw [hstage] at hrequest
  by_cases hother : other = session
  · subst hother
    rw [Function.update_self] at hrequest
    exact hserves request hrequest
  · rw [Function.update_of_ne hother] at hrequest
    exact hkept.requests other request hrequest

omit [DecidableEq Knob] in
theorem lockSong_stage (hlock : state.lockSong session song stage = some next) :
    next.stage = Function.update state.stage session .idle ∨
      next.stage = Function.update state.stage session stage := by
  unfold State.lockSong at hlock
  split_ifs at hlock
  · obtain rfl := Option.some.inj hlock
    exact Or.inr rfl
  · obtain rfl := Option.some.inj hlock
    exact Or.inl rfl

theorem advance_stage (hstep : advance state session = some next) :
    ∃ stage, next.stage = Function.update state.stage session stage ∧
      ∀ request ∈ requestOf stage, request ∈ requestOf (state.stage session) := by
  have hmove : ∀ {other : State Knob} {stage}, other.stage = state.stage →
      some (other.moveTo session stage) = some next →
      (∀ request ∈ requestOf stage, request ∈ requestOf (state.stage session)) →
      ∃ stage, next.stage = Function.update state.stage session stage ∧
        ∀ request ∈ requestOf stage, request ∈ requestOf (state.stage session) := by
    intro other stage hother hnext hrequest
    obtain rfl := Option.some.inj hnext
    refine ⟨stage, ?_, hrequest⟩
    rw [State.moveTo, hother]
  have hend : next.stage = Function.update state.stage session .idle →
      ∃ stage, next.stage = Function.update state.stage session stage ∧
        ∀ request ∈ requestOf stage, request ∈ requestOf (state.stage session) :=
    fun hnext => ⟨.idle, hnext, fun request hrequest => absurd hrequest (Option.not_mem_none _)⟩
  have hlock : ∀ {song stage}, state.lockSong session song stage = some next →
      (∀ request ∈ requestOf stage, request ∈ requestOf (state.stage session)) →
      ∃ stage, next.stage = Function.update state.stage session stage ∧
        ∀ request ∈ requestOf stage, request ∈ requestOf (state.stage session) :=
    fun hlock hrequest => (lockSong_stage hlock).elim hend fun hnext => ⟨_, hnext, hrequest⟩
  unfold advance at hstep
  split at hstep
  all_goals try exact absurd hstep.symm (Option.some_ne_none next)
  all_goals rename_i hat
  all_goals rw [hat] at hmove hend hlock ⊢
  all_goals repeat' split at hstep
  all_goals
    first
    | exact hlock hstep fun request hrequest => hrequest
    | exact hmove (by rfl) hstep fun request hrequest => hrequest
    | exact hend (congrArg State.stage (Option.some.inj hstep)).symm
    | exact absurd hstep.symm (Option.some_ne_none next)

theorem RowsKept.advance (hkept : RowsKept Stored state)
    (hstep : SongSaves.advance state session = some next) : RowsKept Stored next := by
  obtain ⟨stage, hstage, hrequest⟩ := advance_stage hstep
  refine hkept.of_sameRows (advance_sameRows hstep) ?_
  exact requests_update hkept hstage fun request hmem =>
    hkept.requests session request (hrequest request hmem)

omit [DecidableEq Knob] in
theorem number_le_latest (hkept : RowsKept Stored state) {latest version : Version Knob}
    (hlatest : state.latestVersion song = some latest)
    (hversion : version ∈ versionsOf state.versions song) :
    version.versionNumber ≤ latest.versionNumber := by
  have hpairwise := hkept.numbers song
  rw [latestVersion_eq] at hlatest
  obtain ⟨earlier, hlist⟩ := List.getLast?_eq_some_iff.mp hlatest
  rw [hlist] at hpairwise hversion
  rcases List.mem_append.mp hversion with hbefore | hlast
  · exact (List.pairwise_append.mp hpairwise).2.2 version hbefore latest
      (List.mem_singleton.mpr rfl) |>.le
  · rw [List.mem_singleton.mp hlast]

theorem commit_numbers (hI : Invariant state) (hrows : RowsKept Stored state)
    (hkept : StageKept state stage) (song : SongId) :
    (versionsOf (commitVersions state stage) song).Pairwise fun version later =>
      version.versionNumber < later.versionNumber := by
  by_cases hheld : heldSong stage = some song
  · cases stage with
    | rewrite held request previous =>
        have hfilter : ((fun version : Version Knob => decide (version.songId = song)) ∘
            fun version => if version.id = previous.id then
              { version with content := request.content (some previous) } else version) =
            fun version => decide (version.songId = song) := by
          funext version
          dsimp only [Function.comp]
          split <;> rfl
        rw [commitVersions, versionsOf, List.filter_map, hfilter, List.pairwise_map]
        refine (hrows.numbers song).imp ?_
        intro version later hlt
        have hnumber : ∀ row : Version Knob, (if row.id = previous.id then
            { row with content := request.content (some previous) } else row).versionNumber =
              row.versionNumber := by
          intro row
          split <;> rfl
        rw [hnumber, hnumber]
        exact hlt
    | newVersion held request previous =>
        obtain rfl := Option.some.inj hheld
        rw [commitVersions, versionsOf, List.filter_append, List.filter_cons_of_pos (by simp),
          List.filter_nil, List.pairwise_append]
        refine ⟨hrows.numbers held, List.pairwise_singleton _ _, ?_⟩
        intro version hversion later hlater
        obtain rfl := List.mem_singleton.mp hlater
        cases hprevious : previous with
        | none =>
            have hempty : versionsOf state.versions held = [] :=
              List.getLast?_eq_none_iff.mp (hkept.1.trans hprevious)
            have hmem : version ∈ versionsOf state.versions held := hversion
            rw [hempty] at hmem
            exact absurd hmem List.not_mem_nil
        | some latest =>
            have hle := number_le_latest hrows (hkept.1.trans hprevious) hversion
            exact Nat.lt_succ_of_le hle
    | deleteVersion held version deleteGenerations =>
        refine (hrows.numbers song).sublist ?_
        exact List.Sublist.filter _ List.filter_sublist
    | _ => exact hrows.numbers song
  · have hsame : versionsOf (commitVersions state stage) song = versionsOf state.versions song :=
      commitVersions_filter hI hkept hheld
    rw [hsame]
    exact hrows.numbers song

omit [DecidableEq Knob] in
theorem commit_stored (hnone : Stored none) (hrows : RowsKept Stored state)
    (hserves : ∀ request ∈ requestOf stage, Serves Stored request)
    (hprevious : ∀ song request previous, stage = .rewrite song request previous ∨
      stage = .newVersion song request (some previous) → previous ∈ state.versions) :
    ∀ version ∈ commitVersions state stage, Stored version.content.generationParams := by
  intro version hversion
  cases stage with
  | rewrite held request previous =>
      obtain ⟨old, hold, rfl⟩ := List.mem_map.mp hversion
      split
      · refine content_stored hnone (hserves request rfl) fun row hrow => ?_
        obtain rfl := Option.mem_some.mp hrow
        exact hrows.stored _ (hprevious held request _ (Or.inl rfl))
      · exact hrows.stored old hold
  | newVersion held request previous =>
      rcases List.mem_append.mp hversion with hold | hnew
      · exact hrows.stored version hold
      · obtain rfl := List.mem_singleton.mp hnew
        refine content_stored hnone (hserves request rfl) fun row hrow => ?_
        obtain rfl := Option.mem_def.mp hrow
        exact hrows.stored _ (hprevious held request _ (Or.inr rfl))
  | deleteVersion held version' deleteGenerations =>
      exact hrows.stored version (List.mem_filter.mp hversion).1
  | _ => exact hrows.stored version hversion

omit [DecidableEq Knob] in
theorem commit_takes (hrows : RowsKept Stored state)
    (hjob : ∀ job, stage = .newTake job → job ∈ state.jobs) :
    ∀ take ∈ commitTakes state stage, ∀ version ∈ take.versionId,
      OfSong (committed state stage) version take.songId := by
  intro take htake version hversion
  apply ofSong_commit
  unfold commitTakes at htake
  split at htake
  · exact hrows.takes take (List.mem_filter.mp htake).1 version hversion
  · obtain ⟨old, hold, rfl⟩ := List.mem_map.mp htake
    split at hversion
    · exact absurd hversion (Option.not_mem_none version)
    next hne =>
      rw [if_neg hne]
      exact hrows.takes old hold version hversion
  next job =>
    rcases List.mem_append.mp htake with hold | hnew
    · exact hrows.takes take hold version hversion
    · obtain rfl := List.mem_singleton.mp hnew
      exact hrows.jobs job (hjob job rfl) version hversion
  · exact hrows.takes take htake version hversion

theorem commit_jobs (hI : Invariant state) (hrows : RowsKept Stored state)
    (hkept : StageKept state stage) :
    ∀ job ∈ commitJobs state stage, ∀ version ∈ job.versionId,
      OfSong (committed state stage) version job.songId := by
  intro job hjob version hversion
  apply ofSong_commit
  unfold commitJobs at hjob
  split at hjob
  next song named =>
    rcases List.mem_append.mp hjob with hold | hnew
    · exact hrows.jobs job hold version hversion
    · obtain rfl := List.mem_singleton.mp hnew
      obtain rfl : named = version := Option.some.inj hversion
      obtain ⟨row, hrow, rfl, rfl⟩ := hkept
      exact hI.ofSong hrow
  · obtain ⟨old, hold, rfl⟩ := List.mem_map.mp hjob
    split at hversion
    · exact absurd hversion (Option.not_mem_none version)
    next hne =>
      rw [if_neg hne]
      exact hrows.jobs old hold version hversion
  · exact hrows.jobs job hjob version hversion

theorem RowsKept.commit (hnone : Stored none) (hI : Invariant state)
    (hrows : RowsKept Stored state) :
    RowsKept Stored ((committed state (state.stage session)).release session) := by
  have hkept := hI.stages session
  refine ⟨commit_numbers hI hrows hkept, ?_, ?_, commit_jobs hI hrows hkept, ?_⟩
  · refine commit_stored hnone hrows (hrows.requests session) ?_
    intro song request previous hstage
    rcases hstage with hrewrite | hnew
    · rw [hrewrite] at hkept
      exact (latestVersion_mem hkept.1).1
    · rw [hnew] at hkept
      exact (latestVersion_mem hkept.1).1
  · refine commit_takes hrows fun job hstage => ?_
    rw [hstage] at hkept
    exact hkept.1
  · exact requests_update hrows rfl fun request hrequest => absurd hrequest (Option.not_mem_none _)

omit [DecidableEq Knob] in
theorem RowsKept.updateJobStatus (hrows : RowsKept Stored state) (job : JobId)
    (status : JobStatus) : RowsKept Stored (SongSaves.updateJobStatus state job status) := by
  refine ⟨hrows.numbers, hrows.stored, hrows.takes, ?_, hrows.requests⟩
  intro row hrow version hversion
  obtain ⟨old, hold, rfl⟩ := List.mem_map.mp hrow
  split at hversion
  next hactive =>
    rw [if_pos hactive]
    exact hrows.jobs old hold version hversion
  next hother =>
    rw [if_neg hother]
    exact hrows.jobs old hold version hversion

theorem RowsKept.act (hnone : Stored none) (hI : Invariant state) (hrows : RowsKept Stored state)
    {action : SongSaves.Action Knob} (hserved : StartsServed Stored state action)
    (hstep : SongSaves.act state action = some next) : RowsKept Stored next := by
  have hmove : ∀ {session stage}, (∀ request ∈ requestOf stage, Serves Stored request) →
      RowsKept Stored (state.moveTo session stage) :=
    fun hserves => hrows.of_sameRows (sameRows_moveTo state _ _) (requests_update hrows rfl hserves)
  cases action with
  | save session song request =>
      rw [SongSaves.act, Option.ite_none_right_eq_some] at hstep
      obtain rfl := Option.some.inj hstep.2
      refine hmove fun other hother => ?_
      obtain rfl := Option.some.inj hother
      exact hserved
  | delete session version deleteGenerations =>
      rw [SongSaves.act, Option.ite_none_right_eq_some] at hstep
      obtain ⟨-, hfound⟩ := hstep
      split at hfound
      · obtain rfl := Option.some.inj hfound
        exact hmove fun request hrequest => absurd hrequest (Option.not_mem_none _)
      · obtain rfl := Option.some.inj hfound
        exact hrows
  | enqueue | take =>
      rw [SongSaves.act, Option.ite_none_right_eq_some] at hstep
      obtain rfl := Option.some.inj hstep.2
      exact hmove fun request hrequest => absurd hrequest (Option.not_mem_none _)
  | updateJob job status =>
      rw [SongSaves.act, Option.ite_none_right_eq_some] at hstep
      obtain rfl := Option.some.inj hstep.2
      exact hrows.updateJobStatus job status
  | advance session => exact hrows.advance hstep
  | commit session =>
      obtain ⟨-, rfl⟩ := commit_eq_some hstep
      exact hrows.commit hnone hI
  | abort session =>
      obtain rfl := Option.some.inj hstep
      refine hrows.of_sameRows (sameRows_release state session) ?_
      exact requests_update hrows rfl fun request hrequest =>
        absurd hrequest (Option.not_mem_none _)

/-- The songs of a server whose writers store generation parameters as `Stored` has them. -/
def servedSongs (Stored : Option (List Knob) → Prop) :
    TransitionSystem (State Knob) (SongSaves.Action Knob) :=
  (TransitionSystem.mk (fun state => Settled state ∧ RowsKept Stored state)
    (songSaves Knob).step).restrict (StartsServed Stored)

theorem servedSongs_kept (hnone : Stored none) (hstate : (servedSongs Stored).Reachable state) :
    Invariant state ∧ RowsKept Stored state := by
  refine TransitionSystem.Invariant.of_reachable (M := servedSongs Stored)
    (I := fun state => Invariant state ∧ RowsKept Stored state) ⟨?_, ?_⟩ hstate
  · rintro s ⟨hsettled, hrows⟩
    exact ⟨settled_invariant hsettled, hrows⟩
  · rintro s a t ⟨hI, hrows⟩ ⟨hserved, hstep⟩
    exact ⟨(act_spec hI hstep).1, hrows.act hnone hI hserved hstep⟩

end Songmaker.Songs.VersionNumbers
