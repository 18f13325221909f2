import Mathlib.Algebra.Order.Field.Rat
import Mathlib.Data.List.Sort
import Songmaker.Foundation.TransitionSystem

/-!
The stream directory, under any number of builds, reuses and cleanup passes.
Each listing, `stat`, read, rename and unlink is one step. A clock reading is
a number of seconds.
-/

namespace Songmaker.QueueStreams.StreamFiles

open Songmaker.Foundation

/-- The files of one snapshot. -/
inductive FileKind where
  | audio
  | concat
  | manifest
  | manifestTmp
  | tempAudio
deriving DecidableEq

def FileKind.all : List FileKind := [.audio, .concat, .manifest, .manifestTmp, .tempAudio]

/-- What `*.mp3` matches. -/
def FileKind.isMp3 : FileKind → Bool
  | .audio => true
  | .tempAudio => true
  | _ => false

def snapshotFileSuffixes : List FileKind := [.tempAudio, .concat, .manifest, .audio]

/-- A file of the cache, as far as the passes read it. -/
structure CacheFile where
  size : Nat
  mtime : ℚ
  /-- What a manifest says; no other file is read. -/
  expiresAt : Option ℚ
deriving DecidableEq

abbrev StreamDir := Nat → FileKind → Option CacheFile

def queueStreamTtl : ℚ := 8 * 60 * 60

def queueStreamOrphanMaxAge : ℚ := 24 * 60 * 60

def queueStreamMaxCacheBytes : Nat := 1024 * 1024 * 1024

/-- Where a build is in `_build_queue_stream_snapshot`. `failed` says that it
is on its way to raise. -/
inductive BuildPhase where
  | writeConcat
  | ffmpeg (opened : Bool)
  | unlinkOutput
  | replaceOutput
  | unlinkConcat (failed : Bool)
  | unlinkTemp (failed : Bool)
  | writeManifest
  | replaceManifest
  | unlinkManifestTmp (failed : Bool)
  | enforceQuota
deriving DecidableEq

/-- Who runs a quota pass: a build behind its own audio, or a cleanup. -/
inductive Owner where
  | build (snapshotId : Nat)
  | background (pass : Nat)
deriving DecidableEq

/-- A file that a pass has measured. -/
structure SizedFile where
  mtime : ℚ
  size : Nat
  snapshotId : Nat
  kind : FileKind
deriving DecidableEq

/-- Tuples compare by time, size and path. -/
def SizedFile.le (file file' : SizedFile) : Bool :=
  file.mtime < file'.mtime || file.mtime = file'.mtime &&
    (file.size < file'.size || file.size = file'.size &&
      (file.snapshotId < file'.snapshotId || file.snapshotId = file'.snapshotId &&
        (file.kind = .audio || file.kind = file'.kind)))

/-- How far a pass has come. -/
inductive PassPhase where
  /-- `_remove_expired_queue_stream_snapshots`, or the deletion of one expired
  snapshot that is asked for, when `sweeps` is off. -/
  | manifests (sweeps : Bool) (snapshotIds live : List Nat)
  | orphans (files : List (Nat × FileKind)) (live : List Nat)
  | measuring (files : List (Nat × FileKind)) (sized : List SizedFile)
  | done

/-- A cleanup pass. It first makes the `unlinks` that it has decided on. -/
structure Pass where
  now : ℚ
  unlinks : List (Nat × FileKind)
  phase : PassPhase

/-- The directory and everything under way in it, by snapshot, owner and
request. No step reads `removed`, the files that cleanup took from a build in
progress, or `returned`, the snapshots returned without their audio. -/
structure State where
  dir : StreamDir
  now : ℚ
  nextSnapshot : Nat
  builds : Nat → Option BuildPhase
  passes : Owner → Option Pass
  reuses : Nat → Option Nat
  removed : List (Nat × FileKind)
  returned : List Nat

namespace State

variable (state : State)

def exists? (file : Nat × FileKind) : Bool := (state.dir file.1 file.2).isSome

/-- The files there are that `p` selects, in some order. -/
def Lists (p : FileKind → Bool) (listing : List (Nat × FileKind)) : Prop :=
  listing.Perm (((List.range state.nextSnapshot).product (FileKind.all.filter p)).filter
    state.exists?)

instance (p : FileKind → Bool) (listing : List (Nat × FileKind)) :
    Decidable (state.Lists p listing) :=
  inferInstanceAs (Decidable (List.Perm _ _))

def setFile (snapshotId : Nat) (kind : FileKind) (file : Option CacheFile) : State :=
  { state with
    dir := Function.update state.dir snapshotId
      (Function.update (state.dir snapshotId) kind file) }

def setBuild (snapshotId : Nat) (phase : Option BuildPhase) : State :=
  { state with builds := Function.update state.builds snapshotId phase }

def setPass (owner : Owner) (pass : Option Pass) : State :=
  { state with passes := Function.update state.passes owner pass }

def startBuild : State :=
  { (state.setBuild state.nextSnapshot (some .writeConcat)) with
    nextSnapshot := state.nextSnapshot + 1 }

/-- A snapshot is returned. -/
def returnSnapshot (snapshotId : Nat) : State :=
  { state with
    returned :=
      if state.exists? (snapshotId, .audio) then state.returned
      else snapshotId :: state.returned }

end State

/-- What the file system and `ffmpeg` do in a step of a build. -/
inductive Outcome where
  | succeeds
  | fails
  /-- `ffmpeg` has written so many bytes, and goes on. -/
  | writes (size : Nat)
deriving DecidableEq

/-- A step of a build, up to its quota pass. -/
def buildStep (state : State) (id : Nat) (outcome : Outcome)
    (listing : List (Nat × FileKind)) : BuildPhase → Option State
  | .writeConcat =>
      match outcome with
      | .fails => some (state.setBuild id (some (.unlinkConcat true)))
      | _ => some ((state.setFile id .concat (some ⟨0, state.now, none⟩)).setBuild id
          (some (.ffmpeg false)))
  | .ffmpeg opened =>
      match outcome with
      | .writes size =>
          -- Bytes for an output that is gone are lost.
          if opened && !state.exists? (id, .tempAudio) then some state
          else some ((state.setFile id .tempAudio (some ⟨size, state.now, none⟩)).setBuild id
            (some (.ffmpeg true)))
      | .succeeds => some (state.setBuild id (some .replaceOutput))
      | .fails => some (state.setBuild id (some .unlinkOutput))
  | .unlinkOutput =>
      some ((state.setFile id .tempAudio none).setBuild id (some (.unlinkConcat true)))
  | .replaceOutput =>
      match state.dir id .tempAudio with
      | none => some (state.setBuild id (some (.unlinkConcat true)))
      | some file => some (((state.setFile id .tempAudio none).setFile id .audio
          (some file)).setBuild id (some (.unlinkConcat false)))
  | .unlinkConcat failed =>
      some ((state.setFile id .concat none).setBuild id (some (.unlinkTemp failed)))
  | .unlinkTemp failed =>
      some ((state.setFile id .tempAudio none).setBuild id
        (if failed then none else some .writeManifest))
  | .writeManifest =>
      match outcome with
      | .fails => some (state.setBuild id (some (.unlinkManifestTmp true)))
      | _ => some ((state.setFile id .manifestTmp
          (some ⟨0, state.now, some (state.now + queueStreamTtl)⟩)).setBuild id
            (some .replaceManifest))
  | .replaceManifest =>
      match state.dir id .manifestTmp with
      | none => some (state.setBuild id (some (.unlinkManifestTmp true)))
      | some file => some (((state.setFile id .manifestTmp none).setFile id .manifest
          (some file)).setBuild id (some (.unlinkManifestTmp false)))
  | .unlinkManifestTmp true => some ((state.setFile id .manifestTmp none).setBuild id none)
  | .unlinkManifestTmp false =>
      if state.Lists FileKind.isMp3 listing then
        some (((state.setFile id .manifestTmp none).setBuild id (some .enforceQuota)).setPass
          (.build id) (some ⟨state.now, [], .measuring listing []⟩))
      else none
  | .enforceQuota =>
      if (state.passes (.build id)).isSome then none
      else some ((state.returnSnapshot id).setBuild id none)

/-- The snapshots that `_enforce_cache_quota` removes of the files it has
measured. The snapshot that it protects stays. -/
def evicted (isProtected : Nat → Bool) : List SizedFile → Nat → List Nat
  | [], _ => []
  | file :: files, totalBytes =>
      if totalBytes ≤ queueStreamMaxCacheBytes then []
      else if isProtected file.snapshotId then evicted isProtected files totalBytes
      else file.snapshotId :: evicted isProtected files (totalBytes - file.size)

/-- A build does not evict its own snapshot. -/
def Owner.protects : Owner → Nat → Bool
  | .build snapshotId, id => snapshotId = id
  | .background _, _ => false

/-- The snapshots to evict, the oldest first, until the rest fits. -/
def evictionPlan (owner : Owner) (sized : List SizedFile) : List Nat :=
  evicted owner.protects (sized.insertionSort fun file file' => file.le file')
    (sized.map SizedFile.size).sum

/-- The files of a snapshot. -/
def snapshotFiles (snapshotId : Nat) : List (Nat × FileKind) :=
  snapshotFileSuffixes.map (snapshotId, ·)

/-- Whether a manifest is there and has not expired. -/
def isLive (dir : StreamDir) (now : ℚ) (snapshotId : Nat) : Bool :=
  ((dir snapshotId .manifest).bind CacheFile.expiresAt).any fun expiresAt => now ≤ expiresAt

/-- Whether a file is there and older than an orphan may be. -/
def isOld (dir : StreamDir) (now : ℚ) (file : Nat × FileKind) : Bool :=
  (dir file.1 file.2).any fun cacheFile => cacheFile.mtime < now - queueStreamOrphanMaxAge

/-- A step of a pass. -/
def passStep (state : State) (owner : Owner) (listing : List (Nat × FileKind))
    (pass : Pass) : Option State :=
  match pass.unlinks with
  | file :: unlinks =>
      let removed :=
        if state.exists? file && (state.builds file.1).isSome then file :: state.removed
        else state.removed
      some { ((state.setFile file.1 file.2 none).setPass owner
        (some { pass with unlinks := unlinks })) with removed := removed }
  | [] =>
      match pass.phase with
      | .manifests sweeps (id :: ids) live =>
          if isLive state.dir pass.now id then
            some (state.setPass owner (some { pass with
              phase := .manifests sweeps ids (id :: live) }))
          else
            some (state.setPass owner (some { pass with
              unlinks := snapshotFiles id, phase := .manifests sweeps ids live }))
      | .manifests false [] _ => some (state.setPass owner (some { pass with phase := .done }))
      | .manifests true [] live =>
          if state.Lists (fun _ => true) listing then
            some (state.setPass owner (some { pass with phase := .orphans listing live }))
          else none
      | .orphans (file :: files) live =>
          if file.1 ∉ live ∧ isOld state.dir pass.now file then
            some (state.setPass owner (some { pass with
              unlinks := [file], phase := .orphans files live }))
          else some (state.setPass owner (some { pass with phase := .orphans files live }))
      | .orphans [] _ =>
          if state.Lists FileKind.isMp3 listing then
            some (state.setPass owner (some { pass with phase := .measuring listing [] }))
          else none
      | .measuring (file :: files) sized =>
          let sized := match state.dir file.1 file.2 with
            | none => sized
            | some cacheFile => sized ++ [⟨cacheFile.mtime, cacheFile.size, file.1, file.2⟩]
          some (state.setPass owner (some { pass with phase := .measuring files sized }))
      | .measuring [] sized =>
          some (state.setPass owner (some { pass with
            unlinks := (evictionPlan owner sized).flatMap snapshotFiles, phase := .done }))
      | .done => some (state.setPass owner none)

/-- Builds, passes and reuses begin and go on, and the time passes. -/
inductive Action where
  | startBuild
  | build (snapshotId : Nat) (outcome : Outcome) (listing : List (Nat × FileKind))
  /-- `cleanup_expired_queue_streams` starts with the manifests there are. -/
  | startCleanup (pass : Nat) (listing : List (Nat × FileKind))
  /-- A request for an expired snapshot's audio removes the snapshot. -/
  | startExpired (pass snapshotId : Nat)
  | pass (owner : Owner) (listing : List (Nat × FileKind))
  /-- `_find_reusable_snapshot` has found a snapshot with its audio. -/
  | reuse (request snapshotId : Nat)
  | returnReused (request : Nat)
  | tick (now : ℚ)
  /-- The process stops, with all that is under way in it. -/
  | restart

def act (state : State) : Action → Option State
  | .startBuild => some state.startBuild
  | .build id outcome listing => do
      let phase ← state.builds id
      buildStep state id outcome listing phase
  | .startCleanup pass listing =>
      if (state.passes (.background pass)).isSome then none
      else if state.Lists (· = .manifest) listing then
        some (state.setPass (.background pass)
          (some ⟨state.now, [], .manifests true (listing.map Prod.fst) []⟩))
      else none
  | .startExpired pass id =>
      if (state.passes (.background pass)).isSome ∨ !state.exists? (id, .manifest) then none
      else some (state.setPass (.background pass) (some ⟨state.now, [], .manifests false [id] []⟩))
  | .pass owner listing => do
      let pass ← state.passes owner
      passStep state owner listing pass
  | .reuse request id =>
      if (state.reuses request).isNone && isLive state.dir state.now id &&
          state.exists? (id, .audio) then
        some { state with reuses := Function.update state.reuses request (some id) }
      else none
  | .returnReused request => do
      let id ← state.reuses request
      return { (state.returnSnapshot id) with reuses := Function.update state.reuses request none }
  | .tick now => if now < state.now then none else some { state with now := now }
  | .restart => some { state with
      builds := fun _ => none, passes := fun _ => none, reuses := fun _ => none }

def emptyState : State where
  dir := fun _ _ => none
  now := 0
  nextSnapshot := 0
  builds := fun _ => none
  passes := fun _ => none
  reuses := fun _ => none
  removed := []
  returned := []

def streamFiles : TransitionSystem State Action :=
  .ofAct (fun state => state = emptyState) act

end Songmaker.QueueStreams.StreamFiles
