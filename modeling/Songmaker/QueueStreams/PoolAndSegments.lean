import Songmaker.QueueStreams.PoolPlacement
import Songmaker.QueueStreams.StreamSnapshots

namespace Songmaker.QueueStreams.PoolAndSegments

open Songmaker.QueueStreams.LibraryPool
open Songmaker.QueueStreams.StreamLibrary (AudioFile Ident)
open Songmaker.QueueStreams.StreamSnapshots (QueueStreamAdmission QueueStreamManifest
  QueueStreamPreparedSource QueueStreamTrackResponse SnapshotScope buildManifest
  prepareFrom prepareQueueStreamAdmission queueStreamMaxTracks round3 trackResponse tracksFrom)

/-- The candidates that the scan has not looked at. -/
def unscannedTail (ordered : List QueueStreamSource) (membership : LibraryPoolMembership) :
    List QueueStreamSource :=
  ordered.drop (membership.sources.length + membership.skipped.length)

/-- Each candidate is a source, a skipped take or in the unscanned tail, and only one of them. -/
structure PlacedOnce (limits : ScanLimits) (audio : String → StoredAudio)
    (candidates ordered : List QueueStreamSource) (membership : LibraryPoolMembership) :
    Prop where
  distinct : (candidates.map QueueStreamSource.takeId).Nodup
  placed : (membership.sources.map QueueStreamSource.takeId ++
    membership.skipped.map QueueStreamSkipResponse.generationId ++
      (unscannedTail ordered membership).map QueueStreamSource.takeId).Perm
    (candidates.map QueueStreamSource.takeId)
  playable : ∀ source ∈ membership.sources, librarySkip audio source.generation = none
  skipped : ∀ skip ∈ membership.skipped, ∃ source ∈ candidates,
    librarySkip audio source.generation = some skip
  complete : membership.skippedComplete = true ↔ unscannedTail ordered membership = []
  atLimit : unscannedTail ordered membership ≠ [] →
    membership.sources.length + membership.skipped.length = limits.scanLimit ∨
      membership.sources.length = limits.maxTracks + 1

/-- A shuffled pool is a rearrangement of the pool as it is, and both begin with the start. -/
structure Shuffled (startGen : Option Generation) (shuffled unshuffled : List QueueStreamSource) :
    Prop where
  perm : shuffled.Perm unshuffled
  start : ∀ start ∈ startGen,
    shuffled.head?.map QueueStreamSource.takeId = some start.id ∧
      unshuffled.head?.map QueueStreamSource.takeId = some start.id

/-- The segments of a manifest, in terms of the exact durations of its sources. -/
structure Segmented (sources : List StreamLibrary.QueueStreamSource)
    (admission : QueueStreamAdmission) (manifest : QueueStreamManifest) : Prop where
  admitted : admission.preparedSources.map QueueStreamPreparedSource.source =
    sources.take queueStreamMaxTracks
  windowed : manifest.windowed = decide (queueStreamMaxTracks < sources.length)
  keys : manifest.tracks.map QueueStreamTrackResponse.key =
    admission.preparedSources.map fun prepared => prepared.source.key
  durations : manifest.tracks.map QueueStreamTrackResponse.duration =
    admission.preparedSources.map fun prepared => round3 prepared.duration
  starts : ∀ (i : Nat) (hi : i < manifest.tracks.length), manifest.tracks[i].startOffset =
    round3 ((admission.preparedSources.take i).map QueueStreamPreparedSource.duration).sum
  stops : ∀ (i : Nat) (hi : i < manifest.tracks.length), manifest.tracks[i].endOffset =
    round3 ((admission.preparedSources.take (i + 1)).map QueueStreamPreparedSource.duration).sum
  contiguous : ∀ (i : Nat) (hi : i + 1 < manifest.tracks.length),
    manifest.tracks[i].endOffset = manifest.tracks[i + 1].startOffset
  total : manifest.totalDuration =
    round3 (admission.preparedSources.map QueueStreamPreparedSource.duration).sum

section Placement

variable {limits : ScanLimits} {audio : String → StoredAudio} {startGen : Option Generation}
  {candidates ordered : List QueueStreamSource}

/-- The sources and the skipped takes that a scan of `n` candidates yields, and its answer. -/
theorem scanLibraryCandidates_spec {skipped : List QueueStreamSkipResponse}
    {playableSources : List QueueStreamSource} {tail : Bool}
    (h : scanLibraryCandidates limits audio ordered startGen =
      .ok (skipped, playableSources, tail)) :
    ∃ n ≤ ordered.length,
      playableSources = ((ordered.take n).filter fun source =>
        (librarySkip audio source.generation).isNone) ∧
      skipped = ((ordered.take n).filterMap fun source =>
        librarySkip audio source.generation) ∧
      (tail = true ↔ n < ordered.length) ∧
      (n < ordered.length → n = limits.scanLimit ∨
        playableSources.length = limits.maxTracks + 1) := by
  unfold scanLibraryCandidates at h
  cases hscan : scanFrom limits audio startGen ⟨[], [], 0⟩ ordered with
  | error refusal =>
      rw [hscan] at h
      exact absurd h (by simp [bind, Except.bind])
  | ok scan =>
      rw [hscan] at h
      obtain ⟨rfl, hrest⟩ := Prod.mk.inj (Except.ok.inj h)
      obtain ⟨rfl, rfl⟩ := Prod.mk.inj hrest
      obtain ⟨n, hn⟩ := scanFrom_reaches hscan
      obtain ⟨hscanned, hplayable⟩ := scanFrom_within (Nat.zero_le _) (Nat.zero_le _) hscan
      have hcount : scan.scanned = n := hn.scanned.trans (Nat.zero_add n)
      refine ⟨n, hn.within, hn.playable, hn.skipped, ?_, ?_⟩
      · rw [hcount]
        exact decide_eq_true_iff
      · intro hshort
        rcases hn.stops hshort with hlimit | hlimit
        · exact Or.inl (hcount.symm.trans (le_antisymm hscanned hlimit))
        · exact Or.inr (le_antisymm hplayable hlimit)

/-- The membership that a scan yields. -/
def scannedMembership (pool : LibraryTakePool) (candidates : List QueueStreamSource)
    (skipped : List QueueStreamSkipResponse) (playableSources : List QueueStreamSource)
    (tail : Bool) : LibraryPoolMembership where
  pool := pool
  sources := playableSources.mapIdx fun index source => { source with index := index }
  skipped := skipped.insertionSort fun skip skip' =>
    canonicalRank candidates skip.generationId ≤ canonicalRank candidates skip'.generationId
  skippedComplete := !tail

theorem generation_mem_of_mem_reindexed {sources : List QueueStreamSource}
    {source : QueueStreamSource}
    (h : source ∈ sources.mapIdx fun index source => { source with index := index }) :
    ∃ source' ∈ sources, source'.generation = source.generation := by
  obtain ⟨i, hi, rfl⟩ := List.mem_mapIdx.mp h
  exact ⟨sources[i], List.getElem_mem hi, rfl⟩

theorem map_takeId_reindexed (sources : List QueueStreamSource) :
    (sources.mapIdx fun index source => { source with index := index }).map
      QueueStreamSource.takeId = sources.map QueueStreamSource.takeId := by
  apply List.ext_getElem
  · simp only [List.length_map, List.length_mapIdx]
  · intro i _ _
    simp only [List.getElem_map, List.getElem_mapIdx, QueueStreamSource.takeId]

theorem placedOnce_of_scan {pool : LibraryTakePool} {skipped : List QueueStreamSkipResponse}
    {playableSources : List QueueStreamSource} {tail : Bool}
    (hdistinct : (candidates.map QueueStreamSource.takeId).Nodup)
    (hordered : ordered.Perm candidates)
    (hscan : scanLibraryCandidates limits audio ordered startGen =
      .ok (skipped, playableSources, tail)) :
    PlacedOnce limits audio candidates ordered
      (scannedMembership pool candidates skipped playableSources tail) := by
  obtain ⟨n, hn, hplayable, hskipped, htail, hlimit⟩ := scanLibraryCandidates_spec hscan
  have hplaced := played_and_skipped_perm audio (ordered.take n)
  rw [← hplayable, ← hskipped] at hplaced
  have hcount : playableSources.length + skipped.length = n := by
    have hlength := hplaced.length_eq
    simp only [List.length_append, List.length_map, List.length_take] at hlength
    omega
  have hrest : unscannedTail ordered
      (scannedMembership pool candidates skipped playableSources tail) = ordered.drop n := by
    unfold unscannedTail scannedMembership
    rw [List.length_mapIdx, List.length_insertionSort, hcount]
  have hnil : ordered.drop n = [] ↔ ¬n < ordered.length := by
    rw [List.drop_eq_nil_iff, Nat.not_lt]
  constructor
  · exact hdistinct
  · rw [hrest]
    dsimp only [scannedMembership]
    rw [map_takeId_reindexed]
    have hsorted := (List.perm_insertionSort (fun skip skip' : QueueStreamSkipResponse =>
      canonicalRank candidates skip.generationId ≤ canonicalRank candidates skip'.generationId)
      skipped).map QueueStreamSkipResponse.generationId
    have hscanned := ((hsorted.append_left _).trans hplaced).append_right
      ((ordered.drop n).map QueueStreamSource.takeId)
    rw [← List.map_append, List.take_append_drop] at hscanned
    exact hscanned.trans (hordered.map _)
  · intro source hsource
    obtain ⟨source', hmem, hgeneration⟩ := generation_mem_of_mem_reindexed hsource
    rw [hplayable] at hmem
    rw [← hgeneration]
    exact Option.isNone_iff_eq_none.mp (List.mem_filter.mp hmem).2
  · intro skip hskip
    rw [scannedMembership, List.mem_insertionSort, hskipped] at hskip
    obtain ⟨source, hsource, hfound⟩ := List.mem_filterMap.mp hskip
    exact ⟨source, hordered.mem_iff.mp (List.mem_of_mem_take hsource), hfound⟩
  · rw [hrest, hnil, ← htail]
    cases tail <;> simp [scannedMembership]
  · intro hne
    rw [hrest, Ne, hnil, not_not] at hne
    dsimp only [scannedMembership]
    rw [List.length_mapIdx, List.length_insertionSort, hcount]
    exact hlimit hne

theorem placedOnce_of_resolve {access : String → Option Generation} {songs : List Song}
    {pool : LibraryTakePool} {startGenerationId : Option String}
    {shuffle : Option (Shuffle QueueStreamSource)} {membership : LibraryPoolMembership}
    (h : resolveLibraryPoolMembership limits audio access songs pool startGenerationId shuffle =
      .ok membership) :
    ∃ startGen, requestedStart access startGenerationId = .ok startGen ∧
      PlacedOnce limits audio (libraryCandidates songs pool startGen)
        (orderLibraryCandidates (libraryCandidates songs pool startGen) startGen shuffle)
        membership := by
  unfold resolveLibraryPoolMembership at h
  cases hstart : requestedStart access startGenerationId with
  | error refusal =>
      rw [hstart] at h
      exact absurd h (by simp [bind, Except.bind])
  | ok startGen =>
      refine ⟨startGen, rfl, ?_⟩
      rw [hstart] at h
      change Except.bind (scanLibraryCandidates limits audio _ startGen) _ = _ at h
      cases hscan : scanLibraryCandidates limits audio
          (orderLibraryCandidates (libraryCandidates songs pool startGen) startGen shuffle)
          startGen with
      | error refusal =>
          rw [hscan] at h
          exact absurd h (by simp [Except.bind])
      | ok found =>
          obtain ⟨skipped, playableSources, tail⟩ := found
          rw [hscan] at h
          dsimp only [Except.bind] at h
          split_ifs at h with hempty
          rw [← Except.ok.inj h]
          exact placedOnce_of_scan (libraryCandidates_nodup songs pool startGen)
            (orderLibraryCandidates_perm startGen shuffle
              (libraryCandidates_nodup songs pool startGen)) hscan

theorem rotateSourcesToStart_start {sources : List QueueStreamSource} {id : String}
    (hid : id ∈ sources.map QueueStreamSource.takeId) :
    (rotateSourcesToStart sources id).head?.map QueueStreamSource.takeId = some id := by
  unfold rotateSourcesToStart
  cases hposition : sources.findIdx? fun source => source.generation.id = id with
  | none =>
      obtain ⟨source, hsource, hsourceId⟩ := List.mem_map.mp hid
      have hother := List.findIdx?_eq_none_iff.mp hposition source hsource
      exact absurd hsourceId (of_decide_eq_false hother)
  | some position =>
      obtain ⟨hi, hfound, -⟩ := List.findIdx?_eq_some_iff_getElem.mp hposition
      dsimp only
      rw [List.drop_eq_getElem_cons hi]
      exact congrArg some (of_decide_eq_true hfound)

theorem shuffled_order {startGen : Option Generation}
    (hdistinct : (candidates.map QueueStreamSource.takeId).Nodup)
    (hstart : ∀ start ∈ startGen, start.id ∈ candidates.map QueueStreamSource.takeId)
    (shuffle : Shuffle QueueStreamSource) :
    Shuffled startGen (orderLibraryCandidates candidates startGen (some shuffle))
      (orderLibraryCandidates candidates startGen none) := by
  constructor
  · exact (orderLibraryCandidates_perm startGen (some shuffle) hdistinct).trans
      (orderLibraryCandidates_perm startGen none hdistinct).symm
  · rintro start rfl
    have hid := hstart start rfl
    exact ⟨shuffleLibrarySources_start shuffle hdistinct hid, rotateSourcesToStart_start hid⟩

theorem requestedStart_unarchived {access : String → Option Generation}
    {startGenerationId : Option String} {startGen : Option Generation}
    (h : requestedStart access startGenerationId = .ok startGen) :
    ∀ start ∈ startGen, start.isArchived = false := by
  unfold requestedStart at h
  rintro start rfl
  split at h
  · exact absurd (Except.ok.inj h).symm (Option.some_ne_none start)
  · split at h
    · exact absurd h (by simp)
    · split_ifs at h with harchived
      rw [← Option.some.inj (Except.ok.inj h)]
      exact Bool.eq_false_of_not_eq_true harchived

end Placement

section Segments

theorem trackResponse_spec {source : StreamLibrary.QueueStreamSource}
    {gen : StreamLibrary.LoadedGeneration} {duration start stop : ℚ}
    {track : QueueStreamTrackResponse}
    (h : trackResponse source gen duration start stop = some track) :
    track.key = source.key ∧ track.duration = round3 duration ∧
      track.startOffset = round3 start ∧ track.endOffset = round3 stop := by
  obtain ⟨lyrics, -, hrest⟩ := Option.bind_eq_some_iff.mp h
  rw [← Option.some.inj hrest]
  exact ⟨rfl, rfl, rfl, rfl⟩

/-- The tracks of a build whose first segment begins at `offset`. -/
structure TracksOf (offset : ℚ) (prepared : List QueueStreamPreparedSource)
    (tracks : List QueueStreamTrackResponse) (stop : ℚ) : Prop where
  keys : tracks.map QueueStreamTrackResponse.key =
    prepared.map fun prepared => prepared.source.key
  durations : tracks.map QueueStreamTrackResponse.duration =
    prepared.map fun prepared => round3 prepared.duration
  starts : ∀ (i : Nat) (hi : i < tracks.length), tracks[i].startOffset =
    round3 (offset + ((prepared.take i).map QueueStreamPreparedSource.duration).sum)
  stops : ∀ (i : Nat) (hi : i < tracks.length), tracks[i].endOffset =
    round3 (offset + ((prepared.take (i + 1)).map QueueStreamPreparedSource.duration).sum)
  stop : stop = offset + (prepared.map QueueStreamPreparedSource.duration).sum

theorem tracksFrom_spec {offset stop : ℚ} {prepared : List QueueStreamPreparedSource}
    {tracks : List QueueStreamTrackResponse}
    (h : tracksFrom offset prepared = some (tracks, stop)) :
    TracksOf offset prepared tracks stop := by
  induction prepared generalizing offset tracks with
  | nil =>
      obtain ⟨rfl, rfl⟩ := Prod.mk.inj (Option.some.inj h)
      exact ⟨rfl, rfl, fun i hi => absurd hi (Nat.not_lt_zero i),
        fun i hi => absurd hi (Nat.not_lt_zero i), (add_zero offset).symm⟩
  | cons first prepared ih =>
      obtain ⟨track, htrack, hrest⟩ := Option.bind_eq_some_iff.mp h
      obtain ⟨⟨rest, last⟩, hlater, htracks⟩ := Option.bind_eq_some_iff.mp hrest
      obtain ⟨rfl, rfl⟩ := Prod.mk.inj (Option.some.inj htracks)
      obtain ⟨hkey, hduration, hstart, hstop⟩ := trackResponse_spec htrack
      have hih := ih hlater
      constructor
      · rw [List.map_cons, List.map_cons, hkey, hih.keys]
      · rw [List.map_cons, List.map_cons, hduration, hih.durations]
      · intro i hi
        cases i with
        | zero =>
            rw [List.take_zero, List.map_nil, List.sum_nil, add_zero]
            exact hstart
        | succ i =>
            rw [List.take_succ_cons, List.map_cons, List.sum_cons, ← add_assoc]
            exact hih.starts i (Nat.lt_of_succ_lt_succ hi)
      · intro i hi
        rw [List.take_succ_cons, List.map_cons, List.sum_cons, ← add_assoc]
        cases i with
        | zero =>
            rw [List.take_zero, List.map_nil, List.sum_nil, add_zero]
            exact hstop
        | succ i => exact hih.stops i (Nat.lt_of_succ_lt_succ hi)
      · rw [List.map_cons, List.sum_cons, ← add_assoc]
        exact hih.stop

theorem prepareFrom_sources {files : Ident → Option AudioFile} {total stop : ℚ}
    {sources : List StreamLibrary.QueueStreamSource}
    {prepared : List QueueStreamPreparedSource}
    (h : prepareFrom files total sources = some (prepared, stop)) :
    prepared.map QueueStreamPreparedSource.source = sources := by
  induction sources generalizing total stop prepared with
  | nil =>
      obtain ⟨rfl, -⟩ := Prod.mk.inj (Option.some.inj h)
      rfl
  | cons source sources ih =>
      obtain ⟨path, -, h⟩ := Option.bind_eq_some_iff.mp h
      obtain ⟨file, -, h⟩ := Option.bind_eq_some_iff.mp h
      obtain ⟨duration, -, h⟩ := Option.bind_eq_some_iff.mp h
      split_ifs at h
      obtain ⟨⟨rest, stop'⟩, hrest, h⟩ := Option.bind_eq_some_iff.mp h
      obtain ⟨rfl, -⟩ := Prod.mk.inj (Option.some.inj h)
      rw [List.map_cons, ih hrest]

theorem admitted_sources {files : Ident → Option AudioFile}
    {sources : List StreamLibrary.QueueStreamSource} {admission : QueueStreamAdmission}
    (h : prepareQueueStreamAdmission files sources = some admission) :
    admission.preparedSources.map QueueStreamPreparedSource.source =
        sources.take queueStreamMaxTracks ∧
      admission.windowedByCount = decide (queueStreamMaxTracks < sources.length) := by
  unfold prepareQueueStreamAdmission at h
  split_ifs at h
  obtain ⟨⟨prepared, total⟩, hprepared, h⟩ := Option.bind_eq_some_iff.mp h
  dsimp only at h
  split_ifs at h
  rw [← Option.some.inj h]
  exact ⟨prepareFrom_sources hprepared, rfl⟩

theorem segmented_of_build {files : Ident → Option AudioFile}
    {sources : List StreamLibrary.QueueStreamSource} {admission : QueueStreamAdmission}
    {hexdigest : List UInt8 → String} {scope : SnapshotScope} {scopeId : Ident}
    {snapshotId : Nat} {now : ℚ} {manifest : QueueStreamManifest}
    (hadmission : prepareQueueStreamAdmission files sources = some admission)
    (hmanifest : buildManifest hexdigest scope scopeId admission snapshotId now =
      some manifest) :
    Segmented sources admission manifest := by
  obtain ⟨hadmitted, hwindowed⟩ := admitted_sources hadmission
  obtain ⟨⟨tracks, stop⟩, htracks, hbuilt⟩ := Option.bind_eq_some_iff.mp hmanifest
  rw [← Option.some.inj hbuilt]
  obtain ⟨hkeys, hdurations, hstarts, hstops, hstop⟩ := tracksFrom_spec htracks
  simp only [zero_add] at hstarts hstops hstop
  constructor
  · exact hadmitted
  · exact hwindowed
  · exact hkeys
  · exact hdurations
  · exact hstarts
  · exact hstops
  · intro i hi
    exact (hstops i (Nat.lt_of_succ_lt hi)).trans (hstarts (i + 1) hi).symm
  · exact congrArg round3 hstop

end Segments

/-- Over every start, pool, order, shuffle and limits. -/
theorem pool_placed_once_and_segments_contiguous (limits : ScanLimits)
    (audio : String → StoredAudio) (access : String → Option Generation) (songs : List Song)
    (pool : LibraryTakePool) (startGenerationId : Option String) :
    (∀ (shuffle : Option (Shuffle QueueStreamSource)) (membership : LibraryPoolMembership),
      resolveLibraryPoolMembership limits audio access songs pool startGenerationId shuffle =
        .ok membership →
      ∃ startGen, requestedStart access startGenerationId = .ok startGen ∧
        PlacedOnce limits audio (libraryCandidates songs pool startGen)
          (orderLibraryCandidates (libraryCandidates songs pool startGen) startGen shuffle)
          membership) ∧
    (∀ (shuffle : Shuffle QueueStreamSource) (startGen : Option Generation),
      requestedStart access startGenerationId = .ok startGen →
      Shuffled startGen
        (orderLibraryCandidates (libraryCandidates songs pool startGen) startGen (some shuffle))
        (orderLibraryCandidates (libraryCandidates songs pool startGen) startGen none)) ∧
    (∀ (files : Ident → Option AudioFile) (sources : List StreamLibrary.QueueStreamSource)
      (admission : QueueStreamAdmission) (hexdigest : List UInt8 → String)
      (scope : SnapshotScope) (scopeId : Ident) (snapshotId : Nat) (now : ℚ)
      (manifest : QueueStreamManifest),
      prepareQueueStreamAdmission files sources = some admission →
      buildManifest hexdigest scope scopeId admission snapshotId now = some manifest →
      Segmented sources admission manifest) := by
  refine ⟨fun shuffle membership h => placedOnce_of_resolve h, ?_, ?_⟩
  · intro shuffle startGen hstart
    apply shuffled_order (libraryCandidates_nodup songs pool startGen)
    rintro start rfl
    exact start_mem_libraryCandidates (requestedStart_unarchived hstart start rfl)
  · intro files sources admission hexdigest scope scopeId snapshotId now manifest
      hadmission hmanifest
    exact segmented_of_build hadmission hmanifest

/-- Four takes of one song, the second without a file. -/
def exampleSongs : List Song :=
  let take id path := ⟨id, "song", path, false, true, false, some 0⟩
  [⟨"song", some "album", 1, [take "a" "a.mp3", take "b" "", take "c" "c.mp3", take "d" "d.mp3"]⟩]

def exampleAccess (id : String) : Option Generation :=
  (exampleSongs.flatMap Song.generations).find? fun generation => generation.id = id

def reversed : Shuffle QueueStreamSource := ⟨List.reverse, List.reverse_perm⟩

theorem pool_placed_once_and_segments_contiguous_fourTakes :
    ∃ membership, resolveLibraryPoolMembership ⟨5, 3⟩ (fun _ => .playable) exampleAccess
        exampleSongs .picks (some "c") (some reversed) = .ok membership ∧
      membership.sources.map QueueStreamSource.takeId = ["c", "d"] ∧
      membership.skipped.map QueueStreamSkipResponse.generationId = ["b"] ∧
      ∃ startGen, requestedStart exampleAccess (some "c") = .ok startGen ∧
        PlacedOnce ⟨5, 3⟩ (fun _ => .playable) (libraryCandidates exampleSongs .picks startGen)
          (orderLibraryCandidates (libraryCandidates exampleSongs .picks startGen) startGen
            (some reversed)) membership := by
  have hids : (resolveLibraryPoolMembership ⟨5, 3⟩ (fun _ => .playable) exampleAccess
      exampleSongs .picks (some "c") (some reversed)).map (fun membership =>
        (membership.sources.map QueueStreamSource.takeId,
          membership.skipped.map QueueStreamSkipResponse.generationId)) =
        .ok (["c", "d"], ["b"]) := by
    decide +kernel
  cases hresolve : resolveLibraryPoolMembership ⟨5, 3⟩ (fun _ => .playable) exampleAccess
      exampleSongs .picks (some "c") (some reversed) with
  | error refusal =>
      rw [hresolve] at hids
      exact absurd hids (by simp [Except.map])
  | ok membership =>
      rw [hresolve] at hids
      obtain ⟨hsources, hskipped⟩ := Prod.mk.inj (Except.ok.inj hids)
      exact ⟨membership, rfl, hsources, hskipped,
        (pool_placed_once_and_segments_contiguous ⟨5, 3⟩ (fun _ => .playable) exampleAccess
          exampleSongs .picks (some "c")).1 (some reversed) membership hresolve⟩

def exampleIdent : Ident := ⟨['q'], by decide, by decide⟩

/-- Three sources of a second and four tenths of a millisecond. -/
def exampleSources : List StreamLibrary.QueueStreamSource :=
  List.replicate 3 ⟨exampleIdent, 0, none,
    ⟨exampleIdent, none, 1, none, "turbo", some exampleIdent, none, none⟩, exampleIdent⟩

theorem offsets_are_not_the_sums_of_durations :
    ∃ admission manifest,
      prepareQueueStreamAdmission (fun _ => some ⟨1, 1, some (10004 / 10000)⟩) exampleSources =
        some admission ∧
      buildManifest (fun _ => "") .sharedAlbum exampleIdent admission 0 0 = some manifest ∧
      ¬(∀ (i : Nat) (hi : i < manifest.tracks.length), manifest.tracks[i].startOffset =
        ((manifest.tracks.take i).map QueueStreamTrackResponse.duration).sum) ∧
      ¬(∀ (i : Nat) (hi : i < manifest.tracks.length), manifest.tracks[i].startOffset =
        ((admission.preparedSources.take i).map QueueStreamPreparedSource.duration).sum) := by
  have hcomputed : (prepareQueueStreamAdmission
      (fun _ => some ⟨1, 1, some (10004 / 10000)⟩) exampleSources).bind (fun admission =>
        (buildManifest (fun _ => "") .sharedAlbum exampleIdent admission 0 0).map
          fun manifest => (admission.preparedSources.map QueueStreamPreparedSource.duration,
            manifest.tracks.map QueueStreamTrackResponse.duration,
            manifest.tracks.map QueueStreamTrackResponse.startOffset)) =
      some (List.replicate 3 (10004 / 10000), [1, 1, 1], [0, 1, 2001 / 1000]) := by
    decide +kernel
  obtain ⟨admission, hadmission, hmapped⟩ := Option.bind_eq_some_iff.mp hcomputed
  obtain ⟨manifest, hmanifest, hparts⟩ := Option.map_eq_some_iff.mp hmapped
  obtain ⟨hexact, hparts⟩ := Prod.mk.inj hparts
  obtain ⟨hreported, hstarts⟩ := Prod.mk.inj hparts
  have hlength : manifest.tracks.length = 3 := by
    rw [← List.length_map, hstarts]
    rfl
  have hthird : manifest.tracks[2].startOffset = 2001 / 1000 := by
    have hget := congrArg (fun offsets : List ℚ => offsets[2]?) hstarts
    simpa [hlength] using hget
  refine ⟨admission, manifest, hadmission, hmanifest, ?_, ?_⟩
  · intro hsums
    have hsum := hsums 2 (by omega)
    rw [hthird, List.map_take, hreported] at hsum
    revert hsum
    decide +kernel
  · intro hsums
    have hsum := hsums 2 (by omega)
    rw [hthird, List.map_take, hexact] at hsum
    revert hsum
    decide +kernel

end Songmaker.QueueStreams.PoolAndSegments
