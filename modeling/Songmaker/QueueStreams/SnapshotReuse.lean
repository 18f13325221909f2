import Songmaker.QueueStreams.ContentHash
import Songmaker.QueueStreams.LibraryEdits

namespace Songmaker.QueueStreams.SnapshotReuse

open Songmaker.Foundation
open Songmaker.QueueStreams.StreamLibrary
open Songmaker.QueueStreams.LibraryEdits
open Songmaker.QueueStreams.StreamSnapshots
open Songmaker.QueueStreams.ContentHash

/-- Whether an edit keeps what was heard in an audio file, or shows that it is
another file. -/
def keepsAudio (prepared : QueueStreamPreparedSource) : Edit → Prop
  | .replaceAudio path (some file) => prepared.source.generation.mp3Path = some path →
      file.size = prepared.size → file.mtimeNs = prepared.mtimeNs →
        file.duration = some prepared.duration
  | _ => True

/-- Whether a step keeps what the snapshots that can still be reused show and
play. An edit may show the same value again, and replaced audio may be another
size or time. -/
def KeepsSnapshots (state : State) : Action → Prop
  | .edit edit => ∀ entry ∈ state.cache, entry.isLive state.now → ∀ prepared ∈ entry.prepared,
      keepsTake state.library prepared.source.generation edit ∧ keepsAudio prepared edit
  | _ => True

/-- A reused snapshot and the fresh build of its request show one stream. -/
def Transparent (state : State) : Prop :=
  ∀ answer ∈ state.answers, answer.reused = true →
    answer.fresh.map QueueStreamManifestResponse.shown = some answer.response.shown

instance (state : State) : Decidable (Transparent state) :=
  List.decidableBAll _ _

section Sources

variable {library : Library}

theorem pickedGeneration_mem {song : Song} {gen : Generation}
    (h : library.pickedGeneration song = some gen) : gen ∈ library.generations := by
  unfold Library.pickedGeneration at h
  dsimp only at h
  split at h
  · rename_i picked rest hpicked
    obtain rfl := Option.some.inj h
    have hmem := List.mem_cons_self (a := picked) (l := rest)
    rw [← hpicked] at hmem
    exact (List.mem_filter.mp (List.mem_filter.mp hmem).1).1
  · have hmem := List.mem_of_getLast? h
    rw [List.mem_insertionSort] at hmem
    exact (List.mem_filter.mp hmem).1

theorem albumSources_loaded {slug : Ident} {sources : List QueueStreamSource}
    (h : library.albumSources slug = some sources) :
    ∀ source ∈ sources, ∃ gen ∈ library.generations, source.generation = library.load gen := by
  obtain ⟨albumId, -, rfl⟩ := Option.map_eq_some_iff.mp h
  intro source hsource
  obtain ⟨index, hindex, rfl⟩ := List.mem_mapIdx.mp hsource
  have hpresented := List.getElem_mem hindex
  obtain ⟨⟨song, position⟩, -, hpresented⟩ := List.mem_filterMap.mp hpresented
  obtain ⟨gen, hgen, hpresented⟩ := Option.bind_eq_some_iff.mp hpresented
  obtain ⟨audioUrl, -, hpresented⟩ := Option.bind_eq_some_iff.mp hpresented
  refine ⟨gen, pickedGeneration_mem hgen, ?_⟩
  rw [← Option.some.inj hpresented]

theorem playlistSources_loaded {slug : Ident} {sources : List QueueStreamSource}
    (h : library.playlistSources slug = some sources) :
    ∀ source ∈ sources, ∃ gen ∈ library.generations, source.generation = library.load gen := by
  obtain ⟨entries, -, rfl⟩ := Option.map_eq_some_iff.mp h
  intro source hsource
  obtain ⟨index, hindex, rfl⟩ := List.mem_mapIdx.mp hsource
  have hpresented := List.getElem_mem hindex
  obtain ⟨entry, -, hpresented⟩ := List.mem_filterMap.mp hpresented
  obtain ⟨gen, hgen, hpresented⟩ := Option.bind_eq_some_iff.mp hpresented
  obtain ⟨song, -, hpresented⟩ := Option.bind_eq_some_iff.mp hpresented
  obtain ⟨-, -, hpresented⟩ := Option.bind_eq_some_iff.mp hpresented
  obtain ⟨audioUrl, -, hpresented⟩ := Option.bind_eq_some_iff.mp hpresented
  refine ⟨gen, List.mem_of_find?_eq_some hgen, ?_⟩
  rw [← Option.some.inj hpresented]

theorem sources_loaded {scope : SnapshotScope} {slug : Ident} {found : List QueueStreamSource}
    (h : sources library scope slug = some found) :
    ∀ source ∈ found, ∃ gen ∈ library.generations, source.generation = library.load gen := by
  cases scope with
  | auth => cases h
  | sharedPlaylist => exact playlistSources_loaded h
  | sharedAlbum => exact albumSources_loaded h

end Sources

/-- What the preparation of a source has read of its file. -/
def Heard (files : Ident → Option AudioFile) (prepared : QueueStreamPreparedSource) : Prop :=
  ∃ path file, prepared.source.generation.mp3Path = some path ∧ files path = some file ∧
    file.size = prepared.size ∧ file.mtimeNs = prepared.mtimeNs ∧
      file.duration = some prepared.duration

theorem prepareFrom_spec {files : Ident → Option AudioFile} {sources : List QueueStreamSource}
    {total stop : ℚ} {prepared : List QueueStreamPreparedSource}
    (h : prepareFrom files total sources = some (prepared, stop)) :
    ∀ p ∈ prepared, p.source ∈ sources ∧ Heard files p := by
  induction sources generalizing total stop prepared with
  | nil =>
      obtain ⟨rfl, -⟩ := Prod.mk.inj (Option.some.inj h)
      exact fun p hp => (nomatch hp)
  | cons source sources ih =>
      obtain ⟨path, hpath, h⟩ := Option.bind_eq_some_iff.mp h
      obtain ⟨file, hfile, h⟩ := Option.bind_eq_some_iff.mp h
      obtain ⟨duration, hduration, h⟩ := Option.bind_eq_some_iff.mp h
      split_ifs at h
      obtain ⟨⟨rest, stop'⟩, hrest, h⟩ := Option.bind_eq_some_iff.mp h
      obtain ⟨rfl, -⟩ := Prod.mk.inj (Option.some.inj h)
      intro p hp
      rcases List.mem_cons.mp hp with rfl | hp
      · exact ⟨List.mem_cons_self, path, file, hpath, hfile, rfl, rfl, hduration⟩
      · exact ⟨List.mem_cons_of_mem _ (ih hrest p hp).1, (ih hrest p hp).2⟩

theorem prepareQueueStreamAdmission_spec {files : Ident → Option AudioFile}
    {sources : List QueueStreamSource} {admission : QueueStreamAdmission}
    (h : prepareQueueStreamAdmission files sources = some admission) :
    ∀ p ∈ admission.preparedSources, p.source ∈ sources ∧ Heard files p := by
  unfold prepareQueueStreamAdmission at h
  split_ifs at h
  obtain ⟨⟨prepared, total⟩, hprepared, h⟩ := Option.bind_eq_some_iff.mp h
  dsimp only at h
  split_ifs at h
  obtain rfl := Option.some.inj h
  intro p hp
  obtain ⟨hsource, hheard⟩ := prepareFrom_spec hprepared p hp
  exact ⟨List.mem_of_mem_take hsource, hheard⟩

/-- What a snapshot that can be reused was built from, and that the library
still has it so. -/
structure Backed (hexdigest : List UInt8 → String) (library : Library) (entry : CacheEntry) :
    Prop where
  hashed : entry.manifest.contentHash = contentHash hexdigest entry.manifest.scope
    entry.manifest.scopeId entry.manifest.windowed entry.prepared
  tracks : ∃ stop, tracksFrom 0 entry.prepared = some (entry.manifest.tracks, stop) ∧
    entry.manifest.totalDuration = round3 stop
  issued : ∀ p ∈ entry.prepared, p.source.generation.id ∈ library.issued
  shows : ∀ p ∈ entry.prepared, Shows library p.source.generation
  heard : ∀ p ∈ entry.prepared, ∀ path, p.source.generation.mp3Path = some path →
    ∀ file, library.files path = some file → file.size = p.size → file.mtimeNs = p.mtimeNs →
      file.duration = some p.duration

/-- Two prepared sources with the same parts are the same, when one was
prepared from a library that still has the other's take and audio. -/
theorem Backed.prepared_eq {hexdigest : List UInt8 → String} {library : Library}
    {entry : CacheEntry} (hbacked : Backed hexdigest library entry)
    {p p' : QueueStreamPreparedSource} (hp : p ∈ entry.prepared)
    (hloaded : ∃ gen ∈ library.generations, p'.source.generation = library.load gen)
    (hheard : Heard library.files p') (hparts : contentParts p = contentParts p') : p = p' := by
  simp only [contentParts, List.cons.injEq, and_true] at hparts
  obtain ⟨hindex, hkey, hentryId, hid, -, -, haudioUrl, hsize, hmtimeNs, -⟩ := hparts
  obtain ⟨gen, hgen, hgeneration⟩ := hloaded
  have hsame : p'.source.generation = p.source.generation := by
    rw [hgeneration]
    refine hbacked.shows p hp gen hgen (eq_of_chars ?_)
    rw [hid, hgeneration]
    rfl
  obtain ⟨path, file, hpath, hfile, hfileSize, hfileMtime, hfileDuration⟩ := hheard
  have hduration : some p.duration = some p'.duration := by
    rw [← hfileDuration]
    refine (hbacked.heard p hp path (hsame ▸ hpath) file hfile ?_ ?_).symm
    · rw [hfileSize, toDigits_injective hsize]
    · rw [hfileMtime, toDigits_injective hmtimeNs]
  obtain ⟨⟨key, index, entryId, generation, audioUrl⟩, duration, size, mtimeNs⟩ := p
  obtain ⟨⟨key', index', entryId', generation', audioUrl'⟩, duration', size', mtimeNs'⟩ := p'
  simp only at hindex hkey hentryId haudioUrl hsize hmtimeNs hsame hduration
  obtain rfl := toDigits_injective hindex
  obtain rfl := eq_of_chars hkey
  obtain rfl := orEmpty_injective hentryId
  obtain rfl := eq_of_chars haudioUrl
  obtain rfl := toDigits_injective hsize
  obtain rfl := toDigits_injective hmtimeNs
  obtain rfl := Option.some.inj hduration
  rw [hsame]

theorem Backed.all_prepared_eq {hexdigest : List UInt8 → String} {library : Library}
    {entry : CacheEntry} (hbacked : Backed hexdigest library entry)
    {prepared : List QueueStreamPreparedSource}
    (hprepared : ∀ p' ∈ prepared, Heard library.files p' ∧
      ∃ gen ∈ library.generations, p'.source.generation = library.load gen)
    (hparts : entry.prepared.map contentParts = prepared.map contentParts) :
    entry.prepared = prepared := by
  have hlength : entry.prepared.length = prepared.length := by
    simpa using congrArg List.length hparts
  refine List.ext_getElem hlength fun i hi hi' => ?_
  have hpart : contentParts entry.prepared[i] = contentParts prepared[i] := by
    have hget := List.getElem_of_eq hparts (i := i) (by simpa using hi)
    simpa using hget
  obtain ⟨hheard, hloaded⟩ := hprepared _ (List.getElem_mem hi')
  exact hbacked.prepared_eq (List.getElem_mem hi) hloaded hheard hpart

/-- Every live manifest is what the library says, and a reused snapshot is the one that a
build would give. -/
structure Sound (hexdigest : List UInt8 → String) (state : State) : Prop where
  valid : Valid state.library
  backed : ∀ entry ∈ state.cache, entry.isLive state.now → Backed hexdigest state.library entry
  transparent : Transparent state

section Steps

variable {hexdigest : List UInt8 → String} {state state' : State}

theorem files_edit {library library' : Library} {edit : Edit}
    (h : library.edit edit = some library') :
    library'.files = library.files ∨ ∃ path file, edit = .replaceAudio path file ∧
      library'.files = Function.update library.files path file := by
  cases edit
  case replaceAudio path file =>
    obtain rfl := Option.some.inj h
    exact .inr ⟨path, file, rfl, rfl⟩
  case addAlbum | addSong | addVersion | addTake | moveSong | rewriteVersion =>
    obtain ⟨-, rfl⟩ := refused h
    exact .inl rfl
  all_goals
    obtain rfl := Option.some.inj h
    exact .inl rfl

theorem Backed.edit {library library' : Library} {entry : CacheEntry}
    (hbacked : Backed hexdigest library entry) (hvalid : Valid library) {edit : Edit}
    (h : library.edit edit = some library')
    (hkeeps : ∀ p ∈ entry.prepared, keepsTake library p.source.generation edit ∧
      keepsAudio p edit) : Backed hexdigest library' entry := by
  have hedited := edited_of_edit hvalid h
  refine ⟨hbacked.hashed, hbacked.tracks, ?_, ?_, ?_⟩
  · exact fun p hp => hedited.issued (hbacked.issued p hp)
  · exact fun p hp => hedited.shows _ (hbacked.issued p hp) (hkeeps p hp).1 (hbacked.shows p hp)
  · intro p hp path hpath file hfile hsize hmtimeNs
    rcases files_edit h with hfiles | ⟨replaced, file', rfl, hfiles⟩
    · exact hbacked.heard p hp path hpath file (hfiles ▸ hfile) hsize hmtimeNs
    · rw [hfiles] at hfile
      rcases eq_or_ne path replaced with rfl | hne
      · rw [Function.update_self] at hfile
        subst hfile
        exact (hkeeps p hp).2 hpath hsize hmtimeNs
      · rw [Function.update_of_ne hne] at hfile
        exact hbacked.heard p hp path hpath file hfile hsize hmtimeNs

theorem backed_of_build {library : Library} (hvalid : Valid library) {scope : SnapshotScope}
    {slug : Ident} {admission : QueueStreamAdmission} {snapshotId : Nat} {now mtime : ℚ}
    {manifest : QueueStreamManifest}
    (hmanifest : buildManifest hexdigest scope slug admission snapshotId now = some manifest)
    (hprepared : ∀ p ∈ admission.preparedSources, Heard library.files p ∧
      ∃ gen ∈ library.generations, p.source.generation = library.load gen) :
    Backed hexdigest library ⟨manifest, mtime, true, admission.preparedSources⟩ := by
  obtain ⟨⟨tracks, stop⟩, htracks, h⟩ := Option.bind_eq_some_iff.mp hmanifest
  obtain rfl := Option.some.inj h
  refine ⟨rfl, ⟨stop, htracks, rfl⟩, ?_, ?_, ?_⟩
  · intro p hp
    obtain ⟨-, gen, hgen, hloaded⟩ := hprepared p hp
    rw [hloaded]
    exact hvalid.issued gen hgen
  · intro p hp gen' hgen' hid
    obtain ⟨-, gen, hgen, hloaded⟩ := hprepared p hp
    rw [hloaded] at hid ⊢
    rw [List.inj_on_of_nodup_map hvalid.unique hgen' hgen hid]
  · intro p hp path hpath file hfile _ _
    obtain ⟨⟨path', file', hpath', hfile', -, -, hduration⟩, -⟩ := hprepared p hp
    obtain rfl : path = path' := Option.some.inj (hpath.symm.trans hpath')
    obtain rfl : file = file' := Option.some.inj (hfile.symm.trans hfile')
    exact hduration

theorem Backed.shown_eq (hhexdigest : Function.Injective hexdigest) {library : Library}
    {entry : CacheEntry} (hbacked : Backed hexdigest library entry) {scope : SnapshotScope}
    {slug : Ident} {admission : QueueStreamAdmission} (snapshotId : Nat) (now : ℚ)
    (hprepared : ∀ p ∈ admission.preparedSources, Heard library.files p ∧
      ∃ gen ∈ library.generations, p.source.generation = library.load gen)
    (hhash : entry.manifest.contentHash =
      contentHash hexdigest scope slug admission.windowedByCount admission.preparedSources) :
    ((buildManifest hexdigest scope slug admission snapshotId now).map
      QueueStreamManifest.response).map QueueStreamManifestResponse.shown =
        some entry.manifest.response.shown := by
  have htext := encodeUtf8_injective (hhexdigest (hbacked.hashed.symm.trans hhash))
  obtain ⟨hwindowed, hparts⟩ := contentText_injective htext
  have hsame := hbacked.all_prepared_eq hprepared hparts
  obtain ⟨stop, htracks, htotal⟩ := hbacked.tracks
  rw [hsame] at htracks
  rw [buildManifest, htracks]
  show some _ = some _
  simp only [QueueStreamManifest.response, QueueStreamManifestResponse.shown, hwindowed, htotal]

theorem findReusableSnapshot_spec {cache : List CacheEntry} {hash : String} {now : ℚ}
    {entry : CacheEntry} (h : findReusableSnapshot cache hash now = some entry) :
    entry ∈ cache ∧ entry.manifest.contentHash = hash ∧ entry.isLive now := by
  have hmem := List.mem_of_find?_eq_some h
  have hfound := List.find?_some h
  rw [List.mem_insertionSort] at hmem
  rw [Bool.and_eq_true, decide_eq_true_eq] at hfound
  exact ⟨hmem, hfound⟩

theorem Sound.stream (hhexdigest : Function.Injective hexdigest) (hsound : Sound hexdigest state)
    {scope : SnapshotScope} {slug : Ident} {builds : Bool}
    (h : buildQueueStreamSnapshot hexdigest state scope slug builds = some state') :
    Sound hexdigest state' := by
  obtain ⟨found, hfound, h⟩ := Option.bind_eq_some_iff.mp h
  obtain ⟨admission, hadmission, h⟩ := Option.bind_eq_some_iff.mp h
  have hprepared : ∀ p ∈ admission.preparedSources, Heard state.library.files p ∧
      ∃ gen ∈ state.library.generations, p.source.generation = state.library.load gen := by
    intro p hp
    obtain ⟨hsource, hheard⟩ := prepareQueueStreamAdmission_spec hadmission p hp
    exact ⟨hheard, sources_loaded hfound _ hsource⟩
  dsimp only at h
  split at h
  · rename_i entry hentry
    obtain rfl := Option.some.inj h
    obtain ⟨hmem, hhash, hlive⟩ := findReusableSnapshot_spec hentry
    refine ⟨hsound.valid, hsound.backed, ?_⟩
    intro answer hanswer hreused
    rcases List.mem_cons.mp hanswer with rfl | hanswer
    · exact (hsound.backed entry hmem hlive).shown_eq hhexdigest _ _ hprepared hhash
    · exact hsound.transparent answer hanswer hreused
  · obtain ⟨manifest, hmanifest, h⟩ := Option.bind_eq_some_iff.mp h
    split_ifs at h
    obtain rfl := Option.some.inj h
    refine ⟨hsound.valid, ?_, ?_⟩
    · intro entry hentry hlive
      rcases List.mem_cons.mp hentry with rfl | hentry
      · exact backed_of_build hsound.valid hmanifest hprepared
      · exact hsound.backed entry hentry hlive
    · intro answer hanswer hreused
      rcases List.mem_cons.mp hanswer with rfl | hanswer
      · cases hreused
      · exact hsound.transparent answer hanswer hreused

theorem Sound.act (hhexdigest : Function.Injective hexdigest) (hsound : Sound hexdigest state)
    {action : Action} (hkeeps : KeepsSnapshots state action)
    (h : act hexdigest state action = some state') : Sound hexdigest state' := by
  cases action with
  | edit edit =>
      obtain ⟨library, hlibrary, h⟩ := Option.bind_eq_some_iff.mp h
      obtain rfl := Option.some.inj h
      refine ⟨(edited_of_edit hsound.valid hlibrary).valid, ?_, hsound.transparent⟩
      intro entry hentry hlive
      exact (hsound.backed entry hentry hlive).edit hsound.valid hlibrary
        (hkeeps entry hentry hlive)
  | stream scope slug builds => exact hsound.stream hhexdigest h
  | dropManifest snapshotId =>
      obtain rfl := Option.some.inj h
      refine ⟨hsound.valid, ?_, hsound.transparent⟩
      exact fun entry hentry hlive => hsound.backed entry (List.mem_filter.mp hentry).1 hlive
  | dropAudio snapshotId =>
      obtain rfl := Option.some.inj h
      refine ⟨hsound.valid, ?_, hsound.transparent⟩
      intro entry hentry hlive
      obtain ⟨old, hold, rfl⟩ := List.mem_map.mp hentry
      split_ifs at hlive ⊢ with hid
      · simp [CacheEntry.isLive] at hlive
      · exact hsound.backed old hold hlive
  | tick now =>
      obtain ⟨hlater, rfl⟩ := refused h
      refine ⟨hsound.valid, ?_, hsound.transparent⟩
      intro entry hentry hlive
      refine hsound.backed entry hentry ?_
      simp only [CacheEntry.isLive, Bool.and_eq_true, Bool.not_eq_true',
        decide_eq_false_iff_not] at hlive ⊢
      exact ⟨fun hexpired => hlive.1 (hexpired.trans_le (not_lt.mp hlater)), hlive.2⟩

end Steps

theorem sound_invariant {hexdigest : List UInt8 → String}
    (hhexdigest : Function.Injective hexdigest) :
    ((queueStreams hexdigest).restrict KeepsSnapshots).Invariant (Sound hexdigest) where
  initial := by
    rintro state rfl
    refine ⟨⟨?_, List.nodup_nil, ?_, ?_, ?_⟩, ?_, ?_⟩
    all_goals exact fun _ h => (nomatch h)
  step := by
    rintro state action state' hsound ⟨hkeeps, hstep⟩
    exact hsound.act hhexdigest hkeeps hstep

/-- Where no edit changes what a snapshot that can be reused shows or plays,
every reused snapshot answers as a fresh build. -/
theorem reuse_transparent {hexdigest : List UInt8 → String}
    (hhexdigest : Function.Injective hexdigest) {state : State}
    (hstate : ((queueStreams hexdigest).restrict KeepsSnapshots).Reachable state) :
    Transparent state :=
  ((sound_invariant hhexdigest).of_reachable hstate).transparent

/-- A hash that writes its bytes out. -/
def latin1 (bytes : List UInt8) : String :=
  String.ofList (bytes.map fun byte => Char.ofNat byte.toNat)

theorem latin1_injective : Function.Injective latin1 := by
  have hbyte : Function.Injective fun byte : UInt8 => Char.ofNat byte.toNat := by
    intro byte byte' h
    have hcode : ∀ n < 256, (Char.ofNat n).toNat = n := by decide +kernel
    have hnat := congrArg Char.toNat h
    dsimp only at hnat
    rw [hcode _ byte.toNat_lt, hcode _ byte'.toNat_lt] at hnat
    exact UInt8.toNat_inj.mp hnat
  intro bytes bytes' h
  exact List.map_injective_iff.mpr hbyte (String.ofList_injective h)

def exampleId (c : Char) (h : '\x00' ∉ [c] ∧ '\x1f' ∉ [c]) : Ident :=
  ⟨[c], List.cons_ne_nil _ _, h⟩

def albumId : Ident := exampleId 'a' (by decide)
def songId : Ident := exampleId 's' (by decide)
def takeId : Ident := exampleId 't' (by decide)
def pathId : Ident := exampleId 'p' (by decide)

/-- A shared album of one take is streamed. -/
def streamedAlbum : List Action :=
  [.edit (.replaceAudio pathId (some ⟨10, 20, some 3⟩)),
    .edit (.addAlbum ⟨albumId, "Album", "Artist"⟩),
    .edit (.addSong ⟨songId, albumId, 1, "Old", false⟩),
    .edit (.addTake ⟨takeId, songId, none, 1, none, "turbo", some pathId, false, false⟩),
    .edit (.shareAlbum albumId (some albumId)), .stream .sharedAlbum albumId true]

def followed (actions : List Action) : State :=
  TransitionSystem.lastOf emptyState (TransitionSystem.follow (act latin1) emptyState actions)

theorem reuse_transparent_picked :
    Transparent (followed (streamedAlbum ++
      [.edit (.setPicked takeId true), .stream .sharedAlbum albumId true])) := by
  refine reuse_transparent latin1_injective
    (TransitionSystem.reachable_lastOf (.initial rfl)
      (TransitionSystem.isRun_restrict (TransitionSystem.isRun_follow _ _ _ _)
        ⟨fun entry hentry => (nomatch hentry), TransitionSystem.stepsMeet_follow ?_ _⟩))
  intro state action haction
  change action ∈ [_, _, _, _, _, _, _] at haction
  simp only [List.mem_cons, List.not_mem_nil, or_false] at haction
  rcases haction with rfl | rfl | rfl | rfl | rfl | rfl | rfl
  all_goals first | trivial | exact fun _ _ _ _ _ => ⟨trivial, trivial⟩

/-- The song is renamed, and the second stream still shows the old title. -/
theorem renamed_song_reused :
    Function.Injective latin1 ∧ ∃ state, (queueStreams latin1).Reachable state ∧
      ¬ Transparent state := by
  have hempty : (queueStreams latin1).Reachable emptyState := .initial rfl
  refine ⟨latin1_injective, followed (streamedAlbum ++
    [.edit (.renameSong songId "New"), .stream .sharedAlbum albumId true]), ?_, ?_⟩
  · exact TransitionSystem.reachable_follow hempty _
  · decide +kernel

end Songmaker.QueueStreams.SnapshotReuse
