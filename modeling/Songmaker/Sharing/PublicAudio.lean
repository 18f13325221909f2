import Songmaker.Sharing.ShareLibrary

namespace Songmaker.Sharing.PublicAudio

open Songmaker.Sharing.ShareLibrary

theorem getLast?_insertionSort_eq_some_iff {Row : Type} (key : Row → Nat) (rows : List Row)
    (hkey : ∀ first ∈ rows, ∀ second ∈ rows, key first = key second → first = second)
    (row : Row) :
    (rows.insertionSort fun first second => key first ≤ key second).getLast? = some row ↔
      row ∈ rows ∧ ∀ other ∈ rows, key other ≤ key row := by
  have : Std.Total fun first second : Row => key first ≤ key second :=
    ⟨fun first second => Nat.le_total _ _⟩
  have : IsTrans Row fun first second => key first ≤ key second :=
    ⟨fun _ _ _ => Nat.le_trans⟩
  have hsorted := List.pairwise_insertionSort (fun first second => key first ≤ key second) rows
  have hmem : ∀ other, other ∈ rows.insertionSort (fun first second => key first ≤ key second) ↔
      other ∈ rows := fun other => List.mem_insertionSort _
  have hlast : ∀ last, (rows.insertionSort fun first second =>
      key first ≤ key second).getLast? = some last →
        last ∈ rows ∧ ∀ other ∈ rows, key other ≤ key last := by
    intro last hlast
    obtain ⟨before, hbefore⟩ := List.getLast?_eq_some_iff.mp hlast
    refine ⟨(hmem last).mp (hbefore ▸ by simp), fun other hother => ?_⟩
    have hin := (hmem other).mpr hother
    rw [hbefore] at hsorted hin
    rcases List.mem_append.mp hin with hin | hin
    · exact (List.pairwise_append.mp hsorted).2.2 other hin last (by simp)
    · rw [List.mem_singleton.mp hin]
  constructor
  · exact hlast row
  · rintro ⟨hrow, hmax⟩
    have hsome := List.getLast?_eq_some_getLast (List.ne_nil_of_mem ((hmem row).mpr hrow))
    obtain ⟨hin, hge⟩ := hlast _ hsome
    exact hsome.trans (congrArg some
      (hkey _ hin row hrow (Nat.le_antisymm (hmax _ hin) (hge row hrow))))

theorem head?_eq_some_of_all {Row : Type} {rows : List Row} {row : Row} (hrow : row ∈ rows)
    (hall : ∀ other ∈ rows, other = row) :
    rows.head? = some row := by
  rcases rows with _ | ⟨first, rest⟩
  · simp at hrow
  · simp [hall first (by simp)]

variable {library : Library} {song : Song} {gen : Generation}

theorem isPlayableTake_eq_true :
    isPlayableTake gen = true ↔ gen.mp3Path ≠ [] ∧ gen.isArchived = false := by
  simp [isPlayableTake]

theorem mem_generationsOf :
    gen ∈ library.generationsOf song ↔ gen ∈ library.generations ∧ gen.songId = song.id := by
  simp [Library.generationsOf, List.mem_insertionSort]

theorem generation_eq_of_id {first second : Generation} (hfirst : first ∈ library.generations)
    (hsecond : second ∈ library.generations) (hid : first.id = second.id) :
    first = second :=
  List.inj_on_of_nodup_map library.generationIds hfirst hsecond hid

/-! ### One take of each song -/

/-- The take that the public page chooses of a song. -/
def Chosen (library : Library) (gen : Generation) : Prop :=
  gen ∈ library.generations ∧ isPlayableTake gen = true ∧
    (gen.isPicked = true ∨ ∀ other ∈ library.generations, other.songId = gen.songId →
      isPlayableTake other = true →
        other.isPicked = false ∧ other.generationNumber ≤ gen.generationNumber)

theorem pickedGeneration_of_picked (hgen : gen ∈ library.generations)
    (hsong : gen.songId = song.id) (hplayable : isPlayableTake gen = true)
    (hpicked : gen.isPicked = true) :
    library.pickedGeneration song = some gen := by
  have hhead : ((library.generationsOf song).filter fun gen =>
      gen.isPicked && isPlayableTake gen).head? = some gen := by
    apply head?_eq_some_of_all
    · simp [mem_generationsOf, hgen, hsong, hplayable, hpicked]
    · intro other hother
      simp only [List.mem_filter, mem_generationsOf, Bool.and_eq_true] at hother
      exact library.onePick other hother.1.1 gen hgen (hother.1.2.trans hsong.symm)
        hother.2.1 hpicked
  obtain ⟨rest, hrest⟩ := List.head?_eq_some_iff.mp hhead
  rw [Library.pickedGeneration, hrest]

theorem pickedGeneration_of_none_picked
    (hnone : ∀ other ∈ library.generations, other.songId = song.id →
      isPlayableTake other = true → other.isPicked = false) :
    library.pickedGeneration song = some gen ↔
      gen ∈ library.generations ∧ gen.songId = song.id ∧ isPlayableTake gen = true ∧
        ∀ other ∈ library.generations, other.songId = song.id → isPlayableTake other = true →
          other.generationNumber ≤ gen.generationNumber := by
  have hempty : (library.generationsOf song).filter
      (fun gen => gen.isPicked && isPlayableTake gen) = [] := by
    simp only [List.filter_eq_nil_iff, mem_generationsOf, Bool.and_eq_true]
    rintro other ⟨hother, hsong⟩ ⟨hpicked, hplayable⟩
    simp [hnone other hother hsong hplayable] at hpicked
  rw [Library.pickedGeneration, hempty]
  show (List.insertionSort _ _).getLast? = some gen ↔ _
  rw [getLast?_insertionSort_eq_some_iff]
  · simp only [List.mem_filter, mem_generationsOf, and_imp, and_assoc]
  · intro first hfirst second hsecond hnumber
    rw [List.mem_filter, mem_generationsOf] at hfirst hsecond
    exact library.generationNumbers first hfirst.1.1 second hsecond.1.1
      (hfirst.1.2.trans hsecond.1.2.symm) hnumber

theorem pickedGeneration_eq_some_iff :
    library.pickedGeneration song = some gen ↔ Chosen library gen ∧ gen.songId = song.id := by
  by_cases hpick : ∃ pick ∈ library.generations, pick.songId = song.id ∧
      isPlayableTake pick = true ∧ pick.isPicked = true
  · obtain ⟨pick, hmem, hsong, hplayable, hpicked⟩ := hpick
    rw [pickedGeneration_of_picked hmem hsong hplayable hpicked, Option.some.injEq]
    constructor
    · rintro rfl
      exact ⟨⟨hmem, hplayable, Or.inl hpicked⟩, hsong⟩
    · rintro ⟨⟨hgen, hplayable', hpicked' | hlatest⟩, hsong'⟩
      · exact library.onePick pick hmem gen hgen (hsong.trans hsong'.symm) hpicked hpicked'
      · have := (hlatest pick hmem (hsong.trans hsong'.symm) hplayable).1
        simp [hpicked] at this
  · have hnone : ∀ other ∈ library.generations, other.songId = song.id →
        isPlayableTake other = true → other.isPicked = false := by
      intro other hother hsong hplayable
      by_contra hpicked
      exact hpick ⟨other, hother, hsong, hplayable, by simpa using hpicked⟩
    rw [pickedGeneration_of_none_picked hnone]
    constructor
    · rintro ⟨hgen, hsong, hplayable, hlatest⟩
      refine ⟨⟨hgen, hplayable, Or.inr fun other hother hsame hother' => ?_⟩, hsong⟩
      have hsong' := hsame.trans hsong
      exact ⟨hnone other hother hsong' hother', hlatest other hother hsong' hother'⟩
    · rintro ⟨⟨hgen, hplayable, hpicked | hlatest⟩, hsong⟩
      · simp [hnone gen hgen hsong hplayable] at hpicked
      · exact ⟨hgen, hsong, hplayable, fun other hother hsame hother' =>
          (hlatest other hother (hsame.trans hsong.symm) hother').2⟩

theorem songHasPlayablePick_eq_false :
    library.songHasPlayablePick gen = false ↔ ∀ other ∈ library.generations,
      other.songId = gen.songId → isPlayableTake other = true → other.isPicked = false := by
  simp only [Library.songHasPlayablePick, List.any_eq_false, Bool.and_eq_true, decide_eq_true_eq]
  grind

theorem selectedPlayablePickId_of_picked (hgen : gen ∈ library.generations)
    (hplayable : isPlayableTake gen = true) (hpicked : gen.isPicked = true) :
    library.selectedPlayablePickId gen = some gen.id := by
  have hhead : ((library.generations.filter fun selected =>
      selected.songId = gen.songId && selected.isPicked && isPlayableTake selected).insertionSort
        fun first second => second.createdAt ≤ first.createdAt).head? = some gen := by
    apply head?_eq_some_of_all
    · simp [List.mem_insertionSort, hgen, hplayable, hpicked]
    · intro other hother
      simp only [List.mem_insertionSort, List.mem_filter, Bool.and_eq_true,
        decide_eq_true_eq] at hother
      exact library.onePick other hother.1 gen hgen hother.2.1.1 hother.2.1.2 hpicked
  rw [Library.selectedPlayablePickId, hhead]
  rfl

theorem latestPlayableGenerationNumber_eq_some_iff (hgen : gen ∈ library.generations)
    (hplayable : isPlayableTake gen = true) :
    library.latestPlayableGenerationNumber gen = some gen.generationNumber ↔
      ∀ other ∈ library.generations, other.songId = gen.songId → isPlayableTake other = true →
        other.generationNumber ≤ gen.generationNumber := by
  rw [Library.latestPlayableGenerationNumber, List.max?_eq_some_iff]
  simp only [List.mem_map, List.mem_filter, Bool.and_eq_true, decide_eq_true_eq,
    forall_exists_index, and_imp]
  constructor
  · exact fun hmax other hother hsong hother' => hmax.2 _ other hother hsong hother' rfl
  · rintro hmax
    refine ⟨⟨gen, ⟨hgen, rfl, hplayable⟩, rfl⟩, ?_⟩
    rintro _ other hother hsong hother' rfl
    exact hmax other hother hsong hother'

theorem isSelected_iff_chosen (hgen : gen ∈ library.generations)
    (hplayable : isPlayableTake gen = true) :
    library.isSelected gen = true ↔ Chosen library gen := by
  simp only [Library.isSelected, Bool.or_eq_true, Bool.and_eq_true, decide_eq_true_eq,
    Bool.not_eq_true', songHasPlayablePick_eq_false,
    latestPlayableGenerationNumber_eq_some_iff hgen hplayable]
  constructor
  · rintro (⟨hpicked, -⟩ | ⟨hnone, hlatest⟩)
    · exact ⟨hgen, hplayable, Or.inl hpicked⟩
    · exact ⟨hgen, hplayable, Or.inr fun other hother hsong hother' =>
        ⟨hnone other hother hsong hother', hlatest other hother hsong hother'⟩⟩
  · rintro ⟨-, -, hpicked | hlatest⟩
    · exact Or.inl ⟨hpicked, selectedPlayablePickId_of_picked hgen hplayable hpicked⟩
    · exact Or.inr ⟨fun other hother hsong hother' => (hlatest other hother hsong hother').1,
        fun other hother hsong hother' => (hlatest other hother hsong hother').2⟩

/-! ### The page -/

theorem find?_eq_some_iff_of_unique {Row : Type} {rows : List Row} {found : Row → Bool} {row : Row}
    (hunique : ∀ first ∈ rows, ∀ second ∈ rows, found first = true → found second = true →
      first = second) :
    rows.find? found = some row ↔ row ∈ rows ∧ found row = true := by
  constructor
  · exact fun hfind => ⟨List.mem_of_find?_eq_some hfind, List.find?_some hfind⟩
  · rintro ⟨hrow, hfound⟩
    have hsome : (rows.find? found).isSome = true := List.find?_isSome.mpr ⟨row, hrow, hfound⟩
    obtain ⟨other, hother⟩ := Option.isSome_iff_exists.mp hsome
    rw [hother, hunique other (List.mem_of_find?_eq_some hother) row hrow
      (List.find?_some hother) hfound]

theorem getAlbumBySlug_eq_some_iff {slug : Text} {album : Album} :
    library.getAlbumBySlug slug = some album ↔ album ∈ library.albums ∧
      album.deleted = false ∧ album.shareSlug = some slug ∧ album.isShared = true := by
  rw [Library.getAlbumBySlug, find?_eq_some_iff_of_unique]
  · simp [and_assoc]
  · intro first hfirst second hsecond hfound hfound'
    simp only [Bool.and_eq_true, decide_eq_true_eq] at hfound hfound'
    exact library.albumSlugs first hfirst second hsecond slug hfound.1.2 hfound'.1.2

theorem getSongBySlug_eq_some_iff {slug : Text} :
    library.getSongBySlug slug = some song ↔ song ∈ library.songs ∧
      song.deleted = false ∧ song.shareSlug = some slug ∧ song.isShared = true := by
  rw [Library.getSongBySlug, find?_eq_some_iff_of_unique]
  · simp [and_assoc]
  · intro first hfirst second hsecond hfound hfound'
    simp only [Bool.and_eq_true, decide_eq_true_eq] at hfound hfound'
    exact library.songSlugs first hfirst second hsecond slug hfound.1.2 hfound'.1.2

theorem getPlaylistBySlug_eq_some_iff {slug : Text} {playlist : Playlist} :
    library.getPlaylistBySlug slug = some playlist ↔ playlist ∈ library.playlists ∧
      playlist.shareSlug = some slug ∧ playlist.isShared = true := by
  rw [Library.getPlaylistBySlug, find?_eq_some_iff_of_unique]
  · simp
  · intro first hfirst second hsecond hfound hfound'
    simp only [Bool.and_eq_true, decide_eq_true_eq] at hfound hfound'
    exact library.playlistSlugs first hfirst second hsecond slug hfound.1 hfound'.1

theorem generationOf_eq_some_iff {entry : PlaylistEntry} :
    library.generationOf entry = some gen ↔
      gen ∈ library.generations ∧ gen.id = entry.generationId := by
  rw [Library.generationOf, find?_eq_some_iff_of_unique]
  · simp
  · intro first hfirst second hsecond hfound hfound'
    simp only [decide_eq_true_eq] at hfound hfound'
    exact generation_eq_of_id hfirst hsecond (hfound.trans hfound'.symm)

theorem mem_presentedPlaylistEntries {playlist : Playlist} {entry : PlaylistEntry} :
    (entry, gen) ∈ library.presentedPlaylistEntries playlist ↔
      (entry ∈ library.entries ∧ entry.playlistId = playlist.id) ∧
        (gen ∈ library.generations ∧ gen.id = entry.generationId) ∧
          library.hasSong gen = true := by
  simp only [Library.presentedPlaylistEntries, List.mem_filterMap, List.mem_insertionSort,
    List.mem_filter, decide_eq_true_eq, Option.map_eq_some_iff, Option.filter_eq_some_iff,
    generationOf_eq_some_iff, Prod.mk.injEq]
  constructor
  · rintro ⟨_, hentry, _, hgen, rfl, rfl⟩
    exact ⟨hentry, hgen⟩
  · rintro ⟨hentry, hgen⟩
    exact ⟨entry, hentry, gen, hgen, rfl, rfl⟩

/-- The share has an item under this key, about this take or about none. -/
def Lists (library : Library) (slug : Text) (key : Option Text) (gen : Option Generation) :
    ShareKind → Prop
  | .album => ∃ album, library.getAlbumBySlug slug = some album ∧
      ∃ song ∈ library.songsOf album, key = some song.id ∧ library.pickedGeneration song = gen
  | .song => ∃ song, library.getSongBySlug slug = some song ∧ key = none ∧
      library.pickedGeneration song = gen
  | .playlist => ∃ playlist, library.getPlaylistBySlug slug = some playlist ∧
      ∃ shown ∈ library.presentedPlaylistEntries playlist,
        key = some shown.1.id ∧ some shown.2 = gen

/-- Where the audio of a shared page is fetched from. -/
def audioRoute (slug : Text) : ShareKind → Text
  | .album => "/shared/".toList ++ slug ++ "/audio".toList
  | .song => "/shared/song/".toList ++ slug ++ "/audio".toList
  | .playlist => "/shared/playlist/".toList ++ slug ++ "/audio".toList

/-- A row of a shared page, with its take's audio if it has any. -/
def sharedItem (route : Text) (key : Option Text) (gen : Option Generation) : SharedItem where
  key := key
  audioUrl := sharedAudioUrl route gen
  generationId := sharePickMedia gen

theorem mem_sharedPage {kind : ShareKind} {slug : Text} {item : SharedItem} :
    (∃ items, library.sharedPage kind slug = some items ∧ item ∈ items) ↔
      ∃ key gen, Lists library slug key gen kind ∧
        item = sharedItem (audioRoute slug kind) key gen := by
  rcases kind with _ | _ | _
  · simp only [Library.sharedPage, Library.getSharedAlbum, Option.map_eq_some_iff, Lists]
    constructor
    · rintro ⟨_, ⟨album, halbum, rfl⟩, hitem⟩
      obtain ⟨song, hsong, rfl⟩ := List.mem_map.mp hitem
      exact ⟨_, _, ⟨album, halbum, song, (List.mem_insertionSort _).mp hsong, rfl, rfl⟩, rfl⟩
    · rintro ⟨_, _, ⟨album, halbum, song, hsong, rfl, rfl⟩, rfl⟩
      exact ⟨_, ⟨album, halbum, rfl⟩,
        List.mem_map.mpr ⟨song, (List.mem_insertionSort _).mpr hsong, rfl⟩⟩
  · simp only [Library.sharedPage, Library.getSharedSong, Option.map_eq_some_iff, Lists]
    constructor
    · rintro ⟨_, ⟨song, hsong, rfl⟩, hitem⟩
      exact ⟨_, _, ⟨song, hsong, rfl, rfl⟩, List.mem_singleton.mp hitem⟩
    · rintro ⟨_, _, ⟨song, hsong, rfl, rfl⟩, rfl⟩
      exact ⟨_, ⟨song, hsong, rfl⟩, List.mem_singleton.mpr rfl⟩
  · simp only [Library.sharedPage, Library.getSharedPlaylist, Option.map_eq_some_iff, Lists]
    constructor
    · rintro ⟨_, ⟨playlist, hplaylist, rfl⟩, hitem⟩
      obtain ⟨shown, hshown, rfl⟩ := List.mem_map.mp hitem
      exact ⟨_, _, ⟨playlist, hplaylist, shown, hshown, rfl, rfl⟩, rfl⟩
    · rintro ⟨_, _, ⟨playlist, hplaylist, shown, hshown, rfl, rfl⟩, rfl⟩
      exact ⟨_, ⟨playlist, hplaylist, rfl⟩, List.mem_map.mpr ⟨shown, hshown, rfl⟩⟩

theorem Lists.mem_generations {kind : ShareKind} {slug : Text} {key : Option Text}
    (hlists : Lists library slug key (some gen) kind) :
    gen ∈ library.generations := by
  rcases kind with _ | _ | _
  · obtain ⟨album, -, song, -, -, hpick⟩ := hlists
    exact (pickedGeneration_eq_some_iff.mp hpick).1.1
  · obtain ⟨song, -, -, hpick⟩ := hlists
    exact (pickedGeneration_eq_some_iff.mp hpick).1.1
  · obtain ⟨playlist, -, ⟨entry, shown⟩, hshown, -, hgen⟩ := hlists
    obtain rfl : shown = gen := Option.some.inj hgen
    exact (mem_presentedPlaylistEntries.mp hshown).2.1.1

theorem sharePickMedia_eq_some_iff {gen : Option Generation} {id : Text} :
    sharePickMedia gen = some id ↔ ∃ take, gen = some take ∧ take.mp3Path ≠ [] ∧ take.id = id := by
  rcases gen with _ | take
  · simp [sharePickMedia]
  · simp [sharePickMedia, Option.filter_some, and_comm]

/-! ### The lookup -/

theorem map_find?_eq_some_iff {found : Generation → Bool} {id path : Text} :
    (library.generations.find? fun gen => found gen && gen.id = id).map (·.mp3Path) = some path ↔
      ∃ gen ∈ library.generations, found gen = true ∧ gen.id = id ∧ gen.mp3Path = path := by
  simp only [Option.map_eq_some_iff]
  have hfind : ∀ gen, (library.generations.find? fun gen => found gen && gen.id = id) = some gen ↔
      gen ∈ library.generations ∧ found gen = true ∧ gen.id = id := by
    intro gen
    rw [find?_eq_some_iff_of_unique]
    · simp
    · intro first hfirst second hsecond hfound hfound'
      simp only [Bool.and_eq_true, decide_eq_true_eq] at hfound hfound'
      exact generation_eq_of_id hfirst hsecond (hfound.2.trans hfound'.2.symm)
  simp only [hfind, and_assoc]

theorem sharedPickTakeStoredPath_eq_some_iff {shareCondition : Song → Bool} {id path : Text} :
    library.sharedPickTakeStoredPath id shareCondition = some path ↔
      ∃ song ∈ library.songs, song.deleted = false ∧ shareCondition song = true ∧
        ∃ gen, library.pickedGeneration song = some gen ∧ gen.id = id ∧ gen.mp3Path = path := by
  rw [Library.sharedPickTakeStoredPath, map_find?_eq_some_iff]
  simp only [Bool.and_eq_true, List.any_eq_true, decide_eq_true_eq, Bool.not_eq_true',
    pickedGeneration_eq_some_iff]
  constructor
  · rintro ⟨gen, hgen, ⟨⟨⟨song, hsong, ⟨hid, hkept⟩, hshared⟩, hplayable⟩, hselected⟩, htake⟩
    exact ⟨song, hsong, hkept, hshared, gen,
      ⟨(isSelected_iff_chosen hgen hplayable).mp hselected, hid.symm⟩, htake⟩
  · rintro ⟨song, hsong, hkept, hshared, gen, ⟨hchosen, hid⟩, htake⟩
    exact ⟨gen, hchosen.1, ⟨⟨⟨song, hsong, ⟨hid.symm, hkept⟩, hshared⟩, hchosen.2.1⟩,
      (isSelected_iff_chosen hchosen.1 hchosen.2.1).mpr hchosen⟩, htake⟩

theorem takeStoredPath_eq_some_iff {kind : ShareKind} {slug id path : Text} :
    library.takeStoredPath kind slug id = some path ↔
      ∃ key gen, Lists library slug key (some gen) kind ∧ isPlayableTake gen = true ∧
        gen.id = id ∧ gen.mp3Path = path := by
  rcases kind with _ | _ | _
  · simp only [Library.takeStoredPath, Library.sharedAlbumTakeStoredPath,
      sharedPickTakeStoredPath_eq_some_iff, Lists, getAlbumBySlug_eq_some_iff, Library.songsOf,
      List.mem_filter, List.any_eq_true, Bool.and_eq_true, decide_eq_true_eq, Bool.not_eq_true']
    constructor
    · rintro ⟨song, hsong, hkept, ⟨album, halbum, ⟨⟨hid, hdeleted⟩, hslug⟩, hshared⟩,
        gen, hpick, htake⟩
      exact ⟨_, gen, ⟨album, ⟨halbum, hdeleted, hslug, hshared⟩, song, ⟨hsong, hid, hkept⟩,
        rfl, hpick⟩, (pickedGeneration_eq_some_iff.mp hpick).1.2.1, htake⟩
    · rintro ⟨_, gen, ⟨album, ⟨halbum, hdeleted, hslug, hshared⟩, song, ⟨hsong, hid, hkept⟩,
        -, hpick⟩, -, htake⟩
      exact ⟨song, hsong, hkept, ⟨album, halbum, ⟨⟨hid, hdeleted⟩, hslug⟩, hshared⟩,
        gen, hpick, htake⟩
  · simp only [Library.takeStoredPath, Library.sharedSongTakeStoredPath,
      sharedPickTakeStoredPath_eq_some_iff, Lists, getSongBySlug_eq_some_iff,
      Bool.and_eq_true, decide_eq_true_eq]
    constructor
    · rintro ⟨song, hsong, hkept, hshared, gen, hpick, htake⟩
      exact ⟨none, gen, ⟨song, ⟨hsong, hkept, hshared⟩, rfl, hpick⟩,
        (pickedGeneration_eq_some_iff.mp hpick).1.2.1, htake⟩
    · rintro ⟨_, gen, ⟨song, ⟨hsong, hkept, hshared⟩, -, hpick⟩, -, htake⟩
      exact ⟨song, hsong, hkept, hshared, gen, hpick, htake⟩
  · simp only [Library.takeStoredPath, Library.sharedPlaylistTakeStoredPath,
      map_find?_eq_some_iff, Lists, getPlaylistBySlug_eq_some_iff, List.any_eq_true,
      Bool.and_eq_true, decide_eq_true_eq]
    constructor
    · rintro ⟨gen, hgen, ⟨⟨⟨entry, hentry, htaken, playlist, hplaylist, ⟨hid, hslug⟩, hshared⟩,
        hsong⟩, hplayable⟩, htake⟩
      exact ⟨_, gen, ⟨playlist, ⟨hplaylist, hslug, hshared⟩, (entry, gen),
        mem_presentedPlaylistEntries.mpr ⟨⟨hentry, hid⟩, ⟨hgen, htaken.symm⟩, hsong⟩, rfl, rfl⟩,
        hplayable, htake⟩
    · rintro ⟨_, _, ⟨playlist, ⟨hplaylist, hslug, hshared⟩, ⟨entry, gen⟩, hshown, -, ⟨⟩⟩,
        hplayable, htake⟩
      obtain ⟨⟨hentry, hid⟩, ⟨hgen, htaken⟩, hsong⟩ := mem_presentedPlaylistEntries.mp hshown
      exact ⟨gen, hgen, ⟨⟨⟨entry, hentry, htaken.symm, playlist, hplaylist, ⟨hid, hslug⟩,
        hshared⟩, hsong⟩, hplayable⟩, htake⟩

/-! ### Agreement -/

/-- The JSON of the share presents the take. -/
def Presents (library : Library) (kind : ShareKind) (slug id : Text) : Prop :=
  ∃ items, library.sharedPage kind slug = some items ∧
    ∃ item ∈ items, item.generationId = some id

/-- The JSON of the share presents the take with an audio URL. -/
def PresentsAudio (library : Library) (kind : ShareKind) (slug id : Text) : Prop :=
  ∃ items, library.sharedPage kind slug = some items ∧
    ∃ item ∈ items, item.generationId = some id ∧
      item.audioUrl = some (audioRoute slug kind ++ '/' :: id ++ sharedAudioSuffix)

/-- The scope of a shared stream; a shared song has no stream. -/
def sharedScope : ShareKind → Option Text
  | .album => some "shared-album".toList
  | .song => none
  | .playlist => some "shared-playlist".toList

/-- The key of the row that a track of the stream belongs to. -/
def trackKey (track : QueueStreamTrack) : ShareKind → Option Text
  | .album => some track.songId
  | .song => none
  | .playlist => track.entryId

/-- The share still presents the track, and its take can be played. -/
def PresentsTrack (library : Library) (kind : ShareKind) (slug : Text)
    (track : QueueStreamTrack) : Prop :=
  (∃ items, library.sharedPage kind slug = some items ∧
    ∃ item ∈ items, item.key = trackKey track kind ∧
      item.generationId = some track.generationId) ∧
    ∃ path, library.takeStoredPath kind slug track.generationId = some path

theorem exists_sharedPage_iff {kind : ShareKind} {slug : Text} {shown : SharedItem → Prop} :
    (∃ items, library.sharedPage kind slug = some items ∧ ∃ item ∈ items, shown item) ↔
      ∃ key gen, Lists library slug key gen kind ∧
        shown (sharedItem (audioRoute slug kind) key gen) := by
  constructor
  · rintro ⟨items, hpage, item, hitem, hshown⟩
    obtain ⟨key, gen, hlists, rfl⟩ := mem_sharedPage.mp ⟨items, hpage, hitem⟩
    exact ⟨key, gen, hlists, hshown⟩
  · rintro ⟨key, gen, hlists, hshown⟩
    obtain ⟨items, hpage, hitem⟩ := mem_sharedPage.mpr ⟨key, gen, hlists, rfl⟩
    exact ⟨items, hpage, _, hitem, hshown⟩

theorem takeStoredPath_iff_presents {kind : ShareKind} {slug : Text}
    (hgen : gen ∈ library.generations) :
    library.takeStoredPath kind slug gen.id = some gen.mp3Path ↔
      isPlayableTake gen = true ∧ Presents library kind slug gen.id := by
  rw [takeStoredPath_eq_some_iff, Presents, exists_sharedPage_iff]
  constructor
  · rintro ⟨key, take, hlists, hplayable, hid, -⟩
    obtain rfl := generation_eq_of_id hlists.mem_generations hgen hid
    exact ⟨hplayable, key, some take, hlists, sharePickMedia_eq_some_iff.mpr
      ⟨take, rfl, (isPlayableTake_eq_true.mp hplayable).1, rfl⟩⟩
  · rintro ⟨hplayable, key, shown, hlists, hshown⟩
    obtain ⟨take, rfl, -, hid⟩ := sharePickMedia_eq_some_iff.mp hshown
    obtain rfl := generation_eq_of_id hlists.mem_generations hgen hid
    exact ⟨key, take, hlists, hplayable, rfl, rfl⟩

theorem sharedAudioUrl_eq_some_iff {route url : Text} :
    sharedAudioUrl route (some gen) = some url ↔ isPlayableTake gen = true ∧
      isCanonicalAudioFilename gen.mp3Path = true ∧
        route ++ '/' :: gen.id ++ sharedAudioSuffix = url := by
  rw [sharedAudioUrl, sharedAudioUrlForTake]
  constructor
  · intro hurl
    split at hurl
    · rename_i hplayable
      split at hurl
      · simp at hurl
      · split at hurl
        · exact ⟨hplayable, by assumption, Option.some.inj hurl⟩
        · simp at hurl
    · simp at hurl
  · rintro ⟨hplayable, hcanonical, rfl⟩
    simp [hplayable, hcanonical, (isPlayableTake_eq_true.mp hplayable).1]

theorem presentsAudio_iff_takeStoredPath {kind : ShareKind} {slug id : Text} :
    PresentsAudio library kind slug id ↔ ∃ path,
      library.takeStoredPath kind slug id = some path ∧ isCanonicalAudioFilename path = true := by
  simp only [PresentsAudio, exists_sharedPage_iff, takeStoredPath_eq_some_iff, sharedItem,
    sharePickMedia_eq_some_iff]
  constructor
  · rintro ⟨key, _, hlists, ⟨gen, rfl, -, rfl⟩, hurl⟩
    obtain ⟨hplayable, hcanonical, -⟩ := sharedAudioUrl_eq_some_iff.mp hurl
    exact ⟨gen.mp3Path, ⟨key, gen, hlists, hplayable, rfl, rfl⟩, hcanonical⟩
  · rintro ⟨_, ⟨key, gen, hlists, hplayable, rfl, rfl⟩, hcanonical⟩
    exact ⟨key, some gen, hlists, ⟨gen, rfl, (isPlayableTake_eq_true.mp hplayable).1, rfl⟩,
      sharedAudioUrl_eq_some_iff.mpr ⟨hplayable, hcanonical, rfl⟩⟩

theorem presentsTrack_iff {kind : ShareKind} {slug : Text} {track : QueueStreamTrack} :
    PresentsTrack library kind slug track ↔ ∃ gen,
      Lists library slug (trackKey track kind) (some gen) kind ∧ isPlayableTake gen = true ∧
        track.generationId = gen.id := by
  simp only [PresentsTrack, exists_sharedPage_iff, takeStoredPath_eq_some_iff, sharedItem,
    sharePickMedia_eq_some_iff]
  constructor
  · rintro ⟨⟨_, _, hlists, rfl, take, rfl, -, hid⟩, _, _, gen, hgen, hplayable, hid', -⟩
    obtain rfl := generation_eq_of_id hlists.mem_generations hgen.mem_generations
      (hid.trans hid'.symm)
    exact ⟨take, hlists, hplayable, hid.symm⟩
  · rintro ⟨gen, hlists, hplayable, hid⟩
    exact ⟨⟨_, _, hlists, rfl, gen, rfl, (isPlayableTake_eq_true.mp hplayable).1, hid.symm⟩,
      _, _, gen, hlists, hplayable, hid.symm, rfl⟩

theorem presentsTrack_playlist {slug : Text} {playlist : Playlist} {track : QueueStreamTrack}
    (hplaylist : library.getPlaylistBySlug slug = some playlist) :
    PresentsTrack library .playlist slug track ↔
      ((library.presentedPlaylistEntries playlist).any fun (entry, gen) =>
        isPlayableTake gen && track.entryId = some entry.id && track.generationId = gen.id) =
          true := by
  simp only [presentsTrack_iff, List.any_eq_true, Bool.and_eq_true, decide_eq_true_eq, Lists,
    trackKey]
  constructor
  · rintro ⟨_, ⟨other, hother, ⟨entry, gen⟩, hshown, hkey, ⟨⟩⟩, hplayable, hid⟩
    obtain rfl := Option.some.inj (hplaylist.symm.trans hother)
    exact ⟨(entry, gen), hshown, ⟨hplayable, hkey⟩, hid⟩
  · rintro ⟨⟨entry, gen⟩, hshown, ⟨hplayable, hkey⟩, hid⟩
    exact ⟨gen, ⟨playlist, hplaylist, (entry, gen), hshown, hkey, rfl⟩, hplayable, hid⟩

theorem presentsTrack_album {slug : Text} {album : Album} {track : QueueStreamTrack}
    (halbum : library.getAlbumBySlug slug = some album) :
    PresentsTrack library .album slug track ↔
      ((library.songsOf album).any fun song => (library.pickedGeneration song).any fun gen =>
        track.songId = song.id && track.generationId = gen.id) = true := by
  simp only [presentsTrack_iff, List.any_eq_true, Option.any_eq_true, Bool.and_eq_true,
    decide_eq_true_eq, Lists, trackKey, Option.some.injEq]
  constructor
  · rintro ⟨gen, ⟨other, hother, song, hsong, hkey, hpick⟩, -, hid⟩
    obtain rfl := Option.some.inj (halbum.symm.trans hother)
    exact ⟨song, hsong, gen, hpick, hkey, hid⟩
  · rintro ⟨song, hsong, gen, hpick, hkey, hid⟩
    exact ⟨gen, ⟨album, halbum, song, hsong, hkey, hpick⟩,
      (pickedGeneration_eq_some_iff.mp hpick).1.2.1, hid⟩

/-- The kind of share that the scope of a stream names, if its slug is shared. -/
def sharedKind (library : Library) (manifest : QueueStreamManifest) (kind : ShareKind) : Prop :=
  sharedScope kind = some manifest.scope ∧
    ∃ items, library.sharedPage kind manifest.scopeId = some items

theorem validateSharedQueueManifest_iff {manifest : QueueStreamManifest} :
    library.validateSharedQueueManifest manifest = true ↔
      ∃ kind, sharedKind library manifest kind ∧
        ∀ track ∈ manifest.tracks, PresentsTrack library kind manifest.scopeId track := by
  rw [Library.validateSharedQueueManifest]
  constructor
  · intro hvalid
    split at hvalid
    · rename_i hscope
      split at hvalid
      · simp at hvalid
      · rename_i playlist hplaylist
        refine ⟨.playlist, ⟨by rw [hscope, sharedScope], ?_⟩, fun track htrack => ?_⟩
        · exact ⟨_, by rw [Library.sharedPage, Library.getSharedPlaylist, hplaylist]; rfl⟩
        · exact (presentsTrack_playlist hplaylist).mpr (List.all_eq_true.mp hvalid track htrack)
    · split at hvalid
      · rename_i hscope
        split at hvalid
        · simp at hvalid
        · rename_i album halbum
          refine ⟨.album, ⟨by rw [hscope, sharedScope], ?_⟩, fun track htrack => ?_⟩
          · exact ⟨_, by rw [Library.sharedPage, Library.getSharedAlbum, halbum]; rfl⟩
          · exact (presentsTrack_album halbum).mpr (List.all_eq_true.mp hvalid track htrack)
      · simp at hvalid
  · rintro ⟨kind, ⟨hscope, items, hpage⟩, htracks⟩
    rcases kind with _ | _ | _
    · obtain ⟨album, halbum, -⟩ := Option.map_eq_some_iff.mp hpage
      rw [← Option.some.inj hscope, if_neg (by decide), if_pos rfl, halbum]
      exact List.all_eq_true.mpr fun track htrack =>
        (presentsTrack_album halbum).mp (htracks track htrack)
    · simp [sharedScope] at hscope
    · obtain ⟨playlist, hplaylist, -⟩ := Option.map_eq_some_iff.mp hpage
      rw [← Option.some.inj hscope, if_pos rfl, hplaylist]
      exact List.all_eq_true.mpr fun track htrack =>
        (presentsTrack_playlist hplaylist).mp (htracks track htrack)

/-- The lookup gives the stored path of a take iff the take can be played and
the share presents it; the share then gives it an audio URL iff that path is a
canonical one, and a take without one has no URL. A stream of the share is valid
iff the share still presents each of its tracks. -/
theorem public_audio_agrees (library : Library) (kind : ShareKind) (slug : Text) :
    (∀ gen ∈ library.generations,
      (library.takeStoredPath kind slug gen.id = some gen.mp3Path ↔
        isPlayableTake gen = true ∧ Presents library kind slug gen.id)) ∧
    (∀ id, PresentsAudio library kind slug id ↔ ∃ path,
      library.takeStoredPath kind slug id = some path ∧
        isCanonicalAudioFilename path = true) ∧
    (∀ id path, library.takeStoredPath kind slug id = some path →
      ∃ gen ∈ library.generations, gen.id = id ∧ gen.mp3Path = path) ∧
    ∀ manifest, library.validateSharedQueueManifest manifest = true ↔
      ∃ kind, sharedKind library manifest kind ∧
        ∀ track ∈ manifest.tracks, PresentsTrack library kind manifest.scopeId track := by
  refine ⟨fun gen => takeStoredPath_iff_presents, fun id => presentsAudio_iff_takeStoredPath,
    fun id path hpath => ?_, fun manifest => validateSharedQueueManifest_iff⟩
  obtain ⟨key, gen, hlists, -, htake⟩ := takeStoredPath_eq_some_iff.mp hpath
  exact ⟨gen, hlists.mem_generations, htake⟩

/-- A shared song whose only take is stored under a path that is not canonical. -/
def oddlyStored : Library where
  albums := []
  songs := [⟨"s".toList, "a".toList, 1, some "slug".toList, true, false⟩]
  generations := [⟨"g".toList, "s".toList, 1, "u//g.mp3".toList, false, true, 0⟩]
  playlists := []
  entries := []
  generationIds := by decide
  generationNumbers := by decide
  onePick := by decide
  albumSlugs := by simp [UniqueSlugs]
  songSlugs := by simp [UniqueSlugs]
  playlistSlugs := by simp [UniqueSlugs]

theorem oddly_stored_take_found :
    ¬ ∀ (library : Library) (kind : ShareKind) (slug : Text), ∀ gen ∈ library.generations,
      (library.takeStoredPath kind slug gen.id = some gen.mp3Path ↔
        PresentsAudio library kind slug gen.id) := by
  intro hagrees
  have hgen := hagrees oddlyStored .song "slug".toList _ (List.mem_singleton.mpr rfl)
  have hpresents := hgen.mp (by decide +kernel)
  obtain ⟨path, hpath, hcanonical⟩ := presentsAudio_iff_takeStoredPath.mp hpresents
  rw [show oddlyStored.takeStoredPath .song "slug".toList "g".toList =
    some "u//g.mp3".toList by decide +kernel] at hpath
  obtain rfl := Option.some.inj hpath
  exact absurd hcanonical (by decide +kernel)

end Songmaker.Sharing.PublicAudio
