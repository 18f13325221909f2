import Songmaker.QueueStreams.StreamLibrary

namespace Songmaker.QueueStreams.LibraryEdits

open Songmaker.QueueStreams.StreamLibrary

/-- Ids are given out once, and what a row names is there. -/
structure Valid (library : Library) : Prop where
  issued : ∀ gen ∈ library.generations, gen.id ∈ library.issued
  unique : (library.generations.map Generation.id).Nodup
  songs : ∀ gen ∈ library.generations, (library.song gen.songId).isSome
  versions : ∀ gen ∈ library.generations, ∀ id, gen.versionId = some id →
    (library.version id).isSome
  albums : ∀ song ∈ library.songs, (library.album song.albumId).isSome

/-- Whether an edit keeps what is shown of a take. -/
def keepsTake (library : Library) (take : LoadedGeneration) : Edit → Prop
  | .renameAlbum id title => ∀ song, take.song = some song → ∀ album, song.album = some album →
      album.id = id → album.title = title
  | .renameSong id title => ∀ song, take.song = some song → song.id = id → song.title = title
  | .moveSong id albumId _ => ∀ song, take.song = some song → song.id = id →
      song.album = library.album albumId
  | _ => True

/-- The rows of a take are as they were when it was loaded. -/
def Shows (library : Library) (take : LoadedGeneration) : Prop :=
  ∀ gen ∈ library.generations, gen.id = take.id → library.load gen = take

theorem refused {α : Type} {p : Prop} [Decidable p] {x y : α}
    (h : (if p then none else some x) = some y) : ¬ p ∧ x = y := by
  split_ifs at h with hp
  exact ⟨hp, Option.some.inj h⟩

section Rows

variable {Row : Type} {rows : List Row} {key : Row → Ident} {id : Ident}

theorem find?_map_keeping {change : Row → Row} (hkey : ∀ row, key (change row) = key row) :
    (rows.map change).find? (fun row => key row = id) =
      (rows.find? fun row => key row = id).map change := by
  rw [List.find?_map]
  congr 2
  funext row
  simp [hkey]

theorem find?_append_new {p : Row → Bool} (row : Row) (h : (rows.find? p).isSome) :
    (rows ++ [row]).find? p = rows.find? p := by
  rw [List.find?_append, Option.or_of_isSome h]

end Rows

section Loads

variable {library library' : Library}

theorem load_congr {gen : Generation}
    (hsong : library'.loadSong gen.songId = library.loadSong gen.songId)
    (hversion : gen.versionId.bind library'.version = gen.versionId.bind library.version) :
    library'.load gen = library.load gen := by
  rw [Library.load, Library.load, hsong, hversion]

theorem loadSong_congr {id : Ident} (hsong : library'.song id = library.song id)
    (halbum : ∀ song, library.song id = some song →
      library'.album song.albumId = library.album song.albumId) :
    library'.loadSong id = library.loadSong id := by
  rw [Library.loadSong, Library.loadSong, hsong]
  cases hrow : library.song id with
  | none => rfl
  | some song => simp only [Option.map_some, halbum song hrow]

theorem song_mem {id : Ident} {song : Song} (h : library.song id = some song) :
    song ∈ library.songs ∧ song.id = id := by
  have hfind := List.find?_some h
  exact ⟨List.mem_of_find?_eq_some h, of_decide_eq_true hfind⟩

theorem Valid.of_rows (hvalid : Valid library)
    (hgenerations : library'.generations = library.generations)
    (hissued : library'.issued = library.issued)
    (hsongs : ∀ id, (library.song id).isSome → (library'.song id).isSome)
    (hversions : ∀ id, (library.version id).isSome → (library'.version id).isSome)
    (halbums : ∀ song ∈ library'.songs, (library'.album song.albumId).isSome) :
    Valid library' where
  issued := by
    rw [hgenerations, hissued]
    exact hvalid.issued
  unique := by
    rw [hgenerations]
    exact hvalid.unique
  songs := by
    rw [hgenerations]
    exact fun gen hgen => hsongs _ (hvalid.songs gen hgen)
  versions := by
    rw [hgenerations]
    exact fun gen hgen id hid => hversions id (hvalid.versions gen hgen id hid)
  albums := halbums

theorem Shows.of_rows {take : LoadedGeneration} (hshows : Shows library take)
    (hgenerations : library'.generations = library.generations)
    (hload : ∀ gen ∈ library.generations, library'.load gen = library.load gen) :
    Shows library' take := by
  intro gen hgen hid
  rw [hgenerations] at hgen
  rw [hload gen hgen]
  exact hshows gen hgen hid

/-- What every edit does. -/
structure Edited (library library' : Library) (edit : Edit) : Prop where
  valid : Valid library'
  issued : library.issued ⊆ library'.issued
  shows : ∀ take : LoadedGeneration, take.id ∈ library.issued → keepsTake library take edit →
    Shows library take → Shows library' take

theorem edited_addAlbum (hvalid : Valid library) (album : Album) :
    Edited library { library with albums := library.albums ++ [album] } (.addAlbum album) := by
  have halbum : ∀ id, (library.album id).isSome →
      ({ library with albums := library.albums ++ [album] } : Library).album id =
        library.album id := fun id hid => find?_append_new album hid
  refine ⟨hvalid.of_rows rfl rfl (fun _ => id) (fun _ => id) ?_, List.Subset.refl _, ?_⟩
  · intro song hsong
    rw [halbum _ (hvalid.albums song hsong)]
    exact hvalid.albums song hsong
  · intro take _ _ hshows
    refine hshows.of_rows rfl fun gen _ => load_congr (loadSong_congr rfl ?_) rfl
    exact fun song hsong => halbum _ (hvalid.albums song (song_mem hsong).1)

theorem edited_addSong (hvalid : Valid library) {song : Song}
    (halbum : (library.album song.albumId).isSome) :
    Edited library { library with songs := library.songs ++ [song] } (.addSong song) := by
  have hsong : ∀ id, (library.song id).isSome →
      ({ library with songs := library.songs ++ [song] } : Library).song id = library.song id :=
    fun id hid => find?_append_new song hid
  refine ⟨hvalid.of_rows rfl rfl ?_ (fun _ => id) ?_, List.Subset.refl _, ?_⟩
  · intro id hid
    rwa [hsong id hid]
  · intro other hother
    rcases List.mem_append.mp hother with hold | hnew
    · exact hvalid.albums other hold
    · obtain rfl := List.mem_singleton.mp hnew
      exact halbum
  · intro take _ _ hshows
    refine hshows.of_rows rfl fun gen hgen => load_congr (loadSong_congr ?_ fun _ _ => rfl) rfl
    exact hsong _ (hvalid.songs gen hgen)

theorem edited_addVersion (hvalid : Valid library) (version : Version) :
    Edited library { library with versions := library.versions ++ [version] }
      (.addVersion version) := by
  have hversion : ∀ id, (library.version id).isSome →
      ({ library with versions := library.versions ++ [version] } : Library).version id =
        library.version id := fun id hid => find?_append_new version hid
  refine ⟨hvalid.of_rows rfl rfl (fun _ => id) ?_ hvalid.albums, List.Subset.refl _, ?_⟩
  · intro id hid
    rwa [hversion id hid]
  · intro take _ _ hshows
    refine hshows.of_rows rfl fun gen hgen => load_congr rfl ?_
    cases hid : gen.versionId with
    | none => rfl
    | some id => exact hversion id (hvalid.versions gen hgen id hid)

theorem edited_addTake (hvalid : Valid library) {gen : Generation}
    (hfresh : gen.id ∉ library.issued) (hsong : (library.song gen.songId).isSome)
    (hversion : ∀ id, gen.versionId = some id → (library.version id).isSome) :
    Edited library { library with
      generations := library.generations ++ [gen]
      issued := gen.id :: library.issued } (.addTake gen) := by
  refine ⟨⟨?_, ?_, ?_, ?_, hvalid.albums⟩, List.subset_cons_self _ _, ?_⟩
  · intro other hother
    rcases List.mem_append.mp hother with hold | hnew
    · exact List.mem_cons_of_mem _ (hvalid.issued other hold)
    · rw [List.mem_singleton.mp hnew]
      exact List.mem_cons_self
  · show ((library.generations ++ [gen]).map Generation.id).Nodup
    rw [List.map_append, List.nodup_append]
    refine ⟨hvalid.unique, List.nodup_singleton _, ?_⟩
    intro id hid id' hid' heq
    obtain ⟨other, hother, rfl⟩ := List.mem_map.mp hid
    obtain rfl : id' = gen.id := by simpa using hid'
    exact hfresh (heq ▸ hvalid.issued other hother)
  · intro other hother
    rcases List.mem_append.mp hother with hold | hnew
    · exact hvalid.songs other hold
    · rw [List.mem_singleton.mp hnew]
      exact hsong
  · intro other hother
    rcases List.mem_append.mp hother with hold | hnew
    · exact hvalid.versions other hold
    · rw [List.mem_singleton.mp hnew]
      exact hversion
  · intro take hissued _ hshows other hother hid
    rcases List.mem_append.mp hother with hold | hnew
    · exact hshows other hold hid
    · obtain rfl := List.mem_singleton.mp hnew
      exact absurd (hid ▸ hissued) hfresh

theorem edited_deleteTake (hvalid : Valid library) (id : Ident) :
    Edited library { library with
      generations := library.generations.filter fun generation => generation.id ≠ id }
        (.deleteTake id) := by
  have hmem : ∀ gen ∈ library.generations.filter fun generation => generation.id ≠ id,
      gen ∈ library.generations := fun gen hgen => (List.mem_filter.mp hgen).1
  refine ⟨⟨?_, ?_, ?_, ?_, hvalid.albums⟩, List.Subset.refl _, ?_⟩
  · exact fun gen hgen => hvalid.issued gen (hmem gen hgen)
  · exact hvalid.unique.sublist (List.filter_sublist.map _)
  · exact fun gen hgen => hvalid.songs gen (hmem gen hgen)
  · exact fun gen hgen => hvalid.versions gen (hmem gen hgen)
  · exact fun take _ _ hshows gen hgen => hshows gen (hmem gen hgen)

theorem edited_changeTake (hvalid : Valid library) (id : Ident) (edit : Edit)
    {change : Generation → Generation}
    (hid : ∀ gen, (change gen).id = gen.id) (hsongId : ∀ gen, (change gen).songId = gen.songId)
    (hversionId : ∀ gen, (change gen).versionId = gen.versionId)
    (hload : ∀ gen, library.load (change gen) = library.load gen) :
    Edited library (library.changeTake id change) edit := by
  have hchanged : ∀ gen ∈ (library.changeTake id change).generations,
      ∃ old ∈ library.generations, gen.id = old.id ∧ gen.songId = old.songId ∧
        gen.versionId = old.versionId ∧ library.load gen = library.load old := by
    intro gen hgen
    obtain ⟨old, hold, rfl⟩ := List.mem_map.mp hgen
    refine ⟨old, hold, ?_⟩
    split_ifs
    · exact ⟨hid old, hsongId old, hversionId old, hload old⟩
    · exact ⟨rfl, rfl, rfl, rfl⟩
  have hids : (library.changeTake id change).generations.map Generation.id =
      library.generations.map Generation.id := by
    rw [Library.changeTake, List.map_map]
    refine List.map_congr_left fun gen _ => ?_
    rw [Function.comp_apply]
    split_ifs
    · exact hid gen
    · rfl
  refine ⟨⟨?_, ?_, ?_, ?_, hvalid.albums⟩, List.Subset.refl _, ?_⟩
  · intro gen hgen
    obtain ⟨old, hold, hsame, -⟩ := hchanged gen hgen
    rw [hsame]
    exact hvalid.issued old hold
  · rw [hids]
    exact hvalid.unique
  · intro gen hgen
    obtain ⟨old, hold, -, hsame, -⟩ := hchanged gen hgen
    rw [hsame]
    exact hvalid.songs old hold
  · intro gen hgen
    obtain ⟨old, hold, -, -, hsame, -⟩ := hchanged gen hgen
    rw [hsame]
    exact hvalid.versions old hold
  · intro take _ _ hshows gen hgen hgenId
    obtain ⟨old, hold, hsame, -, -, hloaded⟩ := hchanged gen hgen
    exact hloaded.trans (hshows old hold (hsame ▸ hgenId))

theorem edited_rewriteVersion (hvalid : Valid library) {id : Ident} {lyrics : String}
    (hunsung : ∀ gen ∈ library.generations, gen.versionId ≠ some id) :
    Edited library { library with
      versions := library.versions.map fun version =>
        if version.id = id then { version with lyrics := lyrics } else version }
          (.rewriteVersion id lyrics) := by
  have hversion : ∀ other, ({ library with
      versions := library.versions.map fun version =>
        if version.id = id then { version with lyrics := lyrics } else version } :
          Library).version other = (library.version other).map fun version =>
            if version.id = id then { version with lyrics := lyrics } else version := by
    intro other
    refine find?_map_keeping fun version => ?_
    split_ifs <;> rfl
  refine ⟨hvalid.of_rows rfl rfl (fun _ => fun h => h) ?_ hvalid.albums, List.Subset.refl _, ?_⟩
  · intro other hother
    rwa [hversion, Option.isSome_map]
  · intro take _ _ hshows
    refine hshows.of_rows rfl fun gen hgen => load_congr rfl ?_
    cases hother : gen.versionId with
    | none => rfl
    | some other =>
        show _ = library.version other
        rw [Option.bind_some, hversion]
        cases hrow : library.version other with
        | none => rfl
        | some version =>
            have hfound := List.find?_some hrow
            have hne : version.id ≠ id := by
              rintro rfl
              exact hunsung gen hgen (hother.trans (congrArg some (of_decide_eq_true hfound).symm))
            rw [Option.map_some, if_neg hne]

theorem edited_renameAlbum (hvalid : Valid library) (id : Ident) (title : String) :
    Edited library (library.changeAlbum id fun album => { album with title := title })
      (.renameAlbum id title) := by
  have halbum : ∀ other,
      (library.changeAlbum id fun album => { album with title := title }).album other =
        (library.album other).map fun album =>
          if album.id = id then { album with title := title } else album := by
    intro other
    refine find?_map_keeping fun album => ?_
    split_ifs <;> rfl
  refine ⟨hvalid.of_rows rfl rfl (fun _ h => h) (fun _ h => h) ?_, List.Subset.refl _, ?_⟩
  · intro song hsong
    rw [halbum, Option.isSome_map]
    exact hvalid.albums song hsong
  · intro take _ hkeeps hshows gen hgen hgenId
    obtain rfl := hshows gen hgen hgenId
    refine load_congr (loadSong_congr rfl fun song hsong => ?_) rfl
    rw [halbum]
    cases hrow : library.album song.albumId with
    | none => rfl
    | some album =>
        rw [Option.map_some]
        split_ifs with hid
        · have hloaded : (library.load gen).song =
              some { id := song.id, title := song.title, album := some album } := by
            show library.loadSong gen.songId = _
            rw [Library.loadSong, hsong, Option.map_some, hrow]
          rw [← hkeeps _ hloaded album rfl hid]
        · rfl

theorem edited_changeSong (hvalid : Valid library) {id : Ident} {edit : Edit} {change : Song → Song}
    (hid : ∀ song, (change song).id = song.id)
    (halbum : ∀ song ∈ library.songs, (library.album (change song).albumId).isSome)
    (hkeeps : ∀ take song album, keepsTake library take edit → song.id = id →
      take.song = some { id := song.id, title := song.title, album := album } →
        album = library.album song.albumId →
          (change song).title = song.title ∧ library.album (change song).albumId = album) :
    Edited library (library.changeSong id change) edit := by
  have hsong : ∀ other, (library.changeSong id change).song other =
      (library.song other).map fun song => if song.id = id then change song else song := by
    intro other
    refine find?_map_keeping fun song => ?_
    split_ifs
    · exact hid song
    · rfl
  refine ⟨hvalid.of_rows rfl rfl ?_ (fun _ h => h) ?_, List.Subset.refl _, ?_⟩
  · intro other hother
    rwa [hsong, Option.isSome_map]
  · intro song hchanged
    obtain ⟨old, hold, rfl⟩ := List.mem_map.mp hchanged
    show (library.album _).isSome = true
    split_ifs
    · exact halbum old hold
    · exact hvalid.albums old hold
  · intro take _ hkeepsTake hshows gen hgen hgenId
    obtain rfl := hshows gen hgen hgenId
    refine load_congr ?_ rfl
    rw [Library.loadSong, Library.loadSong, hsong]
    cases hrow : library.song gen.songId with
    | none => rfl
    | some song =>
        rw [Option.map_some, Option.map_some, Option.map_some]
        split_ifs with hsame
        · have hloaded : (library.load gen).song =
              some { id := song.id, title := song.title, album := library.album song.albumId } := by
            show library.loadSong gen.songId = _
            rw [Library.loadSong, hrow, Option.map_some]
          obtain ⟨htitle, halbum⟩ := hkeeps _ song _ hkeepsTake hsame hloaded rfl
          show some (LoadedSong.mk (change song).id (change song).title
            (library.album (change song).albumId)) = _
          rw [hid, htitle, halbum]
        · rfl

theorem edited_of_rows (hvalid : Valid library) {edit : Edit}
    (halbums : library'.albums = library.albums) (hsongs : library'.songs = library.songs)
    (hversions : library'.versions = library.versions)
    (hgenerations : library'.generations = library.generations)
    (hissued : library'.issued = library.issued) : Edited library library' edit := by
  have halbum : library'.album = library.album := by
    funext id
    rw [Library.album, halbums, Library.album]
  have hsong : library'.song = library.song := by
    funext id
    rw [Library.song, hsongs, Library.song]
  have hversion : library'.version = library.version := by
    funext id
    rw [Library.version, hversions, Library.version]
  refine ⟨hvalid.of_rows hgenerations hissued ?_ ?_ ?_, by rw [hissued]; exact fun _ h => h, ?_⟩
  · exact fun id hid => by rwa [hsong]
  · exact fun id hid => by rwa [hversion]
  · rw [hsongs, halbum]
    exact hvalid.albums
  · intro take _ _ hshows
    refine hshows.of_rows hgenerations fun gen _ => load_congr ?_ ?_
    · exact loadSong_congr (congrFun hsong _) fun _ _ => congrFun halbum _
    · rw [hversion]

theorem edited_of_edit (hvalid : Valid library) {edit : Edit}
    (h : library.edit edit = some library') : Edited library library' edit := by
  cases edit with
  | addAlbum album =>
      obtain ⟨-, rfl⟩ := refused h
      exact edited_addAlbum hvalid album
  | addSong song =>
      obtain ⟨hnew, rfl⟩ := refused h
      exact edited_addSong hvalid (by simpa [Option.isSome_iff_ne_none] using (not_or.mp hnew).2)
  | addVersion version =>
      obtain ⟨-, rfl⟩ := refused h
      exact edited_addVersion hvalid version
  | addTake gen =>
      obtain ⟨hnew, rfl⟩ := refused h
      obtain ⟨hfresh, hsong, hversion⟩ : _ ∧ _ ∧ _ := by
        simpa only [not_or] using hnew
      refine edited_addTake hvalid hfresh (by simpa [Option.isSome_iff_ne_none] using hsong) ?_
      intro id hid
      simpa [hid, Option.isSome_iff_ne_none] using hversion
  | deleteTake id =>
      obtain rfl := Option.some.inj h
      exact edited_deleteTake hvalid id
  | renameAlbum id title =>
      obtain rfl := Option.some.inj h
      exact edited_renameAlbum hvalid id title
  | renameSong id title =>
      obtain rfl := Option.some.inj h
      refine edited_changeSong hvalid (fun _ => rfl) hvalid.albums ?_
      rintro take song album hkeeps hid htake rfl
      exact ⟨(hkeeps _ htake hid).symm, rfl⟩
  | moveSong id albumId trackNumber =>
      obtain ⟨halbum, rfl⟩ := refused h
      refine edited_changeSong hvalid (fun _ => rfl) ?_ ?_
      · exact fun _ _ => by simpa [Option.isSome_iff_ne_none] using halbum
      · rintro take song album hkeeps hid htake rfl
        exact ⟨rfl, (hkeeps _ htake hid).symm⟩
  | setSongDeleted id deleted =>
      obtain rfl := Option.some.inj h
      refine edited_changeSong hvalid (fun _ => rfl) hvalid.albums ?_
      rintro take song album - - - rfl
      exact ⟨rfl, rfl⟩
  | rewriteVersion id lyrics =>
      obtain ⟨hunsung, rfl⟩ := refused h
      refine edited_rewriteVersion hvalid fun gen hgen hid => hunsung ?_
      exact List.any_eq_true.mpr ⟨gen, hgen, decide_eq_true hid⟩
  | setPicked id isPicked =>
      obtain rfl := Option.some.inj h
      exact edited_changeTake hvalid id _ (fun _ => rfl) (fun _ => rfl) (fun _ => rfl) fun _ => rfl
  | setArchived id isArchived =>
      obtain rfl := Option.some.inj h
      exact edited_changeTake hvalid id _ (fun _ => rfl) (fun _ => rfl) (fun _ => rfl) fun _ => rfl
  | shareAlbum slug albumId =>
      obtain rfl := Option.some.inj h
      exact edited_of_rows hvalid rfl rfl rfl rfl rfl
  | sharePlaylist slug entries =>
      obtain rfl := Option.some.inj h
      exact edited_of_rows hvalid rfl rfl rfl rfl rfl
  | replaceAudio path file =>
      obtain rfl := Option.some.inj h
      exact edited_of_rows hvalid rfl rfl rfl rfl rfl

end Loads

end Songmaker.QueueStreams.LibraryEdits
