import Songmaker.Library.SoftDelete

namespace Songmaker.Library.SoftDelete

open Songmaker.Foundation

namespace Shelf

@[simp] theorem cascadeDelete_albumId (albumId : String) (now : Int) (song : Song) :
    (cascadeDelete albumId now song).albumId = song.albumId := by
  rw [cascadeDelete]
  split
  · rfl
  · rfl

theorem cascadeDelete_of_ne {albumId : String} {song : Song} (hne : song.albumId ≠ albumId)
    (now : Int) : cascadeDelete albumId now song = song :=
  if_neg fun h => hne h.1

@[simp] theorem cascadeRestore_albumId (albumId : String) (deletedAt : Int) (song : Song) :
    (cascadeRestore albumId deletedAt song).albumId = song.albumId := by
  rw [cascadeRestore]
  split
  · rfl
  · rfl

theorem cascadeRestore_of_ne {albumId : String} {song : Song} (hne : song.albumId ≠ albumId)
    (deletedAt : Int) : cascadeRestore albumId deletedAt song = song :=
  if_neg fun h => hne h.1

end Shelf

namespace Catalogue

/-- The time of a deleted album marks its cascade, and no song of it is live. -/
structure LinkedTo (s : Catalogue) (albumId : String) (deletedAt : Int) : Prop where
  marked : ∀ songId song, s.shelf.songs songId = some song → song.albumId = albumId →
    (song.deletedAt = some deletedAt ↔ s.cascade albumId songId = true)
  deleted : ∀ songId song, s.shelf.songs songId = some song → song.albumId = albumId →
    song.deletedAt ≠ none
  kept : ∀ songId, s.cascade albumId songId = true →
    ∃ song, s.shelf.songs songId = some song ∧ song.albumId = albumId

/-- The songs that a deleted album took with it carry its time. -/
def Linked (s : Catalogue) : Prop :=
  ∀ albumId deletedAt, s.shelf.albums albumId = some ⟨some deletedAt⟩ →
    s.LinkedTo albumId deletedAt

theorem linked_of_allAlbumsLive {s : Catalogue} (hs : s.AllAlbumsLive) : s.Linked :=
  fun albumId _ halbum => absurd (hs albumId _ halbum) (by simp)

theorem LinkedTo.congr {s t : Catalogue} {albumId : String} {deletedAt : Int}
    (hs : s.LinkedTo albumId deletedAt)
    (hsongs : ∀ songId song, song.albumId = albumId →
      (t.shelf.songs songId = some song ↔ s.shelf.songs songId = some song))
    (hcascade : t.cascade albumId = s.cascade albumId) : t.LinkedTo albumId deletedAt where
  marked songId song hsong halbum := by
    rw [hcascade]
    exact hs.marked songId song ((hsongs songId song halbum).mp hsong) halbum
  deleted songId song hsong halbum :=
    hs.deleted songId song ((hsongs songId song halbum).mp hsong) halbum
  kept songId hmem := by
    rw [hcascade] at hmem
    obtain ⟨song, hsong, halbum⟩ := hs.kept songId hmem
    exact ⟨song, (hsongs songId song halbum).mpr hsong, halbum⟩

theorem LinkedTo.setSong {s : Catalogue} {albumId : String} {deletedAt : Int}
    (hs : s.LinkedTo albumId deletedAt) {songId : String} {song song' : Song}
    (hsong : s.shelf.songs songId = some song) (halbum : song.albumId ≠ albumId)
    (halbum' : song'.albumId = song.albumId) :
    ({ s with shelf := s.shelf.setSong songId song' } : Catalogue).LinkedTo albumId deletedAt := by
  refine hs.congr ?_ rfl
  intro otherId other hother
  by_cases hsame : otherId = songId
  · subst hsame
    have hleft : (s.shelf.setSong otherId song').songs otherId = some song' :=
      Function.update_self _ _ _
    rw [hleft, hsong]
    constructor
    · intro heq
      exact absurd ((congrArg Song.albumId (Option.some.inj heq)).trans hother)
        (halbum' ▸ halbum)
    · intro heq
      exact absurd ((congrArg Song.albumId (Option.some.inj heq)).trans hother) halbum
  · have hleft : (s.shelf.setSong songId song').songs otherId = s.shelf.songs otherId :=
      Function.update_of_ne hsame _ _
    rw [hleft]

theorem LinkedTo.mapSongs {s t : Catalogue} {albumId : String} {deletedAt : Int}
    (hs : s.LinkedTo albumId deletedAt) (otherId : String) (change : Song → Song)
    (hchange : ∀ song, song.albumId ≠ otherId → change song = song)
    (halbumId : ∀ song, (change song).albumId = song.albumId) (hne : albumId ≠ otherId)
    (hsongs : ∀ songId, t.shelf.songs songId = (s.shelf.songs songId).map change)
    (hcascade : t.cascade albumId = s.cascade albumId) : t.LinkedTo albumId deletedAt := by
  refine hs.congr ?_ hcascade
  intro songId song halbum
  rw [hsongs, Option.map_eq_some_iff]
  constructor
  · rintro ⟨source, hsource, rfl⟩
    rw [halbumId] at halbum
    rwa [hchange source (halbum ▸ hne)]
  · intro hsong
    exact ⟨song, hsong, hchange song (halbum ▸ hne)⟩

/-- After its deletion at an instant of its own an album is linked to its cascade. -/
theorem linkedTo_deleted {s t : Catalogue} {now : Int} {albumId : String}
    (hfresh : s.AtOwnInstant (.deleteAlbum now albumId))
    (hsongs : ∀ songId, t.shelf.songs songId =
      (s.shelf.songs songId).map (Shelf.cascadeDelete albumId now))
    (hcascade : t.cascade albumId = takenBy s.shelf albumId) : t.LinkedTo albumId now := by
  refine ⟨?_, ?_, ?_⟩
  · intro songId song hsong halbum
    rw [hsongs] at hsong
    obtain ⟨source, hsource, rfl⟩ := Option.map_eq_some_iff.mp hsong
    rw [Shelf.cascadeDelete_albumId] at halbum
    rw [hcascade, takenBy, hsource, Option.any_some, decide_eq_true_eq]
    by_cases hlive : source.deletedAt = none
    · rw [Shelf.cascadeDelete, if_pos ⟨halbum, hlive⟩]
      simp [halbum, hlive]
    · rw [Shelf.cascadeDelete, if_neg fun h => hlive h.2]
      exact ⟨fun heq => absurd heq (hfresh songId source hsource halbum), fun h => absurd h.2 hlive⟩
  · intro songId song hsong halbum
    rw [hsongs] at hsong
    obtain ⟨source, hsource, rfl⟩ := Option.map_eq_some_iff.mp hsong
    rw [Shelf.cascadeDelete_albumId] at halbum
    by_cases hlive : source.deletedAt = none
    · rw [Shelf.cascadeDelete, if_pos ⟨halbum, hlive⟩]
      simp
    · rw [Shelf.cascadeDelete, if_neg fun h => hlive h.2]
      exact hlive
  · intro songId hmem
    rw [hcascade, takenBy] at hmem
    obtain ⟨song, hsong, htaken⟩ := (Option.any_eq_true _ _).mp hmem
    refine ⟨Shelf.cascadeDelete albumId now song, by rw [hsongs, hsong]; rfl, ?_⟩
    rw [Shelf.cascadeDelete_albumId]
    exact (of_decide_eq_true htaken).1

theorem linked_deleteAlbum {s : Catalogue} (hs : s.Linked) {now : Int} {albumId : String}
    (hfresh : s.AtOwnInstant (.deleteAlbum now albumId)) {shelf : Shelf}
    (hdelete : s.shelf.softDeleteAlbum now albumId = .ok shelf) :
    Linked ⟨shelf, Function.update s.cascade albumId (takenBy s.shelf albumId)⟩ := by
  rw [Shelf.softDeleteAlbum] at hdelete
  split at hdelete
  · exact absurd hdelete (by simp)
  · rename_i album _
    obtain rfl := Except.ok.inj hdelete
    intro otherId deletedAt hother
    by_cases hsame : otherId = albumId
    · subst hsame
      have halbum : (⟨some now⟩ : Album) = ⟨some deletedAt⟩ := by
        have hget : Function.update s.shelf.albums otherId
            (some { album with deletedAt := some now }) otherId = some ⟨some deletedAt⟩ := hother
        rw [Function.update_self] at hget
        exact Option.some.inj hget
      obtain rfl : now = deletedAt := by simpa using halbum
      exact linkedTo_deleted hfresh (fun _ => rfl) (Function.update_self _ _ _)
    · have hold : s.shelf.albums otherId = some ⟨some deletedAt⟩ := by
        have hget : Function.update s.shelf.albums albumId
            (some { album with deletedAt := some now }) otherId = some ⟨some deletedAt⟩ := hother
        rwa [Function.update_of_ne hsame] at hget
      exact (hs otherId deletedAt hold).mapSongs albumId (Shelf.cascadeDelete albumId now)
        (fun song hne => Shelf.cascadeDelete_of_ne hne now) (Shelf.cascadeDelete_albumId _ _) hsame
        (fun _ => rfl) (Function.update_of_ne hsame _ _)

theorem linked_restoreAlbum {s : Catalogue} (hs : s.Linked) {finalDeletionDays : Nat} {now : Int}
    {albumId : String} {shelf : Shelf}
    (hrestore : s.shelf.restoreAlbum finalDeletionDays now albumId = .ok shelf) :
    Linked { s with shelf := shelf } := by
  rw [Shelf.restoreAlbum] at hrestore
  split at hrestore
  · exact absurd hrestore (by simp)
  · split at hrestore
    · obtain rfl := Except.ok.inj hrestore
      exact hs
    · split at hrestore
      · exact absurd hrestore (by simp)
      · rename_i album _ _ time _ _
        obtain rfl := Except.ok.inj hrestore
        intro otherId deletedAt hother
        have hget : Function.update s.shelf.albums albumId
            (some { album with deletedAt := none }) otherId = some ⟨some deletedAt⟩ := hother
        by_cases hsame : otherId = albumId
        · subst hsame
          rw [Function.update_self] at hget
          simp at hget
        · rw [Function.update_of_ne hsame] at hget
          exact (hs otherId deletedAt hget).mapSongs albumId (Shelf.cascadeRestore albumId time)
            (fun song hne => Shelf.cascadeRestore_of_ne hne time)
            (Shelf.cascadeRestore_albumId _ _) hsame (fun _ => rfl) rfl

theorem linked_deleteSong {s : Catalogue} (hs : s.Linked) {now : Int} {songId : String}
    {shelf : Shelf} (hdelete : s.shelf.softDeleteSong now songId = .ok shelf) :
    Linked { s with shelf := shelf } := by
  rw [Shelf.softDeleteSong] at hdelete
  split at hdelete
  · exact absurd hdelete (by simp)
  · rename_i song hfilter
    obtain rfl := Except.ok.inj hdelete
    obtain ⟨hsong, hlive⟩ := Option.filter_eq_some_iff.mp hfilter
    intro albumId deletedAt halbum
    have hlinked := hs albumId deletedAt halbum
    refine hlinked.setSong hsong ?_ rfl
    intro hsame
    exact hlinked.deleted songId song hsong hsame (Option.isNone_iff_eq_none.mp hlive)

theorem linked_restoreSong {s : Catalogue} (hs : s.Linked) {finalDeletionDays : Nat} {now : Int}
    {songId : String} {shelf : Shelf}
    (hrestore : s.shelf.restoreSong finalDeletionDays now songId = .ok shelf) :
    Linked { s with shelf := shelf } := by
  rw [Shelf.restoreSong] at hrestore
  split at hrestore
  · exact absurd hrestore (by simp)
  · rename_i song hsong
    split at hrestore
    · obtain rfl := Except.ok.inj hrestore
      exact hs
    · split at hrestore
      · exact absurd hrestore (by simp)
      · split at hrestore
        · exact absurd hrestore (by simp)
        · rename_i parent hparent
          obtain rfl := Except.ok.inj hrestore
          obtain ⟨hfound, hlive⟩ := Option.filter_eq_some_iff.mp hparent
          intro albumId deletedAt halbum
          refine (hs albumId deletedAt halbum).setSong hsong ?_ rfl
          rintro rfl
          have hshelf : s.shelf.albums song.albumId = some ⟨some deletedAt⟩ := halbum
          rw [hfound] at hshelf
          obtain rfl := Option.some.inj hshelf
          simp at hlive

theorem linked_purge {s : Catalogue} (hs : s.Linked) (finalDeletionDays : Nat) (now : Int) :
    Linked { s with shelf := s.shelf.purgeExpired finalDeletionDays now } := by
  intro albumId deletedAt halbum
  have hget : (if s.shelf.isExpiredAlbum (now - window finalDeletionDays) albumId then none
      else s.shelf.albums albumId) = some ⟨some deletedAt⟩ := halbum
  split at hget
  · exact absurd hget (by simp)
  · rename_i hexpired
    have hlinked := hs albumId deletedAt hget
    have hsongs : ∀ songId song,
        (s.shelf.purgeExpired finalDeletionDays now).songs songId = some song →
          s.shelf.songs songId = some song := fun songId song hsong =>
      (Option.filter_eq_some_iff.mp hsong).1
    refine ⟨fun songId song hsong => hlinked.marked songId song (hsongs songId song hsong),
      fun songId song hsong => hlinked.deleted songId song (hsongs songId song hsong), ?_⟩
    intro songId hmem
    obtain ⟨song, hsong, hof⟩ := hlinked.kept songId hmem
    refine ⟨song, Option.filter_eq_some_iff.mpr ⟨hsong, ?_⟩, hof⟩
    have hdeleted := (hlinked.marked songId song hsong hof).mpr hmem
    have hyoung : ¬deletedAt < now - window finalDeletionDays := by
      rw [Shelf.isExpiredAlbum, hget] at hexpired
      simpa using hexpired
    rw [Shelf.isPurgedSong, hof, hdeleted, Bool.eq_false_iff.mpr hexpired]
    simpa using hyoung

theorem linked_answer {s : Catalogue} (hs : s.Linked) {answered : Except Failure Shelf}
    (hanswer : ∀ shelf, answered = .ok shelf → Linked { s with shelf := shelf }) :
    (s.answer answered).Linked := by
  cases answered with
  | error => exact hs
  | ok shelf => exact hanswer shelf rfl

theorem linked_act {s : Catalogue} (hs : s.Linked) (finalDeletionDays : Nat) {a : Action}
    (hfresh : s.AtOwnInstant a) : (s.act finalDeletionDays a).Linked := by
  cases a with
  | deleteAlbum now albumId =>
      rw [act]
      split
      · exact hs
      · rename_i shelf hdelete
        exact linked_deleteAlbum hs hfresh hdelete
  | restoreAlbum now albumId =>
      exact linked_answer hs fun shelf hrestore => linked_restoreAlbum hs hrestore
  | deleteSong now songId =>
      exact linked_answer hs fun shelf hdelete => linked_deleteSong hs hdelete
  | restoreSong now songId =>
      exact linked_answer hs fun shelf hrestore => linked_restoreSong hs hrestore
  | purge now => exact linked_purge hs finalDeletionDays now

/-- A restore revives the songs of the album's cascade, which were all deleted, and leaves
every other song as it is. -/
def RestoresCascade (s : Catalogue) (albumId : String) (after : Shelf) : Prop :=
  ∀ songId,
    (s.cascade albumId songId = true → ∃ song, s.shelf.songs songId = some song ∧
      song.albumId = albumId ∧ song.deletedAt ≠ none ∧
      after.songs songId = some { song with deletedAt := none }) ∧
    (s.cascade albumId songId = false → after.songs songId = s.shelf.songs songId)

theorem Linked.restoresCascade {s : Catalogue} (hs : s.Linked) {finalDeletionDays : Nat}
    {now deletedAt : Int} {albumId : String} {after : Shelf}
    (halbum : s.shelf.albums albumId = some ⟨some deletedAt⟩)
    (hrestore : s.shelf.restoreAlbum finalDeletionDays now albumId = .ok after) :
    s.RestoresCascade albumId after := by
  have hlinked := hs albumId deletedAt halbum
  have hget : s.shelf.getAlbum albumId true = some ⟨some deletedAt⟩ := by
    simp [Shelf.getAlbum, halbum]
  rw [Shelf.restoreAlbum, hget] at hrestore
  simp only at hrestore
  split at hrestore
  · exact absurd hrestore (by simp)
  · obtain rfl := Except.ok.inj hrestore
    intro songId
    have hafter : ((s.shelf.setAlbum albumId ⟨none⟩).mapSongs
        (Shelf.cascadeRestore albumId deletedAt)).songs songId =
          (s.shelf.songs songId).map (Shelf.cascadeRestore albumId deletedAt) := rfl
    rw [hafter]
    constructor
    · intro hmem
      obtain ⟨song, hsong, hof⟩ := hlinked.kept songId hmem
      have hdeleted := (hlinked.marked songId song hsong hof).mpr hmem
      refine ⟨song, hsong, hof, hlinked.deleted songId song hsong hof, ?_⟩
      rw [hsong, Option.map_some, Shelf.cascadeRestore, if_pos ⟨hof, hdeleted⟩]
    · intro hmem
      cases hsong : s.shelf.songs songId with
      | none => rfl
      | some song =>
          rw [Option.map_some, Shelf.cascadeRestore, if_neg]
          rintro ⟨hof, hdeleted⟩
          rw [(hlinked.marked songId song hsong hof).mp hdeleted] at hmem
          exact absurd hmem.symm Bool.false_ne_true

theorem not_isExpired_of_restore {s : Shelf} {finalDeletionDays : Nat} {now : Int}
    {albumId : String} {after : Shelf}
    (hrestore : s.restoreAlbum finalDeletionDays now albumId = .ok after) :
    s.isExpiredAlbum (now - window finalDeletionDays) albumId = false := by
  rw [Shelf.restoreAlbum] at hrestore
  rw [Shelf.isExpiredAlbum]
  split at hrestore
  · exact absurd hrestore (by simp)
  · rename_i album hget
    rw [(Option.filter_eq_some_iff.mp hget).1, Option.any_some]
    split at hrestore
    · rename_i hlive
      rw [hlive]
      rfl
    · rename_i time hdeleted
      split at hrestore
      · exact absurd hrestore (by simp)
      · rename_i hyoung
        rw [hdeleted, Option.any_some, decide_eq_false_iff_not]
        omega

/-- When no album is deleted at the very instant at which one of its songs was, a restore
revives exactly the songs that the deletion of the album took with it. On no shelf at all
can an album be restored and purged at one instant. -/
theorem restore_revives_the_cascade {finalDeletionDays : Nat} {s : Catalogue}
    {run : List (Action × Catalogue)} (hs : (system finalDeletionDays).initial s)
    (hrun : (system finalDeletionDays).IsRun s run) :
    (TransitionSystem.StepsMeet AtOwnInstant s run →
      ∀ t ∈ TransitionSystem.visited s run, ∀ now albumId deletedAt after,
        t.shelf.albums albumId = some ⟨some deletedAt⟩ →
          t.shelf.restoreAlbum finalDeletionDays now albumId = .ok after →
            t.RestoresCascade albumId after) ∧
    ∀ shelf : Shelf, ∀ now albumId after,
      shelf.restoreAlbum finalDeletionDays now albumId = .ok after →
        shelf.isExpiredAlbum (now - window finalDeletionDays) albumId = false := by
  refine ⟨?_, fun shelf now albumId after => not_isExpired_of_restore⟩
  intro hfresh t ht now albumId deletedAt after halbum hrestore
  have hkeeps : ∀ s a t, Linked s → (system finalDeletionDays).step s a t → s.AtOwnInstant a →
      Linked t := by
    intro s a t hs hstep hfresh
    obtain rfl := Option.some.inj hstep
    exact linked_act hs finalDeletionDays hfresh
  have hlinked := TransitionSystem.forall_visited_of_stepsMeet hkeeps
    (linked_of_allAlbumsLive hs) hrun hfresh
  exact (hlinked t ht).restoresCascade halbum hrestore

/-- A live album with one song deleted at time 3 and one live. -/
def twoSongs : Catalogue where
  shelf :=
    { albums := fun albumId => if albumId = "album" then some ⟨none⟩ else none
      songs := fun songId =>
        if songId = "early" then some ⟨"album", some 3⟩
        else if songId = "live" then some ⟨"album", none⟩
        else none }
  cascade _ _ := false

theorem twoSongs_allAlbumsLive (finalDeletionDays : Nat) :
    (system finalDeletionDays).initial twoSongs := by
  intro albumId album halbum
  have hget : (if albumId = "album" then some (⟨none⟩ : Album) else none) = some album := halbum
  split at hget
  · rw [← Option.some.inj hget]
  · exact absurd hget (by simp)

/-- Deleted at time 5, the album takes the live song with it and gives it back, and is not
purged while it can be restored. -/
theorem restore_revives_the_cascade_twoSongs :
    ∃ after, (twoSongs.act 30 (.deleteAlbum 5 "album")).shelf.restoreAlbum 30 9 "album" =
        .ok after ∧
      (twoSongs.act 30 (.deleteAlbum 5 "album")).RestoresCascade "album" after ∧
      (twoSongs.act 30 (.deleteAlbum 5 "album")).shelf.isExpiredAlbum (9 - window 30) "album" =
        false := by
  have hrun : (system 30).IsRun twoSongs
      [(.deleteAlbum 5 "album", twoSongs.act 30 (.deleteAlbum 5 "album"))] := ⟨rfl, trivial⟩
  have hfresh : TransitionSystem.StepsMeet AtOwnInstant twoSongs
      [(.deleteAlbum 5 "album", twoSongs.act 30 (.deleteAlbum 5 "album"))] := by
    refine ⟨?_, trivial⟩
    intro songId song hsong _
    have hget : (if songId = "early" then some (⟨"album", some 3⟩ : Song)
        else if songId = "live" then some ⟨"album", none⟩ else none) = some song := hsong
    split at hget
    · rw [← Option.some.inj hget]
      decide
    · split at hget
      · rw [← Option.some.inj hget]
        decide
      · exact absurd hget (by simp)
  obtain ⟨hrevives, hyoung⟩ := restore_revives_the_cascade (twoSongs_allAlbumsLive 30) hrun
  exact ⟨_, rfl, hrevives hfresh _ (List.mem_cons_of_mem _ List.mem_cons_self)
      9 "album" 5 _ rfl rfl,
    hyoung _ 9 "album" _ rfl⟩

/-- Deleted at time 3, the album takes the song with it that was deleted on its own then. -/
theorem restore_revives_a_song_of_the_same_instant :
    (twoSongs.shelf.songs "early").map Song.deletedAt = some (some 3) ∧
    (twoSongs.act 30 (.deleteAlbum 3 "album")).cascade "album" "early" = false ∧
    (((twoSongs.act 30 (.deleteAlbum 3 "album")).act 30
      (.restoreAlbum 9 "album")).shelf.songs "early").map Song.deletedAt = some none := by
  decide +kernel

end Catalogue

end Songmaker.Library.SoftDelete
