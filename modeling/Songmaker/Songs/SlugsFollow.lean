import Std.Data.String.ToNat
import Songmaker.Songs.SongSlugs

/-!
The album of a rename and the title of a move are read before the lock. The
addresses follow the titles exactly as long as what has become of them meanwhile
leaves the slug free and fitting.
-/

namespace Songmaker.Songs.SlugsFollow

open Songmaker.Foundation
open Songmaker.Foundation.FreeNames
open Songmaker.Foundation.TransitionSystem
open Songmaker.Songs.SongSlugs
open Songmaker.Songs.SongSlugs.Addresses

variable {slugify : Text → Text} {s t : Addresses} {rows : List SongRow} {row : SongRow}

/-- The slug is the base slug of the title, alone or with a number. -/
def FitsTitle (slugify : Text → Text) (title slug : Text) : Prop :=
  ∃ counter, 1 ≤ counter ∧ slug = candidate (slugify title) counter

/-- No two songs of an album have one address. -/
def UniqueSlugs (rows : List SongRow) : Prop :=
  ∀ row ∈ rows, ∀ other ∈ rows, row.id ≠ other.id → row.albumId = other.albumId →
    row.slug ≠ other.slug

/-- No request has clashed, every song that was touched has the address of its
title in its album, and a search for one ends. -/
structure Follows (slugify : Text → Text) (s : Addresses) : Prop where
  violated : s.violated = false
  slugs : ∀ row ∈ s.rows, row.id ∈ s.touched → FitsTitle slugify row.title row.slug
  unique : UniqueSlugs s.rows
  searches : ∀ albumId title excludeSongId,
    (uniqueSongSlug slugify s.rows albumId title excludeSongId).isSome = true

/-- What a request has read before the lock still stands, or does no harm: the
slug found for the album of a rename is free in the song's present album too,
and the one found for the title of a move fits its present title. -/
def ReadHolds (slugify : Text → Text) (s : Addresses) : Change → Prop
  | .create _ _ => True
  | .rename songId albumId title =>
      ∀ row ∈ s.liveRow songId, row.albumId = albumId ∨
        ∀ slug ∈ uniqueSongSlug slugify s.rows albumId title (some songId),
          isTaken s.rows row.albumId (some songId) slug = false
  | .move songId title target =>
      ∀ row ∈ s.liveRow songId, row.title = title ∨ row.albumId = target ∨
        ∀ slug ∈ uniqueSongSlug slugify s.rows target title (some songId),
          FitsTitle slugify row.title slug

/-- What a request has read still holds when it commits. -/
def CommitsInTime (slugify : Text → Text) (s : Addresses) : SlugAct → Prop
  | .commits i => ∀ change ∈ s.pending[i]?, ReadHolds slugify s change
  | _ => True

section Search

theorem candidate_injective (baseSlug : Text) (n m : Nat) (hn : 1 ≤ n) (hm : 1 ≤ m)
    (hsame : candidate baseSlug n = candidate baseSlug m) : n = m := by
  unfold candidate at hsame
  split at hsame
  · split at hsame
    · omega
    · have hlength := congrArg List.length hsame
      simp at hlength
  · split at hsame
    · have hlength := congrArg List.length hsame
      simp at hlength
    · have htail := List.append_cancel_left hsame
      have hdigits := (List.cons.inj htail).2
      exact Nat.repr_injective (String.toList_inj.mp hdigits)

theorem mem_slugs_of_isTaken {albumId : Text} {excludeSongId : Option Nat} (slug : Text)
    (htaken : isTaken rows albumId excludeSongId slug = true) :
    slug ∈ rows.map SongRow.slug := by
  obtain ⟨row, hrow, hmatch⟩ := List.any_eq_true.mp htaken
  simp only [Bool.and_eq_true, decide_eq_true_eq] at hmatch
  exact List.mem_map.mpr ⟨row, hrow, hmatch.1.2⟩

theorem uniqueSongSlug_isSome (slugify : Text → Text) (rows : List SongRow) (albumId title : Text)
    (excludeSongId : Option Nat) :
    (uniqueSongSlug slugify rows albumId title excludeSongId).isSome = true := by
  have htaken : ∀ slug, isTaken rows albumId excludeSongId slug = true →
      slug ∈ rows.map SongRow.slug := mem_slugs_of_isTaken
  have hfree := firstFree_isSome htaken (candidate_injective (slugify title))
  rwa [List.length_map] at hfree

theorem uniqueSongSlug_eq_some {albumId title slug : Text} {excludeSongId : Option Nat}
    (h : uniqueSongSlug slugify rows albumId title excludeSongId = some slug) :
    isTaken rows albumId excludeSongId slug = false ∧ FitsTitle slugify title slug :=
  firstFree_eq_some h

end Search

section Rows

theorem mem_put {other : SongRow} (hother : other ∈ put rows row) :
    other = row ∨ (other ∈ rows ∧ other.id ≠ row.id) := by
  unfold put at hother
  split at hother
  · obtain ⟨old, hold, hnew⟩ := List.mem_map.mp hother
    split at hnew
    · exact .inl hnew.symm
    · rename_i hne
      subst hnew
      exact .inr ⟨hold, hne⟩
  · rename_i hfresh
    rcases List.mem_append.mp hother with hother | hother
    · refine .inr ⟨hother, fun hsame => hfresh ?_⟩
      exact List.any_eq_true.mpr ⟨other, hother, by simpa using hsame⟩
    · exact .inl (by simpa using hother)

theorem self_mem_put (rows : List SongRow) (row : SongRow) : row ∈ put rows row := by
  unfold put
  split
  · rename_i hthere
    obtain ⟨old, hold, hsame⟩ := List.any_eq_true.mp hthere
    exact List.mem_map.mpr ⟨old, hold, if_pos (by simpa using hsame)⟩
  · simp

theorem not_clashes_of_free (hfree : isTaken rows row.albumId (some row.id) row.slug = false) :
    clashes rows row = false := by
  unfold clashes
  rw [List.any_eq_false]
  intro other hother hclash
  unfold isTaken at hfree
  rw [List.any_eq_false] at hfree
  apply hfree other hother
  simp only [Bool.and_eq_true, decide_eq_true_eq] at hclash ⊢
  exact ⟨⟨hclash.1.2, hclash.2⟩, fun hsame => hclash.1.1 (Option.some.inj hsame)⟩

theorem clashes_of_taken (htaken : isTaken rows row.albumId (some row.id) row.slug = true) :
    clashes rows row = true := by
  obtain ⟨other, hother, hmatch⟩ := List.any_eq_true.mp htaken
  refine List.any_eq_true.mpr ⟨other, hother, ?_⟩
  simp only [Bool.and_eq_true, decide_eq_true_eq] at hmatch ⊢
  exact ⟨⟨fun hsame => hmatch.2 (congrArg some hsame), hmatch.1.1⟩, hmatch.1.2⟩

theorem UniqueSlugs.put (h : UniqueSlugs rows) (hclash : clashes rows row = false) :
    UniqueSlugs (put rows row) := by
  have hother : ∀ other ∈ rows, other.id ≠ row.id → other.albumId = row.albumId →
      other.slug ≠ row.slug := by
    intro other hmem hne halbum hslug
    unfold clashes at hclash
    rw [List.any_eq_false] at hclash
    exact hclash other hmem (by simp [hne, halbum, hslug])
  intro first hfirst second hsecond hne halbum
  rcases mem_put hfirst with rfl | ⟨hfirstOld, hfirstId⟩
  · rcases mem_put hsecond with rfl | ⟨hsecondOld, hsecondId⟩
    · exact absurd rfl hne
    · exact (hother second hsecondOld hsecondId halbum.symm).symm
  · rcases mem_put hsecond with rfl | ⟨hsecondOld, -⟩
    · exact hother first hfirstOld hfirstId halbum
    · exact h first hfirstOld second hsecondOld hne halbum

end Rows

section Steps

theorem Follows.write (h : Follows slugify s)
    (hfree : isTaken s.rows row.albumId (some row.id) row.slug = false)
    (hfits : FitsTitle slugify row.title row.slug) : Follows slugify (s.write row) := by
  have hclash := not_clashes_of_free hfree
  unfold Addresses.write
  rw [hclash]
  refine ⟨h.violated, fun other hother htouched => ?_, h.unique.put hclash,
    uniqueSongSlug_isSome slugify _⟩
  rcases mem_put hother with rfl | ⟨hother, hne⟩
  · exact hfits
  · apply h.slugs other hother
    rcases List.mem_append.mp htouched with htouched | htouched
    · exact htouched
    · exact absurd (by simpa using htouched) hne

theorem Follows.of_same (h : Follows slugify s) (hrows : t.rows = s.rows)
    (htouched : t.touched = s.touched) (hviolated : t.violated = s.violated) :
    Follows slugify t := by
  refine ⟨hviolated.trans h.violated, ?_, ?_, uniqueSongSlug_isSome slugify _⟩
  · rw [hrows, htouched]
    exact h.slugs
  · rw [hrows]
    exact h.unique

theorem not_follows_write_of_taken
    (htaken : isTaken s.rows row.albumId (some row.id) row.slug = true) :
    ¬ Follows slugify (s.write row) := by
  intro h
  have hviolated := h.violated
  unfold Addresses.write at hviolated
  rw [clashes_of_taken htaken] at hviolated
  cases hviolated

theorem not_follows_write_of_unfit
    (hfree : isTaken s.rows row.albumId (some row.id) row.slug = false)
    (hunfit : ¬ FitsTitle slugify row.title row.slug) : ¬ Follows slugify (s.write row) := by
  intro h
  have hslugs := h.slugs
  unfold Addresses.write at hslugs
  rw [not_clashes_of_free hfree] at hslugs
  exact hunfit (hslugs row (self_mem_put s.rows row) (by simp))

theorem liveRow_id {songId : Nat} (hrow : s.liveRow songId = some row) : row.id = songId := by
  have hfound := List.find?_some hrow
  simp only [Bool.and_eq_true, decide_eq_true_eq] at hfound
  exact hfound.1

theorem Follows.rename (h : Follows slugify s) {songId : Nat} {albumId title slug : Text}
    (hrow : s.liveRow songId = some row)
    (hslug : uniqueSongSlug slugify s.rows albumId title (some songId) = some slug) :
    Follows slugify (s.write { row with title := title, slug := slug }) ↔
      row.albumId = albumId ∨ isTaken s.rows row.albumId (some songId) slug = false := by
  obtain ⟨hfree, hfits⟩ := uniqueSongSlug_eq_some hslug
  obtain rfl := liveRow_id hrow
  constructor
  · intro hfollows
    right
    rw [← Bool.not_eq_true]
    intro htaken
    exact not_follows_write_of_taken htaken hfollows
  · rintro (rfl | hfree)
    · exact h.write hfree hfits
    · exact h.write hfree hfits

theorem Follows.move (h : Follows slugify s) {songId : Nat} {title target slug : Text}
    (hrow : s.liveRow songId = some row)
    (hslug : uniqueSongSlug slugify s.rows target title (some songId) = some slug) :
    Follows slugify (s.write { row with albumId := target, slug := slug }) ↔
      row.title = title ∨ FitsTitle slugify row.title slug := by
  obtain ⟨hfree, hfits⟩ := uniqueSongSlug_eq_some hslug
  obtain rfl := liveRow_id hrow
  constructor
  · intro hfollows
    right
    by_contra hunfit
    exact not_follows_write_of_unfit hfree hunfit hfollows
  · rintro (rfl | hfits)
    · exact h.write hfree hfits
    · exact h.write hfree hfits

theorem Follows.apply {change : Change} (h : Follows slugify s)
    (happly : s.apply slugify change = some t) :
    Follows slugify t ↔ ReadHolds slugify s change := by
  cases change with
  | create albumId title =>
      obtain ⟨slug, hslug, rfl⟩ := Option.map_eq_some_iff.mp happly
      obtain ⟨hfree, hfits⟩ := uniqueSongSlug_eq_some hslug
      have hlater : Follows slugify { s with nextId := s.nextId + 1 } := h.of_same rfl rfl rfl
      refine iff_of_true (hlater.write ?_ hfits) trivial
      unfold isTaken at hfree ⊢
      rw [List.any_eq_false] at hfree ⊢
      intro other hother hmatch
      apply hfree other hother
      simp only [Bool.and_eq_true, decide_eq_true_eq] at hmatch ⊢
      exact ⟨hmatch.1, by simp⟩
  | rename songId albumId title =>
      obtain ⟨slug, hslug, rfl⟩ := Option.map_eq_some_iff.mp happly
      simp only [ReadHolds, hslug]
      cases hrow : s.liveRow songId with
      | none => simpa using h
      | some row => simpa using h.rename hrow hslug
  | move songId title target =>
      obtain ⟨slug, hslug, rfl⟩ := Option.map_eq_some_iff.mp happly
      simp only [ReadHolds, hslug]
      cases hrow : s.liveRow songId with
      | none => simpa using h
      | some row =>
          by_cases htarget : row.albumId = target
          · simpa [htarget] using h
          · simpa [htarget] using h.move hrow hslug

theorem Follows.act {action : SlugAct} (h : Follows slugify s)
    (hact : act slugify s action = some t) :
    Follows slugify t ↔ CommitsInTime slugify s action := by
  unfold SongSlugs.act at hact
  cases action with
  | createArrives albumId title =>
      obtain ⟨stored, -, rfl⟩ := Option.map_eq_some_iff.mp hact
      exact iff_of_true (h.of_same rfl rfl rfl) trivial
  | renameArrives songId title =>
      obtain ⟨row, -, hnext⟩ := Option.bind_eq_some_iff.mp hact
      obtain ⟨stored, -, rfl⟩ := Option.map_eq_some_iff.mp hnext
      exact iff_of_true (h.of_same rfl rfl rfl) trivial
  | moveArrives songId target =>
      obtain ⟨row, -, rfl⟩ := Option.map_eq_some_iff.mp hact
      exact iff_of_true (h.of_same rfl rfl rfl) trivial
  | commits i =>
      obtain ⟨change, hchange, happly⟩ := Option.bind_eq_some_iff.mp hact
      have hlater : Follows slugify { s with pending := s.pending.eraseIdx i } :=
        h.of_same rfl rfl rfl
      rw [hlater.apply happly]
      constructor
      · intro hholds other hother
        obtain rfl := Option.some.inj (hchange.symm.trans hother)
        cases change with
        | create albumId title => trivial
        | rename songId albumId title => exact hholds
        | move songId title target => exact hholds
      · intro hholds
        have hread := hholds change hchange
        cases change with
        | create albumId title => trivial
        | rename songId albumId title => exact hread
        | move songId title target => exact hread
  | refused i =>
      obtain ⟨change, -, rfl⟩ := Option.map_eq_some_iff.mp hact
      exact iff_of_true (h.of_same rfl rfl rfl) trivial

end Steps

theorem follows_of_resting (h : Resting s) : Follows slugify s := by
  refine ⟨h.violated, ?_, h.unique, uniqueSongSlug_isSome slugify _⟩
  simp [h.touched]

theorem follows_iff {run : List (SlugAct × Addresses)} (hs : Resting s)
    (hrun : (addresses slugify).IsRun s run) :
    (∀ t ∈ visited s run, Follows slugify t) ↔ StepsMeet (CommitsInTime slugify) s run := by
  refine forall_visited_iff_stepsMeet (fun _ h => h) ?_ ?_ (follows_of_resting hs) hrun
  · intro s a t h hstep hok
    exact (h.act hstep).mpr hok
  · intro s a t h hstep hnot hfollows
    exact hnot ((h.act hstep).mp hfollows)

/-- Two songs, alone in their albums. -/
def twoAlbums : Addresses where
  rows := [⟨0, ['A'], ['a'], ['a'], false⟩, ⟨1, ['B'], ['b'], ['b'], false⟩]
  nextId := 2
  pending := []
  touched := []
  violated := false

theorem resting_twoAlbums : Resting twoAlbums :=
  ⟨by decide, by decide, rfl, rfl, rfl⟩

/-- A request commits while the title of a move still stands, and while the album of a rename
does or the slug is free in the present one. -/
def commitsUnchanged (slugify : Text → Text) (s : Addresses) : SlugAct → Bool
  | .commits i => s.pending[i]?.all fun change =>
      match change with
      | .create _ _ => true
      | .rename songId albumId title => (s.liveRow songId).all fun row =>
          row.albumId = albumId || (uniqueSongSlug slugify s.rows albumId title (some songId)).all
            fun slug => !isTaken s.rows row.albumId (some songId) slug
      | .move songId title _ => (s.liveRow songId).all fun row => row.title = title
  | _ => true

theorem commitsInTime_of_unchanged (s : Addresses) (a : SlugAct)
    (h : commitsUnchanged slugify s a = true) : CommitsInTime slugify s a := by
  cases a with
  | commits i =>
      intro change hchange
      have hread := (Option.all_eq_true _ _).mp h change hchange
      cases change with
      | create => trivial
      | rename songId albumId title =>
          intro row hrow
          have hrow := (Option.all_eq_true _ _).mp hread row hrow
          rcases Bool.or_eq_true_iff.mp hrow with hsame | hfree
          · exact .inl (of_decide_eq_true hsame)
          · refine .inr fun slug hslug => ?_
            exact (Bool.not_eq_true' _).mp ((Option.all_eq_true _ _).mp hfree slug hslug)
      | move songId title target =>
          intro row hrow
          exact .inl (of_decide_eq_true ((Option.all_eq_true _ _).mp hread row hrow))
  | _ => trivial

/-- Both songs change their albums, the first while a rename of it waits for the lock, and a
song is created under the title that the rename gives. -/
def overlapping : List SlugAct :=
  [.renameArrives 0 ['c'], .moveArrives 0 ['B'], .moveArrives 1 ['A'], .createArrives ['B'] ['c'],
    .commits 1, .commits 0, .commits 0, .commits 0]

theorem follows_iff_renamed :
    Follows id (lastOf twoAlbums (follow (act id) twoAlbums overlapping)) ∧
      (lastOf twoAlbums (follow (act id) twoAlbums overlapping)).rows.map
          (fun row => (row.albumId, row.slug)) =
        [(['B'], ['c']), (['A'], ['b']), (['B'], ['c', '-', '2'])] := by
  have hmeet : StepsMeet (fun s a => commitsUnchanged id s a = true) twoAlbums
      (follow (act id) twoAlbums overlapping) := by
    decide +kernel
  refine ⟨?_, by decide +kernel⟩
  exact (follows_iff resting_twoAlbums (isRun_follow _ _ _ _)).mpr
    (hmeet.mono commitsInTime_of_unchanged) _ (lastOf_mem_visited _ _)

/-- The song moves into the other album before the rename takes the lock. -/
theorem overtaken_rename_clashes :
    ¬ ∀ (slugify : Text → Text) (s : Addresses), (addresses slugify).Reachable s →
      Follows slugify s := by
  intro hall
  have hstart : (addresses id).Reachable twoAlbums := .initial resting_twoAlbums
  have hfollows := hall id _ (reachable_follow hstart
    [.renameArrives 0 ['b'], .moveArrives 0 ['B'], .commits 1, .commits 0])
  exact absurd hfollows.violated (by decide +kernel)

end Songmaker.Songs.SlugsFollow
