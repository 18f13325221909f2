import Songmaker.Library.LibraryCursor
import Songmaker.Library.SearchOrder

namespace Songmaker.Library

open Songmaker.Foundation
open Songmaker.Foundation.Keyset (keysetPage Sorted before remaining)

/-- How a request for a page fails. -/
inductive ApiError where
  | http (status : Nat) (detail : String)
  /-- An exception that the endpoint does not handle. -/
  | valueError

/-- A page, with the cursor of the next one. -/
structure LibrarySearchResponse where
  items : List Hit
  hasMore : Bool
  nextCursor : Option String

def stripQuery (q : String) : String :=
  String.ofList (strip q.toList)

/-- The query without blanks around it, of which something must be left. -/
def parseRequiredSearchQuery (q : String) : Except ApiError String :=
  if (stripQuery q).isEmpty then .error (.http 422 "Search query is required")
  else .ok (stripQuery q)

/-- What a search may show to one owner. -/
structure Matching (ilike : String → String → Bool) (tables : Tables) (ownerId : Option String)
    (q : String) (sort : LibrarySort) (lower : String → String) (hits : List Hit) : Prop where
  album (album : Album) : .album album ∈ hits ↔
    album ∈ tables.albums ∧ titleMatches ilike album.title q = true ∧ visible ownerId album = true
  song (song : Song) : .song song ∈ hits ↔
    song ∈ tables.songs ∧ titleMatches ilike song.title q = true ∧
      ∃ album ∈ tables.albums, album.id = song.albumId ∧ visible ownerId album = true
  once : (hits.map fun hit => (hit.hitType, hit.id)).Nodup
  ordered : hits.Pairwise fun left right => hitBefore lower sort left right = true

section Endpoint

variable (lower : String → String) (ilike : String → String → Bool)
  (hmac : List UInt8 → List UInt8 → Vector UInt8 32) (floatIsVersion : JsonFloat → Bool)
  (signingKey : List UInt8) (tables : Tables) (ownerId : Option String)

/-- The rest of `api_library_search`, once the cursor is decoded. -/
def searchPage (query : String) (sort : LibrarySort) (limit : Nat)
    (after : Option LibraryCursor) : Except ApiError LibrarySearchResponse :=
  match searchLibrary lower ilike tables ownerId query sort limit after with
  | none => .error .valueError
  | some page =>
      if page.hasMore then
        match page.items.getLast? with
        | none => .error (.http 422 LibraryCursorError.invalid.detail)
        | some last =>
            .ok ⟨page.items, true,
              some (encodeLibraryCursor hmac (cursorFromHit lower last query sort) signingKey)⟩
      else .ok ⟨page.items, false, none⟩

/-- A page of hits, with the cursor of the next page if there is one. -/
def apiLibrarySearch (q : String) (sort : LibrarySort) (limit : Nat) (cursor : Option String) :
    Except ApiError LibrarySearchResponse := do
  let query ← parseRequiredSearchQuery q
  match cursor with
  | none => searchPage lower ilike hmac signingKey tables ownerId query sort limit none
  | some cursor =>
      match decodeLibraryCursor hmac floatIsVersion cursor signingKey query sort.text with
      | .error error => .error (.http 422 error.detail)
      | .ok after =>
          searchPage lower ilike hmac signingKey tables ownerId query sort limit (some after)

end Endpoint

/-- The pages that the cursors of the responses lead through, from one cursor to
the end. -/
inductive Follows (request : Option String → Except ApiError LibrarySearchResponse) :
    Option String → List (List Hit) → Prop where
  | last {cursor : Option String} {items : List Hit}
      (hrequest : request cursor = .ok ⟨items, false, none⟩) : Follows request cursor [items]
  | next {cursor : Option String} {items : List Hit} {nextCursor : String}
      {pages : List (List Hit)} (hrequest : request cursor = .ok ⟨items, true, some nextCursor⟩)
      (hrest : Follows request (some nextCursor) pages) : Follows request cursor (items :: pages)

section Results

variable (lower : String → String) (ilike : String → String → Bool) (tables : Tables)
  (ownerId : Option String) (q : String) (sort : LibrarySort)

/-- All the hits of a search, in the order of the sort. -/
def matchingHits : List Hit :=
  mergeHits lower
    (applyLibrarySort lower albumModel sort (matchingAlbumRows ilike tables ownerId q))
    (applyLibrarySort lower songModel sort (matchingSongRows ilike tables ownerId q)) sort

theorem nodup_matchingAlbumRows :
    ((matchingAlbumRows ilike tables ownerId q).map albumModel.id).Nodup :=
  tables.albumIds.sublist ((List.filter_sublist).map Album.id)

theorem nodup_matchingSongRows :
    ((matchingSongRows ilike tables ownerId q).map songModel.id).Nodup :=
  tables.songIds.sublist ((List.filter_sublist).map Song.id)

theorem mem_matchingHits {hit : Hit} : hit ∈ matchingHits lower ilike tables ownerId q sort ↔
    (∃ album ∈ matchingAlbumRows ilike tables ownerId q, Hit.album album = hit) ∨
      ∃ song ∈ matchingSongRows ilike tables ownerId q, Hit.song song = hit := by
  simp only [matchingHits, mergeHits, List.mem_merge, List.mem_map, applyLibrarySort,
    List.mem_mergeSort]

theorem id_ne_empty {hit : Hit} (hhit : hit ∈ matchingHits lower ilike tables ownerId q sort) :
    hit.id ≠ "" := by
  rcases (mem_matchingHits ..).mp hhit with ⟨album, halbum, rfl⟩ | ⟨song, hsong, rfl⟩
  · exact tables.albumIdsNonempty album (List.mem_of_mem_filter halbum)
  · exact tables.songIdsNonempty song (List.mem_of_mem_filter hsong)

end Results

/-- What tells two hits apart. -/
def identity (hit : Hit) : String × String :=
  (hit.hitType, hit.id)

theorem hitType_ne {hit hit' : Hit} {albums : List Album} {songs : List Song}
    (halbum : hit ∈ albums.map Hit.album) (hsong : hit' ∈ songs.map Hit.song) :
    hit.hitType ≠ hit'.hitType := by
  obtain ⟨album, -, rfl⟩ := List.mem_map.mp halbum
  obtain ⟨song, -, rfl⟩ := List.mem_map.mp hsong
  show libraryItemAlbum ≠ libraryItemSong
  decide

theorem nodup_merge (before : Hit → Hit → Bool) {albums songs : List Hit}
    (halbums : (albums.map identity).Nodup) (hsongs : (songs.map identity).Nodup)
    (hne : ∀ album ∈ albums, ∀ song ∈ songs, album.hitType ≠ song.hitType) :
    ((List.merge albums songs before).map identity).Nodup := by
  have hperm : ((List.merge albums songs before).map identity).Perm
      ((albums ++ songs).map identity) := (List.merge_perm_append before).map identity
  rw [hperm.nodup_iff, List.map_append, List.nodup_append]
  refine ⟨halbums, hsongs, ?_⟩
  rintro _ halbum _ hsong hsame
  obtain ⟨album, hmem, rfl⟩ := List.mem_map.mp halbum
  obtain ⟨song, hmem', rfl⟩ := List.mem_map.mp hsong
  exact hne album hmem song hmem' (congrArg Prod.fst hsame)

theorem nodup_identity {Row : Type} {model : Model Row} {toHit : Row → Hit}
    (hshows : model.Shows toHit) (lower : String → String) (sort : LibrarySort) {rows : List Row}
    (hnodup : (rows.map model.id).Nodup) :
    (((applyLibrarySort lower model sort rows).map toHit).map identity).Nodup := by
  have hid : Prod.snd ∘ identity ∘ toHit = model.id := by
    funext row
    exact hshows.id row
  apply List.Nodup.of_map Prod.snd
  rw [List.map_map, List.map_map, Function.comp_assoc, hid]
  exact ((List.mergeSort_perm rows _).map model.id).nodup_iff.mpr hnodup

theorem dedupeHits_eq {seen : List (String × String)} {hits : List Hit}
    (hnodup : (hits.map identity).Nodup) (hseen : ∀ hit ∈ hits, identity hit ∉ seen) :
    dedupeHits seen hits = hits := by
  induction hits generalizing seen with
  | nil => rfl
  | cons hit hits ih =>
      rw [List.map_cons, List.nodup_cons] at hnodup
      obtain ⟨hhit, hnodup⟩ := hnodup
      have hnew : (hit.hitType, hit.id) ∉ seen := hseen hit List.mem_cons_self
      rw [dedupeHits, if_neg hnew, ih hnodup]
      intro other hother hmem
      rcases List.mem_cons.mp hmem with hsame | hmem
      · have hmap := List.mem_map_of_mem (f := identity) hother
        rw [hsame] at hmap
        exact hhit hmap
      · exact hseen other (List.mem_cons_of_mem _ hother) hmem

namespace SearchOrder

variable {lower : String → String} {sort : LibrarySort} (order : SearchOrder lower sort)
  (ilike : String → String → Bool) (tables : Tables) (ownerId : Option String) (q : String)

theorem key_ne {left right : Hit} {albums : List Album} {songs : List Song}
    (halbum : left ∈ albums.map Hit.album) (hsong : right ∈ songs.map Hit.song) :
    order.key left ≠ order.key right :=
  fun hkey => hitType_ne halbum hsong (order.hitType_eq_of_key_eq hkey).1

theorem sorted_matchingHits :
    Sorted order.key (matchingHits lower ilike tables ownerId q sort) := by
  rw [matchingHits, mergeHits, order.hitBefore_eq]
  apply Sorted.merge
  · exact order.sorted_applyLibrarySort albumModel_shows (nodup_matchingAlbumRows ..)
  · exact order.sorted_applyLibrarySort songModel_shows (nodup_matchingSongRows ..)
  · intro left hleft right hright
    exact order.key_ne hleft hright

theorem remaining_sublist (hits : List Hit) (after : Option Hit) :
    (remaining order.key hits after).Sublist hits := by
  cases after with
  | none => exact List.Sublist.refl _
  | some last => exact List.filter_sublist

theorem remaining_merge {albums songs : List Hit} (halbums : Sorted order.key albums)
    (hsongs : Sorted order.key songs)
    (hne : ∀ album ∈ albums, ∀ song ∈ songs, order.key album ≠ order.key song)
    (after : Option Hit) :
    List.merge (remaining order.key albums after) (remaining order.key songs after)
        (before order.key) =
      remaining order.key (List.merge albums songs (before order.key)) after := by
  cases after with
  | none => rfl
  | some last => exact (Keyset.filter_merge halbums hsongs hne _).symm

theorem searchLibrary_eq (limit : Nat) (after : Option Hit) :
    searchLibrary lower ilike tables ownerId q sort limit
        (after.map fun hit => cursorFromHit lower hit q sort) =
      some ⟨(keysetPage order.key (matchingHits lower ilike tables ownerId q sort) limit after).1,
        (keysetPage order.key (matchingHits lower ilike tables ownerId q sort) limit after).2⟩ := by
  have halbumIds := nodup_matchingAlbumRows ilike tables ownerId q
  have hsongIds := nodup_matchingSongRows ilike tables ownerId q
  obtain ⟨albums, halbums, halbumHits⟩ :=
    order.queryPage_eq albumModel_shows halbumIds (limit + 1) after q
  obtain ⟨songs, hsongs, hsongHits⟩ :=
    order.queryPage_eq songModel_shows hsongIds (limit + 1) after q
  have halbumsSorted := order.sorted_applyLibrarySort albumModel_shows halbumIds
  have hsongsSorted := order.sorted_applyLibrarySort songModel_shows hsongIds
  have hmerge := order.remaining_merge halbumsSorted hsongsSorted
    (fun _ halbum _ hsong => order.key_ne halbum hsong) after
  have hdistinct : ((mergeHits lower albums songs sort).map identity).Nodup := by
    apply nodup_merge
    · rw [halbumHits]
      exact (nodup_identity albumModel_shows lower sort halbumIds).sublist
        (((List.take_sublist ..).trans (order.remaining_sublist ..)).map identity)
    · rw [hsongHits]
      exact (nodup_identity songModel_shows lower sort hsongIds).sublist
        (((List.take_sublist ..).trans (order.remaining_sublist ..)).map identity)
    · intro album halbum song hsong
      exact hitType_ne halbum hsong
  have hdedupe : dedupeHits [] (mergeHits lower albums songs sort) =
      mergeHits lower albums songs sort := dedupeHits_eq hdistinct fun _ _ => List.not_mem_nil
  rw [searchLibrary]
  simp only [halbums, hsongs, Option.bind_eq_bind, Option.bind_some, hdedupe, Option.pure_def]
  rw [mergeHits, halbumHits, hsongHits, order.hitBefore_eq,
    Keyset.take_merge_take _ _ _ (Nat.le_succ limit) (Nat.le_succ limit)]
  simp only [Keyset.lt_length_merge_take, hmerge, matchingHits, mergeHits, order.hitBefore_eq,
    keysetPage]

end SearchOrder

theorem cursorFromHit_wellFormed (lower : String → String) {hit : Hit} {q : String}
    (sort : LibrarySort) (hq : q ≠ "") (hid : hit.id ≠ "") :
    (cursorFromHit lower hit q sort).WellFormed where
  q := hq
  sort := by
    cases sort <;> simp [cursorFromHit, LibrarySort.text, librarySorts]
  itemType := by
    cases hit with
    | album row => exact List.mem_cons_self
    | song row => exact List.mem_cons_of_mem _ List.mem_cons_self
  id := hid
  sortValue := by
    intro htime
    have hsort : sort ≠ .title := by
      rintro rfl
      simp [cursorFromHit, LibrarySort.text, timeSorts] at htime
    simp only [cursorFromHit, if_neg hsort, String.toList_ofList,
      Datetime.fromisoformat_isoformat, Option.isSome_some]

section Endpoint

variable (lower : String → String) (ilike : String → String → Bool)
  (hmac : List UInt8 → List UInt8 → Vector UInt8 32) (floatIsVersion : JsonFloat → Bool)
  (signingKey : List UInt8) (tables : Tables) (ownerId : Option String)

theorem apiLibrarySearch_eq {q : String} (hq : stripQuery q ≠ "") (sort : LibrarySort) (limit : Nat)
    {after : Option Hit} (hafter : ∀ hit ∈ after, hit.id ≠ "") :
    apiLibrarySearch lower ilike hmac floatIsVersion signingKey tables ownerId q sort limit
        (after.map fun hit =>
          encodeLibraryCursor hmac (cursorFromHit lower hit (stripQuery q) sort) signingKey) =
      searchPage lower ilike hmac signingKey tables ownerId (stripQuery q) sort limit
        (after.map fun hit => cursorFromHit lower hit (stripQuery q) sort) := by
  have hquery : parseRequiredSearchQuery q = .ok (stripQuery q) := if_neg (by simpa using hq)
  cases after with
  | none =>
      rw [apiLibrarySearch, hquery]
      rfl
  | some hit =>
      have hwellFormed := cursorFromHit_wellFormed lower sort hq (hafter hit rfl)
      have hdecode : decodeLibraryCursor hmac floatIsVersion
          (encodeLibraryCursor hmac (cursorFromHit lower hit (stripQuery q) sort) signingKey)
          signingKey (stripQuery q) sort.text = .ok (cursorFromHit lower hit (stripQuery q) sort) :=
        decode_encodeLibraryCursor hmac floatIsVersion hwellFormed signingKey
      simp only [apiLibrarySearch, hquery, bind, Except.bind, Option.map_some, hdecode]

theorem follows_of_pages {q : String} (hq : stripQuery q ≠ "") {sort : LibrarySort}
    (order : SearchOrder lower sort) {limit : Nat} {after : Option Hit} {pages : List (List Hit)}
    (hafter : ∀ hit ∈ after, hit.id ≠ "")
    (hpages : Keyset.Pages (keysetPage order.key
      (matchingHits lower ilike tables ownerId (stripQuery q) sort) limit) after pages) :
    Follows (apiLibrarySearch lower ilike hmac floatIsVersion signingKey tables ownerId q sort
      limit)
      (after.map fun hit =>
        encodeLibraryCursor hmac
            (cursorFromHit lower hit (stripQuery q) sort) signingKey) pages := by
  induction hpages with
  | last hpage =>
      apply Follows.last
      rw [apiLibrarySearch_eq lower ilike hmac floatIsVersion signingKey tables ownerId hq sort
        limit hafter, searchPage, order.searchLibrary_eq, hpage]
      rfl
  | next hpage hlast hrest ih =>
      rename_i after items last pages
      have hmem : last ∈ matchingHits lower ilike tables ownerId (stripQuery q) sort := by
        have hitems : last ∈ items := List.mem_of_getLast? hlast
        have htake : List.take limit _ = items := congrArg Prod.fst hpage
        rw [← htake] at hitems
        exact (order.remaining_sublist _ after).subset (List.mem_of_mem_take hitems)
      apply Follows.next _ (ih ?_)
      · rw [apiLibrarySearch_eq lower ilike hmac floatIsVersion signingKey tables ownerId hq sort
          limit hafter, searchPage, order.searchLibrary_eq, hpage]
        simp only [if_true, hlast]
      · rintro hit ⟨⟩
        exact id_ne_empty lower ilike tables ownerId (stripQuery q) sort hmem

theorem matching_matchingHits (q : String) (sort : LibrarySort) :
    Matching ilike tables ownerId q sort lower
      (matchingHits lower ilike tables ownerId q sort) where
  album album := by
    simp [mem_matchingHits, matchingAlbumRows]
  song song := by
    simp [mem_matchingHits, matchingSongRows]
  once := by
    apply nodup_merge
    · exact nodup_identity albumModel_shows lower sort (nodup_matchingAlbumRows ..)
    · exact nodup_identity songModel_shows lower sort (nodup_matchingSongRows ..)
    · intro album halbum song hsong
      exact hitType_ne halbum hsong
  ordered := by
    have hsorted := (SearchOrder.ofSort lower sort).sorted_matchingHits ilike tables ownerId q
    refine hsorted.imp ?_
    intro left right hlt
    rw [(SearchOrder.ofSort lower sort).hitBefore_eq]
    exact decide_eq_true hlt

/-- The cursors of a search lead through all its hits, in order and each once. -/
theorem librarySearch_follows {q : String} (hq : stripQuery q ≠ "") (sort : LibrarySort)
    {limit : Nat}
    (hlimit : 1 ≤ limit) :
    ∃ pages, Follows (apiLibrarySearch lower ilike hmac floatIsVersion signingKey tables ownerId q
        sort limit) none pages ∧
      Matching ilike tables ownerId (stripQuery q) sort lower pages.flatten := by
  have hsorted := (SearchOrder.ofSort lower sort).sorted_matchingHits ilike tables ownerId
    (stripQuery q)
  obtain ⟨pages, hpages, hflatten⟩ := Keyset.exists_pages hsorted hlimit
  refine ⟨pages, ?_, ?_⟩
  · have hnone : ∀ hit ∈ (none : Option Hit), hit.id ≠ "" := fun _ hhit => nomatch hhit
    exact follows_of_pages lower ilike hmac floatIsVersion signingKey tables ownerId hq
      (SearchOrder.ofSort lower sort) hnone hpages
  · rw [hflatten]
    exact matching_matchingHits ..

end Endpoint

theorem librarySearch_follows_ties :
    let noon : Datetime := ⟨⟨2024, 2, 29, 12, 0, 0, 0, some 0⟩, by decide⟩
    let tables : Tables :=
      { albums := [⟨"a", "lake", some "ana", noon, false⟩]
        songs := [⟨"s", "lake", "a", noon⟩, ⟨"t", "lake", "a", noon⟩]
        albumIds := by decide
        songIds := by decide
        albumIdsNonempty := by simp
        songIdsNonempty := by simp }
    let ilike : String → String → Bool := fun pattern title => pattern = "%" ++ title ++ "%"
    ∃ pages, Follows (apiLibrarySearch id ilike (fun _ _ => Vector.replicate 32 0)
        (fun _ => false) [] tables (some "ana") " lake " .newest 1) none pages ∧
      Matching ilike tables (some "ana") (stripQuery " lake ") .newest id pages.flatten := by
  intro noon tables ilike
  exact librarySearch_follows id ilike (fun _ _ => Vector.replicate 32 0) (fun _ => false) []
    tables (some "ana") (by decide +kernel) .newest (le_refl 1)

end Songmaker.Library
