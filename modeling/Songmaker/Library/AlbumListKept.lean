import Mathlib.Data.List.Nodup
import Songmaker.Library.AlbumList

/-!
What every call keeps of the album list: each id once, what was created here,
nothing that was removed here, and a re-read to come as long as an album may be
listed that was deleted elsewhere before the last reported gap.
-/

namespace Songmaker.Library.AlbumList

open Songmaker.Foundation

section Lists

variable {albums current fresh : List Album} {album : Album} {id : String}

theorem mem_ids : id ∈ ids albums ↔ ∃ album ∈ albums, album.id = id :=
  List.mem_map

theorem ids_append (albums others : List Album) :
    ids (albums ++ others) = ids albums ++ ids others :=
  List.map_append

theorem mem_ids_append : id ∈ ids (current ++ fresh) ↔ id ∈ ids current ∨ id ∈ ids fresh := by
  rw [ids_append]
  exact List.mem_append

theorem ids_filter (keep : String → Bool) (albums : List Album) :
    ids (albums.filter fun album => keep album.id) = (ids albums).filter keep := by
  induction albums with
  | nil => rfl
  | cons album rest ih =>
      rw [List.filter_cons]
      unfold ids at ih ⊢
      rw [List.map_cons, List.filter_cons]
      split
      · rw [List.map_cons, ih]
      · exact ih

theorem mem_ids_filter (keep : String → Bool) :
    id ∈ ids (albums.filter fun album => keep album.id) ↔ id ∈ ids albums ∧ keep id = true := by
  rw [ids_filter]
  exact List.mem_filter

theorem nodup_ids_filter (keep : String → Bool) (halbums : (ids albums).Nodup) :
    (ids (albums.filter fun album => keep album.id)).Nodup := by
  rw [ids_filter]
  exact halbums.filter keep

theorem mem_ids_fresh :
    id ∈ ids (fresh.filter fun album => album.id ∉ ids current) ↔
      id ∈ ids fresh ∧ id ∉ ids current := by
  rw [mem_ids_filter fun id => decide (id ∉ ids current)]
  exact and_congr_right fun _ => decide_eq_true_iff

theorem ids_refreshed (current fresh : List Album) :
    ids (current.map fun album =>
      ((fresh.reverse.find? fun other => other.id == album.id).getD album)) = ids current := by
  unfold ids
  rw [List.map_map]
  apply List.map_congr_left
  intro album halbum
  change ((fresh.reverse.find? fun other => other.id == album.id).getD album).id = album.id
  cases hfound : fresh.reverse.find? fun other => other.id == album.id with
  | none => rfl
  | some other =>
      have hsame := List.find?_some hfound
      exact beq_iff_eq.mp hsame

theorem mem_ids_refreshAlbums :
    id ∈ ids (refreshAlbums current fresh) ↔ id ∈ ids current ∨ id ∈ ids fresh := by
  rw [refreshAlbums, mem_ids_append, mem_ids_fresh, ids_refreshed]
  constructor
  · rintro (⟨hfresh, -⟩ | hcurrent)
    · exact Or.inr hfresh
    · exact Or.inl hcurrent
  · intro hid
    by_cases hcurrent : id ∈ ids current
    · exact Or.inr hcurrent
    · exact Or.inl ⟨hid.resolve_left hcurrent, hcurrent⟩

theorem nodup_refreshAlbums (hcurrent : (ids current).Nodup) (hfresh : (ids fresh).Nodup) :
    (ids (refreshAlbums current fresh)).Nodup := by
  rw [refreshAlbums, ids_append, ids_refreshed]
  apply List.Nodup.append
  · exact nodup_ids_filter (fun id => decide (id ∉ ids current)) hfresh
  · exact hcurrent
  · intro id hnew hold
    exact (mem_ids_fresh.mp hnew).2 hold

theorem mem_ids_mergeFetchedAlbums :
    id ∈ ids (mergeFetchedAlbums current fresh) ↔ id ∈ ids current ∨ id ∈ ids fresh := by
  rw [mergeFetchedAlbums, mem_ids_append, mem_ids_fresh]
  constructor
  · rintro (hcurrent | ⟨hfresh, -⟩)
    · exact Or.inl hcurrent
    · exact Or.inr hfresh
  · intro hid
    by_cases hcurrent : id ∈ ids current
    · exact Or.inl hcurrent
    · exact Or.inr ⟨hid.resolve_left hcurrent, hcurrent⟩

theorem nodup_mergeFetchedAlbums (hcurrent : (ids current).Nodup)
    (hfresh : (ids (fresh.filter fun album => album.id ∉ ids current)).Nodup) :
    (ids (mergeFetchedAlbums current fresh)).Nodup := by
  rw [mergeFetchedAlbums, ids_append]
  apply List.Nodup.append hcurrent hfresh
  intro id hold hnew
  exact (mem_ids_fresh.mp hnew).2 hold

theorem mem_ids_dedupeById (seen : List String) (albums : List Album) :
    id ∈ ids (dedupeById seen albums) ↔ id ∈ ids albums ∧ id ∉ seen := by
  induction albums generalizing seen with
  | nil => exact ⟨fun hid => absurd hid List.not_mem_nil, fun hid => absurd hid.1 List.not_mem_nil⟩
  | cons album rest ih =>
      rw [dedupeById]
      split
      · rename_i hseen
        rw [ih]
        constructor
        · rintro ⟨hrest, hnew⟩
          exact ⟨List.mem_cons_of_mem _ hrest, hnew⟩
        · rintro ⟨hid, hnew⟩
          refine ⟨(List.mem_cons.mp hid).resolve_left ?_, hnew⟩
          rintro rfl
          exact hnew hseen
      · rename_i hseen
        change id ∈ album.id :: ids (dedupeById (album.id :: seen) rest) ↔
          id ∈ album.id :: ids rest ∧ id ∉ seen
        rw [List.mem_cons, ih, List.mem_cons, List.mem_cons, not_or]
        constructor
        · rintro (rfl | ⟨hrest, hother, hnew⟩)
          · exact ⟨Or.inl rfl, hseen⟩
          · exact ⟨Or.inr hrest, hnew⟩
        · rintro ⟨hid, hnew⟩
          by_cases hsame : id = album.id
          · exact Or.inl hsame
          · exact Or.inr ⟨hid.resolve_left hsame, hsame, hnew⟩

theorem nodup_dedupeById (seen : List String) (albums : List Album) :
    (ids (dedupeById seen albums)).Nodup := by
  induction albums generalizing seen with
  | nil => exact List.nodup_nil
  | cons album rest ih =>
      rw [dedupeById]
      split
      · exact ih seen
      · refine List.nodup_cons.mpr ⟨fun hid => ?_, ih _⟩
        exact ((mem_ids_dedupeById (album.id :: seen) rest).mp hid).2 List.mem_cons_self

variable (localeCompare : String → String → Ordering)

theorem ids_addAlbumToList_perm (hnew : album.id ∉ ids current) :
    (ids (addAlbumToList localeCompare album current)).Perm (ids current ++ [album.id]) := by
  rw [addAlbumToList, if_neg hnew]
  exact (ids_append current [album]) ▸ (List.mergeSort_perm _ _).map Album.id

theorem mem_ids_addAlbumToList :
    id ∈ ids (addAlbumToList localeCompare album current) ↔ id ∈ ids current ∨ id = album.id := by
  by_cases hlisted : album.id ∈ ids current
  · rw [addAlbumToList, if_pos hlisted]
    constructor
    · exact Or.inl
    · rintro (hid | rfl)
      · exact hid
      · exact hlisted
  · rw [(ids_addAlbumToList_perm localeCompare hlisted).mem_iff, List.mem_append,
      List.mem_singleton]

theorem nodup_addAlbumToList (hcurrent : (ids current).Nodup) :
    (ids (addAlbumToList localeCompare album current)).Nodup := by
  by_cases hlisted : album.id ∈ ids current
  · rw [addAlbumToList, if_pos hlisted]
    exact hcurrent
  · rw [(ids_addAlbumToList_perm localeCompare hlisted).nodup_iff]
    apply hcurrent.append (List.nodup_singleton _)
    intro id hid hsingle
    exact hlisted (List.mem_singleton.mp hsingle ▸ hid)

theorem mem_ids_pageOf {listing : List Album} {offset : Nat}
    (hid : id ∈ ids (pageOf listing offset).items) : id ∈ ids listing := by
  obtain ⟨album, halbum, rfl⟩ := mem_ids.mp hid
  exact mem_ids.mpr ⟨album, List.mem_of_mem_drop (List.mem_of_mem_take halbum), rfl⟩

theorem nodup_pageOf {listing : List Album} (hlisting : (ids listing).Nodup) (offset : Nat) :
    (ids (pageOf listing offset).items).Nodup := by
  have hsub : List.Sublist ((listing.drop offset).take libraryAlbumPageSize) listing :=
    (List.take_sublist _ _).trans (List.drop_sublist _ _)
  exact hlisting.sublist (hsub.map Album.id)

end Lists

section CleanLists

variable {s : State} {gaps earlier : Nat} {albums others : List Album}

theorem CleanOf.mono (h : CleanOf s gaps albums) (hle : earlier ≤ gaps) :
    CleanOf s earlier albums :=
  fun id hid time htime => Nat.le_trans hle (h id hid time htime)

theorem CleanOf.of_subset (h : CleanOf s gaps albums)
    (hsub : ∀ id ∈ ids others, id ∈ ids albums) : CleanOf s gaps others :=
  fun id hid => h id (hsub id hid)

theorem CleanOf.of_union {both : List Album} (h : CleanOf s gaps albums)
    (hothers : CleanOf s gaps others)
    (hboth : ∀ id ∈ ids both, id ∈ ids albums ∨ id ∈ ids others) : CleanOf s gaps both := by
  intro id hid
  cases hboth id hid with
  | inl hmem => exact h id hmem
  | inr hmem => exact hothers id hmem

end CleanLists

/-- What the reads under way and the list know of the changes made here. -/
structure Kept (s : State) : Prop where
  server : (ids s.server).Nodup
  once : (ids s.albumList).Nodup
  created : ∀ id ∈ s.created, id ∈ ids s.albumList
  removed : ∀ id ∈ s.removed, id ∉ ids s.albumList
  stamped : ∀ id, ∀ time ∈ s.deletedElsewhere id, time ≤ s.gaps ∧ id ∉ ids s.server
  read : ∀ load ∈ s.allAlbumsInflight, load.gaps ≤ s.gaps ∧ CleanOf s load.gaps load.read
  pages : ∀ request ∈ s.browse, ∀ page ∈ request.answer, (ids page.items).Nodup
  loading : s.allAlbumsInflight ≠ none → s.allAlbumsLoad ≠ .idle
  begun : ∀ load ∈ s.allAlbumsInflight, load.gaps = s.gaps ∨ 0 < s.waiting
  replaces : ∀ load ∈ s.allAlbumsInflight, load.replaces = s.replaceOwed
  caughtUp : s.caughtUp ≤ s.gaps
  failed : s.allAlbumsInflight = none → s.replaceOwed = true → s.caughtUp = 0
  owes : CleanOf s s.gaps s.albumList ∨ s.OwesReread

variable {s : State}

theorem Kept.right (h : Kept s) (hsettled : Settled s) : Right s := by
  obtain ⟨hinflight, hwaiting, hreleased, -⟩ := hsettled
  refine ⟨h.once, h.created, h.removed, ?_⟩
  rcases h.owes with hclean | howed | hwaits | hgoesOn
  · exact hclean.mono h.caughtUp
  · rw [h.failed hinflight howed]
    exact fun _ _ _ _ => Nat.zero_le _
  · exact absurd hwaiting (Nat.ne_of_gt hwaits)
  · exact absurd hreleased (Nat.ne_of_gt hgoesOn)

namespace Kept

/-- Another list stands, with what was created, removed and deleted elsewhere as it was. -/
theorem of_list {list : List Album} {offset : Nat} (h : Kept s)
    (honce : (ids list).Nodup) (hcreated : ∀ id ∈ s.created, id ∈ ids list)
    (hremoved : ∀ id ∈ s.removed, id ∉ ids list) (howes : CleanOf s s.gaps list ∨ s.OwesReread) :
    Kept { s with albumList := list, albumOffset := offset } :=
  ⟨h.server, honce, hcreated, hremoved, h.stamped, h.read, h.pages, h.loading, h.begun, h.replaces,
    h.caughtUp, h.failed, howes⟩

theorem loadAllAlbums (h : Kept s) (replace : Bool) : Kept (s.loadAllAlbums replace) := by
  rw [State.loadAllAlbums]
  split
  · exact h
  · rename_i hnone
    have hinflight : s.allAlbumsInflight = none := by
      rw [Option.isSome_iff_ne_none, not_not] at hnone
      exact hnone
    refine ⟨h.server, h.once, h.created, h.removed, h.stamped, ?_, h.pages, ?_, ?_, ?_, h.caughtUp,
      ?_, ?_⟩
    · rintro load hload
      obtain rfl := Option.some.inj hload
      exact ⟨Nat.le_refl _, fun id hid => absurd hid List.not_mem_nil⟩
    · exact fun _ hidle => LoadStatus.noConfusion hidle
    · rintro load hload
      obtain rfl := Option.some.inj hload
      exact Or.inl rfl
    · rintro load hload
      obtain rfl := Option.some.inj hload
      rfl
    · exact fun hsome => absurd hsome (Option.some_ne_none _)
    · rcases h.owes with hclean | howed | hwaits | hgoesOn
      · exact Or.inl hclean
      · exact Or.inr (Or.inl (by rw [howed, Bool.true_or]))
      · exact Or.inr (Or.inr (Or.inl hwaits))
      · exact Or.inr (Or.inr (Or.inr hgoesOn))

theorem rereadAllAlbums (h : Kept s) (hsound : Sound s .rereadAllAlbums) :
    Kept s.rereadAllAlbums := by
  have hstamped : ∀ id, ∀ time ∈ s.deletedElsewhere id,
      time ≤ s.gaps + 1 ∧ id ∉ ids s.server := fun id time htime =>
    ⟨Nat.le_succ_of_le (h.stamped id time htime).1, (h.stamped id time htime).2⟩
  have hread : ∀ load ∈ s.allAlbumsInflight,
      load.gaps ≤ s.gaps + 1 ∧ CleanOf s load.gaps load.read := fun load hload =>
    ⟨Nat.le_succ_of_le (h.read load hload).1, (h.read load hload).2⟩
  rw [State.rereadAllAlbums]
  split
  · rename_i hidle
    have hnone : s.allAlbumsInflight = none := by
      by_contra hsome
      exact h.loading hsome hidle
    refine ⟨h.server, h.once, h.created, h.removed, hstamped, hread, h.pages, h.loading, ?_,
      h.replaces, Nat.le_succ_of_le h.caughtUp, h.failed, Or.inl ?_⟩
    · intro load hload
      exact absurd (hnone ▸ hload) (Option.not_mem_none load)
    · intro id hid time htime
      exact absurd (hsound hidle id hid ▸ htime) (Option.not_mem_none time)
  · rename_i hasked
    split
    · refine ⟨h.server, h.once, h.created, h.removed, hstamped, hread, h.pages, h.loading, ?_,
        h.replaces, Nat.le_succ_of_le h.caughtUp, h.failed, ?_⟩
      · exact fun load hload => Or.inr (Nat.succ_pos _)
      · exact Or.inr (Or.inr (Or.inl (Nat.succ_pos _)))
    · rename_i hnone
      rw [State.loadAllAlbums, if_neg hnone]
      refine ⟨h.server, h.once, h.created, h.removed, hstamped, ?_, h.pages, ?_, ?_, ?_,
        Nat.le_succ_of_le h.caughtUp, ?_, ?_⟩
      · rintro load hload
        obtain rfl := Option.some.inj hload
        exact ⟨Nat.le_refl _, fun id hid => absurd hid List.not_mem_nil⟩
      · exact fun _ hidle => LoadStatus.noConfusion hidle
      · rintro load hload
        obtain rfl := Option.some.inj hload
        exact Or.inl rfl
      · rintro load hload
        obtain rfl := Option.some.inj hload
        rfl
      · exact fun hsome => absurd hsome (Option.some_ne_none _)
      · exact Or.inr (Or.inl (Bool.or_true _))

theorem rereadGoesOn (h : Kept s) (hsound : Sound s .rereadGoesOn) : Kept s.rereadGoesOn := by
  rw [State.rereadGoesOn, State.loadAllAlbums]
  split
  · rename_i hsome
    obtain ⟨load, hload⟩ := Option.isSome_iff_exists.mp hsome
    refine ⟨h.server, h.once, h.created, h.removed, h.stamped, h.read, h.pages, h.loading, h.begun,
      h.replaces, h.caughtUp, h.failed, ?_⟩
    cases hsound load hload with
    | inl hreplaces => exact Or.inr (Or.inl ((h.replaces load hload).symm.trans hreplaces))
    | inr hclean => exact Or.inl hclean
  · refine ⟨h.server, h.once, h.created, h.removed, h.stamped, ?_, h.pages, ?_, ?_, ?_, h.caughtUp,
      ?_, Or.inr (Or.inl (Bool.or_true _))⟩
    · rintro load hload
      obtain rfl := Option.some.inj hload
      exact ⟨Nat.le_refl _, fun id hid => absurd hid List.not_mem_nil⟩
    · exact fun _ hidle => LoadStatus.noConfusion hidle
    · rintro load hload
      obtain rfl := Option.some.inj hload
      exact Or.inl rfl
    · rintro load hload
      obtain rfl := Option.some.inj hload
      rfl
    · exact fun hsome => absurd hsome (Option.some_ne_none _)

theorem failFull (h : Kept s) (network : Bool) : Kept (s.failFull network) := by
  refine ⟨h.server, h.once, h.created, h.removed, h.stamped, ?_, h.pages, ?_, ?_, ?_,
    Nat.zero_le _, fun _ _ => rfl, ?_⟩
  · exact fun load hload => absurd hload (Option.not_mem_none load)
  · exact fun hsome => absurd rfl hsome
  · exact fun load hload => absurd hload (Option.not_mem_none load)
  · exact fun load hload => absurd hload (Option.not_mem_none load)
  · rcases h.owes with hclean | howed | hwaits | hgoesOn
    · exact Or.inl hclean
    · exact Or.inr (Or.inl howed)
    · exact Or.inr (Or.inr (Or.inr (Nat.lt_of_lt_of_le hwaits (Nat.le_add_left _ _))))
    · exact Or.inr (Or.inr (Or.inr (Nat.lt_of_lt_of_le hgoesOn (Nat.le_add_right _ _))))

theorem mem_ids_combine {replaces : Bool} {current fetched : List Album} {id : String}
    (hid : id ∈ ids (State.combine replaces current fetched)) :
    id ∈ ids fetched ∨ (replaces = false ∧ id ∈ ids current) := by
  cases replaces with
  | true => exact Or.inl hid
  | false =>
      cases mem_ids_mergeFetchedAlbums.mp hid with
      | inl hcurrent => exact Or.inr ⟨rfl, hcurrent⟩
      | inr hfetched => exact Or.inl hfetched

theorem settleFull (h : Kept s) {load : FullLoad} {collected : List Album}
    (hload : s.allAlbumsInflight = some load) (hclean : CleanOf s load.gaps collected)
    (hsound : SoundLoad s load collected) : Kept (s.settleFull load collected) := by
  obtain ⟨hnotRemoved, hcontents⟩ := hsound
  have hnodup : (ids (State.combine load.replaces s.albumList collected)).Nodup := by
    cases hreplaces : load.replaces with
    | true =>
        rw [if_pos hreplaces] at hcontents
        exact hcontents.1
    | false =>
        rw [if_neg (Bool.eq_false_iff.mp hreplaces)] at hcontents
        exact nodup_mergeFetchedAlbums h.once hcontents
  have hcreated : ∀ id ∈ s.created,
      id ∈ ids (State.combine load.replaces s.albumList collected) := by
    intro id hid
    cases hreplaces : load.replaces with
    | true =>
        rw [if_pos hreplaces] at hcontents
        exact hcontents.2 id hid
    | false => exact mem_ids_mergeFetchedAlbums.mpr (Or.inl (h.created id hid))
  refine ⟨h.server, hnodup, hcreated, ?_, h.stamped, ?_, h.pages, ?_, ?_, ?_, (h.read load hload).1,
    ?_, ?_⟩
  · intro id hremoved hid
    cases mem_ids_combine hid with
    | inl hfetched => exact hnotRemoved id hfetched hremoved
    | inr hcurrent => exact h.removed id hremoved hcurrent.2
  · exact fun load hload => absurd hload (Option.not_mem_none load)
  · exact fun hsome => absurd rfl hsome
  · exact fun load hload => absurd hload (Option.not_mem_none load)
  · exact fun load hload => absurd hload (Option.not_mem_none load)
  · exact fun _ howed => absurd howed Bool.false_ne_true
  · by_cases hgoesOn : 0 < s.released + s.waiting
    · exact Or.inr (Or.inr (Or.inr hgoesOn))
    · have hreleased : ¬ 0 < s.released := fun hpos =>
        hgoesOn (Nat.lt_of_lt_of_le hpos (Nat.le_add_right _ _))
      have hwaiting : ¬ 0 < s.waiting := fun hpos =>
        hgoesOn (Nat.lt_of_lt_of_le hpos (Nat.le_add_left _ _))
      have hgaps : load.gaps = s.gaps := (h.begun load hload).resolve_right hwaiting
      refine Or.inl fun id hid => ?_
      cases mem_ids_combine hid with
      | inl hfetched => exact hgaps ▸ hclean id hfetched
      | inr hcurrent =>
          rcases h.owes with hlist | howed | hwaits | hreleases
          · exact hlist id hcurrent.2
          · rw [← h.replaces load hload, hcurrent.1] at howed
            exact absurd howed Bool.false_ne_true
          · exact absurd hwaits hwaiting
          · exact absurd hreleases hreleased

theorem receivePage (h : Kept s) {load : FullLoad} {page : Page}
    (hload : s.allAlbumsInflight = some load) (hpage : load.answer = some page)
    (hsound : ¬ (page.hasMore = true ∧ page.items ≠ []) →
      SoundLoad s load (load.collected ++ page.items)) : Kept (s.receivePage load page) := by
  have hclean : CleanOf s load.gaps (load.collected ++ page.items) := by
    have hread := (h.read load hload).2
    rw [FullLoad.read, hpage] at hread
    exact hread
  rw [State.receivePage]
  split
  · refine ⟨h.server, h.once, h.created, h.removed, h.stamped, ?_, h.pages, ?_, ?_, ?_, h.caughtUp,
      ?_, h.owes⟩
    · rintro other hother
      obtain rfl := Option.some.inj hother
      refine ⟨(h.read load hload).1, hclean.of_subset fun id hid => ?_⟩
      exact (mem_ids_append.mp hid).resolve_right List.not_mem_nil
    · exact fun _ => h.loading (hload ▸ Option.some_ne_none load)
    · rintro other hother
      obtain rfl := Option.some.inj hother
      exact h.begun load hload
    · rintro other hother
      obtain rfl := Option.some.inj hother
      exact h.replaces load hload
    · exact fun hsome => absurd hsome (Option.some_ne_none _)
  · rename_i hlast
    exact h.settleFull hload hclean (hsound hlast)

theorem fullServed (h : Kept s) {load : FullLoad} {listing : List Album}
    (hload : s.allAlbumsInflight = some load) (hanswer : load.answer = none)
    (hlisting : listing.Perm s.server) :
    Kept { s with
      allAlbumsInflight := some { load with
        answer := some (pageOf listing load.collected.length) } } := by
  refine ⟨h.server, h.once, h.created, h.removed, h.stamped, ?_, h.pages, ?_, ?_, ?_, h.caughtUp,
    ?_, h.owes⟩
  · rintro other hother
    obtain rfl := Option.some.inj hother
    refine ⟨(h.read load hload).1, fun id hid time htime => ?_⟩
    cases mem_ids_append.mp hid with
    | inl hcollected =>
        refine (h.read load hload).2 id ?_ time htime
        rw [FullLoad.read, hanswer]
        exact mem_ids_append.mpr (Or.inl hcollected)
    | inr hpage =>
        have hserver : id ∈ ids s.server :=
          (hlisting.map Album.id).mem_iff.mp (mem_ids_pageOf hpage)
        exact absurd hserver (h.stamped id time htime).2
  · exact fun _ => h.loading (hload ▸ Option.some_ne_none load)
  · rintro other hother
    obtain rfl := Option.some.inj hother
    exact h.begun load hload
  · rintro other hother
    obtain rfl := Option.some.inj hother
    exact h.replaces load hload
  · exact fun hsome => absurd hsome (Option.some_ne_none _)

theorem of_browse {generation : Nat} {requests : List BrowseRequest} (h : Kept s)
    (hpages : ∀ request ∈ requests, ∀ page ∈ request.answer, (ids page.items).Nodup) :
    Kept { s with browseGeneration := generation, browse := requests } :=
  ⟨h.server, h.once, h.created, h.removed, h.stamped, h.read, hpages, h.loading, h.begun,
    h.replaces, h.caughtUp, h.failed, h.owes⟩

theorem loadLibraryBrowse (h : Kept s) (reset : Bool) : Kept (s.loadLibraryBrowse reset) := by
  apply h.of_browse
  intro request hrequest page hpage
  cases List.mem_append.mp hrequest with
  | inl hmem => exact h.pages request hmem page hpage
  | inr hnew =>
      obtain rfl := List.mem_singleton.mp hnew
      exact absurd hpage (Option.not_mem_none page)

theorem receiveBrowse (h : Kept s) {request : BrowseRequest} {page : Page}
    (hnodup : (ids page.items).Nodup)
    (hsound : request.generation = s.browseGeneration →
      Fresh s page.items ∧
        (request.reset = true → s.allAlbumsLoad = .idle →
          ∀ id ∈ s.created, id ∈ ids page.items)) : Kept (s.receiveBrowse request page) := by
  rw [State.receiveBrowse]
  split
  · exact h
  · rename_i hcurrent
    obtain ⟨⟨hnotRemoved, hclean⟩, hidleCreated⟩ := hsound (not_not.mp hcurrent)
    have hunion : ∀ list : List Album,
        (∀ id ∈ ids list, id ∈ ids s.albumList ∨ id ∈ ids page.items) →
          (∀ id ∈ s.removed, id ∉ ids list) ∧ (CleanOf s s.gaps list ∨ s.OwesReread) := by
      intro list hlist
      constructor
      · intro id hremoved hid
        cases hlist id hid with
        | inl hold => exact h.removed id hremoved hold
        | inr hpage => exact hnotRemoved id hpage hremoved
      · cases h.owes with
        | inl hold =>
            cases hclean with
            | inl hpage => exact Or.inl (hold.of_union hpage hlist)
            | inr howes => exact Or.inr howes
        | inr howes => exact Or.inr howes
    cases hreset : request.reset with
    | true =>
        rw [if_pos rfl, State.resetAlbumList]
        by_cases hidle : s.allAlbumsLoad = .idle
        · rw [if_pos hidle]
          obtain ⟨hremoved, howes⟩ := hunion page.items fun id hid => Or.inr hid
          exact h.of_list hnodup (hidleCreated hreset hidle) hremoved howes
        · rw [if_neg hidle]
          obtain ⟨hremoved, howes⟩ := hunion (refreshAlbums s.albumList page.items)
            fun id hid => mem_ids_refreshAlbums.mp hid
          refine h.of_list (nodup_refreshAlbums h.once hnodup) ?_ hremoved howes
          exact fun id hid => mem_ids_refreshAlbums.mpr (Or.inl (h.created id hid))
    | false =>
        rw [if_neg Bool.false_ne_true]
        have hmem : ∀ id, id ∈ ids (dedupeById [] (s.albumList ++ page.items)) ↔
            id ∈ ids s.albumList ∨ id ∈ ids page.items := by
          intro id
          rw [mem_ids_dedupeById, mem_ids_append]
          exact and_iff_left List.not_mem_nil
        obtain ⟨hremoved, howes⟩ := hunion (dedupeById [] (s.albumList ++ page.items))
          fun id hid => (hmem id).mp hid
        refine h.of_list (nodup_dedupeById _ _) ?_ hremoved howes
        exact fun id hid => (hmem id).mpr (Or.inl (h.created id hid))

theorem addAlbumToList (localeCompare : String → String → Ordering) {album : Album} (h : Kept s)
    (hsound : CleanOf s s.gaps [album] ∨ s.OwesReread) :
    Kept { s with
      albumList := AlbumList.addAlbumToList localeCompare album s.albumList
      created := album.id :: s.created
      removed := s.removed.filter fun id => id != album.id } := by
  have hmem : ∀ id, id ∈ ids (AlbumList.addAlbumToList localeCompare album s.albumList) ↔
      id ∈ ids s.albumList ∨ id = album.id := fun id => mem_ids_addAlbumToList localeCompare
  refine ⟨h.server, nodup_addAlbumToList localeCompare h.once, ?_, ?_, h.stamped, h.read, h.pages,
    h.loading, h.begun, h.replaces, h.caughtUp, h.failed, ?_⟩
  · intro id hid
    cases List.mem_cons.mp hid with
    | inl hsame => exact (hmem id).mpr (Or.inr hsame)
    | inr hcreated => exact (hmem id).mpr (Or.inl (h.created id hcreated))
  · intro id hremoved hid
    obtain ⟨hbefore, hother⟩ := List.mem_filter.mp hremoved
    cases (hmem id).mp hid with
    | inl hold => exact h.removed id hbefore hold
    | inr hsame => exact bne_iff_ne.mp hother hsame
  · cases h.owes with
    | inl hold =>
        cases hsound with
        | inl hclean =>
            refine Or.inl (hold.of_union hclean fun id hid => ((hmem id).mp hid).imp_right ?_)
            exact fun hsame => List.mem_singleton.mpr hsame
        | inr howes => exact Or.inr howes
    | inr howes => exact Or.inr howes

theorem removeAlbumFromList (h : Kept s) (albumId : String) :
    Kept { s with
      albumList := AlbumList.removeAlbumFromList albumId s.albumList
      created := s.created.filter fun id => id != albumId
      removed := albumId :: s.removed } := by
  have hmem : ∀ id, id ∈ ids (AlbumList.removeAlbumFromList albumId s.albumList) ↔
      id ∈ ids s.albumList ∧ (id != albumId) = true := fun id =>
    mem_ids_filter fun id => id != albumId
  refine ⟨h.server, nodup_ids_filter (fun id => id != albumId) h.once, ?_, ?_, h.stamped, h.read,
    h.pages, h.loading, h.begun, h.replaces, h.caughtUp, h.failed, ?_⟩
  · intro id hid
    obtain ⟨hcreated, hother⟩ := List.mem_filter.mp hid
    exact (hmem id).mpr ⟨h.created id hcreated, hother⟩
  · intro id hremoved hid
    cases List.mem_cons.mp hremoved with
    | inl hsame => exact bne_iff_ne.mp ((hmem id).mp hid).2 hsame
    | inr hbefore => exact h.removed id hbefore ((hmem id).mp hid).1
  · exact h.owes.imp_left fun hclean => hclean.of_subset fun id hid => ((hmem id).mp hid).1

theorem serverGains {album : Album} (h : Kept s) (hnew : album.id ∉ ids s.server) :
    Kept { s with
      server := album :: s.server
      removed := s.removed.filter fun id => id != album.id
      deletedElsewhere := Function.update s.deletedElsewhere album.id none } := by
  have hdeleted : ∀ id, ∀ time ∈ Function.update s.deletedElsewhere album.id none id,
      time ∈ s.deletedElsewhere id ∧ id ≠ album.id := by
    intro id time htime
    by_cases hsame : id = album.id
    · rw [hsame, Function.update_self] at htime
      exact absurd htime (Option.not_mem_none time)
    · rw [Function.update_of_ne hsame] at htime
      exact ⟨htime, hsame⟩
  refine ⟨List.nodup_cons.mpr ⟨hnew, h.server⟩, h.once, h.created, ?_, ?_, ?_, h.pages, h.loading,
    h.begun, h.replaces, h.caughtUp, h.failed, ?_⟩
  · exact fun id hid => h.removed id (List.mem_filter.mp hid).1
  · intro id time htime
    obtain ⟨hbefore, hother⟩ := hdeleted id time htime
    refine ⟨(h.stamped id time hbefore).1, fun hid => ?_⟩
    exact (List.mem_cons.mp hid).elim hother (h.stamped id time hbefore).2
  · intro load hload
    refine ⟨(h.read load hload).1, fun id hid time htime => ?_⟩
    exact (h.read load hload).2 id hid time (hdeleted id time htime).1
  · exact h.owes.imp_left fun hclean id hid time htime =>
      hclean id hid time (hdeleted id time htime).1

theorem serverLosesHere (h : Kept s) (albumId : String) :
    Kept { s with server := s.server.filter fun album => album.id != albumId } := by
  refine ⟨nodup_ids_filter (fun id => id != albumId) h.server, h.once, h.created, h.removed, ?_,
    h.read, h.pages, h.loading, h.begun, h.replaces, h.caughtUp, h.failed, h.owes⟩
  intro id time htime
  refine ⟨(h.stamped id time htime).1, fun hid => (h.stamped id time htime).2 ?_⟩
  exact ((mem_ids_filter fun id => id != albumId).mp hid).1

theorem serverLosesElsewhere (h : Kept s) (albumId : String) :
    Kept { s with
      server := s.server.filter fun album => album.id != albumId
      created := s.created.filter fun id => id != albumId
      deletedElsewhere := Function.update s.deletedElsewhere albumId (some s.gaps) } := by
  have hdeleted : ∀ id, ∀ time ∈ Function.update s.deletedElsewhere albumId (some s.gaps) id,
      (id = albumId ∧ time = s.gaps) ∨ (id ≠ albumId ∧ time ∈ s.deletedElsewhere id) := by
    intro id time htime
    by_cases hsame : id = albumId
    · rw [hsame, Function.update_self] at htime
      exact Or.inl ⟨hsame, (Option.some.inj htime).symm⟩
    · rw [Function.update_of_ne hsame] at htime
      exact Or.inr ⟨hsame, htime⟩
  have hclean : ∀ gaps albums, gaps ≤ s.gaps → CleanOf s gaps albums →
      ∀ id ∈ ids albums, ∀ time ∈ Function.update s.deletedElsewhere albumId (some s.gaps) id,
        gaps ≤ time := by
    intro gaps albums hle hbefore id hid time htime
    rcases hdeleted id time htime with ⟨-, rfl⟩ | ⟨-, hold⟩
    · exact hle
    · exact hbefore id hid time hold
  refine ⟨nodup_ids_filter (fun id => id != albumId) h.server, h.once, ?_, h.removed, ?_, ?_,
    h.pages, h.loading, h.begun, h.replaces, h.caughtUp, h.failed, ?_⟩
  · exact fun id hid => h.created id (List.mem_filter.mp hid).1
  · intro id time htime
    have hserver : id ∈ ids (s.server.filter fun album => album.id != albumId) →
        id ∈ ids s.server ∧ id ≠ albumId := fun hid =>
      ⟨((mem_ids_filter fun id => id != albumId).mp hid).1,
        bne_iff_ne.mp ((mem_ids_filter fun id => id != albumId).mp hid).2⟩
    rcases hdeleted id time htime with ⟨rfl, rfl⟩ | ⟨-, hold⟩
    · exact ⟨Nat.le_refl _, fun hid => (hserver hid).2 rfl⟩
    · exact ⟨(h.stamped id time hold).1, fun hid => (h.stamped id time hold).2 (hserver hid).1⟩
  · intro load hload
    obtain ⟨hle, hread⟩ := h.read load hload
    exact ⟨hle, hclean load.gaps load.read hle hread⟩
  · exact h.owes.imp_left fun hlist => hclean s.gaps s.albumList (Nat.le_refl _) hlist

theorem act {localeCompare : String → String → Ordering} {action : Action} {next : State}
    (h : Kept s) (hsound : Sound s action)
    (hact : AlbumList.act localeCompare s action = some next) : Kept next := by
  cases action with
  | ensureAllAlbumsLoaded =>
      obtain rfl := Option.some.inj hact
      rw [State.ensureAllAlbumsLoaded]
      split
      · exact h
      · exact h.loadAllAlbums false
  | rereadAllAlbums =>
      obtain rfl := Option.some.inj hact
      exact h.rereadAllAlbums hsound
  | rereadGoesOn =>
      obtain ⟨-, hnext⟩ := Option.ite_none_left_eq_some.mp hact
      exact Option.some.inj hnext ▸ h.rereadGoesOn hsound
  | reloads =>
      obtain ⟨-, hnext⟩ := Option.ite_none_right_eq_some.mp hact
      have hstopped : Kept { s with reloadPending := false } :=
        ⟨h.server, h.once, h.created, h.removed, h.stamped, h.read, h.pages, h.loading, h.begun,
          h.replaces, h.caughtUp, h.failed, h.owes⟩
      exact Option.some.inj hnext ▸ hstopped.loadAllAlbums false
  | fullServed listing =>
      obtain ⟨load, hload, hserved⟩ := Option.bind_eq_some_iff.mp hact
      obtain ⟨⟨hanswer, hlisting⟩, hnext⟩ := Option.ite_none_right_eq_some.mp hserved
      exact Option.some.inj hnext ▸ h.fullServed hload hanswer hlisting
  | fullArrives =>
      obtain ⟨load, hload, harrives⟩ := Option.bind_eq_some_iff.mp hact
      obtain ⟨page, hpage, hnext⟩ := Option.bind_eq_some_iff.mp harrives
      exact Option.some.inj hnext ▸ h.receivePage hload hpage (hsound load hload page hpage)
  | fullFails network =>
      obtain ⟨load, -, hnext⟩ := Option.map_eq_some_iff.mp hact
      exact hnext ▸ h.failFull network
  | loadLibraryBrowse reset =>
      obtain rfl := Option.some.inj hact
      exact h.loadLibraryBrowse reset
  | browseServed index listing =>
      obtain ⟨request, hrequest, hserved⟩ := Option.bind_eq_some_iff.mp hact
      obtain ⟨⟨-, hlisting⟩, hnext⟩ := Option.ite_none_right_eq_some.mp hserved
      refine Option.some.inj hnext ▸ h.of_browse fun other hother page hpage => ?_
      rcases List.mem_or_eq_of_mem_set hother with hmem | rfl
      · exact h.pages other hmem page hpage
      · obtain rfl := Option.some.inj hpage
        have hnodup : (ids listing).Nodup := (hlisting.map Album.id).nodup_iff.mpr h.server
        exact nodup_pageOf hnodup _
  | browseArrives index =>
      obtain ⟨request, hrequest, harrives⟩ := Option.bind_eq_some_iff.mp hact
      obtain ⟨page, hpage, hnext⟩ := Option.bind_eq_some_iff.mp harrives
      have hleft : Kept { s with browse := s.browse.eraseIdx index } :=
        h.of_browse fun other hother => h.pages other (List.mem_of_mem_eraseIdx hother)
      have hmem : request ∈ s.browse := List.mem_of_getElem? hrequest
      refine Option.some.inj hnext ▸ hleft.receiveBrowse (h.pages request hmem page hpage) ?_
      exact hsound request hrequest page hpage
  | browseFails index =>
      obtain ⟨request, -, hnext⟩ := Option.map_eq_some_iff.mp hact
      exact hnext ▸ h.of_browse fun other hother => h.pages other (List.mem_of_mem_eraseIdx hother)
  | cancelLibraryDataLoads =>
      obtain rfl := Option.some.inj hact
      exact h.of_browse h.pages
  | addAlbumToList album =>
      obtain rfl := Option.some.inj hact
      exact h.addAlbumToList localeCompare hsound
  | removeAlbumFromList albumId =>
      obtain rfl := Option.some.inj hact
      exact h.removeAlbumFromList albumId
  | serverGains album =>
      obtain ⟨hnew, hnext⟩ := Option.ite_none_left_eq_some.mp hact
      exact Option.some.inj hnext ▸ h.serverGains hnew
  | serverLoses albumId elsewhere =>
      cases elsewhere with
      | true => exact Option.some.inj hact ▸ h.serverLosesElsewhere albumId
      | false => exact Option.some.inj hact ▸ h.serverLosesHere albumId

end Kept

theorem kept_of_initial (hs : Initial s) : Kept s where
  server := hs.server
  once := hs.albumList ▸ List.nodup_nil
  created := fun _ hid => absurd (hs.created ▸ hid) List.not_mem_nil
  removed := fun _ hid => absurd (hs.removed ▸ hid) List.not_mem_nil
  stamped := fun id time htime =>
    absurd (hs.deletedElsewhere id ▸ htime) (Option.not_mem_none time)
  read := fun load hload => absurd (hs.inflight ▸ hload) (Option.not_mem_none load)
  pages := fun _ hrequest => absurd (hs.browse ▸ hrequest) List.not_mem_nil
  loading := fun hsome => absurd hs.inflight hsome
  begun := fun load hload => absurd (hs.inflight ▸ hload) (Option.not_mem_none load)
  replaces := fun load hload => absurd (hs.inflight ▸ hload) (Option.not_mem_none load)
  caughtUp := hs.caughtUp ▸ Nat.zero_le _
  failed := fun _ _ => hs.caughtUp
  owes := Or.inl fun _ hid => absurd (hs.albumList ▸ hid) List.not_mem_nil

end Songmaker.Library.AlbumList
