import Songmaker.Sharing.SharePlayback

namespace Songmaker.Sharing.SharePlayback

open Songmaker.Foundation

variable {s : State} {track : SharedTrack} {place : StreamTrack} {session : ShareSession}

/-- The rows of the page, which every request of this tenure names. -/
structure Rows (s : State) : Prop where
  base : ∃ collection, s.collection = some collection ∧
    s.baseTracks = playableTracks collection.tracks
  order : s.playOrder.Perm s.baseTracks
  requested : ∀ request ∈ s.requests, request.tenure = s.heldTenure →
    request.track ∈ s.baseTracks

/-- The page shows the track whose audio it plays. -/
structure Shows (s : State) : Prop where
  classic : s.mode = .classic → s.session = none
  streaming : s.mode = .stream → s.shuffle = false ∧ s.playedKey ≠ none
  entry : s.currentTrack.map SharedTrack.key = s.playedKey

/-- What is shown, played and asked for belong together. -/
structure Follows (s : State) : Prop where
  rows : Rows s
  shows : Shows s
  asked : ∀ key ∈ s.asked, s.playedKey = some key ∨ s.coming = true

theorem coming_iff : s.coming = true ↔
    ∃ request ∈ s.requests, request.tenure = s.heldTenure ∧
      s.asked = some request.track.key := by
  rw [State.coming, List.any_eq_true]
  constructor
  · rintro ⟨request, hmem, hcoming⟩
    obtain ⟨htenure, hasked⟩ := Bool.and_eq_true_iff.mp hcoming
    exact ⟨request, hmem, beq_iff_eq.mp htenure, beq_iff_eq.mp hasked⟩
  · rintro ⟨request, hmem, htenure, hasked⟩
    exact ⟨request, hmem, Bool.and_eq_true_iff.mpr
      ⟨beq_iff_eq.mpr htenure, beq_iff_eq.mpr hasked⟩⟩

theorem Follows.right (h : Follows s) : Right s where
  asked hnone key hkey := by
    cases h.asked key hkey with
    | inl hplayed => exact hplayed
    | inr hcoming =>
        obtain ⟨request, hmem, htenure, -⟩ := coming_iff.mp hcoming
        exact absurd htenure (hnone request hmem)
  stream _ hstream := (h.shows.streaming hstream).1
  entry := h.shows.entry

section RowLookup

variable {rows : List SharedTrack} {key : String}

theorem rowOf_of_mem (hkey : key ∈ rows.map SharedTrack.key) :
    ∃ index row, rowOf rows key = some index ∧ rows[index]? = some row ∧ row.key = key := by
  obtain ⟨row, hrow, hsame⟩ := List.mem_map.mp hkey
  have hsome : (rowOf rows key).isSome := by
    rw [rowOf, List.findIdx?_isSome]
    exact List.any_eq_true.mpr ⟨row, hrow, beq_iff_eq.mpr hsame⟩
  obtain ⟨index, hindex⟩ := Option.isSome_iff_exists.mp hsome
  have hfound := List.of_findIdx?_eq_some hindex
  cases hat : rows[index]? with
  | none =>
      rw [hat] at hfound
      exact absurd hfound Bool.false_ne_true
  | some found =>
      rw [hat] at hfound
      exact ⟨index, found, hindex, hat, beq_iff_eq.mp hfound⟩

theorem shown_of_row (hkey : key ∈ s.playOrder.map SharedTrack.key)
    (hactive : s.activeIndex = rowOf s.playOrder key) :
    s.currentTrack.map SharedTrack.key = some key := by
  obtain ⟨index, row, hrow, hat, hsame⟩ := rowOf_of_mem hkey
  rw [State.currentTrack, hactive, hrow, Option.bind_some, hat, Option.map_some, hsame]

end RowLookup

theorem mem_playableTracks {tracks : List SharedTrack} :
    track ∈ playableTracks tracks ↔ track ∈ tracks ∧ track.audioUrl ≠ none := by
  rw [playableTracks, List.mem_filter, Option.isSome_iff_ne_none]

theorem Rows.playable (h : Rows s) (htrack : track ∈ s.baseTracks) : track.audioUrl ≠ none := by
  obtain ⟨collection, -, hbase⟩ := h.base
  exact (mem_playableTracks.mp (hbase ▸ htrack)).2

theorem Rows.isNone (h : Rows s) : s.collection.isNone = false := by
  obtain ⟨collection, hcollection, -⟩ := h.base
  rw [hcollection, Option.isNone_some]

theorem Rows.key_mem (h : Rows s) (htrack : track ∈ s.baseTracks) :
    track.key ∈ s.playOrder.map SharedTrack.key :=
  List.mem_map_of_mem (h.order.mem_iff.mpr htrack)

theorem Rows.loadUrl (h : Rows s) (htrack : track ∈ s.baseTracks)
    (hasked : ∀ key ∈ s.asked, key = track.key ∨ s.coming = true) : Follows (s.loadUrl track) where
  rows := ⟨h.base, h.order, h.requested⟩
  shows :=
    { classic := fun _ => rfl
      streaming := fun hstream => PlaybackMode.noConfusion hstream
      entry := shown_of_row (s := s.loadUrl track) (h.key_mem htrack) rfl }
  asked key hkey := by
    cases hasked key hkey with
    | inl hsame => exact Or.inl (congrArg some hsame.symm)
    | inr hcoming => exact Or.inr hcoming

theorem Named.shows (h : Named s place) (hmode : s.mode = .stream)
    (hsession : s.session = some session) (hactive : session.activeTrack = some place)
    (hshuffle : s.shuffle = false) :
    Shows (s.setCurrent (some place.generationId)) ∧
      (s.setCurrent (some place.generationId)).playedKey = streamKeyOf s.collection place := by
  obtain ⟨manifest, hmanifest, key, hkey, hfirst, hnonempty, hrow⟩ := h
  have hplayed : (s.setCurrent (some place.generationId)).playedKey =
      streamKeyOf s.collection place := by
    have hset : (s.setCurrent (some place.generationId)).session = some session := hsession
    rw [State.playedKey, hset]
    dsimp only
    rw [hactive]
    rfl
  have hlocated : s.locateActiveIndex (some place.generationId) = rowOf s.playOrder key := by
    unfold State.locateActiveIndex
    rw [hmode, Option.mem_def.mp hmanifest]
    dsimp only
    rw [hfirst]
    exact if_neg hnonempty
  refine ⟨⟨?_, ?_, ?_⟩, hplayed⟩
  · exact fun hclassic => PlaybackMode.noConfusion (hmode.symm.trans hclassic)
  · intro _
    refine ⟨hshuffle, ?_⟩
    rw [hplayed, hkey]
    exact Option.some_ne_none key
  · rw [hplayed, hkey]
    exact shown_of_row (s := s.setCurrent (some place.generationId)) hrow hlocated

theorem Rows.loadStream (h : Rows s) {manifest : StreamManifest} {index : Nat}
    (hplace : manifest.tracks[index]? = some place) (hnamed : Named s place)
    (hshuffle : s.shuffle = false)
    (hasked : ∀ key ∈ s.asked, streamKeyOf s.collection place = some key ∨ s.coming = true) :
    Follows (s.loadStream manifest index) := by
  have hindex : min index (manifest.tracks.length - 1) = index := by
    obtain ⟨hlt, -⟩ := List.getElem?_eq_some_iff.mp hplace
    exact Nat.min_eq_left (Nat.le_sub_one_of_lt hlt)
  rw [State.loadStream, hindex, hplace]
  obtain ⟨hshows, hplayed⟩ := Named.shows
    (s := { s with mode := .stream, session := some ⟨manifest, index⟩ }) hnamed rfl rfl hplace
    hshuffle
  refine ⟨⟨h.base, h.order, h.requested⟩, hshows, ?_⟩
  intro key hkey
  cases hasked key hkey with
  | inl hsame => exact Or.inl (hplayed.trans hsame)
  | inr hcoming => exact Or.inr hcoming

theorem Rows.playTrack (h : Rows s) {now : Nat} (hheld : Held s)
    (hshows : s.canUseStream = true → Shows s) (htrack : track ∈ s.baseTracks)
    (hasked : ∀ key ∈ s.asked, key = track.key ∨ s.coming = true) :
    Follows (s.playTrack track now) := by
  have hplays : ¬ (track.audioUrl = none ∨ s.collection.isNone = true) := by
    rintro (hsilent | hnone)
    · exact h.playable htrack hsilent
    · rw [h.isNone] at hnone
      exact Bool.false_ne_true hnone
  unfold State.playTrack
  rw [show s.tenure = some s.heldTenure from hheld]
  change Follows (if _ then _ else _)
  rw [if_neg hplays]
  split
  · rename_i hstream
    obtain ⟨hclassic, hstreaming, hentry⟩ := hshows hstream
    refine ⟨⟨h.base, h.order, ?_⟩, ⟨hclassic, hstreaming, hentry⟩, ?_⟩
    · intro request hmem htenure
      cases List.mem_append.mp hmem with
      | inl hold => exact h.requested request hold htenure
      | inr hnew =>
          obtain rfl := List.mem_singleton.mp hnew
          exact htrack
    · intro key hkey
      refine Or.inr (coming_iff.mpr ?_)
      cases hasked key hkey with
      | inl hsame =>
          exact ⟨_, List.mem_append_right _ List.mem_cons_self, rfl, hsame ▸ hkey⟩
      | inr hcoming =>
          obtain ⟨request, hmem, htenure, hwaits⟩ := coming_iff.mp hcoming
          exact ⟨request, List.mem_append_left _ hmem, htenure, hwaits⟩
  · rw [if_pos rfl]
    exact Rows.loadUrl (s := { s with tenure := some s.heldTenure, ended := false })
      ⟨h.base, h.order, h.requested⟩ htrack hasked

theorem Rows.reach (h : Rows s) (hshows : Shows s) {key : Option String}
    (hplayed : s.playedKey = key) : Follows (s.reach key) := by
  refine ⟨⟨h.base, h.order, h.requested⟩,
    ⟨hshows.classic, hshows.streaming, hshows.entry⟩, ?_⟩
  intro asked hasked
  change asked ∈ (if s.coming then s.asked else key) at hasked
  by_cases hcoming : s.coming = true
  · refine Or.inr (coming_iff.mpr ?_)
    obtain ⟨request, hmem, htenure, hwaits⟩ := coming_iff.mp hcoming
    refine ⟨request, hmem, htenure, ?_⟩
    change (if s.coming then s.asked else key) = _
    rw [if_pos hcoming]
    exact hwaits
  · rw [if_neg hcoming] at hasked
    exact Or.inl (hplayed.trans hasked)

end Songmaker.Sharing.SharePlayback
