import Mathlib.Data.List.Nodup
import Songmaker.Sharing.PlaybackFollows

namespace Songmaker.Sharing.SharePlayback

open Songmaker.Foundation Songmaker.Foundation.TransitionSystem

variable {s t u : State} {track : SharedTrack} {session : ShareSession} {now : Nat}

/-- The tenures stand, what is asked for meanwhile is asked for in the share's own, and the player
leaves its mode only for another take. -/
structure Grows (s t : State) : Prop where
  tenure : t.tenure = s.tenure
  heldTenure : t.heldTenure = s.heldTenure
  requests : ∀ request ∈ t.requests, request ∈ s.requests ∨ s.tenure = some request.tenure
  rebuilds : ∀ rebuild ∈ t.rebuilds, rebuild ∈ s.rebuilds
  currents : s.currents ≤ t.currents
  mode : t.currents = s.currents → t.mode = s.mode

namespace Grows

theorem refl (s : State) : Grows s s :=
  ⟨rfl, rfl, fun _ hmem => Or.inl hmem, fun _ hmem => hmem, Nat.le_refl _, fun _ => rfl⟩

theorem trans (hst : Grows s t) (htu : Grows t u) : Grows s u where
  tenure := htu.tenure.trans hst.tenure
  heldTenure := htu.heldTenure.trans hst.heldTenure
  requests request hmem := by
    cases htu.requests request hmem with
    | inl hold => exact hst.requests request hold
    | inr hown => exact Or.inr (hst.tenure ▸ hown)
  rebuilds rebuild hmem := hst.rebuilds rebuild (htu.rebuilds rebuild hmem)
  currents := Nat.le_trans hst.currents htu.currents
  mode hsame := by
    have hthere : t.currents = s.currents :=
      Nat.le_antisymm (hsame ▸ htu.currents) hst.currents
    exact (htu.mode (hsame.trans hthere.symm)).trans (hst.mode hthere)

theorem setCurrent (s : State) (current : Option String) : Grows s (s.setCurrent current) :=
  ⟨rfl, rfl, fun _ hmem => Or.inl hmem, fun _ hmem => hmem, Nat.le_succ _,
    fun hsame => absurd hsame (Nat.succ_ne_self _)⟩

theorem loadUrl (s : State) (track : SharedTrack) : Grows s (s.loadUrl track) :=
  ⟨rfl, rfl, fun _ hmem => Or.inl hmem, fun _ hmem => hmem, Nat.le_succ _,
    fun hsame => absurd hsame (Nat.succ_ne_self _)⟩

theorem loadStream (s : State) (manifest : StreamManifest) (index : Nat) :
    Grows s (s.loadStream manifest index) := by
  unfold State.loadStream
  split
  · exact refl s
  · exact ⟨rfl, rfl, fun _ hmem => Or.inl hmem, fun _ hmem => hmem, Nat.le_succ _,
      fun hsame => absurd hsame (Nat.succ_ne_self _)⟩

theorem playTrack (s : State) (track : SharedTrack) (now : Nat) :
    Grows s (s.playTrack track now) := by
  unfold State.playTrack
  split
  · exact refl s
  · rename_i tenure htenure
    split
    · exact refl s
    · split
      · refine ⟨rfl, rfl, fun request hmem => ?_, fun _ hmem => hmem, Nat.le_refl _, fun _ => rfl⟩
        cases List.mem_append.mp hmem with
        | inl hold => exact Or.inl hold
        | inr hnew =>
            obtain rfl := List.mem_singleton.mp hnew
            exact Or.inr htenure
      · have hstarts : Grows s { s with ended := false } :=
          ⟨rfl, rfl, fun _ hmem => Or.inl hmem, fun _ hmem => hmem, Nat.le_refl _, fun _ => rfl⟩
        split
        · exact hstarts.trans (loadUrl _ track)
        · exact hstarts

theorem reach (s : State) (key : Option String) : Grows s (s.reach key) :=
  ⟨rfl, rfl, fun _ hmem => Or.inl hmem, fun _ hmem => hmem, Nat.le_refl _, fun _ => rfl⟩

theorem asking (s : State) (key : Option String) : Grows s { s with asked := key } :=
  ⟨rfl, rfl, fun _ hmem => Or.inl hmem, fun _ hmem => hmem, Nat.le_refl _, fun _ => rfl⟩

theorem press (s : State) (track : SharedTrack) (now : Nat) : Grows s (s.press track now) := by
  unfold State.press
  split
  · exact refl s
  · exact (asking s _).trans (playTrack _ track now)

theorem seekToTrack (s : State) (session : ShareSession) (index : Nat) :
    Grows s (s.seekToTrack session index) := by
  unfold State.seekToTrack
  split
  · exact refl s
  · exact ⟨rfl, rfl, fun _ hmem => Or.inl hmem, fun _ hmem => hmem, Nat.le_succ _,
      fun hsame => absurd hsame (Nat.succ_ne_self _)⟩

theorem advanceClassic (s : State) (target : Option Nat) (now : Nat) :
    Grows s (s.advanceClassic target now) := by
  unfold State.advanceClassic
  split
  · exact (reach s _).trans (playTrack _ _ now)
  · exact refl s

theorem next (s : State) (now : Nat) : Grows s (s.next now) := by
  unfold State.next
  split
  · split
    · exact refl s
    · exact seekToTrack s _ _
  · exact advanceClassic s _ now

theorem prev (s : State) (now : Nat) : Grows s (s.prev now) := by
  unfold State.prev
  split
  · split
    · exact refl s
    · split
      · exact refl s
      · exact seekToTrack s _ _
  · exact advanceClassic s _ now

theorem play (s : State) (now : Nat) : Grows s (s.play now) := by
  unfold State.play
  split
  · exact asking s _
  · split
    · exact press s _ now
    · exact refl s

theorem toggle (s : State) (track : SharedTrack) (now : Nat) : Grows s (s.toggle track now) := by
  unfold State.toggle
  split
  · exact asking s _
  · exact press s track now

theorem jump (s : State) (index : Nat) (now : Nat) : Grows s (s.jump index now) := by
  unfold State.jump
  split
  · exact press s _ now
  · exact refl s

theorem takeEnds (s : State) (windowEnd : Bool) (now : Nat) :
    Grows s (s.takeEnds windowEnd now) := by
  unfold State.takeEnds
  split
  · exact ⟨rfl, rfl, fun _ hmem => Or.inl hmem, fun _ hmem => hmem, Nat.le_refl _, fun _ => rfl⟩
  · exact next s now

theorem setShuffle (s : State) (shuffle : Bool) (order : List SharedTrack) (now : Nat) :
    Grows s (s.setShuffle shuffle order now) := by
  unfold State.setShuffle
  split
  · exact ⟨rfl, rfl, fun _ hmem => Or.inl hmem, fun _ hmem => hmem, Nat.le_refl _, fun _ => rfl⟩
  · have hshuffled : ∀ active, Grows s { s with
        shuffle := shuffle, playOrder := order, activeIndex := active } :=
      fun _ => ⟨rfl, rfl, fun _ hmem => Or.inl hmem, fun _ hmem => hmem, Nat.le_refl _,
        fun _ => rfl⟩
    exact (hshuffled _).trans (playTrack _ _ now)

theorem goOn (s : State) (request : Request) (manifest : Option StreamManifest) :
    Grows s (s.goOn request manifest) := by
  unfold State.goOn
  split
  · exact refl s
  · split
    · exact loadUrl s _
    · split
      · exact loadStream s _ _
      · exact loadUrl s _

theorem playheadAt (s : State) (session : ShareSession) (absoluteTime : ℚ) :
    Grows s (s.playheadAt session absoluteTime) := by
  unfold State.playheadAt
  dsimp only
  split
  · exact refl s
  · rename_i track htrack
    have hmoved : Grows s { s with session := some { session with
        activeIndex := Player.QueueStreamEngine.indexAt session.manifest.windowed
          absoluteTime } } :=
      ⟨rfl, rfl, fun _ hmem => Or.inl hmem, fun _ hmem => hmem, Nat.le_refl _, fun _ => rfl⟩
    refine trans ?_ (reach _ _)
    split
    · exact hmoved
    · exact hmoved.trans (setCurrent _ _)

theorem rebuilt (s : State) (rebuild : Rebuild) (manifest : StreamManifest) (quiet : Bool) :
    Grows s (s.rebuilt rebuild manifest quiet) := by
  have hkept : Grows s { s with manifest := some manifest } :=
    ⟨rfl, rfl, fun _ hmem => Or.inl hmem, fun _ hmem => hmem, Nat.le_refl _, fun _ => rfl⟩
  unfold State.rebuilt
  split
  · exact refl s
  · split
    · exact hkept
    · exact hkept.trans (loadStream _ _ _)

end Grows

/-- Nothing is asked for by a tenure or a current that is yet to come. -/
structure Kept (s : State) : Prop where
  tenure : ∀ tenure ∈ s.tenure, tenure ≤ s.heldTenure
  requests : ∀ request ∈ s.requests, request.tenure ≤ s.heldTenure
  rebuilds : ∀ rebuild ∈ s.rebuilds, rebuild.currents ≤ s.currents ∧
    (rebuild.currents = s.currents → s.mode = .stream)
  follows : Held s → Follows s

theorem Kept.of_grows (h : Kept s) (hgrows : Grows s t) (hfollows : Held s → Follows t) :
    Kept t where
  tenure tenure hmem := by
    rw [hgrows.heldTenure]
    exact h.tenure tenure (hgrows.tenure ▸ hmem)
  requests request hmem := by
    rw [hgrows.heldTenure]
    cases hgrows.requests request hmem with
    | inl hold => exact h.requests request hold
    | inr hown => exact h.tenure request.tenure hown
  rebuilds rebuild hmem := by
    obtain ⟨hle, hstream⟩ := h.rebuilds rebuild (hgrows.rebuilds rebuild hmem)
    refine ⟨Nat.le_trans hle hgrows.currents, fun hsame => ?_⟩
    have hstands : t.currents = s.currents :=
      Nat.le_antisymm (hsame ▸ hle) hgrows.currents
    exact (hgrows.mode hstands).trans (hstream (hsame.trans hstands))
  follows hheld := by
    refine hfollows ?_
    rw [Held, ← hgrows.tenure, ← hgrows.heldTenure]
    exact hheld

namespace Follows

theorem asking (h : Follows s) {key : String} (hplayed : s.playedKey = some key) :
    Follows { s with asked := some key } where
  rows := ⟨h.rows.base, h.rows.order, h.rows.requested⟩
  shows := ⟨h.shows.classic, h.shows.streaming, h.shows.entry⟩
  asked _ hother := Or.inl (Option.some.inj hother ▸ hplayed)

theorem press (h : Follows s) (hheld : Held s) (htrack : track ∈ s.baseTracks) :
    Follows (s.press track now) := by
  rw [State.press, if_neg (h.rows.playable htrack)]
  refine Rows.playTrack (s := { s with asked := some track.key })
    ⟨h.rows.base, h.rows.order, h.rows.requested⟩ hheld ?_ htrack ?_
  · exact fun _ => ⟨h.shows.classic, h.shows.streaming, h.shows.entry⟩
  · exact fun key hkey => Or.inl (Option.some.inj hkey).symm

theorem mem_base (h : Follows s) {index : Nat} (htrack : s.playOrder[index]? = some track) :
    track ∈ s.baseTracks :=
  h.rows.order.mem_iff.mp (List.mem_of_getElem? htrack)

theorem play (h : Follows s) (hheld : Held s) : Follows (s.play now) := by
  unfold State.play
  split
  · rename_i shown hshown hended
    refine h.asking ?_
    rw [← h.shows.entry, hshown, Option.map_some]
  · split
    · rename_i first hfirst
      exact h.press hheld (h.mem_base hfirst)
    · exact h

theorem toggle (h : Follows s) (hheld : Held s) {collection : SharedCollectionView}
    (hcollection : s.collection = some collection) (htrack : track ∈ collection.tracks) :
    Follows (s.toggle track now) := by
  unfold State.toggle
  split
  · rename_i hshown
    exact h.asking (h.shows.entry.symm.trans hshown)
  · by_cases hsilent : track.audioUrl = none
    · rw [State.press, if_pos hsilent]
      exact h
    · obtain ⟨other, hother, hbase⟩ := h.rows.base
      obtain rfl := Option.some.inj (hcollection.symm.trans hother)
      refine h.press hheld ?_
      rw [hbase]
      exact mem_playableTracks.mpr ⟨htrack, hsilent⟩

theorem jump (h : Follows s) (hheld : Held s) {index : Nat} : Follows (s.jump index now) := by
  unfold State.jump
  split
  · rename_i row hrow
    exact h.press hheld (h.mem_base hrow)
  · exact h

theorem seekToTrack (h : Follows s) (hsession : s.session = some session) {index : Nat}
    (hnamed : ∀ place ∈ session.manifest.tracks[index]?, Named s place) :
    Follows (s.seekToTrack session index) := by
  have hmode : s.mode = .stream := by
    cases hmode : s.mode with
    | stream => rfl
    | classic =>
        rw [h.shows.classic hmode] at hsession
        exact absurd hsession (Option.some_ne_none session).symm
  unfold State.seekToTrack
  split
  · exact h
  · rename_i place hplace
    obtain ⟨hshows, hplayed⟩ := Named.shows
      (s := { s with session := some { session with activeIndex := index } })
      (hnamed place hplace) hmode rfl hplace (h.shows.streaming hmode).1
    have hrows : Rows ({ s with session := some { session with activeIndex := index }
        }.setCurrent (some place.generationId)) :=
      ⟨h.rows.base, h.rows.order, h.rows.requested⟩
    exact hrows.reach hshows hplayed

theorem advanceClassic (h : Follows s) (hheld : Held s) {target : Option Nat} :
    Follows (s.advanceClassic target now) := by
  unfold State.advanceClassic
  split
  · rename_i row hrow
    obtain ⟨index, -, hat⟩ := Option.bind_eq_some_iff.mp hrow
    have hreached : Rows (s.reach (some row.key)) :=
      ⟨h.rows.base, h.rows.order, h.rows.requested⟩
    refine hreached.playTrack hheld ?_ (h.mem_base hat) ?_
    · exact fun _ => ⟨h.shows.classic, h.shows.streaming, h.shows.entry⟩
    · intro key hkey
      change key ∈ (if s.coming then s.asked else some row.key) at hkey
      by_cases hcoming : s.coming = true
      · refine Or.inr (coming_iff.mpr ?_)
        obtain ⟨request, hmem, htenure, hwaits⟩ := coming_iff.mp hcoming
        refine ⟨request, hmem, htenure, ?_⟩
        change (if s.coming then s.asked else some row.key) = _
        rw [if_pos hcoming]
        exact hwaits
      · rw [if_neg hcoming] at hkey
        exact Or.inl (Option.some.inj hkey).symm
  · exact h

theorem next (h : Follows s) (hheld : Held s) (hsound : SoundNext s) :
    Follows (s.next now) := by
  unfold State.next
  split
  · split
    · exact h
    · rename_i session hsession
      exact h.seekToTrack hsession (hsound session hsession)
  · exact h.advanceClassic hheld

theorem prev (h : Follows s) (hheld : Held s) (hsound : Sound s (.prev now)) :
    Follows (s.prev now) := by
  unfold State.prev
  split
  · split
    · exact h
    · rename_i session hsession
      split
      · exact h
      · rename_i hfirst
        exact h.seekToTrack hsession (hsound session hsession (Nat.pos_of_ne_zero hfirst))
  · exact h.advanceClassic hheld

theorem setEnded (h : Follows s) (ended : Bool) : Follows { s with ended := ended } where
  rows := ⟨h.rows.base, h.rows.order, h.rows.requested⟩
  shows := ⟨h.shows.classic, h.shows.streaming, h.shows.entry⟩
  asked := h.asked

theorem setRebuilds (h : Follows s) (rebuilds : List Rebuild) :
    Follows { s with rebuilds := rebuilds } where
  rows := ⟨h.rows.base, h.rows.order, h.rows.requested⟩
  shows := ⟨h.shows.classic, h.shows.streaming, h.shows.entry⟩
  asked := h.asked

theorem takeEnds (h : Follows s) (hheld : Held s) {windowEnd : Bool}
    (hsound : windowEnd = false → SoundNext s) : Follows (s.takeEnds windowEnd now) := by
  unfold State.takeEnds
  split
  · exact h.setEnded true
  · rename_i hgoesOn
    refine h.next hheld (hsound ?_)
    rw [Bool.not_eq_true, Bool.or_eq_false_iff] at hgoesOn
    exact hgoesOn.1

theorem setShuffle (h : Follows s) (hheld : Held s) {shuffle : Bool} {order : List SharedTrack}
    (horder : order.Perm s.baseTracks) (hchanges : s.shuffle ≠ shuffle) :
    Follows (s.setShuffle shuffle order now) := by
  unfold State.setShuffle
  split
  · rename_i hnone
    have hplayed : s.playedKey = none := by
      rw [← h.shows.entry, hnone, Option.map_none]
    refine ⟨⟨h.rows.base, horder, h.rows.requested⟩, ⟨h.shows.classic, ?_, ?_⟩, h.asked⟩
    · exact fun hstream => absurd hplayed (h.shows.streaming hstream).2
    · exact hplayed.symm
  · rename_i anchor hanchor
    have hplayed : s.playedKey = some anchor.key := by
      rw [← h.shows.entry, hanchor, Option.map_some]
    obtain ⟨index, -, hat⟩ := Option.bind_eq_some_iff.mp hanchor
    have hrows : Rows { s with
        shuffle := shuffle, playOrder := order, activeIndex := rowOf order anchor.key } :=
      ⟨h.rows.base, horder, h.rows.requested⟩
    refine hrows.playTrack hheld ?_ (h.mem_base hat) ?_
    · intro hstream
      have hoff : shuffle = false := by
        obtain ⟨-, hnot⟩ := Bool.and_eq_true_iff.mp hstream
        exact Bool.not_eq_true' _ ▸ hnot
      refine ⟨h.shows.classic, ?_, ?_⟩
      · exact fun hmode => absurd ((h.shows.streaming hmode).1.trans hoff.symm) hchanges
      · refine (shown_of_row (s := { s with
          shuffle := shuffle, playOrder := order, activeIndex := rowOf order anchor.key })
          (hrows.key_mem (h.mem_base hat)) rfl).trans hplayed.symm
    · intro key hkey
      cases h.asked key hkey with
      | inl hsame => exact Or.inl (Option.some.inj (hsame.symm.trans hplayed))
      | inr hcoming => exact Or.inr hcoming

end Follows

theorem Rows.goOn (h : Rows s) {request : Request} {manifest : Option StreamManifest}
    (htenure : request.tenure = s.heldTenure) (htrack : request.track ∈ s.baseTracks)
    (hsound : SoundLoad s request manifest) : Follows (s.goOn request manifest) := by
  obtain ⟨hasked, hplaces⟩ := hsound htenure
  have hwanted : ∀ key ∈ s.asked, key = request.track.key ∨ s.coming = true := fun key hkey =>
    hasked.imp_left fun hsame => Option.some.inj ((Option.mem_def.mp hkey).symm.trans hsame)
  unfold State.goOn
  rw [if_neg (not_not.mpr htenure)]
  split
  · exact h.loadUrl htrack hwanted
  · rename_i answered
    split
    · rename_i place hplace
      obtain ⟨hshuffle, hnamed⟩ := hplaces answered rfl place hplace
      obtain ⟨index, hat⟩ := List.mem_iff_getElem?.mp (List.mem_of_find?_eq_some hplace)
      rw [answered.index_eq index place hat]
      refine h.loadStream hat hnamed hshuffle fun key hkey => ?_
      cases hwanted key hkey with
      | inl hsame =>
          have hkeyOf := List.find?_some hplace
          exact Or.inl (hsame ▸ of_decide_eq_true hkeyOf)
      | inr hcoming => exact Or.inr hcoming
    · exact h.loadUrl htrack hwanted

theorem Rows.leave (h : Rows s) (index : Nat) (manifest : Option StreamManifest) :
    Rows { s with requests := s.requests.eraseIdx index, manifest := manifest } :=
  ⟨h.base, h.order, fun request hmem => h.requested request (List.mem_of_mem_eraseIdx hmem)⟩

theorem Follows.drop (h : Follows s) {index : Nat} {request : Request}
    (hrequest : s.requests[index]? = some request) (htenure : request.tenure ≠ s.heldTenure) :
    Follows { s with requests := s.requests.eraseIdx index } where
  rows := h.rows.leave index s.manifest
  shows := ⟨h.shows.classic, h.shows.streaming, h.shows.entry⟩
  asked key hkey := by
    cases h.asked key hkey with
    | inl hplayed => exact Or.inl hplayed
    | inr hcoming =>
        obtain ⟨other, hmem, hheld, hwaits⟩ := coming_iff.mp hcoming
        refine Or.inr (coming_iff.mpr ⟨other, ?_, hheld, hwaits⟩)
        obtain ⟨at_, hat⟩ := List.mem_iff_getElem?.mp hmem
        refine List.mem_eraseIdx_iff_getElem?.mpr ⟨at_, ?_, hat⟩
        rintro rfl
        exact htenure ((Option.some.inj (hrequest.symm.trans hat)) ▸ hheld)

theorem Follows.playheadAt (h : Follows s) (hsession : s.session = some session)
    {absoluteTime : ℚ} (hsound : Sound s (.playheadAt absoluteTime)) :
    Follows (s.playheadAt session absoluteTime) := by
  have hmode : s.mode = .stream := by
    cases hmode : s.mode with
    | stream => rfl
    | classic =>
        rw [h.shows.classic hmode] at hsession
        exact absurd hsession (Option.some_ne_none session).symm
  have hcrosses := hsound session hsession
  unfold State.playheadAt
  dsimp only
  split
  · exact h
  · rename_i place hplace
    have hnamed := hcrosses place hplace
    by_cases hsame : s.current = some place.generationId
    · rw [if_pos hsame] at hnamed ⊢
      have hplayed : State.playedKey { s with session := some { session with
          activeIndex := Player.QueueStreamEngine.indexAt session.manifest.windowed
            absoluteTime } } = streamKeyOf s.collection place := by
        change (session.manifest.tracks[_]?).bind (streamKeyOf s.collection) = _
        rw [hplace, Option.bind_some]
      have hrows : Rows { s with session := some { session with
          activeIndex := Player.QueueStreamEngine.indexAt session.manifest.windowed
            absoluteTime } } := ⟨h.rows.base, h.rows.order, h.rows.requested⟩
      refine hrows.reach ⟨?_, ?_, ?_⟩ hplayed
      · exact fun hclassic => PlaybackMode.noConfusion (hmode.symm.trans hclassic)
      · intro _
        rw [hplayed, hnamed]
        exact h.shows.streaming hmode
      · rw [hplayed, hnamed]
        exact h.shows.entry
    · rw [if_neg hsame] at hnamed ⊢
      obtain ⟨hshows, hplayed⟩ := Named.shows
        (s := { s with session := some { session with
          activeIndex := Player.QueueStreamEngine.indexAt session.manifest.windowed
            absoluteTime } })
        hnamed hmode rfl hplace (h.shows.streaming hmode).1
      have hrows : Rows ({ s with session := some { session with
          activeIndex := Player.QueueStreamEngine.indexAt session.manifest.windowed
            absoluteTime } }.setCurrent (some place.generationId)) :=
        ⟨h.rows.base, h.rows.order, h.rows.requested⟩
      exact hrows.reach hshows hplayed

theorem Follows.rebuilt (h : Follows s) {rebuild : Rebuild} {manifest : StreamManifest}
    {quiet : Bool} (hstream : rebuild.currents = s.currents → s.mode = .stream)
    (hsound : rebuild.tenure = s.heldTenure → rebuild.currents = s.currents → quiet = false →
      ∀ place ∈ manifest.tracks[State.matchedIndex manifest rebuild.generationId]?,
        streamKeyOf s.collection place = s.playedKey ∧
          Named { s with manifest := some manifest } place) :
    Follows (s.rebuilt rebuild manifest quiet) := by
  have hrows : Rows { s with manifest := some manifest } :=
    ⟨h.rows.base, h.rows.order, h.rows.requested⟩
  unfold State.rebuilt
  split
  · exact h
  · rename_i htenure
    split
    · exact ⟨hrows, ⟨h.shows.classic, h.shows.streaming, h.shows.entry⟩, h.asked⟩
    · rename_i hgoesOn
      obtain ⟨hsame, hloud⟩ := not_or.mp hgoesOn
      obtain ⟨hquiet, hlength⟩ := not_or.mp hloud
      have hlt : State.matchedIndex manifest rebuild.generationId < manifest.tracks.length := by
        unfold State.matchedIndex
        cases hfound : manifest.tracks.findIdx? fun track =>
            track.generationId == rebuild.generationId with
        | none => exact Nat.pos_of_ne_zero hlength
        | some index => exact (List.findIdx?_eq_some_iff_getElem.mp hfound).1
      have hplace := List.getElem?_eq_getElem hlt
      obtain ⟨hplayed, hnamed⟩ := hsound (not_not.mp htenure) (not_not.mp hsame)
        (Bool.eq_false_iff.mpr hquiet) _ hplace
      have hshuffle := (h.shows.streaming (hstream (not_not.mp hsame))).1
      refine hrows.loadStream hplace hnamed hshuffle fun key hkey => ?_
      exact (h.asked key hkey).imp_left fun hasked => hplayed.trans hasked

theorem Follows.perm_of_shuffled (h : Follows s) {order : List SharedTrack}
    (horder : State.Shuffled s.currentTrack s.baseTracks order) : order.Perm s.baseTracks := by
  cases hshown : s.currentTrack with
  | none =>
      rw [hshown] at horder
      exact horder
  | some anchor =>
      rw [hshown] at horder
      obtain ⟨hfirst, hrest⟩ := horder
      obtain ⟨index, -, hat⟩ := Option.bind_eq_some_iff.mp hshown
      have hanchor : anchor ∈ s.baseTracks := h.mem_base hat
      obtain ⟨collection, -, hbase⟩ := h.rows.base
      have hkeys : (s.baseTracks.map SharedTrack.key).Nodup := by
        rw [hbase]
        exact collection.nodup_keys.sublist (List.filter_sublist.map SharedTrack.key)
      have hothers : s.baseTracks.filter (fun other => other.key != anchor.key) =
          s.baseTracks.erase anchor := by
        rw [(List.Nodup.of_map SharedTrack.key hkeys).erase_eq_filter anchor]
        apply List.filter_congr
        intro other hother
        rw [Bool.eq_iff_iff, bne_iff_ne, bne_iff_ne]
        refine not_congr ⟨fun hsame => ?_, fun hsame => congrArg SharedTrack.key hsame⟩
        exact List.inj_on_of_nodup_map hkeys hother hanchor hsame
      cases order with
      | nil => exact absurd hfirst (Option.some_ne_none anchor).symm
      | cons first rest =>
          obtain rfl := Option.some.inj hfirst
          rw [List.tail_cons, hothers] at hrest
          exact (hrest.cons first).trans (List.perm_cons_erase hanchor).symm

end Songmaker.Sharing.SharePlayback
