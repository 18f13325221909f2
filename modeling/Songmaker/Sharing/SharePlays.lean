import Songmaker.Sharing.PlayedLast

namespace Songmaker.Sharing.SharePlayback

open Songmaker.Foundation Songmaker.Foundation.TransitionSystem

variable {s : State}

namespace Kept

theorem start (h : Kept s) (collection : SharedCollectionView) (fetchStream : Bool) :
    Kept (s.start collection fetchStream) where
  tenure tenure hmem := Nat.le_of_eq (Option.some.inj hmem).symm
  requests request hmem := Nat.le_succ_of_le (h.requests request hmem)
  rebuilds rebuild hmem := by
    have hle := (h.rebuilds rebuild hmem).1
    exact ⟨Nat.le_succ_of_le hle, fun hsame => absurd (hsame ▸ hle) (Nat.not_succ_le_self _)⟩
  follows _ := by
    refine ⟨⟨⟨collection, rfl, rfl⟩, List.Perm.refl _, ?_⟩, ⟨fun _ => rfl, ?_, rfl⟩, ?_⟩
    · intro request hmem htenure
      have hle : request.tenure ≤ s.heldTenure := h.requests request hmem
      exact absurd (htenure ▸ hle) (Nat.not_succ_le_self _)
    · exact fun hstream => PlaybackMode.noConfusion hstream
    · exact fun key hkey => absurd hkey (Option.not_mem_none key)

theorem takenOver (h : Kept s) (mode : PlaybackMode) : Kept (s.takenOver mode) where
  tenure tenure hmem := Nat.le_succ_of_le (h.tenure tenure hmem)
  requests request hmem := Nat.le_succ_of_le (h.requests request hmem)
  rebuilds rebuild hmem := by
    have hle := (h.rebuilds rebuild hmem).1
    exact ⟨Nat.le_succ_of_le hle, fun hsame => absurd (hsame ▸ hle) (Nat.not_succ_le_self _)⟩
  follows hheld := absurd (h.tenure (s.heldTenure + 1) hheld) (Nat.not_succ_le_self _)

theorem goOn (h : Kept s) {index : Nat} {request : Request} {held answered : Option StreamManifest}
    (hrequest : s.requests[index]? = some request)
    (hstands : request.tenure ≠ s.heldTenure → held = s.manifest)
    (hsound : request.tenure = s.heldTenure → SoundLoad { s with
      requests := s.requests.eraseIdx index, manifest := held } request answered) :
    Kept ({ s with requests := s.requests.eraseIdx index, manifest := held }.goOn request
      answered) := by
  have hleft : Grows s { s with requests := s.requests.eraseIdx index, manifest := held } :=
    ⟨rfl, rfl, fun _ hmem => Or.inl (List.mem_of_mem_eraseIdx hmem), fun _ hmem => hmem,
      Nat.le_refl _, fun _ => rfl⟩
  refine h.of_grows (hleft.trans (Grows.goOn _ request answered)) fun hheld => ?_
  have hfollows := h.follows hheld
  by_cases htenure : request.tenure = s.heldTenure
  · have htrack := hfollows.rows.requested request (List.mem_of_getElem? hrequest) htenure
    exact (hfollows.rows.leave index held).goOn htenure htrack (hsound htenure)
  · rw [hstands htenure]
    unfold State.goOn
    rw [if_pos htenure]
    exact hfollows.drop hrequest htenure

theorem act {action : Action} {next : State} (h : Kept s) (hsound : Sound s action)
    (hact : SharePlayback.act s action = some next) : Kept next := by
  cases action with
  | start collection fetchStream =>
      obtain rfl := Option.some.inj hact
      exact h.start collection fetchStream
  | takenOver mode =>
      obtain rfl := Option.some.inj hact
      exact h.takenOver mode
  | play now =>
      obtain rfl := Option.some.inj hact
      exact h.of_grows (Grows.play s now) fun hheld => (h.follows hheld).play hheld
  | toggle track now =>
      obtain ⟨collection, hcollection, hrow⟩ := Option.bind_eq_some_iff.mp hact
      obtain ⟨htrack, hnext⟩ := Option.ite_none_right_eq_some.mp hrow
      obtain rfl := Option.some.inj hnext
      exact h.of_grows (Grows.toggle s track now) fun hheld =>
        (h.follows hheld).toggle hheld hcollection htrack
  | jump orderIndex now =>
      obtain rfl := Option.some.inj hact
      exact h.of_grows (Grows.jump s orderIndex now) fun hheld => (h.follows hheld).jump hheld
  | next now =>
      obtain rfl := Option.some.inj hact
      exact h.of_grows (Grows.next s now) fun hheld => (h.follows hheld).next hheld hsound
  | prev now =>
      obtain rfl := Option.some.inj hact
      exact h.of_grows (Grows.prev s now) fun hheld => (h.follows hheld).prev hheld hsound
  | setShuffle shuffle order now =>
      obtain ⟨hchanges, hturns⟩ := Option.ite_none_left_eq_some.mp hact
      cases shuffle with
      | true =>
          obtain ⟨horder, hnext⟩ := Option.ite_none_right_eq_some.mp hturns
          obtain rfl := Option.some.inj hnext
          refine h.of_grows (Grows.setShuffle s true order now) fun hheld => ?_
          exact (h.follows hheld).setShuffle hheld ((h.follows hheld).perm_of_shuffled horder)
            hchanges
      | false =>
          obtain rfl := Option.some.inj hturns
          refine h.of_grows (Grows.setShuffle s false s.baseTracks now) fun hheld => ?_
          exact (h.follows hheld).setShuffle hheld (List.Perm.refl _) hchanges
  | takeEnds windowEnd now =>
      obtain ⟨-, hnext⟩ := Option.ite_none_right_eq_some.mp hact
      obtain rfl := Option.some.inj hnext
      exact h.of_grows (Grows.takeEnds s windowEnd now) fun hheld =>
        (h.follows hheld).takeEnds hheld hsound
  | playbackStarts =>
      obtain ⟨-, hnext⟩ := Option.ite_none_right_eq_some.mp hact
      obtain rfl := Option.some.inj hnext
      refine h.of_grows ?_ fun hheld => (h.follows hheld).setEnded false
      exact ⟨rfl, rfl, fun _ hmem => Or.inl hmem, fun _ hmem => hmem, Nat.le_refl _, fun _ => rfl⟩
  | fetched index manifest =>
      obtain ⟨request, hrequest, hasked⟩ := Option.bind_eq_some_iff.mp hact
      obtain ⟨-, hnext⟩ := Option.ite_none_left_eq_some.mp hasked
      refine Option.some.inj hnext ▸ h.goOn hrequest (fun hleft => if_neg hleft) fun htenure => ?_
      rw [if_pos htenure]
      exact hsound request hrequest
  | fetchFails index =>
      obtain ⟨request, hrequest, hasked⟩ := Option.bind_eq_some_iff.mp hact
      obtain ⟨-, hnext⟩ := Option.ite_none_left_eq_some.mp hasked
      exact Option.some.inj hnext ▸ h.goOn hrequest (fun _ => rfl) fun _ => hsound request hrequest
  | goesOn index =>
      obtain ⟨request, hrequest, hcached⟩ := Option.bind_eq_some_iff.mp hact
      obtain ⟨manifest, hmanifest, hnext⟩ := Option.bind_eq_some_iff.mp hcached
      refine Option.some.inj hnext ▸ h.goOn hrequest (fun _ => rfl) fun _ => ?_
      rw [← hmanifest]
      exact hsound request hrequest
  | playheadAt absoluteTime =>
      obtain ⟨session, hsession, hnext⟩ := Option.map_eq_some_iff.mp hact
      refine hnext ▸ h.of_grows (Grows.playheadAt s session absoluteTime) fun hheld => ?_
      exact (h.follows hheld).playheadAt hsession hsound
  | asksRebuild =>
      obtain ⟨session, hsession, hasks⟩ := Option.bind_eq_some_iff.mp hact
      obtain ⟨track, -, hactive⟩ := Option.bind_eq_some_iff.mp hasks
      obtain ⟨⟨hheld, -⟩, hnext⟩ := Option.ite_none_right_eq_some.mp hactive
      obtain rfl := Option.some.inj hnext
      have hfollows := h.follows hheld
      have hstream : s.mode = .stream := by
        cases hmode : s.mode with
        | stream => rfl
        | classic =>
            rw [hfollows.shows.classic hmode] at hsession
            exact absurd hsession (Option.some_ne_none session).symm
      refine ⟨h.tenure, h.requests, fun rebuild hmem => ?_, fun _ => hfollows.setRebuilds _⟩
      cases List.mem_append.mp hmem with
      | inl hold => exact h.rebuilds rebuild hold
      | inr hnew =>
          obtain rfl := List.mem_singleton.mp hnew
          exact ⟨Nat.le_refl _, fun _ => hstream⟩
  | rebuilt index manifest quiet =>
      obtain ⟨rebuild, hrebuild, hnext⟩ := Option.bind_eq_some_iff.mp hact
      have hleft : Grows s { s with rebuilds := s.rebuilds.eraseIdx index } :=
        ⟨rfl, rfl, fun _ hmem => Or.inl hmem, fun _ hmem => List.mem_of_mem_eraseIdx hmem,
          Nat.le_refl _, fun _ => rfl⟩
      refine Option.some.inj hnext ▸
        h.of_grows (hleft.trans (Grows.rebuilt _ rebuild manifest quiet)) fun hheld => ?_
      exact ((h.follows hheld).setRebuilds _).rebuilt
        (h.rebuilds rebuild (List.mem_of_getElem? hrebuild)).2 (hsound rebuild hrebuild)
  | rebuildFails index =>
      obtain ⟨rebuild, -, hnext⟩ := Option.map_eq_some_iff.mp hact
      have hleft : Grows s { s with rebuilds := s.rebuilds.eraseIdx index } :=
        ⟨rfl, rfl, fun _ hmem => Or.inl hmem, fun _ hmem => List.mem_of_mem_eraseIdx hmem,
          Nat.le_refl _, fun _ => rfl⟩
      exact hnext ▸ h.of_grows hleft fun hheld => (h.follows hheld).setRebuilds _

end Kept

theorem kept_of_initial (hs : Initial s) : Kept s where
  tenure tenure hmem := absurd (hs.tenure ▸ hmem) (Option.not_mem_none tenure)
  requests _ hmem := absurd (hs.requests ▸ hmem) List.not_mem_nil
  rebuilds _ hmem := absurd (hs.rebuilds ▸ hmem) List.not_mem_nil
  follows hheld := absurd (hs.tenure.symm.trans hheld) (Option.some_ne_none _).symm

/-- In every run whose presses go on soundly and whose playhead meets only rows that are named
first, a share that holds the player plays what was pressed last and shows what it plays. -/
theorem plays_of_sound {run : List (Action × State)} (hs : Initial s)
    (hrun : sharePlayback.IsRun s run) (hsound : StepsMeet Sound s run) :
    ∀ t ∈ visited s run, Held t → Right t := by
  have hkeeps : ∀ s a t, Kept s → sharePlayback.step s a t → Sound s a → Kept t :=
    fun s a t h hstep hok => h.act hok hstep
  intro t ht hheld
  have hkept := forall_visited_of_stepsMeet hkeeps (kept_of_initial hs) hrun hsound t ht
  exact (hkept.follows hheld).right

def idlePlayer : State where
  collection := none
  baseTracks := []
  playOrder := []
  activeIndex := none
  manifest := none
  fetchStream := false
  shuffle := false
  ended := false
  tenure := none
  heldTenure := 0
  mode := .classic
  session := none
  current := none
  currents := 0
  requests := []
  rebuilds := []
  asked := none

theorem initial_idlePlayer : Initial idlePlayer := ⟨rfl, rfl, rfl⟩

def firstEntry : SharedTrack := ⟨"e1", some "/shared/playlist/p/audio/a.mp3"⟩

def secondEntry : SharedTrack := ⟨"e2", some "/shared/playlist/p/audio/b.mp3"⟩

theorem nodup_entries : ([firstEntry, secondEntry].map SharedTrack.key).Nodup := by
  decide

def sharedPlaylist : SharedCollectionView :=
  ⟨.playlist, [firstEntry, secondEntry], nodup_entries⟩

def entryTracks (first second : String) : List StreamTrack :=
  [⟨⟨first, "", 0, 10, 10⟩, 0, some "e1", "s1"⟩, ⟨⟨second, "", 10, 20, 10⟩, 1, some "e2", "s2"⟩]

theorem index_entryTracks (first second : String) (i : Nat) (track : StreamTrack)
    (htrack : (entryTracks first second)[i]? = some track) : track.index = i := by
  cases i with
  | zero => exact Option.some.inj htrack ▸ rfl
  | succ i =>
      cases i with
      | zero => exact Option.some.inj htrack ▸ rfl
      | succ i => exact absurd htrack (Option.some_ne_none track).symm

/-- The stream of the playlist, with the takes of its two entries. -/
def streamOf (first second : String) : StreamManifest :=
  ⟨entryTracks first second, "", 20, 1000000, index_entryTracks first second⟩

/-- The first entry is pressed, its stream comes, and the playhead crosses into the second. -/
def playedThrough : List Action :=
  [.start sharedPlaylist true, .jump 0 0, .fetched 0 (streamOf "a" "b"), .playheadAt 12]

theorem plays_of_sound_playedThrough :
    Right (lastOf idlePlayer (follow act idlePlayer playedThrough)) := by
  refine plays_of_sound initial_idlePlayer (isRun_follow Initial act _ _) ?_ _
    (lastOf_mem_visited _ _) rfl
  refine ⟨trivial, trivial, ?_, ?_, trivial⟩
  · intro request hrequest
    obtain rfl := Option.some.inj hrequest
    refine fun _ => ⟨Or.inl rfl, fun answered hanswered place hplace => ⟨rfl, ?_⟩⟩
    obtain rfl := Option.some.inj hanswered
    obtain rfl := Option.some.inj hplace
    exact ⟨_, rfl, "e1", rfl, rfl, by decide, List.mem_cons_self⟩
  · intro session hsession track htrack
    obtain rfl := Option.some.inj hsession
    obtain rfl := Option.some.inj htrack
    exact ⟨_, rfl, "e2", rfl, rfl, by decide, List.mem_cons_of_mem _ List.mem_cons_self⟩

/-- Both entries hold one take, and the second is pressed. -/
def secondPressed : List Action :=
  [.start sharedPlaylist true, .jump 1 0, .fetched 0 (streamOf "a" "a")]

theorem second_entry_shown_as_first :
    ¬ ∀ s, sharePlayback.Reachable s → Held s → Right s := by
  intro hall
  have hright := hall _ (reachable_follow (.initial initial_idlePlayer) secondPressed) rfl
  have hentry := hright.entry
  exact absurd hentry (by decide)

end Songmaker.Sharing.SharePlayback
