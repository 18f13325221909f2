import Songmaker.Playlists.DetailKept

namespace Songmaker.Playlists.DetailCache

open Songmaker.Foundation
open Songmaker.Foundation.TransitionSystem

variable {s : State}

namespace Kept

section Answers

variable {id : PlaylistId} {request : RequestId}

theorem awaitNothing (h : Kept s) : Kept { s with awaiting := none } :=
  h.view h.shown (fun _ hshown => h.shown_spec hshown)
    fun found hfound => absurd hfound (Option.not_mem_none found)

theorem resumeLoad (h : Kept s) {goOn : State → State}
    (hgoOn : s.awaiting = some request → s.opened = some id →
      Kept (goOn { s with awaiting := none })) : Kept (s.resumeLoad id request goOn) := by
  rw [State.resumeLoad]
  split
  · rename_i hawaiting
    split
    · rename_i hopened
      exact hgoOn hawaiting hopened
    · exact h.awaitNothing
  · exact h

theorem failPlaylistDetailLoad (h : Kept s) (hawaiting : s.awaiting = none) (failure : Failure) :
    Kept (State.failPlaylistDetailLoad failure s) := by
  have hhidden : ∀ opened, Kept { s with opened := opened, shown := none } := by
    intro opened
    have hhide := h.hide opened
    rwa [← hawaiting] at hhide
  cases failure with
  | notFound => exact hhidden none
  | unreachable => exact h
  | refused => exact hhidden s.opened

theorem cache_failPlaylistDetailLoad (failure : Failure) (s : State) :
    (State.failPlaylistDetailLoad failure s).cache = s.cache ∧
      (State.failPlaylistDetailLoad failure s).mutations = s.mutations := by
  cases failure with
  | _ => exact ⟨rfl, rfl⟩

theorem resumeLoad_frame (s : State) (id : PlaylistId) (request : RequestId)
    {goOn : State → State}
    (hgoOn : ∀ t, (goOn t).cache = t.cache ∧ (goOn t).mutations = t.mutations) :
    (s.resumeLoad id request goOn).cache = s.cache ∧
      (s.resumeLoad id request goOn).mutations = s.mutations := by
  rw [State.resumeLoad]
  split
  · split
    · exact hgoOn _
    · exact ⟨rfl, rfl⟩
  · exact ⟨rfl, rfl⟩

theorem cacheReflects_congr {t : State} {kind : Kind} {version : Nat} (hcache : t.cache = s.cache)
    (h : s.CacheReflects id kind version) : t.CacheReflects id kind version := by
  intro detail hdetail
  rw [State.freshPlaylistDetail, hcache] at hdetail
  exact h detail hdetail

theorem receiveFailure (h : Kept s) {answer : Option Answer} {failure : Failure}
    (hrequest : s.requests request = some ⟨id, answer⟩)
    (hsound : Sound s (.fails request failure)) : Kept (s.receiveFailure id request failure) := by
  have hended := h.endRequest hrequest
  have hresumed : Kept ((s.endRequest id request).resumeLoad id request
      (State.failPlaylistDetailLoad failure)) :=
    hended.resumeLoad fun _ _ => hended.awaitNothing.failPlaylistDetailLoad rfl failure
  obtain ⟨hcache, hmutations⟩ := resumeLoad_frame (s.endRequest id request) id request
    (cache_failPlaylistDetailLoad failure)
  refine hresumed.completeRefreshes request ?_
  intro mutation playlist kind version hstage
  rw [hmutations] at hstage
  exact cacheReflects_congr hcache (hsound mutation playlist kind version hstage)

theorem keepAnswer (h : Kept s) {detail : Detail}
    (hrequest : s.requests detail.asked = some ⟨detail.id, some (.found detail.versions)⟩) :
    Kept (s.keepAnswer detail) := by
  rw [State.keepAnswer]
  split
  · rename_i hcurrent
    refine h.cachePlaylistDetail ?_ ⟨?_, ?_, ?_, ?_⟩
    · rintro entry hentry ⟨mutation, kind, version, time, -, hafter, hbefore⟩
      have hle := (h.newest detail.id detail.asked hcurrent).2 entry hentry
      exact absurd (Nat.lt_of_lt_of_le hafter (Nat.le_trans hbefore hle)) (Nat.lt_irrefl _)
    · exact h.bounded detail.asked (hrequest ▸ Option.some_ne_none _)
    · exact h.answered detail.id detail.asked hcurrent detail.versions hrequest
    · intro found hfound
      exact Nat.le_of_eq (Option.some.inj (hcurrent.symm.trans hfound))
    · exact (h.newest detail.id detail.asked hcurrent).1
  · exact h

theorem keepAnswer_frame (s : State) (detail : Detail) :
    ∃ pairs cache, s.keepAnswer detail = { s with replaced := pairs, cache := cache } ∧
      (cache = s.cache ∧ s.inflight detail.id ≠ some detail.asked ∨
        cache = Function.update s.cache detail.id (some ⟨detail, true⟩) ∧
          s.inflight detail.id = some detail.asked) := by
  rw [State.keepAnswer]
  split
  · rename_i hcurrent
    obtain ⟨pairs, hpairs⟩ :=
      noteReplaced_same s ((s.cache detail.id).map CachedDetail.detail) detail
    refine ⟨pairs, Function.update s.cache detail.id (some ⟨detail, true⟩), ?_,
      Or.inr ⟨rfl, hcurrent⟩⟩
    rw [State.cachePlaylistDetail, hpairs]
  · rename_i hanother
    exact ⟨s.replaced, s.cache, rfl, Or.inl ⟨rfl, hanother⟩⟩

theorem receive (h : Kept s) {detail : Detail}
    (hrequest : s.requests detail.asked = some ⟨detail.id, some (.found detail.versions)⟩)
    (hsound : Sound s (.answers detail.asked)) : Kept (s.receive detail) := by
  have hkept := h.keepAnswer hrequest
  obtain ⟨pairs, cache, hsame, hcache⟩ := keepAnswer_frame s detail
  have hrequestKept : (s.keepAnswer detail).requests detail.asked =
      some ⟨detail.id, some (.found detail.versions)⟩ := by
    rw [hsame]
    exact hrequest
  have hended := hkept.endRequest hrequestKept
  have hasked : detail.asked < s.next :=
    h.bounded detail.asked (hrequest ▸ Option.some_ne_none _)
  have hresumed : Kept (((s.keepAnswer detail).endRequest detail.id detail.asked).resumeLoad
      detail.id detail.asked fun resumed => resumed.showPlaylistDetail detail) := by
    refine hended.resumeLoad ?_
    intro hawaiting hopened
    rw [hsame] at hawaiting
    have hcurrent := h.awaited detail.asked hawaiting detail.id _ hrequest
    have hset : cache = Function.update s.cache detail.id (some ⟨detail, true⟩) :=
      (hcache.resolve_left fun hleft => hleft.2 hcurrent).1
    refine hended.awaitNothing.showPlaylistDetail hopened ⟨?_, ?_, ?_⟩ ?_
    · rw [hsame]
      exact hasked
    · intro found hfound
      rw [hsame] at hfound
      change (if s.inflight detail.id = some detail.asked then
        Function.update s.inflight detail.id none else s.inflight) detail.id = some found at hfound
      rw [if_pos hcurrent, Function.update_self] at hfound
      exact absurd hfound (Option.some_ne_none found).symm
    · intro entry hentry
      rw [hsame, hset] at hentry
      change Function.update s.cache detail.id (some ⟨detail, true⟩) detail.id = some entry
        at hentry
      rw [Function.update_self] at hentry
      obtain rfl := Option.some.inj hentry
      exact Nat.le_refl _
    · intro old hold
      rw [hsame] at hold
      exact (h.newest detail.id detail.asked hcurrent).1 old hold
  have hgoOn : ∀ t : State, (t.showPlaylistDetail detail).cache = t.cache ∧
      (t.showPlaylistDetail detail).mutations = t.mutations := by
    intro t
    obtain ⟨noted, hnoted⟩ := noteReplaced_same t t.shown detail
    rw [State.showPlaylistDetail, hnoted]
    exact ⟨rfl, rfl⟩
  obtain ⟨hcacheAfter, hmutations⟩ := resumeLoad_frame
    ((s.keepAnswer detail).endRequest detail.id detail.asked) detail.id detail.asked hgoOn
  refine hresumed.completeRefreshes detail.asked ?_
  intro mutation playlist kind version hstage
  rw [hmutations, hsame] at hstage
  have hrefreshes := h.refreshing mutation playlist kind version detail.asked hstage
  refine cacheReflects_congr hcacheAfter ?_
  intro fresh hfresh
  have hentry := mem_freshPlaylistDetail.mp hfresh
  rw [hsame] at hentry
  change cache playlist = some ⟨fresh, true⟩ at hentry
  have hreflects : s.inflight playlist = some detail.asked → playlist = detail.id := by
    intro hcurrent
    obtain ⟨answer, hanswer⟩ := h.asking playlist detail.asked hcurrent
    exact congrArg Request.playlist (Option.some.inj (hanswer.symm.trans hrequest))
  rcases hcache with ⟨hcache, hanother⟩ | ⟨hcache, hcurrent⟩
  · rcases hsound mutation playlist kind version hstage with hcurrent | hold
    · exact absurd (hreflects hcurrent ▸ hcurrent) hanother
    · rw [hcache] at hentry
      exact hold fresh (mem_freshPlaylistDetail.mpr hentry)
  · by_cases hid : playlist = detail.id
    · subst hid
      rw [hcache, Function.update_self] at hentry
      obtain rfl : detail = fresh := congrArg CachedDetail.detail (Option.some.inj hentry)
      exact hrefreshes.answered detail.asked detail.versions (Nat.le_refl _) hrequest
    · rcases hsound mutation playlist kind version hstage with hown | hold
      · exact absurd (hreflects hown) hid
      · rw [hcache, Function.update_of_ne hid] at hentry
        exact hold fresh (mem_freshPlaylistDetail.mpr hentry)

end Answers

section Completions

variable {id : MutationId} {mutation : Mutation} {version : Nat} {item : Versions}

theorem patch_id (detail : Detail) (kind : Kind) (version : Nat) (item : Versions) :
    (detail.patch kind version item).id = detail.id ∧
      (detail.patch kind version item).asked = detail.asked := by
  cases kind with
  | _ => exact ⟨rfl, rfl⟩

/-- What a rename or a cover change leaves after its write into the shown detail. -/
theorem patchShown (h : Kept s) (hsound : s.PatchIsCurrent mutation version item) :
    Kept (s.patchShown mutation version item) := by
  unfold State.patchShown
  cases hshown : s.shown with
  | none => exact h
  | some detail =>
      dsimp only
      split
      · rename_i hid
        obtain ⟨hcompleted, -, hcached⟩ := hsound.1 detail hshown hid
        obtain ⟨hpatchId, hpatchAsked⟩ := patch_id detail mutation.kind version item
        obtain ⟨hasked, hinflight, hordered⟩ := h.shown_spec hshown
        have hkept : Kept (s.cachePlaylistDetail (detail.patch mutation.kind version item)) := by
          refine h.cachePlaylistDetail ?_ ⟨?_, ?_, ?_, ?_⟩
          · intro entry hentry
            rw [hpatchId, hid] at hentry ⊢
            rw [hpatchAsked]
            exact hcached entry hentry
          · rw [hpatchAsked]
            exact hasked
          · rw [hpatchId, hid]
            exact hcompleted
          · rw [hpatchId, hpatchAsked]
            exact hinflight
          · intro found hfound _
            obtain rfl := Option.some.inj (hshown.symm.trans hfound)
            exact Nat.le_of_eq hpatchAsked.symm
        obtain ⟨pairs, hpairs⟩ := noteReplaced_same s ((s.cache (detail.patch mutation.kind version
          item).id).map CachedDetail.detail) (detail.patch mutation.kind version item)
        rw [State.cachePlaylistDetail, hpairs] at hkept ⊢
        refine hkept.view ?_ ?_ hkept.awaited
        · intro found hfound
          obtain rfl := Option.some.inj hfound
          rw [hpatchId]
          exact h.shown detail hshown
        · intro found hfound
          obtain rfl := Option.some.inj hfound
          refine ⟨hpatchAsked ▸ hasked, ?_, ?_⟩
          · rw [hpatchId, hpatchAsked]
            exact hinflight
          · intro entry hentry
            change Function.update s.cache _ _ _ = some entry at hentry
            rw [Function.update_self] at hentry
            obtain rfl := Option.some.inj hentry
            exact Nat.le_refl _
      · exact h

theorem patchShown_frame (s : State) (mutation : Mutation) (version : Nat) (item : Versions) :
    (s.patchShown mutation version item).inflight = s.inflight ∧
      (s.patchShown mutation version item).requests = s.requests ∧
      (s.patchShown mutation version item).next = s.next ∧
      (s.patchShown mutation version item).versions = s.versions ∧
      (s.patchShown mutation version item).deleted = s.deleted := by
  unfold State.patchShown
  cases s.shown with
  | none => exact ⟨rfl, rfl, rfl, rfl, rfl⟩
  | some detail =>
      dsimp only
      split
      · obtain ⟨pairs, hpairs⟩ := noteReplaced_same s ((s.cache (detail.patch mutation.kind version
          item).id).map CachedDetail.detail) (detail.patch mutation.kind version item)
        rw [State.cachePlaylistDetail, hpairs]
        exact ⟨rfl, rfl, rfl, rfl, rfl⟩
      · exact ⟨rfl, rfl, rfl, rfl, rfl⟩

theorem cacheReflects_patchShown (hsound : s.PatchIsCurrent mutation version item) :
    (s.patchShown mutation version item).CacheReflects mutation.playlist mutation.kind version := by
  unfold State.patchShown
  cases hshown : s.shown with
  | none =>
      refine hsound.2 fun detail hdetail => ?_
      rw [hshown] at hdetail
      exact absurd hdetail (Option.not_mem_none detail)
  | some detail =>
      dsimp only
      split
      · rename_i hid
        obtain ⟨-, hown, -⟩ := hsound.1 detail hshown hid
        obtain ⟨hpatchId, -⟩ := patch_id detail mutation.kind version item
        intro fresh hfresh
        have hentry := mem_freshPlaylistDetail.mp hfresh
        change Function.update s.cache (detail.patch mutation.kind version item).id _
          mutation.playlist = some _ at hentry
        rw [hpatchId, hid, Function.update_self] at hentry
        obtain rfl := congrArg CachedDetail.detail (Option.some.inj hentry)
        exact hown
      · rename_i hid
        refine hsound.2 fun found hfound => ?_
        obtain rfl := Option.some.inj (hshown.symm.trans hfound)
        exact hid

theorem completePatch (h : Kept s) (hmutation : s.mutations id = some mutation)
    (hstage : mutation.stage = .applied version item)
    (hanswer : s.AnswerReflects mutation.playlist mutation.kind version)
    (hsound : s.PatchIsCurrent mutation version item) :
    Kept ((s.patchShown mutation version item).setStage id mutation
      (.completed version s.next)) := by
  obtain ⟨hinflight, hrequests, hnext, hversions, hdeleted⟩ :=
    patchShown_frame s mutation version item
  have hpatched := h.patchShown hsound
  have hwritten : (s.patchShown mutation version item).Written mutation.playlist mutation.kind
      version := by
    rw [State.Written, hversions, hdeleted]
    exact h.applied id mutation hmutation version (by rw [hstage]; rfl)
  have hanswered : (s.patchShown mutation version item).AnswerReflects mutation.playlist
      mutation.kind version := by
    rw [State.AnswerReflects, hinflight, hrequests]
    exact hanswer
  have henters := mayEnter_completed hwritten (cacheReflects_patchShown hsound) hanswered
  rw [hnext] at henters
  exact hpatched.setStage id henters

theorem cacheReflects_invalidated (s : State) (playlist : PlaylistId) (kind : Kind)
    (version : Nat) :
    (s.invalidatePlaylistDetailCache playlist).CacheReflects playlist kind version := by
  intro detail hdetail
  have hentry := mem_freshPlaylistDetail.mp hdetail
  change Function.update s.cache playlist none playlist = some _ at hentry
  rw [Function.update_self] at hentry
  exact absurd hentry (Option.some_ne_none _).symm

theorem completeInvalidated (h : Kept s) (hmutation : s.mutations id = some mutation)
    (hversion : mutation.stage.version = some version)
    (hanswer : s.AnswerReflects mutation.playlist mutation.kind version) :
    Kept ((s.invalidatePlaylistDetailCache mutation.playlist).setStage id mutation
      (.completed version s.next)) := by
  have henters : MayEnter (s.invalidatePlaylistDetailCache mutation.playlist)
      { mutation with stage := .completed version s.next } :=
    mayEnter_completed (h.applied id mutation hmutation version hversion)
      (cacheReflects_invalidated s mutation.playlist mutation.kind version) hanswer
  exact (h.invalidatePlaylistDetailCache mutation.playlist).setStage id henters

theorem returnMutation (h : Kept s) (hmutation : s.mutations id = some mutation)
    (hstage : mutation.stage = .applied version item) (hsound : Sound s (.returns id)) :
    Kept (s.returnMutation id mutation version item) := by
  obtain ⟨playlist, kind, stage⟩ := mutation
  obtain rfl : stage = .applied version item := hstage
  have hnow := hsound playlist kind version item hmutation
  have hwritten := h.applied id _ hmutation version rfl
  cases kind with
  | rename =>
      obtain ⟨hanswer, hpatch⟩ := hnow (by decide)
      exact h.completePatch hmutation rfl hanswer (hpatch (by decide))
  | cover =>
      obtain ⟨hanswer, hpatch⟩ := hnow (by decide)
      exact h.completePatch hmutation rfl hanswer (hpatch (by decide))
  | entries =>
      refine h.setStage id (mayEnter_of_written ?_ ⟨?_, ?_⟩)
      · intro found hfound
        obtain rfl := Option.some.inj hfound
        exact hwritten
      · intro found time hcompleted
        exact Stage.noConfusion hcompleted
      · intro found request hrefreshing
        exact Stage.noConfusion hrefreshing
  | deletion =>
      obtain ⟨hanswer, -⟩ := hnow (by decide)
      have hreturns :
          s.returnMutation id ⟨playlist, .deletion, .applied version item⟩ version item =
          (if s.opened = some playlist then
            (s.invalidatePlaylistDetailCache playlist).deselectPlaylist
          else s.invalidatePlaylistDetailCache playlist).setStage id
            ⟨playlist, .deletion, .applied version item⟩ (.completed version s.next) := rfl
      rw [hreturns]
      split
      · have hleft := (h.invalidatePlaylistDetailCache playlist).deselectPlaylist
        have henters : MayEnter (s.invalidatePlaylistDetailCache playlist)
            ⟨playlist, .deletion, .completed version s.next⟩ :=
          mayEnter_completed (s := s.invalidatePlaylistDetailCache playlist) hwritten
            (cacheReflects_invalidated s playlist .deletion version) hanswer
        exact hleft.setStage id ⟨henters.written, henters.completed,
          fun found request hrefreshing => Stage.noConfusion hrefreshing⟩
      · exact h.completeInvalidated hmutation rfl hanswer

theorem loadPlaylistDetail_forced (s : State) (id : PlaylistId) :
    s.loadPlaylistDetail id true =
      { ((s.openPlaylist id).invalidatePlaylistDetailCache id).ask id with
        awaiting := some s.next } := by
  unfold State.loadPlaylistDetail State.fetchPlaylistDetailDeduped
  rw [if_pos rfl]
  cases ((s.openPlaylist id).invalidatePlaylistDetailCache id).inflight id with
  | none => rfl
  | some request => rfl

theorem refreshPlaylist (h : Kept s) (hmutation : s.mutations id = some mutation)
    (hstage : mutation.stage = .listing version) (hsound : Sound s (.lists id)) :
    Kept (s.refreshPlaylist id mutation version) := by
  obtain ⟨playlist, kind, stage⟩ := mutation
  obtain rfl : stage = .listing version := hstage
  have hwritten := h.applied id _ hmutation version rfl
  rw [State.refreshPlaylist]
  split
  · rename_i hopened
    have hown : ∀ detail ∈ s.shown, detail.id = playlist := by
      intro detail hdetail
      exact Option.some.inj ((h.shown detail hdetail).symm.trans hopened)
    have hloaded : Kept (s.loadPlaylistDetail playlist true) :=
      h.loadPlaylistDetail (Or.inl hown)
    rw [loadPlaylistDetail_forced] at hloaded ⊢
    have hrefreshes : State.Refreshes { ((s.openPlaylist playlist).invalidatePlaylistDetailCache
        playlist).ask playlist with awaiting := some s.next } playlist kind version s.next := by
      refine ⟨Nat.lt_succ_self s.next, ?_, ?_⟩
      · intro later versions hlater hfound
        change Function.update s.requests s.next (some ⟨playlist, none⟩) later = some _ at hfound
        by_cases hnew : later = s.next
        · subst hnew
          rw [Function.update_self] at hfound
          exact absurd (congrArg Request.answer (Option.some.inj hfound)).symm
            (Option.some_ne_none _)
        · rw [Function.update_of_ne hnew] at hfound
          have hlt := h.bounded later (hfound ▸ Option.some_ne_none _)
          exact absurd (Nat.lt_of_lt_of_le hlt hlater) (Nat.lt_irrefl _)
      · intro later hlater
        change Function.update s.inflight playlist (some s.next) playlist = some later at hlater
        rw [Function.update_self] at hlater
        exact Nat.le_of_eq (Option.some.inj hlater)
    refine hloaded.setStage id ⟨?_, ?_, ?_⟩
    · intro found hfound
      obtain rfl := Option.some.inj hfound
      exact hwritten
    · intro found time hcompleted
      exact Stage.noConfusion hcompleted
    · intro found request hrefreshing
      obtain ⟨rfl, rfl⟩ := Stage.refreshing.inj hrefreshing
      exact hrefreshes
  · rename_i hopened
    exact h.completeInvalidated hmutation rfl (hsound playlist kind version hmutation hopened)

end Completions

theorem age (h : Kept s) (id : PlaylistId) :
    Kept { s with cache := Function.update s.cache id
                    ((s.cache id).map fun cached => { cached with fresh := false }) } := by
  refine h.setCache id ?_
  intro found hfound
  obtain ⟨entry, hentry, rfl⟩ := Option.map_eq_some_iff.mp hfound
  refine ⟨(h.cacheId id entry hentry).1, (h.cacheId id entry hentry).2,
    fun hfalse => absurd hfalse Bool.false_ne_true, ?_, ?_⟩
  · intro request hrequest
    exact (h.newest id request hrequest).2 entry hentry
  · rintro detail hdetail rfl
    exact h.ordered detail hdetail entry hentry

theorem act (h : Kept s) {action : Action} {next : State} (hsound : Sound s action)
    (hact : DetailCache.act s action = some next) : Kept next := by
  cases action with
  | loads id forceRefresh =>
      obtain rfl := Option.some.inj hact
      exact h.loadPlaylistDetail hsound
  | deselects =>
      obtain rfl := Option.some.inj hact
      exact h.deselectPlaylist
  | opensElsewhere =>
      obtain rfl := Option.some.inj hact
      have hnothing : s.shown = none := hsound
      refine h.view ?_ (fun detail hdetail => h.shown_spec hdetail) h.awaited
      intro detail hdetail
      rw [hnothing] at hdetail
      exact absurd hdetail (Option.not_mem_none detail)
  | ages id =>
      obtain rfl := Option.some.inj hact
      exact h.age id
  | serves request =>
      rw [DetailCache.act] at hact
      split at hact
      · rename_i id hrequest
        obtain rfl := Option.some.inj hact
        refine h.serve hrequest ?_
        intro versions hfound
        split at hfound
        · exact Answer.noConfusion hfound
        · rename_i hdeleted
          exact ⟨eq_false_of_ne_true hdeleted, (Answer.found.inj hfound).symm⟩
      · exact absurd hact (Option.some_ne_none next).symm
  | answers request =>
      rw [DetailCache.act] at hact
      split at hact
      · rename_i id versions hrequest
        obtain rfl := Option.some.inj hact
        exact h.receive hrequest hsound
      · exact absurd hact (Option.some_ne_none next).symm
  | fails request failure =>
      rw [DetailCache.act] at hact
      split at hact
      · rename_i id answer hrequest
        split at hact
        · exact absurd hact (Option.some_ne_none next).symm
        · obtain rfl := Option.some.inj hact
          exact h.receiveFailure hrequest hsound
      · exact absurd hact (Option.some_ne_none next).symm
  | sends id playlist kind =>
      obtain ⟨-, rfl⟩ := Option.ite_some_none_eq_some.mp hact
      refine h.setMutations ?_
      intro other found hfound
      by_cases hother : other = id
      · subst hother
        rw [Function.update_self] at hfound
        obtain rfl := Option.some.inj hfound
        refine Or.inr (mayEnter_of_written ?_ ⟨?_, ?_⟩)
        · intro version hversion
          exact absurd hversion (Option.not_mem_none version)
        · intro version time hstage
          exact Stage.noConfusion hstage
        · intro version request hstage
          exact Stage.noConfusion hstage
      · rw [Function.update_of_ne hother] at hfound
        exact Or.inl hfound
  | applies id =>
      obtain ⟨mutation, hmutation, happlies⟩ := Option.bind_eq_some_iff.mp hact
      obtain ⟨⟨-, hdeleted⟩, rfl⟩ := Option.ite_some_none_eq_some.mp happlies
      refine (h.bump mutation.playlist mutation.kind).setStage id
        (mayEnter_of_written ?_ ⟨?_, ?_⟩)
      · intro version hversion
        obtain rfl := Option.some.inj hversion
        rw [State.Written]
        split
        · rename_i hdeletion
          change (if mutation.kind = .deletion then Function.update s.deleted mutation.playlist true
            else s.deleted) mutation.playlist = true
          rw [if_pos hdeletion, Function.update_self]
        · exact Nat.le_refl _
      · intro version time hstage
        exact Stage.noConfusion hstage
      · intro version request hstage
        exact Stage.noConfusion hstage
  | returns id =>
      obtain ⟨mutation, hmutation, hreturns⟩ := Option.bind_eq_some_iff.mp hact
      split at hreturns
      · rename_i version item hstage
        obtain rfl := Option.some.inj hreturns
        exact h.returnMutation hmutation hstage hsound
      · exact absurd hreturns (Option.some_ne_none next).symm
  | lists id =>
      obtain ⟨mutation, hmutation, hlists⟩ := Option.bind_eq_some_iff.mp hact
      split at hlists
      · rename_i version hstage
        obtain rfl := Option.some.inj hlists
        exact h.refreshPlaylist hmutation hstage hsound
      · exact absurd hlists (Option.some_ne_none next).symm
  | failsMutation id =>
      obtain ⟨mutation, hmutation, hfails⟩ := Option.bind_eq_some_iff.mp hact
      have hfailed : Kept (s.setStage id mutation .failed) := by
        refine h.setStage id (mayEnter_of_written ?_ ⟨?_, ?_⟩)
        · intro version hversion
          exact absurd hversion (Option.not_mem_none version)
        · intro version time hstage
          exact Stage.noConfusion hstage
        · intro version request hstage
          exact Stage.noConfusion hstage
      split at hfails
      · exact Option.some.inj hfails ▸ hfailed
      · exact Option.some.inj hfails ▸ hfailed
      · exact Option.some.inj hfails ▸ hfailed
      · exact absurd hfails (Option.some_ne_none next).symm
  | elsewhere playlist kind =>
      obtain rfl := Option.some.inj hact
      exact h.bump playlist kind

end Kept

theorem kept_of_initial (hs : Initial s) : Kept s where
  shown := fun detail hdetail => by
    rw [hs.shown] at hdetail
    exact absurd hdetail (Option.not_mem_none detail)
  shownAsked := fun detail hdetail => by
    rw [hs.shown] at hdetail
    exact absurd hdetail (Option.not_mem_none detail)
  cacheId := fun id entry hentry => by
    rw [hs.cache] at hentry
    exact absurd hentry (Option.not_mem_none entry)
  cached := fun id entry hentry => by
    rw [hs.cache] at hentry
    exact absurd hentry (Option.not_mem_none entry)
  asking := fun id request hrequest => by
    rw [hs.inflight] at hrequest
    exact absurd hrequest (Option.not_mem_none request)
  bounded := fun request hrequest => by
    rw [hs.requests] at hrequest
    exact absurd rfl hrequest
  answered := fun id request hrequest => by
    rw [hs.inflight] at hrequest
    exact absurd hrequest (Option.not_mem_none request)
  applied := fun id mutation hmutation => by
    rw [hs.mutations] at hmutation
    exact absurd hmutation (Option.some_ne_none mutation).symm
  refreshing := fun mutation id kind version request hstage => by
    rw [hs.mutations] at hstage
    exact absurd hstage (Option.some_ne_none _).symm
  newest := fun id request hrequest => by
    rw [hs.inflight] at hrequest
    exact absurd hrequest (Option.not_mem_none request)
  awaited := fun request hrequest => by
    rw [hs.awaiting] at hrequest
    exact absurd hrequest (Option.not_mem_none request)
  ordered := fun detail hdetail => by
    rw [hs.shown] at hdetail
    exact absurd hdetail (Option.not_mem_none detail)
  replaced := fun pair hpair => by
    rw [hs.replaced] at hpair
    exact absurd hpair List.not_mem_nil

/-- In every run in which no playlist is opened under another one's detail and every mutation
completes over what shows it, no superseded answer is shown or kept. -/
theorem current_of_sound {run : List (Action × State)} (hs : Initial s)
    (hrun : detailStore.IsRun s run) (hsound : StepsMeet Sound s run) :
    ∀ t ∈ visited s run, Current t := by
  have hkeeps : ∀ s a t, Kept s → detailStore.step s a t → Sound s a → Kept t :=
    fun s a t h hstep hok => h.act hok hstep
  intro t ht
  exact (forall_visited_of_stepsMeet hkeeps (kept_of_initial hs) hrun hsound t ht).current

def emptyPage : State where
  versions _ := ⟨0, 0, 0⟩
  deleted _ := false
  opened := none
  shown := none
  cache _ := none
  inflight _ := none
  requests _ := none
  next := 0
  awaiting := none
  mutations _ := none
  replaced := []

theorem initial_emptyPage : Initial emptyPage :=
  ⟨rfl, rfl, rfl, rfl, rfl, rfl, rfl, rfl⟩

/-- A playlist is opened, a take is put into it, and the server answers the refresh. -/
def openedAndFilled : List Action :=
  [.loads 7 false, .serves 0, .answers 0, .sends 0 7 .entries, .applies 0, .returns 0, .lists 0,
    .serves 1]

theorem current_of_sound_openedAndFilled :
    Current (lastOf emptyPage (follow act emptyPage openedAndFilled)) := by
  refine current_of_sound initial_emptyPage (isRun_follow _ _ _ _) ?_ _ (lastOf_mem_visited _ _)
  refine ⟨Or.inl ?_, trivial, ?_, trivial, trivial, ?_, ?_, trivial, trivial⟩
  · intro detail hdetail
    exact absurd hdetail (Option.not_mem_none detail)
  · intro mutation id kind version hstage
    exact absurd hstage (Option.some_ne_none _).symm
  · intro playlist kind version item hstage hkind
    obtain ⟨-, rfl, -⟩ := Mutation.mk.inj (Option.some.inj hstage)
    exact absurd rfl hkind
  · intro playlist kind version hstage hother
    obtain ⟨rfl, -, -⟩ := Mutation.mk.inj (Option.some.inj hstage)
    exact absurd rfl hother

/-- A playlist that is kept for a reopening is renamed from elsewhere on the page. -/
def renamedClosed : List Action :=
  [.loads 7 false, .serves 0, .answers 0, .deselects, .sends 0 7 .rename, .applies 0, .returns 0]

theorem renamed_playlist_reopened_old : ¬ ∀ s, detailStore.Reachable s → Current s := by
  intro hall
  have hstart : detailStore.Reachable emptyPage := .initial initial_emptyPage
  have hcached := (hall _ (reachable_follow hstart renamedClosed)).cached 7 ⟨7, ⟨0, 0, 0⟩, 0⟩
    (by decide +kernel) 0 .rename 1 1 (by decide +kernel)
  exact absurd hcached.2 (by decide)

end Songmaker.Playlists.DetailCache
