import Songmaker.Playlists.DetailCache

namespace Songmaker.Playlists.DetailCache

open Songmaker.Foundation
open Songmaker.Foundation.TransitionSystem

/-- The server has made the write. -/
def State.Written (s : State) (id : PlaylistId) (kind : Kind) (version : Nat) : Prop :=
  if kind = .deletion then s.deleted id = true else version ≤ (s.versions id).get kind

/-- Every request from the mutation's refresh on is answered with the write. -/
structure State.Refreshes (s : State) (id : PlaylistId) (kind : Kind) (version : Nat)
    (request : RequestId) : Prop where
  lt : request < s.next
  answered : ∀ later versions, request ≤ later →
    s.requests later = some ⟨id, some (.found versions)⟩ → Reflects versions kind version
  current : ∀ later ∈ s.inflight id, request ≤ later

/-- What is shown and kept reflects every change that was completed before it was asked for. -/
structure Kept (s : State) : Prop where
  shown : ∀ detail ∈ s.shown, s.opened = some detail.id
  shownAsked : ∀ detail ∈ s.shown, detail.asked < s.next
  cacheId : ∀ id, ∀ entry ∈ s.cache id, entry.detail.id = id ∧ entry.detail.asked < s.next
  cached : ∀ id, ∀ entry ∈ s.cache id, entry.fresh = true →
    s.ReflectsCompleted id entry.detail.versions
  asking : ∀ id, ∀ request ∈ s.inflight id, ∃ answer, s.requests request = some ⟨id, answer⟩
  bounded : ∀ request, s.requests request ≠ none → request < s.next
  answered : ∀ id, ∀ request ∈ s.inflight id, ∀ versions,
    s.requests request = some ⟨id, some (.found versions)⟩ → s.ReflectsCompleted id versions
  applied : ∀ id mutation, s.mutations id = some mutation → ∀ version ∈ mutation.stage.version,
    s.Written mutation.playlist mutation.kind version
  refreshing : ∀ mutation id kind version request,
    s.mutations mutation = some ⟨id, kind, .refreshing version request⟩ →
      s.Refreshes id kind version request
  newest : ∀ id, ∀ request ∈ s.inflight id,
    (∀ detail ∈ s.shown, detail.id = id → detail.asked ≤ request) ∧
      ∀ entry ∈ s.cache id, entry.detail.asked ≤ request
  awaited : ∀ request ∈ s.awaiting, ∀ id answer, s.requests request = some ⟨id, answer⟩ →
    s.inflight id = some request
  ordered : ∀ detail ∈ s.shown, ∀ entry ∈ s.cache detail.id, detail.asked ≤ entry.detail.asked
  replaced : ∀ pair ∈ s.replaced, pair.1.asked < s.next ∧
    ¬s.CompletedBetween pair.1.id pair.2.asked pair.1.asked

variable {s : State}

theorem mem_freshPlaylistDetail {id : PlaylistId} {detail : Detail} :
    detail ∈ s.freshPlaylistDetail id ↔ s.cache id = some ⟨detail, true⟩ := by
  constructor
  · intro hmem
    obtain ⟨⟨found, fresh⟩, hentry, rfl⟩ := Option.map_eq_some_iff.mp hmem
    obtain ⟨hcached, hfresh⟩ := Option.filter_eq_some_iff.mp hentry
    have hset : fresh = true := hfresh
    rw [hcached, hset]
  · intro hcached
    exact Option.map_eq_some_iff.mpr
      ⟨⟨detail, true⟩, Option.filter_eq_some_iff.mpr ⟨hcached, rfl⟩, rfl⟩

theorem get_le_bump (versions : Versions) (kind field : Kind) :
    versions.get field ≤ (versions.bump kind).get field := by
  cases kind with
  | deletion => exact Nat.le_refl _
  | _ =>
      cases field with
      | _ => simp [Versions.bump, Versions.get]

theorem reflects_of_written {id : PlaylistId} {kind : Kind} {version : Nat}
    (hwritten : s.Written id kind version) (hdeleted : s.deleted id = false) :
    Reflects (s.versions id) kind version := by
  rw [State.Written] at hwritten
  split at hwritten
  · rw [hdeleted] at hwritten
    exact absurd hwritten Bool.false_ne_true
  · rename_i hkind
    exact ⟨hkind, hwritten⟩

namespace Kept

theorem current (h : Kept s) : Current s where
  shown := h.shown
  replaced := fun pair hpair => (h.replaced pair hpair).2
  cached := by
    intro id detail hfresh
    exact h.cached id _ (mem_freshPlaylistDetail.mp hfresh) rfl

section View

theorem view (h : Kept s) {opened : Option PlaylistId} {shown : Option Detail}
    {awaiting : Option RequestId} (hshown : ∀ detail ∈ shown, opened = some detail.id)
    (hdetail : ∀ detail ∈ shown, detail.asked < s.next ∧
      (∀ request ∈ s.inflight detail.id, detail.asked ≤ request) ∧
      ∀ entry ∈ s.cache detail.id, detail.asked ≤ entry.detail.asked)
    (hawaited : ∀ request ∈ awaiting, ∀ id answer, s.requests request = some ⟨id, answer⟩ →
      s.inflight id = some request) :
    Kept { s with opened := opened, shown := shown, awaiting := awaiting } where
  shown := hshown
  shownAsked := fun detail hmem => (hdetail detail hmem).1
  cacheId := h.cacheId
  cached := h.cached
  asking := h.asking
  bounded := h.bounded
  answered := h.answered
  applied := h.applied
  refreshing := fun mutation id kind version request hstage =>
    ⟨(h.refreshing mutation id kind version request hstage).lt,
      (h.refreshing mutation id kind version request hstage).answered,
      (h.refreshing mutation id kind version request hstage).current⟩
  newest := by
    intro id request hrequest
    refine ⟨?_, (h.newest id request hrequest).2⟩
    rintro detail hmem rfl
    exact (hdetail detail hmem).2.1 request hrequest
  awaited := hawaited
  ordered := fun detail hmem => (hdetail detail hmem).2.2
  replaced := h.replaced

theorem hide (h : Kept s) (opened : Option PlaylistId) :
    Kept { s with opened := opened, shown := none, awaiting := none } := by
  refine h.view ?_ ?_ ?_
  · intro detail hmem
    exact absurd hmem (Option.not_mem_none detail)
  · intro detail hmem
    exact absurd hmem (Option.not_mem_none detail)
  · intro request hmem
    exact absurd hmem (Option.not_mem_none request)

theorem deselectPlaylist (h : Kept s) : Kept s.deselectPlaylist :=
  h.hide none

theorem shown_spec (h : Kept s) {detail : Detail} (hshown : s.shown = some detail) :
    detail.asked < s.next ∧ (∀ request ∈ s.inflight detail.id, detail.asked ≤ request) ∧
      ∀ entry ∈ s.cache detail.id, detail.asked ≤ entry.detail.asked :=
  ⟨h.shownAsked detail hshown,
    fun request hrequest => (h.newest detail.id request hrequest).1 detail hshown rfl,
    h.ordered detail hshown⟩

theorem openPlaylist (h : Kept s) {id : PlaylistId} (hown : ∀ detail ∈ s.shown, detail.id = id) :
    Kept (s.openPlaylist id) := by
  refine h.view ?_ ?_ ?_
  · intro detail hmem
    rw [hown detail hmem]
  · intro detail hmem
    exact h.shown_spec hmem
  · intro request hmem
    exact absurd hmem (Option.not_mem_none request)

theorem noteReplaced (h : Kept s) {before : Option Detail} {detail : Detail}
    (hbefore : ∀ old ∈ before, old.id = detail.id → old.asked < s.next ∧
      ¬s.CompletedBetween old.id detail.asked old.asked) :
    Kept (s.noteReplaced before detail) := by
  unfold State.noteReplaced
  cases before with
  | none => exact h
  | some old =>
      dsimp only
      split
      · rename_i hid
        refine { h with refreshing := ?_, replaced := ?_ }
        · intro mutation id kind version request hstage
          have hbefore := h.refreshing mutation id kind version request hstage
          exact ⟨hbefore.lt, hbefore.answered, hbefore.current⟩
        · intro pair hpair
          rcases List.mem_cons.mp hpair with rfl | hpair
          · exact hbefore old rfl hid
          · exact h.replaced pair hpair
      · exact h

theorem noteReplaced_same (s : State) (before : Option Detail) (detail : Detail) :
    ∃ pairs, s.noteReplaced before detail = { s with replaced := pairs } := by
  unfold State.noteReplaced
  cases before with
  | none => exact ⟨s.replaced, rfl⟩
  | some old =>
      dsimp only
      split
      · exact ⟨_, rfl⟩
      · exact ⟨s.replaced, rfl⟩

theorem noteReplaced_openPlaylist (s : State) (id : PlaylistId) (before : Option Detail)
    (detail : Detail) :
    (s.openPlaylist id).noteReplaced before detail =
      (s.noteReplaced before detail).openPlaylist id := by
  unfold State.noteReplaced
  cases before with
  | none => rfl
  | some old =>
      dsimp only
      split
      · rfl
      · rfl

theorem showPlaylistDetail (h : Kept s) {detail : Detail} (hopened : s.opened = some detail.id)
    (hdetail : detail.asked < s.next ∧
      (∀ request ∈ s.inflight detail.id, detail.asked ≤ request) ∧
      ∀ entry ∈ s.cache detail.id, detail.asked ≤ entry.detail.asked)
    (hlater : ∀ old ∈ s.shown, old.id = detail.id → old.asked ≤ detail.asked) :
    Kept (s.showPlaylistDetail detail) := by
  have hnoted : Kept (s.noteReplaced s.shown detail) := by
    refine h.noteReplaced ?_
    intro old hold hid
    refine ⟨h.shownAsked old hold, ?_⟩
    rintro ⟨mutation, kind, version, time, -, hafter, hbefore⟩
    have hle : old.asked ≤ detail.asked := hlater old hold hid
    exact absurd (Nat.lt_of_lt_of_le hafter (Nat.le_trans hbefore hle)) (Nat.lt_irrefl _)
  obtain ⟨pairs, hsame⟩ := noteReplaced_same s s.shown detail
  rw [State.showPlaylistDetail]
  rw [hsame] at hnoted ⊢
  refine hnoted.view ?_ ?_ hnoted.awaited
  · intro found hfound
    obtain rfl := Option.some.inj hfound
    exact hopened
  · intro found hfound
    obtain rfl := Option.some.inj hfound
    exact hdetail

end View

section Cache

theorem setCache (h : Kept s) (id : PlaylistId) {entry : Option CachedDetail}
    (hentry : ∀ found ∈ entry, found.detail.id = id ∧ found.detail.asked < s.next ∧
      (found.fresh = true → s.ReflectsCompleted id found.detail.versions) ∧
      (∀ request ∈ s.inflight id, found.detail.asked ≤ request) ∧
      ∀ detail ∈ s.shown, detail.id = id → detail.asked ≤ found.detail.asked) :
    Kept { s with cache := Function.update s.cache id entry } := by
  have hcases : ∀ other, ∀ found ∈ Function.update s.cache id entry other,
      other = id ∧ found ∈ entry ∨ found ∈ s.cache other := by
    intro other found hfound
    by_cases hother : other = id
    · subst hother
      rw [Function.update_self] at hfound
      exact Or.inl ⟨rfl, hfound⟩
    · rw [Function.update_of_ne hother] at hfound
      exact Or.inr hfound
  refine { h with cacheId := ?_, cached := ?_, refreshing := ?_, newest := ?_, ordered := ?_ }
  · intro other found hfound
    rcases hcases other found hfound with ⟨rfl, hset⟩ | hkept
    · exact ⟨(hentry found hset).1, (hentry found hset).2.1⟩
    · exact h.cacheId other found hkept
  · intro other found hfound
    rcases hcases other found hfound with ⟨rfl, hset⟩ | hkept
    · exact (hentry found hset).2.2.1
    · exact h.cached other found hkept
  · intro mutation other kind version request hstage
    have hbefore := h.refreshing mutation other kind version request hstage
    exact ⟨hbefore.lt, hbefore.answered, hbefore.current⟩
  · intro other request hrequest
    refine ⟨(h.newest other request hrequest).1, fun found hfound => ?_⟩
    rcases hcases other found hfound with ⟨rfl, hset⟩ | hkept
    · exact (hentry found hset).2.2.2.1 request hrequest
    · exact (h.newest other request hrequest).2 found hkept
  · intro detail hdetail found hfound
    rcases hcases detail.id found hfound with ⟨hid, hset⟩ | hkept
    · exact (hentry found hset).2.2.2.2 detail hdetail hid
    · exact h.ordered detail hdetail found hkept

theorem invalidatePlaylistDetailCache (h : Kept s) (id : PlaylistId) :
    Kept (s.invalidatePlaylistDetailCache id) :=
  h.setCache id fun found hfound => absurd hfound (Option.not_mem_none found)

theorem cachePlaylistDetail (h : Kept s) {detail : Detail}
    (hold : ∀ entry ∈ s.cache detail.id,
      ¬s.CompletedBetween detail.id detail.asked entry.detail.asked)
    (hnew : detail.asked < s.next ∧ s.ReflectsCompleted detail.id detail.versions ∧
      (∀ request ∈ s.inflight detail.id, detail.asked ≤ request) ∧
      ∀ shown ∈ s.shown, shown.id = detail.id → shown.asked ≤ detail.asked) :
    Kept (s.cachePlaylistDetail detail) := by
  have hnoted : Kept (s.noteReplaced ((s.cache detail.id).map CachedDetail.detail) detail) := by
    refine h.noteReplaced ?_
    intro old hmem hid
    obtain ⟨entry, hentry, rfl⟩ := Option.map_eq_some_iff.mp hmem
    refine ⟨(h.cacheId detail.id entry hentry).2, ?_⟩
    rw [hid]
    exact hold entry hentry
  obtain ⟨pairs, hsame⟩ :=
    noteReplaced_same s ((s.cache detail.id).map CachedDetail.detail) detail
  rw [State.cachePlaylistDetail]
  rw [hsame] at hnoted ⊢
  refine hnoted.setCache detail.id ?_
  intro found hfound
  obtain rfl := Option.some.inj hfound
  exact ⟨rfl, hnew.1, fun _ => hnew.2.1, hnew.2.2.1, hnew.2.2.2⟩

end Cache

section Requests

theorem ask (h : Kept s) (id : PlaylistId) : Kept { s.ask id with awaiting := some s.next } := by
  have hother : ∀ request, s.requests request ≠ none → request ≠ s.next := by
    intro request hrequest hnext
    exact Nat.lt_irrefl _ (hnext ▸ h.bounded request hrequest)
  have hrequests : ∀ request found, Function.update s.requests s.next (some ⟨id, none⟩) request =
      some found → request = s.next ∧ found = ⟨id, none⟩ ∨ s.requests request = some found := by
    intro request found hfound
    by_cases hnext : request = s.next
    · subst hnext
      rw [Function.update_self] at hfound
      exact Or.inl ⟨rfl, (Option.some.inj hfound).symm⟩
    · rw [Function.update_of_ne hnext] at hfound
      exact Or.inr hfound
  have hinflight : ∀ other, ∀ request ∈ Function.update s.inflight id (some s.next) other,
      other = id ∧ request = s.next ∨ request ∈ s.inflight other := by
    intro other request hrequest
    by_cases hid : other = id
    · subst hid
      rw [Function.update_self] at hrequest
      exact Or.inl ⟨rfl, (Option.some.inj hrequest).symm⟩
    · rw [Function.update_of_ne hid] at hrequest
      exact Or.inr hrequest
  refine ⟨h.shown, ?_, ?_, h.cached, ?_, ?_, ?_, h.applied, ?_, ?_, ?_, h.ordered, ?_⟩
  · intro detail hdetail
    exact Nat.lt_succ_of_lt (h.shownAsked detail hdetail)
  · intro other entry hentry
    exact ⟨(h.cacheId other entry hentry).1, Nat.lt_succ_of_lt (h.cacheId other entry hentry).2⟩
  · intro other request hrequest
    rcases hinflight other request hrequest with ⟨rfl, rfl⟩ | hbefore
    · exact ⟨none, Function.update_self ..⟩
    · obtain ⟨answer, hanswer⟩ := h.asking other request hbefore
      have hne := hother request (hanswer ▸ Option.some_ne_none _)
      exact ⟨answer, (Function.update_of_ne hne ..).trans hanswer⟩
  · intro request hrequest
    by_cases hnext : request = s.next
    · subst hnext
      exact Nat.lt_succ_self s.next
    · change Function.update s.requests s.next _ request ≠ none at hrequest
      rw [Function.update_of_ne hnext] at hrequest
      exact Nat.lt_succ_of_lt (h.bounded request hrequest)
  · intro other request hrequest versions hfound
    rcases hrequests request _ hfound with ⟨-, hnew⟩ | hbefore
    · exact absurd (congrArg Request.answer hnew) (Option.some_ne_none _)
    · rcases hinflight other request hrequest with ⟨-, rfl⟩ | hasked
      · exact absurd rfl (hother s.next (hbefore ▸ Option.some_ne_none _))
      · exact h.answered other request hasked versions hbefore
  · intro mutation other kind version request hstage
    have hkept := h.refreshing mutation other kind version request hstage
    refine ⟨Nat.lt_succ_of_lt hkept.lt, ?_, ?_⟩
    · intro later versions hlater hfound
      rcases hrequests later _ hfound with ⟨-, hnew⟩ | hbefore
      · exact absurd (congrArg Request.answer hnew) (Option.some_ne_none _)
      · exact hkept.answered later versions hlater hbefore
    · intro later hcurrent
      rcases hinflight other later hcurrent with ⟨-, rfl⟩ | hbefore
      · exact Nat.le_of_lt hkept.lt
      · exact hkept.current later hbefore
  · intro other request hrequest
    rcases hinflight other request hrequest with ⟨-, rfl⟩ | hbefore
    · refine ⟨fun detail hdetail _ => Nat.le_of_lt (h.shownAsked detail hdetail), ?_⟩
      intro entry hentry
      exact Nat.le_of_lt (h.cacheId other entry hentry).2
    · exact h.newest other request hbefore
  · intro request hawaited other answer hfound
    obtain rfl := Option.some.inj hawaited
    rcases hrequests s.next _ hfound with ⟨-, hnew⟩ | hbefore
    · obtain rfl : other = id := congrArg Request.playlist hnew
      exact Function.update_self ..
    · exact absurd rfl (hother s.next (hbefore ▸ Option.some_ne_none _))
  · intro pair hpair
    exact ⟨Nat.lt_succ_of_lt (h.replaced pair hpair).1, (h.replaced pair hpair).2⟩

theorem join (h : Kept s) {id : PlaylistId} {request : RequestId}
    (hrequest : s.inflight id = some request) : Kept { s with awaiting := some request } := by
  refine h.view h.shown (fun detail hshown => h.shown_spec hshown) ?_
  intro found hfound other answer hasked
  obtain rfl := Option.some.inj hfound
  obtain ⟨found, hfound⟩ := h.asking id request hrequest
  have hsame : (⟨id, found⟩ : Request) = ⟨other, answer⟩ :=
    Option.some.inj (hfound.symm.trans hasked)
  obtain rfl : id = other := congrArg Request.playlist hsame
  exact hrequest

theorem fetchPlaylistDetailDeduped (h : Kept s) (id : PlaylistId) (force : Bool) :
    Kept (s.fetchPlaylistDetailDeduped id force) := by
  rw [State.fetchPlaylistDetailDeduped]
  split
  · rename_i request hrequest
    split
    · exact h.ask id
    · exact h.join hrequest
  · exact h.ask id

theorem loadPlaylistDetail (h : Kept s) {id : PlaylistId} {forceRefresh : Bool}
    (hsound : (∀ detail ∈ s.shown, detail.id = id) ∨
      forceRefresh = false ∧ s.freshPlaylistDetail id ≠ none) :
    Kept (s.loadPlaylistDetail id forceRefresh) := by
  rw [State.loadPlaylistDetail]
  split
  · rename_i hforce
    have hown := hsound.resolve_right fun hplain => absurd (hforce.symm.trans hplain.1) (by decide)
    have hforgotten := (h.openPlaylist hown).invalidatePlaylistDetailCache id
    exact hforgotten.fetchPlaylistDetailDeduped id true
  · split
    · rename_i detail hfresh
      have hentry := mem_freshPlaylistDetail.mp hfresh
      obtain ⟨rfl, hasked⟩ := h.cacheId id _ hentry
      have hnoted : Kept (s.noteReplaced s.shown detail) := by
        refine h.noteReplaced ?_
        intro old hold hid
        refine ⟨h.shownAsked old hold, ?_⟩
        rintro ⟨mutation, kind, version, time, -, hafter, hbefore⟩
        have hle := h.ordered old hold _ (hid ▸ hentry)
        exact absurd (Nat.lt_of_lt_of_le hafter (Nat.le_trans hbefore hle)) (Nat.lt_irrefl _)
      rw [State.showPlaylistDetail, noteReplaced_openPlaylist]
      change Kept { (s.noteReplaced s.shown detail).openPlaylist detail.id with
        shown := some detail }
      obtain ⟨pairs, hpairs⟩ := noteReplaced_same s s.shown detail
      rw [hpairs] at hnoted ⊢
      refine hnoted.view ?_ ?_ ?_
      · intro found hfound
        obtain rfl := Option.some.inj hfound
        rfl
      · intro found hfound
        obtain rfl := Option.some.inj hfound
        refine ⟨hasked, fun request hrequest => (h.newest _ request hrequest).2 _ hentry, ?_⟩
        intro entry hfound
        obtain rfl := Option.some.inj (hentry.symm.trans hfound)
        exact Nat.le_refl _
      · intro request hmem
        exact absurd hmem (Option.not_mem_none request)
    · rename_i hstale
      have hown := hsound.resolve_right fun hplain => hplain.2 hstale
      exact (h.openPlaylist hown).fetchPlaylistDetailDeduped id false

theorem serve (h : Kept s) {id : PlaylistId} {request : RequestId}
    (hrequest : s.requests request = some ⟨id, none⟩) {answer : Answer}
    (hanswer : ∀ versions, answer = .found versions →
      s.deleted id = false ∧ versions = s.versions id) :
    Kept { s with requests := Function.update s.requests request (some ⟨id, some answer⟩) } := by
  have hcases : ∀ other found,
      Function.update s.requests request (some ⟨id, some answer⟩) other = some found →
        other = request ∧ found = ⟨id, some answer⟩ ∨ s.requests other = some found := by
    intro other found hfound
    by_cases hother : other = request
    · subst hother
      rw [Function.update_self] at hfound
      exact Or.inl ⟨rfl, (Option.some.inj hfound).symm⟩
    · rw [Function.update_of_ne hother] at hfound
      exact Or.inr hfound
  have hplaylist : ∀ other found,
      found ∈ Function.update s.requests request (some ⟨id, some answer⟩) other →
        ∃ before, s.requests other = some ⟨found.playlist, before⟩ := by
    intro other found hfound
    rcases hcases other found hfound with ⟨rfl, rfl⟩ | hbefore
    · exact ⟨none, hrequest⟩
    · exact ⟨found.answer, hbefore⟩
  have hserved : ∀ other owner versions,
      Function.update s.requests request (some ⟨id, some answer⟩) other =
        some ⟨owner, some (.found versions)⟩ →
      (s.deleted owner = false ∧ versions = s.versions owner) ∨
        s.requests other = some ⟨owner, some (.found versions)⟩ := by
    intro other owner versions hfound
    rcases hcases other _ hfound with ⟨-, hnew⟩ | hbefore
    · obtain rfl : owner = id := congrArg Request.playlist hnew
      exact Or.inl (hanswer versions (Option.some.inj (congrArg Request.answer hnew)).symm)
    · exact Or.inr hbefore
  refine { h with asking := ?_, bounded := ?_, answered := ?_, refreshing := ?_, awaited := ?_ }
  · intro other found hfound
    obtain ⟨before, hbefore⟩ := h.asking other found hfound
    by_cases hsame : found = request
    · subst hsame
      obtain rfl : id = other :=
        congrArg Request.playlist (Option.some.inj (hrequest.symm.trans hbefore))
      exact ⟨some answer, Function.update_self ..⟩
    · exact ⟨before, (Function.update_of_ne hsame ..).trans hbefore⟩
  · intro other hother
    by_cases hsame : other = request
    · exact h.bounded other (hsame ▸ hrequest ▸ Option.some_ne_none _)
    · change Function.update s.requests request _ other ≠ none at hother
      rw [Function.update_of_ne hsame] at hother
      exact h.bounded other hother
  · intro other found hfound versions hversions
    rcases hserved found other versions hversions with ⟨hdeleted, rfl⟩ | hbefore
    · intro mutation kind version time hcompleted
      exact reflects_of_written (h.applied mutation _ hcompleted version rfl) hdeleted
    · exact h.answered other found hfound versions hbefore
  · intro mutation owner kind version awaited hstage
    have hkept := h.refreshing mutation owner kind version awaited hstage
    refine ⟨hkept.lt, ?_, hkept.current⟩
    intro later versions hlater hfound
    rcases hserved later owner versions hfound with ⟨hdeleted, rfl⟩ | hbefore
    · exact reflects_of_written (h.applied mutation _ hstage version rfl) hdeleted
    · exact hkept.answered later versions hlater hbefore
  · intro found hfound owner before hbefore
    obtain ⟨former, hformer⟩ := hplaylist found _ hbefore
    exact h.awaited found hfound owner former hformer

theorem endRequest (h : Kept s) {id : PlaylistId} {request : RequestId} {answer : Option Answer}
    (hrequest : s.requests request = some ⟨id, answer⟩) : Kept (s.endRequest id request) := by
  have hrequests : ∀ other found, (s.endRequest id request).requests other = some found →
      other ≠ request ∧ s.requests other = some found := by
    intro other found hfound
    by_cases hsame : other = request
    · subst hsame
      change Function.update s.requests other none other = some found at hfound
      rw [Function.update_self] at hfound
      exact absurd hfound (Option.some_ne_none found).symm
    · change Function.update s.requests request none other = some found at hfound
      rw [Function.update_of_ne hsame] at hfound
      exact ⟨hsame, hfound⟩
  have hinflight : ∀ other, ∀ found ∈ (s.endRequest id request).inflight other,
      found ≠ request ∧ found ∈ s.inflight other := by
    intro other found hfound
    have hown : s.inflight other = some request → other = id := by
      intro hcurrent
      obtain ⟨before, hbefore⟩ := h.asking other request hcurrent
      exact congrArg Request.playlist (Option.some.inj (hbefore.symm.trans hrequest))
    change (if s.inflight id = some request then Function.update s.inflight id none
      else s.inflight) other = some found at hfound
    split at hfound
    · by_cases hsame : other = id
      · subst hsame
        rw [Function.update_self] at hfound
        exact absurd hfound (Option.some_ne_none found).symm
      · rw [Function.update_of_ne hsame] at hfound
        exact ⟨fun hfinal => hsame (hown (hfinal ▸ hfound)), hfound⟩
    · rename_i hanother
      refine ⟨fun hfinal => ?_, hfound⟩
      subst hfinal
      exact hanother (hown hfound ▸ hfound)
  have hkeeps : ∀ other found, found ≠ request → s.inflight other = some found →
      (s.endRequest id request).inflight other = some found := by
    intro other found hne hcurrent
    change (if s.inflight id = some request then Function.update s.inflight id none
      else s.inflight) other = some found
    split
    · rename_i hends
      have hother : other ≠ id := by
        rintro rfl
        exact hne (Option.some.inj (hcurrent.symm.trans hends))
      rw [Function.update_of_ne hother]
      exact hcurrent
    · exact hcurrent
  refine { h with asking := ?_, bounded := ?_, answered := ?_, refreshing := ?_, newest := ?_,
                  awaited := ?_ }
  · intro other found hfound
    obtain ⟨hne, hbefore⟩ := hinflight other found hfound
    obtain ⟨former, hformer⟩ := h.asking other found hbefore
    exact ⟨former, (Function.update_of_ne hne ..).trans hformer⟩
  · intro other hother
    obtain ⟨found, hfound⟩ := Option.ne_none_iff_exists'.mp hother
    exact h.bounded other ((hrequests other found hfound).2 ▸ Option.some_ne_none found)
  · intro other found hfound versions hversions
    exact h.answered other found (hinflight other found hfound).2 versions
      (hrequests found _ hversions).2
  · intro mutation owner kind version awaited hstage
    have hkept := h.refreshing mutation owner kind version awaited hstage
    refine ⟨hkept.lt, ?_, ?_⟩
    · intro later versions hlater hfound
      exact hkept.answered later versions hlater (hrequests later _ hfound).2
    · intro later hlater
      exact hkept.current later (hinflight owner later hlater).2
  · intro other found hfound
    exact h.newest other found (hinflight other found hfound).2
  · intro found hfound owner before hbefore
    obtain ⟨hne, hformer⟩ := hrequests found _ hbefore
    exact hkeeps owner found hne (h.awaited found hfound owner before hformer)

end Requests

section Mutations

/-- What must hold for a mutation to enter its stage. -/
structure MayEnter (s : State) (mutation : Mutation) : Prop where
  written : ∀ version ∈ mutation.stage.version,
    s.Written mutation.playlist mutation.kind version
  completed : ∀ version time, mutation.stage = .completed version time → time = s.next ∧
    s.CacheReflects mutation.playlist mutation.kind version ∧
    s.AnswerReflects mutation.playlist mutation.kind version
  refreshing : ∀ version request, mutation.stage = .refreshing version request →
    s.Refreshes mutation.playlist mutation.kind version request

theorem setMutations (h : Kept s) {mutations : MutationId → Option Mutation}
    (hmutations : ∀ id mutation, mutations id = some mutation →
      s.mutations id = some mutation ∨ MayEnter s mutation) :
    Kept { s with mutations := mutations } := by
  refine { h with cached := ?_, answered := ?_, applied := ?_, refreshing := ?_, replaced := ?_ }
  · intro id entry hentry hfresh mutation kind version time hcompleted
    rcases hmutations mutation _ hcompleted with hbefore | henters
    · exact h.cached id entry hentry hfresh mutation kind version time hbefore
    · refine (henters.completed version time rfl).2.1 entry.detail ?_
      apply mem_freshPlaylistDetail.mpr
      rw [← hfresh]
      exact hentry
  · intro id request hrequest versions hfound mutation kind version time hcompleted
    rcases hmutations mutation _ hcompleted with hbefore | henters
    · exact h.answered id request hrequest versions hfound mutation kind version time hbefore
    · exact (henters.completed version time rfl).2.2 request hrequest versions hfound
  · intro id mutation hmutation version hversion
    rcases hmutations id mutation hmutation with hbefore | henters
    · exact h.applied id mutation hbefore version hversion
    · exact henters.written version hversion
  · intro mutation id kind version request hstage
    rcases hmutations mutation _ hstage with hbefore | henters
    · have hkept := h.refreshing mutation id kind version request hbefore
      exact ⟨hkept.lt, hkept.answered, hkept.current⟩
    · have hkept := henters.refreshing version request rfl
      exact ⟨hkept.lt, hkept.answered, hkept.current⟩
  · intro pair hpair
    obtain ⟨hlt, hnone⟩ := h.replaced pair hpair
    refine ⟨hlt, ?_⟩
    rintro ⟨mutation, kind, version, time, hcompleted, hafter, hbefore⟩
    rcases hmutations mutation _ hcompleted with hformer | henters
    · exact hnone ⟨mutation, kind, version, time, hformer, hafter, hbefore⟩
    · rw [(henters.completed version time rfl).1] at hbefore
      exact absurd (Nat.lt_of_lt_of_le hlt hbefore) (Nat.lt_irrefl _)

theorem setStage (h : Kept s) (id : MutationId) {mutation : Mutation} {stage : Stage}
    (henters : MayEnter s { mutation with stage := stage }) :
    Kept (s.setStage id mutation stage) := by
  refine h.setMutations ?_
  intro other found hfound
  by_cases hother : other = id
  · subst hother
    rw [Function.update_self] at hfound
    exact Or.inr (Option.some.inj hfound ▸ henters)
  · rw [Function.update_of_ne hother] at hfound
    exact Or.inl hfound

theorem mayEnter_of_written {mutation : Mutation}
    (hwritten : ∀ version ∈ mutation.stage.version,
      s.Written mutation.playlist mutation.kind version)
    (hpending : (∀ version time, mutation.stage ≠ .completed version time) ∧
      ∀ version request, mutation.stage ≠ .refreshing version request) : MayEnter s mutation where
  written := hwritten
  completed := fun version time hstage => absurd hstage (hpending.1 version time)
  refreshing := fun version request hstage => absurd hstage (hpending.2 version request)

theorem mayEnter_completed {mutation : Mutation} {version : Nat}
    (hwritten : s.Written mutation.playlist mutation.kind version)
    (hcache : s.CacheReflects mutation.playlist mutation.kind version)
    (hanswer : s.AnswerReflects mutation.playlist mutation.kind version) :
    MayEnter s { mutation with stage := .completed version s.next } where
  written := by
    intro found hfound
    obtain rfl := Option.some.inj hfound
    exact hwritten
  completed := by
    intro found time hstage
    obtain ⟨rfl, rfl⟩ := Stage.completed.inj hstage
    exact ⟨rfl, hcache, hanswer⟩
  refreshing := fun found request hstage => Stage.noConfusion hstage

theorem completeRefreshes (h : Kept s) (request : RequestId)
    (hsound : ∀ mutation id kind version,
      s.mutations mutation = some ⟨id, kind, .refreshing version request⟩ →
        s.CacheReflects id kind version) : Kept (s.completeRefreshes request) := by
  refine h.setMutations ?_
  intro id mutation hmutation
  obtain ⟨⟨playlist, kind, stage⟩, hbefore, hafter⟩ := Option.map_eq_some_iff.mp hmutation
  cases stage with
  | refreshing version awaited =>
      dsimp only at hafter
      split at hafter
      · rename_i hawaited
        subst hawaited
        obtain rfl := hafter
        have hkept := h.refreshing id playlist kind version awaited hbefore
        have hanswer : s.AnswerReflects playlist kind version := by
          intro later hlater versions hfound
          exact hkept.answered later versions (hkept.current later hlater) hfound
        have henters : MayEnter s ⟨playlist, kind, .completed version s.next⟩ :=
          mayEnter_completed (h.applied id _ hbefore version rfl)
            (hsound id playlist kind version hbefore) hanswer
        exact Or.inr henters
      · obtain rfl := hafter
        exact Or.inl hbefore
  | _ =>
      obtain rfl := hafter
      exact Or.inl hbefore

theorem bump (h : Kept s) (id : PlaylistId) (kind : Kind) : Kept (s.bump id kind) := by
  refine { h with applied := ?_, refreshing := ?_ }
  · intro mutation found hfound version hversion
    have hbefore := h.applied mutation found hfound version hversion
    rw [State.Written] at hbefore ⊢
    split
    · rename_i hdeletion
      rw [if_pos hdeletion] at hbefore
      change (if kind = .deletion then Function.update s.deleted id true else s.deleted)
        found.playlist = true
      split
      · by_cases hsame : found.playlist = id
        · rw [hsame, Function.update_self]
        · rw [Function.update_of_ne hsame]
          exact hbefore
      · exact hbefore
    · rename_i hfield
      rw [if_neg hfield] at hbefore
      refine Nat.le_trans hbefore ?_
      change _ ≤ (Function.update s.versions id ((s.versions id).bump kind) found.playlist).get
        found.kind
      by_cases hsame : found.playlist = id
      · subst hsame
        rw [Function.update_self]
        exact get_le_bump (s.versions found.playlist) kind found.kind
      · have hother : Function.update s.versions id ((s.versions id).bump kind) found.playlist
            = s.versions found.playlist := Function.update_of_ne hsame _ _
        exact Nat.le_of_eq (congrArg (Versions.get · found.kind) hother.symm)
  · intro mutation other found version request hstage
    have hkept := h.refreshing mutation other found version request hstage
    exact ⟨hkept.lt, hkept.answered, hkept.current⟩

end Mutations

end Kept

end Songmaker.Playlists.DetailCache
