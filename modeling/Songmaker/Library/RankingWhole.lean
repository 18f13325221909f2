import Songmaker.Library.ListenRanking

/-!
The pages of one read are cut from a list that goes on changing. They make up
the ranking as long as nothing moves across the border of what was read, and no
place leaves the list for a while.
-/

namespace Songmaker.Library.RankingWhole

open Songmaker.Foundation
open Songmaker.Foundation.LeadingItems
open Songmaker.Foundation.TransitionSystem
open Songmaker.Library.ListenRanking
open Songmaker.Library.ListenRanking.Ranking

variable {pageSize : Nat} {s t : Ranking} {places : List ServerPlace} {key : PlaceKey}

section Server

theorem sortKey_injective : Function.Injective PlaceListen.sortKey := by
  rintro ⟨⟨type, id⟩, at'⟩ ⟨⟨type', id'⟩, at''⟩ h
  simp only [PlaceListen.sortKey, toLex_inj, Prod.mk.injEq, OrderDual.toDual_inj] at h
  obtain ⟨rfl, htype, rfl⟩ := h
  cases type with
  | album =>
      cases type' with
      | album => rfl
      | playlist => simp at htype
  | playlist =>
      cases type' with
      | album => simp at htype
      | playlist => rfl

instance : IsTrans PlaceListen mostRecentListenFirst := ⟨fun _ _ _ => le_trans⟩

instance : Std.Total mostRecentListenFirst := ⟨fun a b => le_total a.sortKey b.sortKey⟩

instance : Std.Antisymm mostRecentListenFirst :=
  ⟨fun _ _ hab hba => sortKey_injective (le_antisymm hab hba)⟩

/-- Reading the leading places of each kind is enough: a page is a piece of the whole list. -/
theorem apiLibraryListen_eq (places : List ServerPlace) (offset limit : Nat) :
    apiLibraryListen places offset limit = ((everyListen places).drop offset).take limit := by
  have hwhole : listPlaceListens places (offset + limit) =
      (everyListen places).take (offset + limit) := by
    have hleading := take_insertionSort_append
      (List.pairwise_insertionSort mostRecentListenFirst (kindListens places .album))
      (List.pairwise_insertionSort mostRecentListenFirst (kindListens places .playlist))
      (offset + limit)
    refine hleading.trans (congrArg (List.take (offset + limit)) ?_)
    exact insertionSort_eq_of_perm
      ((List.perm_insertionSort _ _).append (List.perm_insertionSort _ _))
  unfold apiLibraryListen
  rw [hwhole, List.drop_take, Nat.add_sub_cancel_left]

/-- The place is there and was listened to. -/
def Listed (places : List ServerPlace) (key : PlaceKey) : Prop :=
  ∃ place ∈ places, place.key = key ∧ place.live = true ∧ place.playedAt.isSome = true

theorem mem_kindListens {type : PlaceType} {listen : PlaceListen} :
    listen ∈ kindListens places type ↔ ∃ place ∈ places, place.live = true ∧
      place.key.type = type ∧ place.key = listen.key ∧ place.playedAt = some listen.playedAt := by
  unfold kindListens
  rw [List.mem_filterMap]
  constructor
  · rintro ⟨place, hplace, hlisten⟩
    obtain ⟨hmem, hlive⟩ := List.mem_filter.mp hplace
    obtain ⟨at', hat, rfl⟩ := Option.map_eq_some_iff.mp hlisten
    simp only [Bool.and_eq_true, decide_eq_true_eq] at hlive
    exact ⟨place, hmem, hlive.1, hlive.2, rfl, hat⟩
  · rintro ⟨place, hmem, hlive, htype, hkey, hat⟩
    refine ⟨place, List.mem_filter.mpr ⟨hmem, by simp [hlive, htype]⟩, ?_⟩
    rw [hat, Option.map_some, hkey]

theorem mem_listedKeys : key ∈ (everyListen places).map PlaceListen.key ↔ Listed places key := by
  rw [List.mem_map]
  constructor
  · rintro ⟨listen, hlisten, rfl⟩
    rw [everyListen, List.mem_insertionSort, List.mem_append] at hlisten
    rcases hlisten with hlisten | hlisten
    · obtain ⟨place, hmem, hlive, -, hkey, hat⟩ := mem_kindListens.mp hlisten
      exact ⟨place, hmem, hkey, hlive, by simp [hat]⟩
    · obtain ⟨place, hmem, hlive, -, hkey, hat⟩ := mem_kindListens.mp hlisten
      exact ⟨place, hmem, hkey, hlive, by simp [hat]⟩
  · rintro ⟨place, hmem, rfl, hlive, hsome⟩
    obtain ⟨at', hat⟩ := Option.isSome_iff_exists.mp hsome
    refine ⟨⟨place.key, at'⟩, ?_, rfl⟩
    rw [everyListen, List.mem_insertionSort, List.mem_append]
    cases htype : place.key.type with
    | album => exact .inl (mem_kindListens.mpr ⟨place, hmem, hlive, htype, rfl, hat⟩)
    | playlist => exact .inr (mem_kindListens.mpr ⟨place, hmem, hlive, htype, rfl, hat⟩)

theorem map_key_kindListens_sublist (places : List ServerPlace) (type : PlaceType) :
    ((kindListens places type).map PlaceListen.key).Sublist (places.map ServerPlace.key) := by
  induction places with
  | nil => exact .slnil
  | cons place places ih =>
      unfold kindListens at ih ⊢
      rw [List.filter_cons, List.map_cons]
      split
      · cases hat : place.playedAt with
        | none =>
            rw [List.filterMap_cons_none (by rw [hat, Option.map_none])]
            exact ih.cons _
        | some at' =>
            rw [List.filterMap_cons_some (by rw [hat, Option.map_some]), List.map_cons]
            exact ih.cons_cons _
      · exact ih.cons _

theorem nodup_listedKeys (hkeys : (places.map ServerPlace.key).Nodup) :
    ((everyListen places).map PlaceListen.key).Nodup := by
  have hperm := (List.perm_insertionSort mostRecentListenFirst
    (kindListens places .album ++ kindListens places .playlist)).map PlaceListen.key
  unfold everyListen
  rw [hperm.nodup_iff, List.map_append, List.nodup_append]
  refine ⟨hkeys.sublist (map_key_kindListens_sublist places .album),
    hkeys.sublist (map_key_kindListens_sublist places .playlist), ?_⟩
  rintro first hfirst second hsecond rfl
  obtain ⟨listen, hlisten, hkey⟩ := List.mem_map.mp hfirst
  obtain ⟨listen', hlisten', hkey'⟩ := List.mem_map.mp hsecond
  obtain ⟨place, -, -, htype, hplace, -⟩ := mem_kindListens.mp hlisten
  obtain ⟨place', -, -, htype', hplace', -⟩ := mem_kindListens.mp hlisten'
  rw [hplace, hkey] at htype
  rw [hplace', hkey', htype] at htype'
  cases htype'

end Server

section Invariant

/-- What the exchange with the server has kept of a read under way. -/
structure ReadKept (pageSize : Nat) (s : Ranking) (read : ListenRead) : Prop where
  hidden : ∀ key ∈ s.goneHere, key ∈ (read.taken ++ read.served.getD []).map PlaceListen.key →
    key ∈ s.forgotten
  played : ∀ key ∈ read.startKeys, ∀ place ∈ s.places, place.key = key →
    place.playedAt.isSome = true
  log : read.startLog ≤ s.removedLog.length
  forgotten : ∀ key ∈ s.forgotten, key ∈ s.removedLog.drop read.startLog
  served : ∀ page ∈ read.served, ((read.taken ++ page).map PlaceListen.key).Nodup ∧
    (page.length < pageSize → ∀ key ∈ read.startKeys, key ∉ s.removedLog.drop read.startLog →
      Listed s.places key → key ∈ (read.taken ++ page).map PlaceListen.key)

/-- A read knows of every place that is gone, and nothing gone is listed. -/
structure Kept (pageSize : Nat) (s : Ranking) : Prop where
  keys : (s.places.map ServerPlace.key).Nodup
  gone : ∀ key ∈ s.goneHere, s.isLive key = false
  unlisted : ∀ key ∈ s.goneHere, key ∉ s.listened.map PlaceListen.key
  undone : ∀ key, (key, .undo) ∈ s.untold → key ∉ s.goneHere
  untold : (s.untold.map Prod.fst).Nodup
  read : ∀ read ∈ s.read, ReadKept pageSize s read
  idle : s.read = none → s.forgotten = []
  whole : ∀ key ∈ s.rankStart, key ∈ s.rankEnd → key ∉ s.removedLog.drop s.rankLog →
    key ∈ s.listened.map PlaceListen.key
  once : (s.listened.map PlaceListen.key).Nodup
  log : s.rankLog ≤ s.removedLog.length

/-- Whenever the state is ranked and no read is in flight. -/
structure RankedWhole (s : Ranking) : Prop where
  whole : ∀ key ∈ s.rankStart, key ∈ s.rankEnd → key ∉ s.removedLog.drop s.rankLog →
    key ∈ s.listened.map PlaceListen.key
  once : (s.listened.map PlaceListen.key).Nodup
  gone : ∀ key ∈ s.goneHere, key ∉ s.listened.map PlaceListen.key

/-- Nothing has moved across the border of the pages read, and no place that the
list held when the read started comes back to it. -/
def Undisturbed (s : Ranking) : RankingAct → Prop
  | .serves =>
      ∀ read ∈ s.read, (read.taken.map PlaceListen.key).Perm (s.listedKeys.take read.taken.length)
  | .restores key | .changesHere key .undo =>
      ∀ read ∈ s.read, key ∈ read.startKeys → key ∈ s.removedLog.drop read.startLog
  | _ => True

instance (s : Ranking) (action : RankingAct) : Decidable (Undisturbed s action) :=
  match action with
  | .serves =>
      inferInstanceAs (Decidable (∀ read ∈ s.read,
        (read.taken.map PlaceListen.key).Perm (s.listedKeys.take read.taken.length)))
  | .restores key | .changesHere key .undo =>
      inferInstanceAs (Decidable (∀ read ∈ s.read, key ∈ read.startKeys →
        key ∈ s.removedLog.drop read.startLog))
  | .listens _ _ | .removes _ | .changesHere _ .removal | .tells _ | .outdates | .ensures | .reads
  | .receives | .fails | .resumes _ => .isTrue trivial

theorem not_listed_of_not_live (h : s.isLive key = false) : ¬ Listed s.places key := by
  rintro ⟨place, hmem, hkey, hlive, -⟩
  unfold Ranking.isLive at h
  rw [List.any_eq_false] at h
  exact h place hmem (by simp [hkey, hlive])

end Invariant

section ServerSteps

theorem Kept.setPlace (h : Kept pageSize s) {change : ServerPlace → ServerPlace}
    (hkey : ∀ place, (change place).key = place.key)
    (hplayed : ∀ place, place.playedAt.isSome = true → (change place).playedAt.isSome = true)
    (hgone : ∀ other ∈ s.goneHere, (s.setPlace key change).isLive other = false)
    (hlisted : ∀ read ∈ s.read, ∀ other ∈ read.startKeys,
      other ∉ s.removedLog.drop read.startLog → Listed (s.setPlace key change).places other →
        Listed s.places other) : Kept pageSize (s.setPlace key change) := by
  have hkeys : (s.setPlace key change).places.map ServerPlace.key =
      s.places.map ServerPlace.key := by
    unfold Ranking.setPlace
    rw [List.map_map]
    apply List.map_congr_left
    intro place _
    dsimp only [Function.comp_apply]
    split
    · exact hkey place
    · rfl
  refine ⟨hkeys ▸ h.keys, hgone, h.unlisted, h.undone, h.untold, fun read hread => ?_, h.idle,
    h.whole, h.once, h.log⟩
  have hkept := h.read read hread
  refine ⟨hkept.hidden, fun other hother place hplace hsame => ?_, hkept.log, hkept.forgotten,
    fun page hpage => ⟨(hkept.served page hpage).1, fun hshort other hother hremoved hlist => ?_⟩⟩
  · obtain ⟨old, hold, rfl⟩ := List.mem_map.mp hplace
    split
    · rename_i hchanged
      refine hplayed old (hkept.played other hother old hold ?_)
      rw [if_pos hchanged, hkey] at hsame
      exact hsame
    · rename_i hunchanged
      rw [if_neg hunchanged] at hsame
      exact hkept.played other hother old hold hsame
  · exact (hkept.served page hpage).2 hshort other hother hremoved
      (hlisted read hread other hother hremoved hlist)

theorem mem_setPlace {change : ServerPlace → ServerPlace} {place : ServerPlace} :
    place ∈ (s.setPlace key change).places ↔
      ∃ old ∈ s.places, (if old.key = key then change old else old) = place := by
  unfold Ranking.setPlace
  exact List.mem_map

theorem Kept.listens (h : Kept pageSize s) (key : PlaceKey) (at' : Nat) :
    Kept pageSize (s.setPlace key fun place => { place with playedAt := some at' }) := by
  refine h.setPlace (fun _ => rfl) (fun _ _ => rfl) (fun other hother => ?_)
    fun read hread other hother _ hlisted => ?_
  · have hgone := h.gone other hother
    unfold Ranking.isLive at hgone ⊢
    rw [List.any_eq_false] at hgone ⊢
    intro place hplace hlive
    obtain ⟨old, hold, rfl⟩ := mem_setPlace.mp hplace
    apply hgone old hold
    split at hlive
    · exact hlive
    · exact hlive
  · obtain ⟨place, hplace, hkey, hlive, -⟩ := hlisted
    obtain ⟨old, hold, rfl⟩ := mem_setPlace.mp hplace
    have hsame : old.key = other ∧ old.live = true := by
      split at hkey
      · rename_i hchanged
        rw [if_pos hchanged] at hlive
        exact ⟨hkey, hlive⟩
      · rename_i hunchanged
        rw [if_neg hunchanged] at hlive
        exact ⟨hkey, hlive⟩
    exact ⟨old, hold, hsame.1, hsame.2, (h.read read hread).played other hother old hold hsame.1⟩

theorem Kept.removes (h : Kept pageSize s) (key : PlaceKey) :
    Kept pageSize (s.setLive key false) := by
  have hlater : ∀ place ∈ (s.setPlace key fun place => { place with live := false }).places,
      place.live = true → place ∈ s.places := by
    intro place hplace hlive
    obtain ⟨old, hold, rfl⟩ := mem_setPlace.mp hplace
    split at hlive
    · cases hlive
    · rename_i hunchanged
      rw [if_neg hunchanged]
      exact hold
  refine h.setPlace (fun _ => rfl) (fun _ hplayed => hplayed) (fun other hother => ?_)
    fun read _ other _ _ hlisted => ?_
  · have hgone := h.gone other hother
    unfold Ranking.isLive at hgone ⊢
    rw [List.any_eq_false] at hgone ⊢
    intro place hplace hlive
    simp only [Bool.and_eq_true, decide_eq_true_eq] at hlive
    exact hgone place (hlater place hplace hlive.2) (by simp [hlive.1, hlive.2])
  · obtain ⟨place, hplace, hkey, hlive, hplayed⟩ := hlisted
    exact ⟨place, hlater place hplace hlive, hkey, hlive, hplayed⟩

theorem Kept.comesBack (h : Kept pageSize s) (key : PlaceKey) :
    Kept pageSize { s with goneHere := s.goneHere.filter fun other => other ≠ key } := by
  have hold : ∀ other ∈ s.goneHere.filter (fun other => other ≠ key), other ∈ s.goneHere :=
    fun other hother => (List.mem_filter.mp hother).1
  refine ⟨h.keys, fun other hother => h.gone other (hold other hother),
    fun other hother => h.unlisted other (hold other hother),
    fun other hother hgone => h.undone other hother (hold other hgone), h.untold,
    fun read hread => ?_, h.idle, h.whole, h.once, h.log⟩
  have hkept := h.read read hread
  exact ⟨fun other hother => hkept.hidden other (hold other hother), hkept.played, hkept.log,
    hkept.forgotten, hkept.served⟩

theorem Kept.restores (h : Kept pageSize s) (key : PlaceKey)
    (hcalm : ∀ read ∈ s.read, key ∈ read.startKeys → key ∈ s.removedLog.drop read.startLog) :
    Kept pageSize (s.setLive key true) := by
  have hsame : ∀ place ∈ (s.setPlace key fun place => { place with live := true }).places,
      place.key ≠ key → place ∈ s.places := by
    intro place hplace hne
    obtain ⟨old, hold, rfl⟩ := mem_setPlace.mp hplace
    split at hne
    · rename_i hchanged
      exact absurd hchanged hne
    · rename_i hunchanged
      rw [if_neg hunchanged]
      exact hold
  refine (h.comesBack key).setPlace (fun _ => rfl) (fun _ hplayed => hplayed)
    (fun other hother => ?_) fun read hread other hother hremoved hlisted => ?_
  · obtain ⟨hgoneHere, hne⟩ := List.mem_filter.mp hother
    have hne : other ≠ key := by simpa using hne
    have hgone := h.gone other hgoneHere
    unfold Ranking.isLive at hgone ⊢
    rw [List.any_eq_false] at hgone ⊢
    intro place hplace hlive
    simp only [Bool.and_eq_true, decide_eq_true_eq] at hlive
    exact hgone place (hsame place hplace (hlive.1 ▸ hne)) (by simp [hlive.1, hlive.2])
  · obtain ⟨place, hplace, hkey, hlive, hplayed⟩ := hlisted
    have hne : other ≠ key := by
      rintro rfl
      exact hremoved (hcalm read hread hother)
    exact ⟨place, hsame place hplace (hkey ▸ hne), hkey, hlive, hplayed⟩

theorem Kept.changesHere (h : Kept pageSize s) {told : Told}
    (hcalm : told = .undo →
      ∀ read ∈ s.read, key ∈ read.startKeys → key ∈ s.removedLog.drop read.startLog)
    (hchange : s.changesHere key told = some t) : Kept pageSize t := by
  obtain ⟨huntold, hnext⟩ := Option.ite_none_left_eq_some.mp hchange
  obtain rfl := Option.some.inj hnext
  have hset : Kept pageSize (s.setLive key (decide (told = .undo))) := by
    cases told with
    | removal => exact h.removes key
    | undo => exact h.restores key (hcalm rfl)
  refine ⟨hset.keys, hset.gone, hset.unlisted, fun other hother => ?_, ?_,
    fun read hread => ⟨(hset.read read hread).hidden, (hset.read read hread).played,
      (hset.read read hread).log, (hset.read read hread).forgotten,
      (hset.read read hread).served⟩,
    hset.idle, hset.whole, hset.once, hset.log⟩
  · rcases List.mem_append.mp hother with hother | hother
    · exact hset.undone other hother
    · obtain ⟨rfl, rfl⟩ : other = key ∧ Told.undo = told := by simpa using hother
      simp [Ranking.setLive]
  · have hnodup : (s.untold.map Prod.fst ++ [key]).Nodup := by
      rw [List.nodup_append]
      refine ⟨h.untold, List.nodup_singleton key, ?_⟩
      rintro first hfirst second hsecond rfl
      obtain rfl := List.mem_singleton.mp hsecond
      exact huntold hfirst
    simpa using hnodup

end ServerSteps

section Calls

theorem Kept.outdates (h : Kept pageSize s) : Kept pageSize s.outdateLastPlayedRanking :=
  ⟨h.keys, h.gone, h.unlisted, h.undone, h.untold,
    fun read hread => ⟨(h.read read hread).hidden, (h.read read hread).played,
      (h.read read hread).log, (h.read read hread).forgotten, (h.read read hread).served⟩,
    h.idle, h.whole, h.once, h.log⟩

theorem Kept.reads (h : Kept pageSize s) : Kept pageSize s.readLastPlayed := by
  unfold Ranking.readLastPlayed
  split
  · exact h
  · rename_i hnone
    refine ⟨h.keys, h.gone, h.unlisted, h.undone, h.untold, fun read hread => ?_, fun hidle => ?_,
      h.whole, h.once, h.log⟩
    · obtain rfl := Option.some.inj hread
      refine ⟨fun other _ hother => ?_, fun other hother place hplace hkey => ?_, Nat.le_refl _,
        fun other hother => ?_, fun page hpage => ?_⟩
      · cases hother
      · obtain ⟨old, hold, hsame, -, hplayed⟩ := mem_listedKeys.mp hother
        have hplaceEq := List.inj_on_of_nodup_map h.keys hplace hold (hkey.trans hsame.symm)
        exact hplaceEq ▸ hplayed
      · rw [h.idle hnone] at hother
        cases hother
      · cases hpage
    · cases hidle

theorem Kept.ensures (h : Kept pageSize s) : Kept pageSize s.ensureLastPlayedRead := by
  unfold Ranking.ensureLastPlayedRead
  split
  · exact h
  · exact h.reads

theorem Kept.told (h : Kept pageSize s) (i : Nat) :
    Kept pageSize { s with untold := s.untold.eraseIdx i } := by
  have hsublist := List.eraseIdx_sublist s.untold i
  exact ⟨h.keys, h.gone, h.unlisted, fun other hother => h.undone other (hsublist.mem hother),
    h.untold.sublist (hsublist.map Prod.fst),
    fun read hread => ⟨(h.read read hread).hidden, (h.read read hread).played,
      (h.read read hread).log, (h.read read hread).forgotten, (h.read read hread).served⟩,
    h.idle, h.whole, h.once, h.log⟩

theorem drop_concat {log : List PlaceKey} {n : Nat} (hn : n ≤ log.length) (key : PlaceKey) :
    (log ++ [key]).drop n = log.drop n ++ [key] :=
  List.drop_append_of_le_length hn

theorem Kept.forgets (h : Kept pageSize s) (key : PlaceKey)
    (huntold : ∀ told, (key, told) ∉ s.untold) : Kept pageSize (s.forgetListenedPlace key) := by
  have hsublist : ((s.listened.filter fun place => place.key ≠ key).map PlaceListen.key).Sublist
      (s.listened.map PlaceListen.key) := List.filter_sublist.map _
  have hlistened : key ∉ (s.listened.filter fun place => place.key ≠ key).map PlaceListen.key := by
    intro hmem
    obtain ⟨place, hplace, hkey⟩ := List.mem_map.mp hmem
    have hne := (List.mem_filter.mp hplace).2
    simp [hkey] at hne
  have hgone : ∀ other ∈ (s.forgetListenedPlace key).goneHere,
      other ∈ s.goneHere ∨ (other = key ∧ s.isLive key = false) := by
    intro other hother
    unfold Ranking.forgetListenedPlace at hother
    dsimp only at hother
    split at hother
    · exact .inl hother
    · rename_i hlive
      rcases List.mem_cons.mp hother with rfl | hother
      · exact .inr ⟨rfl, by simpa using hlive⟩
      · exact .inl hother
  refine ⟨h.keys, fun other hother => ?_, fun other hother => ?_, fun other hother hmem => ?_,
    h.untold, fun read hread => ?_, fun hidle => ?_, fun other hstart hend hremoved => ?_,
    h.once.sublist hsublist, ?_⟩
  · rcases hgone other hother with hother | ⟨rfl, hlive⟩
    · exact h.gone other hother
    · exact hlive
  · rcases hgone other hother with hother | ⟨rfl, -⟩
    · exact fun hmem => h.unlisted other hother (hsublist.mem hmem)
    · exact hlistened
  · rcases hgone other hmem with hmem | ⟨rfl, -⟩
    · exact h.undone other hother hmem
    · exact huntold .undo hother
  · have hkept := h.read read hread
    have hsome : s.read.isSome = true := by
      rw [show s.read = some read from hread]
      rfl
    have hforgotten : (s.forgetListenedPlace key).forgotten = key :: s.forgotten := if_pos hsome
    refine ⟨fun other hother hmem => ?_, hkept.played, ?_, fun other hother => ?_,
      fun page hpage => ⟨(hkept.served page hpage).1, fun hshort other hother hremoved => ?_⟩⟩
    · rw [hforgotten]
      rcases hgone other hother with hother | ⟨rfl, -⟩
      · exact List.mem_cons_of_mem key (hkept.hidden other hother hmem)
      · exact List.mem_cons_self
    · simpa [Ranking.forgetListenedPlace] using Nat.le_succ_of_le hkept.log
    · change other ∈ (s.removedLog ++ [key]).drop read.startLog
      rw [drop_concat hkept.log]
      rw [hforgotten] at hother
      rcases List.mem_cons.mp hother with rfl | hother
      · simp
      · exact List.mem_append_left _ (hkept.forgotten other hother)
    · change other ∉ (s.removedLog ++ [key]).drop read.startLog at hremoved
      rw [drop_concat hkept.log] at hremoved
      exact (hkept.served page hpage).2 hshort other hother
        fun hmem => hremoved (List.mem_append_left _ hmem)
  · have hnone : s.read.isSome = false := by
      rw [show s.read = none from hidle]
      rfl
    unfold Ranking.forgetListenedPlace
    simp only [hnone, Bool.false_eq_true, if_false]
    exact h.idle hidle
  · change other ∉ (s.removedLog ++ [key]).drop s.rankLog at hremoved
    rw [drop_concat h.log] at hremoved
    obtain ⟨place, hplace, hkey⟩ := List.mem_map.mp
      (h.whole other hstart hend fun hmem => hremoved (List.mem_append_left _ hmem))
    have hne : place.key ≠ key := by
      rintro rfl
      exact hremoved (by simp [hkey])
    exact List.mem_map.mpr ⟨place, List.mem_filter.mpr ⟨hplace, by simpa using hne⟩, hkey⟩
  · simpa [Ranking.forgetListenedPlace] using Nat.le_succ_of_le h.log

theorem Kept.unforgets (h : Kept pageSize s) (hgone : key ∉ s.goneHere) :
    Kept pageSize { s with forgotten := s.forgotten.filter fun other => other ≠ key } := by
  refine ⟨h.keys, h.gone, h.unlisted, h.undone, h.untold, fun read hread => ?_, fun hidle => ?_,
    h.whole, h.once, h.log⟩
  · have hkept := h.read read hread
    refine ⟨fun other hother hmem => ?_, hkept.played, hkept.log, fun other hother => ?_,
      hkept.served⟩
    · have hne : other ≠ key := by
        rintro rfl
        exact hgone hother
      exact List.mem_filter.mpr ⟨hkept.hidden other hother hmem, by simpa using hne⟩
    · exact hkept.forgotten other (List.mem_filter.mp hother).1
  · rw [h.idle hidle]
    rfl

theorem Kept.waits (h : Kept pageSize s) (waiters : List Nat) :
    Kept pageSize { s with waiters := waiters } :=
  ⟨h.keys, h.gone, h.unlisted, h.undone, h.untold,
    fun read hread => ⟨(h.read read hread).hidden, (h.read read hread).played,
      (h.read read hread).log, (h.read read hread).forgotten, (h.read read hread).served⟩,
    h.idle, h.whole, h.once, h.log⟩

theorem Kept.readRestored (h : Kept pageSize s) (hgone : key ∉ s.goneHere) :
    Kept pageSize (s.readRestoredPlace key) := by
  unfold Ranking.readRestoredPlace
  split
  · exact (h.unforgets hgone).waits _
  · exact (h.unforgets hgone).outdates.reads

theorem Kept.tellsUndo (h : Kept pageSize s) {i : Nat} (htold : s.untold[i]? = some (key, .undo)) :
    Kept pageSize ({ s with untold := s.untold.eraseIdx i }.readRestoredPlace key) :=
  (h.told i).readRestored (h.undone key (List.mem_of_getElem? htold))

theorem Kept.tellsRemoval (h : Kept pageSize s) {i : Nat}
    (htold : s.untold[i]? = some (key, .removal)) :
    Kept pageSize ({ s with untold := s.untold.eraseIdx i }.forgetListenedPlace key) := by
  refine (h.told i).forgets key fun told hmem => ?_
  obtain ⟨j, hne, hother⟩ := List.mem_eraseIdx_iff_getElem?.mp hmem
  have hkeys : (s.untold.map Prod.fst)[j]? = (s.untold.map Prod.fst)[i]? := by
    rw [List.getElem?_map, List.getElem?_map, hother, htold]
    rfl
  have hj : j < (s.untold.map Prod.fst).length := by
    rw [List.length_map]
    exact (List.getElem?_eq_some_iff.mp hother).1
  exact hne ((List.getElem?_inj hj h.untold).mp hkeys)

end Calls

section Pages

variable {taken page : List PlaceListen} {startKeys : List PlaceKey} {startLog : Nat}

theorem Kept.serves (h : Kept pageSize s)
    (hread : s.read = some ⟨taken, none, startKeys, startLog⟩)
    (hcalm : (taken.map PlaceListen.key).Perm (s.listedKeys.take taken.length)) :
    Kept pageSize { s with
      read := some ⟨taken, some (apiLibraryListen s.places taken.length pageSize), startKeys,
        startLog⟩ } := by
  have hkept := h.read _ hread
  have hpage : (apiLibraryListen s.places taken.length pageSize).map PlaceListen.key =
      (s.listedKeys.drop (taken.map PlaceListen.key).length).take pageSize := by
    rw [apiLibraryListen_eq, List.map_take, List.map_drop, List.length_map]
    rfl
  have hperm : ((taken ++ apiLibraryListen s.places taken.length pageSize).map
      PlaceListen.key).Perm
        (s.listedKeys.take ((taken.map PlaceListen.key).length + pageSize)) := by
    rw [List.map_append, hpage]
    exact perm_take_add (by rwa [List.length_map])
  have hnodup : s.listedKeys.Nodup := nodup_listedKeys h.keys
  refine ⟨h.keys, h.gone, h.unlisted, h.undone, h.untold, fun read hsame => ?_,
    fun hidle => ?_, h.whole, h.once, h.log⟩
  · obtain rfl := Option.some.inj hsame
    refine ⟨fun other hother hmem => ?_, hkept.played, hkept.log, hkept.forgotten,
      fun served hserved => ?_⟩
    · rw [Option.getD_some, List.map_append] at hmem
      rcases List.mem_append.mp hmem with hmem | hmem
      · exact hkept.hidden other hother (by simpa using hmem)
      · rw [hpage] at hmem
        have hlisted : other ∈ s.listedKeys := List.mem_of_mem_drop (List.mem_of_mem_take hmem)
        exact absurd (mem_listedKeys.mp hlisted) (not_listed_of_not_live (h.gone other hother))
    · obtain rfl := Option.some.inj hserved
      refine ⟨hperm.nodup_iff.mpr (hnodup.sublist (List.take_sublist _ _)),
        fun hshort other _ _ hlisted => ?_⟩
      have hlength : s.listedKeys.length ≤ (taken.map PlaceListen.key).length + pageSize := by
        rw [← List.length_map (f := PlaceListen.key), hpage, List.length_take, List.length_drop]
          at hshort
        omega
      rw [List.take_of_length_le hlength] at hperm
      exact hperm.mem_iff.mpr (mem_listedKeys.mpr hlisted)
  · cases hidle

theorem Kept.receives (h : Kept pageSize s)
    (hread : s.read = some ⟨taken, some page, startKeys, startLog⟩) :
    Kept pageSize { s with read := some ⟨taken ++ page, none, startKeys, startLog⟩ } := by
  have hkept := h.read _ hread
  refine ⟨h.keys, h.gone, h.unlisted, h.undone, h.untold, fun read hsame => ?_,
    fun hidle => ?_, h.whole, h.once, h.log⟩
  · obtain rfl := Option.some.inj hsame
    refine ⟨fun other hother hmem => ?_, hkept.played, hkept.log, hkept.forgotten,
      fun served hserved => ?_⟩
    · exact hkept.hidden other hother (by simpa using hmem)
    · cases hserved
  · cases hidle

theorem Kept.finish (h : Kept pageSize s)
    (hread : s.read = some ⟨taken, some page, startKeys, startLog⟩)
    (hshort : page.length < pageSize) :
    Kept pageSize (s.finish ⟨taken, some page, startKeys, startLog⟩ (taken ++ page)) := by
  have hkept := h.read _ hread
  obtain ⟨hnodup, hall⟩ := hkept.served page rfl
  have hsublist : (((taken ++ page).filter fun place => !s.forgotten.contains place.key).map
      PlaceListen.key).Sublist ((taken ++ page).map PlaceListen.key) := List.filter_sublist.map _
  refine ⟨h.keys, h.gone, fun other hother hmem => ?_, h.undone, h.untold, fun read hsame => ?_,
    fun _ => rfl, fun other hstart hend hremoved => ?_, hnodup.sublist hsublist, hkept.log⟩
  · obtain ⟨place, hplace, rfl⟩ := List.mem_map.mp hmem
    obtain ⟨hplace, hkeep⟩ := List.mem_filter.mp hplace
    have hforgotten := hkept.hidden place.key hother (List.mem_map_of_mem hplace)
    simp [hforgotten] at hkeep
  · cases hsame
  · have hmem := hall hshort other hstart hremoved (mem_listedKeys.mp hend)
    obtain ⟨place, hplace, rfl⟩ := List.mem_map.mp hmem
    refine List.mem_map.mpr ⟨place, List.mem_filter.mpr ⟨hplace, ?_⟩, rfl⟩
    simpa using fun hforgotten => hremoved (hkept.forgotten place.key hforgotten)

theorem Kept.fails (h : Kept pageSize s) : Kept pageSize s.failRead := by
  refine ⟨h.keys, h.gone, h.unlisted, h.undone, h.untold, fun read hread => ?_, fun _ => rfl,
    h.whole, h.once, h.log⟩
  cases hread

end Pages

theorem Kept.act {action : RankingAct} (h : Kept pageSize s)
    (hact : act pageSize s action = some t) (hcalm : Undisturbed s action) : Kept pageSize t := by
  unfold ListenRanking.act at hact
  cases action with
  | listens key at' =>
      obtain rfl := Option.some.inj hact
      exact h.listens key at'
  | removes key =>
      obtain rfl := Option.some.inj hact
      exact h.removes key
  | restores key =>
      obtain rfl := Option.some.inj hact
      exact h.restores key hcalm
  | changesHere key told =>
      refine h.changesHere (fun hundo => ?_) hact
      subst hundo
      exact hcalm
  | tells i =>
      obtain ⟨⟨key, told⟩, htold, rfl⟩ := Option.map_eq_some_iff.mp hact
      cases told with
      | removal => exact h.tellsRemoval htold
      | undo => exact h.tellsUndo htold
  | outdates =>
      obtain rfl := Option.some.inj hact
      exact h.outdates
  | ensures =>
      obtain rfl := Option.some.inj hact
      exact h.ensures
  | reads =>
      obtain rfl := Option.some.inj hact
      exact h.reads
  | serves =>
      dsimp only at hact
      split at hact
      · rename_i taken startKeys startLog hread
        obtain rfl := Option.some.inj hact
        exact h.serves hread (hcalm _ hread)
      · cases hact
  | receives =>
      dsimp only at hact
      split at hact
      · rename_i taken page startKeys startLog hread
        split at hact
        · rename_i hshort
          obtain rfl := Option.some.inj hact
          exact h.finish hread hshort
        · obtain rfl := Option.some.inj hact
          exact h.receives hread
      · cases hact
  | fails =>
      obtain ⟨read, -, rfl⟩ := Option.map_eq_some_iff.mp hact
      exact h.fails
  | resumes i =>
      obtain ⟨read, -, hnext⟩ := Option.bind_eq_some_iff.mp hact
      obtain ⟨-, hnext⟩ := Option.ite_none_left_eq_some.mp hnext
      obtain rfl := Option.some.inj hnext
      exact (h.waits _).outdates.reads

theorem kept_of_opening (h : Opening s) : Kept pageSize s := by
  obtain ⟨hkeys, hs⟩ := h
  rw [hs]
  refine ⟨hkeys, ?_, ?_, ?_, ?_, ?_, fun _ => rfl, ?_, ?_, Nat.le_refl _⟩
  · simp [Ranking.start]
  · simp [Ranking.start]
  · simp [Ranking.start]
  · simp [Ranking.start]
  · simp [Ranking.start]
  · simp [Ranking.start]
  · simp [Ranking.start]

theorem ranked_whole_of_undisturbed {run : List (RankingAct × Ranking)} (hs : Opening s)
    (hrun : (ranking pageSize).IsRun s run) (hcalm : StepsMeet Undisturbed s run) :
    ∀ t ∈ visited s run, t.state = .ranked → t.read = none → RankedWhole t := by
  have hkeeps : ∀ s a t, Kept pageSize s → (ranking pageSize).step s a t → Undisturbed s a →
      Kept pageSize t := fun s a t h hstep hok => h.act hstep hok
  intro t ht _ _
  have h := forall_visited_of_stepsMeet hkeeps (kept_of_opening hs) hrun hcalm t ht
  exact ⟨h.whole, h.once, h.unlisted⟩

def firstAlbum : PlaceKey := ⟨.album, "first"⟩

def secondAlbum : PlaceKey := ⟨.album, "second"⟩

/-- Two albums, the first of them played last. -/
def twoListens : Ranking := .start [⟨firstAlbum, some 2, true⟩, ⟨secondAlbum, some 1, true⟩]

theorem opening_twoListens : Opening twoListens := ⟨by decide, rfl⟩

theorem ranked_whole_two_pages :
    RankedWhole (lastOf twoListens (follow (act 1) twoListens
      [.reads, .serves, .receives, .serves, .receives, .serves, .receives])) :=
  ranked_whole_of_undisturbed opening_twoListens (isRun_follow _ _ _ _) (by decide +kernel) _
    (lastOf_mem_visited _ _) (by decide +kernel) (by decide +kernel)

/-- The first album is archived on another device between two pages. -/
theorem removal_between_pages_skips :
    ¬ ∀ (pageSize : Nat) (s : Ranking), (ranking pageSize).Reachable s → s.state = .ranked →
      s.read = none → RankedWhole s := by
  intro hall
  have hstart : (ranking 1).Reachable twoListens := .initial opening_twoListens
  have hwhole := (hall 1 _ (reachable_follow hstart
    [.reads, .serves, .receives, .removes firstAlbum, .serves, .receives])
    (by decide +kernel) (by decide +kernel)).whole secondAlbum
  exact absurd (hwhole (by decide +kernel) (by decide +kernel) (by decide +kernel))
    (by decide +kernel)

end Songmaker.Library.RankingWhole
