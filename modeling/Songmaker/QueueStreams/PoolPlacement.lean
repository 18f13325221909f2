import Songmaker.QueueStreams.LibraryPool

namespace Songmaker.QueueStreams.LibraryPool

section Unseen

variable {α κ : Type} [DecidableEq κ] {key : α → κ}

theorem key_notMem_of_mem_keepUnseen {seen : List κ} {xs : List α} {x : α}
    (hx : x ∈ keepUnseen key seen xs) : key x ∉ seen := by
  induction xs generalizing seen with
  | nil => exact absurd hx List.not_mem_nil
  | cons y xs ih =>
      rw [keepUnseen] at hx
      split_ifs at hx with hseen
      · exact ih hx
      · rcases List.mem_cons.mp hx with rfl | hx
        · exact hseen
        · exact fun hmem => ih hx (List.mem_cons_of_mem _ hmem)

theorem keepUnseen_nodup (seen : List κ) (xs : List α) :
    ((keepUnseen key seen xs).map key).Nodup := by
  induction xs generalizing seen with
  | nil => exact List.nodup_nil
  | cons x xs ih =>
      rw [keepUnseen]
      split_ifs with hseen
      · exact ih seen
      · rw [List.map_cons, List.nodup_cons]
        refine ⟨?_, ih (key x :: seen)⟩
        intro hmem
        obtain ⟨y, hy, hkey⟩ := List.mem_map.mp hmem
        exact key_notMem_of_mem_keepUnseen hy (hkey ▸ List.mem_cons_self)

theorem keepUnseen_eq_self {seen : List κ} {xs : List α} (hnodup : (xs.map key).Nodup)
    (hseen : ∀ x ∈ xs, key x ∉ seen) : keepUnseen key seen xs = xs := by
  induction xs generalizing seen with
  | nil => rfl
  | cons x xs ih =>
      rw [List.map_cons, List.nodup_cons] at hnodup
      rw [keepUnseen, if_neg (hseen x List.mem_cons_self)]
      congr 1
      apply ih hnodup.2
      intro y hy hmem
      rcases List.mem_cons.mp hmem with hkey | hmem
      · exact hnodup.1 (hkey ▸ List.mem_map_of_mem hy)
      · exact hseen y (List.mem_cons_of_mem _ hy) hmem

end Unseen

def QueueStreamSource.takeId (source : QueueStreamSource) : String :=
  source.generation.id

theorem collect_nodup (songs : List Song) (pool : LibraryTakePool)
    (startGen : Option Generation) :
    ((collectLibraryPoolGenerations songs pool startGen).map Generation.id).Nodup := by
  have hselected : ((keepUnseen Generation.id [] (songs.flatMap (poolTakes pool))).map
      Generation.id).Nodup := keepUnseen_nodup [] _
  unfold collectLibraryPoolGenerations
  cases startGen with
  | none => exact hselected
  | some start =>
      dsimp only
      split_ifs with hstart
      · exact List.nodup_cons.mpr ⟨hstart.1, hselected⟩
      · exact hselected

theorem start_mem_collect {songs : List Song} {pool : LibraryTakePool} {start : Generation}
    (hstart : start.isArchived = false) :
    start.id ∈ (collectLibraryPoolGenerations songs pool (some start)).map Generation.id := by
  unfold collectLibraryPoolGenerations
  dsimp only
  split_ifs with hunseen
  · exact List.mem_cons_self
  · rw [hstart] at hunseen
    simpa using hunseen

theorem map_takeId_candidateSources (generations : List Generation) :
    (libraryCandidateSources generations).map QueueStreamSource.takeId =
      generations.map Generation.id := by
  apply List.ext_getElem
  · simp only [libraryCandidateSources, List.length_map, List.length_mapIdx]
  · intro i _ _
    simp only [libraryCandidateSources, List.getElem_map, List.getElem_mapIdx,
      QueueStreamSource.takeId]

theorem libraryCandidates_nodup (songs : List Song) (pool : LibraryTakePool)
    (startGen : Option Generation) :
    ((libraryCandidates songs pool startGen).map QueueStreamSource.takeId).Nodup := by
  unfold libraryCandidates
  rw [map_takeId_candidateSources]
  exact collect_nodup _ pool startGen

theorem start_mem_libraryCandidates {songs : List Song} {pool : LibraryTakePool}
    {start : Generation} (hstart : start.isArchived = false) :
    start.id ∈ (libraryCandidates songs pool (some start)).map QueueStreamSource.takeId := by
  unfold libraryCandidates
  rw [map_takeId_candidateSources]
  exact start_mem_collect hstart

theorem splitStart_none {id : String} {sources rest : List QueueStreamSource}
    (h : splitStart id sources = (none, rest)) :
    rest = sources ∧ id ∉ sources.map QueueStreamSource.takeId := by
  induction sources generalizing rest with
  | nil => exact ⟨(Prod.mk.inj h).2.symm, List.not_mem_nil⟩
  | cons item items ih =>
      rw [splitStart] at h
      split_ifs at h with hitem
      · exact absurd (Prod.mk.inj h).1 (by simp)
      · obtain ⟨hnone, hrest⟩ := Prod.mk.inj h
        obtain ⟨hitems, hmem⟩ := ih (Prod.ext hnone rfl)
        refine ⟨hrest.symm.trans (congrArg _ hitems), ?_⟩
        rw [List.map_cons, List.mem_cons, not_or]
        exact ⟨fun heq => hitem heq.symm, hmem⟩

theorem splitStart_some {id : String} {sources rest : List QueueStreamSource}
    {start : QueueStreamSource} (h : splitStart id sources = (some start, rest)) :
    start.takeId = id ∧ (start :: rest).Perm sources := by
  induction sources generalizing rest with
  | nil => exact absurd (Prod.mk.inj h).1 (by simp)
  | cons item items ih =>
      rw [splitStart] at h
      split_ifs at h with hitem
      · obtain ⟨hstart, hrest⟩ := Prod.mk.inj h
        rw [Option.some.inj hstart] at hitem ⊢
        rw [hrest]
        exact ⟨hitem, List.Perm.refl _⟩
      · obtain ⟨hstart, hrest⟩ := Prod.mk.inj h
        obtain ⟨hid, hperm⟩ := ih (Prod.ext hstart rfl)
        refine ⟨hid, ?_⟩
        rw [← hrest]
        exact (List.Perm.swap item start _).trans (hperm.cons item)

variable {sources : List QueueStreamSource}

theorem shuffleLibrarySources_perm (shuffle : Shuffle QueueStreamSource) (id : Option String)
    (hnodup : (sources.map QueueStreamSource.takeId).Nodup) :
    (shuffleLibrarySources shuffle sources id).Perm sources := by
  have hunique : keepUnseen (fun source => source.generation.id) [] sources = sources :=
    keepUnseen_eq_self hnodup fun _ _ => List.not_mem_nil
  unfold shuffleLibrarySources
  split_ifs with hlength
  · exact List.Perm.refl _
  · dsimp only
    rw [hunique]
    cases id with
    | none => exact shuffle.perm sources
    | some id =>
        dsimp only
        split
        next rest hsplit =>
          rw [(splitStart_none hsplit).1]
          exact shuffle.perm sources
        next start rest hsplit =>
          exact ((shuffle.perm rest).cons start).trans (splitStart_some hsplit).2

theorem shuffleLibrarySources_start (shuffle : Shuffle QueueStreamSource) {id : String}
    (hnodup : (sources.map QueueStreamSource.takeId).Nodup)
    (hid : id ∈ sources.map QueueStreamSource.takeId) :
    (shuffleLibrarySources shuffle sources (some id)).head?.map QueueStreamSource.takeId =
      some id := by
  have hunique : keepUnseen (fun source => source.generation.id) [] sources = sources :=
    keepUnseen_eq_self hnodup fun _ _ => List.not_mem_nil
  unfold shuffleLibrarySources
  split_ifs with hlength
  · obtain ⟨source, hsource, rfl⟩ := List.mem_map.mp hid
    obtain ⟨only, rfl⟩ : ∃ only, sources = [only] :=
      List.length_eq_one_iff.mp (le_antisymm hlength (List.length_pos_of_mem hsource))
    rw [List.mem_singleton.mp hsource]
    rfl
  · dsimp only
    rw [hunique]
    split
    next rest hsplit => exact absurd hid (splitStart_none hsplit).2
    next start rest hsplit => exact congrArg some (splitStart_some hsplit).1

theorem rotateSourcesToStart_perm (id : String) :
    (rotateSourcesToStart sources id).Perm sources := by
  unfold rotateSourcesToStart
  split
  next => exact List.Perm.refl _
  next position hposition =>
    have hsplit := List.take_append_drop position sources
    exact List.perm_append_comm.trans (List.Perm.of_eq hsplit)

theorem orderLibraryCandidates_perm (startGen : Option Generation)
    (shuffle : Option (Shuffle QueueStreamSource))
    (hnodup : (sources.map QueueStreamSource.takeId).Nodup) :
    (orderLibraryCandidates sources startGen shuffle).Perm sources := by
  unfold orderLibraryCandidates
  cases shuffle with
  | some shuffle => exact shuffleLibrarySources_perm shuffle _ hnodup
  | none =>
      cases startGen with
      | none => exact List.Perm.refl _
      | some start => exact rotateSourcesToStart_perm start.id

variable {limits : ScanLimits} {audio : String → StoredAudio} {startGen : Option Generation}

theorem librarySkip_generationId {generation : Generation} {skip : QueueStreamSkipResponse}
    (h : librarySkip audio generation = some skip) : skip.generationId = generation.id := by
  unfold librarySkip at h
  dsimp only at h
  split_ifs at h
  · rw [← Option.some.inj h]
  · split at h
    all_goals first
      | exact congrArg QueueStreamSkipResponse.generationId (Option.some.inj h).symm
      | exact absurd h (Option.some_ne_none skip).symm

/-- What a scan has added after its first `n` candidates. -/
structure ScanReaches (limits : ScanLimits) (audio : String → StoredAudio)
    (sources : List QueueStreamSource) (scan scan' : Scan) (n : Nat) : Prop where
  within : n ≤ sources.length
  scanned : scan'.scanned = scan.scanned + n
  skipped : scan'.skipped = scan.skipped ++
    (sources.take n).filterMap fun source => librarySkip audio source.generation
  playable : scan'.playableSources = scan.playableSources ++
    (sources.take n).filter fun source => (librarySkip audio source.generation).isNone
  stops : n < sources.length → scan'.stops limits

theorem ScanReaches.cons {source : QueueStreamSource} {scan next scan' : Scan} {n : Nat}
    (hnext : next.scanned = scan.scanned + 1)
    (hskipped : next.skipped = scan.skipped ++ (librarySkip audio source.generation).toList)
    (hplayable : next.playableSources = scan.playableSources ++
      [source].filter fun source => (librarySkip audio source.generation).isNone)
    (h : ScanReaches limits audio sources next scan' n) :
    ScanReaches limits audio (source :: sources) scan scan' (n + 1) where
  within := Nat.succ_le_succ h.within
  scanned := by
    rw [h.scanned, hnext]
    omega
  skipped := by
    rw [h.skipped, hskipped, List.append_assoc, List.take_succ_cons, List.filterMap_cons]
    cases librarySkip audio source.generation <;> rfl
  playable := by
    rw [h.playable, hplayable, List.append_assoc, ← List.filter_append, List.take_succ_cons]
    rfl
  stops hn := h.stops (Nat.lt_of_succ_lt_succ hn)

theorem scanFrom_reaches {scan scan' : Scan}
    (h : scanFrom limits audio startGen scan sources = .ok scan') :
    ∃ n, ScanReaches limits audio sources scan scan' n := by
  induction sources generalizing scan with
  | nil =>
      obtain rfl := Except.ok.inj h
      exact ⟨0, le_rfl, rfl, (List.append_nil _).symm, (List.append_nil _).symm,
        fun hn => absurd hn (Nat.lt_irrefl 0)⟩
  | cons source sources ih =>
      rw [scanFrom] at h
      by_cases hstops : scan.stops limits
      · rw [if_pos hstops] at h
        obtain rfl := Except.ok.inj h
        exact ⟨0, Nat.zero_le _, rfl, (List.append_nil _).symm, (List.append_nil _).symm,
          fun _ => hstops⟩
      · rw [if_neg hstops] at h
        cases hskip : librarySkip audio source.generation with
        | some skip =>
            rw [hskip] at h
            dsimp only at h
            split_ifs at h
            obtain ⟨n, hn⟩ := ih h
            refine ⟨n + 1, hn.cons rfl ?_ ?_⟩
            · rw [hskip]
              rfl
            · simp [hskip]
        | none =>
            rw [hskip] at h
            obtain ⟨n, hn⟩ := ih h
            refine ⟨n + 1, hn.cons rfl ?_ ?_⟩
            · simp [hskip]
            · simp [hskip]

theorem scanFrom_within {scan scan' : Scan} (hscanned : scan.scanned ≤ limits.scanLimit)
    (hplayable : scan.playableSources.length ≤ limits.maxTracks + 1)
    (h : scanFrom limits audio startGen scan sources = .ok scan') :
    scan'.scanned ≤ limits.scanLimit ∧
      scan'.playableSources.length ≤ limits.maxTracks + 1 := by
  induction sources generalizing scan with
  | nil =>
      obtain rfl := Except.ok.inj h
      exact ⟨hscanned, hplayable⟩
  | cons source sources ih =>
      rw [scanFrom] at h
      by_cases hstops : scan.stops limits
      · rw [if_pos hstops] at h
        obtain rfl := Except.ok.inj h
        exact ⟨hscanned, hplayable⟩
      · rw [if_neg hstops] at h
        obtain ⟨hunscanned, hroom⟩ := not_or.mp hstops
        have hnext : scan.scanned + 1 ≤ limits.scanLimit := Nat.lt_of_not_le hunscanned
        split at h
        · split_ifs at h
          refine ih ?_ ?_ h
          · exact hnext
          · exact hplayable
        · refine ih ?_ ?_ h
          · exact hnext
          · rw [List.length_append]
            exact Nat.lt_of_not_le hroom

/-- The takes that a stretch of candidates plays and the ones that it skips are all of them. -/
theorem played_and_skipped_perm (audio : String → StoredAudio)
    (sources : List QueueStreamSource) :
    ((sources.filter fun source => (librarySkip audio source.generation).isNone).map
        QueueStreamSource.takeId ++
      (sources.filterMap fun source => librarySkip audio source.generation).map
        QueueStreamSkipResponse.generationId).Perm
      (sources.map QueueStreamSource.takeId) := by
  induction sources with
  | nil => exact List.Perm.refl _
  | cons source sources ih =>
      cases hskip : librarySkip audio source.generation with
      | none =>
          simp only [List.filter_cons, List.filterMap_cons, hskip]
          exact ih.cons _
      | some skip =>
          simp only [List.filter_cons, List.filterMap_cons, hskip, List.map_cons,
            librarySkip_generationId hskip]
          exact List.perm_middle.trans (ih.cons _)

end Songmaker.QueueStreams.LibraryPool
