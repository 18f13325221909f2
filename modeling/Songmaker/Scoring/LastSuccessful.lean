import Songmaker.Foundation.LastWriter
import Songmaker.Scoring.StoredScores

namespace Songmaker.Scoring.LastSuccessful

open Songmaker.Foundation
open Songmaker.Foundation.LastWriter
open Songmaker.Foundation.TransitionSystem
open Songmaker.Scoring.ScorePipeline
open Songmaker.Scoring.StoredScores

/-- The last execution of a scorer. -/
def lastExecution (name : ScorerName) : List AnyExecution → Option (ScorerExecution name)
  | [] => none
  | execution :: rest =>
      (lastExecution name rest).or
        (if h : execution.1 = name then some (h ▸ execution.2) else none)

/-- The score that a run's scorer ended well with. -/
def okScore (name : ScorerName) : Operation → Option (ScoreType name)
  | .scoringRun request =>
      match lastExecution name request.executions with
      | some (.ok score) => some score
      | _ => none
  | .coherenceVerdict .. => none

/-- What a coherence verdict stores. -/
def verdict : Operation → Option (Int × String)
  | .scoringRun _ => none
  | .coherenceVerdict score summary => some (score, summary)

/-- What is stored of a take is what the last operations that were committed say. -/
structure ScoresKept (state : State) : Prop where
  one_row : state.batch.length ≤ 1
  scored : ∀ name, ∀ key ∈ (scorers name).outputKeys,
    state.storedValue key =
      (last (okScore name) state.commits).bind fun score => (scoreToDict name score).lookup key
  judged : state.storedValue coherenceScoreKey =
      (last verdict state.commits).map (fun judged => ScoreValue.count judged.1) ∧
    state.storedValue coherenceSummaryKey =
      (last verdict state.commits).map fun judged => ScoreValue.text judged.2
  transcribed : state.transcript =
    (last (okScore .textAccuracy) state.commits).map fun (score : TextAccuracyScore) =>
      ⟨score.transcript, score.whisperCues⟩

/-- A key changes only with the commit of a run whose scorer for it ended well. -/
def ChangedBySuccess (state next : State) : Prop :=
  ∀ name, ∀ key ∈ (scorers name).outputKeys, next.storedValue key ≠ state.storedValue key →
    ∃ operation, next.commits = state.commits ++ [operation] ∧
      (okScore name operation).isSome = true

/-! ### The scores of a run -/

section Run

theorem byScorer_eq (executions : List AnyExecution) (name : ScorerName) :
    byScorer executions name = lastExecution name executions := by
  have hfold : ∀ found : ByScorer, executions.foldl ByScorer.record found name =
      (lastExecution name executions).or (found name) := by
    induction executions with
    | nil => exact fun found => rfl
    | cons execution rest ih =>
        intro found
        rw [List.foldl_cons, ih, lastExecution, Option.or_assoc, ByScorer.record]
        congr 1
        split
        next h =>
          subst h
          rw [Function.update_self]
          rfl
        next h =>
          rw [Function.update_of_ne (Ne.symm h)]
          rfl
  rw [byScorer, hfold]
  exact Option.or_none

theorem values_eq (request : ScoringRequest) (name : ScorerName) :
    request.songScores.values name = okScore name (.scoringRun request) := by
  change (byScorer request.executions name).bind ScorerExecution.value = _
  rw [byScorer_eq, okScore]
  cases lastExecution name request.executions with
  | none => rfl
  | some execution =>
      cases execution with
      | ok score => rfl
      | failed detail => rfl
      | skipped detail => rfl
      | timedOut detail => rfl

theorem mem_of_lastExecution {name : ScorerName} {executions : List AnyExecution}
    {execution : ScorerExecution name} (h : lastExecution name executions = some execution) :
    ⟨name, execution⟩ ∈ executions := by
  induction executions with
  | nil => cases h
  | cons first rest ih =>
      rw [lastExecution] at h
      rcases Option.or_eq_some_iff.mp h with hrest | ⟨-, hfirst⟩
      · exact List.mem_cons_of_mem first (ih hrest)
      · obtain ⟨other, held⟩ := first
        rw [Option.dite_none_right_eq_some] at hfirst
        obtain ⟨rfl, hheld⟩ := hfirst
        obtain rfl := Option.some.inj hheld
        exact List.mem_cons_self

theorem mem_runnableCalls {registered : List ScorerName} {calls : List (String × CallEnding)}
    {call : ScorerName × CallEnding} (h : call ∈ runnableCalls registered calls) :
    ∃ text ∈ calls.map Prod.fst, scorerOf text = some call.1 := by
  obtain ⟨named, hnamed, hfound⟩ := List.mem_filterMap.mp h
  obtain ⟨name, hname, rfl⟩ := Option.map_eq_some_iff.mp hfound
  exact ⟨named.1, List.mem_map_of_mem hnamed, (Option.filter_eq_some_iff.mp hname).1⟩

theorem named_of_mem {request : ScoringRequest} {execution : AnyExecution}
    (h : execution ∈ request.executions) :
    ∃ text ∈ request.calls.map Prod.fst, scorerOf text = some execution.1 := by
  rcases List.mem_append.mp h with hskipped | hran
  · obtain ⟨named, hnamed, hfound⟩ := List.mem_filterMap.mp hskipped
    obtain ⟨name, hname, rfl⟩ := Option.map_eq_some_iff.mp hfound
    exact ⟨named.1, List.mem_map_of_mem hnamed, (Option.filter_eq_some_iff.mp hname).1⟩
  · obtain ⟨call, hcall, rfl⟩ := List.mem_map.mp hran
    rcases List.mem_append.mp hcall with hgpu | hcpu
    · exact mem_runnableCalls (List.mem_of_mem_filter hgpu)
    · exact mem_runnableCalls (List.mem_of_mem_filter (request.done.mem_iff.mp hcpu))

theorem producedValue_run {name : ScorerName} (execution : ScorerExecution name) :
    execution.run.producedValue = execution.value.isSome := by
  cases execution with
  | ok value => rfl
  | failed detail => rfl
  | skipped detail => rfl
  | timedOut detail => rfl

theorem scorer_run {name : ScorerName} (execution : ScorerExecution name) :
    execution.run.scorer = name := by
  cases execution with
  | ok value => rfl
  | failed detail => rfl
  | skipped detail => rfl
  | timedOut detail => rfl

theorem mem_refreshedOutputKeys {request : ScoringRequest} {key : String} :
    key ∈ request.songScores.refreshedOutputKeys ↔
      ∃ name, (okScore name (.scoringRun request)).isSome = true ∧
        key ∈ (scorers name).outputKeys := by
  rw [SongScores.refreshedOutputKeys, List.mem_flatMap]
  constructor
  · rintro ⟨run, hrun, hkey⟩
    obtain ⟨hrun, hproduced⟩ := List.mem_filter.mp hrun
    obtain ⟨text, -, hfound⟩ := List.mem_filterMap.mp hrun
    obtain ⟨name, -, hname⟩ := Option.bind_eq_some_iff.mp hfound
    obtain ⟨execution, hexecution, rfl⟩ := Option.map_eq_some_iff.mp hname
    rw [scorer_run] at hkey
    rw [producedValue_run] at hproduced
    refine ⟨name, ?_, hkey⟩
    rw [← values_eq]
    change ((byScorer request.executions name).bind ScorerExecution.value).isSome = true
    rw [hexecution]
    exact hproduced
  · rintro ⟨name, hok, hkey⟩
    rw [← values_eq] at hok
    change ((byScorer request.executions name).bind ScorerExecution.value).isSome = true at hok
    cases hexecution : byScorer request.executions name with
    | none =>
        rw [hexecution] at hok
        cases hok
    | some execution =>
        rw [hexecution] at hok
        rw [byScorer_eq] at hexecution
        obtain ⟨text, htext, hname⟩ := named_of_mem (mem_of_lastExecution hexecution)
        refine ⟨execution.run, List.mem_filter.mpr ⟨List.mem_filterMap.mpr ⟨text, htext, ?_⟩, ?_⟩,
          ?_⟩
        · rw [hname, Option.bind_some, byScorer_eq, hexecution]
          rfl
        · rw [producedValue_run]
          exact hok
        · rw [scorer_run]
          exact hkey

/-- The scorer that owns a key. -/
def ownerOf (key : String) : Option ScorerName :=
  toDictOrder.find? fun name => key ∈ (scorers name).outputKeys

theorem ownerOf_eq {name : ScorerName} : ∀ key ∈ (scorers name).outputKeys,
    ownerOf key = some name := by
  cases name with
  | textAccuracy => decide +kernel
  | emotionalDynamics => decide +kernel
  | audiobox => decide +kernel
  | bpmAccuracy => decide +kernel
  | silence => decide +kernel
  | spectralQuality => decide +kernel

theorem owner_unique {name other : ScorerName} {key : String}
    (hkey : key ∈ (scorers name).outputKeys) (hother : key ∈ (scorers other).outputKeys) :
    name = other :=
  Option.some.inj ((ownerOf_eq key hkey).symm.trans (ownerOf_eq key hother))

theorem keys_scoreToDict (name : ScorerName) (score : ScoreType name) :
    ∀ entry ∈ scoreToDict name score, entry.1 ∈ (scorers name).outputKeys := by
  cases name with
  | textAccuracy =>
      intro entry hentry
      rcases List.mem_cons.mp hentry with rfl | hlanguage
      · exact List.mem_cons_self
      · obtain ⟨language, -, rfl⟩ := Option.map_eq_some_iff.mp (Option.mem_toList.mp hlanguage)
        exact List.mem_cons_of_mem _ List.mem_cons_self
  | emotionalDynamics => simp [scoreToDict, scorers]
  | audiobox => simp [scoreToDict, scorers]
  | bpmAccuracy => simp [scoreToDict, scorers]
  | silence => simp [scoreToDict, scorers]
  | spectralQuality => simp [scoreToDict, scorers]

theorem lookup_scoreToDict {name : ScorerName} (score : ScoreType name) {key : String}
    (hkey : key ∉ (scorers name).outputKeys) : (scoreToDict name score).lookup key = none := by
  rw [List.lookup_eq_none_iff]
  intro entry hentry
  rw [bne_iff_ne]
  rintro rfl
  exact hkey (keys_scoreToDict name score entry hentry)

/-- What `toDict` takes over from the scores of some scorers. -/
def taken (scores : SongScores) (result : Values) (name : ScorerName) : Values :=
  match scores.values name with
  | none => result
  | some score => fun key => ((scoreToDict name score).lookup key).or (result key)

theorem taken_of_ne (scores : SongScores) (result : Values) {name owner : ScorerName}
    {key : String} (hkey : key ∈ (scorers owner).outputKeys) (hne : name ≠ owner) :
    taken scores result name key = result key := by
  unfold taken
  cases scores.values name with
  | none => rfl
  | some score =>
      have hforeign : key ∉ (scorers name).outputKeys := fun hother =>
        hne (owner_unique hother hkey)
      change ((scoreToDict name score).lookup key).or (result key) = result key
      rw [lookup_scoreToDict score hforeign]
      rfl

theorem taken_owner (scores : SongScores) (result : Values) (owner : ScorerName)
    (key : String) : taken scores result owner key =
      ((scores.values owner).bind fun score => (scoreToDict owner score).lookup key).or
        (result key) := by
  unfold taken
  cases scores.values owner with
  | none => rfl
  | some score => rfl

theorem toDict_owned (scores : SongScores) {owner : ScorerName} {key : String}
    (hkey : key ∈ (scorers owner).outputKeys) :
    scores.toDict key =
      (scores.values owner).bind fun score => (scoreToDict owner score).lookup key := by
  have hfold : ∀ names : List ScorerName, ∀ result : Values, owner ∉ names →
      names.foldl (taken scores) result key = result key := by
    intro names
    induction names with
    | nil => exact fun result _ => rfl
    | cons name rest ih =>
        intro result hnot
        rw [List.mem_cons, not_or] at hnot
        rw [List.foldl_cons, ih _ hnot.2, taken_of_ne scores result hkey (Ne.symm hnot.1)]
  have hordered : toDictOrder.Nodup := by decide
  have howner : owner ∈ toDictOrder := by
    cases owner with
    | _ => decide
  obtain ⟨before, after, hsplit⟩ := List.append_of_mem howner
  rw [hsplit] at hordered
  obtain ⟨-, hrest, hdisjoint⟩ := List.nodup_append.mp hordered
  have hbefore : owner ∉ before := fun hmem =>
    hdisjoint owner hmem owner List.mem_cons_self rfl
  change toDictOrder.foldl (taken scores) (fun _ => none) key = _
  rw [hsplit, List.foldl_append, List.foldl_cons, hfold after _ (List.nodup_cons.mp hrest).1,
    taken_owner, hfold before _ hbefore]
  exact Option.or_none

theorem toDict_unowned (scores : SongScores) {key : String}
    (hkey : ∀ name, key ∉ (scorers name).outputKeys) : scores.toDict key = none := by
  have hfold : ∀ names : List ScorerName, ∀ result : Values,
      names.foldl (taken scores) result key = result key := by
    intro names
    induction names with
    | nil => exact fun result => rfl
    | cons name rest ih =>
        intro result
        rw [List.foldl_cons, ih, taken_owner]
        cases scores.values name with
        | none => rfl
        | some score =>
            rw [Option.bind_some, lookup_scoreToDict score (hkey name)]
            rfl
  exact hfold toDictOrder fun _ => none

end Run

/-! ### What an operation writes -/

section Writes

/-- What becomes of the value of a key that an operation refreshes. -/
def write (operation : Operation) : Write String (Option ScoreValue) := fun key =>
  if key ∈ operation.refreshedKeys then some (operation.scores key) else none

theorem mem_refreshedKeys_of_scores {operation : Operation} {key : String}
    (h : operation.scores key ≠ none) : key ∈ operation.refreshedKeys := by
  cases operation with
  | scoringRun request =>
      change request.songScores.toDict key ≠ none at h
      change key ∈ request.songScores.refreshedOutputKeys
      rw [mem_refreshedOutputKeys]
      by_contra hnone
      refine h ?_
      by_cases howned : ∃ name, key ∈ (scorers name).outputKeys
      · obtain ⟨owner, hkey⟩ := howned
        rw [toDict_owned _ hkey, values_eq]
        have hfailed : okScore owner (.scoringRun request) = none := by
          rw [← Option.not_isSome_iff_eq_none]
          exact fun hok => hnone ⟨owner, hok, hkey⟩
        rw [hfailed]
        rfl
      · exact toDict_unowned _ (not_exists.mp howned)
  | coherenceVerdict score summary =>
      by_contra hnot
      refine h (List.lookup_eq_none_iff.mpr fun entry hentry => ?_)
      rw [bne_iff_ne]
      rintro rfl
      exact hnot (List.mem_map_of_mem hentry)

theorem merged_eq (existing : Values) (operation : Operation) :
    merged existing operation.scores operation.refreshedKeys =
      (write operation).apply existing := by
  funext key
  unfold merged Write.apply write
  by_cases hkey : key ∈ operation.refreshedKeys
  · rw [if_pos hkey, if_pos hkey, Option.or_none]
    rfl
  · have hnone : operation.scores key = none := by
      by_contra hsome
      exact hkey (mem_refreshedKeys_of_scores hsome)
    rw [if_neg hkey, if_neg hkey, hnone]
    rfl

theorem scores_eq (operation : Operation) :
    operation.scores = (write operation).apply fun _ => none := by
  rw [← merged_eq]
  funext key
  unfold merged
  rw [ite_self, Option.or_none]

theorem ownerOf_coherence :
    ownerOf coherenceScoreKey = none ∧ ownerOf coherenceSummaryKey = none := by
  decide +kernel

theorem write_owned {name : ScorerName} {key : String}
    (hkey : key ∈ (scorers name).outputKeys) (operation : Operation) :
    write operation key =
      (okScore name operation).map fun score => (scoreToDict name score).lookup key := by
  cases operation with
  | scoringRun request =>
      have hrefreshed : key ∈ (Operation.scoringRun request).refreshedKeys ↔
          (okScore name (.scoringRun request)).isSome = true := by
        change key ∈ request.songScores.refreshedOutputKeys ↔ _
        rw [mem_refreshedOutputKeys]
        constructor
        · rintro ⟨other, hok, hother⟩
          rwa [owner_unique hkey hother]
        · exact fun hok => ⟨name, hok, hkey⟩
      have hscores : (Operation.scoringRun request).scores key =
          (okScore name (.scoringRun request)).bind fun score =>
            (scoreToDict name score).lookup key := by
        rw [← values_eq]
        exact toDict_owned request.songScores hkey
      unfold write
      rw [hscores]
      cases hok : okScore name (.scoringRun request) with
      | none =>
          rw [hok] at hrefreshed
          exact if_neg fun hmem => Bool.false_ne_true (hrefreshed.mp hmem)
      | some score =>
          rw [hok] at hrefreshed
          exact if_pos (hrefreshed.mpr rfl)
  | coherenceVerdict score summary =>
      refine if_neg fun hmem => ?_
      have howned := ownerOf_eq key hkey
      rcases List.mem_cons.mp hmem with hscore | hsummary
      · subst hscore
        exact absurd (howned.symm.trans ownerOf_coherence.1) (Option.some_ne_none name)
      · obtain rfl := List.mem_singleton.mp hsummary
        exact absurd (howned.symm.trans ownerOf_coherence.2) (Option.some_ne_none name)

theorem write_unowned {key : String} (hkey : ownerOf key = none) (request : ScoringRequest) :
    write (.scoringRun request) key = none := by
  refine if_neg fun hmem => ?_
  obtain ⟨name, -, howned⟩ := mem_refreshedOutputKeys.mp hmem
  rw [ownerOf_eq key howned] at hkey
  cases hkey

theorem write_coherenceScore (operation : Operation) :
    write operation coherenceScoreKey =
      (verdict operation).map fun judged => some (ScoreValue.count judged.1) := by
  cases operation with
  | scoringRun request => exact write_unowned ownerOf_coherence.1 request
  | coherenceVerdict score summary => rfl

theorem write_coherenceSummary (operation : Operation) :
    write operation coherenceSummaryKey =
      (verdict operation).map fun judged => some (ScoreValue.text judged.2) := by
  cases operation with
  | scoringRun request => exact write_unowned ownerOf_coherence.2 request
  | coherenceVerdict score summary => rfl

theorem transcript_eq (operation : Operation) :
    operation.transcript = (okScore .textAccuracy operation).map
      fun (score : TextAccuracyScore) => ⟨score.transcript, score.whisperCues⟩ := by
  cases operation with
  | scoringRun request =>
      rw [← values_eq]
      rfl
  | coherenceVerdict score summary => rfl

end Writes

/-! ### The transactions -/

/-- A row as it is about to be committed. -/
structure Ready (batch : List BatchRow) (operation : Operation) (inserted : Bool)
    (row : BatchRow) : Prop where
  first : inserted = true → batch = []
  again : inserted = false → ∃ existing, batch = [existing] ∧ row.id = existing.id
  value : row.value = (write operation).apply fun key => batch.head?.bind fun old => old.value key

/-- What a transaction that has the take locked knows of the stored row. -/
def StageKept (batch : List BatchRow) (lockedBy : Option Nat) (writer : Nat) : Stage → Prop
  | .idle | .locking _ => True
  | .reading _ => lockedBy = some writer
  | .merging _ existing => lockedBy = some writer ∧ existing = batch.head?
  | .saved operation inserted row | .transcribed operation inserted row =>
      lockedBy = some writer ∧ Ready batch operation inserted row

/-- The row has, key by key, what the last commit wrote that wrote the key. -/
structure Inv (state : State) : Prop where
  one_row : state.batch.length ≤ 1
  stored : ∀ key,
    state.storedValue key = (last (fun operation => write operation key) state.commits).getD none
  transcribed : state.transcript = last Operation.transcript state.commits
  stages : ∀ writer, StageKept state.batch state.lockedBy writer (state.stage writer)

section Steps

variable {state : State} {writer : Nat}

theorem StageKept.of_other {batch batch' : List BatchRow} {lockedBy : Option Nat} {other : Nat}
    {stage : Stage} (h : StageKept batch lockedBy other stage) (hfree : lockedBy ≠ some other)
    (lockedBy' : Option Nat) : StageKept batch' lockedBy' other stage := by
  cases stage with
  | idle => trivial
  | locking operation => trivial
  | reading operation => exact absurd h hfree
  | merging operation existing => exact absurd h.1 hfree
  | saved operation inserted row => exact absurd h.1 hfree
  | transcribed operation inserted row => exact absurd h.1 hfree

theorem Inv.moveTo (h : Inv state) {stage : Stage}
    (hstage : StageKept state.batch state.lockedBy writer stage) :
    Inv (state.moveTo writer stage) where
  one_row := h.one_row
  stored := h.stored
  transcribed := h.transcribed
  stages other := by
    change StageKept state.batch state.lockedBy other
      (Function.update state.stage writer stage other)
    by_cases hsame : other = writer
    · subst hsame
      rw [Function.update_self]
      exact hstage
    · rw [Function.update_of_ne hsame]
      exact h.stages other

theorem Inv.lockGeneration (h : Inv state) (hfree : state.lockedBy = none)
    (operation : Operation) :
    Inv { state.moveTo writer (.reading operation) with lockedBy := some writer } where
  one_row := h.one_row
  stored := h.stored
  transcribed := h.transcribed
  stages other := by
    change StageKept state.batch (some writer) other
      (Function.update state.stage writer (.reading operation) other)
    by_cases hsame : other = writer
    · subst hsame
      rw [Function.update_self]
      rfl
    · rw [Function.update_of_ne hsame]
      exact (h.stages other).of_other (by simp [hfree]) _

theorem Inv.saveScores (h : Inv state) {operation : Operation} {existing : Option BatchRow}
    (hstage : state.stage writer = .merging operation existing) :
    Inv (state.saveScores writer operation existing) := by
  have hkept := h.stages writer
  rw [hstage] at hkept
  obtain ⟨hlocked, hread⟩ := hkept
  cases existing with
  | none =>
      have hempty : state.batch = [] := List.head?_eq_none_iff.mp hread.symm
      have hsaved : StageKept state.batch state.lockedBy writer
          (.saved operation true ⟨state.nextRow, operation.scores⟩) := by
        refine ⟨hlocked, fun _ => hempty, fun hfalse => absurd hfalse.symm Bool.false_ne_true, ?_⟩
        rw [hempty]
        exact scores_eq operation
      have hmoved := h.moveTo hsaved
      exact ⟨hmoved.one_row, hmoved.stored, hmoved.transcribed, hmoved.stages⟩
  | some existing =>
      have hone : state.batch = [existing] := by
        have hlength := h.one_row
        cases hbatch : state.batch with
        | nil =>
            rw [hbatch] at hread
            cases hread
        | cons first rest =>
            rw [hbatch] at hread hlength
            obtain rfl := Option.some.inj hread
            rw [List.length_cons] at hlength
            rw [List.eq_nil_of_length_eq_zero (by omega : rest.length = 0)]
      refine h.moveTo ⟨hlocked, fun htrue => absurd htrue Bool.false_ne_true,
        fun _ => ⟨existing, hone, rfl⟩, ?_⟩
      rw [hone]
      exact merged_eq existing.value operation

theorem Inv.commit (h : Inv state) {operation : Operation} {inserted : Bool} {row : BatchRow}
    (hstage : state.stage writer = .transcribed operation inserted row) :
    Inv (state.commit writer operation inserted row) := by
  have hkept := h.stages writer
  rw [hstage] at hkept
  obtain ⟨hlocked, hready⟩ := hkept
  have hbatch : (state.commit writer operation inserted row).batch = [row] := by
    unfold State.commit
    dsimp only
    cases inserted with
    | true =>
        rw [hready.first rfl]
        rfl
    | false =>
        obtain ⟨existing, hone, hid⟩ := hready.again rfl
        rw [hone]
        simp [hid]
  refine ⟨?_, ?_, ?_, ?_⟩
  · rw [hbatch]
    exact Nat.le_refl 1
  · intro key
    have hstored : state.storedValue =
        fun other => (last (fun earlier => write earlier other) state.commits).getD none :=
      funext h.stored
    have hrow : row.value key = (write operation).apply state.storedValue key :=
      congrFun hready.value key
    rw [State.storedValue, hbatch]
    change row.value key = _
    rw [hrow, hstored]
    exact last_apply write state.commits operation (fun _ => none) key
  · change operation.transcript.or state.transcript = _
    rw [h.transcribed]
    exact (last_concat Operation.transcript state.commits operation).symm
  · intro other
    change StageKept _ none other (Function.update state.stage writer .idle other)
    by_cases hsame : other = writer
    · subst hsame
      rw [Function.update_self]
      trivial
    · rw [Function.update_of_ne hsame]
      refine (h.stages other).of_other ?_ _
      rw [hlocked]
      exact fun hother => hsame (Option.some.inj hother).symm

theorem Inv.fail (h : Inv state) : Inv (state.fail writer) where
  one_row := h.one_row
  stored := h.stored
  transcribed := h.transcribed
  stages other := by
    change StageKept state.batch _ other (Function.update state.stage writer .idle other)
    by_cases hsame : other = writer
    · subst hsame
      rw [Function.update_self]
      trivial
    · rw [Function.update_of_ne hsame]
      change StageKept state.batch
        (if state.lockedBy = some writer then none else state.lockedBy) other _
      split
      next hlocked =>
        refine (h.stages other).of_other ?_ _
        rw [hlocked]
        exact fun hother => hsame (Option.some.inj hother).symm
      next => exact h.stages other

theorem Inv.act {next : State} {a : Action} (h : Inv state) (hact : act state a = some next) :
    Inv next ∧ (next.commits = state.commits ∨
      ∃ operation, next.commits = state.commits ++ [operation]) := by
  cases a with
  | start writer operation =>
      rw [StoredScores.act] at hact
      split at hact
      · obtain rfl := Option.some.inj hact
        exact ⟨h.moveTo trivial, Or.inl rfl⟩
      · cases hact
  | lockGeneration writer =>
      rw [StoredScores.act] at hact
      split at hact
      next operation hstage =>
        obtain ⟨hfree, rfl⟩ := Option.ite_some_none_eq_some.mp hact
        exact ⟨h.lockGeneration hfree operation, Or.inl rfl⟩
      next => cases hact
  | selectBatch writer =>
      rw [StoredScores.act] at hact
      split at hact
      next operation hstage =>
        obtain rfl := Option.some.inj hact
        have hkept := h.stages writer
        rw [hstage] at hkept
        exact ⟨h.moveTo ⟨hkept, rfl⟩, Or.inl rfl⟩
      next => cases hact
  | saveScores writer =>
      rw [StoredScores.act] at hact
      split at hact
      next operation existing hstage =>
        obtain rfl := Option.some.inj hact
        refine ⟨h.saveScores hstage, Or.inl ?_⟩
        cases existing with
        | none => rfl
        | some row => rfl
      next => cases hact
  | setTranscript writer =>
      rw [StoredScores.act] at hact
      split at hact
      next operation inserted row hstage =>
        obtain rfl := Option.some.inj hact
        have hkept := h.stages writer
        rw [hstage] at hkept
        exact ⟨h.moveTo hkept, Or.inl rfl⟩
      next => cases hact
  | commit writer =>
      rw [StoredScores.act] at hact
      split at hact
      next operation inserted row hstage =>
        obtain rfl := Option.some.inj hact
        exact ⟨h.commit hstage, Or.inr ⟨operation, rfl⟩⟩
      next => cases hact
  | fail writer =>
      obtain rfl := Option.some.inj hact
      exact ⟨h.fail, Or.inl rfl⟩

end Steps

theorem invariant : storedScores.Invariant Inv where
  initial := by
    rintro state rfl
    exact ⟨Nat.zero_le 1, fun _ => rfl, rfl, fun _ => trivial⟩
  step := fun _ _ _ h hact => (h.act hact).1

theorem Inv.storedValue_owned {state : State} (h : Inv state) {name : ScorerName} {key : String}
    (hkey : key ∈ (scorers name).outputKeys) :
    state.storedValue key =
      (last (okScore name) state.commits).bind fun score =>
        (scoreToDict name score).lookup key := by
  have hwrite : (fun operation => write operation key) = fun operation =>
      (okScore name operation).map fun score => (scoreToDict name score).lookup key :=
    funext fun operation => write_owned hkey operation
  rw [h.stored, hwrite, last_map]
  cases last (okScore name) state.commits with
  | none => rfl
  | some score => rfl

theorem Inv.storedValue_judged {state : State} (h : Inv state) {key : String}
    {part : Int × String → ScoreValue}
    (hwrite : ∀ operation, write operation key =
      (verdict operation).map fun judged => some (part judged)) :
    state.storedValue key = (last verdict state.commits).map part := by
  rw [h.stored, funext hwrite, last_map]
  cases last verdict state.commits with
  | none => rfl
  | some judged => rfl

theorem Inv.scoresKept {state : State} (h : Inv state) : ScoresKept state where
  one_row := h.one_row
  scored _ _ hkey := h.storedValue_owned hkey
  judged := ⟨h.storedValue_judged write_coherenceScore,
    h.storedValue_judged write_coherenceSummary⟩
  transcribed := by
    rw [h.transcribed, funext transcript_eq]
    exact last_map (okScore .textAccuracy) _ state.commits

/-- What is stored of a take is what the last successful runs and verdicts found. -/
theorem scores_are_last_successful {state : State} (hreachable : storedScores.Reachable state) :
    ScoresKept state ∧
      ∀ a next, storedScores.step state a next → ChangedBySuccess state next := by
  have hinv := invariant.of_reachable hreachable
  refine ⟨hinv.scoresKept, fun a next hstep name key hkey hchanged => ?_⟩
  obtain ⟨hnext, hcommits⟩ := hinv.act hstep
  rw [hnext.storedValue_owned hkey, hinv.storedValue_owned hkey] at hchanged
  rcases hcommits with hsame | ⟨operation, hone⟩
  · rw [hsame] at hchanged
    exact absurd rfl hchanged
  · refine ⟨operation, hone, ?_⟩
    by_contra hfailed
    rw [Option.not_isSome_iff_eq_none] at hfailed
    rw [hone, last_concat, hfailed] at hchanged
    exact hchanged rfl

/-- Silence is asked for twice: the first call ends well, and the second overruns. -/
def overrunRequest : ScoringRequest where
  registered := [.silence]
  scorers := some ["silence", "bpm_accuracy", "silence"]
  calls := [("silence", .returned (.score .silence ⟨2, 1⟩)), ("bpm_accuracy", .raised ""),
    ("silence", .overran 60)]
  finished := [(.silence, .returned (.score .silence ⟨2, 1⟩)), (.silence, .overran 60)]
  named := rfl
  done := List.Perm.refl _

def textRequest : ScoringRequest where
  registered := [.textAccuracy, .silence]
  scorers := none
  calls := [("text_accuracy", .returned (.score .textAccuracy ⟨1 / 2, ["la"], [], some "en"⟩)),
    ("silence", .returned (.score .silence ⟨3, 0⟩))]
  finished := [(.silence, .returned (.score .silence ⟨3, 0⟩)),
    (.textAccuracy, .returned (.score .textAccuracy ⟨1 / 2, ["la"], [], some "en"⟩))]
  named := rfl
  done := List.Perm.swap _ _ _

/-- The statements of an undisturbed transaction. -/
def transaction (writer : Nat) (operation : Operation) : List Action :=
  [.start writer operation, .lockGeneration writer, .selectBatch writer, .saveScores writer,
    .setTranscript writer, .commit writer]

/-- Two runs and a verdict, and what the take has stored after them. -/
def scoredTake : State :=
  lastOf newTake (follow act newTake (transaction 0 (.scoringRun textRequest) ++
    transaction 1 (.coherenceVerdict 7 "clear") ++ transaction 0 (.scoringRun overrunRequest)))

theorem scores_are_last_successful_scored :
    ScoresKept scoredTake ∧ scoredTake.storedValue "silence_longest" = some (.number 3) := by
  have hnew : storedScores.Reachable newTake := .initial rfl
  have hscored : storedScores.Reachable scoredTake := reachable_follow hnew _
  exact ⟨(scores_are_last_successful hscored).1, by decide +kernel⟩

end Songmaker.Scoring.LastSuccessful
