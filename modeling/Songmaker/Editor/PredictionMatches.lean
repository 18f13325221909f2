import Mathlib.Tactic.Linarith
import Songmaker.Editor.PredictedVersion

namespace Songmaker.Editor.PredictedVersion

open Songmaker.Foundation
open Songmaker.Jobs
open Songmaker.Editor.EditorDraft
open Songmaker.Songs.SongSaves
open Songmaker.Songs.VersionImmutability
open Songmaker.Songs.VersionNumbers

/-! ### Generation parameters -/

/-- Generation parameters as the writers store them. -/
def Stored (params : Option (List Knob)) : Prop :=
  genParamsToJson params = params

theorem genParamsToJson_eq (params : Option VersionGenerationParams) :
    genParamsToJson params =
      if dumped (params.getD []) = [] then none else some (dumped (params.getD [])) := by
  cases params with
  | none =>
      have hempty : dumped [] = [] := List.filterMap_eq_nil_iff.mpr fun name _ => rfl
      rw [Option.getD_none, if_pos hempty]
      rfl
  | some params => rfl

theorem dumped_congr {params others : VersionGenerationParams}
    (h : ∀ name, (params.lookup name).filter (· ≠ .null) =
      (others.lookup name).filter (· ≠ .null)) :
    dumped params = dumped others := by
  unfold dumped
  congr 1
  funext name
  rw [h name]

theorem lookup_eq_none {params : VersionGenerationParams} {name : String}
    (h : name ∉ params.map Prod.fst) : params.lookup name = none := by
  rw [List.lookup_eq_none_iff]
  intro entry hentry
  simp only [bne_iff_ne, ne_eq]
  rintro rfl
  exact h (List.mem_map_of_mem hentry)

theorem genParamsToJson_congr {params others : Option VersionGenerationParams}
    (h : genParamsEqual params others = true) :
    genParamsToJson params = genParamsToJson others := by
  have hlookup : ∀ name, (params.getD []).lookup name = (others.getD []).lookup name := by
    intro name
    by_cases hname : name ∈ (params.getD []).map Prod.fst ++ (others.getD []).map Prod.fst
    · have hall := List.all_eq_true.mp h name hname
      simpa using hall
    · rw [List.mem_append, not_or] at hname
      rw [lookup_eq_none hname.1, lookup_eq_none hname.2]
  have hdumped : dumped (params.getD []) = dumped (others.getD []) :=
    dumped_congr fun name => by rw [hlookup name]
  rw [genParamsToJson_eq, genParamsToJson_eq, hdumped]

theorem lookup_filterMap {names : List String} (hnodup : names.Nodup)
    (value : String → Option ParamValue) (name : String) :
    (names.filterMap fun name => (value name).map (name, ·)).lookup name =
      if name ∈ names then value name else none := by
  induction names with
  | nil => rfl
  | cons first rest ih =>
      obtain ⟨hfirst, hrest⟩ := List.nodup_cons.mp hnodup
      rw [List.filterMap_cons]
      cases hvalue : value first with
      | none =>
          rw [Option.map_none]
          dsimp only
          rw [ih hrest]
          by_cases hname : name = first
          · subst hname
            simp [hfirst, hvalue]
          · simp [hname]
      | some found =>
          rw [Option.map_some]
          dsimp only
          rw [List.lookup_cons, ih hrest]
          by_cases hname : name = first
          · subst hname
            simp [hvalue]
          · have hother : (name == first) = false := beq_eq_false_iff_ne.mpr hname
            rw [hother]
            simp [hname]

theorem stored_genParamsToJson (params : Option VersionGenerationParams) :
    Stored (genParamsToJson params) := by
  have hnodup : (baseGenerationParams.map Prod.fst).Nodup := by decide
  have hagain : dumped (dumped (params.getD [])) = dumped (params.getD []) := by
    unfold dumped
    refine List.filterMap_congr fun name hname => ?_
    rw [lookup_filterMap hnodup
        (fun name => ((params.getD []).lookup name).filter (· ≠ .null)) name,
      if_pos hname, Option.filter_filter]
    simp
  unfold Stored
  rw [genParamsToJson_eq params]
  split
  next hempty => rfl
  next hsome =>
    rw [genParamsToJson_eq, Option.getD_some, hagain, if_neg hsome]

/-! ### What the server makes of the request -/

variable {recordings : List Nat} {filename : Nat → String} {state : State Knob} {song : SongId}
  {e : EditorState} {request : SaveRequest Knob}

theorem SongUpdateRequest.received_eq_some {req : SongUpdateRequest}
    (h : req.received recordings = some request) :
    req.bpm.den = 1 ∧ req.audioDuration.den = 1 ∧
      (∀ id ∈ req.referenceRecordingId, ∃ n ∈ recordings, n.repr = id) ∧
      (request.content = fun previous => VersionContent.mk req.lyrics.toList req.prompt.toList
        req.bpm.num req.audioDuration.num req.keyScale.toList
        (versionGenerationParams (some (genParamsToJson req.generationParams)) previous)
        (req.referenceRecordingId.bind fun id => recordings.find? fun n => n.repr = id)) ∧
      request.generationParams = some (genParamsToJson req.generationParams) ∧
      request.forceNewVersion = req.newVersion := by
  rw [SongUpdateRequest.received, Option.ite_none_right_eq_some] at h
  obtain ⟨⟨-, -, hbpm, -, -, hduration, -, -, -, -, hreference⟩, hrequest⟩ := h
  obtain rfl := Option.some.inj hrequest
  refine ⟨hbpm, hduration, fun id hid => (hreference id hid).2, ?_, rfl, rfl⟩
  funext previous
  rfl

theorem filter_genParamsToJson (params : Option VersionGenerationParams) :
    (genParamsToJson params).filter (!·.isEmpty) = genParamsToJson params := by
  rw [genParamsToJson_eq]
  split
  next => rfl
  next hsome => simp [Option.filter, hsome]

theorem repr_inj {n m : Nat} : n.repr = m.repr ↔ n = m := by
  constructor
  · intro h
    have hdigits := congrArg String.toList h
    rw [Nat.toList_repr, Nat.toList_repr] at hdigits
    rw [← Nat.ofDigitChars_ten_toDigits (n := n), hdigits, Nat.ofDigitChars_ten_toDigits]
  · rintro rfl
    rfl

theorem num_eq_iff {value : ℚ} (hden : value.den = 1) (n : ℤ) : value.num = n ↔ value = n := by
  constructor
  · rintro rfl
    exact (Rat.den_eq_one_iff value).mp hden |>.symm
  · rintro rfl
    exact Rat.num_intCast n

theorem toList_eq_iff (text : String) (chars : List Char) :
    text.toList = chars ↔ text = String.ofList chars := by
  constructor
  · rintro rfl
    exact String.ofList_toList.symm
  · rintro rfl
    exact String.toList_ofList

/-- The server compares with its row what the editor compares with what it was given. -/
theorem creativeDiffersFrom_eq {previous : Version Knob}
    (hlatest : state.latestVersion song = some previous)
    (hsaved : e.saved.data = songDataFromSong (songResponse filename state song))
    (hreceived : (saveRequest e).received recordings = some request) :
    (request.content (some previous)).creativeDiffersFrom previous =
      !creativeContentEqual e.draft.data e.saved.data := by
  obtain ⟨hbpm, hduration, -, hcontent, -, -⟩ := SongUpdateRequest.received_eq_some hreceived
  have hsent : e.saved.data = ⟨String.ofList previous.content.lyrics,
      String.ofList previous.content.prompt, previous.content.bpm,
      previous.content.audioDuration, String.ofList previous.content.keyScale,
      previous.content.generationParams,
      referenceOf filename previous.content.referenceRecordingId⟩ := by
    rw [hsaved, songResponse, hlatest]
    rfl
  have hlyrics := toList_eq_iff e.draft.data.lyrics previous.content.lyrics
  have hprompt := toList_eq_iff e.draft.data.prompt previous.content.prompt
  have hkey := toList_eq_iff e.draft.data.keyScale previous.content.keyScale
  have hbpm := num_eq_iff hbpm previous.content.bpm
  have hduration := num_eq_iff hduration previous.content.audioDuration
  rw [hcontent, hsent, VersionContent.creativeDiffersFrom, creativeContentEqual]
  simp only [saveRequest] at hbpm hduration ⊢
  simp only [Bool.not_and, ne_eq, decide_not, hlyrics, hprompt, hkey, hbpm, hduration]

theorem params_eq_iff {previous : Version Knob} (hstored : Stored previous.content.generationParams)
    (hlatest : state.latestVersion song = some previous)
    (hsaved : e.saved.data = songDataFromSong (songResponse filename state song))
    (hreceived : (saveRequest e).received recordings = some request) :
    (request.content (some previous)).generationParams = previous.content.generationParams ↔
      genParamsToJson e.draft.data.genParams = genParamsToJson e.saved.data.genParams := by
  obtain ⟨-, -, -, hcontent, -, -⟩ := SongUpdateRequest.received_eq_some hreceived
  have hsent : e.saved.data.genParams = previous.content.generationParams := by
    rw [hsaved, songDataFromSong, songResponse, hlatest]
    rfl
  have hparams : (request.content (some previous)).generationParams =
      genParamsToJson e.draft.data.genParams := by
    rw [hcontent]
    exact filter_genParamsToJson e.draft.data.genParams
  have hkept : genParamsToJson e.saved.data.genParams = previous.content.generationParams := by
    rw [hsent]
    exact hstored
  rw [hparams, hkept]

theorem reference_eq_iff {previous : Version Knob}
    (hlatest : state.latestVersion song = some previous)
    (hsaved : e.saved.data = songDataFromSong (songResponse filename state song))
    (hreceived : (saveRequest e).received recordings = some request) :
    (request.content (some previous)).referenceRecordingId =
        previous.content.referenceRecordingId ↔
      e.draft.data.reference.map ReferenceResponse.id =
        e.saved.data.reference.map ReferenceResponse.id := by
  obtain ⟨-, -, hfound, hcontent, -, -⟩ := SongUpdateRequest.received_eq_some hreceived
  have hsent : e.saved.data.reference.map ReferenceResponse.id =
      previous.content.referenceRecordingId.map Nat.repr := by
    rw [hsaved, songDataFromSong, songResponse, hlatest]
    change (referenceOf filename previous.content.referenceRecordingId).map _ = _
    rw [referenceOf, Option.map_map]
    rfl
  have hreference : (request.content (some previous)).referenceRecordingId =
      (e.draft.data.reference.map ReferenceResponse.id).bind fun id =>
        recordings.find? fun n => n.repr = id := by
    rw [hcontent]
    rfl
  rw [hreference, hsent]
  cases hdraft : e.draft.data.reference.map ReferenceResponse.id with
  | none =>
      cases previous.content.referenceRecordingId with
      | none => simp
      | some m => simp
  | some id =>
      obtain ⟨n, hn, rfl⟩ := hfound id hdraft
      have hfind : recordings.find? (fun m => m.repr = n.repr) = some n := by
        cases hfind : recordings.find? (fun m => m.repr = n.repr) with
        | none =>
            have hnone := List.find?_eq_none.mp hfind n hn
            simp at hnone
        | some m =>
            have hm : m.repr = n.repr := by simpa using List.find?_some hfind
            rw [repr_inj.mp hm]
      rw [Option.bind_some, hfind]
      cases previous.content.referenceRecordingId with
      | none => simp
      | some m => rw [Option.map_some, Option.some_inj, Option.some_inj, repr_inj]

/-! ### What the editor was given -/

theorem head_versionsResponse :
    (versionsResponse filename state song).head? =
      (state.latestVersion song).map (versionResponse filename) := by
  rw [versionsResponse, List.head?_map, List.head?_reverse, latestVersion_eq]

theorem isActiveJobStatus_iff (status : JobStatus) :
    isActiveJobStatus status = true ↔ status ∈ jobActiveStatuses := by
  cases status <;> decide

theorem rendering_iff (version : VersionId) :
    version.repr ∈ ((jobsResponse state).filter fun job => isActiveJobStatus job.status &&
        job.versionId.any fun id => id ≠ "").filterMap ActiveJob.versionId ↔
      state.hasActiveJobForVersion version = true := by
  rw [hasActiveJob_iff, List.mem_filterMap]
  constructor
  · rintro ⟨shown, hshown, hid⟩
    obtain ⟨hmem, hactive⟩ := List.mem_filter.mp hshown
    obtain ⟨job, hjob, rfl⟩ := List.mem_map.mp hmem
    obtain ⟨named, hnamed, hrepr⟩ := Option.map_eq_some_iff.mp hid
    refine ⟨job, hjob, ?_, (isActiveJobStatus_iff _).mp (Bool.and_eq_true_iff.mp hactive).1⟩
    rw [hnamed, repr_inj.mp hrepr]
  · rintro ⟨job, hjob, hversion, hstatus⟩
    refine ⟨⟨job.status, job.versionId.map Nat.repr⟩, List.mem_filter.mpr ⟨?_, ?_⟩, ?_⟩
    · exact List.mem_map_of_mem hjob
    · rw [(isActiveJobStatus_iff _).mpr hstatus, hversion]
      simp [Nat.repr_ne_empty]
    · rw [hversion]
      rfl

theorem takeVersionNumbers_any (hI : Invariant state) (hrows : RowsKept Stored state)
    {latest : Version Knob} (hlatest : state.latestVersion song = some latest) :
    ((takeVersionNumbers state song).any fun number => number = some latest.versionNumber) =
      state.hasTake latest.id := by
  obtain ⟨hmem, hsong⟩ := latestVersion_mem hlatest
  have hfind : ∀ version ∈ state.versions,
      state.versions.find? (fun row => row.id = version.id) = some version := by
    intro version hversion
    cases hfound : state.versions.find? (fun row => row.id = version.id) with
    | none =>
        have hnone := List.find?_eq_none.mp hfound version hversion
        simp at hnone
    | some other =>
        have hid : other.id = version.id := by simpa using List.find?_some hfound
        rw [hI.eq_of_id (List.mem_of_find?_eq_some hfound) hversion hid]
  rw [Bool.eq_iff_iff, hasTake_iff, List.any_eq_true]
  constructor
  · rintro ⟨number, hnumber, hsame⟩
    obtain ⟨take, htake, rfl⟩ := List.mem_map.mp hnumber
    obtain ⟨htake, htakeSong⟩ := List.mem_filter.mp htake
    obtain ⟨id, hid, hrow⟩ := Option.bind_eq_some_iff.mp (of_decide_eq_true hsame)
    obtain ⟨row, hfound, hnumbers⟩ := Option.map_eq_some_iff.mp hrow
    have hrowId : row.id = id := by simpa using List.find?_some hfound
    have hrowMem := List.mem_of_find?_eq_some hfound
    have hrowSong : row.songId = song := by
      rw [(hrows.takes take htake id hid).2 row hrowMem hrowId]
      exact of_decide_eq_true htakeSong
    have hnodup : ((versionsOf state.versions song).map (·.versionNumber)).Nodup :=
      List.pairwise_map.mpr ((hrows.numbers song).imp fun hlt => Nat.ne_of_lt hlt)
    have hsame : row = latest := by
      have hrowOf : row ∈ versionsOf state.versions song := by
        simp [versionsOf, hrowMem, hrowSong]
      have hlatestOf : latest ∈ versionsOf state.versions song := by
        simp [versionsOf, hmem, hsong]
      exact List.inj_on_of_nodup_map hnodup hrowOf hlatestOf hnumbers
    refine ⟨take, htake, ?_⟩
    rw [hid, ← hrowId, hsame]
  · rintro ⟨take, htake, hversion⟩
    have htakeSong := (hrows.takes take htake latest.id hversion).2 latest hmem rfl
    refine ⟨some latest.versionNumber, List.mem_map.mpr ⟨take, ?_, ?_⟩, by simp⟩
    · exact List.mem_filter.mpr ⟨htake, by simp [← htakeSong, hsong]⟩
    · rw [hversion, Option.bind_some, hfind latest hmem]
      rfl

/-- A job renders the latest version, and the draft was typed over it and is stored as it is:
they differ at most by parameters that one of them sets to nothing. -/
def StoredAlikeWhileRendered (state : State Knob) (song : SongId) (e : EditorState) : Prop :=
  ∃ latest, state.latestVersion song = some latest ∧
    state.hasActiveJobForVersion latest.id = true ∧ e.provenance = none ∧
    creativeContentEqual e.draft.data e.saved.data = true ∧
    genParamsToJson e.draft.data.genParams = genParamsToJson e.saved.data.genParams ∧
    e.draft.data.reference.map ReferenceResponse.id =
      e.saved.data.reference.map ReferenceResponse.id

theorem draftVersionNumber_eq (hI : Invariant state) (hrows : RowsKept Stored state)
    {latest : Version Knob} (hlatest : state.latestVersion song = some latest) :
    draftVersionNumber (some e) (versionsResponse filename state song)
        (takeVersionNumbers state song) (jobsResponse state) =
      if e.provenance.isSome || state.hasActiveJobForVersion latest.id ||
          state.hasTake latest.id && !creativeContentEqual e.draft.data e.saved.data
      then latest.versionNumber + 1 else latest.versionNumber := by
  have htakes := takeVersionNumbers_any hI hrows hlatest
  have hrendering : decide (latest.id.repr ∈ ((jobsResponse state).filter fun job =>
      isActiveJobStatus job.status && job.versionId.any fun id => id ≠ "").filterMap
        ActiveJob.versionId) = state.hasActiveJobForVersion latest.id := by
    rw [Bool.eq_iff_iff, decide_eq_true_iff]
    exact rendering_iff latest.id
  rw [draftVersionNumber, computeDraftVersionNumber, head_versionsResponse, hlatest]
  simp only [Option.map_some, Option.any_some, versionResponse]
  rw [htakes, hrendering]

theorem updateSong_number {latest : Version Knob}
    (hlatest : state.latestVersion song = some latest) :
    (updateSong state song request).versionNumber =
      if rewritesInPlace state latest (request.content (some latest)) request.forceNewVersion
      then latest.versionNumber else latest.versionNumber + 1 := by
  rw [updateSong, hlatest]
  dsimp only
  split
  · rfl
  · rfl

theorem differsFrom_eq_false_iff {content : VersionContent Knob} {version : Version Knob} :
    content.differsFrom version = false ↔ content.creativeDiffersFrom version = false ∧
      content.generationParams = version.content.generationParams ∧
      content.referenceRecordingId = version.content.referenceRecordingId := by
  simp [VersionContent.differsFrom, and_assoc]

/-- The number that the editor predicts for a draft, dirty or not, is the number of the
version that the save returns, exactly where the draft and the version that a job renders
are not stored alike. -/
theorem prediction_matches (hstate : (servedSongs Stored).Reachable state)
    (hsaved : e.saved.data = songDataFromSong (songResponse filename state song))
    (hreceived : (saveRequest e).received recordings = some request) :
    draftVersionNumber (some e) (versionsResponse filename state song)
        (takeVersionNumbers state song) (jobsResponse state) =
      (updateSong state song request).versionNumber ↔
    ¬StoredAlikeWhileRendered state song e := by
  obtain ⟨hI, hrows⟩ := servedSongs_kept (stored_genParamsToJson none) hstate
  have hforce : request.forceNewVersion = e.provenance.isSome :=
    (SongUpdateRequest.received_eq_some hreceived).2.2.2.2.2
  cases hlatest : state.latestVersion song with
  | none =>
      have hpredicted : draftVersionNumber (some e) (versionsResponse filename state song)
          (takeVersionNumbers state song) (jobsResponse state) = 1 := by
        rw [draftVersionNumber, computeDraftVersionNumber, head_versionsResponse, hlatest]
        rfl
      have hsavedNumber : (updateSong state song request).versionNumber = 1 := by
        rw [updateSong, hlatest]
      rw [hpredicted, hsavedNumber]
      refine iff_of_true rfl ?_
      rintro ⟨latest, hsome, -⟩
      rw [hlatest] at hsome
      exact absurd hsome.symm (Option.some_ne_none latest)
  | some latest =>
      have hcreative := creativeDiffersFrom_eq hlatest hsaved hreceived
      have hparams := params_eq_iff (hrows.stored latest (latestVersion_mem hlatest).1) hlatest
        hsaved hreceived
      have hreference := reference_eq_iff hlatest hsaved hreceived
      have hsame : (request.content (some latest)).differsFrom latest = false ↔
          creativeContentEqual e.draft.data e.saved.data = true ∧
          genParamsToJson e.draft.data.genParams = genParamsToJson e.saved.data.genParams ∧
          e.draft.data.reference.map ReferenceResponse.id =
            e.saved.data.reference.map ReferenceResponse.id := by
        rw [differsFrom_eq_false_iff, hcreative, hparams, hreference]
        simp
      have hcondition : StoredAlikeWhileRendered state song e ↔
          state.hasActiveJobForVersion latest.id = true ∧ e.provenance.isSome = false ∧
            (request.content (some latest)).differsFrom latest = false := by
        rw [hsame]
        constructor
        · rintro ⟨other, hother, hactive, hprovenance, halike⟩
          obtain rfl : latest = other := Option.some.inj (hlatest.symm.trans hother)
          exact ⟨hactive, by rw [hprovenance]; rfl, halike⟩
        · rintro ⟨hactive, hprovenance, halike⟩
          exact ⟨latest, hlatest, hactive, by simpa using hprovenance, halike⟩
      rw [hcondition, draftVersionNumber_eq hI hrows hlatest, updateSong_number hlatest, hforce,
        rewritesInPlace, hcreative]
      cases e.provenance.isSome with
      | true => simp
      | false =>
          cases hdiffers : (request.content (some latest)).differsFrom latest with
          | true =>
              cases state.hasActiveJobForVersion latest.id with
              | true => simp
              | false =>
                  cases state.hasTake latest.id with
                  | true => cases creativeContentEqual e.draft.data e.saved.data <;> simp
                  | false => simp
          | false =>
              have hequal := (hsame.mp hdiffers).1
              rw [hequal]
              cases state.hasActiveJobForVersion latest.id with
              | true => simp
              | false => simp

/-- One song whose only version a job renders. -/
def renderedSong : State Knob where
  songs := [0]
  versions := [⟨0, 0, 1, ⟨['l'], ['p'], 120, 0, ['C'], none, none⟩⟩]
  takes := []
  jobs := [⟨0, 0, some 0, .running⟩]
  nextVersion := 1
  nextJob := 1
  songLock := fun _ => none
  jobLock := fun _ => none
  stage := fun _ => .idle

theorem renderedSong_reachable : (servedSongs Stored).Reachable renderedSong := by
  refine .initial ⟨⟨fun _ => rfl, by decide, by decide⟩, ?_, ?_, ?_, ?_, ?_⟩
  · intro song
    exact (List.pairwise_singleton _ _).sublist List.filter_sublist
  · intro version hversion
    obtain rfl := List.mem_singleton.mp hversion
    rfl
  · exact fun take htake => absurd htake List.not_mem_nil
  · intro job hjob version hversion
    obtain rfl := List.mem_singleton.mp hjob
    obtain rfl := Option.some.inj hversion
    refine ⟨by decide, fun row hrow _ => ?_⟩
    obtain rfl := List.mem_singleton.mp hrow
    rfl
  · exact fun session request hrequest => absurd hrequest (Option.not_mem_none _)

/-- A draft of the song, as the editor holds it. -/
def draftOf (lyrics : String) (genParams : Option VersionGenerationParams) : EditorState where
  songId := "0"
  saved := ⟨0, songDataFromSong (songResponse (fun _ => "") renderedSong 0)⟩
  draft := ⟨1, ⟨lyrics, "p", 120, 0, "C", genParams, none⟩⟩
  provenance := none

theorem prediction_matches_typed :
    ∃ request, (saveRequest (draftOf "m" none)).received [] = some request ∧
      draftVersionNumber (some (draftOf "m" none))
          (versionsResponse (fun _ => "") renderedSong 0)
          (takeVersionNumbers renderedSong 0) (jobsResponse renderedSong) =
        (updateSong renderedSong 0 request).versionNumber := by
  have hsome : (saveRequest (draftOf "m" none)).received [] ≠ none := by decide +kernel
  obtain ⟨request, hreceived⟩ := Option.ne_none_iff_exists'.mp hsome
  refine ⟨request, hreceived, (prediction_matches renderedSong_reachable rfl hreceived).mpr ?_⟩
  rintro ⟨latest, -, -, -, hcreative, -⟩
  exact absurd hcreative (by decide +kernel)

/-- A voice set to nothing is a change to the editor, and none to the server. -/
theorem unset_voice_predicts_next :
    ∃ e request, (servedSongs Stored).Reachable renderedSong ∧ draftAwaitsSave e = true ∧
      e.saved.data = songDataFromSong (songResponse (fun _ => "") renderedSong 0) ∧
      (saveRequest e).received [] = some request ∧
      draftVersionNumber (some e) (versionsResponse (fun _ => "") renderedSong 0)
        (takeVersionNumbers renderedSong 0) (jobsResponse renderedSong) = 2 ∧
      (updateSong renderedSong 0 request).versionNumber = 1 := by
  have hsome : (saveRequest (draftOf "l" (some [("user_lora_id", .null)]))).received [] ≠ none := by
    decide +kernel
  obtain ⟨request, hreceived⟩ := Option.ne_none_iff_exists'.mp hsome
  refine ⟨draftOf "l" (some [("user_lora_id", .null)]), request, renderedSong_reachable,
    by decide +kernel, rfl, hreceived, by decide +kernel, ?_⟩
  have hall : ∀ sent ∈ (saveRequest (draftOf "l" (some [("user_lora_id", .null)]))).received [],
      (updateSong renderedSong 0 sent).versionNumber = 1 := by
    decide +kernel
  exact hall request hreceived

end Songmaker.Editor.PredictedVersion
