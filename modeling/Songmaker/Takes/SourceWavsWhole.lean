import Mathlib.Data.List.TakeDrop
import Songmaker.Takes.SourceWavs

namespace Songmaker.Takes.SourceWavsWhole

open Songmaker.Foundation
open Songmaker.Foundation.TransitionSystem
open Songmaker.Takes.SourceWavs

variable {convert : Bytes → Bytes} {names : Mp3Names} {s t : Sources}

/-- Every wav that was stored or handed on is the conversion of its take's mp3. -/
def Complete (convert : Bytes → Bytes) (names : Mp3Names) (s : Sources) : Prop :=
  ∀ gen name, (gen, name) ∈ s.given →
    ∃ mp3, s.files (names.mp3Path gen) = some mp3 ∧ s.files name = some (convert mp3)

/-- A converter is under way for the request. -/
def converts (request : Request) : Bool :=
  match request.stage with
  | .launched | .converting _ _ => true
  | _ => false

/-- A request looks for the wav of its take while no conversion of it is under
way, and finds none that broke off. -/
def Undisturbed (convert : Bytes → Bytes) (names : Mp3Names) (s : Sources) : SourceAct → Prop
  | .resolves i _ =>
      ∀ request ∈ s.requests[i]?,
        (∀ other ∈ s.requests, converts other = true →
          names.wavName other.gen ≠ names.wavName request.gen) ∧
        (s.files (names.wavName request.gen) = none ∨
          s.files (names.wavName request.gen) = (s.files (names.mp3Path request.gen)).map convert)
  | _ => True

instance (s : Sources) (action : SourceAct) : Decidable (Undisturbed convert names s action) :=
  match action with
  | .resolves i _ =>
      inferInstanceAs (Decidable (∀ request ∈ s.requests[i]?,
        (∀ other ∈ s.requests, converts other = true →
          names.wavName other.gen ≠ names.wavName request.gen) ∧
        (s.files (names.wavName request.gen) = none ∨
          s.files (names.wavName request.gen) = (s.files (names.mp3Path request.gen)).map convert)))
  | .arrives _ | .opens _ | .writes _ _ | .exits _ | .stores _ | .enqueues _ | .ends _ =>
      .isTrue trivial

/-- No other request converts the take. -/
def Exclusive (names : Mp3Names) (s : Sources) (i : Nat) (gen : String) : Prop :=
  ∀ (j : Nat) (other : Request), s.requests[j]? = some other → j ≠ i → converts other = true →
    names.wavName other.gen ≠ names.wavName gen

/-- The wav is whole and nobody writes it. -/
structure Settled (convert : Bytes → Bytes) (names : Mp3Names) (s : Sources) (gen : String)
    (name : AudioPath) : Prop where
  name : name = names.wavName gen
  whole : ∃ mp3, s.files (names.mp3Path gen) = some mp3 ∧
    s.files (names.wavName gen) = some (convert mp3)
  quiet : ∀ (j : Nat) (other : Request), s.requests[j]? = some other → converts other = true →
    names.wavName other.gen ≠ names.wavName gen

/-- What the stage of a request says about its wav. -/
def Placed (convert : Bytes → Bytes) (names : Mp3Names) (s : Sources) (i : Nat)
    (request : Request) : Prop :=
  match request.stage with
  | .checked | .ended => True
  | .launched => Exclusive names s i request.gen
  | .converting wav offset =>
      Exclusive names s i request.gen ∧ offset ≤ wav.length ∧
        s.files (names.wavName request.gen) = some (wav.take offset) ∧
          (s.files (names.mp3Path request.gen)).map convert = some wav
  | .resolved name | .stored name => Settled convert names s request.gen name

/-- Every wav that a row or a request names is whole. -/
structure Orderly (convert : Bytes → Bytes) (names : Mp3Names) (s : Sources) : Prop where
  wavPath : ∀ gen name, s.wavPath gen = some name → name = names.wavName gen
  seen : ∀ (i : Nat) (request : Request), s.requests[i]? = some request →
    ∀ name, request.seen = some name → name = names.wavName request.gen
  placed : ∀ (i : Nat) (request : Request), s.requests[i]? = some request →
    Placed convert names s i request
  given : ∀ gen name, (gen, name) ∈ s.given → Settled convert names s gen name

theorem mp3Path_ne_wavName (names : Mp3Names) (gen other : String) :
    names.mp3Path gen ≠ names.wavName other := by
  intro hsame
  have hsuffix := congrArg AudioPath.suffix hsame
  have hwav : (names.wavName other).suffix = ".wav" := rfl
  rw [names.suffix gen, hwav] at hsuffix
  exact absurd hsuffix (by decide)

theorem writeAt_take (bytes : Bytes) (offset length : Nat) (hoffset : offset ≤ bytes.length) :
    writeAt (bytes.take offset) offset ((bytes.drop offset).take length) =
      bytes.take (min (offset + length) bytes.length) := by
  have hfirst : (bytes.take offset).takeD offset 0 = bytes.take offset := by
    rw [List.takeD_eq_take 0 (by simp [hoffset]), List.take_take, Nat.min_self]
  have hlast : (bytes.take offset).drop (offset + ((bytes.drop offset).take length).length) = [] :=
    List.drop_eq_nil_of_le (Nat.le_trans (List.length_take_le _ _) (Nat.le_add_right _ _))
  unfold writeAt
  rw [hfirst, hlast, List.append_nil, ← List.take_add, List.take_eq_take_min]

section Frames

/-- The requests that convert under the name in `t` have done so in `s` already. -/
def NoNewConverter (names : Mp3Names) (s t : Sources) (wav : AudioPath) : Prop :=
  ∀ (j : Nat) (other : Request), t.requests[j]? = some other → converts other = true →
    names.wavName other.gen = wav →
      ∃ old, s.requests[j]? = some old ∧ converts old = true ∧ old.gen = other.gen

theorem Exclusive.frame {i : Nat} {gen : String} (h : Exclusive names s i gen)
    (hold : NoNewConverter names s t (names.wavName gen)) : Exclusive names t i gen := by
  intro j other hother hne hconverts hsame
  obtain ⟨old, hrequest, hconverted, hgen⟩ := hold j other hother hconverts hsame
  exact h j old hrequest hne hconverted (hgen ▸ hsame)

theorem Settled.frame {gen : String} {name : AudioPath} (h : Settled convert names s gen name)
    (hmp3 : t.files (names.mp3Path gen) = s.files (names.mp3Path gen))
    (hwav : t.files (names.wavName gen) = s.files (names.wavName gen))
    (hold : NoNewConverter names s t (names.wavName gen)) : Settled convert names t gen name := by
  refine ⟨h.name, ?_, fun j other hother hconverts hsame => ?_⟩
  · rw [hmp3, hwav]
    exact h.whole
  · obtain ⟨old, hrequest, hconverted, hgen⟩ := hold j other hother hconverts hsame
    exact h.quiet j old hrequest hconverted (hgen ▸ hsame)

theorem Placed.frame {i : Nat} {request : Request} (h : Placed convert names s i request)
    (hmp3 : ∀ gen, t.files (names.mp3Path gen) = s.files (names.mp3Path gen))
    (hwav : t.files (names.wavName request.gen) = s.files (names.wavName request.gen))
    (hold : NoNewConverter names s t (names.wavName request.gen)) :
    Placed convert names t i request := by
  unfold Placed at h ⊢
  cases hstage : request.stage with
  | checked => trivial
  | ended => trivial
  | launched =>
      rw [hstage] at h
      exact Exclusive.frame h hold
  | converting wav offset =>
      rw [hstage] at h
      obtain ⟨hexclusive, hoffset, hfile, hwhole⟩ := h
      exact ⟨hexclusive.frame hold, hoffset, hwav.trans hfile, by rw [hmp3, hwhole]⟩
  | resolved name =>
      rw [hstage] at h
      exact h.frame (hmp3 request.gen) hwav hold
  | stored name =>
      rw [hstage] at h
      exact h.frame (hmp3 request.gen) hwav hold

theorem Placed.of_idle {i : Nat} {request : Request}
    (hidle : request.stage = .checked ∨ request.stage = .ended) :
    Placed convert names s i request := by
  unfold Placed
  rcases hidle with hidle | hidle
  · rw [hidle]
    trivial
  · rw [hidle]
    trivial

theorem NoNewConverter.append {request : Request} (hidle : converts request = false)
    (wav : AudioPath) :
    NoNewConverter names s { s with requests := s.requests ++ [request] } wav := by
  intro j other hother hconverting _
  rcases Nat.lt_or_ge j s.requests.length with hj | hj
  · rw [List.getElem?_append_left hj] at hother
    exact ⟨other, hother, hconverting, rfl⟩
  · rw [List.getElem?_append_right hj] at hother
    have hlast : other = request := by
      have hmem := List.mem_of_getElem? hother
      simpa using hmem
    rw [hlast, hidle] at hconverting
    cases hconverting

end Frames

section Moves

/-- Nobody trusts the wav of the take, and no other request converts it. -/
structure Unclaimed (names : Mp3Names) (s : Sources) (i : Nat) (gen : String) : Prop where
  requests : ∀ (j : Nat) (other : Request), s.requests[j]? = some other → j ≠ i →
    names.wavName other.gen = names.wavName gen → other.stage = .checked ∨ other.stage = .ended
  given : ∀ other name, (other, name) ∈ s.given → names.wavName other ≠ names.wavName gen

variable {i : Nat} {request : Request}

theorem Orderly.unclaimed_of_converts (h : Orderly convert names s)
    (hrequest : s.requests[i]? = some request) (hconverts : converts request = true) :
    Unclaimed names s i request.gen := by
  refine ⟨fun j other hother hne hsame => ?_, fun other name hgiven hsame => ?_⟩
  · have hplaced := h.placed j other hother
    unfold Placed at hplaced
    cases hstage : other.stage with
    | checked => exact .inl rfl
    | ended => exact .inr rfl
    | launched =>
        rw [hstage] at hplaced
        exact absurd hsame.symm (hplaced i request hrequest (Ne.symm hne) hconverts)
    | converting wav offset =>
        rw [hstage] at hplaced
        exact absurd hsame.symm (hplaced.1 i request hrequest (Ne.symm hne) hconverts)
    | resolved name =>
        rw [hstage] at hplaced
        exact absurd hsame.symm (hplaced.quiet i request hrequest hconverts)
    | stored name =>
        rw [hstage] at hplaced
        exact absurd hsame.symm (hplaced.quiet i request hrequest hconverts)
  · exact (h.given other name hgiven).quiet i request hrequest hconverts hsame.symm

theorem Settled.file_ne_none {gen : String} {name : AudioPath}
    (h : Settled convert names s gen name) : s.files (names.wavName gen) ≠ none := by
  obtain ⟨mp3, -, hwav⟩ := h.whole
  simp [hwav]

theorem Orderly.unclaimed_of_none (h : Orderly convert names s)
    (hexclusive : Exclusive names s i request.gen)
    (hnone : s.files (names.wavName request.gen) = none) : Unclaimed names s i request.gen := by
  refine ⟨fun j other hother hne hsame => ?_, fun other name hgiven hsame => ?_⟩
  · have hplaced := h.placed j other hother
    have hidle : converts other = false := by
      rcases Bool.eq_false_or_eq_true (converts other) with hconverts | hconverts
      · exact absurd hsame (hexclusive j other hother hne hconverts)
      · exact hconverts
    unfold Placed at hplaced
    cases hstage : other.stage with
    | checked => exact .inl rfl
    | ended => exact .inr rfl
    | launched => simp [converts, hstage] at hidle
    | converting wav offset => simp [converts, hstage] at hidle
    | resolved name =>
        rw [hstage] at hplaced
        exact absurd (hsame ▸ hnone) hplaced.file_ne_none
    | stored name =>
        rw [hstage] at hplaced
        exact absurd (hsame ▸ hnone) hplaced.file_ne_none
  · exact (h.given other name hgiven).file_ne_none (hsame ▸ hnone)

/-- One request moves on, and touches no file but the wav of its own take. What
it changes for others it changes only while nobody relies on that wav. -/
theorem Orderly.moves (h : Orderly convert names s) (hrequest : s.requests[i]? = some request)
    {stage : Stage} {files : AudioPath → Option Bytes}
    (hmp3 : ∀ gen, files (names.mp3Path gen) = s.files (names.mp3Path gen))
    (hwav : ∀ gen, names.wavName gen ≠ names.wavName request.gen →
      files (names.wavName gen) = s.files (names.wavName gen))
    (hown : (files (names.wavName request.gen) = s.files (names.wavName request.gen) ∧
        (converts { request with stage := stage } = true → converts request = true)) ∨
      Unclaimed names s i request.gen)
    (ht : t = { s with
      files := files, requests := s.requests.set i { request with stage := stage } })
    (hplaced : Placed convert names t i { request with stage := stage }) :
    Orderly convert names t := by
  have hlater : ∀ (j : Nat) (other : Request), t.requests[j]? = some other →
      (j = i ∧ other = { request with stage := stage }) ∨
        (j ≠ i ∧ s.requests[j]? = some other) := by
    intro j other hother
    rw [ht, List.getElem?_set] at hother
    split at hother
    · rename_i hij
      split at hother
      · exact .inl ⟨hij.symm, (Option.some.inj hother).symm⟩
      · cases hother
    · rename_i hij
      exact .inr ⟨Ne.symm hij, hother⟩
  have hframe : ∀ gen, (names.wavName gen = names.wavName request.gen →
        ¬ Unclaimed names s i request.gen) →
      t.files (names.wavName gen) = s.files (names.wavName gen) ∧
        NoNewConverter names s t (names.wavName gen) := by
    intro gen hclaimed
    by_cases hsame : names.wavName gen = names.wavName request.gen
    · obtain ⟨hfile, hconverts⟩ := hown.resolve_right (hclaimed hsame)
      refine ⟨by rw [ht, hsame, ← hfile], fun j other hother hconverting _ => ?_⟩
      rcases hlater j other hother with ⟨rfl, rfl⟩ | ⟨-, hother⟩
      · exact ⟨request, hrequest, hconverts hconverting, rfl⟩
      · exact ⟨other, hother, hconverting, rfl⟩
    · refine ⟨by rw [ht]; exact hwav gen hsame, fun j other hother hconverting hname => ?_⟩
      rcases hlater j other hother with ⟨-, rfl⟩ | ⟨-, hother⟩
      · exact absurd hname.symm hsame
      · exact ⟨other, hother, hconverting, rfl⟩
  have hmp3s : ∀ gen, t.files (names.mp3Path gen) = s.files (names.mp3Path gen) := by
    intro gen
    rw [ht]
    exact hmp3 gen
  refine ⟨?_, fun j other hother => ?_, fun j other hother => ?_, fun gen name hgiven => ?_⟩
  · rw [ht]
    exact h.wavPath
  · rcases hlater j other hother with ⟨-, rfl⟩ | ⟨-, hother⟩
    · exact h.seen i request hrequest
    · exact h.seen j other hother
  · rcases hlater j other hother with ⟨rfl, rfl⟩ | ⟨hne, hother⟩
    · exact hplaced
    · by_cases hidle : other.stage = .checked ∨ other.stage = .ended
      · exact .of_idle hidle
      · obtain ⟨hfile, hold⟩ := hframe other.gen fun hsame hunclaimed =>
          hidle (hunclaimed.requests j other hother hne hsame)
        exact (h.placed j other hother).frame hmp3s hfile hold
  · have hgiven' : (gen, name) ∈ s.given := by
      rw [ht] at hgiven
      exact hgiven
    obtain ⟨hfile, hold⟩ := hframe gen fun hsame hunclaimed =>
      hunclaimed.given gen name hgiven' hsame
    exact (h.given gen name hgiven').frame (hmp3s gen) hfile hold

end Moves

section Steps

variable {i : Nat} {request : Request}

theorem Orderly.arrives (h : Orderly convert names s) (gen : String) :
    Orderly convert names
      { s with requests := s.requests ++ [⟨gen, s.wavPath gen, .checked⟩] } := by
  have hlater : ∀ (j : Nat) (other : Request),
      (s.requests ++ [⟨gen, s.wavPath gen, .checked⟩])[j]? = some other →
        other = ⟨gen, s.wavPath gen, .checked⟩ ∨ s.requests[j]? = some other := by
    intro j other hother
    rcases Nat.lt_or_ge j s.requests.length with hj | hj
    · rw [List.getElem?_append_left hj] at hother
      exact .inr hother
    · rw [List.getElem?_append_right hj] at hother
      exact .inl (by simpa using List.mem_of_getElem? hother)
  refine ⟨h.wavPath, fun j other hother => ?_, fun j other hother => ?_,
    fun other name hgiven => ?_⟩
  · rcases hlater j other hother with rfl | hother
    · exact h.wavPath gen
    · exact h.seen j other hother
  · rcases hlater j other hother with rfl | hother
    · exact .of_idle (.inl rfl)
    · exact (h.placed j other hother).frame (fun _ => rfl) rfl (.append rfl _)
  · exact (h.given other name hgiven).frame rfl rfl (.append rfl _)

theorem Orderly.setStage (h : Orderly convert names s) (hrequest : s.requests[i]? = some request)
    {stage : Stage}
    (hconverts : converts { request with stage := stage } = true → converts request = true)
    (hplaced : Placed convert names (s.setStage i request stage) i
      { request with stage := stage }) :
    Orderly convert names (s.setStage i request stage) :=
  h.moves hrequest (fun _ => rfl) (fun _ _ => rfl) (.inl ⟨rfl, hconverts⟩) rfl hplaced

theorem setStage_noNewConverter (hrequest : s.requests[i]? = some request) {stage : Stage}
    (hconverts : converts { request with stage := stage } = true → converts request = true)
    (wav : AudioPath) : NoNewConverter names s (s.setStage i request stage) wav := by
  intro j other hother hconverting _
  unfold Sources.setStage at hother
  rw [List.getElem?_set] at hother
  split at hother
  · rename_i hij
    subst hij
    split at hother
    · obtain rfl := Option.some.inj hother
      exact ⟨request, hrequest, hconverts hconverting, rfl⟩
    · cases hother
  · exact ⟨other, hother, hconverting, rfl⟩

theorem Orderly.ends (h : Orderly convert names s) (hrequest : s.requests[i]? = some request) :
    Orderly convert names (s.setStage i request .ended) :=
  h.setStage hrequest (fun hover => absurd hover (by simp [converts])) (.of_idle (.inr rfl))

theorem Orderly.trusts (h : Orderly convert names s) (hrequest : s.requests[i]? = some request)
    {name : AudioPath} (hsettled : Settled convert names s request.gen name) {stage : Stage}
    (hstage : stage = .resolved name ∨ stage = .stored name) :
    Orderly convert names (s.setStage i request stage) := by
  have hidle : converts { request with stage := stage } = true → converts request = true := by
    rcases hstage with rfl | rfl
    · exact fun hconverts => absurd hconverts (by simp [converts])
    · exact fun hconverts => absurd hconverts (by simp [converts])
  have hlater : Settled convert names (s.setStage i request stage) request.gen name :=
    hsettled.frame rfl rfl (setStage_noNewConverter hrequest hidle _)
  refine h.setStage hrequest hidle ?_
  rcases hstage with rfl | rfl
  · exact hlater
  · exact hlater

theorem Orderly.resolves (h : Orderly convert names s) (hrequest : s.requests[i]? = some request)
    (ffmpeg : Bool)
    (hcalm : ∀ other ∈ s.requests, converts other = true →
      names.wavName other.gen ≠ names.wavName request.gen)
    (hwhole : s.files (names.wavName request.gen) = none ∨
      s.files (names.wavName request.gen) = (s.files (names.mp3Path request.gen)).map convert) :
    Orderly convert names
      (s.setStage i request (s.resolveSourceWav names ffmpeg request)) := by
  have hquiet : ∀ (j : Nat) (other : Request), s.requests[j]? = some other →
      converts other = true → names.wavName other.gen ≠ names.wavName request.gen :=
    fun j other hother => hcalm other (List.mem_of_getElem? hother)
  have hfound : (s.files (names.wavName request.gen)).isSome = true →
      Settled convert names s request.gen (names.wavName request.gen) := by
    intro hsome
    refine ⟨rfl, ?_, hquiet⟩
    rcases hwhole with hnone | hsame
    · simp [hnone] at hsome
    · rw [hsame, Option.isSome_map] at hsome
      obtain ⟨mp3, hmp3⟩ := Option.isSome_iff_exists.mp hsome
      exact ⟨mp3, hmp3, by rw [hsame, hmp3, Option.map_some]⟩
  unfold Sources.resolveSourceWav
  split
  · rename_i name hname
    obtain ⟨hseen, hexists⟩ := Option.filter_eq_some_iff.mp hname
    obtain rfl := h.seen i request hrequest name hseen
    exact h.trusts hrequest (hfound hexists) (.inl rfl)
  · split
    · exact h.ends hrequest
    · split
      · exact h.trusts hrequest (hfound ‹_›) (.inl rfl)
      · rename_i hmissing
        split
        · have hnone : s.files (names.wavName request.gen) = none := by simpa using hmissing
          have hexclusive : Exclusive names s i request.gen :=
            fun j other hother _ => hquiet j other hother
          refine h.moves hrequest (fun _ => rfl) (fun _ _ => rfl)
            (.inr (h.unclaimed_of_none hexclusive hnone)) rfl ?_
          intro j other hother hne hconverts
          unfold Sources.setStage at hother
          rw [List.getElem?_set_ne (Ne.symm hne)] at hother
          exact hexclusive j other hother hne hconverts
        · exact h.ends hrequest

theorem Orderly.exclusive (h : Orderly convert names s) (hrequest : s.requests[i]? = some request)
    (hconverts : converts request = true) : Exclusive names s i request.gen := by
  have hplaced := h.placed i request hrequest
  unfold Placed at hplaced
  cases hstage : request.stage with
  | launched =>
      rw [hstage] at hplaced
      exact hplaced
  | converting wav offset =>
      rw [hstage] at hplaced
      exact hplaced.1
  | checked => simp [converts, hstage] at hconverts
  | resolved name => simp [converts, hstage] at hconverts
  | stored name => simp [converts, hstage] at hconverts
  | ended => simp [converts, hstage] at hconverts

theorem Orderly.rewrites (h : Orderly convert names s) (hrequest : s.requests[i]? = some request)
    (hconverts : converts request = true) {wav : Bytes} {offset : Nat}
    (hoffset : offset ≤ wav.length)
    (hmp3 : (s.files (names.mp3Path request.gen)).map convert = some wav) :
    Orderly convert names ((s.setFile (names.wavName request.gen) (wav.take offset)).setStage i
      request (.converting wav offset)) := by
  have hmp3s : ∀ gen, (s.setFile (names.wavName request.gen) (wav.take offset)).files
      (names.mp3Path gen) = s.files (names.mp3Path gen) :=
    fun gen => if_neg (mp3Path_ne_wavName names gen request.gen)
  refine h.moves hrequest hmp3s (fun gen hne => if_neg hne)
    (.inr (h.unclaimed_of_converts hrequest hconverts)) rfl ?_
  refine ⟨fun j other hother hne hother' => ?_, hoffset, if_pos rfl, ?_⟩
  · unfold Sources.setStage at hother
    rw [List.getElem?_set_ne (Ne.symm hne)] at hother
    exact h.exclusive hrequest hconverts j other hother hne hother'
  · change ((s.setFile (names.wavName request.gen) (wav.take offset)).files
      (names.mp3Path request.gen)).map convert = some wav
    rw [hmp3s, hmp3]

theorem Orderly.exits (h : Orderly convert names s) (hrequest : s.requests[i]? = some request)
    {wav : Bytes} (hstage : request.stage = .converting wav wav.length) :
    Orderly convert names (s.setStage i request (.resolved (names.wavName request.gen))) := by
  have hconverts : converts request = true := by simp [converts, hstage]
  have hplaced := h.placed i request hrequest
  unfold Placed at hplaced
  rw [hstage] at hplaced
  obtain ⟨hexclusive, -, hfile, hmp3⟩ := hplaced
  rw [List.take_length] at hfile
  obtain ⟨mp3, hthere, hwav⟩ := Option.map_eq_some_iff.mp hmp3
  refine h.moves hrequest (fun _ => rfl) (fun _ _ => rfl)
    (.inr (h.unclaimed_of_converts hrequest hconverts)) rfl ?_
  refine ⟨rfl, ⟨mp3, hthere, hfile.trans (congrArg some hwav.symm)⟩,
    fun j other hother hother' => ?_⟩
  unfold Sources.setStage at hother
  rw [List.getElem?_set] at hother
  split at hother
  · split at hother
    · obtain rfl := Option.some.inj hother
      simp [converts] at hother'
    · cases hother
  · rename_i hij
    exact hexclusive j other hother (Ne.symm hij) hother'

theorem Orderly.settled (h : Orderly convert names s) (hrequest : s.requests[i]? = some request)
    {name : AudioPath} (hstage : request.stage = .resolved name ∨ request.stage = .stored name) :
    Settled convert names s request.gen name := by
  have hplaced := h.placed i request hrequest
  unfold Placed at hplaced
  rcases hstage with hstage | hstage
  · rw [hstage] at hplaced
    exact hplaced
  · rw [hstage] at hplaced
    exact hplaced

theorem Orderly.give (h : Orderly convert names s) {gen : String} {name : AudioPath}
    (hsettled : Settled convert names s gen name) : Orderly convert names (s.give gen name) := by
  have hsame : ∀ wav, NoNewConverter names s (s.give gen name) wav :=
    fun _ j other hother hconverts _ => ⟨other, hother, hconverts, rfl⟩
  refine ⟨h.wavPath, h.seen, fun j other hother => ?_, fun other wav hgiven => ?_⟩
  · exact (h.placed j other hother).frame (fun _ => rfl) rfl (hsame _)
  · rcases List.mem_append.mp hgiven with hgiven | hgiven
    · exact (h.given other wav hgiven).frame rfl rfl (hsame _)
    · obtain ⟨rfl, rfl⟩ : other = gen ∧ wav = name := by simpa using hgiven
      exact hsettled.frame rfl rfl (hsame _)

theorem Orderly.setWavPath (h : Orderly convert names s) {gen : String} {name : AudioPath}
    (hname : name = names.wavName gen) : Orderly convert names (s.setWavPath gen name) := by
  have hsame : ∀ wav, NoNewConverter names s (s.setWavPath gen name) wav :=
    fun _ j other hother hconverts _ => ⟨other, hother, hconverts, rfl⟩
  refine ⟨fun other wav hwav => ?_, h.seen, fun j other hother => ?_, fun other wav hgiven => ?_⟩
  · unfold Sources.setWavPath at hwav
    dsimp only at hwav
    split at hwav
    · rename_i hother
      obtain rfl := Option.some.inj hwav
      exact hother ▸ hname
    · exact h.wavPath other wav hwav
  · exact (h.placed j other hother).frame (fun _ => rfl) rfl (hsame _)
  · exact (h.given other wav hgiven).frame rfl rfl (hsame _)

theorem Orderly.act {action : SourceAct} (h : Orderly convert names s)
    (hact : act convert names s action = some t) (hcalm : Undisturbed convert names s action) :
    Orderly convert names t := by
  unfold SourceWavs.act at hact
  cases action with
  | arrives gen =>
      obtain rfl := Option.some.inj hact
      exact h.arrives gen
  | resolves i ffmpeg =>
      obtain ⟨request, hrequest, hact⟩ := Option.bind_eq_some_iff.mp hact
      obtain ⟨hquiet, hwhole⟩ := hcalm request hrequest
      split at hact
      · obtain rfl := Option.some.inj hact
        exact h.resolves hrequest ffmpeg hquiet hwhole
      · cases hact
  | opens i =>
      obtain ⟨request, hrequest, hact⟩ := Option.bind_eq_some_iff.mp hact
      split at hact
      · rename_i mp3 hstage hmp3
        obtain rfl := Option.some.inj hact
        exact h.rewrites hrequest (by simp [converts, hstage]) (Nat.zero_le _)
          (by rw [hmp3, Option.map_some])
      · cases hact
  | writes i length =>
      obtain ⟨request, hrequest, hact⟩ := Option.bind_eq_some_iff.mp hact
      split at hact
      · rename_i wav offset file hstage hfile
        obtain rfl := Option.some.inj hact
        have hplaced := h.placed i request hrequest
        unfold Placed at hplaced
        rw [hstage] at hplaced
        obtain ⟨-, hoffset, hwritten, hmp3⟩ := hplaced
        obtain rfl := Option.some.inj (hfile.symm.trans hwritten)
        rw [writeAt_take wav offset length hoffset]
        exact h.rewrites hrequest (by simp [converts, hstage]) (Nat.min_le_right _ _) hmp3
      · cases hact
  | exits i =>
      obtain ⟨request, hrequest, hact⟩ := Option.bind_eq_some_iff.mp hact
      split at hact
      · rename_i wav offset hstage
        obtain ⟨rfl, hnext⟩ := Option.ite_none_right_eq_some.mp hact
        obtain rfl := Option.some.inj hnext
        exact h.exits hrequest hstage
      · cases hact
  | stores i =>
      obtain ⟨request, hrequest, hact⟩ := Option.bind_eq_some_iff.mp hact
      split at hact
      · rename_i name hstage
        obtain rfl := Option.some.inj hact
        have hsettled := h.settled hrequest (.inl hstage)
        have hgiven := (h.setWavPath hsettled.name).give (hsettled.frame rfl rfl
          fun j other hother hconverts _ => ⟨other, hother, hconverts, rfl⟩)
        exact hgiven.trusts hrequest (hgiven.settled hrequest (.inl hstage)) (.inr rfl)
      · cases hact
  | enqueues i =>
      obtain ⟨request, hrequest, hact⟩ := Option.bind_eq_some_iff.mp hact
      split at hact
      · rename_i name hstage
        obtain rfl := Option.some.inj hact
        exact (h.give (h.settled hrequest (.inr hstage))).ends hrequest
      · cases hact
  | ends i =>
      obtain ⟨request, hrequest, rfl⟩ := Option.map_eq_some_iff.mp hact
      exact h.ends hrequest

end Steps

theorem Orderly.complete (h : Orderly convert names s) : Complete convert names s := by
  intro gen name hgiven
  obtain ⟨rfl, hwhole, -⟩ := h.given gen name hgiven
  exact hwhole

theorem orderly_of_onlyMp3s (h : OnlyMp3s names s) : Orderly convert names s := by
  refine ⟨h.wavPath, ?_, ?_, ?_⟩
  · simp [h.requests]
  · simp [h.requests]
  · simp [h.given]

theorem complete_of_undisturbed {run : List (SourceAct × Sources)} (hs : OnlyMp3s names s)
    (hrun : (sources convert names).IsRun s run)
    (hcalm : StepsMeet (Undisturbed convert names) s run) :
    ∀ t ∈ visited s run, Complete convert names t := by
  have hkeeps : ∀ s a t, Orderly convert names s → (sources convert names).step s a t →
      Undisturbed convert names s a → Orderly convert names t :=
    fun s a t h hstep hok => h.act hstep hok
  intro t ht
  exact (forall_visited_of_stepsMeet hkeeps (orderly_of_onlyMp3s hs) hrun hcalm t ht).complete

def namesById : Mp3Names where
  mp3Path gen := ⟨"user", gen, ".mp3"⟩
  suffix _ := rfl

/-- Every file below `audio_dir` that ends in `.mp3`, and nothing else. -/
def onlyMp3s : Sources where
  wavPath _ := none
  files path := if path.suffix = ".mp3" then some [3, 7] else none
  requests := []
  given := []

/-- A stand-in for the converter. -/
def withHeader (mp3 : Bytes) : Bytes := 82 :: mp3

theorem onlyMp3s_initial : OnlyMp3s namesById onlyMp3s :=
  ⟨by simp [onlyMp3s], fun _ => rfl, rfl, rfl⟩

/-- A conversion, and a second request that finds what it has made. -/
def convertOnce : List SourceAct :=
  [.arrives "take", .resolves 0 true, .opens 0, .writes 0 1, .writes 0 5, .exits 0, .stores 0,
    .enqueues 0, .arrives "take", .resolves 1 true, .stores 1, .enqueues 1]

theorem complete_of_undisturbed_once :
    Complete withHeader namesById
      (lastOf onlyMp3s (follow (act withHeader namesById) onlyMp3s convertOnce)) :=
  complete_of_undisturbed onlyMp3s_initial (isRun_follow _ _ _ _) (by decide +kernel) _
    (lastOf_mem_visited _ _)

/-- The converter breaks off, and the next request trusts what it has left. -/
def breaksOff : List SourceAct :=
  [.arrives "take", .resolves 0 true, .opens 0, .writes 0 1, .ends 0, .arrives "take",
    .resolves 1 true, .stores 1]

theorem broken_conversion_trusted :
    ¬ ∀ (convert : Bytes → Bytes) (names : Mp3Names) (s : Sources),
      (sources convert names).Reachable s → Complete convert names s := by
  intro hall
  have hstart : (sources withHeader namesById).Reachable onlyMp3s := .initial onlyMp3s_initial
  have hcomplete := hall withHeader namesById _ (reachable_follow hstart breaksOff)
  obtain ⟨mp3, hmp3, hwav⟩ := hcomplete "take" ⟨"user", "take", ".wav"⟩ (by decide +kernel)
  have hthere : some mp3 = some [3, 7] := hmp3.symm.trans (by decide +kernel)
  have hpartial : some (withHeader mp3) = some [82] := hwav.symm.trans (by decide +kernel)
  rw [Option.some.inj hthere] at hpartial
  exact absurd hpartial (by decide)

end Songmaker.Takes.SourceWavsWhole
