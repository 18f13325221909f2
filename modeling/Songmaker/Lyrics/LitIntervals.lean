import Songmaker.Lyrics.AlignWordsOptimal
import Songmaker.Lyrics.CueWords
import Songmaker.Lyrics.NormalizeAgain

namespace Songmaker.Lyrics

open Songmaker.Foundation

/-- Anchors of later lyric words are on later heard words. -/
def Increasing (anchors : List (Option Anchor)) : Prop :=
  anchors.Pairwise fun anchor next => ∀ a ∈ anchor, ∀ b ∈ next, a.heardIndex < b.heardIndex

/-! ### The traceback -/

/-- The anchors that the traceback has set when it is at a cell: those of later lyric
words, on heard words from the cell on. -/
structure Recorded (lyricIndex heardIndex heardCount : Nat) (anchors : List (Option Anchor)) :
    Prop where
  unset : ∀ i a, anchors[i]? = some (some a) → lyricIndex ≤ i
  later : ∀ anchor ∈ anchors, ∀ a ∈ anchor, heardIndex ≤ a.heardIndex ∧ a.heardIndex < heardCount
  increasing : Increasing anchors

theorem Recorded.mono {lyric lyric' heard heard' heardCount : Nat} {anchors : List (Option Anchor)}
    (hanchors : Recorded lyric heard heardCount anchors) (hlyric : lyric' ≤ lyric)
    (hheard : heard' ≤ heard) : Recorded lyric' heard' heardCount anchors where
  unset i a hget := hlyric.trans (hanchors.unset i a hget)
  later anchor hanchor a ha :=
    ⟨hheard.trans (hanchors.later anchor hanchor a ha).1, (hanchors.later anchor hanchor a ha).2⟩
  increasing := hanchors.increasing

theorem Recorded.set {lyric heard heardCount : Nat} {anchors : List (Option Anchor)}
    (hanchors : Recorded (lyric + 1) (heard + 1) heardCount anchors) (hheard : heard < heardCount)
    (similarity : ℚ) :
    Recorded lyric heard heardCount (anchors.set lyric (some ⟨heard, similarity⟩)) := by
  have hget : ∀ i a, (anchors.set lyric (some ⟨heard, similarity⟩))[i]? = some (some a) →
      i = lyric ∧ a = ⟨heard, similarity⟩ ∨ lyric < i ∧ anchors[i]? = some (some a) := by
    intro i a hget
    by_cases hi : i = lyric
    · subst hi
      rw [List.getElem?_set_self'] at hget
      cases hold : anchors[i]? with
      | none => simp [hold] at hget
      | some old =>
          rw [hold] at hget
          left
          simpa using hget.symm
    · rw [List.getElem?_set_ne (Ne.symm hi)] at hget
      exact .inr ⟨hanchors.unset i a hget, hget⟩
  refine ⟨?_, ?_, ?_⟩
  · intro i a hi
    rcases hget i a hi with ⟨rfl, -⟩ | ⟨hlt, -⟩
    · exact le_rfl
    · exact hlt.le
  · intro anchor hanchor a ha
    obtain ⟨i, hi⟩ := List.mem_iff_getElem?.mp hanchor
    rw [Option.mem_def.mp ha] at hi
    rcases hget i a hi with ⟨-, rfl⟩ | ⟨-, hold⟩
    · exact ⟨le_rfl, hheard⟩
    · have hlater := hanchors.later _ (List.mem_of_getElem? hold) a rfl
      exact ⟨(Nat.le_succ heard).trans hlater.1, hlater.2⟩
  · unfold Increasing
    rw [List.pairwise_iff_getElem]
    intro i j hi hj hlt a ha b hb
    have hgeta : (anchors.set lyric (some ⟨heard, similarity⟩))[i]? = some (some a) := by
      rw [List.getElem?_eq_getElem hi, Option.mem_def.mp ha]
    have hgetb : (anchors.set lyric (some ⟨heard, similarity⟩))[j]? = some (some b) := by
      rw [List.getElem?_eq_getElem hj, Option.mem_def.mp hb]
    rcases hget j b hgetb with ⟨rfl, -⟩ | ⟨-, holdb⟩
    · rcases hget i a hgeta with ⟨rfl, -⟩ | ⟨hlt', -⟩
      · exact absurd hlt (lt_irrefl _)
      · omega
    · rcases hget i a hgeta with ⟨-, rfl⟩ | ⟨-, holda⟩
      · exact Nat.lt_of_succ_le (hanchors.later _ (List.mem_of_getElem? holdb) b rfl).1
      · have hincreasing := hanchors.increasing
        unfold Increasing at hincreasing
        rw [List.pairwise_iff_getElem] at hincreasing
        obtain ⟨hi', hia⟩ := List.getElem?_eq_some_iff.mp holda
        obtain ⟨hj', hjb⟩ := List.getElem?_eq_some_iff.mp holdb
        exact hincreasing i j hi' hj' hlt a (by rw [hia]; rfl) b (by rw [hjb]; rfl)

theorem traceBack_increasing {lookup : Nat → Nat → Option ℚ} {table : AlignmentTable}
    {steps lyric heard heardCount : Nat} (hsteps : lyric + heard < steps)
    (hheard : heard ≤ heardCount) {ending : Ending} {anchors : Array (Option Anchor)}
    (hanchors : Recorded lyric heard heardCount anchors.toList) {moves : List Ending}
    {result : Array (Option Anchor) × List Ending}
    (htrace : traceBack lookup table lyric heard ending anchors moves = some result) :
    result.1.size = anchors.size ∧ Recorded 0 0 heardCount result.1.toList := by
  induction steps generalizing lyric heard ending anchors moves with
  | zero => omega
  | succ steps ih =>
      cases lyric with
      | zero =>
          rw [traceBack] at htrace
          obtain rfl := Option.some.inj htrace
          exact ⟨rfl, hanchors.mono le_rfl (Nat.zero_le _)⟩
      | succ lyric =>
          rw [traceBack] at htrace
          obtain ⟨previous, -, hrest⟩ := Option.bind_eq_some_iff.mp htrace
          cases ending with
          | lyricGap =>
              exact ih (by omega) hheard (hanchors.mono (Nat.le_succ _) le_rfl) hrest
          | heardGap =>
              cases heard with
              | zero => exact absurd hrest (by simp)
              | succ heard =>
                  exact ih (by omega) (by omega) (hanchors.mono le_rfl (Nat.le_succ _)) hrest
          | pair =>
              cases heard with
              | zero => exact absurd hrest (by simp)
              | succ heard =>
                  obtain ⟨similarity, -, hrest⟩ := Option.bind_eq_some_iff.mp hrest
                  dsimp only at hrest
                  split at hrest
                  · split at hrest
                    · have hset : Recorded lyric heard heardCount
                          (anchors.setIfInBounds lyric (some ⟨heard, similarity⟩)).toList := by
                        rw [Array.toList_setIfInBounds]
                        exact hanchors.set hheard similarity
                      obtain ⟨hsize, hlast⟩ := ih (by omega) (by omega) hset hrest
                      exact ⟨hsize.trans Array.size_setIfInBounds, hlast⟩
                    · exact absurd hrest (by simp)
                  · exact ih (by omega) (by omega)
                      (hanchors.mono (Nat.le_succ _) (Nat.le_succ _)) hrest

theorem alignWords_recorded {similarity : String → String → ℚ} {lyrics heard : List String}
    {anchors : Array (Option Anchor)} {path : List Ending}
    (halign : alignWords similarity lyrics heard = some (anchors, path)) :
    anchors.size = lyrics.length ∧ Recorded 0 0 heard.length anchors.toList := by
  unfold alignWords at halign
  obtain ⟨table, -, hrest⟩ := Option.bind_eq_some_iff.mp halign
  obtain ⟨ending, -, htrace⟩ := Option.bind_eq_some_iff.mp hrest
  have hnone : Recorded lyrics.length heard.length heard.length
      (Array.replicate lyrics.length (none : Option Anchor)).toList := by
    rw [Array.toList_replicate]
    refine ⟨?_, ?_, ?_⟩
    · intro i a hget
      have hmem := List.eq_of_mem_replicate (List.mem_of_getElem? hget)
      exact absurd hmem (by simp)
    · intro anchor hanchor a ha
      rw [List.eq_of_mem_replicate hanchor] at ha
      exact absurd ha (by simp)
    · refine List.pairwise_replicate.mpr (.inr ?_)
      intro a ha
      exact absurd ha (by simp)
  obtain ⟨hsize, hrecorded⟩ := traceBack_increasing (Nat.lt_succ_self _) le_rfl hnone htrace
  exact ⟨hsize.trans Array.size_replicate, hrecorded⟩

/-! ### The lines -/

/-- The heard words are in time order: none ends before it starts, and none starts or ends
before the one in front of it. -/
structure InTimeOrder (heard : List HeardWord) : Prop where
  spans : ∀ word ∈ heard, word.start ≤ word.endTime
  ordered : heard.Pairwise fun word next =>
    word.start ≤ next.start ∧ word.endTime ≤ next.endTime

theorem InTimeOrder.of_le {heard : List HeardWord} (horder : InTimeOrder heard) {i j : Nat}
    (hle : i ≤ j) {word next : HeardWord} (hword : heard[i]? = some word)
    (hnext : heard[j]? = some next) :
    word.start ≤ next.start ∧ word.endTime ≤ next.endTime := by
  rcases Nat.eq_or_lt_of_le hle with rfl | hlt
  · rw [hword] at hnext
    obtain rfl := Option.some.inj hnext
    exact ⟨le_rfl, le_rfl⟩
  · obtain ⟨hi, rfl⟩ := List.getElem?_eq_some_iff.mp hword
    obtain ⟨hj, rfl⟩ := List.getElem?_eq_some_iff.mp hnext
    exact List.pairwise_iff_getElem.mp horder.ordered i j hi hj hlt

theorem zipIdx_pairwise {α : Type} (l : List α) :
    l.zipIdx.Pairwise fun entry next => entry.2 < next.2 := by
  have hrange : (l.zipIdx.map Prod.snd).Pairwise (· < ·) := by
    rw [List.zipIdx_map_snd]
    exact List.pairwise_lt_range'
  exact List.pairwise_map.mp hrange

theorem lyricWords_sorted (data : NormalizeToken.UnicodeData) (rawLines : List (List Char)) :
    (lyricWords data rawLines).Pairwise fun word next => word.lineIndex ≤ next.lineIndex := by
  have hline : ∀ (entry : List Char × Nat), ∀ word ∈
      (if isSungLine entry.1 then (tokens data entry.1).map fun text => ⟨entry.2, text⟩ else []),
      LyricWord.lineIndex word = entry.2 := by
    intro entry word hword
    split at hword
    · obtain ⟨text, -, rfl⟩ := List.mem_map.mp hword
      rfl
    · exact absurd hword List.not_mem_nil
  rw [lyricWords, List.pairwise_flatMap]
  constructor
  · intro entry _
    refine List.Pairwise.imp_of_mem ?_ (List.pairwise_of_forall (fun _ _ => trivial) :
      List.Pairwise (fun _ _ => True) _)
    intro word next hword hnext _
    exact ((hline entry word hword).trans (hline entry next hnext).symm).le
  · refine (zipIdx_pairwise rawLines).imp ?_
    intro entry entry' hlt word hword next hnext
    rw [hline entry word hword, hline entry' next hnext]
    exact hlt.le

section Lines

variable {words : List LyricWord} {anchors : List (Option Anchor)} {heard : List HeardWord}

theorem anchorsOfLine_lt
    (hsorted : words.Pairwise fun word next => word.lineIndex ≤ next.lineIndex)
    (hincreasing : Increasing anchors) {i j : Nat} (hlt : i < j) {a b : Anchor}
    (ha : some a ∈ anchorsOfLine words anchors i) (hb : some b ∈ anchorsOfLine words anchors j) :
    a.heardIndex < b.heardIndex := by
  obtain ⟨⟨word, anchor⟩, hword, rfl⟩ := List.mem_map.mp ha
  obtain ⟨⟨next, anchor'⟩, hnext, rfl⟩ := List.mem_map.mp hb
  obtain ⟨hword, hi⟩ := List.mem_filter.mp hword
  obtain ⟨hnext, hj⟩ := List.mem_filter.mp hnext
  have hi' : word.lineIndex = i := of_decide_eq_true hi
  have hj' : next.lineIndex = j := of_decide_eq_true hj
  obtain ⟨m, hm⟩ := List.mem_iff_getElem?.mp hword
  obtain ⟨n, hn⟩ := List.mem_iff_getElem?.mp hnext
  obtain ⟨hmword, hmanchor⟩ := List.getElem?_zip_eq_some.mp hm
  obtain ⟨hnword, hnanchor⟩ := List.getElem?_zip_eq_some.mp hn
  obtain ⟨hmlt, hmeq⟩ : ∃ h : m < words.length, words[m] = word :=
    List.getElem?_eq_some_iff.mp hmword
  obtain ⟨hnlt, hneq⟩ : ∃ h : n < words.length, words[n] = next :=
    List.getElem?_eq_some_iff.mp hnword
  have hmn : m < n := by
    by_contra hge
    rcases Nat.eq_or_lt_of_le (not_lt.mp hge) with rfl | hnm
    · have hsame : word = next := hmeq.symm.trans hneq
      rw [hsame] at hi'
      omega
    · have hle := List.pairwise_iff_getElem.mp hsorted n m hnlt hmlt hnm
      rw [hmeq, hneq] at hle
      omega
  obtain ⟨hmlt', hmeq'⟩ := List.getElem?_eq_some_iff.mp hmanchor
  obtain ⟨hnlt', hneq'⟩ := List.getElem?_eq_some_iff.mp hnanchor
  exact List.pairwise_iff_getElem.mp hincreasing m n hmlt' hnlt' hmn a (by rw [hmeq']; rfl) b
    (by rw [hneq']; rfl)

theorem anchorsOfLine_increasing (hlength : words.length = anchors.length)
    (hincreasing : Increasing anchors) (i : Nat) :
    Increasing (anchorsOfLine words anchors i) := by
  have hsublist : (anchorsOfLine words anchors i).Sublist anchors := by
    have hzip : (anchorsOfLine words anchors i).Sublist ((words.zip anchors).map Prod.snd) :=
      List.filter_sublist.map Prod.snd
    rwa [List.map_snd_zip hlength.ge] at hzip
  exact hincreasing.sublist hsublist

theorem mem_of_mem_anchorsOfLine {i : Nat} {anchor : Option Anchor}
    (hanchor : anchor ∈ anchorsOfLine words anchors i) : anchor ∈ anchors := by
  obtain ⟨⟨word, anchor⟩, hmem, rfl⟩ := List.mem_map.mp hanchor
  exact (List.of_mem_zip (List.mem_filter.mp hmem).1).2

theorem exists_anchor_of_isLineHeard {lineAnchors : List (Option Anchor)}
    (hne : lineAnchors ≠ []) (hheard : isLineHeard lineAnchors = true) :
    lineAnchors.filterMap id ≠ [] := by
  rw [isLineHeard] at hheard
  obtain ⟨anchor, hanchor, hsome⟩ : ∃ anchor ∈ lineAnchors, anchor.isSome = true := by
    split at hheard
    · obtain ⟨first, hfirst⟩ := List.exists_mem_of_ne_nil _ hne
      have hany := List.all_eq_true.mp hheard first hfirst
      cases first with
      | none => exact absurd hany Bool.false_ne_true
      | some anchor => exact ⟨some anchor, hfirst, rfl⟩
    · by_contra hnone
      have hfilter : lineAnchors.filter Option.isSome = [] :=
        List.filter_eq_nil_iff.mpr fun anchor hanchor hsome => hnone ⟨anchor, hanchor, hsome⟩
      rw [hfilter] at hheard
      simp [lineMinAnchoredShare] at hheard
      norm_num at hheard
  obtain ⟨found, rfl⟩ := Option.isSome_iff_exists.mp hsome
  exact List.ne_nil_of_mem (List.mem_filterMap.mpr ⟨some found, hanchor, rfl⟩)

theorem mapM_eq_some_map {α β : Type} {f : α → Option β} {g : α → β} {l : List α}
    (hf : ∀ a ∈ l, f a = some (g a)) : l.mapM f = some (l.map g) := by
  induction l with
  | nil => rfl
  | cons a rest ih =>
      rw [List.mapM_cons, hf a List.mem_cons_self,
        ih fun b hb => hf b (List.mem_cons_of_mem a hb)]
      rfl

/-- A lit line begins with one of its anchors and ends with one that is no earlier. -/
theorem lineInterval_spec {lineAnchors : List (Option Anchor)} (hne : lineAnchors ≠ [])
    (hincreasing : Increasing lineAnchors)
    (hbounds : ∀ anchor ∈ lineAnchors, ∀ a ∈ anchor, a.heardIndex < heard.length) :
    ∃ interval, lineInterval lineAnchors heard = some interval ∧
      ∀ lit ∈ interval, ∃ first last word word', some first ∈ lineAnchors ∧
        some last ∈ lineAnchors ∧ first.heardIndex ≤ last.heardIndex ∧
        heard[first.heardIndex]? = some word ∧ heard[last.heardIndex]? = some word' ∧
        lit = ⟨word.start, word'.endTime⟩ := by
  rw [lineInterval]
  split
  · rename_i hheard
    have hsung := exists_anchor_of_isLineHeard hne hheard
    have hmem : ∀ a ∈ lineAnchors.filterMap id, some a ∈ lineAnchors := by
      intro a ha
      obtain ⟨anchor, hanchor, rfl⟩ := List.mem_filterMap.mp ha
      exact hanchor
    have hpairwise : (lineAnchors.filterMap id).Pairwise fun a b => a.heardIndex < b.heardIndex :=
      List.Pairwise.filterMap id (fun anchor next hlt a ha b hb => hlt a ha b hb) hincreasing
    have hwords : ∀ a ∈ lineAnchors.filterMap id,
        heard[a.heardIndex]? = some (heard[a.heardIndex]?.getD ⟨0, 0, ""⟩) := by
      intro a ha
      rw [List.getElem?_eq_getElem (hbounds _ (hmem a ha) a rfl)]
      rfl
    rw [mapM_eq_some_map hwords]
    cases hlist : lineAnchors.filterMap id with
    | nil => exact absurd hlist hsung
    | cons first rest =>
        rw [hlist] at hmem hpairwise hwords
        have hlast : ∃ last, (first :: rest).getLast? = some last ∧
            first.heardIndex ≤ last.heardIndex := by
          refine ⟨_, List.getLast?_eq_getLast_of_ne_nil (List.cons_ne_nil first rest), ?_⟩
          rcases List.mem_cons.mp (List.getLast_mem (List.cons_ne_nil first rest)) with heq | hrest
          · rw [heq]
          · exact ((List.pairwise_cons.mp hpairwise).1 _ hrest).le
        obtain ⟨last, hget, hle⟩ := hlast
        have hlastmem := List.mem_of_mem_getLast? hget
        refine ⟨some _, rfl, fun lit hlit => ?_⟩
        obtain rfl := Option.some.inj hlit
        refine ⟨first, last, _, _, hmem first List.mem_cons_self, hmem last hlastmem, hle,
          hwords first List.mem_cons_self, hwords last hlastmem, ?_⟩
        rw [List.getLast?_map, hget]
        rfl
  · exact ⟨none, rfl, fun lit hlit => absurd hlit (by simp)⟩

theorem alignedLine_spec (hlength : words.length = anchors.length)
    (hrecorded : Recorded 0 0 heard.length anchors) (i : Nat) :
    ∃ interval, (∀ text, alignedLine words anchors heard text i = some ⟨text, interval⟩) ∧
      ∀ lit ∈ interval, ∃ first last word word', some first ∈ anchorsOfLine words anchors i ∧
        some last ∈ anchorsOfLine words anchors i ∧ first.heardIndex ≤ last.heardIndex ∧
        heard[first.heardIndex]? = some word ∧ heard[last.heardIndex]? = some word' ∧
        lit = ⟨word.start, word'.endTime⟩ := by
  by_cases hne : anchorsOfLine words anchors i = []
  · refine ⟨none, fun text => ?_, fun lit hlit => absurd hlit (by simp)⟩
    simp only [alignedLine, if_pos hne]
    rfl
  · obtain ⟨interval, hinterval, hlit⟩ := lineInterval_spec hne
      (anchorsOfLine_increasing hlength hrecorded.increasing i)
      (fun anchor hanchor a ha =>
        (hrecorded.later anchor (mem_of_mem_anchorsOfLine hanchor) a ha).2)
    refine ⟨interval, fun text => ?_, hlit⟩
    simp only [alignedLine, if_neg hne, hinterval]
    rfl

end Lines

/-- The anchors move forward through the heard words, every display line comes back in its
place, and where the heard words are in time order so are the times of the lit lines. -/
theorem lit_lines_in_time_order (data : NormalizeToken.UnicodeData) (lyrics : List Char)
    (cues : List WhisperCue) (horder : InTimeOrder (heardWords data cues)) :
    ∃ anchors path lines,
      alignWords wordSimilarity ((lyricWords data (splitLines lyrics)).map LyricWord.text)
        ((heardWords data cues).map HeardWord.text) = some (anchors, path) ∧
      Increasing anchors.toList ∧
      alignLyricsToCues data lyrics cues = some lines ∧
      lines.map AlignedLyricLine.text = splitLines lyrics ∧
      (∀ line ∈ lines, ∀ lit ∈ line.interval, lit.start ≤ lit.endTime) ∧
      lines.Pairwise fun line next => ∀ lit ∈ line.interval, ∀ lit' ∈ next.interval,
        lit.start ≤ lit'.start ∧ lit.endTime ≤ lit'.endTime := by
  obtain ⟨anchors, path, halign, -⟩ := exists_alignWords wordSimilarity
    ((lyricWords data (splitLines lyrics)).map LyricWord.text)
    ((heardWords data cues).map HeardWord.text)
  obtain ⟨hsize, hrecorded⟩ := alignWords_recorded halign
  rw [List.length_map] at hsize hrecorded
  have hlength : (lyricWords data (splitLines lyrics)).length = anchors.toList.length :=
    hsize.symm.trans Array.length_toList.symm
  have hspec := fun i => alignedLine_spec hlength hrecorded i
  choose interval hline hlit using hspec
  refine ⟨anchors, path, (splitLines lyrics).zipIdx.map fun entry => ⟨entry.1, interval entry.2⟩,
    halign, hrecorded.increasing, ?_, ?_, ?_, ?_⟩
  · unfold alignLyricsToCues
    simp only [halign, Option.bind_eq_bind, Option.bind_some]
    exact mapM_eq_some_map fun entry _ => hline entry.2 entry.1
  · rw [List.map_map]
    exact List.zipIdx_map_fst 0 _
  · intro line hmem lit hinterval
    obtain ⟨⟨text, i⟩, -, rfl⟩ := List.mem_map.mp hmem
    obtain ⟨first, last, word, word', -, -, hle, hword, hword', rfl⟩ := hlit i lit hinterval
    exact (horder.of_le hle hword hword').1.trans
      (horder.spans word' (List.mem_of_getElem? hword'))
  · rw [List.pairwise_map]
    refine (zipIdx_pairwise _).imp ?_
    intro entry entry' hlt lit hinterval lit' hinterval'
    obtain ⟨first, last, word, word', hfirst, hlast, -, hword, hword', rfl⟩ :=
      hlit entry.2 lit hinterval
    obtain ⟨first', last', next, next', hfirst', hlast', -, hnext, hnext', rfl⟩ :=
      hlit entry'.2 lit' hinterval'
    have hsorted := lyricWords_sorted data (splitLines lyrics)
    have hstart := anchorsOfLine_lt hsorted hrecorded.increasing hlt hfirst hfirst'
    have hend := anchorsOfLine_lt hsorted hrecorded.increasing hlt hlast hlast'
    exact ⟨(horder.of_le hstart.le hword hnext).1, (horder.of_le hend.le hword' hnext').2⟩

def twoWordCue : WhisperCue where
  start := 0
  endTime := 2
  text := ['h', 'e', 'y', ' ', 'y', 'o', 'u']
  words := some [⟨0, 1, ['H', 'e', 'y']⟩, ⟨1, 2, ['y', 'o', 'u']⟩]

theorem lit_lines_in_time_order_heyYou :
    ∃ anchors path lines,
      alignWords wordSimilarity ((lyricWords NormalizeToken.basicData
          (splitLines ['h', 'e', 'y', '\n', 'Y', 'o', 'u'])).map LyricWord.text)
        ((heardWords NormalizeToken.basicData [twoWordCue]).map HeardWord.text) =
          some (anchors, path) ∧
      Increasing anchors.toList ∧
      alignLyricsToCues NormalizeToken.basicData ['h', 'e', 'y', '\n', 'Y', 'o', 'u']
        [twoWordCue] = some lines ∧
      lines.map AlignedLyricLine.text = splitLines ['h', 'e', 'y', '\n', 'Y', 'o', 'u'] ∧
      (∀ line ∈ lines, ∀ lit ∈ line.interval, lit.start ≤ lit.endTime) ∧
      lines.Pairwise fun line next => ∀ lit ∈ line.interval, ∀ lit' ∈ next.interval,
        lit.start ≤ lit'.start ∧ lit.endTime ≤ lit'.endTime := by
  have hheard : heardWords NormalizeToken.basicData [twoWordCue] =
      [⟨0, 1, "hey"⟩, ⟨1, 2, "you"⟩] := by
    rw [heardWords, List.mergeSort_singleton]
    decide +kernel
  refine lit_lines_in_time_order NormalizeToken.basicData _ _ ?_
  rw [hheard]
  exact ⟨by decide +kernel, by decide +kernel⟩

end Songmaker.Lyrics
