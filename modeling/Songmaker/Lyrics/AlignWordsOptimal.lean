import Songmaker.Lyrics.AlignmentTable

namespace Songmaker.Lyrics

open Songmaker.Foundation

section Paths

variable (lyricCount : Nat) (similarity : Nat → Nat → ℚ)

/-- The moves lead to `place` and score what the table holds there, and so does
each of their prefixes. -/
structure BestPath (place : Place) (moves : List Ending) : Prop where
  final : (alignmentMoves lyricCount similarity).final start moves = place
  attains : (alignmentMoves lyricCount similarity).Attains (value lyricCount similarity) start moves

variable {lyricCount similarity}

theorem BestPath.concat {place : Place} {moves : List Ending}
    (hmoves : BestPath lyricCount similarity place moves) {move : Ending} {place' : Place}
    (hnext : (alignmentMoves lyricCount similarity).next place move = place')
    (hvalue : value lyricCount similarity place' = value lyricCount similarity place +
      (alignmentMoves lyricCount similarity).score place move) :
    BestPath lyricCount similarity place' (moves ++ [move]) := by
  constructor
  · rw [ScoredMoves.final_concat, hmoves.final, hnext]
  · apply hmoves.attains.concat
    rw [hmoves.final, hnext]
    exact hvalue

theorem bestPath_row_zero (heard : Nat) :
    BestPath lyricCount similarity ⟨0, heard, .heardGap⟩ (List.replicate heard .heardGap) := by
  induction heard with
  | zero =>
      refine ⟨rfl, ScoredMoves.attains_nil _ ?_⟩
      rw [start, value_row_zero, if_pos rfl]
  | succ heard ih =>
      rw [List.replicate_succ']
      refine ih.concat rfl ?_
      rw [value_row_zero, value_row_zero]
      simp [alignmentMoves]

theorem value_ne_bot_of_add {value' value : WithBot ℚ} {score : ℚ} (hsum : value' = value + score)
    (hvalue' : value' ≠ ⊥) : value ≠ ⊥ := by
  rintro rfl
  apply hvalue'
  rw [hsum, WithBot.bot_add]

end Paths

section Traceback

variable {lyricCount heardCount : Nat} {similarity : Nat → Nat → ℚ}
  {lookup : Nat → Nat → Option ℚ} {table : AlignmentTable}

theorem recordAnchor_spec {anchors : Array (Option Anchor)} (hanchors : anchors.size = lyricCount)
    {lyric : Nat} (hlyric : lyric < lyricCount) (heard : Nat) (pairSimilarity : ℚ) :
    ∃ recorded : Array (Option Anchor), recorded.size = lyricCount ∧
      ∀ {β : Type} (rest : Array (Option Anchor) → Option β),
        (if anchorMinSimilarity ≤ pairSimilarity then
          if lyric < anchors.size then
            rest (anchors.setIfInBounds lyric (some ⟨heard, pairSimilarity⟩))
          else none
        else rest anchors) = rest recorded := by
  have hbounds : lyric < anchors.size := hanchors.symm ▸ hlyric
  by_cases hsimilar : anchorMinSimilarity ≤ pairSimilarity
  · refine ⟨anchors.setIfInBounds lyric (some ⟨heard, pairSimilarity⟩), ?_, fun rest => ?_⟩
    · rw [Array.size_setIfInBounds, hanchors]
    · rw [if_pos hsimilar, if_pos hbounds]
  · exact ⟨anchors, hanchors, fun rest => if_neg hsimilar⟩

theorem traceBack_spec
    (htable : FilledTo lyricCount heardCount similarity (lyricCount + 1) 0 table)
    (hlookup : ∀ lyric < lyricCount, ∀ heard < heardCount,
      lookup lyric heard = some (similarity lyric heard))
    {steps lyric heard : Nat} (hsteps : lyric + heard < steps) (hlyric : lyric ≤ lyricCount)
    (hheard : heard ≤ heardCount) (ending : Ending)
    (hvalue : value lyricCount similarity ⟨lyric, heard, ending⟩ ≠ ⊥)
    {anchors : Array (Option Anchor)} (hanchors : anchors.size = lyricCount)
    (moves : List Ending) :
    ∃ anchors' before,
      traceBack lookup table lyric heard ending anchors moves = some (anchors', before ++ moves) ∧
        BestPath lyricCount similarity ⟨lyric, heard, ending⟩ before := by
  induction steps generalizing lyric heard ending anchors moves with
  | zero => omega
  | succ steps ih =>
      cases lyric with
      | zero =>
          rw [value_row_zero] at hvalue
          have hending : ending = .heardGap := by
            by_contra hne
            exact hvalue (if_neg hne)
          subst hending
          exact ⟨anchors, _, by rw [traceBack], bestPath_row_zero heard⟩
      | succ lyric =>
          have hprevious := htable.previousOf hlyric hheard ending
          cases ending with
          | lyricGap =>
              have hstep := value_lyricGap lyricCount similarity lyric heard
              obtain ⟨anchors', before, htrace, hbefore⟩ := ih (by omega) (by omega) hheard _
                (value_ne_bot_of_add hstep hvalue) hanchors (.lyricGap :: moves)
              refine ⟨anchors', before ++ [.lyricGap], ?_, hbefore.concat rfl hstep⟩
              rw [traceBack, hprevious]
              simpa using htrace
          | heardGap =>
              cases heard with
              | zero => exact absurd (value_edge lyricCount similarity lyric (by decide)) hvalue
              | succ heard =>
                  have hstep := value_heardGap lyricCount similarity lyric heard
                  obtain ⟨anchors', before, htrace, hbefore⟩ := ih (by omega) hlyric (by omega) _
                    (value_ne_bot_of_add hstep hvalue) hanchors (.heardGap :: moves)
                  refine ⟨anchors', before ++ [.heardGap], ?_, hbefore.concat rfl hstep⟩
                  rw [traceBack, hprevious]
                  simpa using htrace
          | pair =>
              cases heard with
              | zero => exact absurd (value_edge lyricCount similarity lyric (by decide)) hvalue
              | succ heard =>
                  have hstep := value_pair lyricCount similarity lyric heard
                  obtain ⟨recorded, hrecorded, hrecord⟩ :=
                    recordAnchor_spec hanchors hlyric heard (similarity lyric heard)
                  obtain ⟨anchors', before, htrace, hbefore⟩ := ih (by omega) (by omega)
                    (by omega) _ (value_ne_bot_of_add hstep hvalue) hrecorded (.pair :: moves)
                  refine ⟨anchors', before ++ [.pair], ?_, hbefore.concat rfl hstep⟩
                  rw [traceBack, hprevious]
                  simp only [Option.bind_eq_bind, Option.bind_some,
                    hlookup lyric hlyric heard hheard]
                  have hrest := hrecord fun anchors => traceBack lookup table lyric heard
                    (previousPlace lyricCount similarity ⟨lyric + 1, heard + 1, .pair⟩) anchors
                    (.pair :: moves)
                  simpa using hrest.trans htrace

end Traceback

theorem similarityLookup_spec (wordSimilarity : String → String → ℚ) (lyrics heard : List String)
    (lyricIndex : Nat) (hlyric : lyricIndex < lyrics.length) (heardIndex : Nat)
    (hheard : heardIndex < heard.length) :
    similarityLookup wordSimilarity lyrics heard lyricIndex heardIndex =
      some ((similarityLookup wordSimilarity lyrics heard lyricIndex heardIndex).getD 0) := by
  unfold similarityLookup
  rw [List.getElem?_eq_getElem hlyric, List.getElem?_eq_getElem hheard]
  rfl

/-- The similarities that `alignWords` scores the pairs of words with. -/
def wordPairSimilarity (wordSimilarity : String → String → ℚ) (lyrics heard : List String)
    (lyric word : Nat) : ℚ :=
  (similarityLookup wordSimilarity lyrics heard lyric word).getD 0

/-- `alignWords` succeeds, and traces back a best path to the end of the two lists. -/
theorem exists_alignWords (wordSimilarity : String → String → ℚ) (lyrics heard : List String) :
    ∃ anchors path, alignWords wordSimilarity lyrics heard = some (anchors, path) ∧
      BestPath lyrics.length (wordPairSimilarity wordSimilarity lyrics heard)
        ⟨lyrics.length, heard.length,
          (rows lyrics.length (wordPairSimilarity wordSimilarity lyrics heard) lyrics.length
            heard.length).bestEnding⟩ path := by
  set similarity := wordPairSimilarity wordSimilarity lyrics heard with hsimilarity
  have hlookup : ∀ lyric < lyrics.length, ∀ word < heard.length,
      similarityLookup wordSimilarity lyrics heard lyric word = some (similarity lyric word) :=
    similarityLookup_spec wordSimilarity lyrics heard
  obtain ⟨table, hfill, htable⟩ := fillAlignmentTable_spec hlookup
  have hbest := best_ne_bot lyrics.length similarity lyrics.length heard.length
  obtain ⟨anchors, path, htrace, hpath⟩ := traceBack_spec htable hlookup
    (Nat.lt_succ_self (lyrics.length + heard.length)) le_rfl le_rfl
    (rows lyrics.length similarity lyrics.length heard.length).bestEnding hbest
    Array.size_replicate []
  refine ⟨anchors, path, ?_, hpath⟩
  unfold alignWords
  dsimp only
  rw [hfill]
  simp only [Option.bind_eq_bind, Option.bind_some, htable.bestEnding]
  rw [htrace, List.append_nil]

/-- `alignWords` never reads or writes out of bounds, and the path it traces
back is an alignment whose score no alignment of the same words exceeds. Every
place on the path holds the finite score of the path up to it. -/
theorem alignWords_optimal (wordSimilarity : String → String → ℚ) (lyrics heard : List String) :
    ∃ anchors path, alignWords wordSimilarity lyrics heard = some (anchors, path) ∧
      IsAlignment lyrics.length heard.length (wordPairSimilarity wordSimilarity lyrics heard) path ∧
      (alignmentMoves lyrics.length (wordPairSimilarity wordSimilarity lyrics heard)).Attains
        (value lyrics.length (wordPairSimilarity wordSimilarity lyrics heard)) start path ∧
      ∀ other,
        IsAlignment lyrics.length heard.length (wordPairSimilarity wordSimilarity lyrics heard)
          other →
        alignmentScore lyrics.length (wordPairSimilarity wordSimilarity lyrics heard) other ≤
          alignmentScore lyrics.length (wordPairSimilarity wordSimilarity lyrics heard) path := by
  obtain ⟨anchors, path, halign, hpath⟩ := exists_alignWords wordSimilarity lyrics heard
  refine ⟨anchors, path, halign, ?_, hpath.attains, ?_⟩
  · unfold IsAlignment
    rw [hpath.final]
    exact ⟨rfl, rfl⟩
  · intro other hother
    have hscore := hpath.attains.value_final
    rw [hpath.final] at hscore
    have hle := (alignmentScore_le_best lyrics.length
      (wordPairSimilarity wordSimilarity lyrics heard) hother).trans_eq hscore
    exact WithBot.coe_le_coe.mp hle

end Songmaker.Lyrics
