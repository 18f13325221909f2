import Songmaker.Lyrics.InsertedElements
import Songmaker.Scoring.TextAccuracy

namespace Songmaker.Scoring.TextAccuracy

open Songmaker.Foundation
open Songmaker.Lyrics.SequenceMatcher
open Songmaker.Scoring.CleanLyrics

variable {table : CaseTable}

theorem comparedWords_eq (lines : List (List Char)) :
    comparedWords table lines = (lines.filter fun line => !isVocalization table line).flatMap
      fun line => splitWords (cleanLyrics table line) := by
  rw [comparedWords, splitWords_joinWords, List.flatMap_map]

theorem comparedWords_append (lines rest : List (List Char)) :
    comparedWords table (lines ++ rest) =
      comparedWords table lines ++ comparedWords table rest := by
  rw [comparedWords_eq, comparedWords_eq, comparedWords_eq, List.filter_append,
    List.flatMap_append]

theorem wordLevelAccuracy_eq (intended transcribed : List (List Char)) :
    wordLevelAccuracy table intended transcribed =
      (matchedSize (comparedWords table intended) (comparedWords table transcribed) : ℚ) /
        (comparedWords table intended).length := by
  have hnone : ∀ lines : List (List Char), lines = [] → comparedWords table lines = [] := by
    rintro _ rfl
    rfl
  rw [wordLevelAccuracy]
  split
  · rename_i hempty
    rcases hempty with hempty | hempty
    · rw [hnone intended hempty, List.length_nil, Nat.cast_zero, div_zero]
    · have hsize := (matchedSize_le (comparedWords table intended) []).2
      rw [hnone transcribed hempty, Nat.le_zero.mp hsize, Nat.cast_zero, zero_div]
  · split
    · rename_i hempty
      rw [hempty, List.length_nil, Nat.cast_zero, div_zero]
    · split
      · rename_i hempty
        have hsize := (matchedSize_le (comparedWords table intended) []).2
        rw [hempty, Nat.le_zero.mp hsize, Nat.cast_zero, zero_div]
      · rfl

theorem wordLevelAccuracy_mem (intended transcribed : List (List Char)) :
    0 ≤ wordLevelAccuracy table intended transcribed ∧
      wordLevelAccuracy table intended transcribed ≤ 1 := by
  rw [wordLevelAccuracy_eq]
  constructor
  · exact div_nonneg (Nat.cast_nonneg _) (Nat.cast_nonneg _)
  · apply div_le_one_of_le₀
    · exact_mod_cast (matchedSize_le _ _).1
    · exact Nat.cast_nonneg _

theorem exists_word {line : List Char} (hline : isVocalization table line = false) :
    ∃ word ∈ splitWords (cleanLyrics table line), isVocalizationWord word = false := by
  obtain ⟨word, hword, hsung⟩ := List.all_eq_false.mp hline
  exact ⟨word, hword, by simpa using hsung⟩

theorem mem_comparedWords {lines : List (List Char)} {line word : List Char}
    (hline : line ∈ lines) (hsung : isVocalization table line = false)
    (hword : word ∈ splitWords (cleanLyrics table line)) :
    word ∈ comparedWords table lines := by
  rw [comparedWords_eq]
  exact List.mem_flatMap.mpr ⟨line, List.mem_filter.mpr ⟨hline, by simp [hsung]⟩, hword⟩

theorem comparedWords_eq_nil_iff (lines : List (List Char)) :
    comparedWords table lines = [] ↔ ∀ line ∈ lines, isVocalization table line = true := by
  constructor
  · intro hnil line hline
    by_contra hsung
    have hsung' : isVocalization table line = false := by simpa using hsung
    obtain ⟨word, hword, -⟩ := exists_word hsung'
    have hmem := mem_comparedWords hline hsung' hword
    rw [hnil] at hmem
    exact List.not_mem_nil hmem
  · intro hall
    rw [comparedWords_eq, List.filter_eq_nil_iff.mpr fun line hline => by simp [hall line hline]]
    rfl

theorem wordLevelAccuracy_self {intended : List (List Char)}
    (hsung : ∃ line ∈ intended, isVocalization table line = false) :
    wordLevelAccuracy table intended intended = 1 := by
  have hne : comparedWords table intended ≠ [] := by
    rw [ne_eq, comparedWords_eq_nil_iff]
    intro hall
    obtain ⟨line, hline, hfalse⟩ := hsung
    rw [hall line hline] at hfalse
    exact absurd hfalse (by decide)
  rw [wordLevelAccuracy_eq, matchedSize_self]
  apply div_self
  exact_mod_cast (List.length_pos_iff.mpr hne).ne'

/-! ### A word that is sung too often -/

theorem comparedWords_singleton {word : List Char} (hclean : IsClean table word)
    (hsung : isVocalizationWord word = false) : comparedWords table [word] = [word] := by
  have hwords : splitWords (cleanLyrics table word) = [word] := by
    rw [cleanLyrics_of_isClean hclean, splitWords_of_isWord hclean.toIsWord]
  have hline : isVocalization table word = false := by
    rw [isVocalization, hwords]
    simp [hsung]
  rw [comparedWords_eq, List.filter_cons_of_pos (by simp [hline]), List.filter_nil,
    List.flatMap_cons, hwords]
  rfl

theorem comparedWords_of_isClean {words : List (List Char)}
    (hwords : ∀ word ∈ words, IsClean table word ∧ isVocalizationWord word = false) :
    comparedWords table words = words := by
  induction words with
  | nil => rfl
  | cons word words ih =>
      obtain ⟨hclean, hsung⟩ := hwords word List.mem_cons_self
      rw [← List.singleton_append, comparedWords_append, comparedWords_singleton hclean hsung,
        ih fun other hother => hwords other (List.mem_cons_of_mem word hother)]

/-- An ad-lib that is longer than `length`. -/
def adLib (length : Nat) : List Char :=
  'x' :: 'x' :: List.replicate length 'x'

theorem mem_adLib {length : Nat} {c : Char} (hc : c ∈ adLib length) : c = 'x' := by
  rcases List.mem_cons.mp hc with rfl | hc
  · rfl
  · rcases List.mem_cons.mp hc with rfl | hc
    · rfl
    · exact List.eq_of_mem_replicate hc

theorem isClean_adLib (length : Nat) : IsClean table (adLib length) := by
  refine { ne_nil := List.cons_ne_nil _ _, unspaced := ?_, lowered := ?_, untagged := ?_,
           plain := ?_ }
  · intro c hc
    rw [mem_adLib hc]
    decide
  · intro c hc
    rw [mem_adLib hc]
    exact table.lowercase_ascii 'x' (by decide)
  · intro htag
    have hopen := mem_adLib (htag.subset List.mem_cons_self)
    exact absurd hopen (by decide)
  · intro c hc
    rw [mem_adLib hc]
    decide

theorem adLib_sung (length : Nat) : isVocalizationWord (adLib length) = false := by
  simp [isVocalizationWord, vocalizationWords, isRepeatedVocalization, isOpenRun, isRun, adLib]

theorem exists_fresh_adLib (words : List (List Char)) : ∃ length, adLib length ∉ words := by
  have hbound : ∃ bound, ∀ word ∈ words, word.length ≤ bound := by
    induction words with
    | nil => exact ⟨0, fun word hword => absurd hword List.not_mem_nil⟩
    | cons word words ih =>
        obtain ⟨bound, hbound⟩ := ih
        refine ⟨max word.length bound, ?_⟩
        intro other hother
        rcases List.mem_cons.mp hother with rfl | hother
        · exact le_max_left _ _
        · exact (hbound other hother).trans (le_max_right _ _)
  obtain ⟨bound, hbound⟩ := hbound
  refine ⟨bound, fun hmem => ?_⟩
  have hle := hbound _ hmem
  rw [adLib, List.length_cons, List.length_cons, List.length_replicate] at hle
  omega

/-- Lines that never lower the accuracy when they are inserted into a transcription. -/
structure NeverPenalised (table : CaseTable) (intended : List (List Char)) : Prop where
  mem : ∀ transcribed, 0 ≤ wordLevelAccuracy table intended transcribed ∧
    wordLevelAccuracy table intended transcribed ≤ 1
  self : (∃ line ∈ intended, isVocalization table line = false) →
    wordLevelAccuracy table intended intended = 1
  inserted : ∀ transcribed more : List (List Char), transcribed.Sublist more →
    wordLevelAccuracy table intended transcribed ≤ wordLevelAccuracy table intended more

theorem exists_lowered {intended : List (List Char)}
    (hsung : ∃ line ∈ intended, isVocalization table line = false) :
    ∃ transcribed more : List (List Char), transcribed.Sublist more ∧
      wordLevelAccuracy table intended more < wordLevelAccuracy table intended transcribed := by
  obtain ⟨line, hline, hfalse⟩ := hsung
  obtain ⟨word, hword, hvocal⟩ := exists_word hfalse
  have hclean := isClean_of_mem hword
  have hmem := mem_comparedWords hline hfalse hword
  obtain ⟨length, hfresh⟩ := exists_fresh_adLib (comparedWords table intended)
  have hne : word ≠ adLib length := by
    rintro rfl
    exact hfresh hmem
  have honce : comparedWords table [word] = [word] :=
    comparedWords_singleton hclean hvocal
  have hoften : comparedWords table (adLib length :: List.replicate autojunkMinLength word) =
      adLib length :: List.replicate autojunkMinLength word := by
    apply comparedWords_of_isClean
    intro other hother
    rcases List.mem_cons.mp hother with rfl | hrepeated
    · exact ⟨isClean_adLib _, adLib_sung _⟩
    · rw [List.eq_of_mem_replicate hrepeated]
      exact ⟨hclean, hvocal⟩
  refine ⟨[word], adLib length :: List.replicate autojunkMinLength word, ?_, ?_⟩
  · apply List.Sublist.cons
    exact List.singleton_sublist.mpr (List.mem_replicate.mpr ⟨by decide, rfl⟩)
  · obtain ⟨i, hi, hget⟩ := List.getElem_of_mem hmem
    have hpaired : Paired (comparedWords table intended) [word] i 0 := by
      refine ⟨word, by rw [List.getElem?_eq_getElem hi, hget], rfl, ?_⟩
      intro hpopular
      have hlength := hpopular.1
      rw [List.length_singleton] at hlength
      exact absurd hlength (by decide)
    rw [wordLevelAccuracy_eq, wordLevelAccuracy_eq, honce, hoften,
      matchedSize_repeated hfresh hne le_rfl, Nat.cast_zero, zero_div]
    apply div_pos
    · exact_mod_cast matchedSize_pos hpaired
    · exact_mod_cast List.length_pos_of_mem hmem

/-- Extra singing is never penalised only where no word is intended. The other two parts
hold for all lines. -/
theorem neverPenalised_iff (table : CaseTable) (intended : List (List Char)) :
    (NeverPenalised table intended ↔ ∀ line ∈ intended, isVocalization table line = true) ∧
    (∀ transcribed, 0 ≤ wordLevelAccuracy table intended transcribed ∧
      wordLevelAccuracy table intended transcribed ≤ 1) ∧
    ((∃ line ∈ intended, isVocalization table line = false) →
      wordLevelAccuracy table intended intended = 1) := by
  refine ⟨⟨?_, ?_⟩, wordLevelAccuracy_mem intended, wordLevelAccuracy_self⟩
  · intro hnever line hline
    by_contra hsung
    obtain ⟨transcribed, more, hsublist, hlowered⟩ :=
      exists_lowered ⟨line, hline, by simpa using hsung⟩
    exact absurd (hnever.inserted transcribed more hsublist) (not_le.mpr hlowered)
  · intro hall
    refine ⟨wordLevelAccuracy_mem intended, wordLevelAccuracy_self, ?_⟩
    intro transcribed more hsublist
    rw [wordLevelAccuracy_eq, wordLevelAccuracy_eq, (comparedWords_eq_nil_iff intended).mpr hall,
      List.length_nil, Nat.cast_zero, div_zero, div_zero]

/-! ### Singing that is not penalised -/

/-- Words that are put into the transcription count for nothing where none of them is an
intended one, none comes between two words that follow one another in the intended lines too,
and the transcription stays too short for a word to be dropped. -/
theorem wordLevelAccuracy_inserted {intended transcribed more : List (List Char)}
    {place : ℕ ↪o ℕ} (h : Inserted (comparedWords table intended)
      (comparedWords table transcribed) (comparedWords table more) place) :
    wordLevelAccuracy table intended more = wordLevelAccuracy table intended transcribed := by
  rw [wordLevelAccuracy_eq, wordLevelAccuracy_eq, h.matchedSize_eq]

theorem wordLevelAccuracy_around {intended front transcribed back : List (List Char)}
    (hforeign : ∀ word ∈ comparedWords table (front ++ back),
      word ∉ comparedWords table intended)
    (hshort : (comparedWords table (front ++ (transcribed ++ back))).length < autojunkMinLength) :
    wordLevelAccuracy table intended (front ++ (transcribed ++ back)) =
      wordLevelAccuracy table intended transcribed := by
  have hwords : comparedWords table (front ++ (transcribed ++ back)) =
      comparedWords table front ++
          (comparedWords table transcribed ++ comparedWords table back) := by
    rw [comparedWords_append, comparedWords_append]
  rw [hwords] at hshort
  rw [comparedWords_append] at hforeign
  have hinserted := inserted_around hforeign hshort
  rw [← hwords] at hinserted
  exact wordLevelAccuracy_inserted hinserted

/-! ### A song with three ad-libs -/

/-- The character tables of a text in ASCII. -/
def asciiTable : CaseTable where
  lowercase c :=
    if c = capitalSigma then [smallSigma] else if c.toNat < 128 then [c.toLower] else [c]
  isCased c := c.isAlpha
  isCaseIgnorable _ := false
  isAlnum c := c.isAlphanum
  lowercase_ascii := by
    intro c hascii
    have hsigma : c ≠ capitalSigma := by
      rintro rfl
      exact absurd hascii (by decide)
    rw [if_neg hsigma, if_pos hascii]
  lowercase_beyond := by
    intro c hbeyond d hd hascii
    split at hd
    · rw [List.mem_singleton.mp hd] at hascii
      exact absurd hascii (by decide)
    · rw [if_neg (not_lt.mpr hbeyond), List.mem_singleton] at hd
      rw [hd] at hascii
      exact absurd hascii (not_lt.mpr hbeyond)
  lowercase_stable := by
    intro c d hd
    have hall : ∀ n < 128, (Char.ofNat n).toLower.toNat < 128 ∧
        (Char.ofNat n).toLower.toLower = (Char.ofNat n).toLower := by decide
    split at hd
    · rw [List.mem_singleton.mp hd]
      decide
    · rename_i hsigma
      split at hd
      · rename_i hascii
        obtain ⟨hlt, hlower⟩ := hall c.toNat hascii
        rw [Char.ofNat_toNat] at hlt hlower
        rw [List.mem_singleton.mp hd, if_pos hlt, hlower, if_neg]
        intro heq
        rw [heq] at hlt
        exact absurd hlt (by decide)
      · rename_i hascii
        rw [List.mem_singleton.mp hd, if_neg hsigma, if_neg hascii]
  lowercase_capitalSigma := by decide
  lowercase_finalSigma := by decide

def threeLines : List (List Char) :=
  [['a', ' ', 'b'], ['c', ' ', 'd'], ['e', ' ', 'f']]

/-- The same lines with the end of the song sung first and two ad-libs. -/
def threeLinesSung : List (List Char) :=
  [['d', ' ', 'e', ' ', 'f'], ['a', ' ', 'b'], ['z', 'z'], ['c', ' ', 'd'], ['z', 'z'],
    ['e', ' ', 'f']]

def wordsSung : List (List Char) :=
  [['d'], ['e'], ['f'], ['a'], ['b'], ['z', 'z'], ['c'], ['d'], ['z', 'z'], ['e'], ['f']]

theorem matchedSize_threeLinesSung :
    matchedSize [['a'], ['b'], ['c'], ['d'], ['e'], ['f']] wordsSung = 3 := by
  have hbest : IsLongestMatch [['a'], ['b'], ['c'], ['d'], ['e'], ['f']] wordsSung
      (wholeRange [['a'], ['b'], ['c'], ['d'], ['e'], ['f']] wordsSung) ⟨3, 0, 3⟩ :=
    isLongestMatch_iff.mpr (by decide +kernel)
  exact matchedSize_of_corner hbest (by decide) (Or.inr rfl) (Or.inl rfl)

theorem inserted_lines_penalised : threeLines.Sublist threeLinesSung ∧
    wordLevelAccuracy asciiTable threeLines threeLines = 1 ∧
    wordLevelAccuracy asciiTable threeLines threeLinesSung = 1 / 2 := by
  refine ⟨by decide, wordLevelAccuracy_self (by decide +kernel), ?_⟩
  have hwords : comparedWords asciiTable threeLines =
      [['a'], ['b'], ['c'], ['d'], ['e'], ['f']] := by decide +kernel
  have hsung : comparedWords asciiTable threeLinesSung = wordsSung := by decide +kernel
  rw [wordLevelAccuracy_eq, hwords, hsung, matchedSize_threeLinesSung]
  decide +kernel

end Songmaker.Scoring.TextAccuracy
