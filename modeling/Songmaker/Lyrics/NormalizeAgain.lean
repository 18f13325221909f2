import Mathlib.Data.List.Chain
import Songmaker.Foundation.SeparatedText
import Songmaker.Lyrics.FoldedText

namespace Songmaker.Lyrics.NormalizeToken

open Songmaker.Foundation.CodePoints
open Songmaker.Foundation.SeparatedText

variable (data : UnicodeData)

/-! ### Words and the spaces between them -/

/-- Texts with nothing blank in them and none of them empty. -/
def Words (tokens : List Text) : Prop :=
  ∀ token ∈ tokens, token ≠ [] ∧ ∀ unit ∈ token, isWhitespace unit = false

/-- White space is one space at a time, and none at either end. -/
structure Spaced (text : Text) : Prop where
  only_space : ∀ unit ∈ text, isWhitespace unit = true → unit = space
  apart : text.IsChain fun unit next => isWhitespace unit = true → isWhitespace next = false
  starts : ∀ unit ∈ text.head?, isWhitespace unit = false
  ends : ∀ unit ∈ text.getLast?, isWhitespace unit = false

theorem mem_collapseWhitespace {afterSpace : Bool} {text : Text} {unit : Nat}
    (hunit : unit ∈ collapseWhitespace afterSpace text) :
    unit = space ∨ unit ∈ text ∧ isWhitespace unit = false := by
  induction text generalizing afterSpace with
  | nil => exact absurd hunit List.not_mem_nil
  | cons first rest ih =>
      rw [collapseWhitespace] at hunit
      split at hunit
      · have hrest : unit = space ∨ unit ∈ rest ∧ isWhitespace unit = false := by
          split at hunit
          · exact ih hunit
          · rcases List.mem_cons.mp hunit with heq | hmem
            · exact .inl heq
            · exact ih hmem
        exact hrest.imp_right fun h => ⟨List.mem_cons_of_mem first h.1, h.2⟩
      · rename_i hfirst
        rcases List.mem_cons.mp hunit with rfl | hmem
        · exact .inr ⟨List.mem_cons_self, Bool.eq_false_iff.mpr hfirst⟩
        · exact (ih hmem).imp_right fun h => ⟨List.mem_cons_of_mem first h.1, h.2⟩

theorem head_collapseWhitespace {text : Text} :
    ∀ unit ∈ (collapseWhitespace true text).head?, isWhitespace unit = false := by
  induction text with
  | nil => exact fun unit hunit => absurd hunit (by simp [collapseWhitespace])
  | cons first rest ih =>
      intro unit hunit
      rw [collapseWhitespace] at hunit
      split at hunit
      · exact ih unit hunit
      · rename_i hfirst
        obtain rfl : first = unit := by simpa using hunit
        exact Bool.eq_false_iff.mpr hfirst

theorem collapseWhitespace_apart (afterSpace : Bool) (text : Text) :
    (collapseWhitespace afterSpace text).IsChain fun unit next =>
      isWhitespace unit = true → isWhitespace next = false := by
  induction text generalizing afterSpace with
  | nil => exact .nil
  | cons first rest ih =>
      rw [collapseWhitespace]
      split
      · split
        · exact ih true
        · rw [List.isChain_cons]
          exact ⟨fun next hnext _ => head_collapseWhitespace next hnext, ih true⟩
      · rename_i hfirst
        rw [List.isChain_cons]
        exact ⟨fun next _ hwhite => absurd hwhite hfirst, ih false⟩

theorem trim_spaced {text : Text} (honly : ∀ unit ∈ text, isWhitespace unit = true → unit = space)
    (hapart : text.IsChain fun unit next => isWhitespace unit = true → isWhitespace next = false) :
    Spaced (trim text) := by
  have hpart : trim text <:+: text :=
    (List.rdropWhile_prefix _ _).isInfix.trans (List.dropWhile_suffix _).isInfix
  refine ⟨fun unit hunit => honly unit (hpart.subset hunit), hapart.infix hpart, ?_, ?_⟩
  · intro unit hunit
    rw [trim] at hunit
    have hhead : unit ∈ (text.dropWhile isWhitespace).head? := by
      obtain ⟨more, hmore⟩ := List.rdropWhile_prefix isWhitespace (text.dropWhile isWhitespace)
      rw [← hmore, List.head?_append]
      rw [Option.mem_def.mp hunit]
      rfl
    have hnot := List.head?_dropWhile_not isWhitespace text
    rw [Option.mem_def.mp hhead] at hnot
    simpa using hnot
  · intro unit hunit
    obtain ⟨hne, rfl⟩ := List.mem_getLast?_eq_getLast hunit
    have hnot := List.rdropWhile_last_not isWhitespace _ hne
    exact Bool.eq_false_iff.mpr hnot

theorem Spaced.collapseWhitespace {text : Text} (htext : Spaced text) :
    collapseWhitespace false text = text := by
  have hrun : ∀ (afterSpace : Bool) (text : Text),
      (∀ unit ∈ text, isWhitespace unit = true → unit = space) →
      (text.IsChain fun unit next => isWhitespace unit = true → isWhitespace next = false) →
      (afterSpace = true → ∀ unit ∈ text.head?, isWhitespace unit = false) →
      NormalizeToken.collapseWhitespace afterSpace text = text := by
    intro afterSpace text honly hapart hstarts
    induction text generalizing afterSpace with
    | nil => rfl
    | cons first rest ih =>
        rw [List.isChain_cons] at hapart
        have honly' := fun unit hunit => honly unit (List.mem_cons_of_mem first hunit)
        rw [NormalizeToken.collapseWhitespace]
        split
        · rename_i hfirst
          have hnot : afterSpace = false := by
            by_contra hafter
            have hstart := hstarts ((Bool.not_eq_false _).mp hafter) first rfl
            rw [hfirst] at hstart
            exact Bool.false_ne_true hstart.symm
          rw [if_neg (by simp [hnot]), ← honly first List.mem_cons_self hfirst,
            ih true honly' hapart.2 fun _ unit hunit => hapart.1 unit hunit hfirst]
        · rw [ih false honly' hapart.2 fun h => absurd h Bool.false_ne_true]
  exact hrun false text htext.only_space htext.apart fun h => absurd h Bool.false_ne_true

theorem Spaced.trim {text : Text} (htext : Spaced text) : trim text = text := by
  have hdrop : text.dropWhile isWhitespace = text := by
    cases text with
    | nil => rfl
    | cons first rest => exact List.dropWhile_cons_of_neg (by simp [htext.starts first rfl])
  rw [NormalizeToken.trim, hdrop, List.rdropWhile_eq_self_iff]
  intro hne
  simpa using htext.ends _ (List.getLast?_eq_getLast_of_ne_nil hne)

theorem Spaced.words {text : Text} (htext : Spaced text) :
    ∃ tokens, Words tokens ∧ text = [space].intercalate tokens := by
  induction hlength : text.length using Nat.strong_induction_on generalizing text with
  | _ length ih =>
      cases text with
      | nil => exact ⟨[], fun token htoken => absurd htoken List.not_mem_nil, rfl⟩
      | cons first rest =>
          have hfirst := htext.starts first rfl
          obtain ⟨word, more, hword, hmore, hsplit⟩ : ∃ word more,
              (∀ unit ∈ word, isWhitespace unit = false) ∧
              (∀ unit ∈ more.head?, isWhitespace unit = true) ∧ rest = word ++ more := by
            refine ⟨rest.takeWhile fun unit => !isWhitespace unit,
              rest.dropWhile fun unit => !isWhitespace unit, ?_, ?_,
              List.takeWhile_append_dropWhile.symm⟩
            · intro unit hunit
              simpa using List.mem_takeWhile_imp hunit
            · intro unit hunit
              have hnot := List.head?_dropWhile_not (fun unit => !isWhitespace unit) rest
              rw [Option.mem_def.mp hunit] at hnot
              simpa using hnot
          subst hsplit
          have hwords : first :: word ≠ [] ∧ ∀ unit ∈ first :: word, isWhitespace unit = false :=
            ⟨List.cons_ne_nil _ _, fun unit hunit => by
              rcases List.mem_cons.mp hunit with rfl | hmem
              · exact hfirst
              · exact hword unit hmem⟩
          cases more with
          | nil =>
              refine ⟨[first :: word], fun token htoken => ?_, by simp⟩
              obtain rfl := List.mem_singleton.mp htoken
              exact hwords
          | cons blank more =>
              have hblank := hmore blank rfl
              have hspace : blank = space := htext.only_space blank (by simp) hblank
              have hsuffix : more <:+ first :: (word ++ blank :: more) :=
                ⟨first :: word ++ [blank], by simp⟩
              have hapart := htext.apart.suffix
                (show blank :: more <:+ first :: (word ++ blank :: more) from
                  ⟨first :: word, by simp⟩)
              rw [List.isChain_cons] at hapart
              have hne : more ≠ [] := by
                rintro rfl
                have hlast : blank ∈ (first :: (word ++ [blank])).getLast? := by
                  rw [← List.cons_append, List.getLast?_concat]
                  rfl
                have hend := htext.ends blank hlast
                rw [hblank] at hend
                exact absurd hend.symm Bool.false_ne_true
              have hspaced : Spaced more :=
                { only_space := fun unit hunit => htext.only_space unit (hsuffix.subset hunit)
                  apart := hapart.2
                  starts := fun unit hunit => hapart.1 unit hunit hblank
                  ends := fun unit hunit => htext.ends unit (by
                    rw [← List.cons_append, List.getLast?_append_cons,
                      List.getLast?_cons_of_ne_nil hne]
                    exact hunit) }
              obtain ⟨tokens, htokens, hmoreEq⟩ := ih more.length
                (by rw [← hlength]; simp; omega) hspaced rfl
              cases tokens with
              | nil => exact absurd hmoreEq (by simpa using hne)
              | cons token tokens =>
                  refine ⟨(first :: word) :: token :: tokens, fun other hother => ?_, ?_⟩
                  · rcases List.mem_cons.mp hother with rfl | hmem
                    · exact hwords
                    · exact htokens other hmem
                  · rw [List.intercalate_cons_cons, ← hmoreEq, hspace]
                    simp

theorem spaced_of_words {tokens : List Text} (htokens : Words tokens) :
    Spaced ([space].intercalate tokens) := by
  induction tokens with
  | nil => exact ⟨by simp, by simp, by simp, by simp⟩
  | cons token rest ih =>
      obtain ⟨hne, htoken⟩ := htokens token List.mem_cons_self
      have hrest : Words rest := fun other hother =>
        htokens other (List.mem_cons_of_mem token hother)
      have hapart : token.IsChain fun unit next =>
          isWhitespace unit = true → isWhitespace next = false := by
        refine List.Pairwise.isChain (List.Pairwise.imp_of_mem ?_ (List.pairwise_of_forall
          (fun _ _ => trivial) : token.Pairwise fun _ _ => True))
        intro unit next hunit _ _ hwhite
        rw [htoken unit hunit] at hwhite
        exact absurd hwhite Bool.false_ne_true
      cases rest with
      | nil =>
          rw [List.intercalate_singleton]
          refine ⟨fun unit hunit hwhite => ?_, hapart,
            fun unit hunit => htoken unit (List.mem_of_mem_head? hunit),
            fun unit hunit => htoken unit (List.mem_of_mem_getLast? hunit)⟩
          rw [htoken unit hunit] at hwhite
          exact absurd hwhite Bool.false_ne_true
      | cons second rest =>
          have hspaced := ih hrest
          have hsecond := (hrest second List.mem_cons_self).1
          rw [List.intercalate_cons_cons, List.append_assoc]
          have hmore : [space].intercalate (second :: rest) ≠ [] := by
            rw [intercalate_cons]
            simp [hsecond]
          refine ⟨?_, ?_, ?_, ?_⟩
          · intro unit hunit hwhite
            rcases List.mem_append.mp hunit with hmem | hmem
            · rw [htoken unit hmem] at hwhite
              exact absurd hwhite Bool.false_ne_true
            · rcases List.mem_append.mp hmem with hmem | hmem
              · exact List.mem_singleton.mp hmem
              · exact hspaced.only_space unit hmem hwhite
          · rw [List.isChain_append]
            refine ⟨hapart, ?_, ?_⟩
            · rw [List.singleton_append, List.isChain_cons]
              exact ⟨fun unit hunit _ => hspaced.starts unit hunit, hspaced.apart⟩
            · intro unit hunit next _ hwhite
              rw [htoken unit (List.mem_of_mem_getLast? hunit)] at hwhite
              exact absurd hwhite Bool.false_ne_true
          · intro unit hunit
            rw [List.head?_append_of_ne_nil _ hne] at hunit
            exact htoken unit (List.mem_of_mem_head? hunit)
          · intro unit hunit
            refine hspaced.ends unit ?_
            rw [← List.append_assoc, List.getLast?_append_of_ne_nil _ hmore] at hunit
            exact hunit

/-! ### Spelled numbers -/

theorem getD_spelled {words : List Text} (hwords : ∀ word ∈ words, ∀ unit ∈ word,
    unit ∈ spelledLetters) (i : Nat) : ∀ unit ∈ words.getD i [], unit ∈ spelledLetters := by
  rw [List.getD_eq_getElem?_getD]
  cases hword : words[i]? with
  | none => exact fun unit hunit => absurd hunit List.not_mem_nil
  | some word => exact hwords word (List.mem_of_getElem? hword)

theorem numberPrefix_spelled (count : Nat) :
    ∀ unit ∈ numberPrefix count, unit ∈ spelledLetters := by
  rw [numberPrefix]
  split
  · decide
  · exact getD_spelled (by decide) count

theorem append_spelled {word more : Text} (hword : ∀ unit ∈ word, unit ∈ spelledLetters)
    (hmore : ∀ unit ∈ more, unit ∈ spelledLetters) :
    ∀ unit ∈ word ++ more, unit ∈ spelledLetters :=
  fun unit hunit => (List.mem_append.mp hunit).elim (hword unit) (hmore unit)

theorem spellGermanNumber_spelled (value : Nat) :
    ∀ unit ∈ spellGermanNumber value, unit ∈ spelledLetters := by
  induction value using Nat.strong_induction_on with
  | _ value ih =>
      have htens : ∀ unit ∈ tens.getD (value / 10) [], unit ∈ spelledLetters :=
        getD_spelled (by decide) (value / 10)
      have hrest : ∀ scale, value % scale < value → ∀ unit ∈
          (if value % scale = 0 then [] else spellGermanNumber (value % scale)),
          unit ∈ spelledLetters := by
        intro scale hlt
        split
        · exact fun unit hunit => absurd hunit List.not_mem_nil
        · exact ih _ hlt
      rw [spellGermanNumber]
      split
      · exact getD_spelled (by decide) value
      · rename_i hlarge
        have hlarge' : 20 ≤ value := not_lt.mp hlarge
        split
        · simp only
          split
          · exact htens
          · exact append_spelled (append_spelled (numberPrefix_spelled _) (by decide)) htens
        · split
          · exact append_spelled (append_spelled (numberPrefix_spelled _) (by decide))
              (hrest 100 (by omega))
          · exact append_spelled (append_spelled (numberPrefix_spelled _) (by decide))
              (hrest 1000 (by omega))

theorem spellGermanNumber_ne_nil (value : Nat) : spellGermanNumber value ≠ [] := by
  have hunits : ∀ value < 20, units.getD value [] ≠ [] := by decide
  have htens : ∀ ten < 10, 2 ≤ ten → tens.getD ten [] ≠ [] := by decide
  rw [spellGermanNumber]
  split
  · rename_i hsmall
    exact hunits value hsmall
  · rename_i hlarge
    have hlarge' : 20 ≤ value := not_lt.mp hlarge
    split
    · simp only
      split
      · exact htens _ (by omega) (by omega)
      · simp [letters]
    · split
      · simp [letters]
      · simp [letters]

theorem spellToken_cases (token : Text) :
    spellToken token = token ∧
        ¬(token ≠ [] ∧ token.all isDigit = true ∧ digitsValue token ≤ largestSpelledNumber) ∨
      spellToken token ≠ [] ∧ ∀ unit ∈ spellToken token, unit ∈ spelledLetters := by
  rw [spellToken]
  split
  · exact .inr ⟨spellGermanNumber_ne_nil _, spellGermanNumber_spelled _⟩
  · rename_i hnot
    exact .inl ⟨rfl, hnot⟩

theorem spelled_not_whitespace : ∀ unit ∈ spelledLetters, isWhitespace unit = false := by
  decide

theorem spelled_not_digit : ∀ unit ∈ spelledLetters, isDigit unit = false := by
  decide

theorem spelled_ne_apostrophedN : ∀ unit ∈ spelledLetters, unit ≠ apostrophedN := by
  decide

theorem Words.map_spellToken {tokens : List Text} (htokens : Words tokens) :
    Words (tokens.map spellToken) := by
  intro token htoken
  obtain ⟨source, hsource, rfl⟩ := List.mem_map.mp htoken
  rcases spellToken_cases source with ⟨hsame, -⟩ | ⟨hne, hspelled⟩
  · rw [hsame]
    exact htokens source hsource
  · exact ⟨hne, fun unit hunit => spelled_not_whitespace unit (hspelled unit hunit)⟩

theorem spellOutNumbers_words {tokens : List Text} (htokens : Words tokens) :
    spellOutNumbers ([space].intercalate tokens) = [space].intercalate (tokens.map spellToken) := by
  cases tokens with
  | nil => decide
  | cons token rest =>
      have hspace : ∀ other ∈ token :: rest, space ∉ other := by
        intro other hother hmem
        have hwhite := (htokens other hother).2 space hmem
        exact absurd hwhite (by decide)
      rw [spellOutNumbers, List.splitOn_intercalate space hspace (List.cons_ne_nil _ _)]

/-! ### Folded words -/

theorem isWhitespace_of_isLowered {unit : Nat} (hunit : (data.category unit).isLowered = true) :
    isWhitespace unit = false := by
  by_contra hwhite
  have hblank := data.category_whitespace unit ((Bool.not_eq_false _).mp hwhite)
  rw [GeneralCategory.not_isBlank_of_isLowered _ hunit] at hblank
  exact absurd hblank Bool.false_ne_true

theorem isDigit_of_isLowered {unit : Nat} (hunit : (data.category unit).isLowered = true) :
    isDigit unit = false := by
  by_contra hdigit
  rw [data.category_digit unit ((Bool.not_eq_false _).mp hdigit)] at hunit
  exact absurd hunit Bool.false_ne_true

theorem fold_space : fold data [space] = [space] := by
  have hlower : data.lowercaseMapping [space] = [space] := by
    by_contra hchanged
    have hupper := data.lowercase_upper space hchanged
    have hblank := data.category_whitespace space (by decide)
    rw [GeneralCategory.not_isUpper_of_isBlank _ hblank] at hupper
    exact absurd hupper Bool.false_ne_true
  rw [fold_eq, show codePoints [space] = [[space]] from rfl, List.flatMap_singleton, foldPoint,
    hlower]
  decide

theorem Words.map_fold {tokens : List Text} (htokens : Words tokens) :
    Words (tokens.map (fold data)) := by
  intro token htoken
  obtain ⟨source, hsource, rfl⟩ := List.mem_map.mp htoken
  obtain ⟨hne, hwords⟩ := htokens source hsource
  refine ⟨fold_ne_nil data hne, fun unit hunit => ?_⟩
  rcases mem_fold data hunit with hmem | ⟨hlowered, -⟩
  · exact hwords unit hmem
  · exact isWhitespace_of_isLowered data hlowered

theorem fold_words (tokens : List Text) :
    fold data ([space].intercalate tokens) = [space].intercalate (tokens.map (fold data)) := by
  induction tokens with
  | nil => rfl
  | cons token rest ih =>
      cases rest with
      | nil => rw [List.map_singleton, List.intercalate_singleton, List.intercalate_singleton]
      | cons second rest =>
          rw [List.map_cons, List.map_cons, List.intercalate_cons_cons, List.intercalate_cons_cons,
            ← List.map_cons, ← ih, List.append_assoc, List.append_assoc]
          have hspace : Parted [space] ([space].intercalate (second :: rest)) := by
            intro unit hunit next _ hleading
            obtain rfl : space = unit := Option.mem_some.mp hunit
            exact absurd hleading (by decide)
          have htoken : Parted token ([space] ++ [space].intercalate (second :: rest)) := by
            intro unit _ next hnext _
            obtain rfl : space = next := Option.mem_some.mp hnext
            decide
          rw [fold_append data htoken, fold_append data hspace, fold_space]

theorem spellToken_fold (token : Text) :
    spellToken (fold data (spellToken token)) = fold data (spellToken token) := by
  rw [spellToken, if_neg]
  rintro ⟨hne, hdigits, hvalue⟩
  rw [List.all_eq_true] at hdigits
  have hsame : fold data (spellToken token) = spellToken token := by
    apply fold_eq_self
    intro unit hunit
    by_contra hlowered
    have hdigit := isDigit_of_isLowered data ((Bool.not_eq_false _).mp hlowered)
    rw [hdigits unit hunit] at hdigit
    exact absurd hdigit.symm Bool.false_ne_true
  rw [hsame] at hne hdigits hvalue
  rcases spellToken_cases token with ⟨hkept, hnot⟩ | ⟨-, hspelled⟩
  · rw [hkept] at hne hdigits hvalue
    exact hnot ⟨hne, List.all_eq_true.mpr hdigits, hvalue⟩
  · obtain ⟨unit, hunit⟩ := List.exists_mem_of_ne_nil _ hne
    have hdigit := spelled_not_digit unit (hspelled unit hunit)
    rw [hdigits unit hunit] at hdigit
    exact absurd hdigit.symm Bool.false_ne_true

theorem finished_stages (text : Text) :
    ∃ tokens, Words tokens ∧
      fold data (spellOutNumbers (trim (collapseWhitespace false text))) =
        [space].intercalate tokens ∧
      ∀ token ∈ tokens, spellToken token = token ∧ fold data token = token := by
  obtain ⟨tokens, htokens, hwords⟩ := (trim_spaced
    (fun unit hunit hwhite => (mem_collapseWhitespace hunit).elim id fun h => by
      rw [h.2] at hwhite
      exact absurd hwhite Bool.false_ne_true)
    (collapseWhitespace_apart false text)).words
  refine ⟨(tokens.map spellToken).map (fold data), (htokens.map_spellToken).map_fold data, ?_, ?_⟩
  · rw [hwords, spellOutNumbers_words htokens, fold_words]
  · intro token htoken
    obtain ⟨spelled, hspelled, rfl⟩ := List.mem_map.mp htoken
    obtain ⟨source, -, rfl⟩ := List.mem_map.mp hspelled
    exact ⟨spellToken_fold data source, fold_fold data _⟩

theorem stages_of_finished {tokens : List Text} (htokens : Words tokens)
    (hfinished : ∀ token ∈ tokens, spellToken token = token ∧ fold data token = token) :
    collapseWhitespace false ([space].intercalate tokens) = [space].intercalate tokens ∧
      trim ([space].intercalate tokens) = [space].intercalate tokens ∧
      spellOutNumbers ([space].intercalate tokens) = [space].intercalate tokens ∧
      fold data ([space].intercalate tokens) = [space].intercalate tokens := by
  have hspaced := spaced_of_words htokens
  have hspell : tokens.map spellToken = tokens :=
    (List.map_congr_left fun token htoken => (hfinished token htoken).1).trans (List.map_id _)
  have hfold : tokens.map (fold data) = tokens :=
    (List.map_congr_left fun token htoken => (hfinished token htoken).2).trans (List.map_id _)
  refine ⟨hspaced.collapseWhitespace, hspaced.trim, ?_, ?_⟩
  · rw [spellOutNumbers_words htokens, hspell]
  · rw [fold_words, hfold]

/-! ### Stripping what has been stripped -/

theorem mem_stripPunctuation {text : Text} {unit : Nat}
    (hunit : unit ∈ stripPunctuation data text) :
    unit ∈ text ∧ (isPunctuation data unit = true → unit = apostrophe) := by
  obtain ⟨⟨unit, i⟩, hmem, rfl⟩ := List.mem_map.mp hunit
  obtain ⟨hzip, hkept⟩ := List.mem_filter.mp hmem
  refine ⟨List.fst_mem_of_mem_zipIdx hzip, fun hpunctuation => ?_⟩
  by_contra hne
  simp [hpunctuation, hne] at hkept

/-- Every apostrophe stands between two word characters. -/
def ApostrophesInternal (text : Text) : Prop :=
  ∀ i, text[i]? = some apostrophe → isWordInternalApostrophe data text i = true

theorem stripPunctuation_eq_self {text : Text} (hinternal : ApostrophesInternal data text)
    (htext : ∀ unit ∈ text, isPunctuation data unit = true → unit = apostrophe) :
    stripPunctuation data text = text := by
  rw [stripPunctuation, List.filter_eq_self.mpr, List.zipIdx_map_fst]
  rintro ⟨unit, i⟩ hmem
  have hget := List.mem_zipIdx_iff_getElem?.mp hmem
  by_cases hpunctuation : isPunctuation data unit = true
  · obtain rfl := htext unit (List.fst_mem_of_mem_zipIdx hmem) hpunctuation
    simp [hinternal i hget]
  · simp [hpunctuation]

theorem count_filter_lt {keep : Nat × Nat → Bool} {pairs : List (Nat × Nat)} {pair : Nat × Nat}
    (hmem : pair ∈ pairs) (hdropped : keep pair = false) :
    ((pairs.filter keep).map Prod.fst).count pair.1 < (pairs.map Prod.fst).count pair.1 := by
  have hle : ∀ pairs : List (Nat × Nat),
      ((pairs.filter keep).map Prod.fst).count pair.1 ≤ (pairs.map Prod.fst).count pair.1 :=
    fun pairs => (List.filter_sublist.map Prod.fst).count_le pair.1
  obtain ⟨before, after, rfl⟩ := List.append_of_mem hmem
  have hbefore := hle before
  have hafter := hle after
  rw [List.filter_append, List.filter_cons_of_neg (by rw [Bool.not_eq_true]; exact hdropped),
    List.map_append, List.map_append, List.map_cons, List.count_append, List.count_append,
    List.count_cons_self]
  omega

theorem count_stripPunctuation_lt {text : Text} (hnot : ¬ApostrophesInternal data text) :
    (stripPunctuation data text).count apostrophe < text.count apostrophe := by
  simp only [ApostrophesInternal, not_forall] at hnot
  obtain ⟨i, hget, hinternal⟩ := hnot
  have hdropped : ((apostrophe == apostrophe && isWordInternalApostrophe data text i) ||
      !isPunctuation data apostrophe) = false := by
    rw [Bool.eq_false_iff.mpr hinternal, isPunctuation, data.category_apostrophe]
    decide
  have hmem : (apostrophe, i) ∈ text.zipIdx := List.mem_zipIdx_iff_getElem?.mpr hget
  have hlt : (stripPunctuation data text).count apostrophe <
      (text.zipIdx.map Prod.fst).count apostrophe := count_filter_lt hmem hdropped
  rwa [List.zipIdx_map_fst] at hlt

theorem count_collapseWhitespace (afterSpace : Bool) (text : Text) :
    (collapseWhitespace afterSpace text).count apostrophe = text.count apostrophe := by
  induction text generalizing afterSpace with
  | nil => rfl
  | cons first rest ih =>
      have hspace : (space == apostrophe) = false := by decide
      rw [collapseWhitespace]
      split
      · rename_i hwhite
        have hfirst : (first == apostrophe) = false := by
          rw [beq_eq_false_iff_ne]
          rintro rfl
          exact absurd hwhite (by decide)
        split
        · rw [ih, List.count_cons, hfirst]
          rfl
        · rw [List.count_cons, ih, List.count_cons, hspace, hfirst]
      · rw [List.count_cons, ih, List.count_cons]

theorem count_spellOutNumbers_le (text : Text) :
    (spellOutNumbers text).count apostrophe ≤ text.count apostrophe := by
  have hspell : ∀ token, (spellToken token).count apostrophe ≤ token.count apostrophe := by
    intro token
    rcases spellToken_cases token with ⟨hsame, -⟩ | ⟨-, hspelled⟩
    · rw [hsame]
    · have hnone : apostrophe ∉ spellToken token := fun hmem =>
        absurd (hspelled apostrophe hmem) (by decide)
      rw [List.count_eq_zero_of_not_mem hnone]
      exact Nat.zero_le _
  have htokens : ∀ tokens : List Text,
      ([space].intercalate (tokens.map spellToken)).count apostrophe ≤
        ([space].intercalate tokens).count apostrophe := by
    intro tokens
    induction tokens with
    | nil => exact le_rfl
    | cons token rest ih =>
        cases rest with
        | nil =>
            rw [List.map_singleton, List.intercalate_singleton, List.intercalate_singleton]
            exact hspell token
        | cons second rest =>
            rw [List.map_cons, List.map_cons, List.intercalate_cons_cons,
              List.intercalate_cons_cons, List.count_append, List.count_append, List.count_append,
              List.count_append]
            rw [List.map_cons] at ih
            have htoken := hspell token
            omega
  have hle := htokens (text.splitOn space)
  rwa [List.intercalate_splitOn] at hle

/-! ### Normalizing again -/

theorem normalizeLyricsToken_eq (text : Text) :
    normalizeLyricsToken data text = fold data (spellOutNumbers (trim (collapseWhitespace false
      (stripPunctuation data (data.normalizeNFKC (straighten text)))))) :=
  rfl

theorem isLowered_not_punctuation {unit : Nat} (hunit : (data.category unit).isLowered = true) :
    isPunctuation data unit = false :=
  GeneralCategory.not_isPunctuation_of_isLowered _ hunit

theorem mem_spellOutNumbers {text : Text} {unit : Nat} (hunit : unit ∈ spellOutNumbers text) :
    unit ∈ text ∨ unit = space ∨ unit ∈ spelledLetters := by
  rcases mem_intercalate hunit with hspace | ⟨token, htoken, hmem⟩
  · exact .inr (.inl hspace)
  · obtain ⟨source, hsource, rfl⟩ := List.mem_map.mp htoken
    rcases spellToken_cases source with ⟨hsame, -⟩ | ⟨-, hspelled⟩
    · left
      rw [hsame] at hmem
      have hsplit : [space].intercalate (text.splitOn space) = text :=
        List.intercalate_splitOn space
      rw [← hsplit]
      exact mem_intercalate_of_mem hsource hmem
    · exact .inr (.inr (hspelled unit hmem))

theorem mem_stages {text : Text} {unit : Nat}
    (hunit : unit ∈ fold data (spellOutNumbers (trim (collapseWhitespace false text)))) :
    unit ∈ text ∨ unit = space ∨
      (data.category unit).isLowered = true ∧ unit ≠ apostrophedN := by
  rcases mem_fold data hunit with hmem | hlowered
  · rcases mem_spellOutNumbers hmem with htrim | hspace | hspelled
    · have hpart : trim (collapseWhitespace false text) <:+: collapseWhitespace false text :=
        (List.rdropWhile_prefix _ _).isInfix.trans (List.dropWhile_suffix _).isInfix
      rcases mem_collapseWhitespace (hpart.subset htrim) with hspace | ⟨htext, -⟩
      · exact .inr (.inl hspace)
      · exact .inl htext
    · exact .inr (.inl hspace)
    · refine .inr (.inr ⟨?_, ?_⟩)
      · rw [data.category_spelled unit hspelled]
        rfl
      · exact spelled_ne_apostrophedN unit hspelled
  · exact .inr (.inr hlowered)

theorem normalized_punctuation {text : Text} {unit : Nat}
    (hunit : unit ∈ normalizeLyricsToken data text)
    (hpunctuation : isPunctuation data unit = true) :
    unit = apostrophe := by
  rw [normalizeLyricsToken_eq] at hunit
  rcases mem_stages data hunit with hstripped | rfl | ⟨hlowered, -⟩
  · exact (mem_stripPunctuation data hstripped).2 hpunctuation
  · have hblank := data.category_whitespace space (by decide)
    rw [isPunctuation, GeneralCategory.not_isPunctuation_of_isBlank _ hblank] at hpunctuation
    exact absurd hpunctuation Bool.false_ne_true
  · rw [isLowered_not_punctuation data hlowered] at hpunctuation
    exact absurd hpunctuation Bool.false_ne_true

theorem apostrophedN_notMem_normalized (text : Text) :
    apostrophedN ∉ normalizeLyricsToken data text := by
  intro hmem
  rw [normalizeLyricsToken_eq] at hmem
  rcases mem_stages data hmem with hstripped | hspace | ⟨-, hne⟩
  · exact data.nfkc_apostrophedN _ (mem_stripPunctuation data hstripped).1
  · exact absurd hspace (by decide)
  · exact hne rfl

theorem modifierApostrophe_notMem_straighten (text : Text) :
    modifierApostrophe ∉ straighten text := by
  intro hmem
  obtain ⟨unit, -, hunit⟩ := List.mem_map.mp hmem
  split at hunit
  · exact absurd hunit (by decide)
  · rename_i hcurly
    rw [hunit] at hcurly
    exact hcurly (by decide)

theorem modifierApostrophe_notMem {text : Text} (htext : apostrophedN ∉ text) :
    modifierApostrophe ∉ normalizeLyricsToken data text := by
  intro hmem
  rw [normalizeLyricsToken_eq] at hmem
  rcases mem_stages data hmem with hstripped | hspace | ⟨hlowered, -⟩
  · rcases data.nfkc_apostrophe _ (mem_stripPunctuation data hstripped).1 with hstraight | hletter
    · exact modifierApostrophe_notMem_straighten text hstraight
    · obtain ⟨unit, hunit, heq⟩ := List.mem_map.mp hletter
      split at heq
      · exact absurd heq (by decide)
      · exact htext (heq ▸ hunit)
  · exact absurd hspace (by decide)
  · rw [data.category_modifier] at hlowered
    exact absurd hlowered Bool.false_ne_true

theorem straighten_normalized {text : Text}
    (hmodifier : modifierApostrophe ∉ normalizeLyricsToken data text) :
    straighten (normalizeLyricsToken data text) = normalizeLyricsToken data text := by
  have hunits : ∀ unit ∈ normalizeLyricsToken data text, unit ∉ curlyApostrophes := by
    intro unit hunit hcurly
    by_cases hne : unit = modifierApostrophe
    · exact hmodifier (hne ▸ hunit)
    · have hapostrophe := normalized_punctuation data hunit (data.category_curly unit hcurly hne)
      rw [hapostrophe] at hcurly
      exact absurd hcurly (by decide)
  calc
    straighten (normalizeLyricsToken data text) = (normalizeLyricsToken data text).map id :=
      List.map_congr_left fun unit hunit => if_neg (hunits unit hunit)
    _ = normalizeLyricsToken data text := List.map_id _

/-- White space, number words and the folding of case and umlauts leave a normalized text as
it is. -/
theorem normalized_stages (text : Text) :
    collapseWhitespace false (normalizeLyricsToken data text) = normalizeLyricsToken data text ∧
      trim (normalizeLyricsToken data text) = normalizeLyricsToken data text ∧
      spellOutNumbers (normalizeLyricsToken data text) = normalizeLyricsToken data text ∧
      fold data (normalizeLyricsToken data text) = normalizeLyricsToken data text := by
  obtain ⟨tokens, htokens, hnormal, hfinished⟩ := finished_stages data
    (stripPunctuation data (data.normalizeNFKC (straighten text)))
  rw [← normalizeLyricsToken_eq] at hnormal
  rw [hnormal]
  exact stages_of_finished data htokens hfinished

theorem count_normalizeLyricsToken_le (text : Text) :
    (normalizeLyricsToken data text).count apostrophe ≤
      (stripPunctuation data (data.normalizeNFKC (straighten text))).count apostrophe := by
  have hapostrophe : (data.category apostrophe).isLowered = false := by
    rw [data.category_apostrophe]
    rfl
  calc
    (normalizeLyricsToken data text).count apostrophe ≤
        (spellOutNumbers (trim (collapseWhitespace false (stripPunctuation data
          (data.normalizeNFKC (straighten text)))))).count apostrophe :=
      count_fold_le data _ hapostrophe
    _ ≤ (trim (collapseWhitespace false (stripPunctuation data
          (data.normalizeNFKC (straighten text))))).count apostrophe := count_spellOutNumbers_le _
    _ ≤ (collapseWhitespace false (stripPunctuation data
          (data.normalizeNFKC (straighten text)))).count apostrophe :=
      ((List.rdropWhile_prefix _ _).sublist.trans
        (List.dropWhile_suffix _).sublist).count_le apostrophe
    _ = _ := count_collapseWhitespace false _

/-- Where NFKC leaves the normalized text as it is, normalizing again changes nothing
exactly when the text holds no curly apostrophe that is a letter, and no apostrophe but
between word characters. The stages after the stripping never change it. -/
theorem normalizeLyricsToken_again_iff (text : Text) :
    (data.normalizeNFKC (normalizeLyricsToken data text) = normalizeLyricsToken data text →
      (normalizeLyricsToken data (normalizeLyricsToken data text) = normalizeLyricsToken data text ↔
        modifierApostrophe ∉ normalizeLyricsToken data text ∧
          ApostrophesInternal data (normalizeLyricsToken data text))) ∧
    collapseWhitespace false (normalizeLyricsToken data text) = normalizeLyricsToken data text ∧
    trim (normalizeLyricsToken data text) = normalizeLyricsToken data text ∧
    spellOutNumbers (normalizeLyricsToken data text) = normalizeLyricsToken data text ∧
    fold data (normalizeLyricsToken data text) = normalizeLyricsToken data text := by
  obtain ⟨hcollapse, htrim, hspell, hfold⟩ := normalized_stages data text
  refine ⟨fun hnfkc => ?_, hcollapse, htrim, hspell, hfold⟩
  constructor
  · intro hagain
    have hmodifier : modifierApostrophe ∉ normalizeLyricsToken data text := by
      rw [← hagain]
      exact modifierApostrophe_notMem data (apostrophedN_notMem_normalized data text)
    refine ⟨hmodifier, ?_⟩
    by_contra hnot
    have hlt := count_stripPunctuation_lt data hnot
    have hcount := count_normalizeLyricsToken_le data (normalizeLyricsToken data text)
    rw [hagain, straighten_normalized data hmodifier, hnfkc] at hcount
    exact absurd hlt (not_lt.mpr hcount)
  · rintro ⟨hmodifier, hinternal⟩
    have hstrip := stripPunctuation_eq_self data hinternal fun unit hunit =>
      normalized_punctuation data hunit
    rw [normalizeLyricsToken_eq data (normalizeLyricsToken data text),
      straighten_normalized data hmodifier, hnfkc, hstrip, hcollapse, htrim, hspell, hfold]

/-! ### Characters of a few texts -/

def expandBasic (unit : Nat) : Text :=
  if unit = apostrophedN then [modifierApostrophe, 'n'.toNat] else [unit]

/-- NFKC where `ŉ` and a `j` under a caron are all that it changes. -/
def normalizeBasic : Text → Text
  | [] => []
  | [unit] => expandBasic unit
  | unit :: next :: rest =>
      if unit = 'j'.toNat ∧ next = 0x30C then 0x1F0 :: normalizeBasic rest
      else expandBasic unit ++ normalizeBasic (next :: rest)

def categoryBasic (unit : Nat) : GeneralCategory :=
  if isWhitespace unit then
    if unit ≤ 0x0D then .control
    else if unit = 0x2028 then .lineSeparator
    else if unit = 0x2029 then .paragraphSeparator
    else if unit = 0xFEFF then .format
    else .spaceSeparator
  else if isLeading unit || isTrailing unit then .surrogate
  else if isDigit unit then .decimalNumber
  else if (0x41 ≤ unit && unit ≤ 0x5A) || unit = capitalSigma then .uppercaseLetter
  else if (0x61 ≤ unit && unit ≤ 0x7A) || unit ∈ spelledLetters || unit = apostrophedN ||
      unit = 0x1F0 then .lowercaseLetter
  else if unit = underscore then .connectorPunctuation
  else if unit = apostrophe then .otherPunctuation
  else if unit = modifierApostrophe then .modifierLetter
  else if unit ∈ curlyApostrophes then .initialPunctuation
  else if unit = 0x30C then .nonspacingMark
  else .unassigned

def lowerBasic (point : Text) : Text :=
  match point with
  | [unit] =>
      if 0x41 ≤ unit ∧ unit ≤ 0x5A then [unit + 0x20]
      else if unit = capitalSigma then [smallSigma]
      else point
  | _ => point

theorem lowerBasic_cases (point : Text) :
    lowerBasic point = point ∨
      (∃ unit, point = [unit] ∧ 0x41 ≤ unit ∧ unit ≤ 0x5A ∧ lowerBasic point = [unit + 0x20]) ∨
      point = [capitalSigma] ∧ lowerBasic point = [smallSigma] := by
  match point with
  | [] => exact .inl rfl
  | [unit] =>
      rw [lowerBasic]
      split
      · rename_i hupper
        exact .inr (.inl ⟨unit, rfl, hupper.1, hupper.2, rfl⟩)
      · split
        · rename_i hsigma
          exact .inr (.inr ⟨by rw [hsigma], rfl⟩)
        · exact .inl rfl
  | _ :: _ :: _ => exact .inl rfl

theorem categoryBasic_lower {unit : Nat} (hlow : 0x61 ≤ unit) (hhigh : unit ≤ 0x7A) :
    categoryBasic unit = .lowercaseLetter := by
  have hall : ∀ unit < 0x7B, 0x61 ≤ unit → categoryBasic unit = .lowercaseLetter := by decide
  exact hall unit (Nat.lt_succ_of_le hhigh) hlow

theorem categoryBasic_upper {unit : Nat} (hlow : 0x41 ≤ unit) (hhigh : unit ≤ 0x5A) :
    categoryBasic unit = .uppercaseLetter := by
  have hall : ∀ unit < 0x5B, 0x41 ≤ unit → categoryBasic unit = .uppercaseLetter := by decide
  exact hall unit (Nat.lt_succ_of_le hhigh) hlow

theorem normalizeBasic_apostrophe (text : Text) :
    (modifierApostrophe ∈ normalizeBasic text →
      modifierApostrophe ∈ text ∨ apostrophedN ∈ text) ∧
    apostrophedN ∉ normalizeBasic text := by
  have hexpand : ∀ unit, (modifierApostrophe ∈ expandBasic unit →
      modifierApostrophe = unit ∨ apostrophedN = unit) ∧ apostrophedN ∉ expandBasic unit := by
    intro unit
    rw [expandBasic]
    split
    · rename_i heq
      exact ⟨fun _ => .inr heq.symm, by decide⟩
    · rename_i hne
      exact ⟨fun hmem => .inl (List.mem_singleton.mp hmem),
        fun hmem => hne (List.mem_singleton.mp hmem).symm⟩
  induction text using normalizeBasic.induct with
  | case1 => exact ⟨fun hmem => absurd hmem List.not_mem_nil, List.not_mem_nil⟩
  | case2 unit =>
      rw [normalizeBasic]
      exact ⟨fun hmem => ((hexpand unit).1 hmem).imp (by rintro rfl; simp) (by rintro rfl; simp),
        (hexpand unit).2⟩
  | case3 unit next rest hcaron ih =>
      rw [normalizeBasic, if_pos hcaron]
      constructor
      · intro hmem
        rcases List.mem_cons.mp hmem with heq | hrest
        · exact absurd heq (by decide)
        · exact (ih.1 hrest).imp (fun h => by simp [h]) fun h => by simp [h]
      · intro hmem
        rcases List.mem_cons.mp hmem with heq | hrest
        · exact absurd heq (by decide)
        · exact ih.2 hrest
  | case4 unit next rest hcaron ih =>
      rw [normalizeBasic, if_neg hcaron]
      constructor
      · intro hmem
        rcases List.mem_append.mp hmem with hunit | hrest
        · exact ((hexpand unit).1 hunit).imp (by rintro rfl; simp) (by rintro rfl; simp)
        · exact (ih.1 hrest).imp (List.mem_cons_of_mem unit) (List.mem_cons_of_mem unit)
      · intro hmem
        rcases List.mem_append.mp hmem with hunit | hrest
        · exact (hexpand unit).2 hunit
        · exact ih.2 hrest

theorem categoryBasic_surrogate : ∀ unit, (isLeading unit || isTrailing unit) = true →
    categoryBasic unit = .surrogate := by
  intro unit hsurrogate
  have hwhite : isWhitespace unit = false := by
    simp only [isLeading, isTrailing, isWhitespace, Bool.or_eq_true, Bool.and_eq_true,
      decide_eq_true_eq, Bool.or_eq_false_iff, Bool.and_eq_false_iff, decide_eq_false_iff_not,
      beq_eq_false_iff_ne] at hsurrogate ⊢
    omega
  simp [categoryBasic, hwhite, hsurrogate]

theorem categoryBasic_whitespace : ∀ unit, isWhitespace unit = true →
    (categoryBasic unit).isBlank = true := by
  intro unit hwhite
  rw [categoryBasic, if_pos hwhite]
  split
  · rfl
  · split
    · rfl
    · split
      · rfl
      · split
        · rfl
        · rfl

theorem categoryBasic_digit : ∀ unit, isDigit unit = true →
    categoryBasic unit = .decimalNumber := by
  have hall : ∀ unit < 0x3A, 0x30 ≤ unit → categoryBasic unit = .decimalNumber := by decide
  intro unit hdigit
  simp only [isDigit, Bool.and_eq_true, decide_eq_true_eq] at hdigit
  exact hall unit (Nat.lt_succ_of_le hdigit.2) hdigit.1

theorem categoryBasic_spelled : ∀ unit ∈ spelledLetters,
    categoryBasic unit = .lowercaseLetter := by
  decide

theorem categoryBasic_apostrophe : categoryBasic apostrophe = .otherPunctuation := by
  decide

theorem categoryBasic_underscore : categoryBasic underscore = .connectorPunctuation := by
  decide

theorem categoryBasic_curly : ∀ unit ∈ curlyApostrophes, unit ≠ modifierApostrophe →
    (categoryBasic unit).isPunctuation = true := by
  decide

theorem categoryBasic_modifier : categoryBasic modifierApostrophe = .modifierLetter := by
  decide

theorem lowerBasic_sigma : lowerBasic [capitalSigma] = [smallSigma] := by
  decide

theorem lowerBasic_upper : ∀ unit, lowerBasic [unit] ≠ [unit] →
    (categoryBasic unit).isUpper = true := by
  intro unit hchanged
  rcases lowerBasic_cases [unit] with hsame | ⟨upper, hpoint, hlow, hhigh, -⟩ | ⟨hpoint, -⟩
  · exact absurd hsame hchanged
  · obtain rfl := List.singleton_injective hpoint
    rw [categoryBasic_upper hlow hhigh]
    rfl
  · obtain rfl := List.singleton_injective hpoint
    decide

theorem lowerBasic_lowered : ∀ point, IsPoint point → lowerBasic point ≠ point →
    ∀ unit ∈ lowerBasic point, (categoryBasic unit).isLowered = true ∧ unit ≠ apostrophedN := by
  intro point _ hchanged unit hunit
  rcases lowerBasic_cases point with hsame | ⟨upper, -, hlow, hhigh, hlower⟩ | ⟨-, hlower⟩
  · exact absurd hsame hchanged
  · rw [hlower] at hunit
    obtain rfl := List.mem_singleton.mp hunit
    rw [categoryBasic_lower (by omega) (by omega)]
    refine ⟨rfl, ?_⟩
    rw [apostrophedN]
    omega
  · rw [hlower] at hunit
    obtain rfl := List.mem_singleton.mp hunit
    decide

theorem lowerBasic_replaces : ∀ point, IsPoint point → Replaces (lowerBasic point) point := by
  intro point hpoint
  rcases lowerBasic_cases point with hsame | ⟨upper, -, hlow, hhigh, hlower⟩ | ⟨-, hlower⟩
  · rw [hsame]
    refine ⟨?_, .inl rfl⟩
    cases hpoint with
    | single => exact List.cons_ne_nil _ _
    | pair => exact List.cons_ne_nil _ _
  · rw [hlower]
    refine ⟨List.cons_ne_nil _ _, .inr ⟨?_, ?_⟩⟩
    · intro unit hunit
      obtain rfl := Option.mem_some.mp hunit
      simp only [isTrailing, Bool.and_eq_false_iff, decide_eq_false_iff_not]
      omega
    · intro unit hunit
      obtain rfl : upper + 0x20 = unit := Option.mem_some.mp hunit
      simp only [isLeading, Bool.and_eq_false_iff, decide_eq_false_iff_not]
      omega
  · rw [hlower]
    exact ⟨List.cons_ne_nil _ _, .inr ⟨by decide, by decide⟩⟩

theorem lowerBasic_stable : ∀ point, IsPoint point →
    ∀ lower ∈ codePoints (lowerBasic point), lowerBasic lower = lower := by
  intro point hpoint lower hmem
  rcases lowerBasic_cases point with hsame | ⟨upper, -, hlow, hhigh, hlower⟩ | ⟨-, hlower⟩
  · rw [hsame, codePoints_of_isPoint hpoint] at hmem
    obtain rfl := List.mem_singleton.mp hmem
    exact hsame
  · rw [hlower] at hmem
    obtain rfl := List.mem_singleton.mp hmem
    rcases lowerBasic_cases [upper + 0x20] with hsame | ⟨other, heq, -, hhigh', -⟩ | ⟨heq, -⟩
    · exact hsame
    · obtain rfl := List.singleton_injective heq
      omega
    · have hsigma := List.singleton_injective heq
      rw [capitalSigma] at hsigma
      omega
  · rw [hlower] at hmem
    obtain rfl := List.mem_singleton.mp hmem
    decide

/-- The data of the characters that the texts below hold. -/
def basicData : UnicodeData where
  category := categoryBasic
  lowercaseMapping := lowerBasic
  isCased point := point.all fun unit => (categoryBasic unit).isLetter
  isCaseIgnorable point := point = [apostrophe] || point = [modifierApostrophe] || point = [0x30C]
  normalizeNFKC := normalizeBasic
  category_surrogate := categoryBasic_surrogate
  category_whitespace := categoryBasic_whitespace
  category_digit := categoryBasic_digit
  category_spelled := categoryBasic_spelled
  category_apostrophe := categoryBasic_apostrophe
  category_underscore := categoryBasic_underscore
  category_curly := categoryBasic_curly
  category_modifier := categoryBasic_modifier
  lowercase_sigma := lowerBasic_sigma
  lowercase_upper := lowerBasic_upper
  lowercase_lowered := lowerBasic_lowered
  lowercase_replaces := lowerBasic_replaces
  lowercase_stable := lowerBasic_stable
  nfkc_apostrophe text := (normalizeBasic_apostrophe text).1
  nfkc_apostrophedN text := (normalizeBasic_apostrophe text).2

theorem normalizeLyricsToken_dont :
    normalizeLyricsToken basicData (normalizeLyricsToken basicData
      (letters ['D', 'o', 'n', '’', 't'])) =
        letters ['d', 'o', 'n'] ++ apostrophe :: letters ['t'] := by
  have hnormal : normalizeLyricsToken basicData (letters ['D', 'o', 'n', '’', 't']) =
      letters ['d', 'o', 'n'] ++ apostrophe :: letters ['t'] := by decide +kernel
  have hinternal : ApostrophesInternal basicData
      (letters ['d', 'o', 'n'] ++ apostrophe :: letters ['t']) := by
    intro i hget
    obtain ⟨hlt, -⟩ := List.getElem?_eq_some_iff.mp hget
    have hall : ∀ i < 5, (letters ['d', 'o', 'n'] ++ apostrophe :: letters ['t'])[i]? =
        some apostrophe → isWordInternalApostrophe basicData
          (letters ['d', 'o', 'n'] ++ apostrophe :: letters ['t']) i = true := by decide +kernel
    exact hall i hlt hget
  have hagain := ((normalizeLyricsToken_again_iff basicData
    (letters ['D', 'o', 'n', '’', 't'])).1 (by rw [hnormal]; decide)).mpr
      ⟨by rw [hnormal]; decide, by rw [hnormal]; exact hinternal⟩
  exact hagain.trans hnormal

/-- An apostrophe next to an underscore, a `ŉ`, and a `j` with a caron only in lower case. -/
theorem normalizeLyricsToken_again_differs :
    (normalizeLyricsToken basicData ['a'.toNat, apostrophe, underscore] =
        ['a'.toNat, apostrophe] ∧
      normalizeLyricsToken basicData ['a'.toNat, apostrophe] = ['a'.toNat]) ∧
    (normalizeLyricsToken basicData [apostrophedN] = [modifierApostrophe, 'n'.toNat] ∧
      normalizeLyricsToken basicData [modifierApostrophe, 'n'.toNat] = ['n'.toNat]) ∧
    (normalizeLyricsToken basicData ['J'.toNat, 0x30C] = ['j'.toNat, 0x30C] ∧
      normalizeLyricsToken basicData ['j'.toNat, 0x30C] = [0x1F0]) := by
  decide +kernel

end Songmaker.Lyrics.NormalizeToken
