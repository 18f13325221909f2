import Songmaker.Scoring.CleanLyrics

namespace Songmaker.Scoring.CleanLyrics

open Songmaker.Foundation

variable (table : CaseTable)

/-- A word on which `cleanLyrics` has nothing left to do. -/
structure IsClean (word : List Char) : Prop extends IsWord word where
  lowered : ∀ c ∈ word, table.lowercase c = [c]
  untagged : ¬['[', ']'].Sublist word
  plain : ∀ c ∈ word, c ≠ '\'' ∧ c ≠ '-' ∧ c ∉ punctuation

variable {table}

/-! ### A clean word is kept -/

theorem lowerFrom_of_lowered {text : List Char} (htext : ∀ c ∈ text, table.lowercase c = [c])
    (before : List Char) : lowerFrom table before text = text := by
  induction text generalizing before with
  | nil => rfl
  | cons c rest ih =>
      have hc := htext c List.mem_cons_self
      have hsigma : c ≠ capitalSigma := by
        rintro rfl
        rw [table.lowercase_capitalSigma] at hc
        exact absurd hc (by decide)
      rw [lowerFrom, lowerChar, if_neg hsigma, hc,
        ih fun d hd => htext d (List.mem_cons_of_mem c hd)]
      rfl

theorem removeTags_of_untagged {text : List Char} (htext : ¬['[', ']'].Sublist text) :
    removeTags false text = text := by
  induction text with
  | nil => rfl
  | cons c rest ih =>
      have hopen : ¬(c = '[' ∧ ']' ∈ rest) := by
        rintro ⟨rfl, hclose⟩
        exact htext (.cons_cons '[' (List.singleton_sublist.mpr hclose))
      rw [removeTags, if_neg Bool.false_ne_true, if_neg hopen, ih fun hrest => htext (hrest.cons c)]

theorem startsWith_of_not_mem {contraction text : List Char} (hmem : '\'' ∈ contraction)
    (htext : '\'' ∉ text) : startsWith table contraction text = false := by
  rw [startsWith, Bool.and_eq_false_iff]
  left
  rw [Bool.eq_false_iff]
  intro hleading
  exact htext ((List.isPrefixOf_iff_prefix.mp hleading).subset hmem)

theorem expandContraction_of_not_mem {contraction text : List Char} (hmem : '\'' ∈ contraction)
    (htext : '\'' ∉ text) (expansion : List Char) :
    expandContraction table contraction expansion 0 text = text := by
  induction text with
  | nil => rfl
  | cons c rest ih =>
      have hstarts : startsWith table contraction (c :: rest) = false :=
        startsWith_of_not_mem hmem htext
      rw [expandContraction, hstarts, if_neg Bool.false_ne_true,
        ih fun hrest => htext (List.mem_cons_of_mem c hrest)]

theorem expandContractions_of_not_mem {text : List Char} (htext : '\'' ∉ text) :
    expandContractions table text = text := by
  have hall : ∀ pairs : List (List Char × List Char), (∀ pair ∈ pairs, '\'' ∈ pair.1) →
      pairs.foldl (fun text pair => expandContraction table pair.1 pair.2 0 text) text =
        text := by
    intro pairs hpairs
    induction pairs with
    | nil => rfl
    | cons pair pairs ih =>
        rw [List.foldl_cons, expandContraction_of_not_mem (hpairs pair List.mem_cons_self) htext]
        exact ih fun other hother => hpairs other (List.mem_cons_of_mem pair hother)
  exact hall contractions (by decide)

theorem removePunctuation_of_plain {text : List Char}
    (htext : ∀ c ∈ text, c ≠ '\'' ∧ c ≠ '-' ∧ c ∉ punctuation) :
    removePunctuation text = text := by
  have hfilter : text.filter (· != '\'') = text :=
    List.filter_eq_self.mpr fun c hc => by simpa using (htext c hc).1
  have hmap : (text.map fun c => if c = '-' then ' ' else c) = text := by
    conv_rhs => rw [← List.map_id text]
    apply List.map_congr_left
    intro c hc
    rw [if_neg (htext c hc).2.1, id]
  rw [removePunctuation, hfilter, hmap]
  exact List.filter_eq_self.mpr fun c hc => decide_eq_true (htext c hc).2.2

theorem collapseSpaces_of_unspaced {text : List Char} (htext : ∀ c ∈ text, isSpace c = false)
    (afterSpace : Bool) : collapseSpaces afterSpace text = text := by
  induction text generalizing afterSpace with
  | nil => rfl
  | cons c rest ih =>
      rw [collapseSpaces, htext c List.mem_cons_self, if_neg Bool.false_ne_true,
        ih fun d hd => htext d (List.mem_cons_of_mem c hd)]

theorem strip_of_unspaced {text : List Char} (htext : ∀ c ∈ text, isSpace c = false) :
    strip text = text := by
  have hdrop : text.dropWhile isSpace = text := by
    cases text with
    | nil => rfl
    | cons c rest =>
        rw [List.dropWhile_cons, htext c List.mem_cons_self, if_neg Bool.false_ne_true]
  rw [strip, hdrop, List.rdropWhile_eq_self_iff]
  intro hne
  rw [htext _ (List.getLast_mem hne)]
  exact Bool.false_ne_true

theorem cleanLyrics_of_isClean {word : List Char} (hword : IsClean table word) :
    cleanLyrics table word = word := by
  have hquote : '\'' ∉ word := fun hmem => (hword.plain _ hmem).1 rfl
  rw [cleanLyrics, removeTags_of_untagged hword.untagged, lower,
    lowerFrom_of_lowered hword.lowered, expandContractions_of_not_mem hquote,
    removePunctuation_of_plain hword.plain, collapseSpaces_of_unspaced hword.unspaced,
    strip_of_unspaced hword.unspaced]

/-! ### The characters of a cleaned line -/

theorem lowered_of_mem_lowerFrom {before text : List Char} {c : Char}
    (hc : c ∈ lowerFrom table before text) : table.lowercase c = [c] := by
  induction text generalizing before with
  | nil => exact absurd hc List.not_mem_nil
  | cons d rest ih =>
      rcases List.mem_append.mp hc with hfirst | hrest
      · rw [lowerChar] at hfirst
        split at hfirst
        · split at hfirst
          · obtain rfl := List.mem_singleton.mp hfirst
            exact table.lowercase_finalSigma
          · obtain rfl := List.mem_singleton.mp hfirst
            exact table.lowercase_stable capitalSigma smallSigma
              (by rw [table.lowercase_capitalSigma]; exact List.mem_singleton_self _)
        · exact table.lowercase_stable d c hfirst
      · exact ih hrest

theorem mem_of_mem_expandContraction {contraction expansion text : List Char} {left : Nat}
    {c : Char} (hc : c ∈ expandContraction table contraction expansion left text) :
    c ∈ text ∨ c ∈ expansion := by
  induction text generalizing left with
  | nil => exact absurd hc List.not_mem_nil
  | cons d rest ih =>
      cases left with
      | succ left =>
          rw [expandContraction] at hc
          exact (ih hc).imp_left (List.mem_cons_of_mem d)
      | zero =>
          rw [expandContraction] at hc
          split at hc
          · rcases List.mem_append.mp hc with hexpansion | hrest
            · exact Or.inr hexpansion
            · exact (ih hrest).imp_left (List.mem_cons_of_mem d)
          · rcases List.mem_cons.mp hc with rfl | hrest
            · exact Or.inl List.mem_cons_self
            · exact (ih hrest).imp_left (List.mem_cons_of_mem d)

theorem mem_of_mem_expandContractions {text : List Char} {c : Char}
    (hc : c ∈ expandContractions table text) :
    c ∈ text ∨ ∃ pair ∈ contractions, c ∈ pair.2 := by
  have hall : ∀ (pairs : List (List Char × List Char)) (text : List Char),
      c ∈ pairs.foldl (fun text pair => expandContraction table pair.1 pair.2 0 text) text →
      c ∈ text ∨ ∃ pair ∈ pairs, c ∈ pair.2 := by
    intro pairs
    induction pairs with
    | nil => exact fun text hc => Or.inl hc
    | cons pair pairs ih =>
        intro text hc
        rcases ih _ hc with htext | ⟨other, hother, hexpansion⟩
        · rcases mem_of_mem_expandContraction htext with htext | hexpansion
          · exact Or.inl htext
          · exact Or.inr ⟨pair, List.mem_cons_self, hexpansion⟩
        · exact Or.inr ⟨other, List.mem_cons_of_mem pair hother, hexpansion⟩
  exact hall contractions text hc

theorem lowered_of_mem_expandContractions {text : List Char}
    (htext : ∀ c ∈ text, table.lowercase c = [c]) :
    ∀ c ∈ expandContractions table text, table.lowercase c = [c] := by
  intro c hc
  rcases mem_of_mem_expandContractions hc with hmem | ⟨pair, hpair, hmem⟩
  · exact htext c hmem
  · have hascii : contractions.all (fun pair =>
        pair.2.all fun c => decide (c.toNat < 128 ∧ c.toLower = c)) = true := by rfl
    obtain ⟨hlt, hlower⟩ := of_decide_eq_true
      (List.all_eq_true.mp (List.all_eq_true.mp hascii pair hpair) c hmem)
    rw [table.lowercase_ascii c hlt, hlower]

theorem mem_of_mem_removePunctuation {text : List Char} {c : Char}
    (hc : c ∈ removePunctuation text) :
    (c ∈ text ∨ c = ' ') ∧ c ≠ '\'' ∧ c ≠ '-' ∧ c ∉ punctuation := by
  obtain ⟨hmapped, hpunctuation⟩ := List.mem_filter.mp hc
  obtain ⟨d, hd, hdc⟩ := List.mem_map.mp hmapped
  obtain ⟨htext, hquote⟩ := List.mem_filter.mp hd
  have hquote' : d ≠ '\'' := by simpa using hquote
  split at hdc
  · subst hdc
    exact ⟨Or.inr rfl, by decide, by decide, of_decide_eq_true hpunctuation⟩
  · rename_i hdash
    subst hdc
    exact ⟨Or.inl htext, hquote', hdash, of_decide_eq_true hpunctuation⟩

theorem mem_of_mem_collapseSpaces {text : List Char} {afterSpace : Bool} {c : Char}
    (hc : c ∈ collapseSpaces afterSpace text) : c ∈ text ∨ c = ' ' := by
  induction text generalizing afterSpace with
  | nil => exact absurd hc List.not_mem_nil
  | cons d rest ih =>
      rw [collapseSpaces] at hc
      split at hc
      · split at hc
        · exact (ih hc).imp_left (List.mem_cons_of_mem d)
        · rcases List.mem_cons.mp hc with rfl | hrest
          · exact Or.inr rfl
          · exact (ih hrest).imp_left (List.mem_cons_of_mem d)
      · rcases List.mem_cons.mp hc with rfl | hrest
        · exact Or.inl List.mem_cons_self
        · exact (ih hrest).imp_left (List.mem_cons_of_mem d)

theorem strip_sublist (text : List Char) : (strip text).Sublist text :=
  (List.rdropWhile_prefix _ _).sublist.trans (List.dropWhile_sublist _)

/-! ### The brackets of a cleaned line -/

def isBracket (c : Char) : Bool :=
  c == '[' || c == ']'

def brackets (text : List Char) : List Char :=
  text.filter isBracket

theorem tag_sublist_iff (text : List Char) :
    ['[', ']'].Sublist text ↔ ['[', ']'].Sublist (brackets text) := by
  constructor
  · intro htag
    exact htag.filter isBracket
  · intro htag
    exact htag.trans List.filter_sublist

theorem brackets_append (text rest : List Char) :
    brackets (text ++ rest) = brackets text ++ brackets rest :=
  List.filter_append _ _

theorem brackets_of_none {text : List Char} (htext : ∀ c ∈ text, isBracket c = false) :
    brackets text = [] :=
  List.filter_eq_nil_iff.mpr fun c hc => by simp [htext c hc]

theorem brackets_toLower {c : Char} (hascii : c.toNat < 128) :
    brackets [c.toLower] = brackets [c] := by
  have hall : ∀ n < 128, brackets [(Char.ofNat n).toLower] = brackets [Char.ofNat n] := by decide
  have hc := hall c.toNat hascii
  rwa [Char.ofNat_toNat] at hc

theorem not_isBracket_of {p : Char → Bool} (hopen : p '[' = false) (hclose : p ']' = false)
    {c : Char} (hc : p c = true) : isBracket c = false := by
  rw [Bool.eq_false_iff]
  intro hbracket
  rcases Bool.or_eq_true_iff.mp hbracket with heq | heq
  · rw [eq_of_beq heq, hopen] at hc
    exact Bool.false_ne_true hc
  · rw [eq_of_beq heq, hclose] at hc
    exact Bool.false_ne_true hc

theorem not_isBracket_of_beyond {c : Char} (hbeyond : 128 ≤ c.toNat) : isBracket c = false :=
  not_isBracket_of (p := fun c => decide (128 ≤ c.toNat)) (by decide) (by decide)
    (decide_eq_true hbeyond)

theorem brackets_lowerChar (before after : List Char) (c : Char) :
    brackets (lowerChar table before c after) = brackets [c] := by
  rw [lowerChar]
  split
  · rename_i hsigma
    subst hsigma
    split
    · rfl
    · rfl
  · by_cases hascii : c.toNat < 128
    · rw [table.lowercase_ascii c hascii]
      exact brackets_toLower hascii
    · have hbeyond : 128 ≤ c.toNat := not_lt.mp hascii
      have hc : brackets [c] = [] :=
        brackets_of_none (by simpa using not_isBracket_of_beyond hbeyond)
      rw [hc]
      apply brackets_of_none
      intro d hd
      by_cases hd' : d.toNat < 128
      · exact not_isBracket_of (p := Char.isLower) (by decide) (by decide)
          (table.lowercase_beyond c hbeyond d hd hd')
      · exact not_isBracket_of_beyond (not_lt.mp hd')

theorem brackets_lowerFrom (before text : List Char) :
    brackets (lowerFrom table before text) = brackets text := by
  induction text generalizing before with
  | nil => rfl
  | cons c rest ih =>
      rw [lowerFrom, brackets_append, brackets_lowerChar, ih, ← brackets_append]
      rfl

theorem brackets_expandContraction {contraction expansion : List Char} (hne : contraction ≠ [])
    (hcontraction : ∀ c ∈ contraction, isBracket c = false)
    (hexpansion : ∀ c ∈ expansion, isBracket c = false) (left : Nat) (text : List Char) :
    brackets (expandContraction table contraction expansion left text) =
      brackets (text.drop left) := by
  induction text generalizing left with
  | nil => rw [List.drop_nil]; rfl
  | cons c rest ih =>
      cases left with
      | succ left => rw [expandContraction, ih, List.drop_succ_cons]
      | zero =>
          rw [expandContraction]
          split
          · rename_i hstarts
            obtain ⟨tail, htail⟩ :=
              List.isPrefixOf_iff_prefix.mp (Bool.and_eq_true_iff.mp hstarts).1
            obtain ⟨first, others, rfl⟩ := List.exists_cons_of_ne_nil hne
            obtain ⟨rfl, hrest⟩ := List.cons.inj htail
            have hdrop : rest.drop ((first :: others).length - 1) = tail := by
              rw [← hrest]
              exact List.drop_left
            rw [brackets_append, brackets_of_none hexpansion, ih, hdrop, List.drop_zero, ← htail,
              brackets_append, brackets_of_none hcontraction]
          · rw [List.drop_zero, ← List.singleton_append, brackets_append, ih, ← brackets_append]
            rfl

theorem brackets_expandContractions (text : List Char) :
    brackets (expandContractions table text) = brackets text := by
  have hall : ∀ (pairs : List (List Char × List Char)) (text : List Char),
      (∀ pair ∈ pairs, pair.1 ≠ [] ∧ (∀ c ∈ pair.1, isBracket c = false) ∧
        ∀ c ∈ pair.2, isBracket c = false) →
      brackets (pairs.foldl (fun text pair => expandContraction table pair.1 pair.2 0 text) text) =
        brackets text := by
    intro pairs
    induction pairs with
    | nil => exact fun text _ => rfl
    | cons pair pairs ih =>
        intro text hpairs
        obtain ⟨hne, hcontraction, hexpansion⟩ := hpairs pair List.mem_cons_self
        rw [List.foldl_cons,
          ih _ fun other hother => hpairs other (List.mem_cons_of_mem pair hother),
          brackets_expandContraction hne hcontraction hexpansion]
        rfl
  have hcontractions : contractions.all (fun pair => !pair.1.isEmpty &&
      (pair.1 ++ pair.2).all fun c => !isBracket c) = true := by rfl
  apply hall contractions text
  intro pair hpair
  obtain ⟨hne, hplain⟩ := Bool.and_eq_true_iff.mp (List.all_eq_true.mp hcontractions pair hpair)
  have hbracket : ∀ c ∈ pair.1 ++ pair.2, isBracket c = false := by
    intro c hc
    simpa using List.all_eq_true.mp hplain c hc
  exact ⟨by simpa using hne, fun c hc => hbracket c (List.mem_append_left _ hc),
    fun c hc => hbracket c (List.mem_append_right _ hc)⟩

theorem removePunctuation_cons (c : Char) (rest : List Char) :
    removePunctuation (c :: rest) = removePunctuation [c] ++ removePunctuation rest := by
  rw [← List.singleton_append, removePunctuation, List.filter_append, List.map_append,
    List.filter_append]
  rfl

theorem brackets_removePunctuation (text : List Char) :
    brackets (removePunctuation text) = brackets text := by
  induction text with
  | nil => rfl
  | cons c rest ih =>
      have hfirst : brackets (removePunctuation [c]) = brackets [c] := by
        by_cases hc : isBracket c = true
        · rcases Bool.or_eq_true_iff.mp hc with hopen | hclose
          · rw [eq_of_beq hopen]
            rfl
          · rw [eq_of_beq hclose]
            rfl
        · have hnone : brackets [c] = [] := brackets_of_none (by simpa using hc)
          rw [hnone]
          apply brackets_of_none
          intro d hd
          rcases (mem_of_mem_removePunctuation hd).1 with hmem | rfl
          · rw [List.mem_singleton.mp hmem]
            simpa using hc
          · rfl
      rw [removePunctuation_cons, brackets_append, hfirst, ih, ← brackets_append]
      rfl

theorem brackets_collapseSpaces (afterSpace : Bool) (text : List Char) :
    brackets (collapseSpaces afterSpace text) = brackets text := by
  induction text generalizing afterSpace with
  | nil => rfl
  | cons c rest ih =>
      rw [collapseSpaces]
      split
      · rename_i hspace
        have hc : isBracket c = false :=
          not_isBracket_of (p := isSpace) (by decide) (by decide) hspace
        have hrest : brackets (c :: rest) = brackets rest :=
          List.filter_cons_of_neg (by simp [hc])
        split
        · rw [ih, hrest]
        · rw [hrest, ← ih true]
          rfl
      · rw [← List.singleton_append, brackets_append, ih, ← brackets_append]
        rfl

theorem untagged_removeTags (inside : Bool) (text : List Char) :
    ¬['[', ']'].Sublist (removeTags inside text) := by
  have hsublist : ∀ (inside : Bool) (text : List Char), (removeTags inside text).Sublist text := by
    intro inside text
    induction text generalizing inside with
    | nil => exact List.Sublist.slnil
    | cons c rest ih =>
        rw [removeTags]
        split
        · exact (ih _).cons c
        · split
          · exact (ih _).cons c
          · exact (ih _).cons_cons c
  induction text generalizing inside with
  | nil =>
      intro htag
      exact absurd (List.sublist_nil.mp htag) (List.cons_ne_nil _ _)
  | cons c rest ih =>
      rw [removeTags]
      split
      · exact ih _
      · split
        · exact ih _
        · rename_i hopen
          intro htag
          cases htag with
          | cons _ htag => exact ih _ htag
          | cons_cons _ hclose =>
              exact hopen ⟨rfl, (hsublist _ _).subset (List.singleton_sublist.mp hclose)⟩

theorem untagged_cleanLyrics (text : List Char) :
    ¬['[', ']'].Sublist (cleanLyrics table text) := by
  intro htag
  have hcollapsed := htag.trans (strip_sublist _)
  rw [tag_sublist_iff, brackets_collapseSpaces, brackets_removePunctuation,
    brackets_expandContractions, lower, brackets_lowerFrom, ← tag_sublist_iff] at hcollapsed
  exact untagged_removeTags false text hcollapsed

theorem mem_of_mem_cleanLyrics {text : List Char} {c : Char} (hc : c ∈ cleanLyrics table text) :
    c = ' ' ∨ table.lowercase c = [c] ∧ c ≠ '\'' ∧ c ≠ '-' ∧ c ∉ punctuation := by
  rcases mem_of_mem_collapseSpaces ((strip_sublist _).subset hc) with hplain | hspace
  · obtain ⟨hmem, hplain⟩ := mem_of_mem_removePunctuation hplain
    rcases hmem with hmem | hspace
    · exact Or.inr ⟨lowered_of_mem_expandContractions (fun _ => lowered_of_mem_lowerFrom) c hmem,
        hplain⟩
    · exact Or.inl hspace
  · exact Or.inl hspace

theorem isClean_of_mem {text word : List Char}
    (hword : word ∈ splitWords (cleanLyrics table text)) : IsClean table word := by
  obtain ⟨hisWord, hinside⟩ := mem_splitWords hword
  have hchar : ∀ c ∈ word, table.lowercase c = [c] ∧ c ≠ '\'' ∧ c ≠ '-' ∧ c ∉ punctuation := by
    intro c hc
    rcases mem_of_mem_cleanLyrics (hinside.subset hc) with rfl | hclean
    · exact absurd (hisWord.unspaced ' ' hc) (by decide)
    · exact hclean
  refine { toIsWord := hisWord, lowered := fun c hc => (hchar c hc).1, untagged := ?_,
           plain := fun c hc => (hchar c hc).2 }
  intro htag
  exact untagged_cleanLyrics text (htag.trans hinside.sublist)

end Songmaker.Scoring.CleanLyrics
