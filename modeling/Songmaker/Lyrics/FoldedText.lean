import Songmaker.Lyrics.NormalizeToken

namespace Songmaker.Lyrics.NormalizeToken

open Songmaker.Foundation.CodePoints

variable (data : UnicodeData)

theorem UnicodeData.lowercase_spelled {unit : Nat} (hunit : unit ∈ spelledLetters) :
    data.lowercaseMapping [unit] = [unit] := by
  by_contra hchanged
  have hupper := data.lowercase_upper unit hchanged
  rw [data.category_spelled unit hunit] at hupper
  exact absurd hupper Bool.false_ne_true

theorem isLeading_spelled : ∀ unit ∈ spelledLetters, isLeading unit = false := by
  decide

/-! ### One code point -/

/-- What is left to do for a code point in lower case. -/
def finishPoint (point : Text) : Text :=
  spellOutUmlauts (casefoldOverride point)

/-- The letters that a code point in lower case can be folded to. -/
def foldedLetters : Text :=
  letters ['a', 'e', 'o', 's', 'u', 'σ']

theorem foldedLetters_spelled : ∀ unit ∈ foldedLetters, unit ∈ spelledLetters := by
  decide

theorem foldedLetters_notTrailing : ∀ unit ∈ foldedLetters, isTrailing unit = false := by
  decide

theorem finishPoint_folded : ∀ unit ∈ foldedLetters, finishPoint [unit] = [unit] := by
  decide

theorem finishPoint_cases {point : Text} (hpoint : IsPoint point) :
    finishPoint point = point ∨
      finishPoint point ≠ [] ∧ ∀ unit ∈ finishPoint point, unit ∈ foldedLetters := by
  cases hpoint with
  | single unit =>
      by_cases hspecial : unit ∈ letters ['ß', 'ς', 'ä', 'ö', 'ü']
      · right
        revert unit
        decide
      · left
        have hne : unit ≠ sharpS ∧ unit ≠ finalSigma ∧ unit ≠ 'ä'.toNat ∧ unit ≠ 'ö'.toNat ∧
            unit ≠ 'ü'.toNat := by
          simpa [letters, sharpS, finalSigma] using hspecial
        obtain ⟨hsharp, hsigma, ha, ho, hu⟩ := hne
        have hspelling : umlautSpelling unit = [unit] := by
          rw [umlautSpelling, if_neg ha, if_neg ho, if_neg hu]
        simp [finishPoint, casefoldOverride, spellOutUmlauts, hspelling, hsharp, hsigma]
  | @pair unit next hpair =>
      left
      simp only [isLeading, isTrailing, Bool.and_eq_true, decide_eq_true_eq] at hpair
      have hunit : umlautSpelling unit = [unit] := by
        simp only [umlautSpelling, Char.reduceToNat]
        rw [if_neg (by omega), if_neg (by omega), if_neg (by omega)]
      have hnext : umlautSpelling next = [next] := by
        simp only [umlautSpelling, Char.reduceToNat]
        rw [if_neg (by omega), if_neg (by omega), if_neg (by omega)]
      simp [finishPoint, casefoldOverride, spellOutUmlauts, hunit, hnext]

theorem finishPoint_replaces {point : Text} (hpoint : IsPoint point) :
    Replaces (finishPoint point) point := by
  rcases finishPoint_cases hpoint with hsame | ⟨hne, hfolded⟩
  · rw [hsame]
    refine ⟨?_, .inl rfl⟩
    cases hpoint with
    | single => exact List.cons_ne_nil _ _
    | pair => exact List.cons_ne_nil _ _
  · refine ⟨hne, .inr ⟨?_, ?_⟩⟩
    · intro unit hunit
      exact foldedLetters_notTrailing unit (hfolded unit (List.mem_of_mem_head? hunit))
    · intro unit hunit
      exact isLeading_spelled unit
        (foldedLetters_spelled unit (hfolded unit (List.mem_of_mem_getLast? hunit)))

/-! ### A whole text -/

/-- The text in lower case, code point by code point. -/
def lowerPieces (text : Text) : List Text :=
  (codePoints text).zipIdx.map fun (point, i) => lowerPoint data (codePoints text) point i

/-- Case folding and the spelling of umlauts. -/
def fold (text : Text) : Text :=
  spellOutUmlauts (casefold data text)

theorem fold_eq_finish (text : Text) :
    fold data text = (codePoints (toLowerCase data text)).flatMap finishPoint := by
  rw [fold, casefold, spellOutUmlauts, List.flatMap_assoc]
  rfl

theorem lowerPoint_replaces {points : List Text} {point : Text} (hpoint : IsPoint point) (i : Nat) :
    Replaces (lowerPoint data points point i) point := by
  rw [lowerPoint]
  split
  · rename_i hsigma
    split
    · exact ⟨List.cons_ne_nil _ _, .inr ⟨by decide, by decide⟩⟩
    · exact ⟨List.cons_ne_nil _ _, .inr ⟨by decide, by decide⟩⟩
  · exact data.lowercase_replaces point hpoint

theorem lowerPieces_replace (text : Text) :
    List.Forall₂ Replaces (lowerPieces data text) (codePoints text) := by
  have hpoints : ∀ points : List Text, (∀ point ∈ points, IsPoint point) → ∀ (n : Nat),
      List.Forall₂ Replaces
        ((points.zipIdx n).map fun (point, i) => lowerPoint data (codePoints text) point i)
        points := by
    intro points hpoints n
    induction points generalizing n with
    | nil => exact .nil
    | cons point rest ih =>
        rw [List.zipIdx_cons, List.map_cons]
        exact .cons (lowerPoint_replaces data (hpoints point List.mem_cons_self) n)
          (ih (fun other hother => hpoints other (List.mem_cons_of_mem point hother)) (n + 1))
  exact hpoints _ (fun point hpoint => isPoint_of_mem hpoint) 0

theorem codePoints_toLowerCase (text : Text) :
    codePoints (toLowerCase data text) = (lowerPieces data text).flatMap codePoints :=
  codePoints_flatten (lowerPieces_replace data text)

theorem exists_of_mem_lowerPieces {text piece : Text} (hpiece : piece ∈ lowerPieces data text) :
    ∃ point ∈ codePoints text, piece = data.lowercaseMapping point ∨
      point = [capitalSigma] ∧ (piece = [finalSigma] ∨ piece = [smallSigma]) := by
  obtain ⟨⟨point, i⟩, hmem, rfl⟩ := List.mem_map.mp hpiece
  refine ⟨point, List.fst_mem_of_mem_zipIdx hmem, ?_⟩
  simp only [lowerPoint]
  split
  · rename_i hsigma
    right
    refine ⟨hsigma, ?_⟩
    split
    · exact .inl rfl
    · exact .inr rfl
  · exact .inl rfl

theorem lowercase_of_mem_toLowerCase {text point : Text}
    (hpoint : point ∈ codePoints (toLowerCase data text)) :
    data.lowercaseMapping point = point := by
  rw [codePoints_toLowerCase] at hpoint
  obtain ⟨piece, hpiece, hmem⟩ := List.mem_flatMap.mp hpoint
  obtain ⟨source, hsource, hpiece⟩ := exists_of_mem_lowerPieces data hpiece
  rcases hpiece with rfl | ⟨-, hsigma⟩
  · exact data.lowercase_stable source (isPoint_of_mem hsource) point hmem
  · rcases hsigma with rfl | rfl
    · obtain rfl := List.mem_singleton.mp hmem
      exact data.lowercase_spelled (by decide)
    · obtain rfl := List.mem_singleton.mp hmem
      exact data.lowercase_spelled (by decide)

/-- A code point that folding leaves as it is. -/
def Folded (point : Text) : Prop :=
  data.lowercaseMapping point = point ∧ finishPoint point = point

theorem folded_of_mem_fold {text point : Text} (hpoint : point ∈ codePoints (fold data text)) :
    Folded data point := by
  have hpieces : List.Forall₂ Replaces ((codePoints (toLowerCase data text)).map finishPoint)
      (codePoints (toLowerCase data text)) := by
    rw [List.forall₂_map_left_iff, List.forall₂_same]
    exact fun point hpoint => finishPoint_replaces (isPoint_of_mem hpoint)
  rw [fold_eq_finish, List.flatMap_def, codePoints_flatten hpieces] at hpoint
  obtain ⟨piece, hpiece, hmem⟩ := List.mem_flatMap.mp hpoint
  obtain ⟨lower, hlower, rfl⟩ := List.mem_map.mp hpiece
  have hlowerPoint := isPoint_of_mem hlower
  rcases finishPoint_cases hlowerPoint with hsame | ⟨-, hfolded⟩
  · rw [hsame, codePoints_of_isPoint hlowerPoint] at hmem
    obtain rfl := List.mem_singleton.mp hmem
    exact ⟨lowercase_of_mem_toLowerCase data hlower, hsame⟩
  · have hleading : ∀ unit ∈ finishPoint lower, isLeading unit = false := fun unit hunit =>
      isLeading_spelled unit (foldedLetters_spelled unit (hfolded unit hunit))
    rw [codePoints_eq_map hleading] at hmem
    obtain ⟨unit, hunit, rfl⟩ := List.mem_map.mp hmem
    exact ⟨data.lowercase_spelled (foldedLetters_spelled unit (hfolded unit hunit)),
      finishPoint_folded unit (hfolded unit hunit)⟩

theorem toLowerCase_of_folded {text : Text}
    (htext : ∀ point ∈ codePoints text, Folded data point) : toLowerCase data text = text := by
  have hpieces : ((codePoints text).zipIdx.map fun (point, i) =>
      lowerPoint data (codePoints text) point i) = (codePoints text).zipIdx.map Prod.fst := by
    apply List.map_congr_left
    rintro ⟨point, i⟩ hpoint
    have hfolded := htext point (List.fst_mem_of_mem_zipIdx hpoint)
    have hne : point ≠ [capitalSigma] := by
      rintro rfl
      have hsigma := hfolded.1
      rw [data.lowercase_sigma] at hsigma
      exact absurd hsigma (by decide)
    show lowerPoint data (codePoints text) point i = point
    rw [lowerPoint, if_neg hne, hfolded.1]
  rw [toLowerCase, hpieces, List.zipIdx_map_fst, flatten_codePoints]

theorem fold_of_folded {text : Text} (htext : ∀ point ∈ codePoints text, Folded data point) :
    fold data text = text := by
  have hfinish : (codePoints text).flatMap finishPoint = (codePoints text).flatten := by
    rw [List.flatMap_def]
    congr 1
    calc
      (codePoints text).map finishPoint = (codePoints text).map id :=
        List.map_congr_left fun point hpoint => (htext point hpoint).2
      _ = codePoints text := List.map_id _
  rw [fold_eq_finish, toLowerCase_of_folded data htext, hfinish, flatten_codePoints]

theorem fold_fold (text : Text) : fold data (fold data text) = fold data text :=
  fold_of_folded data fun _ hpoint => folded_of_mem_fold data hpoint

/-! ### Each code point by itself -/

/-- What the case folding makes of one character. -/
def foldPoint (point : Text) : Text :=
  (codePoints (data.lowercaseMapping point)).flatMap finishPoint

theorem fold_eq (text : Text) : fold data text = (codePoints text).flatMap (foldPoint data) := by
  have hpieces : (lowerPieces data text).map (fun piece => (codePoints piece).flatMap finishPoint) =
      (codePoints text).map (foldPoint data) := by
    rw [lowerPieces, List.map_map]
    calc
      _ = (codePoints text).zipIdx.map (foldPoint data ∘ Prod.fst) := by
        apply List.map_congr_left
        rintro ⟨point, i⟩ -
        show (codePoints (lowerPoint data (codePoints text) point i)).flatMap finishPoint =
          foldPoint data point
        rw [lowerPoint]
        split
        · rename_i hsigma
          rw [hsigma, foldPoint, data.lowercase_sigma]
          split
          · decide
          · decide
        · rfl
      _ = (codePoints text).map (foldPoint data) := by
        rw [← List.map_map, List.zipIdx_map_fst]
  rw [fold_eq_finish, codePoints_toLowerCase, List.flatMap_assoc, List.flatMap_def, hpieces,
    ← List.flatMap_def]

theorem fold_append {text next : Text} (hparted : Parted text next) :
    fold data (text ++ next) = fold data text ++ fold data next := by
  rw [fold_eq, fold_eq, fold_eq, codePoints_append hparted, List.flatMap_append]

theorem foldPoint_cases {point : Text} (hpoint : IsPoint point) :
    foldPoint data point = point ∨ ∀ unit ∈ foldPoint data point,
      (data.category unit).isLowered = true ∧ unit ≠ apostrophedN := by
  have hfoldedLetters : ∀ unit ∈ foldedLetters,
      (data.category unit).isLowered = true ∧ unit ≠ apostrophedN := by
    intro unit hunit
    refine ⟨?_, ?_⟩
    · rw [data.category_spelled unit (foldedLetters_spelled unit hunit)]
      rfl
    · revert unit
      decide
  by_cases hsame : data.lowercaseMapping point = point
  · rw [foldPoint, hsame, codePoints_of_isPoint hpoint, List.flatMap_singleton]
    rcases finishPoint_cases hpoint with hfinish | ⟨-, hfolded⟩
    · exact .inl hfinish
    · exact .inr fun unit hunit => hfoldedLetters unit (hfolded unit hunit)
  · right
    intro unit hunit
    obtain ⟨lower, hlower, hmem⟩ := List.mem_flatMap.mp hunit
    rcases finishPoint_cases (isPoint_of_mem hlower) with hfinish | ⟨-, hfolded⟩
    · rw [hfinish] at hmem
      refine data.lowercase_lowered point hpoint hsame unit ?_
      rw [← flatten_codePoints (data.lowercaseMapping point)]
      exact List.mem_flatten.mpr ⟨lower, hlower, hmem⟩
    · exact hfoldedLetters unit (hfolded unit hmem)

theorem foldPoint_ne_nil {point : Text} (hpoint : IsPoint point) : foldPoint data point ≠ [] := by
  have hne := (data.lowercase_replaces point hpoint).ne_nil
  obtain ⟨lower, hlower⟩ : ∃ lower, lower ∈ codePoints (data.lowercaseMapping point) := by
    apply List.exists_mem_of_ne_nil
    intro hnil
    have hflatten := flatten_codePoints (data.lowercaseMapping point)
    rw [hnil, List.flatten_nil] at hflatten
    exact hne hflatten.symm
  intro hnil
  rw [foldPoint, List.flatMap_eq_nil_iff] at hnil
  exact (finishPoint_replaces (isPoint_of_mem hlower)).ne_nil (hnil lower hlower)

theorem mem_fold {text : Text} {unit : Nat} (hunit : unit ∈ fold data text) :
    unit ∈ text ∨ (data.category unit).isLowered = true ∧ unit ≠ apostrophedN := by
  rw [fold_eq] at hunit
  obtain ⟨point, hpoint, hmem⟩ := List.mem_flatMap.mp hunit
  rcases foldPoint_cases data (isPoint_of_mem hpoint) with hsame | hlowered
  · left
    rw [hsame] at hmem
    rw [← flatten_codePoints text]
    exact List.mem_flatten.mpr ⟨point, hpoint, hmem⟩
  · exact .inr (hlowered unit hmem)

theorem fold_ne_nil {text : Text} (htext : text ≠ []) : fold data text ≠ [] := by
  obtain ⟨point, hpoint⟩ : ∃ point, point ∈ codePoints text := by
    apply List.exists_mem_of_ne_nil
    intro hnil
    have hflatten := flatten_codePoints text
    rw [hnil, List.flatten_nil] at hflatten
    exact htext hflatten.symm
  intro hnil
  rw [fold_eq, List.flatMap_eq_nil_iff] at hnil
  exact foldPoint_ne_nil data (isPoint_of_mem hpoint) (hnil point hpoint)

theorem fold_eq_self {text : Text}
    (htext : ∀ unit ∈ fold data text, (data.category unit).isLowered = false) :
    fold data text = text := by
  have hpoints : ∀ point ∈ codePoints text, foldPoint data point = point := by
    intro point hpoint
    rcases foldPoint_cases data (isPoint_of_mem hpoint) with hsame | hlowered
    · exact hsame
    · obtain ⟨unit, hunit⟩ :=
        List.exists_mem_of_ne_nil _ (foldPoint_ne_nil data (isPoint_of_mem hpoint))
      have hnot := htext unit (by rw [fold_eq]; exact List.mem_flatMap.mpr ⟨point, hpoint, hunit⟩)
      rw [(hlowered unit hunit).1] at hnot
      exact absurd hnot.symm Bool.false_ne_true
  calc
    fold data text = (codePoints text).flatMap (foldPoint data) := fold_eq data text
    _ = ((codePoints text).map id).flatten := by
      rw [List.flatMap_def]
      congr 1
      exact List.map_congr_left hpoints
    _ = text := by rw [List.map_id, flatten_codePoints]

theorem count_fold_le (text : Text) {unit : Nat} (hunit : (data.category unit).isLowered = false) :
    (fold data text).count unit ≤ text.count unit := by
  have hpoints : ∀ points : List Text, (∀ point ∈ points, IsPoint point) →
      (points.flatMap (foldPoint data)).count unit ≤ points.flatten.count unit := by
    intro points hpoints
    induction points with
    | nil => exact le_rfl
    | cons point rest ih =>
        rw [List.flatMap_cons, List.flatten_cons, List.count_append, List.count_append]
        refine Nat.add_le_add ?_
          (ih fun other hother => hpoints other (List.mem_cons_of_mem point hother))
        rcases foldPoint_cases data (hpoints point List.mem_cons_self) with hsame | hlowered
        · rw [hsame]
        · have hnone : unit ∉ foldPoint data point := by
            intro hmem
            rw [(hlowered unit hmem).1] at hunit
            exact absurd hunit.symm Bool.false_ne_true
          rw [List.count_eq_zero_of_not_mem hnone]
          exact Nat.zero_le _
  have hle := hpoints (codePoints text) fun point hpoint => isPoint_of_mem hpoint
  rwa [← fold_eq, flatten_codePoints] at hle

end Songmaker.Lyrics.NormalizeToken
