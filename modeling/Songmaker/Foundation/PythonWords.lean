import Songmaker.Foundation.PythonText

namespace Songmaker.Foundation

/-- `str.split` without a separator. -/
def splitWords (text : List Char) : List (List Char) :=
  (text.splitOnP isSpace).filter fun word => !word.isEmpty

/-- `' '.join`. -/
def joinWords (texts : List (List Char)) : List Char :=
  [' '].intercalate texts

theorem splitWords_append_space (text rest : List Char) :
    splitWords (text ++ ' ' :: rest) = splitWords text ++ splitWords rest := by
  rw [splitWords, List.splitOnP_append_cons _ _ (by decide), List.filter_append]
  rfl

theorem splitWords_joinWords (texts : List (List Char)) :
    splitWords (joinWords texts) = texts.flatMap splitWords := by
  induction texts with
  | nil => rfl
  | cons text texts ih =>
      cases texts with
      | nil => simp [joinWords, List.intercalate]
      | cons next rest =>
          have hjoin : joinWords (text :: next :: rest) =
              text ++ ' ' :: joinWords (next :: rest) := by
            simp [joinWords, List.intercalate]
          rw [hjoin, splitWords_append_space, ih, ← List.flatMap_cons]

/-- A word is not empty and holds no space. -/
structure IsWord (word : List Char) : Prop where
  ne_nil : word ≠ []
  unspaced : ∀ c ∈ word, isSpace c = false

theorem splitWords_of_isWord {word : List Char} (hword : IsWord word) :
    splitWords word = [word] := by
  rw [splitWords, List.splitOnP_eq_singleton hword.unspaced]
  simp [hword.ne_nil]

theorem mem_splitOnP {separator : Char → Bool} {text piece : List Char}
    (hpiece : piece ∈ text.splitOnP separator) :
    piece.IsInfix text ∧ ∀ c ∈ piece, separator c = false := by
  have hfirst : ∀ (text : List Char) (first : List Char) (pieces : List (List Char)),
      text.splitOnP separator = first :: pieces → first.IsPrefix text := by
    intro text
    induction text with
    | nil =>
        intro first pieces hsplit
        rw [List.splitOnP_nil] at hsplit
        obtain ⟨rfl, -⟩ := List.cons.inj hsplit
        exact List.prefix_rfl
    | cons c text ih =>
        intro first pieces hsplit
        obtain ⟨head, tail, htext⟩ :=
          List.exists_cons_of_ne_nil (List.splitOnP_ne_nil separator text)
        rw [List.splitOnP_cons_eq_if_modifyHead, htext] at hsplit
        split at hsplit
        · obtain ⟨rfl, -⟩ := List.cons.inj hsplit
          exact List.nil_prefix
        · obtain ⟨rfl, -⟩ := List.cons.inj hsplit
          exact List.cons_prefix_cons.mpr ⟨rfl, ih head tail htext⟩
  induction text generalizing piece with
  | nil =>
      rw [List.splitOnP_nil, List.mem_singleton] at hpiece
      subst hpiece
      exact ⟨List.infix_rfl, by simp⟩
  | cons c text ih =>
      obtain ⟨head, tail, htext⟩ := List.exists_cons_of_ne_nil (List.splitOnP_ne_nil separator text)
      have hmem : ∀ other ∈ head :: tail, other ∈ text.splitOnP separator := by
        intro other hother
        rwa [htext]
      rw [List.splitOnP_cons_eq_if_modifyHead, htext] at hpiece
      split at hpiece
      · rcases List.mem_cons.mp hpiece with rfl | hpiece
        · exact ⟨List.nil_infix, by simp⟩
        · obtain ⟨hinside, hunspaced⟩ := ih (hmem piece hpiece)
          exact ⟨List.infix_cons hinside, hunspaced⟩
      · rename_i hc
        rcases List.mem_cons.mp hpiece with rfl | hpiece
        · have hleading := hfirst text head tail htext
          refine ⟨(List.cons_prefix_cons.mpr ⟨rfl, hleading⟩).isInfix, ?_⟩
          intro d hd
          rcases List.mem_cons.mp hd with rfl | hd
          · simpa using hc
          · exact (ih (hmem head List.mem_cons_self)).2 d hd
        · obtain ⟨hinside, hunspaced⟩ := ih (hmem piece (List.mem_cons_of_mem _ hpiece))
          exact ⟨List.infix_cons hinside, hunspaced⟩

theorem mem_splitWords {text word : List Char} (hword : word ∈ splitWords text) :
    IsWord word ∧ word.IsInfix text := by
  obtain ⟨hpiece, hne⟩ := List.mem_filter.mp hword
  obtain ⟨hinside, hunspaced⟩ := mem_splitOnP hpiece
  exact ⟨⟨by simpa using hne, hunspaced⟩, hinside⟩

end Songmaker.Foundation
