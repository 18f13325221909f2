import Mathlib.Data.List.Basic

namespace Songmaker.Foundation.SeparatedText

theorem intercalate_cons {α : Type} (separator : α) (text : List α) (texts : List (List α)) :
    [separator].intercalate (text :: texts) = text ++ texts.flatMap (separator :: ·) := by
  induction texts generalizing text with
  | nil => simp
  | cons text' texts ih =>
      rw [List.intercalate_cons_cons, ih, List.flatMap_cons]
      simp

theorem intercalate_injective {separator : Char} {texts texts' : List (List Char)}
    (hne : texts ≠ []) (hne' : texts' ≠ []) (htexts : ∀ text ∈ texts, separator ∉ text)
    (htexts' : ∀ text ∈ texts', separator ∉ text)
    (h : [separator].intercalate texts = [separator].intercalate texts') : texts = texts' := by
  have hsplit := congrArg (List.splitOn separator) h
  rwa [List.splitOn_intercalate separator htexts hne,
    List.splitOn_intercalate separator htexts' hne'] at hsplit

theorem notMem_intercalate {α : Type} {separator c : α} (hne : c ≠ separator)
    {texts : List (List α)} (htexts : ∀ text ∈ texts, c ∉ text) :
    c ∉ [separator].intercalate texts := by
  cases texts with
  | nil => exact List.not_mem_nil
  | cons text texts =>
      rw [intercalate_cons]
      intro hmem
      rcases List.mem_append.mp hmem with hmem | hmem
      · exact htexts text List.mem_cons_self hmem
      · obtain ⟨text', htext', hmem⟩ := List.mem_flatMap.mp hmem
        rcases List.mem_cons.mp hmem with rfl | hmem
        · exact hne rfl
        · exact htexts text' (List.mem_cons_of_mem _ htext') hmem

theorem mem_intercalate {α : Type} {separator c : α} {texts : List (List α)}
    (hmem : c ∈ [separator].intercalate texts) :
    c = separator ∨ ∃ text ∈ texts, c ∈ text := by
  by_contra hnot
  rw [not_or] at hnot
  exact notMem_intercalate hnot.1 (fun text htext hc => hnot.2 ⟨text, htext, hc⟩) hmem

theorem mem_intercalate_of_mem {α : Type} {separator c : α} {texts : List (List α)} {text : List α}
    (htext : text ∈ texts) (hc : c ∈ text) : c ∈ [separator].intercalate texts := by
  cases texts with
  | nil => exact absurd htext List.not_mem_nil
  | cons first texts =>
      rw [intercalate_cons]
      rcases List.mem_cons.mp htext with rfl | hmem
      · exact List.mem_append_left _ hc
      · exact List.mem_append_right _
          (List.mem_flatMap.mpr ⟨text, hmem, List.mem_cons_of_mem separator hc⟩)

end Songmaker.Foundation.SeparatedText
