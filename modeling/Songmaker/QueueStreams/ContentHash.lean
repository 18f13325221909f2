import Songmaker.Foundation.SeparatedText
import Songmaker.QueueStreams.StreamSnapshots

namespace Songmaker.QueueStreams.ContentHash

open Songmaker.Foundation.SeparatedText
open Songmaker.QueueStreams.StreamLibrary
open Songmaker.QueueStreams.StreamSnapshots

theorem unseparated_orEmpty (id : Option Ident) : '\x00' ∉ orEmpty id ∧ '\x1f' ∉ orEmpty id := by
  cases id with
  | none => exact ⟨List.not_mem_nil, List.not_mem_nil⟩
  | some id => exact id.unseparated

theorem unseparated_format3 (q : ℚ) : '\x00' ∉ format3 q ∧ '\x1f' ∉ format3 q := by
  have hdigits := Ident.unseparated_toDigits
  have hpoint : '\x00' ∉ ['.'] ∧ '\x1f' ∉ ['.'] := by decide
  unfold format3
  dsimp only
  rw [← List.singleton_append]
  refine Ident.unseparated_append (Ident.unseparated_append
    (Ident.unseparated_append (hdigits _) ?_) (hdigits _)) (hdigits _)
  exact Ident.unseparated_append hpoint (hdigits _)

theorem unseparated_contentParts (prepared : QueueStreamPreparedSource) :
    ∀ part ∈ contentParts prepared, '\x00' ∉ part ∧ '\x1f' ∉ part := by
  intro part hpart
  simp only [contentParts, List.mem_cons, List.not_mem_nil, or_false] at hpart
  rcases hpart with rfl | rfl | rfl | rfl | rfl | rfl | rfl | rfl | rfl | rfl
  · exact Ident.unseparated_toDigits _
  · exact prepared.source.key.unseparated
  · exact unseparated_orEmpty _
  · exact prepared.source.generation.id.unseparated
  · exact unseparated_orEmpty _
  · exact unseparated_orEmpty _
  · exact prepared.source.audioUrl.unseparated
  · exact Ident.unseparated_toDigits _
  · exact Ident.unseparated_toDigits _
  · exact unseparated_format3 _

def windowedText (windowed : Bool) : List Char :=
  if windowed then "True".toList else "False".toList

/-- The lines that the hash is made of. -/
def contentLines (scope : SnapshotScope) (scopeId : Ident) (windowed : Bool)
    (prepared : List QueueStreamPreparedSource) : List (List Char) :=
  scope.text :: scopeId.chars :: windowedText windowed ::
    prepared.map fun p => ['\x1f'].intercalate (contentParts p)

theorem contentText_eq (scope : SnapshotScope) (scopeId : Ident) (windowed : Bool)
    (prepared : List QueueStreamPreparedSource) :
    contentText scope scopeId windowed prepared =
      ['\x00'].intercalate (contentLines scope scopeId windowed prepared) := by
  rw [contentLines, intercalate_cons, contentText]
  simp [List.flatMap_cons, List.flatMap_map, windowedText]

theorem notMem_contentLines (scope : SnapshotScope) (scopeId : Ident) (windowed : Bool)
    (prepared : List QueueStreamPreparedSource) :
    ∀ line ∈ contentLines scope scopeId windowed prepared, '\x00' ∉ line := by
  intro line hline
  simp only [contentLines, List.mem_cons, List.mem_map] at hline
  rcases hline with rfl | rfl | rfl | ⟨p, -, rfl⟩
  · cases scope <;> decide
  · exact scopeId.unseparated.1
  · cases windowed <;> decide
  · exact notMem_intercalate (by decide)
      fun part hpart => (unseparated_contentParts p part hpart).1

theorem contentText_injective {scope scope' : SnapshotScope} {scopeId scopeId' : Ident}
    {windowed windowed' : Bool} {prepared prepared' : List QueueStreamPreparedSource}
    (h : contentText scope scopeId windowed prepared =
      contentText scope' scopeId' windowed' prepared') :
    windowed = windowed' ∧ prepared.map contentParts = prepared'.map contentParts := by
  rw [contentText_eq, contentText_eq] at h
  have hlines := intercalate_injective (List.cons_ne_nil _ _) (List.cons_ne_nil _ _)
    (notMem_contentLines _ _ _ _) (notMem_contentLines _ _ _ _) h
  simp only [List.cons.injEq] at hlines
  obtain ⟨-, -, hwindowed, hprepared⟩ := hlines
  constructor
  · revert hwindowed
    cases windowed <;> cases windowed' <;> decide
  · have hsplit := congrArg (List.map (List.splitOn '\x1f')) hprepared
    have hparts : ∀ p : QueueStreamPreparedSource,
        (['\x1f'].intercalate (contentParts p)).splitOn '\x1f' = contentParts p := fun p =>
      List.splitOn_intercalate _ (fun part hpart => (unseparated_contentParts p part hpart).2)
        (List.cons_ne_nil _ _)
    simpa [List.map_map, Function.comp_def, hparts] using hsplit

theorem toDigits_injective : Function.Injective (Nat.toDigits 10) := by
  intro n m h
  rw [← Nat.ofDigitChars_ten_toDigits (n := n), h, Nat.ofDigitChars_ten_toDigits]

theorem eq_of_chars {id id' : Ident} (h : id.chars = id'.chars) : id = id' := by
  cases id
  cases id'
  congr

theorem orEmpty_injective : Function.Injective orEmpty := by
  rintro (_ | id) (_ | id') h
  · rfl
  · exact absurd h.symm id'.nonempty
  · exact absurd h id.nonempty
  · exact congrArg some (eq_of_chars h)

end Songmaker.QueueStreams.ContentHash
