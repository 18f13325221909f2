import Mathlib.Algebra.Order.Group.Defs
import Mathlib.Algebra.Order.Monoid.Unbundled.WithTop

/-!
Sequences of moves whose scores add up, and the two sides of a dynamic program
over them: values that no move can beat bound every sequence from above, and a
sequence that loses nothing at any move attains its value.
-/

namespace Songmaker.Foundation

/-- A deterministic system whose moves score. -/
structure ScoredMoves (State Move α : Type) where
  next : State → Move → State
  score : State → Move → α

namespace ScoredMoves

variable {State Move α : Type} (G : ScoredMoves State Move α)

/-- Where the moves lead to. -/
def final (s : State) (moves : List Move) : State :=
  moves.foldl G.next s

/-- The score of the moves together. -/
def total [AddMonoid α] (s : State) : List Move → α
  | [] => 0
  | move :: rest => G.score s move + total (G.next s move) rest

@[simp] theorem final_nil (s : State) : G.final s [] = s := rfl

@[simp] theorem total_nil [AddMonoid α] (s : State) : G.total s [] = 0 := rfl

theorem final_concat (s : State) (moves : List Move) (move : Move) :
    G.final s (moves ++ [move]) = G.next (G.final s moves) move := by
  simp [final]

theorem total_concat [AddMonoid α] (s : State) (moves : List Move) (move : Move) :
    G.total s (moves ++ [move]) = G.total s moves + G.score (G.final s moves) move := by
  induction moves generalizing s with
  | nil => simp [total]
  | cons first rest ih =>
      simp only [List.cons_append, total]
      rw [ih, add_assoc]
      rfl

/-- A value that no move can raise above the value of the state it leads to
bounds the total of every sequence. -/
theorem value_add_total_le [AddMonoid α] [Preorder α] [AddRightMono α] {value : State → WithBot α}
    (hvalue : ∀ s move, value s + G.score s move ≤ value (G.next s move)) (s : State)
    (moves : List Move) :
    value s + G.total s moves ≤ value (G.final s moves) := by
  induction moves generalizing s with
  | nil => simp
  | cons move rest ih =>
      calc
        value s + (G.total s (move :: rest) : α) =
            value s + G.score s move + G.total (G.next s move) rest := by
          rw [total, WithBot.coe_add, add_assoc]
        _ ≤ value (G.next s move) + G.total (G.next s move) rest :=
          add_le_add_left (hvalue s move) _
        _ ≤ value (G.final (G.next s move) rest) := ih (G.next s move)

/-- The sequences whose every prefix attains the value of the state it leads to. -/
def Attains [AddMonoid α] (value : State → WithBot α) (s : State) (moves : List Move) : Prop :=
  ∀ before, before <+: moves → value (G.final s before) = G.total s before

theorem attains_nil [AddMonoid α] {value : State → WithBot α} {s : State} (hs : value s = 0) :
    G.Attains value s [] := by
  intro before hbefore
  rw [List.prefix_nil] at hbefore
  subst hbefore
  simpa using hs

theorem Attains.concat [AddMonoid α] {value : State → WithBot α} {s : State} {moves : List Move}
    (hmoves : G.Attains value s moves) {move : Move}
    (hmove : value (G.next (G.final s moves) move) =
      value (G.final s moves) + G.score (G.final s moves) move) :
    G.Attains value s (moves ++ [move]) := by
  intro before hbefore
  rcases List.prefix_concat_iff.mp hbefore with rfl | hbefore
  · rw [final_concat, total_concat, hmove, hmoves moves List.prefix_rfl, WithBot.coe_add]
  · exact hmoves before hbefore

theorem Attains.value_final [AddMonoid α] {value : State → WithBot α} {s : State}
    {moves : List Move} (hmoves : G.Attains value s moves) :
    value (G.final s moves) = G.total s moves :=
  hmoves moves List.prefix_rfl

end ScoredMoves

end Songmaker.Foundation
