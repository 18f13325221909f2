import Mathlib
import Songmaker.Layers.OpenLayers

namespace Songmaker.Layers.LayersLeaveOnce

open Songmaker.Foundation
open Songmaker.Foundation.TransitionSystem
open Songmaker.Layers
open Songmaker.Layers.LayerStack

section Calls

variable {layer other : Layer}

theorem count_left_leavingCalls (leaving : Layer) :
    (leavingCalls layer leaving).count (.left other) = [leaving].count other := by
  unfold leavingCalls
  split
  · simp [List.count_cons, List.count_nil]
  · simp [List.count_cons, List.count_nil]

theorem count_left_flatMap (leaving : List Layer) :
    (leaving.flatMap (leavingCalls layer)).count (.left other) = leaving.count other := by
  induction leaving with
  | nil => rfl
  | cons first rest ih =>
      rw [List.flatMap_cons, List.count_append, ih, count_left_leavingCalls, ← List.count_append]
      rfl

theorem count_close_leavingCalls (layer leaving other : Layer) :
    (leavingCalls layer leaving).count (.close other) ≤ [leaving].count other := by
  unfold leavingCalls
  split
  · simp [List.count_cons, List.count_nil]
  · simp [List.count_cons, List.count_nil]

theorem count_close_flatMap (layer other : Layer) (leaving : List Layer) :
    (leaving.flatMap (leavingCalls layer)).count (.close other) ≤ leaving.count other := by
  induction leaving with
  | nil => exact Nat.le_refl _
  | cons first rest ih =>
      have hfirst := count_close_leavingCalls layer first other
      have happend : (first :: rest).count other = [first].count other + rest.count other := by
        rw [← List.count_append]
        rfl
      rw [List.flatMap_cons, List.count_append, happend]
      omega

theorem mem_close_flatMap {leaving : List Layer}
    (hclose : Call.close other ∈ leaving.flatMap (leavingCalls layer)) :
    other.heldOpen = false ∧ other ∈ leaving := by
  obtain ⟨first, hfirst, hcall⟩ := List.mem_flatMap.mp hclose
  unfold leavingCalls at hcall
  split at hcall
  · rename_i hopen
    obtain rfl : other = first := by simpa using hcall
    simp only [Bool.and_eq_true, Bool.not_eq_eq_eq_not, Bool.not_true] at hopen
    exact ⟨hopen.2, hfirst⟩
  · simp at hcall

theorem count_close_map (dropped : List Layer) :
    (dropped.map Call.close).count (.close other) = dropped.count other :=
  List.count_map_of_injective _ _ (fun _ _ h => Call.close.inj h) _

theorem count_left_map (dropped : List Layer) :
    (dropped.map Call.close).count (.left other) = 0 := by
  apply List.count_eq_zero.mpr
  intro hmem
  obtain ⟨layer, -, hlayer⟩ := List.mem_map.mp hmem
  cases hlayer

theorem count_splice (stack : List Layer) (n : Nat) (other : Layer) :
    (stack.take n).count other + (stack.drop n).count other = stack.count other := by
  rw [← List.count_append, List.take_append_drop]

end Calls

/-- A layer that is on the stack or about to close is the one that its
`holdOpenWhile` holds, where one made it. -/
structure Sound (s : LayerStack) : Prop where
  nodup : s.opened.Nodup
  keys : ∀ layer ∈ s.opened, layer.key < s.opened.length
  ordered : s.openLayers.Sublist s.opened
  /-- Every opened layer is on the stack, was dropped, or was or will be told to have left. -/
  told : ∀ layer, s.left.count layer + s.calls.count (.left layer) + s.openLayers.count layer +
    s.dropped.count layer = s.opened.count layer
  closes : ∀ layer, s.closed.count layer + s.calls.count (.close layer) +
    s.openLayers.count layer ≤ s.opened.count layer
  held : ∀ layer i, layer.close = .holdOpen i →
    layer ∈ s.openLayers ∨ .close layer ∈ s.calls →
      ∃ hold, s.holds[i]? = some hold ∧ hold.settled = false ∧ hold.held = layer

section Steps

variable {s : LayerStack}

theorem Sound.opened_count_le (h : Sound s) (layer : Layer) : s.opened.count layer ≤ 1 :=
  List.nodup_iff_count_le_one.mp h.nodup layer

theorem Sound.opens_notMem (h : Sound s) (id : String) (close : Close) :
    s.opens id close ∉ s.opened := by
  intro hmem
  have hkey := h.keys _ hmem
  simp [opens] at hkey

theorem Sound.push (h : Sound s) {id : String} {close : Close} {holds : List Hold}
    (hnew : ∀ i, close = .holdOpen i →
      ∃ hold, holds[i]? = some hold ∧ hold.settled = false ∧ hold.held = s.opens id close)
    (hkept : ∀ layer i, layer.close = .holdOpen i →
      layer ∈ s.openLayers ∨ .close layer ∈ s.calls →
        ∀ hold, s.holds[i]? = some hold → holds[i]? = some hold) :
    Sound { s.push (s.opens id close) with holds := holds } := by
  have hfresh := h.opens_notMem id close
  constructor
  · rw [LayerStack.push, List.nodup_append]
    refine ⟨h.nodup, List.nodup_singleton _, ?_⟩
    intro layer hlayer other hother heq
    rw [List.mem_singleton.mp hother] at heq
    exact hfresh (heq ▸ hlayer)
  · intro layer hlayer
    rcases List.mem_append.mp hlayer with hold | hnew
    · have hkey := h.keys layer hold
      simp only [LayerStack.push, List.length_append, List.length_singleton]
      omega
    · rw [List.mem_singleton.mp hnew]
      simp [LayerStack.push, opens]
  · exact h.ordered.append (.refl _)
  · intro layer
    have htold := h.told layer
    simp only [LayerStack.push, List.count_append]
    omega
  · intro layer
    have hcloses := h.closes layer
    simp only [LayerStack.push, List.count_append]
    omega
  · intro layer i hclose hthere
    by_cases hold : layer ∈ s.openLayers ∨ .close layer ∈ s.calls
    · obtain ⟨hold', hget, hunsettled, hheld⟩ := h.held layer i hclose hold
      exact ⟨hold', hkept layer i hclose hold hold' hget, hunsettled, hheld⟩
    · obtain ⟨hstack, hcalls⟩ := not_or.mp hold
      obtain rfl : layer = s.opens id close := by
        simpa [LayerStack.push, hstack, hcalls] using hthere
      exact hnew i hclose

theorem Sound.leaveLayer (h : Sound s) (layer : Layer) : Sound (s.leaveLayer layer) := by
  unfold LayerStack.leaveLayer
  split
  · constructor
    · exact h.nodup
    · exact h.keys
    · exact (List.take_sublist _ _).trans h.ordered
    · intro other
      have htold := h.told other
      have hsplice := count_splice s.openLayers (s.openLayers.idxOf layer) other
      simp only [List.count_append, count_left_flatMap, List.count_reverse]
      omega
    · intro other
      have hcloses := h.closes other
      have hsplice := count_splice s.openLayers (s.openLayers.idxOf layer) other
      have hleaving := count_close_flatMap layer other
        (s.openLayers.drop (s.openLayers.idxOf layer)).reverse
      rw [List.count_reverse] at hleaving
      simp only [List.count_append]
      omega
    · intro other i hclose hthere
      apply h.held other i hclose
      rcases hthere with hstack | hcalls
      · exact .inl (List.mem_of_mem_take hstack)
      · rcases List.mem_append.mp hcalls with hleaving | hcalls
        · have hopen := (mem_close_flatMap hleaving).1
          simp [Layer.heldOpen, hclose] at hopen
        · exact .inr hcalls
  · exact h

theorem Sound.dropLayersFrom (h : Sound s) (depth : Int) : Sound (s.dropLayersFrom depth) := by
  unfold LayerStack.dropLayersFrom
  constructor
  · exact h.nodup
  · exact h.keys
  · exact (List.take_sublist _ _).trans h.ordered
  · intro layer
    have htold := h.told layer
    have hsplice := count_splice s.openLayers (spliceStart s.openLayers.length depth) layer
    simp only [List.count_append, count_left_map]
    omega
  · intro layer
    have hcloses := h.closes layer
    have hsplice := count_splice s.openLayers (spliceStart s.openLayers.length depth) layer
    simp only [List.count_append, count_close_map, List.count_reverse]
    omega
  · intro layer i hclose hthere
    apply h.held layer i hclose
    rcases hthere with hstack | hcalls
    · exact .inl (List.mem_of_mem_take hstack)
    · rcases List.mem_append.mp hcalls with hdropped | hcalls
      · obtain ⟨other, hother, heq⟩ := List.mem_map.mp hdropped
        cases heq
        exact .inl (List.mem_of_mem_drop (List.mem_reverse.mp hother))
      · exact .inr hcalls

theorem Sound.holdOpenWhile (h : Sound s) (id : String) : Sound (s.holdOpenWhile id) := by
  apply h.push
  · rintro i ⟨⟩
    exact ⟨_, List.getElem?_concat_length .., rfl, rfl⟩
  · intro layer i _ _ hold hhold
    exact List.getElem?_append_left (List.getElem?_eq_some_iff.mp hhold).1 ▸ hhold

theorem Sound.stack_nodup (h : Sound s) : s.openLayers.Nodup :=
  h.nodup.sublist h.ordered

theorem Sound.letGoOf (h : Sound s) (layer : Layer) : Sound (s.letGoOf layer) := by
  unfold LayerStack.letGoOf
  split
  · rename_i hmem
    have hcount : 0 < s.openLayers.count layer := List.count_pos_iff.mpr hmem
    constructor
    · exact h.nodup
    · exact h.keys
    · exact List.erase_sublist.trans h.ordered
    · intro other
      have htold := h.told other
      simp only [List.count_append, List.count_erase, List.count_singleton]
      by_cases heq : layer = other
      · subst heq
        simp only [beq_self_eq_true, if_true]
        omega
      · simp only [beq_iff_eq, heq, if_false]
        omega
    · intro other
      have hcloses := h.closes other
      simp only [List.count_erase]
      omega
    · intro other i hclose hthere
      apply h.held other i hclose
      rcases hthere with hstack | hcalls
      · exact .inl (List.mem_of_mem_erase hstack)
      · exact .inr hcalls
  · exact h

theorem Sound.letGoOf_notMem (h : Sound s) (layer : Layer) :
    layer ∉ (s.letGoOf layer).openLayers := by
  unfold LayerStack.letGoOf
  split
  · exact h.stack_nodup.not_mem_erase
  · assumption

theorem letGoOf_calls (layer : Layer) : (s.letGoOf layer).calls = s.calls := by
  unfold LayerStack.letGoOf
  split
  · rfl
  · rfl

theorem letGoOf_holds (layer : Layer) : (s.letGoOf layer).holds = s.holds := by
  unfold LayerStack.letGoOf
  split
  · rfl
  · rfl

theorem Sound.settle (h : Sound s) (hidle : s.calls = []) {i : Nat} {hold : Hold}
    (hhold : s.holds[i]? = some hold) : Sound (s.settle i hold) := by
  have hlet := h.letGoOf hold.held
  refine ⟨hlet.nodup, hlet.keys, hlet.ordered, hlet.told, hlet.closes, ?_⟩
  intro layer j hclose hthere
  obtain ⟨hold', hget, hunsettled, hheld⟩ := hlet.held layer j hclose hthere
  rw [letGoOf_holds] at hget
  have hstack : layer ∈ (s.letGoOf hold.held).openLayers := by
    rcases hthere with hstack | hcalls
    · exact hstack
    · have hnone : Call.close layer ∈ (s.letGoOf hold.held).calls := hcalls
      rw [letGoOf_calls, hidle] at hnone
      cases hnone
  have hne : i ≠ j := by
    rintro rfl
    obtain rfl : hold = hold' := Option.some.inj (hhold.symm.trans hget)
    exact h.letGoOf_notMem hold.held (hheld ▸ hstack)
  exact ⟨hold', (List.getElem?_set_ne hne).trans hget, hunsettled, hheld⟩

theorem Sound.closeHeld (h : Sound s) {i : Nat} {hold : Hold} (hhold : s.holds[i]? = some hold)
    (hunsettled : hold.settled = false) (hgone : hold.held ∉ s.openLayers)
    (hclosed : .close hold.held ∉ s.calls) : Sound (s.closeHeld i hold) := by
  unfold LayerStack.closeHeld
  split
  · apply h.push
    · rintro j ⟨⟩
      have hlength : i < s.holds.length := (List.getElem?_eq_some_iff.mp hhold).1
      exact ⟨_, List.getElem?_set_self hlength, hunsettled, rfl⟩
    · intro layer j hclose hthere hold' hget
      have hne : i ≠ j := by
        rintro rfl
        obtain ⟨other, hother, -, rfl⟩ := h.held layer i hclose hthere
        obtain rfl : hold = other := Option.some.inj (hhold.symm.trans hother)
        rcases hthere with hstack | hcalls
        · exact hgone hstack
        · exact hclosed hcalls
      exact (List.getElem?_set_ne hne).trans hget
  · exact h

theorem Sound.runClose (h : Sound s) {layer : Layer} {rest : List Call}
    (hcalls : s.calls = .close layer :: rest) :
    Sound (({ s with calls := rest, closed := s.closed ++ [layer] }).runClose layer) := by
  have hpopped : Sound { s with calls := rest, closed := s.closed ++ [layer] } := by
    refine ⟨h.nodup, h.keys, h.ordered, ?_, ?_, ?_⟩
    · intro other
      simpa [hcalls] using h.told other
    · intro other
      have hcloses := h.closes other
      rw [hcalls, List.count_cons] at hcloses
      simp only [List.count_append, List.count_singleton]
      by_cases heq : layer = other
      · subst heq
        simp only [beq_self_eq_true, if_true] at hcloses ⊢
        omega
      · simp only [beq_iff_eq, Call.close.injEq, heq, if_false] at hcloses ⊢
        omega
    · intro other i hclose hthere
      apply h.held other i hclose
      rcases hthere with hstack | hrest
      · exact .inl hstack
      · rw [hcalls]
        exact .inr (List.mem_cons_of_mem _ hrest)
  have hcount := h.closes layer
  have hlimit := h.opened_count_le layer
  rw [hcalls, List.count_cons_self] at hcount
  have hgone : layer ∉ s.openLayers := List.count_eq_zero.mp (by omega)
  have honce : Call.close layer ∉ rest := List.count_eq_zero.mp (by omega)
  unfold LayerStack.runClose
  cases hclose : layer.close with
  | overlay leaves =>
      refine ⟨hpopped.nodup, hpopped.keys, hpopped.ordered, ?_, ?_, ?_⟩
      · intro other
        have htold := hpopped.told other
        have hnone : (List.replicate leaves (Call.leave layer)).count (.left other) = 0 := by
          simp [List.count_replicate]
        simp only [List.count_append, hnone, Nat.zero_add]
        exact htold
      · intro other
        have hcloses := hpopped.closes other
        have hnone : (List.replicate leaves (Call.leave layer)).count (.close other) = 0 := by
          simp [List.count_replicate]
        simp only [List.count_append, hnone, Nat.zero_add] at hcloses ⊢
        exact hcloses
      · intro other i hother hthere
        apply hpopped.held other i hother
        simpa using hthere
  | holdOpen i =>
      have hcall : Call.close layer ∈ s.calls := hcalls ▸ List.mem_cons_self
      obtain ⟨hold, hhold, hunsettled, rfl⟩ := h.held layer i hclose (.inr hcall)
      simp only [hhold]
      exact hpopped.closeHeld hhold hunsettled hgone honce

theorem Sound.runCall (h : Sound s) {next : Call} {rest : List Call}
    (hcalls : s.calls = next :: rest) : Sound (({ s with calls := rest }).runCall next) := by
  cases next with
  | close layer => exact h.runClose hcalls
  | leave layer =>
      apply Sound.leaveLayer
      refine ⟨h.nodup, h.keys, h.ordered, ?_, ?_, ?_⟩
      · intro other
        simpa [hcalls] using h.told other
      · intro other
        simpa [hcalls] using h.closes other
      · intro other i hclose hthere
        apply h.held other i hclose
        simpa [hcalls] using hthere
  | left layer =>
      refine ⟨h.nodup, h.keys, h.ordered, ?_, ?_, ?_⟩
      · intro other
        have htold := h.told other
        rw [hcalls, List.count_cons] at htold
        simp only [LayerStack.runCall, List.count_append, List.count_singleton]
        by_cases heq : layer = other
        · subst heq
          simp only [beq_self_eq_true, if_true] at htold ⊢
          omega
        · simp only [beq_iff_eq, Call.left.injEq, heq, if_false] at htold ⊢
          omega
      · intro other
        simpa [hcalls, LayerStack.runCall] using h.closes other
      · intro other i hclose hthere
        apply h.held other i hclose
        simpa [hcalls, LayerStack.runCall] using hthere

theorem leaveLayer_top {below : List Layer} {top : Layer}
    (hstack : s.openLayers = below ++ [top]) (hbelow : top ∉ below) :
    s.leaveLayer top = { s with openLayers := below, calls := .left top :: s.calls } := by
  have hdepth : s.openLayers.idxOf top = below.length := by
    rw [hstack, List.idxOf_append_of_notMem hbelow, List.idxOf_cons_self, Nat.add_zero]
  have htop : top ∈ s.openLayers := by
    rw [hstack]
    exact List.mem_append_right below List.mem_cons_self
  rw [LayerStack.leaveLayer, if_pos htop, hdepth, hstack, List.take_left, List.drop_left]
  simp [leavingCalls]

theorem Sound.closeTopLayer (h : Sound s) : Sound s.closeTopLayer := by
  unfold LayerStack.closeTopLayer
  cases htop : s.openLayers.getLast? with
  | none => exact h
  | some top =>
      dsimp only
      split
      · exact h
      · rename_i hopen
        obtain ⟨below, hstack⟩ := List.getLast?_eq_some_iff.mp htop
        have hnodup := h.stack_nodup
        have hbelow : top ∉ below := by
          rw [hstack, List.nodup_append] at hnodup
          intro hmem
          exact hnodup.2.2 top hmem top List.mem_cons_self rfl
        rw [leaveLayer_top (s := { s with calls := .close top :: s.calls }) hstack hbelow]
        constructor
        · exact h.nodup
        · exact h.keys
        · have hsublist : below.Sublist s.openLayers := by
            rw [hstack]
            exact List.sublist_append_left below [top]
          exact hsublist.trans h.ordered
        · intro other
          have htold := h.told other
          rw [hstack, List.count_append, List.count_singleton] at htold
          simp only [List.count_cons]
          by_cases heq : top = other
          · subst heq
            simp only [beq_self_eq_true, if_true] at htold ⊢
            simp only [beq_iff_eq, reduceCtorEq, if_false]
            omega
          · simp only [beq_iff_eq, Call.left.injEq, reduceCtorEq, heq, if_false] at htold ⊢
            omega
        · intro other
          have hcloses := h.closes other
          rw [hstack, List.count_append, List.count_singleton] at hcloses
          simp only [List.count_cons]
          by_cases heq : top = other
          · subst heq
            simp only [beq_self_eq_true, if_true] at hcloses ⊢
            simp only [beq_iff_eq, reduceCtorEq, if_false]
            omega
          · simp only [beq_iff_eq, Call.close.injEq, reduceCtorEq, heq, if_false] at hcloses ⊢
            omega
        · intro other i hclose hthere
          have hne : other ≠ top := by
            rintro rfl
            simp [Layer.heldOpen, hclose] at hopen
          apply h.held other i hclose
          rw [hstack]
          simpa [hne] using hthere

theorem Sound.operate (h : Sound s) (hidle : s.calls = []) {a : LayerAct} {t : LayerStack}
    (hact : operate s a = some t) : Sound t := by
  cases a with
  | holdLayer id leaves =>
      obtain rfl := Option.some.inj hact
      have hpush : Sound { s.push (s.opens id (.overlay leaves)) with holds := s.holds } :=
        h.push (by rintro i ⟨⟩) fun _ _ _ _ _ hhold => hhold
      exact hpush
  | leave layer =>
      obtain ⟨-, rfl⟩ := Option.ite_some_none_eq_some.mp hact
      exact h.leaveLayer layer
  | closeTopLayer =>
      obtain rfl := Option.some.inj hact
      exact h.closeTopLayer
  | dropLayersFrom depth =>
      obtain rfl := Option.some.inj hact
      exact h.dropLayersFrom depth
  | holdOpenWhile id =>
      obtain rfl := Option.some.inj hact
      exact h.holdOpenWhile id
  | settle i =>
      obtain ⟨hold, hhold, hsettle⟩ := Option.bind_eq_some_iff.mp hact
      obtain ⟨-, hsettled⟩ := Option.ite_none_left_eq_some.mp hsettle
      obtain rfl := Option.some.inj hsettled
      exact h.settle hidle hhold
  | call => cases hact

theorem sound_of_reachable (hs : layers.Reachable s) : Sound s := by
  induction hs with
  | initial hempty =>
      subst hempty
      refine ⟨List.nodup_nil, ?_, .refl _, fun _ => rfl, fun _ => Nat.le_refl _, ?_⟩
      · rintro layer ⟨⟩
      · rintro layer i - (hstack | hcalls)
        · cases hstack
        · cases hcalls
  | @step s t a hs hstep h =>
      have hact : act s a = some t := hstep
      cases hcalls : s.calls with
      | nil =>
          rw [act, hcalls] at hact
          exact h.operate hcalls hact
      | cons next rest =>
          rw [act, hcalls] at hact
          obtain ⟨-, rfl⟩ := Option.ite_some_none_eq_some.mp hact
          exact h.runCall hcalls

end Steps

section Returns

/-- What a call may still cause: a close callback its leaves, or the layer that
it puts on the stack again. -/
def callCost : Call → Nat
  | .close layer =>
      match layer.close with
      | .overlay leaves => leaves + 1
      | .holdOpen _ => 2
  | .leave _ => 1
  | .left _ => 1

/-- The calls that closing the layer may make. -/
def layerCost (layer : Layer) : Nat :=
  match layer.close with
  | .overlay leaves => leaves + 2
  | .holdOpen _ => 1

/-- The calls that what is open and under way may make. -/
def pendingCost (s : LayerStack) : Nat :=
  (s.openLayers.map layerCost).sum + (s.calls.map callCost).sum

variable {s : LayerStack}

theorem cost_leavingCalls (layer leaving : Layer) :
    ((leavingCalls layer leaving).map callCost).sum ≤ layerCost leaving := by
  unfold leavingCalls
  split
  · rename_i hopen
    cases hclose : leaving.close with
    | overlay leaves => simp [callCost, layerCost, hclose]
    | holdOpen i => simp [Layer.heldOpen, hclose] at hopen
  · cases hclose : leaving.close with
    | overlay leaves => simp [callCost, layerCost, hclose]
    | holdOpen i => simp [callCost, layerCost, hclose]

theorem cost_flatMap (layer : Layer) (leaving : List Layer) :
    ((leaving.flatMap (leavingCalls layer)).map callCost).sum ≤
      (leaving.map layerCost).sum := by
  induction leaving with
  | nil => exact Nat.le_refl _
  | cons first rest ih =>
      have hfirst := cost_leavingCalls layer first
      simp only [List.flatMap_cons, List.map_append, List.sum_append, List.map_cons,
        List.sum_cons]
      omega

theorem pendingCost_leaveLayer (layer : Layer) :
    pendingCost (s.leaveLayer layer) ≤ pendingCost s := by
  unfold LayerStack.leaveLayer
  split
  · have hcost := cost_flatMap layer (s.openLayers.drop (s.openLayers.idxOf layer)).reverse
    have hsplice : (s.openLayers.map layerCost).sum =
        ((s.openLayers.take (s.openLayers.idxOf layer)).map layerCost).sum +
          ((s.openLayers.drop (s.openLayers.idxOf layer)).map layerCost).sum := by
      rw [← List.sum_append, ← List.map_append, List.take_append_drop]
    rw [List.map_reverse, List.sum_reverse] at hcost
    simp only [pendingCost, List.map_append, List.sum_append]
    omega
  · exact Nat.le_refl _

theorem pendingCost_closeHeld (i : Nat) (hold : Hold) :
    pendingCost (s.closeHeld i hold) ≤ pendingCost s + 1 := by
  unfold LayerStack.closeHeld
  split
  · simp only [pendingCost, LayerStack.push, opens, List.map_append, List.map_cons, List.map_nil,
      List.sum_append, List.sum_cons, List.sum_nil, layerCost]
    omega
  · omega

theorem pendingCost_runClose (layer : Layer) :
    pendingCost (s.runClose layer) + 1 ≤ pendingCost s + callCost (.close layer) := by
  unfold LayerStack.runClose
  cases hclose : layer.close with
  | overlay leaves =>
      have hleaves : ((List.replicate leaves (Call.leave layer)).map callCost).sum = leaves := by
        simp [callCost]
      simp only [pendingCost, callCost, hclose, List.map_append, List.sum_append, hleaves]
      omega
  | holdOpen i =>
      simp only [callCost, hclose]
      cases hhold : s.holds[i]? with
      | none => exact Nat.add_le_add_left (by omega) _
      | some hold =>
          have hcost := pendingCost_closeHeld (s := s) i hold
          dsimp only
          omega

theorem pendingCost_runCall {next : Call} {rest : List Call} (hcalls : s.calls = next :: rest) :
    pendingCost (({ s with calls := rest }).runCall next) < pendingCost s := by
  have hpending : pendingCost s = pendingCost { s with calls := rest } + callCost next := by
    simp only [pendingCost, hcalls, List.map_cons, List.sum_cons]
    omega
  rw [hpending]
  cases next with
  | close layer => exact pendingCost_runClose (s := { s with calls := rest, closed := _ }) layer
  | leave layer =>
      have hleave := pendingCost_leaveLayer (s := { s with calls := rest }) layer
      exact Nat.lt_succ_of_le hleave
  | left layer => exact Nat.lt_succ_self _

theorem exists_idle (s : LayerStack) : ∃ t, layers.Reaches s t ∧ t.calls = [] := by
  induction hcost : pendingCost s using Nat.strongRecOn generalizing s with
  | ind cost ih =>
      cases hcalls : s.calls with
      | nil => exact ⟨s, .refl, hcalls⟩
      | cons next rest =>
          have hstep : layers.step s .call (({ s with calls := rest }).runCall next) := by
            change act s .call = _
            rw [act, hcalls]
            rfl
          have hless := pendingCost_runCall hcalls
          obtain ⟨t, ht, hidle⟩ := ih _ (hcost ▸ hless) _ rfl
          exact ⟨t, .head ⟨.call, hstep⟩ ht, hidle⟩

end Returns

/-- What every state of the stack keeps. -/
structure LeaveOnce (s : LayerStack) : Prop where
  /-- Each layer is there at most once, in the order of opening. -/
  ordered : s.openLayers.Sublist s.opened
  once : s.opened.Nodup
  closedOnce : ∀ layer, s.closed.count layer ≤ 1
  /-- When an operation is over, history was told of just the layers that are off
  the stack and were not dropped, of each once. -/
  told : s.calls = [] → ∀ layer ∈ s.opened,
    s.left.count layer = if layer ∈ s.openLayers ∨ layer ∈ s.dropped then 0 else 1
  settled : ∀ layer ∈ s.openLayers, ∀ i, layer.close = .holdOpen i →
    ∃ hold, s.holds[i]? = some hold ∧ hold.settled = false

theorem Sound.leaveOnce {s : LayerStack} (h : Sound s) : LeaveOnce s := by
  refine ⟨h.ordered, h.nodup, ?_, ?_, ?_⟩
  · intro layer
    have hcloses := h.closes layer
    have hopened := h.opened_count_le layer
    omega
  · intro hidle layer hlayer
    have htold := h.told layer
    have hopened : s.opened.count layer = 1 := List.count_eq_one_of_mem h.nodup hlayer
    rw [hidle, hopened, List.count_nil] at htold
    split
    · rename_i hthere
      rcases hthere with hstack | hdropped
      · have hpos : 0 < s.openLayers.count layer := List.count_pos_iff.mpr hstack
        omega
      · have hpos : 0 < s.dropped.count layer := List.count_pos_iff.mpr hdropped
        omega
    · rename_i hthere
      obtain ⟨hstack, hdropped⟩ := not_or.mp hthere
      rw [List.count_eq_zero.mpr hstack, List.count_eq_zero.mpr hdropped] at htold
      omega
  · intro layer hlayer i hclose
    obtain ⟨hold, hhold, hunsettled, -⟩ := h.held layer i hclose (.inl hlayer)
    exact ⟨hold, hhold, hunsettled⟩

theorem closeTopLayer_of_heldOpen {s : LayerStack} {top : Layer}
    (htop : s.openLayers.getLast? = some top) (hheld : top.heldOpen = true) :
    s.closeTopLayer = s := by
  simp [LayerStack.closeTopLayer, htop, hheld]

/-- Whatever is opened, left, dropped and held open, layers leave once. -/
theorem layers_leave_once {s : LayerStack} (hs : layers.Reachable s) :
    LeaveOnce s ∧ (∃ t, layers.Reaches s t ∧ t.calls = []) ∧
      ∀ top, s.openLayers.getLast? = some top → top.heldOpen = true →
        ∀ t, layers.step s .closeTopLayer t → t = s := by
  refine ⟨(sound_of_reachable hs).leaveOnce, exists_idle s, ?_⟩
  intro top htop hheld t hstep
  have hact : act s .closeTopLayer = some t := hstep
  cases hcalls : s.calls with
  | nil =>
      rw [act, hcalls] at hact
      obtain rfl := Option.some.inj hact
      exact closeTopLayer_of_heldOpen htop hheld
  | cons next rest =>
      rw [act, hcalls] at hact
      cases hact

/-- A sheet that is saved while Escape and Back are pressed: the hold is taken
again once, and gone when the save has settled. -/
def savedSheet : List LayerAct :=
  [.holdLayer "sheet" 1, .holdOpenWhile "save", .closeTopLayer, .dropLayersFrom 1, .call,
    .settle 0, .closeTopLayer, .call, .call, .call]

theorem layers_leave_once_saved :
    LeaveOnce (lastOf .empty (follow act .empty savedSheet)) ∧
      (follow act .empty savedSheet).length = 10 := by
  have hempty : layers.Reachable .empty := .initial rfl
  exact ⟨(layers_leave_once (reachable_follow hempty savedSheet)).1, by decide⟩

end Songmaker.Layers.LayersLeaveOnce
