import Songmaker.Foundation.TransitionSystem

/-!
The one stack of open layers. An operation runs to its end before the next one
starts; what it still has to call is listed, so that a close callback may call
back into the stack.
-/

namespace Songmaker.Layers

open Songmaker.Foundation

/-- What the close callback of a layer does. -/
inductive Close where
  /-- The callback of an overlay, which may call its own leave again and again. -/
  | overlay (leaves : Nat)
  /-- The callback of a layer that a `holdOpenWhile` made. -/
  | holdOpen (hold : Nat)
deriving DecidableEq

/-- A layer object; no two have the same `key`. -/
structure Layer where
  key : Nat
  id : String
  close : Close
deriving DecidableEq

/-- `layersHeldOpen.has`. -/
def Layer.heldOpen (layer : Layer) : Bool :=
  match layer.close with
  | .overlay _ => false
  | .holdOpen _ => true

/-- A call that the operation under way has still to make. -/
inductive Call where
  | close (layer : Layer)
  | leave (layer : Layer)
  | left (layer : Layer)
deriving DecidableEq

/-- One `holdOpenWhile`. -/
structure Hold where
  id : String
  guarded : Option Layer
  held : Layer
  settled : Bool
deriving DecidableEq

/-- The stack of open layers, with the closes and the held operations under way. -/
structure LayerStack where
  openLayers : List Layer
  calls : List Call
  holds : List Hold
  /-- All layers that were ever opened, in their order. -/
  opened : List Layer
  /-- The layers whose close callback ran. -/
  closed : List Layer
  /-- The layers that `dropLayersFrom` took off the stack. -/
  dropped : List Layer
  /-- The layers that history was told of by `left`. -/
  left : List Layer
deriving DecidableEq

namespace LayerStack

def empty : LayerStack := ⟨[], [], [], [], [], [], []⟩

def opens (s : LayerStack) (id : String) (close : Close) : Layer :=
  ⟨s.opened.length, id, close⟩

def push (s : LayerStack) (layer : Layer) : LayerStack :=
  { s with openLayers := s.openLayers ++ [layer], opened := s.opened ++ [layer] }

/-- The calls of `leaveLayer` for one layer that goes. -/
def leavingCalls (layer leaving : Layer) : List Call :=
  if leaving ≠ layer && !leaving.heldOpen then [.close leaving, .left leaving]
  else [.left leaving]

/-- The layer is taken off the stack if it is still there. -/
def leaveLayer (s : LayerStack) (layer : Layer) : LayerStack :=
  if layer ∈ s.openLayers then
    { s with
      openLayers := s.openLayers.take (s.openLayers.idxOf layer)
      calls := (s.openLayers.drop (s.openLayers.idxOf layer)).reverse.flatMap
        (leavingCalls layer) ++ s.calls }
  else s

/-- The newest layer is closed; its leave comes as a call of its own. -/
def closeTopLayer (s : LayerStack) : LayerStack :=
  match s.openLayers.getLast? with
  | none => s
  | some top =>
      if top.heldOpen then s else ({ s with calls := .close top :: s.calls }).leaveLayer top

/-- Where `splice` starts. -/
def spliceStart (length : Nat) (depth : Int) : Nat :=
  if depth < 0 then (length + depth).toNat else depth.toNat

/-- The layers above the depth are taken off the stack, without being closed. -/
def dropLayersFrom (s : LayerStack) (depth : Int) : LayerStack :=
  { s with
    openLayers := s.openLayers.take (spliceStart s.openLayers.length depth)
    calls := (s.openLayers.drop (spliceStart s.openLayers.length depth)).reverse.map .close ++
      s.calls
    dropped := s.dropped ++ s.openLayers.drop (spliceStart s.openLayers.length depth) }

/-- The synchronous part of `holdOpenWhile`. -/
def holdOpenWhile (s : LayerStack) (id : String) : LayerStack :=
  { s.push (s.opens id (.holdOpen s.holds.length)) with
    holds := s.holds ++
      [⟨id, s.openLayers.getLast?, s.opens id (.holdOpen s.holds.length), false⟩] }

/-- `letGoOf`. -/
def letGoOf (s : LayerStack) (layer : Layer) : LayerStack :=
  if layer ∈ s.openLayers then
    { s with openLayers := s.openLayers.erase layer, left := s.left ++ [layer] }
  else s

/-- The `finally` of a `holdOpenWhile`. -/
def settle (s : LayerStack) (i : Nat) (hold : Hold) : LayerStack :=
  { s.letGoOf hold.held with holds := s.holds.set i { hold with settled := true } }

/-- The close callback that `holdOpen` gives its layers. -/
def closeHeld (s : LayerStack) (i : Nat) (hold : Hold) : LayerStack :=
  if hold.guarded.any fun guarded => decide (guarded ∈ s.openLayers) then
    { s.push (s.opens hold.id (.holdOpen i)) with
      holds := s.holds.set i { hold with held := s.opens hold.id (.holdOpen i) } }
  else s

/-- The close callback of a layer. -/
def runClose (s : LayerStack) (layer : Layer) : LayerStack :=
  match layer.close with
  | .overlay leaves => { s with calls := List.replicate leaves (.leave layer) ++ s.calls }
  | .holdOpen i =>
      match s.holds[i]? with
      | none => s
      | some hold => s.closeHeld i hold

/-- The next call of the operation under way. -/
def runCall (s : LayerStack) : Call → LayerStack
  | .close layer => ({ s with closed := s.closed ++ [layer] }).runClose layer
  | .leave layer => s.leaveLayer layer
  | .left layer => { s with left := s.left ++ [layer] }

end LayerStack

/-- The calls into the module, and the end of what they wait for. -/
inductive LayerAct where
  | holdLayer (id : String) (leaves : Nat)
  /-- The leave that `holdLayer` returned. -/
  | leave (layer : Layer)
  | closeTopLayer
  | dropLayersFrom (depth : Int)
  | holdOpenWhile (id : String)
  | settle (hold : Nat)
  /-- The next call of the operation under way. -/
  | call
deriving DecidableEq

open LayerStack in
/-- An operation that starts where no other is under way. -/
def operate (s : LayerStack) : LayerAct → Option LayerStack
  | .holdLayer id leaves => some (s.push (s.opens id (.overlay leaves)))
  | .leave layer =>
      if layer ∈ s.opened ∧ layer.heldOpen = false then some (s.leaveLayer layer) else none
  | .closeTopLayer => some s.closeTopLayer
  | .dropLayersFrom depth => some (s.dropLayersFrom depth)
  | .holdOpenWhile id => some (s.holdOpenWhile id)
  | .settle i =>
      (s.holds[i]?).bind fun hold => if hold.settled then none else some (s.settle i hold)
  | .call => none

def act (s : LayerStack) (a : LayerAct) : Option LayerStack :=
  match s.calls with
  | [] => operate s a
  | next :: rest => if a = .call then some (({ s with calls := rest }).runCall next) else none

def layers : TransitionSystem LayerStack LayerAct :=
  .ofAct (fun s => s = .empty) act

end Songmaker.Layers
