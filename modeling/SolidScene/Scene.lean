import SolidScene.Node

/-!
Scene programs. A program makes nodes one after the other, each from nodes made
before it. Beside every node the scene keeps its origin: the step that made its
child list, and the origins of the children in that list. Deriving and copying a
node keep the list of the receiver, taking a child brings back the list that the
child was made with, and every other command makes a list of its own. Two nodes
share their children when one step made both lists.
-/

namespace SolidScene

/-- The step that made a child list, with the origins of the children in it. -/
inductive Origin where
  | made (step : Nat) (children : List Origin)

def Origin.step : Origin → Nat
  | .made step _ => step

def Origin.children : Origin → List Origin
  | .made _ children => children

structure Built where
  node : Node
  origin : Origin

namespace Built

/-- Whether two nodes hold one and the same child list. Where both lists are
empty there is nothing to share, and no answer. -/
def sharesChildren? (left right : Built) : Option Bool :=
  if left.node.isLeaf && right.node.isLeaf then none
  else some (left.origin.step == right.origin.step)

def child? (built : Built) (index : Nat) : Option Built :=
  match built.node.children[index]?, built.origin.children[index]? with
  | some node, some origin => some ⟨node, origin⟩
  | _, _ => none

end Built

/-- A step of a scene program. Numbers name the nodes of earlier steps; a slot
may be left empty. -/
inductive Command where
  | primitive (primitive : Primitive)
  | container (operation : Container) (slots : List (Option Nat))
  | transform (operation : Transform) (parameter : Value) (slots : List (Option Nat))
  | raw (command : String)
  | rawBlock (command : String) (slots : List (Option Nat))
  | linearExtrude (receiver : Nat) (height : Value) (center : Option Bool)
  | derive (receiver : Nat) (derivation : Node.Derivation)
  | copy (receiver : Nat)
  | child (receiver : Nat) (index : Nat)

structure Scene where
  built : Array Built

namespace Scene

def empty : Scene := ⟨#[]⟩

def built? (scene : Scene) (step : Nat) : Option Built :=
  scene.built[step]?

def lookUp? (scene : Scene) : List (Option Nat) → Option (List (Option Built))
  | [] => some []
  | none :: rest => (lookUp? scene rest).map (none :: ·)
  | some step :: rest =>
    match scene.built? step, lookUp? scene rest with
    | some first, some others => some (some first :: others)
    | _, _ => none

/-- A node around what stands in the slots, with a child list made in this step. -/
def around (scene : Scene) (make : List (Option Node) → Node) (slots : List (Option Built)) :
    Built :=
  ⟨make (slots.map (·.map Built.node)),
    .made scene.built.size (slots.filterMap (·.map Built.origin))⟩

def evaluate? (scene : Scene) : Command → Option Built
  | .primitive primitive => some ⟨primitive.node, .made scene.built.size []⟩
  | .container operation slots =>
    (scene.lookUp? slots).map (scene.around (Node.container operation))
  | .transform operation parameter slots =>
    (scene.lookUp? slots).map (scene.around (Node.transform operation parameter))
  | .raw command => some ⟨Node.raw command, .made scene.built.size []⟩
  | .rawBlock command slots =>
    (scene.lookUp? slots).map (scene.around (Node.rawBlock command))
  | .linearExtrude receiver height center =>
    (scene.built? receiver).map fun built =>
      ⟨built.node.linearExtrude height center, .made scene.built.size [built.origin]⟩
  | .derive receiver derivation =>
    (scene.built? receiver).map fun built => { built with node := built.node.derive derivation }
  | .copy receiver => scene.built? receiver
  | .child receiver index => (scene.built? receiver).bind (·.child? index)

def perform? (scene : Scene) (command : Command) : Option Scene :=
  (scene.evaluate? command).map fun built => ⟨scene.built.push built⟩

def run? (scene : Scene) : List Command → Option Scene
  | [] => some scene
  | first :: rest => (scene.perform? first).bind fun next => next.run? rest

end Scene

end SolidScene
