import SolidScene.Node

/-!
Traversal of a scene. A visitor says what it does at a node and at a value; to
each it is given the walk through what lies below, to be called before or after
its own work, or not at all. The walk through a node goes to the parameter of a
transform, then to the values of its properties in order, then to its children;
the walk through a value goes to the items of a vector. A visitor that leaves
one of the two unsaid simply walks on there.

Statistics are gathered by a visitor. A node that occurs several times counts at every
occurrence; a node without children is a leaf, also when it is a container. The root has
depth one.
-/

namespace SolidScene

structure Visitor (State : Type) where
  onNode : Node → (State → State) → State → State := fun _ walk => walk
  onValue : Value → (State → State) → State → State := fun _ walk => walk

namespace Visitor

variable {State : Type}

mutual

def visitValue (visitor : Visitor State) : Value → State → State
  | .number n => visitor.onValue (.number n) id
  | .bool flag => visitor.onValue (.bool flag) id
  | .text content => visitor.onValue (.text content) id
  | .vector items => visitor.onValue (.vector items) (visitValues visitor items)

def visitValues (visitor : Visitor State) : List Value → State → State
  | [], state => state
  | first :: rest, state => visitValues visitor rest (visitValue visitor first state)

end

def ownValues (kind : NodeKind) (properties : Properties) : List Value :=
  kind.parameter?.toList ++ properties.values

mutual

def visitNode (visitor : Visitor State) : Node → State → State
  | ⟨kind, properties, children, modifier⟩ =>
    visitor.onNode ⟨kind, properties, children, modifier⟩ fun state =>
      visitNodes visitor children (visitor.visitValues (ownValues kind properties) state)

def visitNodes (visitor : Visitor State) : List Node → State → State
  | [], state => state
  | first :: rest, state => visitNodes visitor rest (visitNode visitor first state)

end

end Visitor

inductive Sighting where
  | node (depth : Nat) (name : String)
  | value (depth : Nat) (value : Value)

/-- A trace under way: the depth reached and the sightings, latest first. -/
structure Trace where
  depth : Nat
  latest : List Sighting

namespace Trace

def note (trace : Trace) (sighting : Sighting) : Trace :=
  { trace with latest := sighting :: trace.latest }

/-- Notes every node and, if asked to, every value. It walks on below a node one
level deeper, unless the node is pruned, and always below a value. -/
def visitor (values : Bool) (pruned : Node → Bool) : Visitor Trace where
  onNode node walk trace :=
    let noted := trace.note (.node trace.depth node.name)
    if pruned node then noted
    else
      let below := walk { noted with depth := noted.depth + 1 }
      { below with depth := below.depth - 1 }
  onValue value walk trace :=
    walk (if values then trace.note (.value trace.depth value) else trace)

def ofNode (values : Bool) (pruned : Node → Bool) (root : Node) : List Sighting :=
  ((visitor values pruned).visitNode root ⟨0, []⟩).latest.reverse

end Trace

def topValuesVisitor : Visitor (List Value) where
  onValue value _ latest := value :: latest

def topValues (root : Node) : List Value :=
  (topValuesVisitor.visitNode root []).reverse

def postorderVisitor : Visitor (List String) where
  onNode node walk latest := node.name :: walk latest

def postorder (root : Node) : List String :=
  (postorderVisitor.visitNode root []).reverse

structure Stats where
  nodes : Nat := 0
  leaves : Nat := 0
  maxDepth : Nat := 0
  disabled : Nat := 0
  showOnly : Nat := 0
  debug : Nat := 0
  deriving DecidableEq

/-- Statistics under way, with the depth of the node being visited. -/
structure Tally extends Stats where
  depth : Nat := 0
  deriving DecidableEq

namespace Tally

def countModifier (tally : Tally) : Option Modifier → Tally
  | none => tally
  | some .disable => { tally with disabled := tally.disabled + 1 }
  | some .showOnly => { tally with showOnly := tally.showOnly + 1 }
  | some .debug => { tally with debug := tally.debug + 1 }

def enter (tally : Tally) (node : Node) : Tally :=
  let depth := tally.depth + 1
  { tally with
    nodes := tally.nodes + 1
    leaves := if node.isLeaf then tally.leaves + 1 else tally.leaves
    maxDepth := max tally.maxDepth depth
    depth := depth }.countModifier node.modifier?

def leave (tally : Tally) : Tally :=
  { tally with depth := tally.depth - 1 }

def visitor : Visitor Tally where
  onNode node walk tally := (walk (tally.enter node)).leave

end Tally

def Stats.ofNode (root : Node) : Stats :=
  (Tally.visitor.visitNode root {}).toStats

end SolidScene
