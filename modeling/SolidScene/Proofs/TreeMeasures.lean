import SolidScene.Proofs.ConstructibleNodes
import SolidScene.Traversal

/-!
Visitors that count their way down. The layers of a tree are its nodes with their
depths, each before those below it. A visitor that notes a node at its depth, goes
one level deeper for the walk below it and comes back up passes over the layers
from first to last. The statistics of a scene are gathered this way.

Measures of a tree. Statistics taken on the way through a tree are its measures: how
many nodes and leaves there are, how high it is, and how many nodes have each modifier,
a node counted at every occurrence. A visit adds them to whatever was counted before
and ends at the depth it began at. With counters that stop at a limit it gives the
same, unless a count does not fit.
-/

namespace SolidScene

namespace Node

mutual

/-- The nodes of the tree with their depths, given that of the root. -/
def layers (depth : Nat) : Node → List (Nat × Node)
  | ⟨kind, properties, children, modifier⟩ =>
    (depth, ⟨kind, properties, children, modifier⟩) :: layersOfAll (depth + 1) children

def layersOfAll (depth : Nat) : List Node → List (Nat × Node)
  | [] => []
  | first :: rest => layers depth first ++ layersOfAll depth rest

end

theorem layers_eq (node : Node) (depth : Nat) :
    node.layers depth = (depth, node) :: layersOfAll (depth + 1) node.children := by
  cases node
  rw [layers]

mutual

theorem layers_nodes : ∀ (node : Node) (depth : Nat),
    (node.layers depth).map Prod.snd = node.occurrences
  | ⟨kind, properties, children, modifier⟩, depth => by
    rw [layers, occurrences, List.map_cons, layersOfAll_nodes children]

theorem layersOfAll_nodes : ∀ (nodes : List Node) (depth : Nat),
    (layersOfAll depth nodes).map Prod.snd = occurrencesOfAll nodes
  | [], depth => rfl
  | first :: rest, depth => by
    rw [layersOfAll, occurrencesOfAll, List.map_append, layers_nodes first,
      layersOfAll_nodes rest]

end

end Node

namespace Visitor

variable {State : Type} {visitor : Visitor State}

mutual

theorem visitValue_walks
    (walks : ∀ value walk state, visitor.onValue value walk state = walk state) :
    ∀ (value : Value) (state : State), visitor.visitValue value state = state
  | .number n, state => by
    rw [visitValue, walks]
    rfl
  | .bool flag, state => by
    rw [visitValue, walks]
    rfl
  | .text content, state => by
    rw [visitValue, walks]
    rfl
  | .vector items, state => by rw [visitValue, walks, visitValues_walks walks items]

theorem visitValues_walks
    (walks : ∀ value walk state, visitor.onValue value walk state = walk state) :
    ∀ (values : List Value) (state : State), visitor.visitValues values state = state
  | [], state => rfl
  | first :: rest, state => by
    rw [visitValues, visitValue_walks walks first, visitValues_walks walks rest]

end

theorem visitNode_walks
    (walks : ∀ value walk state, visitor.onValue value walk state = walk state) (node : Node) :
    visitor.visitNode node = visitor.onNode node (visitor.visitNodes node.children) := by
  obtain ⟨kind, properties, children, modifier⟩ := node
  have quiet : (fun state => visitor.visitNodes children
      (visitor.visitValues (ownValues kind properties) state)) = visitor.visitNodes children :=
    funext fun state => by rw [visitValues_walks walks]
  funext state
  rw [visitNode, quiet]

/-- A visitor that passes over values, and notes each node at the depth of its
state before the walk goes one level deeper. -/
structure Layered (visitor : Visitor State) (depth : State → Nat)
    (note : State → Nat × Node → State) (deeper higher : State → State) : Prop where
  onValue : ∀ value walk state, visitor.onValue value walk state = walk state
  onNode : ∀ node walk state, visitor.onNode node walk state =
    higher (walk (deeper (note state (depth state, node))))
  depth_note : ∀ state seen, depth (note state seen) = depth state
  depth_deeper : ∀ state, depth (deeper state) = depth state + 1
  note_deeper : ∀ state seen, note (deeper state) seen = deeper (note state seen)
  higher_deeper : ∀ state, higher (deeper state) = state

namespace Layered

variable {depth : State → Nat} {note : State → Nat × Node → State} {deeper higher : State → State}

theorem notes_deeper (layered : visitor.Layered depth note deeper higher)
    (seen : List (Nat × Node)) (state : State) :
    seen.foldl note (deeper state) = deeper (seen.foldl note state) := by
  induction seen generalizing state with
  | nil => rfl
  | cons first rest ih => rw [List.foldl_cons, List.foldl_cons, layered.note_deeper, ih]

theorem depth_notes (layered : visitor.Layered depth note deeper higher)
    (seen : List (Nat × Node)) (state : State) : depth (seen.foldl note state) = depth state := by
  induction seen generalizing state with
  | nil => rfl
  | cons first rest ih => rw [List.foldl_cons, ih, layered.depth_note]

mutual

theorem visitNode_eq (layered : visitor.Layered depth note deeper higher) :
    ∀ (node : Node) (state : State),
      visitor.visitNode node state = (node.layers (depth state)).foldl note state
  | ⟨kind, properties, children, modifier⟩, state => by
    -- the notes below are taken one level deeper, and coming back up undoes just that
    rw [visitNode_walks layered.onValue, layered.onNode, visitNodes_eq layered children,
      layered.notes_deeper, layered.higher_deeper, layered.depth_deeper, layered.depth_note,
      Node.layers, List.foldl_cons]

theorem visitNodes_eq (layered : visitor.Layered depth note deeper higher) :
    ∀ (nodes : List Node) (state : State),
      visitor.visitNodes nodes state = (Node.layersOfAll (depth state) nodes).foldl note state
  | [], state => rfl
  | first :: rest, state => by
    rw [visitNodes, visitNode_eq layered first, visitNodes_eq layered rest, layered.depth_notes,
      Node.layersOfAll, List.foldl_append]

end

end Layered

end Visitor

def rollVisitor : Visitor (Nat × List (Nat × Node)) where
  onNode node walk state :=
    let below := walk (state.1 + 1, (state.1 + 1, node) :: state.2)
    (below.1 - 1, below.2)

/-- The nodes of a scene with their depths, in the order of the traversal. -/
def Node.roll (root : Node) : List (Nat × Node) :=
  (rollVisitor.visitNode root (0, [])).2.reverse

theorem rollVisitor_layered : rollVisitor.Layered (fun state => state.1 + 1)
    (fun state seen => (state.1, seen :: state.2)) (fun state => (state.1 + 1, state.2))
    (fun state => (state.1 - 1, state.2)) where
  onValue _ _ _ := rfl
  onNode _ _ _ := rfl
  depth_note _ _ := rfl
  depth_deeper _ := rfl
  note_deeper _ _ := rfl
  higher_deeper _ := rfl

theorem Node.roll_eq (root : Node) : root.roll = root.layers 1 := by
  have noted : ∀ (seen : List (Nat × Node)) (state : Nat × List (Nat × Node)),
      (seen.foldl (fun state seen => (state.1, seen :: state.2)) state).2 =
        seen.reverse ++ state.2 := by
    intro seen
    induction seen with
    | nil => exact fun _ => rfl
    | cons first rest ih =>
      intro state
      rw [List.foldl_cons, ih, List.reverse_cons, List.append_assoc]
      rfl
  rw [roll, rollVisitor_layered.visitNode_eq, noted, List.append_nil, List.reverse_reverse]

namespace Tally

def note (tally : Tally) (seen : Nat × Node) : Tally :=
  { tally with
    nodes := tally.nodes + 1
    leaves := if seen.2.isLeaf then tally.leaves + 1 else tally.leaves
    maxDepth := max tally.maxDepth seen.1 }.countModifier seen.2.modifier?

def deeper (tally : Tally) : Tally :=
  { tally with depth := tally.depth + 1 }

theorem visitor_layered :
    visitor.Layered (fun tally => tally.depth + 1) note deeper leave where
  onValue _ _ _ := rfl
  onNode node walk tally := by
    obtain ⟨kind, properties, children, modifier⟩ := node
    rcases modifier with _ | _ | _ | _ <;> rfl
  depth_note tally seen := by
    obtain ⟨depth, kind, properties, children, modifier⟩ := seen
    rcases modifier with _ | _ | _ | _ <;> rfl
  depth_deeper _ := rfl
  note_deeper tally seen := by
    obtain ⟨depth, kind, properties, children, modifier⟩ := seen
    rcases modifier with _ | _ | _ | _ <;> rfl
  higher_deeper _ := rfl

theorem notes_eq (seen : List (Nat × Node)) (tally : Tally) :
    seen.foldl note tally =
      { nodes := tally.nodes + (seen.map Prod.snd).length
        leaves := tally.leaves + (seen.map Prod.snd).countP Node.isLeaf
        maxDepth := (seen.map Prod.fst).foldl max tally.maxDepth
        disabled := tally.disabled +
          (seen.map Prod.snd).countP fun node => node.modifier? == some .disable
        showOnly := tally.showOnly +
          (seen.map Prod.snd).countP fun node => node.modifier? == some .showOnly
        debug := tally.debug +
          (seen.map Prod.snd).countP fun node => node.modifier? == some .debug
        depth := tally.depth } := by
  induction seen generalizing tally with
  | nil => rfl
  | cons first rest ih =>
    obtain ⟨depth, node⟩ := first
    rw [List.foldl_cons, ih]
    simp only [List.map_cons, List.foldl_cons, List.length_cons, List.countP_cons]
    rcases modifier : node.modifier? with _ | _ | _ | _ <;>
      cases leaf : node.isLeaf <;>
      simp [note, countModifier, modifier, leaf] <;> omega

end Tally

theorem Stats.ofNode_nodes (root : Node) : (Stats.ofNode root).nodes = (root.layers 1).length := by
  rw [ofNode, Tally.visitor_layered.visitNode_eq, Tally.notes_eq, List.length_map]
  exact Nat.zero_add _

theorem Stats.ofNode_maxDepth (root : Node) :
    ((root.layers 1).map Prod.fst).max? = some (Stats.ofNode root).maxDepth := by
  rw [ofNode, Tally.visitor_layered.visitNode_eq, Tally.notes_eq, Node.layers_eq, List.map_cons,
    List.max?_cons', List.foldl_cons]
  rfl

namespace Node

def size (node : Node) : Nat :=
  node.occurrences.length

def leafCount (node : Node) : Nat :=
  node.occurrences.countP isLeaf

def markCount (node : Node) (modifier : Modifier) : Nat :=
  node.occurrences.countP fun other => other.modifier? == some modifier

mutual

def height : Node → Nat
  | ⟨_, _, children, _⟩ => heightOfAll children + 1

def heightOfAll : List Node → Nat
  | [] => 0
  | first :: rest => max (height first) (heightOfAll rest)

end

mutual

theorem deepest_layers : ∀ (node : Node) (depth deepest : Nat),
    ((node.layers (depth + 1)).map Prod.fst).foldl max deepest = max deepest (depth + node.height)
  | ⟨kind, properties, children, modifier⟩, depth, deepest => by
    rw [layers, List.map_cons, List.foldl_cons, deepest_layersOfAll children, height]
    · omega
    · omega

theorem deepest_layersOfAll : ∀ (nodes : List Node) (depth deepest : Nat), depth ≤ deepest →
    ((layersOfAll (depth + 1) nodes).map Prod.fst).foldl max deepest =
      max deepest (depth + heightOfAll nodes)
  | [], depth, deepest, reached => by
    simp [layersOfAll, heightOfAll, reached]
  | first :: rest, depth, deepest, reached => by
    rw [layersOfAll, List.map_append, List.foldl_append, deepest_layers first,
      deepest_layersOfAll rest, heightOfAll]
    · omega
    · omega

end

theorem height_pos (node : Node) : 1 ≤ node.height := by
  cases node
  rw [height]
  exact Nat.le_add_left 1 _

mutual

theorem height_le_size : ∀ node : Node, node.height ≤ node.size
  | ⟨kind, properties, children, modifier⟩ => by
    rw [height, size, occurrences, List.length_cons]
    exact Nat.succ_le_succ (heightOfAll_le_length children)

theorem heightOfAll_le_length : ∀ nodes : List Node,
    heightOfAll nodes ≤ (occurrencesOfAll nodes).length
  | [] => Nat.le_refl 0
  | first :: rest => by
    have here := height_le_size first
    have later := heightOfAll_le_length rest
    rw [size] at here
    rw [heightOfAll, occurrencesOfAll, List.length_append]
    omega

end

theorem leafCount_pos : ∀ node : Node, 1 ≤ node.leafCount
  | ⟨kind, properties, [], modifier⟩ => by
    simp [leafCount, occurrences, isLeaf]
  | ⟨kind, properties, first :: rest, modifier⟩ => by
    have below := leafCount_pos first
    rw [leafCount] at below
    rw [leafCount, occurrences, occurrencesOfAll, List.countP_cons, List.countP_append]
    omega

theorem leafCount_le_size (node : Node) : node.leafCount ≤ node.size :=
  List.countP_le_length

theorem markCounts_le_size (node : Node) :
    node.markCount .disable + node.markCount .showOnly + node.markCount .debug ≤ node.size := by
  rw [markCount, markCount, markCount, size]
  induction node.occurrences with
  | nil => exact Nat.le_refl 0
  | cons first rest ih =>
    simp only [List.countP_cons, List.length_cons]
    rcases first.modifier? with _ | _ | _ | _ <;> simp <;> omega

end Node

namespace Tally

def withTree (tally : Tally) (node : Node) : Tally :=
  { nodes := tally.nodes + node.size
    leaves := tally.leaves + node.leafCount
    maxDepth := max tally.maxDepth (tally.depth + node.height)
    disabled := tally.disabled + node.markCount .disable
    showOnly := tally.showOnly + node.markCount .showOnly
    debug := tally.debug + node.markCount .debug
    depth := tally.depth }

theorem visitNode_eq (node : Node) (tally : Tally) :
    visitor.visitNode node tally = tally.withTree node := by
  rw [visitor_layered.visitNode_eq, notes_eq, Node.layers_nodes, Node.deepest_layers]
  rfl

def Fits (limit : Nat) (tally : Tally) : Prop :=
  tally.nodes ≤ limit ∧ tally.leaves ≤ limit ∧ tally.maxDepth ≤ limit ∧
    tally.disabled ≤ limit ∧ tally.showOnly ≤ limit ∧ tally.debug ≤ limit ∧ tally.depth ≤ limit

instance (limit : Nat) (tally : Tally) : Decidable (tally.Fits limit) :=
  inferInstanceAs (Decidable (_ ∧ _))

def leave? (tally : Tally) : Option Tally :=
  match tally.depth with
  | 0 => none
  | depth + 1 => some { tally with depth := depth }

/-- Gathers statistics in counters that neither pass the limit nor fall below zero:
there is no result when one would. -/
def guardedVisitor (limit : Nat) : Visitor (Option Tally) where
  onNode node walk tally :=
    (walk ((tally.map (·.enter node)).filter fun entered => entered.Fits limit)).bind leave?

theorem guarded_onNode (limit : Nat) (node : Node) (walk : Option Tally → Option Tally)
    (tally : Option Tally) :
    (guardedVisitor limit).onNode node walk tally =
      (walk ((tally.map (·.enter node)).filter fun entered => entered.Fits limit)).bind leave? :=
  rfl

variable {limit : Nat}

theorem fits_of_visitNode {node : Node} {tally : Tally}
    (fits : (visitor.visitNode node tally).Fits limit) : tally.Fits limit := by
  rw [visitNode_eq] at fits
  simp only [Fits, withTree] at fits ⊢
  omega

theorem depth_enter (tally : Tally) (node : Node) : (tally.enter node).depth = tally.depth + 1 := by
  rw [enter]
  cases node.modifier? with
  | none => rfl
  | some modifier => cases modifier <;> rfl

theorem depth_visitNodes (nodes : List Node) (tally : Tally) :
    (visitor.visitNodes nodes tally).depth = tally.depth := by
  rw [visitor_layered.visitNodes_eq, notes_eq]

/-- What is counted below a node can be left, and fits just when the counts fit after
leaving: the depth that is given back was no more than the greatest one. -/
theorem leave?_below (limit : Nat) (node : Node) (tally : Tally) :
    let below := visitor.visitNodes node.children (tally.enter node)
    visitor.visitNode node tally = below.leave ∧ below.leave? = some below.leave ∧
      (below.Fits limit ↔ below.leave.Fits limit) := by
  intro below
  have left : visitor.visitNode node tally = below.leave := by
    rw [Visitor.visitNode_walks visitor_layered.onValue]
    rfl
  have depth : below.depth = tally.depth + 1 :=
    (depth_visitNodes _ _).trans (tally.depth_enter node)
  refine ⟨left, ?_, ?_⟩
  · obtain ⟨counts, reached⟩ := below
    obtain rfl : reached = tally.depth + 1 := depth
    rfl
  · have deepest : below.depth ≤ below.maxDepth := by
      have counts := congrArg (·.maxDepth) (left.symm.trans (visitNode_eq node tally))
      have positive := node.height_pos
      simp only [leave, withTree] at counts
      omega
    simp only [Fits, leave]
    omega

mutual

theorem guarded_visitNode (limit : Nat) : ∀ (node : Node) (tally : Option Tally),
    (guardedVisitor limit).visitNode node tally =
      (tally.map (visitor.visitNode node)).filter fun after => after.Fits limit
  | ⟨kind, properties, children, modifier⟩, tally => by
    have walked := guarded_visitNodes limit children
      (tally.map fun before => before.enter ⟨kind, properties, children, modifier⟩)
    rw [Visitor.visitNode_walks fun _ _ _ => rfl, guarded_onNode, walked]
    cases tally with
    | none => rfl
    | some tally =>
      have ⟨left, leaves, fits⟩ := leave?_below limit ⟨kind, properties, children, modifier⟩ tally
      simp only [Option.map_some, left, Option.filter_some, ← fits]
      split
      · exact leaves
      · rfl

theorem guarded_visitNodes (limit : Nat) : ∀ (nodes : List Node) (tally : Option Tally),
    (guardedVisitor limit).visitNodes nodes (tally.filter fun before => before.Fits limit) =
      (tally.map (visitor.visitNodes nodes)).filter fun after => after.Fits limit
  | [], tally => by cases tally <;> rfl
  | first :: rest, tally => by
    -- counts that do not fit before a visit do not fit after it
    have sooner : ((tally.filter fun before => before.Fits limit).map
        (visitor.visitNode first)).filter (fun after => after.Fits limit) =
        (tally.map (visitor.visitNode first)).filter fun after => after.Fits limit := by
      cases tally with
      | none => rfl
      | some tally =>
        by_cases fits : tally.Fits limit
        · simp [Option.filter, fits]
        · have never : ¬ (visitor.visitNode first tally).Fits limit := fun after =>
            fits (fits_of_visitNode after)
          simp [Option.filter, fits, never]
    rw [Visitor.visitNodes, guarded_visitNode limit first, sooner, guarded_visitNodes limit rest,
      Option.map_map]
    rfl

end

end Tally

/-- The measures of a tree, each by its own recursion or count. -/
def Node.measures (node : Node) : Stats where
  nodes := node.size
  leaves := node.leafCount
  maxDepth := node.height
  disabled := node.markCount .disable
  showOnly := node.markCount .showOnly
  debug := node.markCount .debug

theorem Stats.ofNode_eq_measures (node : Node) : ofNode node = node.measures := by
  rw [ofNode, Tally.visitNode_eq]
  simp [Tally.withTree, Node.measures]

/-- A visit adds the measures of the tree to any counts, and leaves the depth as it was.
In counters with a limit it does the same unless a count ends above the limit; a depth
below zero never comes up. -/
theorem Stats.tree_measures (node : Node) :
    (∀ tally : Tally, Tally.visitor.visitNode node tally =
        { nodes := tally.nodes + node.size
          leaves := tally.leaves + node.leafCount
          maxDepth := max tally.maxDepth (tally.depth + node.height)
          disabled := tally.disabled + node.markCount .disable
          showOnly := tally.showOnly + node.markCount .showOnly
          debug := tally.debug + node.markCount .debug
          depth := tally.depth } ∧
      ∀ limit, (Tally.guardedVisitor limit).visitNode node (some tally) =
        (some (Tally.visitor.visitNode node tally)).filter fun after => after.Fits limit) ∧
      Stats.ofNode node =
        { nodes := node.size
          leaves := node.leafCount
          maxDepth := node.height
          disabled := node.markCount .disable
          showOnly := node.markCount .showOnly
          debug := node.markCount .debug } ∧
      1 ≤ node.leafCount ∧ node.leafCount ≤ node.size ∧ node.height ≤ node.size ∧
      node.markCount .disable + node.markCount .showOnly + node.markCount .debug ≤ node.size := by
  refine ⟨fun tally => ⟨Tally.visitNode_eq node tally, fun limit => ?_⟩,
    Stats.ofNode_eq_measures node, node.leafCount_pos, node.leafCount_le_size,
    node.height_le_size, node.markCounts_le_size⟩
  exact Tally.guarded_visitNode limit node (some tally)

end SolidScene
