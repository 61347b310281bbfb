import SolidScene.Scene

/-!
Nodes that scene programs make. A property of nodes that every command keeps
holds of every node of every scene a program reaches. The occurrences of a node
are the nodes of its tree, each before those below it; over them a kept property
speaks about all depths. The first such property: no shape has children.
-/

namespace SolidScene

namespace Node

mutual

def occurrences : Node → List Node
  | ⟨kind, properties, children, modifier⟩ =>
    ⟨kind, properties, children, modifier⟩ :: occurrencesOfAll children

def occurrencesOfAll : List Node → List Node
  | [] => []
  | first :: rest => occurrences first ++ occurrencesOfAll rest

end

theorem occurrences_eq (node : Node) :
    node.occurrences = node :: occurrencesOfAll node.children := by
  cases node
  rw [occurrences]

theorem below_occurrences (node : Node) : occurrencesOfAll node.children ⊆ node.occurrences := by
  rw [occurrences_eq]
  exact List.subset_cons_self _ _

theorem mem_occurrencesOfAll (nodes : List Node) (other : Node) :
    other ∈ occurrencesOfAll nodes ↔ ∃ node ∈ nodes, other ∈ node.occurrences := by
  induction nodes with
  | nil => simp [occurrencesOfAll]
  | cons first rest ih => simp [occurrencesOfAll, ih]

theorem mem_occurrences (node other : Node) :
    other ∈ node.occurrences ↔
      other = node ∨ ∃ child ∈ node.children, other ∈ child.occurrences := by
  rw [occurrences_eq, List.mem_cons, mem_occurrencesOfAll]

theorem self_mem_occurrences (node : Node) : node ∈ node.occurrences :=
  (mem_occurrences node node).2 (Or.inl rfl)

theorem occurrences_of_child {node child : Node} (below : child ∈ node.children) {P : Node → Prop}
    (all : ∀ other ∈ node.occurrences, P other) : ∀ other ∈ child.occurrences, P other :=
  fun other member => all other ((mem_occurrences node other).2 (Or.inr ⟨child, below, member⟩))

theorem all_occurrences {node : Node} {P : Node → Prop} (here : P node)
    (below : ∀ child ∈ node.children, ∀ other ∈ child.occurrences, P other) :
    ∀ other ∈ node.occurrences, P other := by
  intro other member
  rcases (mem_occurrences node other).1 member with same | ⟨child, inside, deeper⟩
  · rw [same]
    exact here
  · exact below child inside other deeper

theorem mem_present (slots : List (Option Node)) (node : Node) :
    node ∈ present slots ↔ some node ∈ slots := by
  simp [present]

theorem centered_kind (node : Node) (center : Option Bool) :
    (node.centered center).kind = node.kind := by
  cases center <;> rfl

theorem centered_children (node : Node) (center : Option Bool) :
    (node.centered center).children = node.children := by
  cases center <;> rfl

theorem derive_kind (node : Node) (derivation : Derivation) :
    (node.derive derivation).kind = node.kind := by
  cases derivation <;> rfl

theorem derive_children (node : Node) (derivation : Derivation) :
    (node.derive derivation).children = node.children := by
  cases derivation <;> rfl

theorem linearExtrude_kind (node : Node) (height : Value) (center : Option Bool) :
    (node.linearExtrude height center).kind = .linearExtrude :=
  centered_kind _ center

theorem linearExtrude_children (node : Node) (height : Value) (center : Option Bool) :
    (node.linearExtrude height center).children = [node] :=
  centered_children _ center

end Node

theorem Primitive.node_children (primitive : Primitive) : primitive.node.children = [] :=
  Node.centered_children _ primitive.center?

namespace Scene

/-- A property of nodes that every command keeps. -/
structure Kept (P : Node → Prop) : Prop where
  primitive : ∀ primitive : Primitive, P primitive.node
  container : ∀ operation slots, (∀ node, some node ∈ slots → P node) →
    P (Node.container operation slots)
  transform : ∀ operation parameter slots, (∀ node, some node ∈ slots → P node) →
    P (Node.transform operation parameter slots)
  raw : ∀ command, P (Node.raw command)
  rawBlock : ∀ command slots, (∀ node, some node ∈ slots → P node) →
    P (Node.rawBlock command slots)
  linearExtrude : ∀ node height center, P node → P (node.linearExtrude height center)
  derive : ∀ node derivation, P node → P (node.derive derivation)
  child : ∀ node, P node → ∀ child ∈ node.children, P child

def All (P : Node → Prop) (scene : Scene) : Prop :=
  ∀ built ∈ scene.built, P built.node

theorem built?_mem {scene : Scene} {step : Nat} {built : Built}
    (found : scene.built? step = some built) : built ∈ scene.built :=
  Array.mem_of_getElem? found

theorem lookUp?_mem {scene : Scene} {slots : List (Option Nat)} {found : List (Option Built)}
    (result : scene.lookUp? slots = some found) :
    ∀ built, some built ∈ found → built ∈ scene.built := by
  induction slots generalizing found with
  | nil =>
    cases result
    intro built member
    cases member
  | cons slot rest ih =>
    cases slot with
    | none =>
      obtain ⟨others, later, rfl⟩ := Option.map_eq_some_iff.1 result
      intro built member
      rcases List.mem_cons.1 member with same | inside
      · cases same
      · exact ih later built inside
    | some step =>
      rw [lookUp?] at result
      split at result
      case h_1 first others here later =>
        cases result
        intro built member
        rcases List.mem_cons.1 member with same | inside
        · cases same
          exact built?_mem here
        · exact ih later built inside
      case h_2 => cases result

theorem around_kept {P : Node → Prop} {scene : Scene} {make : List (Option Node) → Node}
    {slots : List (Option Nat)} {built : Built} (holds : scene.All P)
    (made : ∀ nodes, (∀ node, some node ∈ nodes → P node) → P (make nodes))
    (result : (scene.lookUp? slots).map (scene.around make) = some built) : P built.node := by
  obtain ⟨found, looked, rfl⟩ := Option.map_eq_some_iff.1 result
  apply made
  intro node member
  obtain ⟨slot, inside, same⟩ := List.mem_map.1 member
  obtain ⟨filled, rfl, rfl⟩ := Option.map_eq_some_iff.1 same
  exact holds filled (lookUp?_mem looked filled inside)

theorem evaluate?_kept {P : Node → Prop} (kept : Kept P) {scene : Scene} {command : Command}
    {built : Built} (holds : scene.All P) (result : scene.evaluate? command = some built) :
    P built.node := by
  cases command with
  | primitive primitive =>
    cases result
    exact kept.primitive primitive
  | container operation slots => exact around_kept holds (kept.container operation) result
  | transform operation parameter slots =>
    exact around_kept holds (kept.transform operation parameter) result
  | raw command =>
    cases result
    exact kept.raw command
  | rawBlock command slots => exact around_kept holds (kept.rawBlock command) result
  | linearExtrude receiver height center =>
    obtain ⟨earlier, found, rfl⟩ := Option.map_eq_some_iff.1 result
    exact kept.linearExtrude _ height center (holds earlier (built?_mem found))
  | derive receiver derivation =>
    obtain ⟨earlier, found, rfl⟩ := Option.map_eq_some_iff.1 result
    exact kept.derive _ derivation (holds earlier (built?_mem found))
  -- a copy is the node itself, and a child was below a node that is already there
  | copy receiver => exact holds built (built?_mem result)
  | child receiver index =>
    obtain ⟨earlier, found, taken⟩ := Option.bind_eq_some_iff.1 result
    rw [Built.child?] at taken
    split at taken
    case h_1 node origin here _ =>
      cases taken
      exact kept.child _ (holds earlier (built?_mem found)) node (List.mem_of_getElem? here)
    case h_2 => cases taken

theorem perform?_kept {P : Node → Prop} (kept : Kept P) {scene next : Scene} {command : Command}
    (holds : scene.All P) (result : scene.perform? command = some next) : next.All P := by
  obtain ⟨made, evaluated, rfl⟩ := Option.map_eq_some_iff.1 result
  intro built member
  rcases Array.mem_push.1 member with old | new
  · exact holds built old
  · rw [new]
    exact evaluate?_kept kept holds evaluated

/-- What every command keeps, of the scene and the commands performed so far, holds
after a run. -/
theorem run?_induction {motive : Scene → List Command → Prop}
    (step : ∀ {scene next performed command}, motive scene performed →
      scene.perform? command = some next → motive next (performed ++ [command]))
    {scene last : Scene} {commands : List Command} (before : List Command)
    (begun : motive scene before) (ran : scene.run? commands = some last) :
    motive last (before ++ commands) := by
  induction commands generalizing scene before with
  | nil =>
    cases ran
    rwa [List.append_nil]
  | cons first rest ih =>
    obtain ⟨next, performed, later⟩ := Option.bind_eq_some_iff.1 ran
    have reached := ih (before ++ [first]) (step begun performed) later
    rwa [List.append_assoc] at reached

theorem run?_kept {P : Node → Prop} (kept : Kept P) {scene last : Scene}
    {commands : List Command} (holds : scene.All P) (ran : scene.run? commands = some last) :
    last.All P :=
  run?_induction (motive := fun scene _ => scene.All P) (perform?_kept kept) [] holds ran

end Scene

namespace Node

/-- Some scene program makes the node. -/
def Constructible (node : Node) : Prop :=
  ∃ commands scene, Scene.empty.run? commands = some scene ∧ ∃ built ∈ scene.built,
    built.node = node

theorem Constructible.keeps {P : Node → Prop} {node : Node} (constructible : node.Constructible)
    (kept : Scene.Kept P) : P node := by
  obtain ⟨commands, scene, ran, built, member, rfl⟩ := constructible
  exact Scene.run?_kept kept (fun _ inside => (Array.not_mem_empty _ inside).elim) ran built member

/-- A property that every command gives to the node it makes, whatever stands below. -/
structure Restored (P : Node → Prop) : Prop where
  primitive : ∀ primitive : Primitive, P primitive.node
  fresh : ∀ kind children, (∀ form, kind ≠ .shape form) → kind ≠ .linearExtrude →
    P (Node.fresh kind children)
  linearExtrude : ∀ (node : Node) height center, P (node.linearExtrude height center)
  derive : ∀ (node : Node) derivation, P node → P (node.derive derivation)

namespace Restored

variable {P : Node → Prop}

theorem of_slots (restored : Restored P) {kind : NodeKind} {slots : List (Option Node)}
    (noShape : ∀ form, kind ≠ .shape form) (noExtrusion : kind ≠ .linearExtrude)
    (filled : ∀ node, some node ∈ slots → ∀ other ∈ node.occurrences, P other) :
    ∀ other ∈ (Node.fresh kind (present slots)).occurrences, P other :=
  all_occurrences (restored.fresh _ _ noShape noExtrusion) fun child member =>
    filled child ((mem_present slots child).1 member)

theorem kept (restored : Restored P) :
    Scene.Kept fun node => ∀ other ∈ node.occurrences, P other where
  primitive primitive := by
    apply all_occurrences (restored.primitive primitive)
    intro child member
    rw [primitive.node_children] at member
    cases member
  container operation _ filled := restored.of_slots (by simp) (by simp) filled
  transform operation parameter _ filled := restored.of_slots (by simp) (by simp) filled
  raw command := by
    apply all_occurrences (restored.fresh _ _ (by simp) (by simp))
    intro child member
    cases member
  rawBlock command _ filled := restored.of_slots (by simp) (by simp) filled
  linearExtrude node height center holds := by
    apply all_occurrences (restored.linearExtrude node height center)
    intro child member
    rw [linearExtrude_children, List.mem_singleton] at member
    rw [member]
    exact holds
  derive node derivation holds := by
    apply all_occurrences (restored.derive node derivation (holds node node.self_mem_occurrences))
    intro child member
    rw [derive_children] at member
    exact occurrences_of_child member holds
  child node holds _ below := occurrences_of_child below holds

end Restored

theorem Constructible.restored {P : Node → Prop} {node : Node} (constructible : node.Constructible)
    (restored : Restored P) : ∀ other ∈ node.occurrences, P other :=
  constructible.keeps restored.kept

def IsLeafShape (node : Node) : Prop :=
  ∀ form, node.kind = .shape form → node.children = []

theorem leafShapes_restored : Restored IsLeafShape where
  primitive primitive _ _ := primitive.node_children
  fresh _ _ noShape _ form same := absurd same (noShape form)
  linearExtrude node height center form same := by
    rw [linearExtrude_kind] at same
    cases same
  derive node derivation leaf form same := by
    rw [derive_kind] at same
    rw [derive_children]
    exact leaf form same

theorem Constructible.leafShapes {node : Node} (constructible : node.Constructible) :
    ∀ other ∈ node.occurrences, other.IsLeafShape :=
  constructible.restored leafShapes_restored

end Node

end SolidScene
