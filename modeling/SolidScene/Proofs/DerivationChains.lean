import SolidScene.Proofs.PropertyHistory
import SolidScene.Scene

/-!
Chains of derivations. Modifiers replace each other and updates fill in below one
another, and neither touches what the other does. So a chain amounts to its last
modifier and its updates in their order, however the two kinds are interleaved. A
scene program that derives along a chain ends with that node, around the child list
of the receiver.
-/

namespace SolidScene

namespace Node

namespace Derivation

def modifier? : Derivation → Option Modifier
  | .mark modifier => some modifier
  | .update _ => none

def defaults? : Derivation → Option Properties
  | .mark _ => none
  | .update defaults => some defaults

def lastModifier? (chain : List Derivation) : Option Modifier :=
  (chain.filterMap modifier?).getLast?

def updates (chain : List Derivation) : List Properties :=
  chain.filterMap defaults?

theorem lastModifier?_cons (first : Derivation) (rest : List Derivation) :
    lastModifier? (first :: rest) = (lastModifier? rest).or first.modifier? := by
  cases first with
  | mark modifier =>
    simp only [lastModifier?, List.filterMap_cons, Derivation.modifier?, List.getLast?_cons]
    cases (rest.filterMap Derivation.modifier?).getLast? <;> rfl
  | update defaults => simp [lastModifier?, Derivation.modifier?]

theorem updates_cons (first : Derivation) (rest : List Derivation) :
    updates (first :: rest) = first.defaults?.toList ++ updates rest := by
  cases first <;> rfl

end Derivation

open Node.Derivation

/-- What a chain makes of a node. The kind and the children stay; the last modifier
counts; the names are those of the last update first and those of the node last; the
value of a name is that of the node, or else that of the first update that has it. -/
structure DerivesTo (node : Node) (chain : List Derivation) (derived : Node) : Prop where
  kind : derived.kind = node.kind
  children : derived.children = node.children
  modifier : derived.modifier? = (lastModifier? chain).or node.modifier?
  names : derived.properties.names =
    ((updates chain).reverse.flatMap Properties.names ++ node.properties.names).eraseDups
  values : ∀ name, derived.properties.get? name =
    (node.properties.get? name).or ((updates chain).findSome? (·.get? name))

theorem DerivesTo.after {node derived : Node} {first : Derivation} {rest : List Derivation}
    (later : (node.derive first).DerivesTo rest derived) :
    node.DerivesTo (first :: rest) derived := by
  obtain ⟨kind, children, modifier, names, values⟩ := later
  cases first with
  | mark mark =>
    refine ⟨kind, children, ?_, names, values⟩
    rw [modifier, lastModifier?_cons, Option.or_assoc]
    rfl
  -- the names of an update go in front of those there are, its values behind
  | update defaults =>
    refine ⟨kind, children, ?_, ?_, fun name => ?_⟩
    · rw [modifier, lastModifier?_cons, Option.or_assoc]
      rfl
    · rw [names, derive, update, Properties.names_withDefaults, eraseDups_append_right,
        updates_cons]
      simp [defaults?, List.append_assoc]
    · rw [values, derive, update, Properties.get?_withDefaults, updates_cons, Option.or_assoc]
      cases found : defaults.get? name <;> simp [defaults?, found]

theorem foldl_derive (node : Node) (chain : List Derivation) :
    node.DerivesTo chain (chain.foldl derive node) := by
  induction chain generalizing node with
  | nil =>
    refine ⟨rfl, rfl, rfl, (eraseDups_of_nodup node.properties.distinct_names).symm, fun name => ?_⟩
    exact Option.or_none.symm
  | cons first rest ih => exact (ih (node.derive first)).after

theorem DerivesTo.unique {node left right : Node} {chain other : List Derivation}
    (sameModifier : lastModifier? other = lastModifier? chain)
    (sameUpdates : updates other = updates chain) (first : node.DerivesTo chain left)
    (second : node.DerivesTo other right) : right = left := by
  have properties : right.properties = left.properties := by
    apply Properties.ext_names
    · rw [first.names, second.names, sameUpdates]
    · intro name
      rw [first.values, second.values, sameUpdates]
  have modifiers : right.modifier? = left.modifier? := by
    rw [first.modifier, second.modifier, sameModifier]
  have kinds := second.kind.trans first.kind.symm
  have children := second.children.trans first.children.symm
  cases left
  cases right
  cases kinds
  cases children
  cases modifiers
  cases properties
  rfl

end Node

namespace Command

/-- Derives along a chain: the first node from the receiver, each other from the one
made in the step before. The steps are numbered from `next` on. -/
def deriveAll (receiver next : Nat) : List Node.Derivation → List Command
  | [] => []
  | first :: rest => .derive receiver first :: deriveAll next (next + 1) rest

def derivedStep (receiver next : Nat) : List Node.Derivation → Nat
  | [] => receiver
  | _ :: rest => derivedStep next (next + 1) rest

end Command

namespace Scene

def Derives (scene : Scene) (receiver : Nat) (chain : List Node.Derivation) (derived : Built) :
    Prop :=
  ∃ last, scene.run? (Command.deriveAll receiver scene.built.size chain) = some last ∧
    last.built? (Command.derivedStep receiver scene.built.size chain) = some derived

theorem Derives.unique {scene : Scene} {receiver : Nat} {chain : List Node.Derivation}
    {left right : Built} (first : scene.Derives receiver chain left)
    (second : scene.Derives receiver chain right) : right = left := by
  obtain ⟨last, ran, there⟩ := first
  obtain ⟨other, otherRan, otherThere⟩ := second
  obtain rfl := Option.some.inj (ran.symm.trans otherRan)
  exact Option.some.inj (otherThere.symm.trans there)

theorem derives_foldl {scene : Scene} {receiver : Nat} {built : Built}
    (found : scene.built? receiver = some built) (chain : List Node.Derivation) :
    scene.Derives receiver chain { built with node := chain.foldl Node.derive built.node } := by
  induction chain generalizing scene receiver built with
  | nil => exact ⟨scene, rfl, found⟩
  | cons first rest ih =>
    let derived : Built := { built with node := built.node.derive first }
    have performed : scene.perform? (.derive receiver first) = some ⟨scene.built.push derived⟩ := by
      simp [perform?, evaluate?, found, derived]
    have made : built? ⟨scene.built.push derived⟩ scene.built.size = some derived :=
      Array.getElem?_push_size
    obtain ⟨last, ran, there⟩ := ih made
    rw [Array.size_push] at ran there
    refine ⟨last, ?_, there⟩
    rw [Command.deriveAll, run?, performed]
    exact ran

open Node.Derivation in
/-- Deriving along a chain succeeds from every node of a scene. The node at its end
holds the very child list of the receiver and is what the chain makes of it. Chains with
the same last modifier and the same updates end with the same node and the same text. -/
theorem derived_in_normal_form {scene : Scene} {receiver : Nat} {built : Built}
    (found : scene.built? receiver = some built) (chain : List Node.Derivation) :
    ∃ derived, scene.Derives receiver chain derived ∧ derived.origin = built.origin ∧
      built.node.DerivesTo chain derived.node ∧
      ∀ other, lastModifier? other = lastModifier? chain → updates other = updates chain →
        ∀ otherDerived, scene.Derives receiver other otherDerived →
          otherDerived = derived ∧ otherDerived.node.write = derived.node.write := by
  refine ⟨_, derives_foldl found chain, rfl, built.node.foldl_derive chain, ?_⟩
  intro other sameModifier sameUpdates otherDerived derives
  have ends : otherDerived = { built with node := other.foldl Node.derive built.node } :=
    (derives_foldl found other).unique derives
  have same : other.foldl Node.derive built.node = chain.foldl Node.derive built.node :=
    (built.node.foldl_derive chain).unique sameModifier sameUpdates
      (built.node.foldl_derive other)
  rw [ends, same]
  exact ⟨rfl, rfl⟩

/-- An extrusion that is disabled and updated twice, in two interleavings. -/
theorem extrusion_derived_in_two_ways :
    let circle := (Primitive.circle (.text "r")).node
    let extrusion : Built := ⟨circle.linearExtrude (.text "h") none, .made 1 [.made 0 []]⟩
    let scene : Scene := ⟨#[⟨circle, .made 0 []⟩, extrusion]⟩
    let low := Properties.ofList [("slices", .bool true), ("height", .text "low")]
    let high := Properties.ofList [("twist", .bool false), ("slices", .bool false)]
    let chain : List Node.Derivation := [.mark .debug, .update low, .mark .disable, .update high]
    let other : List Node.Derivation := [.update low, .update high, .mark .disable]
    Scene.empty.run? [.primitive (.circle (.text "r")), .linearExtrude 0 (.text "h") none] =
        some scene ∧
      ∃ derived, scene.Derives 1 chain derived ∧ scene.Derives 1 other derived ∧
        derived.sharesChildren? extrusion = some true ∧
        derived.node.write =
          "*linear_extrude(twist=false, slices=true, height=\"h\") \x7b\n" ++
            "circle(r=\"r\");\n\x7d\n" := by
  intro circle extrusion scene low high chain other
  have found : scene.built? 1 = some extrusion := rfl
  obtain ⟨derived, derives, _, _, unique⟩ := derived_in_normal_form found chain
  obtain ⟨same, _⟩ := unique other rfl rfl _ (derives_foldl found other)
  refine ⟨rfl, derived, derives, same ▸ derives_foldl found other, ?_, ?_⟩
  · rw [← same]
    rfl
  · rw [← same]
    decide +kernel

end Scene

end SolidScene
