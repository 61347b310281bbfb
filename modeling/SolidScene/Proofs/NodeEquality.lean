import SolidScene.Output
import SolidScene.Proofs.NumberText
import SolidScene.Proofs.SceneNumbers
import SolidScene.Proofs.SharedChildren
import SolidScene.Proofs.TreeMeasures

/-!
Equality of scenes. Two scenes are equal when their blank forms are the same and their
numbers are equal one by one as floating-point numbers. So equality is symmetric and
transitive, and a scene is equal to itself just when no NaN occurs in it. That two
nodes hold one and the same child list makes no difference: the children in it are
compared as well.

What equal scenes have in common. A plan says how a scene is made from a given node: by
deriving from it and by placing it among other nodes. Made from nodes that are alike,
scenes are alike, when the numbers of the plan itself are related to themselves. Equal
scenes have the same statistics, since these look at no number, and they have the same
text, unless a zero of the one stands where the other has the zero of the other sign.
-/

namespace SolidScene

namespace Number

abbrev Equal (left right : Number) : Prop :=
  left.equal right = true

theorem equal_symm {left right : Number} (same : left.Equal right) : right.Equal left :=
  (right.equal_comm left).trans same

theorem equal_trans {left middle right : Number} (first : left.Equal middle)
    (second : middle.Equal right) : left.Equal right := by
  simp only [Equal, equal, Bool.and_eq_true, Bool.or_eq_true, beq_iff_eq] at *
  obtain ⟨⟨number, _⟩, rfl | ⟨zero, _⟩⟩ := first
  · exact second
  · obtain ⟨⟨_, other⟩, rfl | ⟨_, later⟩⟩ := second
    · exact ⟨⟨number, other⟩, .inr ⟨zero, ‹_›⟩⟩
    · exact ⟨⟨number, other⟩, .inr ⟨zero, later⟩⟩

end Number

theorem forall₂_trans {α : Type} {related : α → α → Prop}
    (trans : ∀ left middle right, related left middle → related middle right → related left right)
    {left middle right : List α} (first : List.Forall₂ related left middle)
    (second : List.Forall₂ related middle right) : List.Forall₂ related left right := by
  induction first generalizing right with
  | nil => exact second
  | cons here _ ih =>
    cases second with
    | cons there later => exact .cons (trans _ _ _ here there) (ih later)

namespace Contents

variable {Whole : Type} (contents : Contents Whole) {related : Number → Number → Prop}

theorem alike_symm (symm : ∀ left right, related left right → related right left)
    {left right : Whole} (alike : contents.Alike related left right) :
    contents.Alike related right left :=
  ⟨alike.1.symm, (alike.2.imp symm).flip⟩

theorem alike_trans
    (trans : ∀ left middle right, related left middle → related middle right → related left right)
    {left middle right : Whole} (first : contents.Alike related left middle)
    (second : contents.Alike related middle right) : contents.Alike related left right :=
  ⟨first.1.trans second.1, forall₂_trans trans first.2 second.2⟩

theorem alike_self (whole : Whole) :
    contents.Alike related whole whole ↔
      ∀ number ∈ contents.numbers whole, related number number := by
  rw [Alike, List.forall₂_same]
  exact and_iff_right rfl

end Contents

namespace Value

mutual

theorem equal_iff : ∀ left right : Value,
    left.equal right = true ↔ contents.Alike Number.Equal left right
  | .number n, right => by
    cases right with
    | number other =>
      rw [alike_number]
      exact Iff.rfl
    | _ => simp [equal, Contents.Alike, contents, blank]
  | .bool flag, right => by
    cases right <;> simp [equal, Contents.Alike, contents, blank]
  | .text content, right => by
    cases right <;> simp [equal, Contents.Alike, contents, blank]
  | .vector items, right => by
    cases right with
    | vector others => rw [equal, equalItems_iff items others, alike_vector]
    | _ => simp [equal, Contents.Alike, contents, blank]

theorem equalItems_iff : ∀ lefts rights : List Value,
    equalItems lefts rights = true ↔ List.Forall₂ (contents.Alike Number.Equal) lefts rights
  | [], rights => by cases rights <;> simp [equalItems]
  | left :: lefts, [] => by simp [equalItems]
  | left :: lefts, right :: rights => by
    rw [equalItems, Bool.and_eq_true, List.forall₂_cons, equal_iff left right,
      equalItems_iff lefts rights]

end

end Value

theorem Property.equal_iff (left right : Property) :
    left.equal right = true ↔ contents.Alike Number.Equal left right := by
  rw [equal, Bool.and_eq_true, beq_iff_eq, Value.equal_iff, alike_iff]

namespace Properties

theorem equalEntries_iff (lefts rights : List Property) :
    equalEntries lefts rights = true ↔
      List.Forall₂ (Property.contents.Alike Number.Equal) lefts rights := by
  induction lefts generalizing rights with
  | nil => cases rights <;> simp [equalEntries]
  | cons left lefts ih =>
    cases rights with
    | nil => simp [equalEntries]
    | cons right rights =>
      rw [equalEntries, Bool.and_eq_true, List.forall₂_cons, Property.equal_iff, ih]

theorem equal_iff (left right : Properties) :
    left.equal right = true ↔ contents.Alike Number.Equal left right := by
  rw [equal, equalEntries_iff, alike_iff]

end Properties

theorem NodeKind.equal_iff (left right : NodeKind) :
    left.equal right = true ↔ contents.Alike Number.Equal left right := by
  cases left with
  | transform operation parameter =>
    cases right with
    | transform other second =>
      rw [equal, Bool.and_eq_true, beq_iff_eq, Value.equal_iff, alike_transform]
    | _ => simp [equal, Contents.Alike, contents]
  | _ => cases right <;> simp [equal, Contents.Alike, contents, Part.positional]

namespace Node

mutual

theorem equal_iff : ∀ left right : Node,
    left.equal right = true ↔ contents.Alike Number.Equal left right
  | ⟨kind, properties, children, modifier⟩, ⟨_, _, others, _⟩ => by
    rw [equal, alike_iff, Bool.and_eq_true, Bool.and_eq_true, Bool.and_eq_true, beq_iff_eq,
      NodeKind.equal_iff, Properties.equal_iff, equalAll_iff children others, and_assoc, and_assoc]

theorem equalAll_iff : ∀ lefts rights : List Node,
    equalAll lefts rights = true ↔ List.Forall₂ (contents.Alike Number.Equal) lefts rights
  | [], rights => by cases rights <;> simp [equalAll]
  | left :: lefts, [] => by simp [equalAll]
  | left :: lefts, right :: rights => by
    rw [equalAll, Bool.and_eq_true, List.forall₂_cons, equal_iff left right,
      equalAll_iff lefts rights]

end

theorem equalAll_self (nodes : List Node) :
    equalAll nodes nodes = true ↔
      ∀ node ∈ nodes, ∀ number ∈ node.numbers, number.isNaN = false := by
  rw [equalAll_iff, List.forall₂_same]
  refine forall₂_congr fun node _ => ?_
  rw [contents.alike_self]
  simp only [Number.Equal, Number.equal_self, Bool.not_eq_true']
  rfl

end Node

/-- Where two nodes share their children, these are still compared: a NaN below both of
them makes the nodes differ. -/
theorem Scene.Follows.equal_shared {scene : Scene} {program : List Command} {left right : Nat}
    {first second : Built} (follows : scene.Follows program)
    (foundLeft : scene.built? left = some first) (foundRight : scene.built? right = some second)
    (shared : first.sharesChildren? second = some true) :
    first.node.equal second.node = true ↔
      first.node.kind.equal second.node.kind = true ∧
      first.node.properties.equal second.node.properties = true ∧
      first.node.modifier? = second.node.modifier? ∧
      ∀ child ∈ first.node.children, ∀ number ∈ child.numbers, number.isNaN = false := by
  have step := ((Built.sharesChildren?_eq_true first second).1 shared).2
  have same := follows.children_eq foundLeft foundRight step
  obtain ⟨⟨kind, properties, children, modifier⟩, _⟩ := first
  obtain ⟨⟨otherKind, otherProperties, others, otherModifier⟩, _⟩ := second
  obtain rfl : children = others := same
  rw [← Node.equalAll_self, Node.equal]
  simp only [Bool.and_eq_true, beq_iff_eq]
  tauto

/-- Equality of scenes is symmetric and transitive, and a scene equals itself just when
none of the numbers in it is NaN, be they in the parameter of a transform, in a
property, inside a vector or anywhere below. It compares what there is beside the
numbers, and the numbers one by one as floating-point numbers. Children that are shared
are compared like any others. -/
theorem Node.equal_numberwise :
    (∀ left right : Node, left.equal right = true → right.equal left = true) ∧
    (∀ left middle right : Node, left.equal middle = true → middle.equal right = true →
      left.equal right = true) ∧
    (∀ node : Node, node.equal node = true ↔ ∀ number ∈ node.numbers, number.isNaN = false) ∧
    (∀ (node : Node) (number : Number), number ∈ node.numbers ↔ ∃ other ∈ node.occurrences,
      (∃ operation parameter, other.kind = .transform operation parameter ∧
        number ∈ parameter.numbers) ∨
      ∃ property ∈ other.properties.entries, number ∈ property.2.numbers) ∧
    (∀ left right : Node, left.equal right = true ↔
      left.blank = right.blank ∧
        List.Forall₂ (fun number other => number.equal other = true) left.numbers right.numbers) ∧
    ∀ program scene, Scene.empty.run? program = some scene →
      ∀ left right first second, scene.built? left = some first →
        scene.built? right = some second → first.sharesChildren? second = some true →
        (first.node.equal second.node = true ↔
          first.node.kind.equal second.node.kind = true ∧
          first.node.properties.equal second.node.properties = true ∧
          first.node.modifier? = second.node.modifier? ∧
          ∀ child ∈ first.node.children, ∀ number ∈ child.numbers, number.isNaN = false) := by
  refine ⟨?_, ?_, ?_, mem_numbers, equal_iff, ?_⟩
  · intro left right same
    rw [equal_iff] at same ⊢
    exact contents.alike_symm (fun _ _ => Number.equal_symm) same
  · intro left middle right first second
    rw [equal_iff] at first second ⊢
    refine contents.alike_trans ?_ first second
    exact fun _ _ _ => Number.equal_trans
  · intro node
    simpa [equalAll] using equalAll_self [node]
  · intro program scene ran left right first second
    exact (Scene.follows_run ran).equal_shared

/-- A block around a NaN shares its children with its copy, and is not equal to it. -/
example :
    ∃ scene first second, Scene.empty.run? [.primitive (.sphere (.number ⟨0x7ff8000000000000⟩)),
        .container .union [some 0], .copy 1] = some scene ∧
      scene.built? 1 = some first ∧ scene.built? 2 = some second ∧
      first.sharesChildren? second = some true ∧ first.node.equal second.node = false :=
  ⟨_, _, _, rfl, rfl, rfl, rfl, rfl⟩

section

/-- How a scene is made from a given node. The node may occur in it any number of times. -/
inductive Plan where
  | given
  | fixed (node : Node)
  | container (operation : Container) (slots : List (Option Plan))
  | transform (operation : Transform) (parameter : Value) (slots : List (Option Plan))
  | rawBlock (command : String) (slots : List (Option Plan))
  | linearExtrude (receiver : Plan) (height : Value) (center : Option Bool)
  | derive (receiver : Plan) (derivation : Node.Derivation)

namespace Plan

mutual

def make (node : Node) : Plan → Node
  | .given => node
  | .fixed other => other
  | .container operation slots => .container operation (makeAll node slots)
  | .transform operation parameter slots => .transform operation parameter (makeAll node slots)
  | .rawBlock command slots => .rawBlock command (makeAll node slots)
  | .linearExtrude receiver height center => (make node receiver).linearExtrude height center
  | .derive receiver derivation => (make node receiver).derive derivation

def makeAll (node : Node) : List (Option Plan) → List (Option Node)
  | [] => []
  | none :: rest => none :: makeAll node rest
  | some first :: rest => some (make node first) :: makeAll node rest

end

mutual

def numbers : Plan → List Number
  | .given => []
  | .fixed node => node.numbers
  | .container _ slots => numbersOfAll slots
  | .transform _ parameter slots => parameter.numbers ++ numbersOfAll slots
  | .rawBlock _ slots => numbersOfAll slots
  | .linearExtrude receiver height _ => numbers receiver ++ height.numbers
  | .derive receiver (.mark _) => numbers receiver
  | .derive receiver (.update defaults) =>
    numbers receiver ++ Properties.contents.numbers defaults

def numbersOfAll : List (Option Plan) → List Number
  | [] => []
  | none :: rest => numbersOfAll rest
  | some first :: rest => numbers first ++ numbersOfAll rest

end

end Plan

variable {related : Number → Number → Prop}

theorem Property.alike_put {lefts rights : List Property} {value other : Value} (name : String)
    (alike : List.Forall₂ (contents.Alike related) lefts rights)
    (values : Value.contents.Alike related value other) :
    List.Forall₂ (contents.Alike related) (put name value lefts) (put name other rights) := by
  have placed : contents.Alike related (name, value) (name, other) :=
    (alike_iff _ _).2 ⟨rfl, values⟩
  induction alike with
  | nil => exact .cons placed .nil
  | @cons left right _ _ here later ih =>
    obtain ⟨key, old⟩ := left
    obtain ⟨_, _⟩ := right
    obtain ⟨rfl, _⟩ := (alike_iff _ _).1 here
    by_cases same : key = name
    · simpa [put, same] using ⟨placed, later⟩
    · simpa [put, same] using ⟨here, ih⟩

namespace Properties

variable {left right : Properties}

theorem alike_insert {value other : Value} (alike : contents.Alike related left right)
    (name : String) (values : Value.contents.Alike related value other) :
    contents.Alike related (left.insert name value) (right.insert name other) := by
  rw [alike_iff] at alike ⊢
  exact Property.alike_put name alike values

theorem alike_insertAll {added others : List Property} (alike : contents.Alike related left right)
    (more : List.Forall₂ (Property.contents.Alike related) added others) :
    contents.Alike related (left.insertAll added) (right.insertAll others) := by
  induction more generalizing left right with
  | nil => exact alike
  | @cons property other _ _ here _ ih =>
    obtain ⟨name, value⟩ := property
    obtain ⟨_, second⟩ := other
    obtain ⟨rfl, values⟩ := (Property.alike_iff _ _).1 here
    exact ih (alike_insert alike name values)

theorem alike_withDefaults {defaults others : Properties}
    (alike : contents.Alike related left right)
    (filled : contents.Alike related defaults others) :
    contents.Alike related (left.withDefaults defaults) (right.withDefaults others) :=
  alike_insertAll filled ((alike_iff _ _).1 alike)

theorem alike_empty : contents.Alike related empty empty :=
  ⟨rfl, .nil⟩

end Properties

namespace Node

variable {left right : Node}

theorem alike_fresh {kind other : NodeKind} {children others : List Node}
    (kinds : NodeKind.contents.Alike related kind other)
    (below : List.Forall₂ (contents.Alike related) children others) :
    contents.Alike related (fresh kind children) (fresh other others) :=
  (alike_iff _ _).2 ⟨kinds, Properties.alike_empty, below, rfl⟩

theorem alike_update {defaults others : Properties} (alike : contents.Alike related left right)
    (filled : Properties.contents.Alike related defaults others) :
    contents.Alike related (left.update defaults) (right.update others) := by
  rw [alike_iff] at alike ⊢
  obtain ⟨kinds, properties, below, modifiers⟩ := alike
  exact ⟨kinds, Properties.alike_withDefaults properties filled, below, modifiers⟩

theorem alike_marked (alike : contents.Alike related left right) (modifier : Modifier) :
    contents.Alike related (left.marked modifier) (right.marked modifier) := by
  rw [alike_iff] at alike ⊢
  obtain ⟨kinds, properties, below, _⟩ := alike
  exact ⟨kinds, properties, below, rfl⟩

theorem alike_centered (alike : contents.Alike related left right) (center : Option Bool) :
    contents.Alike related (left.centered center) (right.centered center) := by
  cases center with
  | none => exact alike
  | some choice =>
    have choices : Value.contents.Alike related (.bool choice) (.bool choice) :=
      (Value.contents.alike_self _).2 (by simp [Value.contents])
    exact alike_update alike (Properties.alike_insert Properties.alike_empty _ choices)

theorem alike_linearExtrude {height other : Value} (alike : contents.Alike related left right)
    (heights : Value.contents.Alike related height other) (center : Option Bool) :
    contents.Alike related (left.linearExtrude height center)
      (right.linearExtrude other center) := by
  refine alike_update (alike_centered (alike_fresh ⟨rfl, .nil⟩ (.cons alike .nil)) center) ?_
  exact Properties.alike_insert Properties.alike_empty _ heights

end Node

namespace Plan

variable {left right : Node}

mutual

theorem alike_make (alike : Node.contents.Alike related left right) : ∀ plan : Plan,
    (∀ number ∈ plan.numbers, related number number) →
      Node.contents.Alike related (plan.make left) (plan.make right)
  | .given, _ => alike
  | .fixed node, own => (Node.contents.alike_self node).2 own
  | .container operation slots, own =>
    Node.alike_fresh ⟨rfl, .nil⟩ (alike_makeAll alike slots own)
  | .transform operation parameter slots, own => by
    simp only [numbers, List.forall_mem_append] at own
    refine Node.alike_fresh ?_ (alike_makeAll alike slots own.2)
    exact (NodeKind.alike_transform _ _ _ _).2
      ⟨rfl, (Value.contents.alike_self parameter).2 own.1⟩
  | .rawBlock command slots, own =>
    Node.alike_fresh ⟨rfl, .nil⟩ (alike_makeAll alike slots own)
  | .linearExtrude receiver height center, own => by
    simp only [numbers, List.forall_mem_append] at own
    exact Node.alike_linearExtrude (alike_make alike receiver own.1)
      ((Value.contents.alike_self height).2 own.2) center
  | .derive receiver (.mark modifier), own =>
    Node.alike_marked (alike_make alike receiver own) modifier
  | .derive receiver (.update defaults), own => by
    simp only [numbers, List.forall_mem_append] at own
    exact Node.alike_update (alike_make alike receiver own.1)
      ((Properties.contents.alike_self defaults).2 own.2)

theorem alike_makeAll (alike : Node.contents.Alike related left right) :
    ∀ slots : List (Option Plan), (∀ number ∈ numbersOfAll slots, related number number) →
      List.Forall₂ (Node.contents.Alike related) (Node.present (makeAll left slots))
        (Node.present (makeAll right slots))
  | [], _ => .nil
  | none :: rest, own => alike_makeAll alike rest own
  | some first :: rest, own => by
    simp only [numbersOfAll, List.forall_mem_append] at own
    exact .cons (alike_make alike first own.1) (alike_makeAll alike rest own.2)

end

end Plan

namespace Node

mutual

theorem layers_blank : ∀ (node : Node) (depth : Nat),
    node.blank.layers depth = (node.layers depth).map fun seen => (seen.1, seen.2.blank)
  | ⟨kind, properties, children, modifier⟩, depth => by
    rw [blank, layers, layers, List.map_cons, layersOfAll_blank children]
    rw [blank]

theorem layersOfAll_blank : ∀ (nodes : List Node) (depth : Nat),
    layersOfAll depth (blankAll nodes) =
      (layersOfAll depth nodes).map fun seen => (seen.1, seen.2.blank)
  | [], depth => rfl
  | first :: rest, depth => by
    rw [blankAll, layersOfAll, layersOfAll, List.map_append, layers_blank first,
      layersOfAll_blank rest]

end

end Node

theorem Tally.note_blank (tally : Tally) (seen : Nat × Node) :
    tally.note (seen.1, seen.2.blank) = tally.note seen := by
  obtain ⟨depth, kind, properties, children, modifier⟩ := seen
  have leaf : (Node.blank ⟨kind, properties, children, modifier⟩).isLeaf =
      (Node.mk kind properties children modifier).isLeaf := by
    rw [Node.blank]
    cases children <;> rfl
  have mark : (Node.blank ⟨kind, properties, children, modifier⟩).modifier? = modifier := by
    rw [Node.blank]
  rw [note, note, leaf, mark]

theorem Stats.ofNode_blank (node : Node) : ofNode node.blank = ofNode node := by
  rw [ofNode, ofNode, Tally.visitor_layered.visitNode_eq, Tally.visitor_layered.visitNode_eq,
    Node.layers_blank, List.foldl_map]
  simp only [Tally.note_blank]

namespace Number

def negativeZero : Number := ⟨0x8000000000000000⟩

def OppositeZeros (left right : Number) : Prop :=
  left = ⟨0⟩ ∧ right = negativeZero ∨ left = negativeZero ∧ right = ⟨0⟩

theorem isZero_iff (number : Number) :
    number.isZero = true ↔ number = ⟨0⟩ ∨ number = negativeZero := by
  constructor
  · intro zero
    have magnitude := magnitude_of_isZero zero
    cases sign : number.isNegative with
    | false => exact .inl (eq_of_sign_and_magnitude sign magnitude)
    | true => exact .inr (eq_of_sign_and_magnitude sign magnitude)
  · rintro (rfl | rfl) <;> rfl

theorem eq_or_opposite {left right : Number} (same : left.Equal right) :
    left = right ∨ left.OppositeZeros right := by
  simp only [Equal, equal, Bool.and_eq_true, Bool.or_eq_true, beq_iff_eq, isZero_iff] at same
  obtain ⟨_, rfl | ⟨rfl | rfl, rfl | rfl⟩⟩ := same
  · exact .inl rfl
  · exact .inl rfl
  · exact .inr (.inl ⟨rfl, rfl⟩)
  · exact .inr (.inr ⟨rfl, rfl⟩)
  · exact .inl rfl

theorem eq_or_opposite_at {lefts rights : List Number} (same : List.Forall₂ Equal lefts rights) :
    lefts = rights ∨ ∃ (index : Nat) (left right : Number), lefts[index]? = some left ∧
      rights[index]? = some right ∧ left.OppositeZeros right := by
  induction same with
  | nil => exact .inl rfl
  | cons here _ ih =>
    rcases eq_or_opposite here with rfl | opposite
    · rcases ih with rfl | ⟨index, found⟩
      · exact .inl rfl
      · exact .inr ⟨index + 1, found⟩
    · exact .inr ⟨0, _, _, rfl, rfl, opposite⟩

end Number

namespace Node

theorem eq_or_opposite_at {left right : Node} (same : left.equal right = true) :
    left = right ∨ ∃ (index : Nat) (number other : Number), left.numbers[index]? = some number ∧
      right.numbers[index]? = some other ∧ number.OppositeZeros other := by
  obtain ⟨blanks, pairs⟩ := (equal_iff left right).1 same
  refine (Number.eq_or_opposite_at pairs).imp_left fun numbers => ?_
  refine eq_of_alike left right ⟨blanks, ?_⟩
  rw [List.forall₂_eq_eq_eq]
  exact numbers

/-- Scenes made from equal ones by a plan are equal, when no argument of the plan is NaN.
Equal scenes have the same statistics, and the same text when no number in them is the
negative zero: their texts differ only if there is a place in which the one has a zero
and the other the opposite one. -/
theorem equal_congruence {left right : Node} (same : left.equal right = true) :
    (∀ plan : Plan, (∀ number ∈ plan.numbers, number.isNaN = false) →
      (plan.make left).equal (plan.make right) = true) ∧
    Stats.ofNode left = Stats.ofNode right ∧
    ((∀ number ∈ left.numbers ++ right.numbers, number ≠ Number.negativeZero) →
      left.toText? = right.toText?) ∧
    (left.toText? ≠ right.toText? →
      ∃ (index : Nat) (number other : Number), left.numbers[index]? = some number ∧
        right.numbers[index]? = some other ∧ number.OppositeZeros other) := by
  refine ⟨fun plan own => ?_, ?_, fun positive => ?_, fun differ => ?_⟩
  · rw [equal_iff] at same ⊢
    refine plan.alike_make same fun number member => ?_
    rw [Number.Equal, Number.equal_self, own number member]
    rfl
  · have blanks : left.blank = right.blank := ((equal_iff left right).1 same).1
    rw [← Stats.ofNode_blank left, blanks, Stats.ofNode_blank]
  · rcases eq_or_opposite_at same with rfl | ⟨index, number, other, here, there, opposite⟩
    · rfl
    · have before := List.mem_append_left right.numbers (List.mem_of_getElem? here)
      have after := List.mem_append_right left.numbers (List.mem_of_getElem? there)
      rcases opposite with ⟨_, zero⟩ | ⟨zero, _⟩
      · exact absurd zero (positive other after)
      · exact absurd zero (positive number before)
  · exact (eq_or_opposite_at same).resolve_left fun equal => differ (congrArg toText? equal)

theorem equal_congruence_zeros :
    let zero := (Primitive.sphere (.number ⟨0⟩)).node
    let negative := (Primitive.sphere (.number Number.negativeZero)).node
    let plan : Plan := .container .union [some .given, none, some (.derive .given (.mark .debug))]
    zero.equal negative = true ∧ (plan.make zero).equal (plan.make negative) = true ∧
      Stats.ofNode zero = Stats.ofNode negative ∧ zero.toText? ≠ negative.toText? := by
  intro zero negative plan
  have same : zero.equal negative = true := rfl
  obtain ⟨plans, stats, _, _⟩ := equal_congruence same
  exact ⟨same, plans plan (fun _ member => nomatch member), stats, by decide +kernel⟩

end Node

end

end SolidScene
