import Mathlib.Data.List.Forall2
import SolidScene.Proofs.ConstructibleNodes
import SolidScene.Proofs.SceneParts

/-!
Scenes compared by their numbers. A scene holds numbers in parameters, in property
values, inside vectors and at any depth; they are listed in the order of the walk. What
else there is to a scene is its blank form, which has one and the same number in all of
these places. Two scenes are alike under a relation of numbers when their blank forms
are the same and the numbers in the same places are related. A scene is determined by
its blank form and its numbers.
-/

namespace SolidScene

namespace Site

def number? (site : Site) : Option Number :=
  match site.part with
  | .value (.number n) => some n
  | _ => none

theorem number?_under (parent : Part) (index : Nat) (site : Site) :
    (site.under parent index).number? = site.number? := rfl

end Site

namespace Part

def numbers (part : Part) : List Number :=
  part.sites.filterMap Site.number?

theorem numbers_eq (part : Part) :
    part.numbers = (Site.top part).number?.toList ++ part.below.flatMap numbers := by
  rw [numbers, sites_eq, List.filterMap_cons, sitesBelow,
    filterMap_spread part sites (Site.number?_under part)]
  cases (Site.top part).number? <;> rfl

end Part

/-- How things that hold numbers are compared: by a blank form, which keeps the places
of the numbers, and by the numbers in order. -/
structure Contents (Whole : Type) where
  blank : Whole → Whole
  numbers : Whole → List Number
  count : ∀ whole, (numbers (blank whole)).length = (numbers whole).length

theorem forall₂_append_iff {α : Type} {related : α → α → Prop} {left right : List α}
    (count : left.length = right.length) (more others : List α) :
    List.Forall₂ related (left ++ more) (right ++ others) ↔
      List.Forall₂ related left right ∧ List.Forall₂ related more others := by
  induction left generalizing right with
  | nil =>
    obtain rfl := List.eq_nil_of_length_eq_zero count.symm
    simp
  | cons first rest ih =>
    cases right with
    | nil => cases count
    | cons other right => simp [ih (Nat.succ.inj count), and_assoc]

namespace Contents

variable {Whole : Type} (contents : Contents Whole) (related : Number → Number → Prop)

/-- The same blank form, and numbers that are related pair by pair. -/
def Alike (left right : Whole) : Prop :=
  contents.blank left = contents.blank right ∧
    List.Forall₂ related (contents.numbers left) (contents.numbers right)

theorem length_eq {left right : Whole} (same : contents.blank left = contents.blank right) :
    (contents.numbers left).length = (contents.numbers right).length := by
  rw [← contents.count left, same, contents.count]

theorem alike_members (lefts rights : List Whole) :
    lefts.map contents.blank = rights.map contents.blank ∧
        List.Forall₂ related (lefts.flatMap contents.numbers) (rights.flatMap contents.numbers) ↔
      List.Forall₂ (contents.Alike related) lefts rights := by
  induction lefts generalizing rights with
  | nil => cases rights <;> simp
  | cons left lefts ih =>
    cases rights with
    | nil => simp
    | cons right rights =>
      rw [List.forall₂_cons, ← ih, List.map_cons, List.map_cons, List.cons.injEq,
        List.flatMap_cons, List.flatMap_cons, Alike]
      -- equal blank forms have as many numbers, which tells where those of the first end
      constructor
      · rintro ⟨⟨here, later⟩, numbers⟩
        obtain ⟨first, rest⟩ := (forall₂_append_iff (contents.length_eq here) _ _).1 numbers
        exact ⟨⟨here, first⟩, later, rest⟩
      · rintro ⟨⟨here, first⟩, later, rest⟩
        exact ⟨⟨here, later⟩, (forall₂_append_iff (contents.length_eq here) _ _).2 ⟨first, rest⟩⟩

theorem count_members (wholes : List Whole) :
    ((wholes.map contents.blank).flatMap contents.numbers).length =
      (wholes.flatMap contents.numbers).length := by
  simp [List.length_flatMap, Function.comp_def, contents.count]

end Contents

namespace Value

mutual

def blank : Value → Value
  | .number _ => .number ⟨0⟩
  | .bool flag => .bool flag
  | .text content => .text content
  | .vector items => .vector (blankItems items)

def blankItems : List Value → List Value
  | [] => []
  | first :: rest => blank first :: blankItems rest

end

theorem blankItems_eq_map (items : List Value) : blankItems items = items.map blank := by
  induction items with
  | nil => rfl
  | cons first rest ih => rw [blankItems, ih, List.map_cons]

def numbers (value : Value) : List Number :=
  (Part.value value).numbers

@[simp]
theorem numbers_number (n : Number) : (number n).numbers = [n] := by
  rw [numbers, Part.numbers_eq]
  rfl

@[simp]
theorem numbers_bool (flag : Bool) : (bool flag).numbers = [] := by
  rw [numbers, Part.numbers_eq]
  rfl

@[simp]
theorem numbers_text (content : String) : (text content).numbers = [] := by
  rw [numbers, Part.numbers_eq]
  rfl

theorem numbers_vector (items : List Value) :
    (vector items).numbers = items.flatMap numbers := by
  rw [numbers, Part.numbers_eq, Part.below, List.flatMap_map]
  rfl

mutual

theorem count_blank : ∀ value : Value, value.blank.numbers.length = value.numbers.length
  | .number n => by rw [blank, numbers_number, numbers_number, List.length_singleton,
      List.length_singleton]
  | .bool flag => rfl
  | .text content => rfl
  | .vector items => by rw [blank, numbers_vector, numbers_vector, count_blankItems items]

theorem count_blankItems : ∀ items : List Value,
    ((blankItems items).flatMap numbers).length = (items.flatMap numbers).length
  | [] => rfl
  | first :: rest => by
    rw [blankItems, List.flatMap_cons, List.flatMap_cons, List.length_append, List.length_append,
      count_blank first, count_blankItems rest]

end

def contents : Contents Value := ⟨blank, numbers, count_blank⟩

variable {related : Number → Number → Prop}

theorem alike_number (left right : Number) :
    contents.Alike related (number left) (number right) ↔ related left right := by
  simp [contents, Contents.Alike, blank]

theorem alike_vector (lefts rights : List Value) :
    contents.Alike related (vector lefts) (vector rights) ↔
      List.Forall₂ (contents.Alike related) lefts rights := by
  rw [← contents.alike_members]
  simp [contents, Contents.Alike, blank, blankItems_eq_map, numbers_vector]

mutual

theorem eq_of_alike : ∀ left right : Value, contents.Alike (· = ·) left right → left = right
  | .number n, right, alike => by
    cases right with
    | number other => rw [(alike_number n other).1 alike]
    | _ => cases alike.1
  | .bool flag, right, alike => by cases right <;> cases alike.1; rfl
  | .text content, right, alike => by cases right <;> cases alike.1; rfl
  | .vector items, right, alike => by
    cases right with
    | vector others => rw [eq_of_alikeItems items others ((alike_vector items others).1 alike)]
    | _ => cases alike.1

theorem eq_of_alikeItems : ∀ lefts rights : List Value,
    List.Forall₂ (contents.Alike (· = ·)) lefts rights → lefts = rights
  | [], rights, alike => (List.forall₂_nil_left_iff.1 alike).symm
  | first :: rest, rights, alike => by
    obtain ⟨other, others, here, later, rfl⟩ := List.forall₂_cons_left_iff.1 alike
    rw [eq_of_alike first other here, eq_of_alikeItems rest others later]

end

end Value

namespace Property

def contents : Contents Property where
  blank property := (property.1, property.2.blank)
  numbers property := property.2.numbers
  count property := property.2.count_blank

theorem alike_iff {related : Number → Number → Prop} (left right : Property) :
    contents.Alike related left right ↔
      left.1 = right.1 ∧ Value.contents.Alike related left.2 right.2 := by
  rw [Contents.Alike, contents, Prod.mk.injEq, and_assoc]
  rfl

theorem eq_of_alike {left right : Property}
    (alike : contents.Alike (· = ·) left right) : left = right :=
  have ⟨names, values⟩ := (alike_iff left right).1 alike
  Prod.ext names (Value.eq_of_alike _ _ values)

end Property

namespace Properties

def mapValues (change : Value → Value) (properties : Properties) : Properties :=
  ⟨properties.entries.map fun property => (property.1, change property.2), by
    rw [List.map_map]
    exact properties.distinct⟩

def contents : Contents Properties where
  blank := mapValues Value.blank
  numbers properties := properties.entries.flatMap fun property => property.2.numbers
  count properties := Property.contents.count_members properties.entries

theorem alike_iff {related : Number → Number → Prop} (left right : Properties) :
    contents.Alike related left right ↔
      List.Forall₂ (Property.contents.Alike related) left.entries right.entries := by
  rw [← Property.contents.alike_members, Contents.Alike]
  refine and_congr_left' ?_
  exact ⟨fun same => congrArg entries same, fun same => Properties.ext same⟩

theorem eq_of_alike {left right : Properties}
    (alike : contents.Alike (· = ·) left right) : left = right := by
  have entries := ((alike_iff left right).1 alike).imp fun _ _ => Property.eq_of_alike
  rw [List.forall₂_eq_eq_eq] at entries
  exact Properties.ext entries

end Properties

namespace NodeKind

def contents : Contents NodeKind where
  blank
    | .transform operation parameter => .transform operation parameter.blank
    | other => other
  numbers kind := (Part.positional kind).flatMap Part.numbers
  count kind := by
    cases kind with
    | transform operation parameter =>
      rw [Part.positional, Part.positional, List.flatMap_singleton, List.flatMap_singleton]
      exact parameter.count_blank
    | _ => rfl

theorem alike_transform {related : Number → Number → Prop} (left right : Transform)
    (parameter other : Value) :
    contents.Alike related (.transform left parameter) (.transform right other) ↔
      left = right ∧ Value.contents.Alike related parameter other := by
  simp only [contents, Contents.Alike, Part.positional, List.flatMap_singleton,
    transform.injEq, and_assoc]
  rfl

theorem eq_of_alike {left right : NodeKind}
    (alike : contents.Alike (· = ·) left right) : left = right := by
  cases left with
  | transform operation parameter =>
    cases right with
    | transform other second =>
      obtain ⟨same, parameters⟩ := (alike_transform _ _ _ _).1 alike
      rw [same, Value.eq_of_alike _ _ parameters]
    | _ => cases alike.1
  | _ => cases right <;> cases alike.1; rfl

end NodeKind

namespace Node

mutual

/-- The scene with the same number in all places where there is one. -/
def blank : Node → Node
  | ⟨kind, properties, children, modifier⟩ =>
    ⟨NodeKind.contents.blank kind, Properties.contents.blank properties,
      blankAll children, modifier⟩

def blankAll : List Node → List Node
  | [] => []
  | first :: rest => blank first :: blankAll rest

end

theorem blankAll_eq_map (nodes : List Node) : blankAll nodes = nodes.map blank := by
  induction nodes with
  | nil => rfl
  | cons first rest ih => rw [blankAll, ih, List.map_cons]

def numbers (node : Node) : List Number :=
  (Part.node node).numbers

theorem numbers_eq (node : Node) :
    node.numbers =
      NodeKind.contents.numbers node.kind ++ (Properties.contents.numbers node.properties ++
        node.children.flatMap numbers) := by
  rw [numbers, Part.numbers_eq, Part.below, List.flatMap_append, List.flatMap_append,
    List.flatMap_map, List.flatMap_map, List.append_assoc]
  rfl

mutual

theorem count_blank : ∀ node : Node, node.blank.numbers.length = node.numbers.length
  | ⟨kind, properties, children, modifier⟩ => by
    rw [blank, numbers_eq, numbers_eq]
    simp only [List.length_append, NodeKind.contents.count, Properties.contents.count,
      count_blankAll children]

theorem count_blankAll : ∀ nodes : List Node,
    ((blankAll nodes).flatMap numbers).length = (nodes.flatMap numbers).length
  | [] => rfl
  | first :: rest => by
    rw [blankAll, List.flatMap_cons, List.flatMap_cons, List.length_append, List.length_append,
      count_blank first, count_blankAll rest]

end

def contents : Contents Node := ⟨blank, numbers, count_blank⟩

/-- The numbers that a node has itself, apart from those below it. -/
def ownNumbers (node : Node) : List Number :=
  NodeKind.contents.numbers node.kind ++ Properties.contents.numbers node.properties

mutual

theorem numbers_occurrences : ∀ node : Node,
    node.numbers = node.occurrences.flatMap ownNumbers
  | ⟨kind, properties, children, modifier⟩ => by
    rw [numbers_eq, occurrences, List.flatMap_cons, numbers_occurrencesOfAll children,
      ← List.append_assoc]
    rfl

theorem numbers_occurrencesOfAll : ∀ nodes : List Node,
    nodes.flatMap numbers = (occurrencesOfAll nodes).flatMap ownNumbers
  | [] => rfl
  | first :: rest => by
    rw [List.flatMap_cons, occurrencesOfAll, List.flatMap_append, numbers_occurrences first,
      numbers_occurrencesOfAll rest]

end

/-- A number of a scene stands in the parameter of a transform or in a property of a
node anywhere in it. -/
theorem mem_numbers (node : Node) (number : Number) :
    number ∈ node.numbers ↔ ∃ other ∈ node.occurrences,
      (∃ operation parameter, other.kind = .transform operation parameter ∧
        number ∈ parameter.numbers) ∨
      ∃ property ∈ other.properties.entries, number ∈ property.2.numbers := by
  rw [numbers_occurrences, List.mem_flatMap]
  refine exists_congr fun other => and_congr_right' ?_
  rw [ownNumbers, List.mem_append]
  refine or_congr ?_ List.mem_flatMap
  cases other.kind <;> simp [NodeKind.contents, Part.positional, Value.numbers]

theorem alike_iff {related : Number → Number → Prop} (left right : Node) :
    contents.Alike related left right ↔
      NodeKind.contents.Alike related left.kind right.kind ∧
      Properties.contents.Alike related left.properties right.properties ∧
      List.Forall₂ (contents.Alike related) left.children right.children ∧
      left.modifier? = right.modifier? := by
  obtain ⟨kind, properties, children, modifier⟩ := left
  obtain ⟨otherKind, otherProperties, otherChildren, otherModifier⟩ := right
  rw [← contents.alike_members]
  simp only [Contents.Alike, contents, blank, numbers_eq, Node.mk.injEq, blankAll_eq_map]
  constructor
  · rintro ⟨⟨kinds, entries, below, modifiers⟩, numbers⟩
    obtain ⟨first, rest⟩ := (forall₂_append_iff (NodeKind.contents.length_eq kinds) _ _).1 numbers
    obtain ⟨middle, last⟩ := (forall₂_append_iff (Properties.contents.length_eq entries) _ _).1 rest
    exact ⟨⟨kinds, first⟩, ⟨entries, middle⟩, ⟨below, last⟩, modifiers⟩
  · rintro ⟨⟨kinds, first⟩, ⟨entries, middle⟩, ⟨below, last⟩, modifiers⟩
    refine ⟨⟨kinds, entries, below, modifiers⟩, ?_⟩
    refine (forall₂_append_iff (NodeKind.contents.length_eq kinds) _ _).2 ⟨first, ?_⟩
    exact (forall₂_append_iff (Properties.contents.length_eq entries) _ _).2 ⟨middle, last⟩

mutual

theorem eq_of_alike : ∀ left right : Node, contents.Alike (· = ·) left right → left = right
  | ⟨kind, properties, children, modifier⟩, ⟨_, _, others, _⟩, alike => by
    obtain ⟨kinds, entries, below, modifiers⟩ := (alike_iff _ _).1 alike
    rw [Node.mk.injEq]
    exact ⟨NodeKind.eq_of_alike kinds, Properties.eq_of_alike entries,
      eq_of_alikeAll children others below, modifiers⟩

theorem eq_of_alikeAll : ∀ lefts rights : List Node,
    List.Forall₂ (contents.Alike (· = ·)) lefts rights → lefts = rights
  | [], rights, alike => (List.forall₂_nil_left_iff.1 alike).symm
  | first :: rest, rights, alike => by
    obtain ⟨other, others, here, later, rfl⟩ := List.forall₂_cons_left_iff.1 alike
    rw [eq_of_alike first other here, eq_of_alikeAll rest others later]

end

end Node

end SolidScene
