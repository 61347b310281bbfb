import Mathlib.Data.List.Forall2
import SolidScene.Proofs.ConstructibleNodes

/-!
Which nodes of a scene program share their children. The step that made the list a
node holds can be read off the program alone: a command makes a list, keeps the one of
its receiver, or takes a node out of a list, with the list that node held when it was
put there. Running the program gives every node the list of that step, so two nodes
share exactly when the program traces both to one step.
-/

namespace SolidScene

/-- Where a command has the child list of its node from: it makes one around the nodes
of some steps, keeps that of a receiver, or takes a child of a receiver as it is. -/
inductive ListSource where
  | own (members : List Nat)
  | kept (receiver : Nat)
  | taken (receiver index : Nat)

namespace Command

def listSource : Command → ListSource
  | .primitive _ => .own []
  | .container _ slots => .own (slots.filterMap id)
  | .transform _ _ slots => .own (slots.filterMap id)
  | .raw _ => .own []
  | .rawBlock _ slots => .own (slots.filterMap id)
  | .linearExtrude receiver _ _ => .own [receiver]
  | .derive receiver _ => .kept receiver
  | .copy receiver => .kept receiver
  | .child receiver index => .taken receiver index

def listSource? (program : List Command) (step : Nat) : Option ListSource :=
  program[step]?.map listSource

theorem listSource?_extended {program : List Command} {step : Nat} {source : ListSource}
    (there : listSource? program step = some source) (more : List Command) :
    listSource? (program ++ more) step = some source := by
  obtain ⟨command, found, rfl⟩ := Option.map_eq_some_iff.1 there
  obtain ⟨inside, _⟩ := List.getElem?_eq_some_iff.1 found
  rw [listSource?, List.getElem?_append_left inside, found]
  rfl

theorem listSource?_last (program : List Command) (command : Command) :
    listSource? (program ++ [command]) program.length = some command.listSource := by
  simp [listSource?]

end Command

open Command

/-- In a program, the node of the first step holds the list that the second step makes. -/
inductive ListMadeIn (program : List Command) : Nat → Nat → Prop where
  | own {step members} (source : listSource? program step = some (.own members)) :
      ListMadeIn program step step
  | kept {step receiver maker} (source : listSource? program step = some (.kept receiver))
      (earlier : ListMadeIn program receiver maker) : ListMadeIn program step maker
  | taken {step receiver index around members member maker}
      (source : listSource? program step = some (.taken receiver index))
      (outer : ListMadeIn program receiver around)
      (list : listSource? program around = some (.own members))
      (place : members[index]? = some member) (inner : ListMadeIn program member maker) :
      ListMadeIn program step maker

namespace ListMadeIn

variable {program : List Command} {step maker : Nat}

theorem extended (made : ListMadeIn program step maker) (more : List Command) :
    ListMadeIn (program ++ more) step maker := by
  induction made with
  | own source => exact .own (listSource?_extended source more)
  | kept source _ ih => exact .kept (listSource?_extended source more) ih
  | taken source _ list place _ outer inner =>
    have list := listSource?_extended list more
    exact .taken (listSource?_extended source more) outer list place inner

theorem unique {other : Nat} (made : ListMadeIn program step maker)
    (again : ListMadeIn program step other) : other = maker := by
  induction made generalizing other with
  | own source =>
    cases again with
    | own _ => rfl
    | kept source' _ => cases source.symm.trans source'
    | taken source' _ _ _ _ => cases source.symm.trans source'
  | kept source _ ih =>
    cases again with
    | own source' => cases source.symm.trans source'
    | kept source' earlier =>
      cases source.symm.trans source'
      exact ih earlier
    | taken source' _ _ _ _ => cases source.symm.trans source'
  | taken source _ list place _ outer inner =>
    cases again with
    | own source' => cases source.symm.trans source'
    | kept source' _ => cases source.symm.trans source'
    | taken source' outer' list' place' inner' =>
      cases source.symm.trans source'
      obtain rfl := outer outer'
      cases list.symm.trans list'
      cases place.symm.trans place'
      exact inner inner'

end ListMadeIn

namespace Scene

abbrev Holds (scene : Scene) : List Nat → List Built → Prop :=
  List.Forall₂ fun step built => scene.built? step = some built

theorem Holds.unique {scene : Scene} {steps : List Nat} {left right : List Built}
    (first : scene.Holds steps left) (second : scene.Holds steps right) : right = left := by
  induction first generalizing right with
  | nil =>
    cases second
    rfl
  | cons here _ ih =>
    cases second with
    | cons here' later =>
      rw [ih later, Option.some.inj (here.symm.trans here')]

theorem Holds.place {scene : Scene} {steps : List Nat} {nodes : List Built}
    (holds : scene.Holds steps nodes) {index : Nat} {built : Built}
    (there : nodes[index]? = some built) :
    ∃ step, steps[index]? = some step ∧ scene.built? step = some built := by
  induction holds generalizing index with
  | nil => cases there
  | @cons step _ _ _ here _ ih =>
    cases index with
    | zero =>
      cases there
      exact ⟨step, rfl, here⟩
    | succ index => exact ih there

end Scene

namespace Built

/-- A node whose list has the given nodes in it, each with the list it has itself. -/
structure Around (built : Built) (contents : List Built) : Prop where
  nodes : built.node.children = contents.map Built.node
  origins : built.origin.children = contents.map Built.origin

theorem Around.child?_eq {built : Built} {contents : List Built} (around : built.Around contents)
    (index : Nat) : built.child? index = contents[index]? := by
  rw [child?, around.nodes, around.origins, List.getElem?_map, List.getElem?_map]
  cases contents[index]? <;> rfl

end Built

namespace Scene

variable {scene : Scene}

theorem lookUp?_holds {slots : List (Option Nat)} {found : List (Option Built)}
    (result : scene.lookUp? slots = some found) :
    scene.Holds (slots.filterMap id) (found.filterMap id) := by
  induction slots generalizing found with
  | nil =>
    cases result
    exact .nil
  | cons slot rest ih =>
    cases slot with
    | none =>
      obtain ⟨others, later, rfl⟩ := Option.map_eq_some_iff.1 result
      have holds := ih later
      exact holds
    | some step =>
      rw [lookUp?] at result
      split at result
      case h_1 first others here later =>
        cases result
        exact .cons here (ih later)
      case h_2 => cases result

theorem around_contents {make : List (Option Node) → Node}
    (children : ∀ nodes, (make nodes).children = Node.present nodes) (found : List (Option Built)) :
    (scene.around make found).Around (found.filterMap id) where
  nodes := by
    rw [around, children]
    simp [Node.present, List.filterMap_map, List.map_filterMap]
  origins := by
    simp [around, Origin.children, List.map_filterMap]

def Obtains (scene : Scene) (built : Built) : ListSource → Prop
  | .own members => built.origin.step = scene.built.size ∧
      ∃ contents, scene.Holds members contents ∧ built.Around contents
  | .kept receiver => ∃ earlier, scene.built? receiver = some earlier ∧
      built.node.children = earlier.node.children ∧ built.origin = earlier.origin
  | .taken receiver index => ∃ earlier, scene.built? receiver = some earlier ∧
      earlier.child? index = some built

theorem obtains_around {make : List (Option Node) → Node} {slots : List (Option Nat)}
    {built : Built} (children : ∀ nodes, (make nodes).children = Node.present nodes)
    (result : (scene.lookUp? slots).map (scene.around make) = some built) :
    scene.Obtains built (.own (slots.filterMap id)) := by
  obtain ⟨found, looked, rfl⟩ := Option.map_eq_some_iff.1 result
  exact ⟨rfl, _, lookUp?_holds looked, around_contents children found⟩

theorem evaluate?_obtains {command : Command} {built : Built}
    (result : scene.evaluate? command = some built) :
    scene.Obtains built command.listSource := by
  cases command with
  | primitive primitive =>
    cases result
    exact ⟨rfl, [], .nil, primitive.node_children, rfl⟩
  | container operation slots => exact obtains_around (fun _ => rfl) result
  | transform operation parameter slots => exact obtains_around (fun _ => rfl) result
  | raw command =>
    cases result
    exact ⟨rfl, [], .nil, rfl, rfl⟩
  | rawBlock command slots => exact obtains_around (fun _ => rfl) result
  | linearExtrude receiver height center =>
    obtain ⟨earlier, found, rfl⟩ := Option.map_eq_some_iff.1 result
    refine ⟨rfl, [earlier], .cons found .nil, ?_, rfl⟩
    exact Node.linearExtrude_children _ height center
  | derive receiver derivation =>
    obtain ⟨earlier, found, rfl⟩ := Option.map_eq_some_iff.1 result
    exact ⟨earlier, found, Node.derive_children _ derivation, rfl⟩
  | copy receiver => exact ⟨built, result, rfl, rfl⟩
  | child receiver index =>
    obtain ⟨earlier, found, taken⟩ := Option.bind_eq_some_iff.1 result
    exact ⟨earlier, found, taken⟩

/-- The list of a node is the one made in the step of its origin, both by the program
and by what stands in it. -/
structure Traced (scene : Scene) (program : List Command) (step : Nat) (built : Built) :
    Prop where
  made : ListMadeIn program step built.origin.step
  contents : ∃ members nodes, listSource? program built.origin.step = some (.own members) ∧
    scene.Holds members nodes ∧ built.Around nodes

structure Follows (scene : Scene) (program : List Command) : Prop where
  size : scene.built.size = program.length
  traced : ∀ step built, scene.built? step = some built → scene.Traced program step built

def Extends (scene later : Scene) : Prop :=
  ∀ step built, scene.built? step = some built → later.built? step = some built

theorem extends_push (built : Built) : scene.Extends ⟨scene.built.push built⟩ := by
  intro step old found
  obtain ⟨inside, _⟩ := Array.getElem?_eq_some_iff.1 found
  rw [built?, Array.getElem?_push, if_neg (Nat.ne_of_lt inside)]
  exact found

theorem Holds.extended {later : Scene} {steps : List Nat} {nodes : List Built}
    (holds : scene.Holds steps nodes) (grown : scene.Extends later) : later.Holds steps nodes :=
  holds.imp fun step built found => grown step built found

theorem Traced.extended {later : Scene} {program : List Command} {step : Nat} {built : Built}
    (traced : scene.Traced program step built) (grown : scene.Extends later)
    (more : List Command) : later.Traced (program ++ more) step built := by
  obtain ⟨made, members, nodes, list, holds, around⟩ := traced
  exact ⟨made.extended more, members, nodes, listSource?_extended list more,
    holds.extended grown, around⟩

theorem Follows.evaluated {program : List Command} {command : Command} {built : Built}
    (follows : scene.Follows program) (result : scene.evaluate? command = some built) :
    Traced ⟨scene.built.push built⟩ (program ++ [command]) program.length built := by
  have grown := scene.extends_push built
  have last := listSource?_last program command
  have obtained := evaluate?_obtains result
  cases source : command.listSource with
  | own members =>
    rw [source] at obtained last
    obtain ⟨new, nodes, holds, around⟩ := obtained
    rw [follows.size] at new
    refine ⟨?_, members, nodes, ?_, holds.extended grown, around⟩
    · rw [new]
      exact .own last
    · rw [new]
      exact last
  | kept receiver =>
    rw [source] at obtained last
    obtain ⟨earlier, found, children, origin⟩ := obtained
    obtain ⟨made, members, nodes, list, holds, around⟩ :=
      (follows.traced receiver earlier found).extended grown [command]
    rw [← origin] at made list
    -- the list is that of the receiver, with what the receiver's step put into it
    refine ⟨.kept last made, members, nodes, list, holds, ?_, ?_⟩
    · rw [children, around.nodes]
    · rw [origin, around.origins]
  | taken receiver index =>
    rw [source] at obtained last
    obtain ⟨earlier, found, taken⟩ := obtained
    obtain ⟨outer, members, nodes, list, holds, around⟩ := follows.traced receiver earlier found
    rw [around.child?_eq] at taken
    -- the child is the node of a step, put there when the list was made
    obtain ⟨member, place, there⟩ := holds.place taken
    obtain ⟨inner, contents⟩ := (follows.traced member built there).extended grown [command]
    exact ⟨.taken last (outer.extended _) (listSource?_extended list _) place inner, contents⟩

theorem Follows.performed {next : Scene} {program : List Command} {command : Command}
    (follows : scene.Follows program) (performed : scene.perform? command = some next) :
    next.Follows (program ++ [command]) := by
  obtain ⟨built, result, rfl⟩ := Option.map_eq_some_iff.1 performed
  refine ⟨?_, fun step other found => ?_⟩
  · rw [Array.size_push, follows.size, List.length_append, List.length_singleton]
  · by_cases new : step = scene.built.size
    · subst new
      cases (show some built = some other from Array.getElem?_push_size.symm.trans found)
      rw [follows.size]
      exact follows.evaluated result
    · have old : scene.built? step = some other := by
        rw [← found]
        exact ((Array.getElem?_push).trans (if_neg new)).symm
      exact (follows.traced step other old).extended (scene.extends_push built) [command]

theorem follows_run {program : List Command} (ran : empty.run? program = some scene) :
    scene.Follows program := by
  have begun : empty.Follows [] := ⟨rfl, fun step built found => by simp [built?, empty] at found⟩
  exact run?_induction Follows.performed [] begun ran

theorem Extends.performed {next last : Scene} {command : Command} (grown : scene.Extends next)
    (performed : next.perform? command = some last) : scene.Extends last := by
  obtain ⟨built, _, rfl⟩ := Option.map_eq_some_iff.1 performed
  exact fun step old found => next.extends_push built step old (grown step old found)

theorem extends_run {last : Scene} {commands : List Command}
    (ran : scene.run? commands = some last) : scene.Extends last :=
  run?_induction (motive := fun later _ => scene.Extends later) Extends.performed []
    (fun _ _ found => found) ran

end Scene

theorem Built.sharesChildren?_eq_true (left right : Built) :
    left.sharesChildren? right = some true ↔
      (left.node.isLeaf && right.node.isLeaf) = false ∧ left.origin.step = right.origin.step := by
  unfold Built.sharesChildren?
  cases left.node.isLeaf && right.node.isLeaf <;> simp

namespace Scene

variable {scene : Scene} {program : List Command} {left right : Nat} {first second : Built}

/-- The nodes of two steps hold the same list. -/
def Share (scene : Scene) (left right : Nat) : Prop :=
  ∃ first second, scene.built? left = some first ∧ scene.built? right = some second ∧
    first.sharesChildren? second = some true

def HasChildren (scene : Scene) (step : Nat) : Prop :=
  ∃ built, scene.built? step = some built ∧ built.node.isLeaf = false

theorem Follows.madeIn_iff (follows : scene.Follows program)
    (found : scene.built? left = some first) (maker : Nat) :
    ListMadeIn program left maker ↔ maker = first.origin.step := by
  have made := (follows.traced left first found).made
  constructor
  · exact made.unique
  · rintro rfl
    exact made

theorem Follows.shares_iff (follows : scene.Follows program)
    (foundLeft : scene.built? left = some first) (foundRight : scene.built? right = some second)
    (children : (first.node.isLeaf && second.node.isLeaf) = false) :
    first.sharesChildren? second = some true ↔
      ∃ maker, ListMadeIn program left maker ∧ ListMadeIn program right maker := by
  rw [Built.sharesChildren?_eq_true]
  simp [follows.madeIn_iff foundLeft, follows.madeIn_iff foundRight, children]

theorem Follows.children_eq (follows : scene.Follows program)
    (foundLeft : scene.built? left = some first) (foundRight : scene.built? right = some second)
    (same : first.origin.step = second.origin.step) :
    first.node.children = second.node.children := by
  obtain ⟨_, members, nodes, list, holds, around⟩ := follows.traced left first foundLeft
  obtain ⟨_, members', nodes', list', holds', around'⟩ := follows.traced right second foundRight
  rw [same] at list
  cases list.symm.trans list'
  rw [around.nodes, around'.nodes, holds.unique holds']

theorem share_equivalence (scene : Scene) :
    Equivalence fun left right : { step // scene.HasChildren step } =>
      scene.Share left.1 right.1 where
  refl := by
    rintro ⟨step, built, found, children⟩
    refine ⟨built, built, found, found, ?_⟩
    simp [Built.sharesChildren?_eq_true, children]
  symm := by
    rintro left right ⟨first, second, foundLeft, foundRight, shared⟩
    refine ⟨second, first, foundRight, foundLeft, ?_⟩
    rw [Built.sharesChildren?_eq_true] at shared ⊢
    exact ⟨(Bool.and_comm _ _).trans shared.1, shared.2.symm⟩
  trans := by
    rintro ⟨left, built, found, children⟩ ⟨middle, _⟩ ⟨right, _⟩
      ⟨first, second, foundLeft, foundMiddle, shared⟩
      ⟨third, fourth, foundThird, foundRight, shared'⟩
    cases found.symm.trans foundLeft
    cases foundMiddle.symm.trans foundThird
    refine ⟨built, fourth, found, foundRight, ?_⟩
    rw [Built.sharesChildren?_eq_true] at shared shared' ⊢
    exact ⟨by rw [children, Bool.false_and], shared.2.trans shared'.2⟩

theorem Extends.share_iff {later : Scene} (grown : scene.Extends later)
    (insideLeft : scene.built? left = some first) (insideRight : scene.built? right = some second) :
    later.Share left right ↔ scene.Share left right := by
  simp [Share, insideLeft, insideRight, grown left first insideLeft, grown right second insideRight]

theorem Follows.built?_some (follows : scene.Follows program) {step : Nat}
    (inside : step < program.length) : ∃ built, scene.built? step = some built := by
  rw [← follows.size] at inside
  exact ⟨scene.built[step], Array.getElem?_eq_getElem inside⟩

theorem Follows.not_share (follows : scene.Follows program) {members others : List Nat}
    (apart : left ≠ right) (ownLeft : listSource? program left = some (.own members))
    (ownRight : listSource? program right = some (.own others)) : ¬ scene.Share left right := by
  rintro ⟨first, second, foundLeft, foundRight, shared⟩
  have madeLeft := (follows.madeIn_iff foundLeft left).1 (.own ownLeft)
  have madeRight := (follows.madeIn_iff foundRight right).1 (.own ownRight)
  have same := ((Built.sharesChildren?_eq_true first second).1 shared).2
  exact apart (madeLeft.trans (same.trans madeRight.symm))

/-- Sharing in a scene is told by its program. Every node holds the list of exactly one
step, and two nodes, not both without children, share when it is the same step. So
sharing is an equivalence on the nodes with children, nodes that share have the same
children, lists made in two steps are never shared, and what a program does later
changes nothing of this. -/
theorem run_shares_by_step (ran : empty.run? program = some scene) :
    (∀ step < program.length, ∃! maker, ListMadeIn program step maker) ∧
    (∀ left right first second, scene.built? left = some first →
      scene.built? right = some second → (first.node.isLeaf && second.node.isLeaf) = false →
      (first.sharesChildren? second = some true ↔
        ∃ maker, ListMadeIn program left maker ∧ ListMadeIn program right maker)) ∧
    (Equivalence fun left right : { step // scene.HasChildren step } =>
      scene.Share left.1 right.1) ∧
    (∀ left right first second, scene.built? left = some first →
      scene.built? right = some second → first.sharesChildren? second = some true →
      first.node.children = second.node.children) ∧
    (∀ left right members others, left ≠ right →
      listSource? program left = some (.own members) →
      listSource? program right = some (.own others) → ¬ scene.Share left right) ∧
    ∀ commands later, scene.run? commands = some later →
      ∀ left < program.length, ∀ right < program.length,
        (later.Share left right ↔ scene.Share left right) := by
  have follows := follows_run ran
  refine ⟨?_, ?_, share_equivalence scene, ?_, ?_, ?_⟩
  · intro step inside
    obtain ⟨built, found⟩ := follows.built?_some inside
    exact ⟨_, (follows.madeIn_iff found _).2 rfl, fun maker => (follows.madeIn_iff found maker).1⟩
  · exact fun left right first second => follows.shares_iff
  · intro left right first second foundLeft foundRight shared
    exact follows.children_eq foundLeft foundRight
      ((Built.sharesChildren?_eq_true first second).1 shared).2
  · exact fun left right members others => follows.not_share
  · intro commands later more left insideLeft right insideRight
    obtain ⟨first, foundLeft⟩ := follows.built?_some insideLeft
    obtain ⟨second, foundRight⟩ := follows.built?_some insideRight
    exact (extends_run more).share_iff foundLeft foundRight

/-- A child taken out of a block shares with the node it was derived from, and not with
an equal node made a second time. -/
theorem run_shares_by_step_taken :
    let program : List Command :=
      [.primitive (.sphere (.bool true)), .container .union [some 0], .derive 1 (.mark .debug),
        .container .union [some 0], .rawBlock "render()" [none, some 3, some 2], .child 4 1]
    ∃ scene first again taken, empty.run? program = some scene ∧
      scene.built? 1 = some first ∧ scene.built? 3 = some again ∧ scene.built? 5 = some taken ∧
      first.node = again.node ∧ first.sharesChildren? taken = some true ∧ ¬ scene.Share 1 3 := by
  intro program
  obtain ⟨_, shares, _, _, twice, _⟩ :=
    run_shares_by_step (show empty.run? program = some _ from rfl)
  refine ⟨_, _, _, _, rfl, rfl, rfl, rfl, rfl, ?_, twice 1 3 _ _ (by decide) rfl rfl⟩
  refine (shares 1 5 _ _ rfl rfl rfl).2 ⟨1, .own rfl, ?_⟩
  exact .taken rfl (.own rfl) rfl rfl (.kept rfl (.own rfl))

end Scene

end SolidScene
