import SolidScene.Proofs.ConstructibleNodes

/-!
Editing a scene in one place. A path leads to a node by the numbers of the children to
go to. Putting another node there changes the text of the scene only where the text of
that node stands: what is in front of it and behind it comes from the rest of the scene.
So a node that also stands in another place is written there as before.
-/

namespace SolidScene

namespace Node

def nodeAt? : Node → List Nat → Option Node
  | node, [] => some node
  | node, index :: rest => node.children[index]?.bind fun child => nodeAt? child rest

def put : Node → List Nat → Node → Node
  | _, [], other => other
  | node, index :: rest, other =>
    { node with children := node.children.modify index fun child => put child rest other }

/-- A place lies to the left of another one when it is in an earlier child where the
ways part. -/
inductive LeftOf : List Nat → List Nat → Prop where
  | part {index other : Nat} {rest otherRest : List Nat} (earlier : index < other) :
    LeftOf (index :: rest) (other :: otherRest)
  | follow {index : Nat} {rest otherRest : List Nat} (left : LeftOf rest otherRest) :
    LeftOf (index :: rest) (index :: otherRest)

theorem nodeAt?_put {root node : Node} {path : List Nat} (there : root.nodeAt? path = some node)
    (other : Node) : (root.put path other).nodeAt? path = some other := by
  induction path generalizing root with
  | nil => rfl
  | cons index rest ih =>
    obtain ⟨child, found, below⟩ := Option.bind_eq_some_iff.1 there
    simp [put, nodeAt?, found, ih below]

theorem put_self {root node : Node} {path : List Nat} (there : root.nodeAt? path = some node) :
    root.put path node = root := by
  induction path generalizing root with
  | nil =>
    cases there
    rfl
  | cons index rest ih =>
    obtain ⟨child, found, below⟩ := Option.bind_eq_some_iff.1 there
    have same : (root.children.modify index fun child => child.put rest node) = root.children := by
      apply List.ext_getElem?
      intro place
      rw [List.getElem?_modify]
      by_cases here : index = place
      · subst here
        simp [found, ih below]
      · simp [here]
    rw [put, same]
    cases root
    rfl

theorem put_put (root first second : Node) (path : List Nat) :
    (root.put path first).put path second = root.put path second := by
  induction path generalizing root with
  | nil => rfl
  | cons index rest ih => simp [put, List.modify_modify_eq, Function.comp_def, ih]

theorem put_comm {path place : List Nat} (left : LeftOf path place) (root first second : Node) :
    (root.put path first).put place second = (root.put place second).put path first := by
  induction left generalizing root with
  | part earlier => simp [put, List.modify_modify_ne _ _ _ (Nat.ne_of_lt earlier)]
  | follow left ih => simp [put, List.modify_modify_eq, Function.comp_def, ih]

theorem nodeAt?_put_apart {path place : List Nat} (apart : LeftOf path place ∨ LeftOf place path)
    (root other : Node) : (root.put path other).nodeAt? place = root.nodeAt? place := by
  -- both go down together until the ways part, and then into different children
  rcases apart with left | right
  · induction left generalizing root with
    | part earlier => simp [put, nodeAt?, List.getElem?_modify_ne _ _ (Nat.ne_of_lt earlier)]
    | @follow index _ _ _ ih =>
      cases found : root.children[index]? <;> simp [put, nodeAt?, found, ih]
  · induction right generalizing root with
    | part earlier => simp [put, nodeAt?, List.getElem?_modify_ne _ _ (Nat.ne_of_gt earlier)]
    | @follow index _ _ _ ih =>
      cases found : root.children[index]? <;> simp [put, nodeAt?, found, ih]

theorem sizeOf_child {node child : Node} {index : Nat}
    (found : node.children[index]? = some child) : sizeOf child < sizeOf node := by
  have smaller := List.sizeOf_lt_of_mem (List.mem_of_getElem? found)
  obtain ⟨kind, properties, children, modifier⟩ := node
  simp at smaller ⊢
  omega

theorem sizeOf_nodeAt? {root node : Node} {path : List Nat}
    (there : root.nodeAt? path = some node) : sizeOf node ≤ sizeOf root := by
  induction path generalizing root with
  | nil =>
    cases there
    exact Nat.le_refl _
  | cons index rest ih =>
    obtain ⟨child, found, below⟩ := Option.bind_eq_some_iff.1 there
    exact Nat.le_trans (ih below) (Nat.le_of_lt (sizeOf_child found))

theorem not_below_itself (node : Node) (index : Nat) (rest : List Nat) :
    node.nodeAt? (index :: rest) ≠ some node := by
  intro there
  obtain ⟨child, found, below⟩ := Option.bind_eq_some_iff.1 there
  exact Nat.not_lt.2 (sizeOf_nodeAt? below) (sizeOf_child found)

/-- As a node does not lie below itself, two places where it stands are beside each
other. -/
theorem apart_of_nodeAt? {root node : Node} {path place : List Nat}
    (there : root.nodeAt? path = some node) (also : root.nodeAt? place = some node)
    (different : place ≠ path) : LeftOf path place ∨ LeftOf place path := by
  induction path generalizing root place with
  | nil =>
    cases there
    cases place with
    | nil => exact absurd rfl different
    | cons index rest => exact absurd also (not_below_itself _ index rest)
  | cons index rest ih =>
    cases place with
    | nil =>
      cases also
      exact absurd there (not_below_itself _ index rest)
    | cons other otherRest =>
      rcases Nat.lt_trichotomy index other with earlier | rfl | later
      · exact .inl (.part earlier)
      · obtain ⟨child, found, below⟩ := Option.bind_eq_some_iff.1 there
        obtain ⟨same, alsoFound, alsoBelow⟩ := Option.bind_eq_some_iff.1 also
        obtain rfl := Option.some.inj (found.symm.trans alsoFound)
        exact (ih below alsoBelow fun equal => different (congrArg _ equal)).imp .follow .follow
      · exact .inr (.part later)

/-! The text around one place, and between two. -/

theorem writeAll_modify {nodes : List Node} {index : Nat} {child : Node}
    (found : nodes[index]? = some child) :
    ∃ front back, ∀ change : Node → Node,
      writeAll (nodes.modify index change) = front ++ (change child).write ++ back := by
  induction nodes generalizing index with
  | nil => cases found
  | cons first rest ih =>
    cases index with
    | zero =>
      cases found
      exact ⟨"", writeAll rest, fun change => by simp [writeAll]⟩
    | succ index =>
      obtain ⟨front, back, written⟩ := ih found
      exact ⟨first.write ++ front, back, fun change => by
        simp [writeAll, written, String.append_assoc]⟩

theorem writeAll_modify_two {nodes : List Node} {index otherIndex : Nat} {child other : Node}
    (found : nodes[index]? = some child) (otherFound : nodes[otherIndex]? = some other)
    (earlier : index < otherIndex) :
    ∃ front between back, ∀ change otherChange : Node → Node,
      writeAll ((nodes.modify index change).modify otherIndex otherChange) =
        front ++ (change child).write ++ between ++ (otherChange other).write ++ back := by
  induction nodes generalizing index otherIndex with
  | nil => cases found
  | cons first rest ih =>
    obtain ⟨otherIndex, rfl⟩ := Nat.exists_eq_succ_of_ne_zero (Nat.ne_zero_of_lt earlier)
    cases index with
    | zero =>
      cases found
      have later : rest[otherIndex]? = some other := otherFound
      obtain ⟨between, back, written⟩ := writeAll_modify later
      exact ⟨"", between, back, fun change otherChange => by
        simp [writeAll, written, String.append_assoc]⟩
    | succ index =>
      obtain ⟨front, between, back, written⟩ := ih found otherFound (Nat.lt_of_succ_lt_succ earlier)
      exact ⟨first.write ++ front, between, back, fun change otherChange => by
        simp [writeAll, written, String.append_assoc]⟩

theorem write_children {node child : Node} {index : Nat} (leaf : node.IsLeafShape)
    (found : node.children[index]? = some child) {children : List Node}
    (length : children.length = node.children.length) :
    write { node with children := children } =
      markText node.modifier? ++ head node.kind node.properties ++ blockOpen ++ writeAll children ++
        blockClose := by
  obtain ⟨kind, properties, old, modifier⟩ := node
  have nonempty : old ≠ [] := List.ne_nil_of_mem (List.mem_of_getElem? found)
  -- a node with a child is no shape, and a raw command with as many is a block again
  have block : isStatement kind children = false := by
    cases kind with
    | shape form => exact absurd (leaf form rfl) nonempty
    | raw command =>
      have filled : children ≠ [] := by
        rintro rfl
        exact nonempty (List.length_eq_zero_iff.1 length.symm)
      exact List.isEmpty_eq_false_iff.2 filled
    | _ => rfl
  rw [write, if_neg (by simp [block])]

theorem leaves_below {node child : Node} {index : Nat}
    (leaves : ∀ other ∈ node.occurrences, other.IsLeafShape)
    (found : node.children[index]? = some child) :
    ∀ other ∈ child.occurrences, other.IsLeafShape :=
  occurrences_of_child (List.mem_of_getElem? found) leaves

theorem write_put {root node : Node} {path : List Nat}
    (leaves : ∀ other ∈ root.occurrences, other.IsLeafShape)
    (there : root.nodeAt? path = some node) :
    ∃ front back, ∀ other, (root.put path other).write = front ++ other.write ++ back := by
  induction path generalizing root with
  | nil => exact ⟨"", "", fun other => by simp [put]⟩
  | cons index rest ih =>
    obtain ⟨child, found, below⟩ := Option.bind_eq_some_iff.1 there
    obtain ⟨inner, outer, around⟩ := ih (leaves_below leaves found) below
    obtain ⟨front, back, written⟩ := writeAll_modify found
    refine ⟨markText root.modifier? ++ head root.kind root.properties ++ blockOpen ++ front ++
      inner, outer ++ back ++ blockClose, fun other => ?_⟩
    rw [put, write_children (leaves root root.self_mem_occurrences) found (List.length_modify ..),
      written, around]
    simp [String.append_assoc]

theorem write_put_two {root node other : Node} {path place : List Nat}
    (leaves : ∀ other ∈ root.occurrences, other.IsLeafShape)
    (there : root.nodeAt? path = some node) (also : root.nodeAt? place = some other)
    (left : LeftOf path place) :
    ∃ front between back, ∀ first second, ((root.put path first).put place second).write =
      front ++ first.write ++ between ++ second.write ++ back := by
  induction left generalizing root with
  | @part index otherIndex rest otherRest earlier =>
    obtain ⟨child, found, below⟩ := Option.bind_eq_some_iff.1 there
    obtain ⟨otherChild, otherFound, otherBelow⟩ := Option.bind_eq_some_iff.1 also
    obtain ⟨inner, outer, around⟩ := write_put (leaves_below leaves found) below
    obtain ⟨otherInner, otherOuter, otherAround⟩ :=
      write_put (leaves_below leaves otherFound) otherBelow
    obtain ⟨front, between, back, written⟩ := writeAll_modify_two found otherFound earlier
    refine ⟨markText root.modifier? ++ head root.kind root.properties ++ blockOpen ++ front ++
      inner, outer ++ between ++ otherInner, otherOuter ++ back ++ blockClose,
      fun first second => ?_⟩
    rw [put, put, write_children (leaves root root.self_mem_occurrences) found (by simp), written,
      around, otherAround]
    simp [String.append_assoc]
  | @follow index rest otherRest left ih =>
    obtain ⟨child, found, below⟩ := Option.bind_eq_some_iff.1 there
    obtain ⟨same, alsoFound, alsoBelow⟩ := Option.bind_eq_some_iff.1 also
    obtain rfl := Option.some.inj (found.symm.trans alsoFound)
    obtain ⟨inner, between, outer, around⟩ := ih (leaves_below leaves found) below alsoBelow
    obtain ⟨front, back, written⟩ := writeAll_modify found
    refine ⟨markText root.modifier? ++ head root.kind root.properties ++ blockOpen ++ front ++
      inner, between, outer ++ back ++ blockClose, fun first second => ?_⟩
    rw [put, put, List.modify_modify_eq,
      write_children (leaves root root.self_mem_occurrences) found (List.length_modify ..), written]
    simp [around, String.append_assoc]

theorem write_eq_mark (node : Node) :
    node.write = markText node.modifier? ++ write { node with modifier? := none } := by
  obtain ⟨kind, properties, children, modifier⟩ := node
  rw [write, write]
  split <;> simp [markText, String.append_assoc]

theorem write_update {node : Node} (noShape : ∀ form, node.kind ≠ .shape form)
    (noExtrusion : node.kind ≠ .linearExtrude) (defaults : Properties) :
    (node.update defaults).write = node.write := by
  obtain ⟨kind, properties, children, modifier⟩ := node
  -- no other head shows the properties
  have same : head kind (properties.withDefaults defaults) = head kind properties := by
    cases kind with
    | shape form => exact absurd rfl (noShape form)
    | linearExtrude => exact absurd rfl noExtrusion
    | _ => rfl
  rw [update, write, write, same]

/-- What is put in one place of a scene changes its text in that place only. -/
theorem Constructible.edited_in_one_place {root node : Node} {path : List Nat}
    (constructible : root.Constructible) (there : root.nodeAt? path = some node) :
    ∃ front back,
      (∀ other, (root.put path other).nodeAt? path = some other ∧
        (root.put path other).write = front ++ other.write ++ back ∧
        ∀ next, ((root.put path other).put path next).write = front ++ next.write ++ back) ∧
      (∃ body, root.write = front ++ (markText node.modifier? ++ body) ++ back ∧
        ∀ modifier, (root.put path (node.derive (.mark modifier))).write =
          front ++ (modifier.mark.toString ++ body) ++ back) ∧
      (∀ place, root.nodeAt? place = some node → place ≠ path →
        (∀ other, (root.put path other).nodeAt? place = some node) ∧
        ∃ before between after,
          (∀ other twin, ((root.put path other).put place twin).write =
            before ++ other.write ++ between ++ twin.write ++ after) ∨
          ∀ other twin, ((root.put path other).put place twin).write =
            before ++ twin.write ++ between ++ other.write ++ after) ∧
      ((∀ form, node.kind ≠ .shape form) → node.kind ≠ .linearExtrude →
        ∀ defaults, (root.put path (node.derive (.update defaults))).write = root.write) := by
  have leaves := constructible.leafShapes
  obtain ⟨front, back, around⟩ := write_put leaves there
  have whole : root.write = front ++ node.write ++ back := by rw [← around, put_self there]
  refine ⟨front, back, fun other => ⟨nodeAt?_put there other, around other, fun next => ?_⟩,
    ⟨write { node with modifier? := none }, ?_, fun modifier => ?_⟩, ?_, ?_⟩
  · rw [put_put, around]
  · rw [whole, write_eq_mark]
  · rw [around, write_eq_mark]
    rfl
  · intro place also different
    have apart := apart_of_nodeAt? there also different
    refine ⟨fun other => (nodeAt?_put_apart apart root other).trans also, ?_⟩
    -- the text has the two nodes in the order of their places, whichever is edited first
    rcases apart with left | right
    · obtain ⟨before, between, after, written⟩ := write_put_two leaves there also left
      exact ⟨before, between, after, .inl written⟩
    · obtain ⟨before, between, after, written⟩ := write_put_two leaves also there right
      refine ⟨before, between, after, .inr fun other twin => ?_⟩
      rw [← put_comm right, written]
  · intro noShape noExtrusion defaults
    rw [around, whole, derive, write_update noShape noExtrusion]

/-- A disabled cube that stands in a union and in a transform there, edited in the latter. -/
theorem edited_cube_in_two_places :
    let cube := (Primitive.cube (.text "s") none).node.derive (.mark .disable)
    let moved := transform .translate (.text "v") [some cube]
    let scene := container .union [some cube, none, some moved]
    scene.Constructible ∧ scene.nodeAt? [1, 0] = some cube ∧ scene.nodeAt? [0] = some cube ∧
      (scene.put [1, 0] (cube.derive (.mark .debug))).nodeAt? [0] = some cube ∧
      (∃ front body back, scene.write = front ++ ("*" ++ body) ++ back ∧
        (scene.put [1, 0] (cube.derive (.mark .debug))).write = front ++ ("#" ++ body) ++ back) ∧
      (scene.put [1, 0] (cube.derive (.mark .debug))).write =
        "union() \x7b\n*cube(size=\"s\");\ntranslate(\"v\") \x7b\n" ++
          "#cube(size=\"s\");\n\x7d\n\x7d\n" := by
  intro cube moved scene
  have made : scene.Constructible :=
    ⟨[.primitive (.cube (.text "s") none), .derive 0 (.mark .disable),
        .transform .translate (.text "v") [some 1], .container .union [some 1, none, some 2]],
      _, rfl, _, Array.mem_push_self, rfl⟩
  have there : scene.nodeAt? [1, 0] = some cube := rfl
  obtain ⟨front, back, _, ⟨body, whole, marked⟩, twins, _⟩ := made.edited_in_one_place there
  have twin : scene.nodeAt? [0] = some cube := rfl
  refine ⟨made, there, twin, (twins [0] twin (by decide)).1 _, ⟨front, body, back, whole, ?_⟩, ?_⟩
  · exact marked .debug
  · decide +kernel

end Node

end SolidScene
