import SolidScene.Proofs.LineStructure
import SolidScene.Proofs.PropertyHistory

/-!
Well-formed nodes. Writing a node relies on facts that it does not check: what is
written as a statement must have nothing below it. Every node that a scene program
makes has them, at all depths, and so the text has the header of every node that
occurs, in order, and otherwise only lines that close a block.
-/

namespace SolidScene

namespace Properties

theorem mem_names_withDefaults (own defaults : Properties) (name : String) :
    name ∈ (own.withDefaults defaults).names ↔ name ∈ defaults.names ∨ name ∈ own.names := by
  rw [names_withDefaults, List.mem_eraseDups, List.mem_append]

theorem mem_names_ofList (added : List Property) (name : String) :
    name ∈ (ofList added).names ↔ name ∈ added.map Prod.fst := by
  rw [names_ofList, List.mem_eraseDups]

end Properties

def Shape.givenNames : Shape → List (List String)
  | .circle => [["r"]]
  | .square => [["size"]]
  | .polygon => [["points"]]
  | .text => [["text"]]
  | .sphere => [["r"]]
  | .cube => [["size"]]
  | .cylinder => [["h", "r"], ["h", "r1", "r2"]]

theorem Primitive.given_names (primitive : Primitive) :
    ∃ given ∈ primitive.shape.givenNames, given ⊆ primitive.ownParameters.map Prod.fst := by
  cases primitive with
  | cylinder height radius center =>
    cases radius <;> simp [shape, Shape.givenNames, ownParameters, Radius.parameters]
  | _ => simp [shape, Shape.givenNames, ownParameters]

namespace Node

/-- What is true of a node by its kind. -/
structure WellFormed (node : Node) : Prop where
  shape : ∀ form, node.kind = .shape form →
    node.children = [] ∧ ∃ given ∈ form.givenNames, given ⊆ node.properties.names
  extrusion : node.kind = .linearExtrude →
    (∃ child, node.children = [child]) ∧ "height" ∈ node.properties.names
  distinct : node.properties.names.Nodup

theorem names_of_update (node : Node) (defaults : Properties) :
    node.properties.names ⊆ (node.update defaults).properties.names := by
  intro name member
  exact (Properties.mem_names_withDefaults _ _ _).2 (.inr member)

theorem defaults_of_update (node : Node) (defaults : Properties) :
    defaults.names ⊆ (node.update defaults).properties.names := by
  intro name member
  exact (Properties.mem_names_withDefaults _ _ _).2 (.inl member)

theorem names_of_derive (node : Node) (derivation : Derivation) :
    node.properties.names ⊆ (node.derive derivation).properties.names := by
  cases derivation with
  | mark modifier => exact List.Subset.refl _
  | update defaults => exact node.names_of_update defaults

theorem wellFormed_restored : Restored WellFormed where
  primitive primitive := by
    have made : primitive.node.kind = .shape primitive.shape := centered_kind _ _
    refine ⟨fun form same => ⟨primitive.node_children, ?_⟩, ?_, Properties.distinct_names _⟩
    · rw [made] at same
      cases same
      obtain ⟨given, member, inside⟩ := primitive.given_names
      refine ⟨given, member, fun name named => ?_⟩
      apply defaults_of_update
      exact (Properties.mem_names_ofList _ _).2 (inside named)
    · rw [made]
      nofun
  fresh kind children noShape noExtrusion :=
    ⟨fun form same => absurd same (noShape form), fun same => absurd same noExtrusion,
      Properties.distinct_names _⟩
  linearExtrude node height center := by
    refine ⟨?_, fun _ => ⟨⟨node, linearExtrude_children node height center⟩, ?_⟩,
      Properties.distinct_names _⟩
    · rw [linearExtrude_kind]
      nofun
    · apply defaults_of_update
      exact List.mem_singleton_self "height"
  derive node derivation wellFormed := by
    refine ⟨fun form same => ?_, fun same => ?_, Properties.distinct_names _⟩
    · rw [derive_kind] at same
      obtain ⟨childless, given, member, inside⟩ := wellFormed.shape form same
      rw [derive_children]
      exact ⟨childless, given, member, fun name named => names_of_derive _ _ (inside named)⟩
    · rw [derive_kind] at same
      obtain ⟨single, height⟩ := wellFormed.extrusion same
      rw [derive_children]
      exact ⟨single, names_of_derive _ _ height⟩

end Node

theorem LineRole.of?_eq_closing (line : Line) :
    LineRole.of? line = some .closing ↔ line = Node.closingLine := by
  by_cases closes : line = Node.closingLine
  · have marks : LineRole.closing.Marks line := closes
    exact iff_of_true marks.of? closes
  · have still : ¬ LineRole.closing.Marks line := closes
    refine iff_of_false ?_ closes
    rw [LineRole.of?, if_neg still]
    split <;> simp

theorem leveled_snd (lines : List Line) (level : Nat) :
    (leveled level lines).map Prod.snd =
      lines.filter fun line => decide (line ≠ Node.closingLine) := by
  induction lines generalizing level with
  | nil => rfl
  | cons line rest ih =>
    have closing := LineRole.of?_eq_closing line
    cases role : LineRole.of? line with
    | none => simp [leveled, role, ih, ← closing]
    | some role' => cases role' <;> simp [leveled, role, ih, ← closing]

namespace Node

/-- Every node at any depth of a scene is well-formed, and none is lost when it is
written: the lines of the text that do not close a block are the headers of the nodes,
one for every occurrence. -/
theorem Constructible.wellFormed_and_written {node : Node} (constructible : node.Constructible) :
    (∀ other ∈ node.occurrences, other.WellFormed) ∧
      ∃ lines : List Line, node.write.toList = ended lines ∧
        (lines.filter fun line => decide (line ≠ closingLine)) = node.occurrences.map header := by
  refine ⟨constructible.restored wellFormed_restored, node.lines, node.write_eq_ended, ?_⟩
  -- only shapes are written without what is below them
  have headers := leveled_lines node 0 [] constructible.leafShapes
  rw [List.append_nil, leveled, List.append_nil] at headers
  rw [← leveled_snd node.lines 0, headers, List.map_map, ← layers_nodes node 0, List.map_map]
  rfl

/-- An updated and extruded circle in a block whose command is broken over two lines. -/
theorem wellFormed_and_written_extrusion :
    let circle := (Primitive.circle (.text "r")).node.update (.ofList [("r", .bool true)])
    let extrusion := circle.linearExtrude (.text "h") none
    let scene := rawBlock "// \x7d\nlet (a = 1)" [none, some extrusion]
    scene.Constructible ∧ (∀ other ∈ scene.occurrences, other.WellFormed) ∧
      ∃ lines : List Line, scene.write.toList = ended lines ∧
        (lines.filter fun line => decide (line ≠ closingLine)) =
          ["// \x7d\nlet (a = 1) \x7b".toList, "linear_extrude(height=\"h\") \x7b".toList,
            "circle(r=\"r\");".toList] := by
  intro circle extrusion scene
  have made : scene.Constructible :=
    ⟨[.primitive (.circle (.text "r")), .derive 0 (.update (.ofList [("r", .bool true)])),
        .linearExtrude 1 (.text "h") none, .rawBlock "// \x7d\nlet (a = 1)" [none, some 2]],
      _, rfl, _, Array.mem_push_self, rfl⟩
  obtain ⟨wellFormed, lines, written, headers⟩ := made.wellFormed_and_written
  exact ⟨made, wellFormed, lines, written, headers.trans (by decide +kernel)⟩

end Node

end SolidScene
