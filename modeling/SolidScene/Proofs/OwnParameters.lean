import SolidScene.Proofs.ConstructibleNodes
import SolidScene.Proofs.DerivationChains

/-!
The parameters that shapes and extrusions are made with. They stand in the order of
the scene language, `center` last and only if it was chosen. Derivations keep every
one of them: an update fills in under what is there, so it may bring in other names
and move the ones there are, but no value and no name is lost.
-/

namespace SolidScene

namespace Properties

theorem mem_entries_iff (properties : Properties) (property : Property) :
    property ∈ properties.entries ↔ properties.get? property.1 = some property.2 := by
  obtain ⟨name, value⟩ := property
  rw [get?_eq_lookup]
  have eq := Property.entries_eq properties.distinct
  constructor
  · intro member
    rw [eq, List.mem_filterMap] at member
    obtain ⟨other, _, found⟩ := member
    obtain ⟨stored, there, same⟩ := Option.map_eq_some_iff.1 found
    cases same
    exact there
  · intro found
    rw [eq, List.mem_filterMap]
    refine ⟨name, ?_, by rw [found]; rfl⟩
    by_contra absent
    rw [(Property.lookup_eq_none_iff _ _).2 absent] at found
    cases found

theorem entries_nodup (properties : Properties) : properties.entries.Nodup :=
  List.Nodup.of_map Prod.fst properties.distinct

theorem filter_name (properties : Properties) {property : Property}
    (member : property ∈ properties.entries) :
    properties.entries.filter (fun other => other.1 == property.1) = [property] := by
  apply List.perm_singleton.1
  rw [List.perm_ext_iff_of_nodup (properties.entries_nodup.filter _) (List.nodup_singleton _)]
  intro other
  rw [List.mem_filter, List.mem_singleton, beq_iff_eq]
  constructor
  · rintro ⟨also, name⟩
    have value := (properties.mem_entries_iff other).1 also
    rw [name, (properties.mem_entries_iff property).1 member, Option.some.injEq] at value
    exact Prod.ext name value.symm
  · rintro rfl
    exact ⟨member, rfl⟩

theorem ofList_of_distinct {added : List Property} (distinct : (added.map Prod.fst).Nodup) :
    ofList added = ⟨added, distinct⟩ := by
  apply ext_names
  · exact (names_ofList added).trans (eraseDups_of_nodup distinct)
  · intro name
    rw [get?_ofList, Property.lookup_reverse distinct, get?_eq_lookup]

theorem entries_insert {properties : Properties} {name : String} (absent : name ∉ properties.names)
    (value : Value) :
    (properties.insert name value).entries = properties.entries ++ [(name, value)] := by
  have appended : ((properties.entries ++ [(name, value)]).map Prod.fst).Nodup := by
    rw [List.map_append, List.map_singleton, ← List.concat_eq_append]
    exact properties.distinct.concat absent
  have same : properties.insert name value = ⟨_, appended⟩ := by
    rw [← ofList_of_distinct appended]
    apply ext_names
    · rw [names_insert, names_ofList, List.map_append]
      rfl
    · intro other
      rw [get?_insert, get?_ofList, List.reverse_append, List.reverse_singleton,
        List.singleton_append, List.lookup_cons, Property.lookup_reverse properties.distinct,
        get?_eq_lookup]
      by_cases here : name = other
      · simp [here]
      · simp [here, beq_false_of_ne (Ne.symm here)]
  rw [same]

theorem entries_withDefaults (own defaults : Properties) :
    (own.withDefaults defaults).entries.Perm
      (own.entries ++ defaults.entries.filter fun property => own.get? property.1 = none) := by
  -- neither side holds an entry twice, so it is enough that they have the same members
  have apart : (own.entries ++
      defaults.entries.filter fun property => own.get? property.1 = none).Nodup := by
    refine own.entries_nodup.append (defaults.entries_nodup.filter _) ?_
    intro property member added
    have absent := (List.mem_filter.1 added).2
    rw [decide_eq_true_eq, (own.mem_entries_iff property).1 member] at absent
    cases absent
  rw [List.perm_ext_iff_of_nodup (entries_nodup _) apart]
  intro property
  rw [List.mem_append, List.mem_filter, mem_entries_iff, mem_entries_iff, mem_entries_iff,
    get?_withDefaults, Option.or_eq_some_iff, decide_eq_true_eq]
  tauto

end Properties

namespace Node

theorem entries_assembled (kind : NodeKind) (children : List Node) (center : Option Bool)
    {own : List Property} (distinct : (own.map Prod.fst).Nodup)
    (absent : "center" ∉ own.map Prod.fst) :
    (((fresh kind children).centered center).update (.ofList own)).properties.entries =
      own ++ center.toList.map fun choice => ("center", .bool choice) := by
  have listed : (Properties.ofList own).entries = own := by
    rw [Properties.ofList_of_distinct distinct]
  cases center with
  | none => exact listed.trans (List.append_nil own).symm
  | some choice =>
    have new : "center" ∉ (Properties.ofList own).names := by
      rwa [Properties.names, listed]
    exact (Properties.entries_insert new _).trans (by rw [listed]; rfl)

theorem entries_derive (node : Node) (derivation : Derivation) :
    ∃ added, (node.derive derivation).properties.entries.Perm (node.properties.entries ++ added) ∧
      ∀ property ∈ added, ∃ defaults, derivation.defaults? = some defaults ∧
        property ∈ defaults.entries := by
  cases derivation with
  | mark modifier => exact ⟨[], by rw [List.append_nil]; rfl, nofun⟩
  | update defaults =>
    refine ⟨_, node.properties.entries_withDefaults defaults, fun property member => ?_⟩
    exact ⟨defaults, rfl, (List.mem_filter.1 member).1⟩

theorem entries_foldl_derive (node : Node) (chain : List Derivation) :
    ∃ added,
      (chain.foldl derive node).properties.entries.Perm (node.properties.entries ++ added) ∧
      ∀ property ∈ added, ∃ defaults ∈ Derivation.updates chain, property ∈ defaults.entries := by
  induction chain generalizing node with
  | nil => exact ⟨[], by rw [List.append_nil]; rfl, nofun⟩
  | cons first rest ih =>
    obtain ⟨added, here, given⟩ := node.entries_derive first
    obtain ⟨more, later, laterGiven⟩ := ih (node.derive first)
    refine ⟨added ++ more, ?_, fun property member => ?_⟩
    · -- what the first derivation added is among the entries that the others keep
      rw [← List.append_assoc]
      exact later.trans (here.append_right more)
    · rw [Derivation.updates_cons]
      rcases List.mem_append.1 member with early | late
      · obtain ⟨defaults, gives, inside⟩ := given property early
        exact ⟨defaults, List.mem_append_left _ (by simp [gives]), inside⟩
      · obtain ⟨defaults, gives, inside⟩ := laterGiven property late
        exact ⟨defaults, List.mem_append_right _ gives, inside⟩

theorem foldl_derive_kind (node : Node) (chain : List Derivation) :
    (chain.foldl derive node).kind = node.kind :=
  (node.foldl_derive chain).kind

theorem write_starts (node : Node) :
    ∃ rest, node.write = markText node.modifier? ++ head node.kind node.properties ++ rest := by
  obtain ⟨kind, properties, children, modifier⟩ := node
  rw [write]
  split
  · exact ⟨_, rfl⟩
  · exact ⟨_, by simp only [String.append_assoc]; rfl⟩

end Node

/-- What a node with parameters of its own is made from. -/
inductive Recipe where
  | shape (primitive : Primitive)
  | extrusion (flat : Node) (height : Value) (center : Option Bool)

namespace Recipe

def node : Recipe → Node
  | .shape primitive => primitive.node
  | .extrusion flat height center => flat.linearExtrude height center

def word : Recipe → String
  | .shape primitive => primitive.shape.name
  | .extrusion _ _ _ => NodeKind.extrusionName

/-- The parameters of the scene language in its order. Those left out have no value. -/
def arguments : Recipe → List (String × Option Value)
  | .shape (.circle radius) => [("r", some radius)]
  | .shape (.square size center) => [("size", some size), ("center", center.map .bool)]
  | .shape (.polygon points) => [("points", some points)]
  | .shape (.text content size font) =>
    [("text", some content), ("size", size.map .number), ("font", font.map .text)]
  | .shape (.sphere radius) => [("r", some radius)]
  | .shape (.cube size center) => [("size", some size), ("center", center.map .bool)]
  | .shape (.cylinder height (.uniform radius) center) =>
    [("h", some height), ("r", some radius), ("center", center.map .bool)]
  | .shape (.cylinder height (.cone bottom top) center) =>
    [("h", some height), ("r1", some bottom), ("r2", some top), ("center", center.map .bool)]
  | .extrusion _ height center => [("height", some height), ("center", center.map .bool)]

def parameters (recipe : Recipe) : List Property :=
  recipe.arguments.filterMap fun argument => argument.2.map (argument.1, ·)

theorem parameters_shape (primitive : Primitive) :
    (Recipe.shape primitive).parameters =
      primitive.ownParameters ++
        primitive.center?.toList.map fun choice => ("center", .bool choice) := by
  cases primitive with
  | circle radius => rfl
  | square size center => cases center <;> rfl
  | polygon points => rfl
  | text content size font => cases size <;> cases font <;> rfl
  | sphere radius => rfl
  | cube size center => cases center <;> rfl
  | cylinder height radius center => cases radius <;> cases center <;> rfl

theorem ownParameters_distinct (primitive : Primitive) :
    (primitive.ownParameters.map Prod.fst).Nodup ∧
      "center" ∉ primitive.ownParameters.map Prod.fst := by
  cases primitive with
  | text content size font =>
    cases size <;> cases font <;> simp [Primitive.ownParameters]
  | cylinder height radius center =>
    cases radius <;> simp [Primitive.ownParameters, Radius.parameters]
  | _ => simp [Primitive.ownParameters]

theorem node_entries (recipe : Recipe) : recipe.node.properties.entries = recipe.parameters := by
  cases recipe with
  | shape primitive =>
    obtain ⟨distinct, absent⟩ := ownParameters_distinct primitive
    rw [parameters_shape]
    exact Node.entries_assembled _ _ _ distinct absent
  | extrusion flat height center =>
    have distinct : (([("height", height)] : List Property).map Prod.fst).Nodup :=
      List.nodup_singleton _
    have entries := Node.entries_assembled .linearExtrude [flat] center distinct (by simp)
    refine Eq.trans entries ?_
    cases center <;> rfl

theorem head_eq (recipe : Recipe) (properties : Properties) :
    Node.head recipe.node.kind properties =
      recipe.word ++ "(" ++ ", ".intercalate (properties.entries.map Property.write) ++ ")" := by
  rw [← Properties.writeEntries_eq]
  cases recipe with
  | shape primitive =>
    have kind : primitive.node.kind = .shape primitive.shape := Node.centered_kind _ _
    rw [node, kind]
    rfl
  | extrusion flat height center =>
    rw [node, Node.linearExtrude_kind]
    rfl

/-- A shape or an extrusion has exactly the parameters it was made with, in the order of
the scene language. After any chain of derivations its header still lists each of them
once, with the value it was given; whatever else is listed came in by an update. -/
theorem parameters_kept (recipe : Recipe) :
    recipe.node.properties.entries = recipe.parameters ∧
    ∀ chain : List Node.Derivation,
      let derived := chain.foldl Node.derive recipe.node
      let listed := derived.properties.entries
      (∃ rest, derived.write = Node.markText derived.modifier? ++ recipe.word ++ "(" ++
        ", ".intercalate (listed.map fun property => property.1 ++ "=" ++ property.2.write) ++
          ")" ++ rest) ∧
      (∀ property ∈ recipe.parameters,
        listed.filter (fun other => other.1 == property.1) = [property]) ∧
      ∃ added, listed.Perm (recipe.parameters ++ added) ∧ ∀ property ∈ added,
        ∃ defaults ∈ Node.Derivation.updates chain, property ∈ defaults.entries := by
  refine ⟨recipe.node_entries, fun chain => ?_⟩
  intro derived listed
  obtain ⟨added, kept, given⟩ := recipe.node.entries_foldl_derive chain
  rw [recipe.node_entries] at kept
  refine ⟨?_, fun property member => ?_, added, kept, given⟩
  · obtain ⟨rest, text⟩ := derived.write_starts
    have kind : derived.kind = recipe.node.kind := Node.foldl_derive_kind _ _
    have shown : (listed.map fun property => property.1 ++ "=" ++ property.2.write) =
        listed.map Property.write := rfl
    refine ⟨rest, ?_⟩
    rw [text, kind, head_eq, shown]
    simp only [String.append_assoc, listed]
  · exact derived.properties.filter_name (kept.mem_iff.2 (List.mem_append_left _ member))

/-- A cone that two updates try to change, with all its parameters moved behind others. -/
theorem parameters_kept_of_cone :
    let cone := Recipe.shape
      (.cylinder (.text "tall") (.cone (.text "wide") (.text "thin")) (some true))
    let first := Properties.ofList [("center", .bool false), ("r2", .text "x"), ("$fn", .text "8")]
    let second := Properties.ofList [("$fn", .text "9"), ("r1", .text "y"), ("h", .text "z")]
    let derived := [.update first, .mark .debug, .update second].foldl Node.derive cone.node
    ("r2", .text "thin") ∈ cone.parameters ∧
      derived.properties.entries.filter (fun other => other.1 == "r2") = [("r2", .text "thin")] ∧
      cone.node.write =
        "cylinder(h=\"tall\", r1=\"wide\", r2=\"thin\", center=true);\n" ∧
      derived.write =
        "#cylinder($fn=\"8\", r1=\"wide\", h=\"tall\", center=true, r2=\"thin\");\n" := by
  intro cone first second derived
  have given : ("r2", .text "thin") ∈ cone.parameters :=
    List.mem_cons_of_mem _ (List.mem_cons_of_mem _ List.mem_cons_self)
  obtain ⟨_, once, _⟩ :=
    cone.parameters_kept.2 [.update first, .mark .debug, .update second]
  refine ⟨given, once _ given, ?_, ?_⟩ <;> decide +kernel

end Recipe

end SolidScene
