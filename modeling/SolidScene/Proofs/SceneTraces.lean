import Mathlib.Data.List.Perm.Basic
import SolidScene.Proofs.SceneParts

/-!
Traces of a scene. A trace notes the sites of the scene in their order. Where nodes
are pruned, the blocks of what lies below them are missing, and nothing else changes.

Visitors with one method of their own. What is left unsaid walks on, so a visitor that
only looks at values comes past the values that nodes hold, in the order of the trace,
and one that only names nodes after the walk below them comes past the nodes in
post-order. That order is the reverse of the pre-order of the mirrored scene.
-/

namespace SolidScene

def Part.isPruned (pruned : Node → Bool) : Part → Bool
  | .node owner => pruned owner
  | .value _ => false

namespace Site

def isHidden (pruned : Node → Bool) (site : Site) : Bool :=
  site.trail.any fun entry => entry.1.isPruned pruned

/-- What a trace that starts at a depth notes of the part. -/
def sightingFrom (start : Nat) (site : Site) : Sighting :=
  match site.part with
  | .node node => .node (start + site.depth) node.name
  | .value value => .value (start + site.depth) value

def sighting? (values : Bool) (pruned : Node → Bool) (start : Nat) (site : Site) :
    Option Sighting :=
  if (values || site.part.isNode) && !site.isHidden pruned then some (site.sightingFrom start)
  else none

theorem isHidden_under (pruned : Node → Bool) (parent : Part) (index : Nat) (site : Site) :
    (site.under parent index).isHidden pruned =
      (parent.isPruned pruned || site.isHidden pruned) :=
  rfl

theorem sightingFrom_under (parent : Part) (index start : Nat) (site : Site) :
    (site.under parent index).sightingFrom start =
      site.sightingFrom (start + if parent.isNode then 1 else 0) := by
  obtain ⟨trail, part⟩ := site
  cases part <;> cases parent <;>
    simp [sightingFrom, under, depth, Part.isNode, Nat.add_assoc, Nat.add_comm]

theorem sighting?_under (values : Bool) (pruned : Node → Bool) (parent : Part) (index start : Nat)
    (site : Site) :
    (site.under parent index).sighting? values pruned start =
      if parent.isPruned pruned then none
      else site.sighting? values pruned (start + if parent.isNode then 1 else 0) := by
  cases prunes : parent.isPruned pruned <;>
    simp [sighting?, isHidden_under, sightingFrom_under, prunes]

end Site

namespace Part

def sightings (values : Bool) (pruned : Node → Bool) (start : Nat) (part : Part) :
    List Sighting :=
  part.sites.filterMap (Site.sighting? values pruned start)

variable {values : Bool} {pruned : Node → Bool}

theorem sightings_below (start : Nat) (part : Part) :
    part.sitesBelow.filterMap (Site.sighting? values pruned start) =
      if part.isPruned pruned then []
      else part.below.flatMap (sightings values pruned (start + if part.isNode then 1 else 0)) := by
  rw [sitesBelow,
    part.filterMap_spread _ fun index => Site.sighting?_under values pruned part index start]
  cases part.isPruned pruned with
  | true => simp
  | false => rfl

theorem sightings_node (start : Nat) (node : Node) :
    sightings values pruned start (.node node) = .node start node.name ::
      if pruned node then []
      else (below (.node node)).flatMap (sightings values pruned (start + 1)) := by
  rw [sightings, sites_eq, List.filterMap_cons, sightings_below]
  simp [Site.sighting?, Site.isHidden, Site.top, Site.sightingFrom, Site.depth, isNode, isPruned]

theorem sightings_value (start : Nat) (value : Value) :
    sightings values pruned start (.value value) =
      (if values then [.value start value] else []) ++
        (below (.value value)).flatMap (sightings values pruned start) := by
  rw [sightings, sites_eq, List.filterMap_cons, sightings_below]
  cases values <;>
    simp [Site.sighting?, Site.isHidden, Site.top, Site.sightingFrom, Site.depth, isNode, isPruned]

end Part

namespace Trace

variable (values : Bool) (pruned : Node → Bool)

theorem visitor_onNode (node : Node) (walk : Trace → Trace) (depth : Nat)
    (latest : List Sighting) :
    (visitor values pruned).onNode node walk ⟨depth, latest⟩ =
      if pruned node then ⟨depth, .node depth node.name :: latest⟩
      else
        let below := walk ⟨depth + 1, .node depth node.name :: latest⟩
        ⟨below.depth - 1, below.latest⟩ := rfl

theorem visitor_onValue (value : Value) (walk : Trace → Trace) (depth : Nat)
    (latest : List Sighting) :
    (visitor values pruned).onValue value walk ⟨depth, latest⟩ =
      walk ⟨depth, if values then .value depth value :: latest else latest⟩ := by
  cases values <;> rfl

theorem visitPart_eq_sightings (part : Part) (depth : Nat) (latest : List Sighting) :
    (visitor values pruned).visitPart part ⟨depth, latest⟩ =
      ⟨depth, (part.sightings values pruned depth).reverse ++ latest⟩ := by
  induction part using Part.induction generalizing depth latest with
  | step part ih =>
    have walk (inner : Nat) (latest : List Sighting) :
        (visitor values pruned).visitParts part.below ⟨inner, latest⟩ =
          ⟨inner, (part.below.flatMap (Part.sightings values pruned inner)).reverse ++ latest⟩ :=
      Visitor.visitParts_notes (Trace.mk inner) (fun next member => ih next member inner) latest
    rw [Visitor.visitPart_eq]
    cases part with
    | node node =>
      rw [Visitor.onPart, visitor_onNode, walk, Part.sightings_node]
      cases pruned node <;> simp
    | value value =>
      rw [Visitor.onPart, visitor_onValue, walk, Part.sightings_value]
      cases values <;> simp

theorem ofNode_eq_sightings (root : Node) :
    ofNode values pruned root = (Part.node root).sightings values pruned 0 := by
  have visited := visitPart_eq_sightings values pruned (.node root) 0 []
  rw [Visitor.visitPart] at visited
  simp [ofNode, visited]

end Trace

theorem Site.isHidden_iff {part : Part} {other : Site} (pruned : Node → Bool)
    (member : other ∈ part.sites) :
    other.isHidden pruned = true ↔
      ∃ site ∈ part.sites, site.part.isPruned pruned = true ∧ site.IsAbove other := by
  induction part using Part.induction generalizing other with
  | step part ih =>
    rcases (part.mem_sites other).1 member with rfl | below
    · refine iff_of_false (by simp [isHidden, top]) ?_
      rintro ⟨site, _, _, above⟩
      exact not_isAbove_top _ _ above
    · obtain ⟨index, next, inner, found, inside, rfl⟩ := (part.mem_sitesBelow other).1 below
      rw [isHidden_under, Bool.or_eq_true, ih next (List.mem_of_getElem? found) inside]
      constructor
      · rintro (prunes | ⟨higher, there, prunes, above⟩)
        · exact ⟨top part, (part.mem_sites _).2 (.inl rfl), prunes, Part.isAbove_sitesBelow below⟩
        · exact ⟨higher.under part index, Part.under_mem_sites found there, prunes,
            (under_isAbove_under ..).2 ⟨rfl, above⟩⟩
      · rintro ⟨site, there, prunes, above⟩
        rcases (Part.isAbove_under found there).1 above with rfl | ⟨higher, inner, still, rfl⟩
        · exact .inl prunes
        · exact .inr ⟨higher, inner, prunes, still⟩

theorem Site.isHidden_never (site : Site) : site.isHidden (fun _ => false) = false := by
  rw [isHidden, List.any_eq_false]
  rintro ⟨parent, index⟩ _
  cases parent <;> simp [Part.isPruned]

namespace Trace

theorem ofNode_eq_filter (pruned : Node → Bool) (root : Node) :
    ofNode true pruned root =
      ((Part.node root).sites.filter fun site => !site.isHidden pruned).map
        (Site.sightingFrom 0) := by
  rw [ofNode_eq_sightings, Part.sightings, ← List.filterMap_eq_map, List.filterMap_filter]
  exact congrArg (List.filterMap · _) (funext fun site => by simp [Site.sighting?])

theorem ofNode_eq_map (root : Node) :
    ofNode true (fun _ => false) root = (Part.node root).sites.map (Site.sightingFrom 0) := by
  rw [ofNode_eq_filter, List.filter_eq_self.2]
  simp [Site.isHidden_never]

/-- A trace notes the sites of a scene in their order, each once: a node at its depth,
then its parameter and its property values with what they contain, then its children.
The parts below a site are one block right behind it, and pruning leaves out the blocks
of the pruned nodes and nothing else. -/
theorem ofNode_follows_sites (root : Node) :
    let sites := (Part.node root).sites
    (∀ site, site ∈ sites ↔ (Part.node root).Leads site.trail site.part) ∧
      (sites.Pairwise fun site other => List.Lex (· < ·) site.address other.address) ∧
      (∀ site ∈ sites, ∃ before block after, sites = before ++ site :: (block ++ after) ∧
        ∀ other ∈ sites, other ∈ block ↔ site.IsAbove other) ∧
      ofNode true (fun _ => false) root = sites.map (Site.sightingFrom 0) ∧
      ∀ pruned : Node → Bool,
        (∀ other ∈ sites, other.isHidden pruned = true ↔
          ∃ site ∈ sites, site.part.isPruned pruned = true ∧ site.IsAbove other) ∧
        ofNode true pruned root =
          (sites.filter fun site => !site.isHidden pruned).map (Site.sightingFrom 0) := by
  intro sites
  refine ⟨Part.mem_sites_iff_leads _, Part.sites_ordered _, fun _ => Part.sites_block,
    ofNode_eq_map root, fun pruned => ⟨fun _ => Site.isHidden_iff pruned, ?_⟩⟩
  exact ofNode_eq_filter pruned root

end Trace

namespace Site

/-- The value at a site, if it lies in a node and not in a vector. -/
def topValue? (site : Site) : Option Value :=
  match site.part with
  | .node _ => none
  | .value value => if site.trail.all fun entry => entry.1.isNode then some value else none

def nodeName? (site : Site) : Option String :=
  match site.part with
  | .node node => some node.name
  | .value _ => none

theorem topValue?_under (parent : Part) (index : Nat) (site : Site) :
    (site.under parent index).topValue? = if parent.isNode then site.topValue? else none := by
  obtain ⟨trail, part⟩ := site
  cases part <;> cases parent <;> rfl

theorem nodeName?_under (parent : Part) (index : Nat) (site : Site) :
    (site.under parent index).nodeName? = site.nodeName? := rfl

end Site

/-- The addresses in post-order: what lies below comes before, and what lies below one
part before what lies below a later one. -/
inductive EndsBefore : List Nat → List Nat → Prop where
  | deeper (index : Nat) (rest : List Nat) : EndsBefore (index :: rest) []
  | apart {index other : Nat} {rest otherRest : List Nat} (less : index < other) :
    EndsBefore (index :: rest) (other :: otherRest)
  | within {index : Nat} {rest otherRest : List Nat} (ends : EndsBefore rest otherRest) :
    EndsBefore (index :: rest) (index :: otherRest)

namespace Part

open Site

/-- All parts of the tree, each after those below it. -/
def lateSites (part : Part) : List Site :=
  (part.below.zipIdx.attach.flatMap fun entry =>
    entry.1.1.lateSites.map (under part entry.1.2)) ++ [top part]
termination_by sizeOf part
decreasing_by exact sizeOf_below (List.fst_mem_of_mem_zipIdx entry.2)

theorem lateSites_eq (part : Part) : part.lateSites = part.spread lateSites ++ [top part] := by
  rw [lateSites, ← spread_attach]

theorem lateSites_perm (part : Part) : part.lateSites.Perm part.sites := by
  induction part using Part.induction with
  | step part ih =>
    have below : (part.spread lateSites).Perm part.sitesBelow :=
      .flatMap_left _ fun entry member => (ih entry.1 (List.fst_mem_of_mem_zipIdx member)).map _
    rw [lateSites_eq, sites_eq]
    exact List.perm_append_comm.trans (below.cons _)

theorem lateSites_ordered (part : Part) :
    part.lateSites.Pairwise fun site other => EndsBefore site.address other.address := by
  induction part using Part.induction with
  | step part ih =>
    rw [lateSites_eq, List.pairwise_append]
    refine ⟨spread_pairwise .apart .within ih, List.pairwise_singleton _ _, ?_⟩
    intro site member other last
    obtain rfl := List.mem_singleton.1 last
    obtain ⟨entry, _, inside⟩ := List.mem_flatMap.1 member
    obtain ⟨inner, _, rfl⟩ := List.mem_map.1 inside
    exact .deeper entry.2 inner.address

def names (part : Part) : List String :=
  part.sites.filterMap nodeName?

def lateNames (part : Part) : List String :=
  part.lateSites.filterMap nodeName?

def topValues (part : Part) : List Value :=
  part.sites.filterMap topValue?

theorem topValues_node (node : Node) :
    topValues (.node node) = (below (.node node)).flatMap topValues := by
  rw [topValues, sites_eq, List.filterMap_cons, sitesBelow,
    filterMap_spread _ _ (topValue?_under (.node node))]
  rfl

theorem topValues_value (value : Value) : topValues (.value value) = [value] := by
  rw [topValues, sites_eq, List.filterMap_cons, sitesBelow,
    filterMap_spread _ _ (topValue?_under (.value value))]
  simp [topValue?, top, isNode]

theorem lateNames_eq (part : Part) :
    part.lateNames = part.below.flatMap lateNames ++ (nodeName? (top part)).toList := by
  rw [lateNames, lateSites_eq, List.filterMap_append, filterMap_spread _ _ (nodeName?_under part)]
  cases part <;> rfl

theorem names_eq (part : Part) :
    part.names = (nodeName? (top part)).toList ++ part.below.flatMap names := by
  rw [names, sites_eq, List.filterMap_cons, sitesBelow, filterMap_spread _ _ (nodeName?_under part)]
  cases part <;> rfl

end Part

theorem topValuesVisitor_visitPart (part : Part) (latest : List Value) :
    topValuesVisitor.visitPart part latest = part.topValues.reverse ++ latest := by
  induction part using Part.induction generalizing latest with
  | step part ih =>
    rw [Visitor.visitPart_eq]
    cases part with
    | node node =>
      rw [Part.topValues_node]
      exact Visitor.visitParts_notes id ih latest
    | value value =>
      rw [Part.topValues_value]
      rfl

theorem postorderVisitor_visitPart (part : Part) (latest : List String) :
    postorderVisitor.visitPart part latest = part.lateNames.reverse ++ latest := by
  induction part using Part.induction generalizing latest with
  | step part ih =>
    have walk : postorderVisitor.visitParts part.below latest =
        (part.below.flatMap Part.lateNames).reverse ++ latest :=
      Visitor.visitParts_notes id ih latest
    rw [Visitor.visitPart_eq, Part.lateNames_eq, List.reverse_append]
    cases part with
    | node node => exact congrArg (node.name :: ·) walk
    | value value => exact walk

namespace Node

mutual

/-- The tree with all its child lists reversed. -/
def mirrored : Node → Node
  | ⟨kind, properties, children, modifier⟩ =>
    ⟨kind, properties, mirroredAll children, modifier⟩

def mirroredAll : List Node → List Node
  | [] => []
  | first :: rest => mirroredAll rest ++ [mirrored first]

end

end Node

namespace Part

theorem flatMap_below_node {Entry : Type} {entries : Part → List Entry}
    (silent : ∀ value, entries (.value value) = []) (node : Node) :
    (below (.node node)).flatMap entries =
      node.children.flatMap fun child => entries (.node child) := by
  have positional : (positional node.kind).flatMap entries = [] := by
    cases node.kind <;> simp [positional, silent]
  simp [below, positional, silent, List.flatMap_map]

theorem below_value {part next : Part} (isValue : part.isNode = false)
    (member : next ∈ part.below) : next.isNode = false := by
  cases part with
  | node node => cases isValue
  | value value =>
    cases value with
    | vector items =>
      obtain ⟨item, _, rfl⟩ := List.mem_map.1 member
      rfl
    | _ => cases member

theorem names_value (value : Value) : names (.value value) = [] := by
  suffices silent : ∀ part : Part, part.isNode = false → part.names = [] from silent _ rfl
  intro part
  induction part using Part.induction with
  | step part ih =>
    intro isValue
    rw [names_eq, List.flatMap_eq_nil_iff.2 fun next member =>
      ih next member (below_value isValue member)]
    cases part with
    | node node => cases isValue
    | value value => rfl

theorem lateNames_value (value : Value) : lateNames (.value value) = [] :=
  List.eq_nil_of_subset_nil (names_value value ▸ ((lateSites_perm _).filterMap _).subset)

theorem names_node (node : Node) :
    names (.node node) = node.name :: node.children.flatMap fun child => names (.node child) := by
  rw [names_eq, flatMap_below_node names_value]
  rfl

theorem lateNames_node (node : Node) :
    lateNames (.node node) =
      (node.children.flatMap fun child => lateNames (.node child)) ++ [node.name] := by
  rw [lateNames_eq, flatMap_below_node lateNames_value]
  rfl

mutual

theorem names_mirrored : ∀ node : Node,
    names (.node node.mirrored) = (lateNames (.node node)).reverse
  | ⟨kind, properties, children, modifier⟩ => by
    rw [names_node, lateNames_node, List.reverse_append, Node.mirrored]
    exact congrArg (kind.name :: ·) (names_mirroredAll children)

theorem names_mirroredAll : ∀ nodes : List Node,
    ((Node.mirroredAll nodes).flatMap fun node => names (.node node)) =
      (nodes.flatMap fun node => lateNames (.node node)).reverse
  | [] => rfl
  | first :: rest => by
    simp [Node.mirroredAll, names_mirrored first, names_mirroredAll rest]

end

end Part

def Sighting.name? : Sighting → Option String
  | .node _ name => some name
  | .value _ _ => none

def preorder (root : Node) : List String :=
  (Trace.ofNode false (fun _ => false) root).filterMap Sighting.name?

theorem preorder_eq_names (root : Node) : preorder root = (Part.node root).names := by
  have named (site : Site) :
      (site.sighting? false (fun _ => false) 0).bind Sighting.name? = site.nodeName? := by
    obtain ⟨trail, part⟩ := site
    cases part <;>
      simp [Site.sighting?, Site.isHidden_never, Site.nodeName?, Part.isNode, Site.sightingFrom,
        Sighting.name?]
  rw [preorder, Trace.ofNode_eq_sightings, Part.sightings, List.filterMap_filterMap]
  simp [named, Part.names]

theorem postorder_eq_lateNames (root : Node) : postorder root = (Part.node root).lateNames := by
  have visited := postorderVisitor_visitPart (.node root) []
  rw [Visitor.visitPart] at visited
  simp [postorder, visited]

theorem topValues_eq (root : Node) : topValues root = (Part.node root).topValues := by
  have visited := topValuesVisitor_visitPart (.node root) []
  rw [Visitor.visitPart] at visited
  simp [topValues, visited]

/-- Visitors that leave a method unsaid see the scene that a trace sees, which has both.
The one that only looks at values meets just the values that nodes hold, in the same
order; the one that names nodes after the walk has the names of the trace in post-order,
which is the pre-order of the mirrored scene backwards. -/
theorem unsaid_methods_walk_on (root : Node) :
    let sites := (Part.node root).sites
    Trace.ofNode true (fun _ => false) root = sites.map (Site.sightingFrom 0) ∧
      topValues root = sites.filterMap Site.topValue? ∧
      (postorder root).Perm (preorder root) ∧
      (∃ late : List Site, late.Perm (sites.filter fun site => site.part.isNode) ∧
        (late.Pairwise fun site other => EndsBefore site.address other.address) ∧
        postorder root = late.filterMap Site.nodeName?) ∧
      postorder root = (preorder root.mirrored).reverse := by
  intro sites
  refine ⟨Trace.ofNode_eq_map root, topValues_eq root, ?_, ?_, ?_⟩
  · rw [postorder_eq_lateNames, preorder_eq_names]
    exact (Part.lateSites_perm _).filterMap _
  · refine ⟨(Part.node root).lateSites.filter fun site => site.part.isNode,
      (Part.lateSites_perm _).filter _, (Part.lateSites_ordered _).filter _, ?_⟩
    rw [postorder_eq_lateNames, Part.lateNames, List.filterMap_filter]
    refine congrArg (List.filterMap · _) (funext fun site => ?_)
    obtain ⟨trail, part⟩ := site
    cases part <;> rfl
  · rw [postorder_eq_lateNames, preorder_eq_names, Part.names_mirrored, List.reverse_reverse]

end SolidScene
