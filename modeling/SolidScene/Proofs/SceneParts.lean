import SolidScene.Traversal

/-!
Parts of a scene. Nodes and the values they hold are the parts of one tree: below a
node lie the parameter of a transform, the values of its properties and its
children, below a vector its items. The trail of a part leads to it from the top.
The sites of a part are all parts of its tree with their trails, each before those
below it; a walk comes past them in this order, whatever the visitor does there.
-/

namespace SolidScene

inductive Part where
  | node (node : Node)
  | value (value : Value)

namespace Part

def positional : NodeKind → List Part
  | .transform _ parameter => [.value parameter]
  | _ => []

def below : Part → List Part
  | .node owner =>
    positional owner.kind ++ (owner.properties.entries.map fun property => .value property.2) ++
      owner.children.map .node
  | .value (.vector items) => items.map .value
  | .value _ => []

def isNode : Part → Bool
  | .node _ => true
  | .value _ => false

theorem sizeOf_positional {kind : NodeKind} {next : Part} (member : next ∈ positional kind) :
    sizeOf next < 2 + sizeOf kind := by
  cases kind with
  | transform operation parameter =>
    obtain rfl := List.mem_singleton.1 member
    simp
    omega
  | _ => cases member

theorem sizeOf_below {part next : Part} (member : next ∈ part.below) :
    sizeOf next < sizeOf part := by
  cases part with
  | node owner =>
    obtain ⟨kind, ⟨entries, distinct⟩, children, modifier⟩ := owner
    simp only [below, List.mem_append, List.mem_map] at member
    rcases member with (positional | ⟨property, inside, rfl⟩) | ⟨child, inside, rfl⟩
    · have smaller := sizeOf_positional positional
      simp
      omega
    · have smaller := List.sizeOf_lt_of_mem inside
      obtain ⟨name, given⟩ := property
      simp at smaller ⊢
      omega
    · have smaller := List.sizeOf_lt_of_mem inside
      simp
      omega
  | value given =>
    cases given with
    | vector items =>
      obtain ⟨item, inside, rfl⟩ := List.mem_map.1 member
      have smaller := List.sizeOf_lt_of_mem inside
      simp
      omega
    | _ => cases member

theorem induction {motive : Part → Prop}
    (step : ∀ part : Part, (∀ next ∈ part.below, motive next) → motive part) (part : Part) :
    motive part :=
  step part fun next _ => induction step next
termination_by sizeOf part
decreasing_by exact sizeOf_below ‹_›

/-- A trail leads from a part to one of its tree: it holds the parts on the way, each
with the number of the next one among those right below it. -/
def Leads : Part → List (Part × Nat) → Part → Prop
  | origin, [], part => part = origin
  | origin, (parent, index) :: rest, part =>
    parent = origin ∧ ∃ next, origin.below[index]? = some next ∧ Leads next rest part

end Part

/-- A part of a scene with the trail that leads to it. -/
structure Site where
  trail : List (Part × Nat)
  part : Part

namespace Site

def top (part : Part) : Site :=
  ⟨[], part⟩

def under (parent : Part) (index : Nat) (site : Site) : Site :=
  ⟨(parent, index) :: site.trail, site.part⟩

def address (site : Site) : List Nat :=
  site.trail.map Prod.snd

def depth (site : Site) : Nat :=
  site.trail.countP fun entry => entry.1.isNode

def IsAbove (site other : Site) : Prop :=
  ∃ index rest, other.address = site.address ++ index :: rest

@[simp]
theorem address_top (part : Part) : (top part).address = [] := rfl

@[simp]
theorem part_under (parent : Part) (index : Nat) (site : Site) :
    (site.under parent index).part = site.part := rfl

theorem not_isAbove_top (site : Site) (part : Part) : ¬ site.IsAbove (top part) := by
  rintro ⟨index, rest, same⟩
  simp at same

theorem under_isAbove_under (site other : Site) (parent otherParent : Part)
    (index otherIndex : Nat) :
    (site.under parent index).IsAbove (other.under otherParent otherIndex) ↔
      otherIndex = index ∧ site.IsAbove other := by
  constructor
  · rintro ⟨next, rest, same⟩
    obtain ⟨head, tail⟩ := List.cons.inj same
    exact ⟨head, next, rest, tail⟩
  · rintro ⟨rfl, next, rest, same⟩
    exact ⟨next, rest, congrArg _ same⟩

end Site

namespace Part

open Site

def sites (part : Part) : List Site :=
  top part :: part.below.zipIdx.attach.flatMap fun entry =>
    entry.1.1.sites.map (under part entry.1.2)
termination_by sizeOf part
decreasing_by exact sizeOf_below (List.fst_mem_of_mem_zipIdx entry.2)

/-- The sites that each of the parts right below has, seen from the part. -/
def spread (part : Part) (sitesOf : Part → List Site) : List Site :=
  part.below.zipIdx.flatMap fun entry => (sitesOf entry.1).map (under part entry.2)

theorem spread_attach (part : Part) (sitesOf : Part → List Site) :
    (part.below.zipIdx.attach.flatMap fun entry => (sitesOf entry.1.1).map (under part entry.1.2)) =
      part.spread sitesOf := by
  let each : Part × Nat → List Site := fun entry => (sitesOf entry.1).map (under part entry.2)
  change (part.below.zipIdx.attach.flatMap fun entry => each entry.1) =
    part.below.zipIdx.flatMap each
  rw [← List.flatMap_map, List.attach_map_subtype_val]

theorem filterMap_spread {Entry : Type} (part : Part) (sitesOf : Part → List Site)
    {read inner : Site → Option Entry}
    (passes : ∀ index site, read (site.under part index) = inner site) :
    (part.spread sitesOf).filterMap read =
      part.below.flatMap fun next => (sitesOf next).filterMap inner := by
  have entries : part.below = part.below.zipIdx.map Prod.fst := (List.zipIdx_map_fst 0 _).symm
  have composed (index : Nat) : read ∘ under part index = inner := funext (passes index)
  rw [spread, List.filterMap_flatMap, entries, List.flatMap_map, ← entries]
  simp only [List.filterMap_map, composed]

theorem spread_pairwise {Before : List Nat → List Nat → Prop} {part : Part}
    {sitesOf : Part → List Site}
    (apart : ∀ {index other : Nat} {rest otherRest : List Nat}, index < other →
      Before (index :: rest) (other :: otherRest))
    (within : ∀ {index : Nat} {rest otherRest : List Nat}, Before rest otherRest →
      Before (index :: rest) (index :: otherRest))
    (ordered : ∀ next ∈ part.below,
      (sitesOf next).Pairwise fun site other => Before site.address other.address) :
    (part.spread sitesOf).Pairwise fun site other => Before site.address other.address := by
  rw [spread, List.pairwise_flatMap]
  constructor
  · intro entry member
    rw [List.pairwise_map]
    exact (ordered entry.1 (List.fst_mem_of_mem_zipIdx member)).imp within
  · have increasing : (part.below.zipIdx.map Prod.snd).Pairwise (· < ·) := by
      rw [List.zipIdx_map_snd]
      exact List.pairwise_lt_range'
    refine (List.pairwise_map.1 increasing).imp fun less => ?_
    simp only [List.mem_map]
    rintro _ ⟨inner, _, rfl⟩ _ ⟨other, _, rfl⟩
    exact apart less

def sitesBelow (part : Part) : List Site :=
  part.spread sites

theorem sites_eq (part : Part) : part.sites = top part :: part.sitesBelow := by
  rw [sites, sitesBelow, ← spread_attach]

theorem mem_sitesBelow (part : Part) (site : Site) :
    site ∈ part.sitesBelow ↔ ∃ (index : Nat) (next : Part) (inner : Site),
      part.below[index]? = some next ∧ inner ∈ next.sites ∧ site = inner.under part index := by
  simp only [sitesBelow, spread, List.mem_flatMap, List.mem_map, Prod.exists,
    List.mem_zipIdx_iff_getElem?]
  constructor
  · rintro ⟨next, index, found, inner, inside, rfl⟩
    exact ⟨index, next, inner, found, inside, rfl⟩
  · rintro ⟨index, next, inner, found, inside, rfl⟩
    exact ⟨next, index, found, inner, inside, rfl⟩

theorem mem_sites (part : Part) (site : Site) :
    site ∈ part.sites ↔ site = top part ∨ site ∈ part.sitesBelow := by
  rw [sites_eq, List.mem_cons]

theorem under_mem_sites {part next : Part} {index : Nat} {inner : Site}
    (found : part.below[index]? = some next) (inside : inner ∈ next.sites) :
    inner.under part index ∈ part.sites :=
  (part.mem_sites _).2 (.inr ((part.mem_sitesBelow _).2 ⟨index, next, inner, found, inside, rfl⟩))

/-- The sites are just what the trails from the part lead to. -/
theorem mem_sites_iff_leads (part : Part) (site : Site) :
    site ∈ part.sites ↔ part.Leads site.trail site.part := by
  induction part using Part.induction generalizing site with
  | step part ih =>
    obtain ⟨trail, inside⟩ := site
    rw [mem_sites, mem_sitesBelow]
    cases trail with
    | nil => simp [Leads, top, under]
    | cons entry rest =>
      obtain ⟨parent, index⟩ := entry
      simp only [Leads, top, under, Site.mk.injEq]
      constructor
      · rintro (⟨⟨⟩, _⟩ | ⟨place, next, inner, found, member, same, rfl⟩)
        cases same
        exact ⟨rfl, next, found, (ih next (List.mem_of_getElem? found) inner).1 member⟩
      · rintro ⟨rfl, next, found, leads⟩
        have member := (ih next (List.mem_of_getElem? found) ⟨rest, inside⟩).2 leads
        exact .inr ⟨index, next, _, found, member, rfl, rfl⟩

theorem isAbove_sitesBelow {part : Part} {site : Site} (member : site ∈ part.sitesBelow) :
    (top part).IsAbove site := by
  obtain ⟨index, next, inner, _, _, rfl⟩ := (part.mem_sitesBelow site).1 member
  exact ⟨index, inner.address, rfl⟩

/-- Every site comes once, and the order is that of the addresses: a part before those
below it, and what lies below one part before what lies below a later one. -/
theorem sites_ordered (part : Part) :
    part.sites.Pairwise fun site other => List.Lex (· < ·) site.address other.address := by
  induction part using Part.induction with
  | step part ih =>
    rw [sites_eq, List.pairwise_cons]
    constructor
    · intro site member
      obtain ⟨index, rest, address⟩ := isAbove_sitesBelow member
      rw [address]
      exact .nil
    · exact spread_pairwise .rel .cons ih

theorem sitesBelow_split {part next : Part} {index : Nat} (found : part.below[index]? = some next) :
    ∃ earlier later,
      part.sitesBelow = earlier ++ (next.sites.map (under part index) ++ later) := by
  obtain ⟨earlier, later, split⟩ := List.append_of_mem
    (List.mem_zipIdx_iff_getElem?.2 found : (next, index) ∈ part.below.zipIdx)
  rw [sitesBelow, spread, split, List.flatMap_append, List.flatMap_cons]
  exact ⟨_, _, rfl⟩

theorem under_isAbove {part next : Part} {index : Nat} {inner other : Site}
    (found : part.below[index]? = some next) (member : other ∈ part.sites) :
    (inner.under part index).IsAbove other ↔
      ∃ deeper ∈ next.sites, inner.IsAbove deeper ∧ other = deeper.under part index := by
  constructor
  · intro above
    rcases (part.mem_sites other).1 member with rfl | below
    · exact absurd above (not_isAbove_top _ _)
    · obtain ⟨place, same, deeper, there, inside, rfl⟩ := (part.mem_sitesBelow other).1 below
      obtain ⟨rfl, still⟩ := (under_isAbove_under ..).1 above
      obtain rfl := Option.some.inj (found.symm.trans there)
      exact ⟨deeper, inside, still, rfl⟩
  · rintro ⟨deeper, _, above, rfl⟩
    exact (under_isAbove_under ..).2 ⟨rfl, above⟩

theorem isAbove_under {part next : Part} {index : Nat} {inner site : Site}
    (found : part.below[index]? = some next) (member : site ∈ part.sites) :
    site.IsAbove (inner.under part index) ↔ site = top part ∨
      ∃ higher ∈ next.sites, higher.IsAbove inner ∧ site = higher.under part index := by
  constructor
  · intro above
    rcases (part.mem_sites site).1 member with rfl | below
    · exact .inl rfl
    · obtain ⟨place, same, higher, there, inside, rfl⟩ := (part.mem_sitesBelow site).1 below
      obtain ⟨rfl, still⟩ := (under_isAbove_under ..).1 above
      obtain rfl := Option.some.inj (found.symm.trans there)
      exact .inr ⟨higher, inside, still, rfl⟩
  · rintro (rfl | ⟨higher, _, above, rfl⟩)
    · exact ⟨index, inner.address, rfl⟩
    · exact (under_isAbove_under ..).2 ⟨rfl, above⟩

/-- What lies below a site stands right behind it in one block. -/
theorem sites_block {part : Part} {site : Site} (member : site ∈ part.sites) :
    ∃ before block after, part.sites = before ++ site :: (block ++ after) ∧
      ∀ other ∈ part.sites, other ∈ block ↔ site.IsAbove other := by
  induction part using Part.induction generalizing site with
  | step part ih =>
    rcases (part.mem_sites site).1 member with rfl | below
    · refine ⟨[], part.sitesBelow, [], by simp [sites_eq], fun other otherMember => ?_⟩
      rcases (part.mem_sites other).1 otherMember with rfl | inside
      · refine iff_of_false (fun inside => ?_) (not_isAbove_top _ _)
        exact not_isAbove_top _ _ (isAbove_sitesBelow inside)
      · exact iff_of_true inside (isAbove_sitesBelow inside)
    · -- a block of one part right below is spread with it, so it stays in one piece
      obtain ⟨index, next, inner, found, inside, rfl⟩ := (part.mem_sitesBelow site).1 below
      obtain ⟨before, block, after, split, exactly⟩ := ih next (List.mem_of_getElem? found) inside
      obtain ⟨earlier, later, whole⟩ := sitesBelow_split found
      refine ⟨top part :: (earlier ++ before.map (under part index)),
        block.map (under part index), after.map (under part index) ++ later, ?_, ?_⟩
      · simp [sites_eq part, whole, split]
      · intro other otherMember
        rw [under_isAbove found otherMember, List.mem_map]
        constructor
        · rintro ⟨deeper, there, rfl⟩
          have known : deeper ∈ next.sites := by simp [split, there]
          exact ⟨deeper, known, (exactly deeper known).1 there, rfl⟩
        · rintro ⟨deeper, known, above, rfl⟩
          exact ⟨deeper, (exactly deeper known).2 above, rfl⟩

end Part

namespace Visitor

variable {State : Type} (visitor : Visitor State)

def onPart : Part → (State → State) → State → State
  | .node node => visitor.onNode node
  | .value value => visitor.onValue value

def visitPart : Part → State → State
  | .node node => visitor.visitNode node
  | .value value => visitor.visitValue value

def visitParts (parts : List Part) (state : State) : State :=
  parts.foldl (fun state part => visitor.visitPart part state) state

theorem visitValues_eq (values : List Value) (state : State) :
    visitor.visitValues values state = visitor.visitParts (values.map .value) state := by
  induction values generalizing state with
  | nil => rfl
  | cons first rest ih => exact ih _

theorem visitNodes_eq (nodes : List Node) (state : State) :
    visitor.visitNodes nodes state = visitor.visitParts (nodes.map .node) state := by
  induction nodes generalizing state with
  | nil => rfl
  | cons first rest ih => exact ih _

theorem ownValues_eq (node : Node) :
    (ownValues node.kind node.properties).map Part.value =
      Part.positional node.kind ++
        node.properties.entries.map fun property => .value property.2 := by
  obtain ⟨kind, properties, children, modifier⟩ := node
  cases kind <;> simp [ownValues, NodeKind.parameter?, Part.positional, Properties.values]

theorem visitPart_eq (part : Part) :
    visitor.visitPart part = visitor.onPart part (visitor.visitParts part.below) := by
  cases part with
  | node node =>
    obtain ⟨kind, properties, children, modifier⟩ := node
    funext state
    rw [visitPart, visitNode, onPart]
    congr 1
    funext state
    rw [visitNodes_eq, visitValues_eq, ownValues_eq ⟨kind, properties, children, modifier⟩]
    simp [visitParts, Part.below]
  | value value =>
    cases value with
    | vector items =>
      funext state
      rw [visitPart, visitValue, onPart]
      congr 1
      funext state
      exact visitor.visitValues_eq items state
    | _ => rfl

theorem visitParts_notes {Entry : Type} {visitor : Visitor State} (state : List Entry → State)
    {entries : Part → List Entry} {parts : List Part}
    (notes : ∀ part ∈ parts, ∀ latest,
      visitor.visitPart part (state latest) = state ((entries part).reverse ++ latest))
    (latest : List Entry) :
    visitor.visitParts parts (state latest) =
      state ((parts.flatMap entries).reverse ++ latest) := by
  induction parts generalizing latest with
  | nil => rfl
  | cons first rest ih =>
    rw [visitParts, List.foldl_cons, notes first List.mem_cons_self, ← visitParts,
      ih (fun part member => notes part (List.mem_cons_of_mem _ member))]
    simp

end Visitor

end SolidScene
