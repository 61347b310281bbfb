import Mathlib.Data.Finset.Card
import Mathlib.Data.Finset.Dedup
import SolidScene.Node

/-!
Properties as what is left of a history. Every mapping comes about by insertions,
from lists and by filling in defaults; its history is the list of all pairs that
went into it. What the mapping keeps of it is decided by two opposite rules: a
name stands where it occurred first, and has the value it was given last.

Filling in defaults as an operation on mappings. It is associative and idempotent,
and the empty mapping changes nothing on either side; all this holds of the order
of the entries as well as of their values. Updates of a node follow: one after the
other they amount to a single update, however they are grouped.
-/

namespace SolidScene

/-! Lists without the repetitions of what occurred before. -/

section FirstOccurrences

variable {α : Type} [BEq α] [LawfulBEq α]

theorem filter_eraseDups (kept : α → Bool) (list : List α) :
    list.eraseDups.filter kept = (list.filter kept).eraseDups := by
  match list with
  | [] => rfl
  | first :: rest =>
    have shorter := List.length_filter_le (fun other => !other == first) rest
    rw [List.eraseDups_cons, List.filter_cons, List.filter_cons, filter_eraseDups,
      List.filter_filter]
    cases here : kept first with
    | true =>
      rw [if_pos rfl, if_pos rfl, List.eraseDups_cons, List.filter_filter]
      simp only [Bool.and_comm]
    | false =>
      -- what is dropped at the head cannot come back from the rest
      have same : ∀ other, (kept other && !other == first) = kept other := by
        intro other
        by_cases equal : other = first
        · rw [equal, here, Bool.false_and]
        · simp [equal]
      rw [if_neg Bool.false_ne_true, if_neg Bool.false_ne_true]
      simp only [same]
termination_by list.length

theorem nodup_eraseDups (list : List α) : list.eraseDups.Nodup := by
  match list with
  | [] => exact List.nodup_nil
  | first :: rest =>
    have shorter := List.length_filter_le (fun other => !other == first) rest
    rw [List.eraseDups_cons, List.nodup_cons]
    refine ⟨fun member => ?_, nodup_eraseDups _⟩
    have kept := (List.mem_filter.1 (List.mem_eraseDups.1 member)).2
    simp at kept
termination_by list.length

omit [LawfulBEq α] in
theorem eraseDups_eq_nil_iff (list : List α) : list.eraseDups = [] ↔ list = [] := by
  cases list with
  | nil => exact iff_of_true rfl rfl
  | cons first rest => exact iff_of_false (by rw [List.eraseDups_cons]; exact nofun) nofun

theorem eraseDups_of_nodup {list : List α} (distinct : list.Nodup) : list.eraseDups = list := by
  induction list with
  | nil => rfl
  | cons first rest ih =>
    obtain ⟨absent, distinct⟩ := List.nodup_cons.1 distinct
    have kept : rest.filter (fun other => !other == first) = rest := by
      refine List.filter_eq_self.2 fun other member => ?_
      simpa using fun same : other = first => absent (same ▸ member)
    rw [List.eraseDups_cons, kept, ih distinct]

theorem removeAll_eraseDups (list others : List α) :
    list.removeAll others.eraseDups = list.removeAll others := by
  refine List.filter_congr fun other _ => ?_
  rw [Bool.eq_iff_iff]
  simp

theorem eraseDups_append_right (left right : List α) :
    (left ++ right.eraseDups).eraseDups = (left ++ right).eraseDups := by
  have once := eraseDups_of_nodup (nodup_eraseDups (right.removeAll left))
  rw [List.eraseDups_append, List.eraseDups_append, List.removeAll, filter_eraseDups]
  exact congrArg (left.eraseDups ++ ·) once

theorem eraseDups_append_left (left right : List α) :
    (left.eraseDups ++ right).eraseDups = (left ++ right).eraseDups := by
  rw [List.eraseDups_append, List.eraseDups_append, removeAll_eraseDups,
    eraseDups_of_nodup (nodup_eraseDups left)]

theorem eraseDups_append_singleton [DecidableEq α] {list : List α} (distinct : list.Nodup)
    (last : α) : (list ++ [last]).eraseDups = if last ∈ list then list else list ++ [last] := by
  rw [List.eraseDups_append, eraseDups_of_nodup distinct, List.cons_removeAll, List.nil_removeAll]
  by_cases known : last ∈ list
  · simp [known]
  · simp [known, List.eraseDups_cons]

end FirstOccurrences

namespace Property

theorem names_put (name : String) (value : Value) (entries : List Property) :
    (put name value entries).map Prod.fst =
      if name ∈ entries.map Prod.fst then entries.map Prod.fst
      else entries.map Prod.fst ++ [name] := by
  induction entries with
  | nil => rfl
  | cons first rest ih =>
    obtain ⟨key, old⟩ := first
    by_cases here : key = name
    · simp [put, here]
    · simp only [put, here, ↓reduceIte, List.map_cons, ih, List.mem_cons, Ne.symm here, false_or]
      split <;> rfl

theorem valueOf?_eq_lookup (name : String) (entries : List Property) :
    valueOf? name entries = entries.lookup name := by
  induction entries with
  | nil => rfl
  | cons first rest ih =>
    obtain ⟨key, value⟩ := first
    by_cases here : key = name
    · rw [valueOf?, if_pos here, here, List.lookup_cons_self]
    · have apart : (name == key) = false := beq_false_of_ne (Ne.symm here)
      rw [valueOf?, if_neg here, ih, List.lookup_cons, apart]

theorem lookup_eq_none_iff (name : String) (entries : List Property) :
    entries.lookup name = none ↔ name ∉ entries.map Prod.fst := by
  rw [List.lookup_eq_none_iff, List.mem_map]
  constructor
  · rintro absent ⟨entry, member, rfl⟩
    exact absurd (absent entry member) (by simp)
  · intro absent entry member
    exact bne_iff_ne.2 fun same => absent ⟨entry, member, same.symm⟩

theorem lookup_reverse {entries : List Property} (distinct : (entries.map Prod.fst).Nodup)
    (name : String) : entries.reverse.lookup name = entries.lookup name := by
  induction entries with
  | nil => rfl
  | cons first rest ih =>
    obtain ⟨key, value⟩ := first
    obtain ⟨absent, distinct⟩ := List.nodup_cons.1 distinct
    rw [List.reverse_cons, List.lookup_append, ih distinct]
    -- the first entry of a name is looked up last, but no other one comes before it
    by_cases here : key = name
    · rw [here] at absent ⊢
      rw [(lookup_eq_none_iff name rest).2 absent, List.lookup_cons_self, List.lookup_cons_self]
      rfl
    · have apart : (name == key) = false := beq_false_of_ne (Ne.symm here)
      rw [List.lookup_cons, List.lookup_cons, apart]
      exact Option.or_none

theorem entries_eq {entries : List Property} (distinct : (entries.map Prod.fst).Nodup) :
    entries = (entries.map Prod.fst).filterMap fun name =>
      (entries.lookup name).map (name, ·) := by
  induction entries with
  | nil => rfl
  | cons first rest ih =>
    obtain ⟨key, value⟩ := first
    obtain ⟨absent, distinct⟩ := List.nodup_cons.1 distinct
    -- no later name is that of the first entry, so the look-up passes it over
    have later : ∀ name ∈ rest.map Prod.fst,
        (((key, value) :: rest).lookup name).map (name, ·) = (rest.lookup name).map (name, ·) := by
      intro name member
      have apart : (name == key) = false := beq_false_of_ne fun same => absent (same ▸ member)
      rw [List.lookup_cons, apart]
    rw [List.map_cons, List.filterMap_cons, List.lookup_cons_self, List.filterMap_congr later,
      ← ih distinct]
    rfl

end Property

namespace Properties

theorem get?_eq_lookup (properties : Properties) (name : String) :
    properties.get? name = properties.entries.lookup name :=
  Property.valueOf?_eq_lookup name properties.entries

theorem ext_names {left right : Properties} (names : left.names = right.names)
    (values : ∀ name, left.get? name = right.get? name) : left = right := by
  apply Properties.ext
  rw [Property.entries_eq left.distinct, Property.entries_eq right.distinct]
  change left.names.filterMap _ = right.names.filterMap _
  rw [names]
  refine List.filterMap_congr fun name _ => ?_
  rw [← get?_eq_lookup, ← get?_eq_lookup, values]

theorem distinct_names (properties : Properties) : properties.names.Nodup :=
  properties.distinct

theorem names_insert (properties : Properties) (name : String) (value : Value) :
    (properties.insert name value).names = (properties.names ++ [name]).eraseDups := by
  rw [eraseDups_append_singleton properties.distinct_names]
  exact Property.names_put name value properties.entries

theorem names_insertAll (properties : Properties) (added : List Property) :
    (properties.insertAll added).names = (properties.names ++ added.map Prod.fst).eraseDups := by
  induction added generalizing properties with
  | nil =>
    rw [List.map_nil, List.append_nil, eraseDups_of_nodup properties.distinct_names]
    rfl
  | cons first rest ih =>
    rw [insertAll, List.foldl_cons, ← insertAll, ih, names_insert, eraseDups_append_left,
      List.append_assoc, List.singleton_append, List.map_cons]

theorem get?_insertAll (properties : Properties) (added : List Property) (name : String) :
    (properties.insertAll added).get? name =
      (added.reverse.lookup name).or (properties.get? name) := by
  induction added generalizing properties with
  | nil => rfl
  | cons first rest ih =>
    obtain ⟨key, value⟩ := first
    rw [insertAll, List.foldl_cons, ← insertAll, ih, get?_insert, List.reverse_cons,
      List.lookup_append, Option.or_assoc]
    by_cases here : key = name
    · rw [if_pos here, here, List.lookup_cons_self, Option.some_or]
    · have apart : (name == key) = false := beq_false_of_ne (Ne.symm here)
      rw [if_neg here, List.lookup_cons, apart]
      rfl

theorem names_ofList (added : List Property) :
    (ofList added).names = (added.map Prod.fst).eraseDups := by
  rw [ofList, names_insertAll]
  rfl

theorem get?_ofList (added : List Property) (name : String) :
    (ofList added).get? name = added.reverse.lookup name := by
  rw [ofList, get?_insertAll]
  exact Option.or_none

theorem names_withDefaults (own defaults : Properties) :
    (own.withDefaults defaults).names = (defaults.names ++ own.names).eraseDups :=
  defaults.names_insertAll own.entries

theorem get?_withDefaults (own defaults : Properties) (name : String) :
    (own.withDefaults defaults).get? name = (own.get? name).or (defaults.get? name) := by
  rw [withDefaults, get?_insertAll, Property.lookup_reverse own.distinct, ← get?_eq_lookup]

example : ((ofList [("center", .bool false), ("size", .text "2")]).withDefaults
    (ofList [("$fn", .text "32"), ("center", .bool true)])).parameters =
    "$fn=\"32\", center=false, size=\"2\"" := by
  decide +kernel

theorem contains_iff (properties : Properties) (name : String) :
    properties.contains name = true ↔ name ∈ properties.names := by
  rw [contains, get?_eq_lookup, Option.isSome_iff_ne_none, ne_eq, Property.lookup_eq_none_iff,
    Decidable.not_not]
  rfl

theorem isEmpty_iff_names (properties : Properties) :
    properties.isEmpty = true ↔ properties.names = [] := by
  rw [isEmpty, List.isEmpty_iff, names, List.map_eq_nil_iff]

theorem writeEntries_eq (entries : List Property) :
    writeEntries entries = ", ".intercalate (entries.map Property.write) := by
  induction entries with
  | nil => rw [writeEntries, List.map_nil, String.intercalate_nil]
  | cons first rest ih =>
    cases rest with
    | nil => rw [writeEntries, List.map_cons, List.map_nil, String.intercalate_singleton]
    | cons next rest =>
      rw [writeEntries, ih]
      · simp only [List.map_cons, String.intercalate_cons_cons]
      · exact nofun

/-- A way to come by a mapping. -/
inductive Making where
  | empty
  | insert (earlier : Making) (name : String) (value : Value)
  | ofList (added : List Property)
  | withDefaults (own defaults : Making)

namespace Making

def made : Making → Properties
  | .empty => .empty
  | .insert earlier name value => earlier.made.insert name value
  | .ofList added => .ofList added
  | .withDefaults own defaults => own.made.withDefaults defaults.made

/-- All pairs that went into a mapping. Defaults count as given before the own entries. -/
def history : Making → List Property
  | .empty => []
  | .insert earlier name value => earlier.history ++ [(name, value)]
  | .ofList added => added
  | .withDefaults own defaults => defaults.history ++ own.history

theorem names_made (making : Making) :
    making.made.names = (making.history.map Prod.fst).eraseDups := by
  induction making with
  | empty => rfl
  | insert earlier name value ih =>
    rw [made, history, names_insert, ih, eraseDups_append_left, List.map_append]
    rfl
  | ofList added => exact names_ofList added
  | withDefaults own defaults ownNames defaultNames =>
    rw [made, history, names_withDefaults, ownNames, defaultNames, eraseDups_append_left,
      eraseDups_append_right, List.map_append]

theorem get?_made (making : Making) (name : String) :
    making.made.get? name = making.history.reverse.lookup name := by
  induction making with
  | empty => rfl
  | insert earlier key value ih =>
    rw [made, history, get?_insert, ih, List.reverse_append, List.lookup_append]
    by_cases here : key = name
    · rw [if_pos here, here]
      exact (congrArg (Option.or · _) List.lookup_cons_self).symm
    · have apart : (name == key) = false := beq_false_of_ne (Ne.symm here)
      rw [if_neg here, List.reverse_singleton, List.lookup_cons, apart]
      rfl
  | ofList added => exact get?_ofList added name
  | withDefaults own defaults ownValues defaultValues =>
    rw [made, history, get?_withDefaults, ownValues, defaultValues, List.reverse_append,
      List.lookup_append]

end Making

end Properties

/-- What is kept of a history: every name once, where it occurred first, with the
value it was given last. -/
def Property.kept (history : List Property) : List Property :=
  (history.map Prod.fst).eraseDups.filterMap fun name =>
    (history.reverse.lookup name).map (name, ·)

/-- A mapping is the ordered map of its history, however it was made. -/
theorem Properties.Making.made_of_history (making : Making) :
    let made := making.made
    let history := making.history
    let given := history.map Prod.fst
    made.names.Nodup ∧ made.names = given.eraseDups ∧
      (∀ name, made.get? name = history.reverse.lookup name) ∧
      (∀ name, made.get? name = none ↔ name ∉ given) ∧
      (∀ name, made.contains name = true ↔ name ∈ given) ∧
      made.size = given.toFinset.card ∧ (made.isEmpty = true ↔ history = []) ∧
      made.entries = Property.kept history ∧
      made.parameters = ", ".intercalate
        ((Property.kept history).map fun property => property.1 ++ "=" ++ property.2.write) := by
  intro made history given
  have names : made.names = given.eraseDups := making.names_made
  have values := making.get?_made
  have entries : made.entries = Property.kept history := by
    rw [Property.entries_eq made.distinct]
    change made.names.filterMap _ = _
    rw [names]
    refine List.filterMap_congr fun name _ => ?_
    rw [← get?_eq_lookup, values]
  refine ⟨made.distinct_names, names, values, fun name => ?_, fun name => ?_, ?_, ?_, entries, ?_⟩
  · rw [values, Property.lookup_eq_none_iff, List.map_reverse, List.mem_reverse]
  · rw [contains_iff, names, List.mem_eraseDups]
  · have same : made.names.toFinset = given.toFinset := by
      ext name
      rw [names, List.mem_toFinset, List.mem_toFinset, List.mem_eraseDups]
    calc
      made.size = made.names.length := (List.length_map Prod.fst).symm
      _ = made.names.toFinset.card := (List.toFinset_card_of_nodup made.distinct_names).symm
      _ = given.toFinset.card := by rw [same]
  · rw [isEmpty_iff_names, names, eraseDups_eq_nil_iff, List.map_eq_nil_iff]
  · rw [parameters, writeEntries_eq, entries]
    rfl

namespace Properties

theorem withDefaults_assoc (first second third : Properties) :
    (first.withDefaults second).withDefaults third =
      first.withDefaults (second.withDefaults third) := by
  apply ext_names
  · simp only [names_withDefaults, eraseDups_append_right, eraseDups_append_left,
      List.append_assoc]
  · intro name
    simp only [get?_withDefaults, Option.or_assoc]

theorem empty_withDefaults (defaults : Properties) : empty.withDefaults defaults = defaults :=
  rfl

theorem withDefaults_empty (own : Properties) : own.withDefaults empty = own := by
  apply ext_names
  · rw [names_withDefaults]
    exact eraseDups_of_nodup own.distinct_names
  · intro name
    rw [get?_withDefaults]
    exact Option.or_none

theorem withDefaults_self (own : Properties) : own.withDefaults own = own := by
  apply ext_names
  · have none : own.names.removeAll own.names = [] := by
      simp [List.removeAll]
    rw [names_withDefaults, List.eraseDups_append, none, eraseDups_of_nodup own.distinct_names]
    exact List.append_nil _
  · intro name
    rw [get?_withDefaults, Option.or_self]

/-- Several mappings as one: each is filled in with all that come after it. -/
def merged : List Properties → Properties
  | [] => .empty
  | first :: rest => first.withDefaults (merged rest)

theorem merged_append (left right : List Properties) :
    merged (left ++ right) = (merged left).withDefaults (merged right) := by
  induction left with
  | nil => rfl
  | cons first rest ih => rw [List.cons_append, merged, ih, merged, withDefaults_assoc]

theorem merged_flatten (groups : List (List Properties)) :
    merged groups.flatten = merged (groups.map merged) := by
  induction groups with
  | nil => rfl
  | cons first rest ih => rw [List.flatten_cons, merged_append, ih, List.map_cons, merged]

end Properties

namespace Node

theorem update_update (node : Node) (first second : Properties) :
    (node.update first).update second = node.update (first.withDefaults second) := by
  rw [update, update, update, Properties.withDefaults_assoc]

theorem update_empty (node : Node) : node.update .empty = node := by
  obtain ⟨kind, properties, children, modifier⟩ := node
  rw [update, Properties.withDefaults_empty]

theorem foldl_update (node : Node) (updates : List Properties) :
    updates.foldl update node = node.update (Properties.merged updates) := by
  induction updates generalizing node with
  | nil => exact node.update_empty.symm
  | cons first rest ih => rw [List.foldl_cons, ih, update_update, Properties.merged]

end Node

/-- Mappings with defaults filled in form a monoid in which every element is
idempotent, and it acts on nodes by updates. So neither the grouping of updates nor
their repetition changes a node or its text. -/
theorem Properties.defaults_act_on_nodes :
    (∀ first second third : Properties,
      (first.withDefaults second).withDefaults third =
        first.withDefaults (second.withDefaults third)) ∧
    (∀ own : Properties, Properties.empty.withDefaults own = own ∧
      own.withDefaults .empty = own ∧ own.withDefaults own = own) ∧
    ∀ node : Node,
      (∀ first second, (node.update first).update second =
        node.update (first.withDefaults second)) ∧
      node.update .empty = node ∧
      (∀ defaults, (node.update defaults).update defaults = node.update defaults) ∧
      (∀ groups : List (List Properties),
        let plain := groups.flatten.foldl Node.update node
        let grouped := (groups.map merged).foldl Node.update node
        grouped = plain ∧ grouped.write = plain.write) ∧
      ∀ updates : List Properties,
        let once := updates.foldl Node.update node
        let again := updates.foldl Node.update once
        again = once ∧ again.write = once.write := by
  refine ⟨withDefaults_assoc, fun own => ⟨own.empty_withDefaults, own.withDefaults_empty,
    own.withDefaults_self⟩, fun node => ⟨node.update_update, node.update_empty, ?_, ?_, ?_⟩⟩
  · intro defaults
    rw [node.update_update, defaults.withDefaults_self]
  · intro groups plain grouped
    have same : grouped = plain := by
      dsimp only [grouped, plain]
      rw [node.foldl_update, node.foldl_update, merged_flatten]
    exact ⟨same, congrArg Node.write same⟩
  · intro updates once again
    have same : again = once := by
      dsimp only [again, once]
      rw [Node.foldl_update, node.foldl_update, node.update_update, withDefaults_self]
    exact ⟨same, congrArg Node.write same⟩

end SolidScene
