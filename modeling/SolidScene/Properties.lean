import SolidScene.Value

/-!
Named properties of a node, in order. A name occurs once: giving it a new value
keeps its place, and a new name goes to the end. Filling in defaults starts from
the defaults and puts the own entries over them, so the order is that of the
defaults and the values are the own ones.
-/

namespace SolidScene

abbrev Property := String × Value

namespace Property

/-- Replaces the value of a name where it stands, or appends the name. -/
def put (name : String) (value : Value) : List Property → List Property
  | [] => [(name, value)]
  | (key, old) :: rest =>
    if key = name then (name, value) :: rest else (key, old) :: put name value rest

def valueOf? (name : String) : List Property → Option Value
  | [] => none
  | (key, value) :: rest => if key = name then some value else valueOf? name rest

theorem mem_names_put (name : String) (value : Value) (entries : List Property) (other : String) :
    other ∈ (put name value entries).map Prod.fst ↔
      other = name ∨ other ∈ entries.map Prod.fst := by
  induction entries with
  | nil => simp [put]
  | cons first rest ih =>
    obtain ⟨key, old⟩ := first
    by_cases same : key = name
    · simp [put, same]
    · simp only [put, same, ↓reduceIte, List.map_cons, List.mem_cons, ih]
      exact or_left_comm

theorem nodup_names_put (name : String) (value : Value) (entries : List Property)
    (distinct : (entries.map Prod.fst).Nodup) :
    ((put name value entries).map Prod.fst).Nodup := by
  induction entries with
  | nil => simp [put]
  | cons first rest ih =>
    obtain ⟨key, old⟩ := first
    simp only [List.map_cons, List.nodup_cons] at distinct
    by_cases same : key = name
    · simpa only [put, same, ↓reduceIte, List.map_cons, List.nodup_cons] using distinct
    · simp only [put, same, ↓reduceIte, List.map_cons, List.nodup_cons]
      refine ⟨fun member => ?_, ih distinct.2⟩
      rcases (mem_names_put name value rest key).1 member with equal | old
      · exact same equal
      · exact distinct.1 old

theorem valueOf?_put (name other : String) (value : Value) (entries : List Property) :
    valueOf? other (put name value entries) =
      if name = other then some value else valueOf? other entries := by
  induction entries with
  | nil => rfl
  | cons first rest ih =>
    obtain ⟨key, old⟩ := first
    by_cases here : key = name
    · by_cases same : name = other <;> simp [put, valueOf?, here, same]
    · by_cases same : key = other
      · subst same
        simp [put, valueOf?, here, Ne.symm here]
      · simp [put, valueOf?, here, same, ih]

def write (property : Property) : String :=
  property.1 ++ "=" ++ property.2.write

def equal (left right : Property) : Bool :=
  left.1 == right.1 && left.2.equal right.2

end Property

structure Properties where
  entries : List Property
  distinct : (entries.map Prod.fst).Nodup

namespace Properties

@[ext]
theorem ext {left right : Properties} (same : left.entries = right.entries) : left = right := by
  cases left
  cases right
  cases same
  rfl

def empty : Properties := ⟨[], List.nodup_nil⟩

def insert (properties : Properties) (name : String) (value : Value) : Properties :=
  ⟨Property.put name value properties.entries,
    Property.nodup_names_put name value properties.entries properties.distinct⟩

def insertAll (properties : Properties) (added : List Property) : Properties :=
  added.foldl (fun built property => built.insert property.1 property.2) properties

def ofList (added : List Property) : Properties :=
  empty.insertAll added

/-- The defaults, with the own entries put over them. -/
def withDefaults (properties defaults : Properties) : Properties :=
  defaults.insertAll properties.entries

def get? (properties : Properties) (name : String) : Option Value :=
  Property.valueOf? name properties.entries

theorem get?_insert (properties : Properties) (name other : String) (value : Value) :
    (properties.insert name value).get? other =
      if name = other then some value else properties.get? other :=
  Property.valueOf?_put name other value properties.entries

def contains (properties : Properties) (name : String) : Bool :=
  (properties.get? name).isSome

def size (properties : Properties) : Nat :=
  properties.entries.length

def isEmpty (properties : Properties) : Bool :=
  properties.entries.isEmpty

def names (properties : Properties) : List String :=
  properties.entries.map Prod.fst

def values (properties : Properties) : List Value :=
  properties.entries.map Prod.snd

def writeEntries : List Property → String
  | [] => ""
  | [last] => last.write
  | first :: rest => first.write ++ ", " ++ writeEntries rest

def parameters (properties : Properties) : String :=
  writeEntries properties.entries

def equalEntries : List Property → List Property → Bool
  | [], [] => true
  | left :: lefts, right :: rights => Property.equal left right && equalEntries lefts rights
  | _, _ => false

def equal (left right : Properties) : Bool :=
  equalEntries left.entries right.entries

end Properties

end SolidScene
