import SolidScene.Value

/-!
When arithmetic on coordinates succeeds, with which result, and which error it
gives otherwise. An operation takes an operand that has a number for every place,
and refuses every other for exactly one reason. Both relations are stated by the
shape of the operand, without going through the sums.
-/

namespace SolidScene.Coordinates

def Operation.combine : Operation → Number → Number → Number
  | .add => (· + ·)
  | .multiply => (· * ·)

/-- The operands that an operation takes for so many coordinates, with the numbers
they have for the places: a number has itself everywhere, and a vector, which can
only be added, has its items. -/
inductive Takes (count : Nat) : Operation → Value → List Number → Prop where
  | scalar (operation : Operation) (n : Number) :
    Takes count operation (.number n) (List.replicate count n)
  | vector (numbers : List Number) (fits : numbers.length = count) :
    Takes count .add (.vector (numbers.map .number)) numbers

/-- The operands that an operation refuses, with the reason. The length of a vector
comes before its items, and of the items the first that is no number is found. -/
inductive Refuses (count : Nat) : Operation → Value → Mismatch → Prop where
  | length (items : List Value) (differs : items.length ≠ count) :
    Refuses count .add (.vector items) (.length count items.length)
  | item (before : List Number) (found : Value) (after : List Value)
    (fits : before.length + (after.length + 1) = count) (noNumber : found.number? = none) :
    Refuses count .add (.vector (before.map .number ++ found :: after)) (.kind .add found.kind)
  | operand (operation : Operation) (value : Value) (noNumber : value.number? = none)
    (noSum : operation = .add → value.items? = none) :
    Refuses count operation value (.kind operation value.kind)

structure Placewise (operation : Operation) (coordinates : Coordinates) (numbers : List Number)
    (result : Coordinates) : Prop where
  length : result.length = coordinates.length
  places : ∀ (place : Nat) (x n : Number), coordinates[place]? = some x →
    numbers[place]? = some n → result[place]? = some (operation.combine x n)

theorem placewise_zipWith (operation : Operation) (coordinates : Coordinates)
    {numbers : List Number} (fits : numbers.length = coordinates.length) :
    Placewise operation coordinates numbers
      (List.zipWith operation.combine coordinates numbers) where
  length := by rw [List.length_zipWith, fits, Nat.min_self]
  places place x n here there := by
    rw [List.getElem?_zipWith, here, there]

theorem Takes.length {count : Nat} {operation : Operation} {operand : Value}
    {numbers : List Number} (takes : Takes count operation operand numbers) :
    numbers.length = count := by
  cases takes with
  | scalar operation n => exact List.length_replicate
  | vector numbers fits => exact fits

theorem Placewise.eq_zipWith {operation : Operation} {coordinates result : Coordinates}
    {numbers : List Number} (fits : numbers.length = coordinates.length)
    (placewise : Placewise operation coordinates numbers result) :
    result = List.zipWith operation.combine coordinates numbers := by
  have expected := placewise_zipWith operation coordinates fits
  apply List.ext_getElem?
  intro place
  -- behind the last place both lists end
  by_cases inside : place < coordinates.length
  · have here := List.getElem?_eq_getElem inside
    have there := List.getElem?_eq_getElem (fits ▸ inside : place < numbers.length)
    rw [placewise.places place _ _ here there, expected.places place _ _ here there]
  · rw [List.getElem?_eq_none (placewise.length ▸ Nat.le_of_not_lt inside),
      List.getElem?_eq_none (expected.length ▸ Nat.le_of_not_lt inside)]

/-! A vector is all numbers, or it has a first item that is none. -/

theorem numbers_or_other (items : List Value) :
    (∃ numbers : List Number, items = numbers.map .number) ∨
      ∃ (before : List Number) (found : Value) (after : List Value),
        found.number? = none ∧ items = before.map .number ++ found :: after := by
  induction items with
  | nil => exact Or.inl ⟨[], rfl⟩
  | cons first rest ih =>
    cases first with
    | number n =>
      rcases ih with ⟨numbers, rfl⟩ | ⟨before, found, after, noNumber, rfl⟩
      · exact Or.inl ⟨n :: numbers, rfl⟩
      · exact Or.inr ⟨n :: before, found, after, noNumber, rfl⟩
    | bool flag => exact Or.inr ⟨[], .bool flag, rest, rfl, rfl⟩
    | text content => exact Or.inr ⟨[], .text content, rest, rfl, rfl⟩
    | vector items => exact Or.inr ⟨[], .vector items, rest, rfl, rfl⟩

theorem addItems_numbers (coordinates : Coordinates) (numbers : List Number) :
    addItems coordinates (numbers.map .number) =
      .ok (List.zipWith Operation.add.combine coordinates numbers) := by
  induction coordinates generalizing numbers with
  | nil => rfl
  | cons first rest ih =>
    cases numbers with
    | nil => rfl
    | cons n numbers =>
      rw [List.map_cons, addItems, ih]
      rfl

theorem addItems_other (coordinates : Coordinates) (before : List Number) {found : Value}
    (after : List Value) (inside : before.length < coordinates.length)
    (noNumber : found.number? = none) :
    addItems coordinates (before.map .number ++ found :: after) =
      .error (.kind .add found.kind) := by
  induction before generalizing coordinates with
  | nil =>
    cases coordinates with
    | nil => cases inside
    | cons first rest => rw [List.map_nil, List.nil_append, addItems, noNumber]
  | cons n before ih =>
    cases coordinates with
    | nil => cases inside
    | cons first rest =>
      rw [List.map_cons, List.cons_append, addItems, ih rest (Nat.lt_of_succ_lt_succ inside)]
      rfl

theorem Takes.apply_eq {coordinates : Coordinates} {operation : Operation} {operand : Value}
    {numbers : List Number} (takes : Takes coordinates.length operation operand numbers) :
    apply operation coordinates operand =
      .ok (List.zipWith operation.combine coordinates numbers) := by
  cases takes with
  | scalar operation n =>
    rw [← List.map_const', List.zipWith_map_right, List.zipWith_self]
    cases operation <;> rfl
  | vector numbers fits =>
    rw [apply, add, if_pos (by rw [List.length_map, fits]), addItems_numbers]

theorem Refuses.apply_eq {coordinates : Coordinates} {operation : Operation} {operand : Value}
    {mismatch : Mismatch} (refuses : Refuses coordinates.length operation operand mismatch) :
    apply operation coordinates operand = .error mismatch := by
  cases refuses with
  | length items differs => rw [apply, add, if_neg differs]
  | item before found after fits noNumber =>
    have same : (before.map Value.number ++ found :: after).length = coordinates.length := by
      rw [List.length_append, List.length_map, List.length_cons, fits]
    rw [apply, add, if_pos same, addItems_other coordinates before after (by omega) noNumber]
  | operand _ _ noNumber noSum =>
    cases operation with
    | add =>
      cases operand with
      | number n => cases noNumber
      | vector items => cases noSum rfl
      | bool flag => rfl
      | text content => rfl
    | multiply =>
      cases operand with
      | number n => cases noNumber
      | bool flag => rfl
      | text content => rfl
      | vector items => rfl

theorem takes_or_refuses (count : Nat) (operation : Operation) (operand : Value) :
    (∃ numbers, Takes count operation operand numbers) ∨
      ∃ mismatch, Refuses count operation operand mismatch := by
  cases operand with
  | number n => exact Or.inl ⟨_, .scalar operation n⟩
  | bool flag => exact Or.inr ⟨_, .operand operation (.bool flag) rfl fun _ => rfl⟩
  | text content => exact Or.inr ⟨_, .operand operation (.text content) rfl fun _ => rfl⟩
  | vector items =>
    cases operation with
    | multiply => exact Or.inr ⟨_, .operand .multiply (.vector items) rfl nofun⟩
    | add =>
      by_cases same : items.length = count
      · rcases numbers_or_other items with ⟨numbers, rfl⟩ | ⟨before, found, after, noNumber, rfl⟩
        · exact Or.inl ⟨_, .vector numbers (by rwa [List.length_map] at same)⟩
        · rw [List.length_append, List.length_map, List.length_cons] at same
          exact Or.inr ⟨_, .item before found after same noNumber⟩
      · exact Or.inr ⟨_, .length items same⟩

theorem apply_ok_iff (operation : Operation) (coordinates : Coordinates) (operand : Value)
    (result : Coordinates) :
    apply operation coordinates operand = .ok result ↔
      ∃ numbers, Takes coordinates.length operation operand numbers ∧
        Placewise operation coordinates numbers result := by
  constructor
  · intro done
    rcases takes_or_refuses coordinates.length operation operand with
      ⟨numbers, takes⟩ | ⟨mismatch, refuses⟩
    · rw [takes.apply_eq] at done
      cases done
      exact ⟨numbers, takes, placewise_zipWith operation coordinates takes.length⟩
    · rw [refuses.apply_eq] at done
      cases done
  · rintro ⟨numbers, takes, placewise⟩
    rw [takes.apply_eq, placewise.eq_zipWith takes.length]

theorem apply_error_iff (operation : Operation) (coordinates : Coordinates) (operand : Value)
    (mismatch : Mismatch) :
    apply operation coordinates operand = .error mismatch ↔
      Refuses coordinates.length operation operand mismatch := by
  constructor
  · intro failed
    rcases takes_or_refuses coordinates.length operation operand with
      ⟨numbers, takes⟩ | ⟨other, refuses⟩
    · rw [takes.apply_eq] at failed
      cases failed
    · rw [refuses.apply_eq] at failed
      cases failed
      exact refuses
  · exact Refuses.apply_eq

theorem length_after (coordinates : Coordinates) (operation : Operation) (operand : Value) :
    (coordinates.after operation operand).length = coordinates.length := by
  unfold after
  split
  case h_1 next done =>
    obtain ⟨numbers, takes, placewise⟩ := (apply_ok_iff ..).1 done
    exact placewise.length
  case h_2 => rfl

def run (coordinates : Coordinates) (steps : List (Operation × Value)) : Coordinates :=
  steps.foldl (fun reached step => reached.after step.1 step.2) coordinates

theorem length_run (coordinates : Coordinates) (steps : List (Operation × Value)) :
    (coordinates.run steps).length = coordinates.length := by
  induction steps generalizing coordinates with
  | nil => rfl
  | cons first rest ih =>
    rw [run, List.foldl_cons, ← run, ih, length_after]

theorem add_succeeds_iff (coordinates : Coordinates) (operand : Value) :
    (∃ result, add coordinates operand = .ok result) ↔
      (∃ n, operand = .number n) ∨ ∃ items, operand = .vector items ∧
        items.length = coordinates.length ∧ ∀ item ∈ items, ∃ n, item = .number n := by
  constructor
  · rintro ⟨result, done⟩
    obtain ⟨numbers, takes, _⟩ := (apply_ok_iff .add coordinates operand result).1 done
    cases takes with
    | scalar _ n => exact Or.inl ⟨n, rfl⟩
    | vector numbers fits =>
      refine Or.inr ⟨_, rfl, by rw [List.length_map, fits], fun item member => ?_⟩
      obtain ⟨n, _, rfl⟩ := List.mem_map.1 member
      exact ⟨n, rfl⟩
  · rintro (⟨n, rfl⟩ | ⟨items, rfl, same, all⟩)
    · exact ⟨_, rfl⟩
    · rcases numbers_or_other items with ⟨numbers, rfl⟩ | ⟨before, found, after, noNumber, rfl⟩
      · rw [List.length_map] at same
        exact ⟨_, (Takes.vector numbers same).apply_eq⟩
      · obtain ⟨n, rfl⟩ := all found (List.mem_append_right _ List.mem_cons_self)
        cases noNumber

theorem multiply_succeeds_iff (coordinates : Coordinates) (operand : Value) :
    (∃ result, multiply coordinates operand = .ok result) ↔ ∃ n, operand = .number n := by
  constructor
  · rintro ⟨result, done⟩
    obtain ⟨numbers, takes, _⟩ := (apply_ok_iff .multiply coordinates operand result).1 done
    cases takes with
    | scalar _ n => exact ⟨n, rfl⟩
  · rintro ⟨n, rfl⟩
    exact ⟨_, rfl⟩

theorem add_number (coordinates : Coordinates) (n : Number) :
    add coordinates (.number n) =
      add coordinates (.vector (List.replicate coordinates.length (.number n))) := by
  have repeated := (Takes.vector (List.replicate coordinates.length n)
    List.length_replicate).apply_eq
  rw [List.map_replicate] at repeated
  exact (Takes.scalar .add n).apply_eq.trans repeated.symm

/-- Adding takes numbers and vectors of numbers of the right length, multiplying takes
numbers; the result is then combined place by place, and a number adds like the vector
that repeats it. Any other operand is refused with the first reason there is. No
sequence of operations changes the number of coordinates. -/
theorem arithmetic_by_operand (coordinates : Coordinates) :
    (∀ operand, (∃ result, add coordinates operand = .ok result) ↔
      (∃ n, operand = .number n) ∨ ∃ items, operand = .vector items ∧
        items.length = coordinates.length ∧ ∀ item ∈ items, ∃ n, item = .number n) ∧
    (∀ operand, (∃ result, multiply coordinates operand = .ok result) ↔
      ∃ n, operand = .number n) ∧
    (∀ operation operand result, apply operation coordinates operand = .ok result ↔
      ∃ numbers, Takes coordinates.length operation operand numbers ∧
        Placewise operation coordinates numbers result) ∧
    (∀ n, add coordinates (.number n) =
      add coordinates (.vector (List.replicate coordinates.length (.number n)))) ∧
    (∀ operation operand mismatch, apply operation coordinates operand = .error mismatch ↔
      Refuses coordinates.length operation operand mismatch) ∧
    ∀ steps, (coordinates.run steps).length = coordinates.length :=
  ⟨coordinates.add_succeeds_iff, coordinates.multiply_succeeds_iff, (apply_ok_iff · coordinates),
    coordinates.add_number, (apply_error_iff · coordinates), coordinates.length_run⟩

example : add [⟨0⟩] (.vector [.text "x", .bool true]) = .error (.length 1 2) :=
  rfl

example : add [⟨0⟩, ⟨0⟩] (.vector [.vector [], .bool true]) = .error (.kind .add .vector) :=
  rfl

end SolidScene.Coordinates
