import SolidScene.Proofs.NumberText
import SolidScene.Value

/-!
What the text of a value tells when more text follows it. A literal ends at its
own closing quote, a number or a truth value is a word that ends at the first
delimiter, and a vector is read item by item. So a value and the rest after it
are both recovered from the joined text, with every NaN read as one and the same.
-/

namespace SolidScene

theorem cut_append_injective (stops : Char → Prop) {left right s t : List Char}
    (leftClear : ∀ char ∈ left, ¬ stops char) (rightClear : ∀ char ∈ right, ¬ stops char)
    (leftEnds : ∀ char ∈ s.head?, stops char) (rightEnds : ∀ char ∈ t.head?, stops char)
    (same : left ++ s = right ++ t) : left = right ∧ s = t := by
  induction left generalizing right with
  | nil =>
    cases right with
    | nil => exact ⟨rfl, same⟩
    | cons char right =>
      -- the character would stop the one and not the other
      rw [List.nil_append] at same
      exact absurd (leftEnds char (by rw [same]; rfl)) (rightClear char List.mem_cons_self)
  | cons char left ih =>
    cases right with
    | nil =>
      rw [List.nil_append] at same
      exact absurd (rightEnds char (by rw [← same]; rfl)) (leftClear char List.mem_cons_self)
    | cons other right =>
      obtain ⟨head, tail⟩ := List.cons.inj same
      obtain ⟨words, rests⟩ := ih (fun c member => leftClear c (List.mem_cons_of_mem _ member))
        (fun c member => rightClear c (List.mem_cons_of_mem _ member)) tail
      exact ⟨by rw [head, words], rests⟩

theorem cut_at_mark {mark : Char} {left right s t : List Char} (leftClear : mark ∉ left)
    (rightClear : mark ∉ right) (same : left ++ mark :: s = right ++ mark :: t) :
    left = right ∧ s = t := by
  have first : ∀ rest : List Char, ∀ char ∈ (mark :: rest).head?, char = mark :=
    fun rest char member => (Option.mem_some_iff.1 member).symm
  obtain ⟨cut, rests⟩ := cut_append_injective (· = mark)
    (fun char member found => leftClear (found ▸ member))
    (fun char member found => rightClear (found ▸ member)) (first s) (first t) same
  exact ⟨cut, (List.cons.inj rests).2⟩

theorem forall_of_all {chars : List Char} {P : Char → Prop} [DecidablePred P]
    (checked : chars.all (fun char => decide (P char)) = true) : ∀ char ∈ chars, P char :=
  fun char member => of_decide_eq_true (List.all_eq_true.1 checked char member)

namespace Literal

def unescape : Char → Char
  | 'n' => '\n'
  | 't' => '\t'
  | 'r' => '\r'
  | other => other

/-- Reads the characters of a literal behind its opening quote, up to the closing
one, and gives what follows. -/
def read : List Char → Option (List Char × List Char)
  | [] => none
  | '"' :: rest => some ([], rest)
  | '\\' :: letter :: rest =>
    (read rest).map fun found => (unescape letter :: found.1, found.2)
  | plain :: rest => (read rest).map fun found => (plain :: found.1, found.2)

theorem read_plain {plain : Char} (rest : List Char) (noQuote : plain ≠ '"')
    (noBackslash : plain ≠ '\\') :
    read (plain :: rest) = (read rest).map fun found => (plain :: found.1, found.2) := by
  rw [read]
  · exact noQuote
  · intro letter after same
    exact absurd same noBackslash

theorem read_escape (char : Char) (rest : List Char) :
    read ((escape char).toList ++ rest) =
      (read rest).map fun found => (char :: found.1, found.2) := by
  unfold escape
  split
  case h_1 | h_2 | h_3 | h_4 | h_5 => rfl
  case h_6 noQuote noBackslash _ _ _ =>
    rw [show char.toString.toList = [char] from String.toList_singleton char]
    exact read_plain rest noQuote noBackslash

theorem read_body (chars rest : List Char) :
    read ((body chars).toList ++ '"' :: rest) = some (chars, rest) := by
  induction chars with
  | nil => rfl
  | cons char chars ih =>
    rw [body, String.toList_append, List.append_assoc, read_escape, ih]
    rfl

theorem quote_toList (content : String) :
    (quote content).toList = '"' :: ((body content.toList).toList ++ ['"']) := by
  rw [quote, String.toList_append, String.toList_append, List.append_assoc]
  rfl

theorem quote_append_injective {left right : String} {s t : List Char}
    (same : (quote left).toList ++ s = (quote right).toList ++ t) : left = right ∧ s = t := by
  rw [quote_toList, quote_toList, List.cons_append, List.cons_append, List.append_assoc,
    List.append_assoc] at same
  have found := congrArg read (List.cons.inj same).2
  rw [List.singleton_append, List.singleton_append, read_body, read_body] at found
  obtain ⟨chars, rest⟩ := Prod.mk.inj (Option.some.inj found)
  exact ⟨String.toList_inj.1 chars, rest⟩

end Literal

namespace Value

def delimiters : List Char := [',', ')', ']']

/-- Nothing, or a delimiter first. -/
def Delimited (rest : List Char) : Prop :=
  ∀ char ∈ rest.head?, char ∈ delimiters

/-- A character of a word: it ends no value and starts no literal and no vector. -/
def IsWordChar (char : Char) : Prop :=
  char ∉ delimiters ∧ char ≠ '"' ∧ char ≠ '['

theorem word_append_injective {left right s t : List Char}
    (leftWord : ∀ char ∈ left, IsWordChar char) (rightWord : ∀ char ∈ right, IsWordChar char)
    (leftEnds : Delimited s) (rightEnds : Delimited t) (same : left ++ s = right ++ t) :
    left = right ∧ s = t :=
  cut_append_injective (· ∈ delimiters) (fun char member => (leftWord char member).1)
    (fun char member => (rightWord char member).1) leftEnds rightEnds same

theorem isWordChar_of_isDigit {char : Char} (digit : char.isDigit = true) : IsWordChar char := by
  have other : ∀ mark : Char, mark.isDigit = false → char ≠ mark := by
    rintro mark plain rfl
    rw [plain] at digit
    cases digit
  refine ⟨fun member => ?_, other '"' rfl, other '[' rfl⟩
  simp only [delimiters, List.mem_cons, List.not_mem_nil, or_false] at member
  rcases member with comma | parenthesis | bracket
  · exact other ',' rfl comma
  · exact other ')' rfl parenthesis
  · exact other ']' rfl bracket

instance (char : Char) : Decidable (IsWordChar char) :=
  inferInstanceAs (Decidable (char ∉ delimiters ∧ char ≠ '"' ∧ char ≠ '['))

theorem number_word (number : Number) : ∀ char ∈ number.text.toList, IsWordChar char := by
  intro char member
  rcases number.text_chars char member with digit | letter
  · exact isWordChar_of_isDigit digit
  · have letters : ∀ letter ∈ ['-', 'N', 'a', '.', 'i', 'n', 'f'], IsWordChar letter :=
      forall_of_all (by decide)
    exact letters char letter

theorem bool_word (flag : Bool) : ∀ char ∈ (boolText flag).toList, IsWordChar char := by
  cases flag <;> exact forall_of_all (by decide)

theorem number_ne_bool (number : Number) (flag : Bool) :
    number.text.toList ≠ (boolText flag).toList := by
  intro same
  have letter : 'e' ∈ number.text.toList := by
    rw [same]
    cases flag <;> decide
  rcases number.text_chars 'e' letter with digit | other
  · cases digit
  · exact absurd other (by decide)

mutual

/-- The value with one NaN in place of all of them. -/
def collapsed : Value → Value
  | .number n => .number n.collapsed
  | .bool flag => .bool flag
  | .text content => .text content
  | .vector items => .vector (collapsedItems items)

def collapsedItems : List Value → List Value
  | [] => []
  | first :: rest => collapsed first :: collapsedItems rest

end

mutual

theorem write_collapsed : ∀ value : Value, value.collapsed.write = value.write
  | .number n => by rw [collapsed, write, write, n.text_collapsed]
  | .bool flag => rfl
  | .text content => rfl
  | .vector items => by rw [collapsed, write, write, writeItems_collapsed items]

theorem writeItems_collapsed : ∀ items : List Value,
    writeItems (collapsedItems items) = writeItems items
  | [] => rfl
  | first :: rest => by
    rw [collapsedItems, writeItems, writeItems, write_collapsed first, writeRest_collapsed rest]

theorem writeRest_collapsed : ∀ items : List Value,
    writeRest (collapsedItems items) = writeRest items
  | [] => rfl
  | first :: rest => by
    rw [collapsedItems, writeRest, writeRest, write_collapsed first, writeRest_collapsed rest]

end

theorem vector_toList (items : List Value) (s : List Char) :
    (vector items).write.toList ++ s = '[' :: ((writeItems items).toList ++ ']' :: s) := by
  rw [write, String.toList_append, String.toList_append, List.append_assoc, List.append_assoc]
  rfl

theorem text_toList (content : String) (s : List Char) :
    (text content).write.toList ++ s =
      '"' :: ((Literal.body content.toList).toList ++ '"' :: s) := by
  rw [write, Literal.quote_toList, List.cons_append, List.append_assoc]
  rfl

theorem word_ne_cons {word s rest : List Char} {opening : Char} (filled : word ≠ [])
    (chars : ∀ char ∈ word, IsWordChar char) (marked : ¬ IsWordChar opening) :
    word ++ s ≠ opening :: rest := by
  cases word with
  | nil => exact absurd rfl filled
  | cons char word =>
    intro same
    have first := chars char List.mem_cons_self
    rw [(List.cons.inj same).1] at first
    exact marked first

theorem boolText_ne_nil (flag : Bool) : (boolText flag).toList ≠ [] := by
  cases flag <;> decide

theorem write_ne_delimiter (value : Value) {s rest : List Char} {mark : Char}
    (delimiter : mark ∈ delimiters) : value.write.toList ++ s ≠ mark :: rest := by
  have noWord : ¬ IsWordChar mark := fun word => word.1 delimiter
  cases value with
  | number n => exact word_ne_cons n.text_ne_nil (number_word n) noWord
  | bool flag => exact word_ne_cons (boolText_ne_nil flag) (bool_word flag) noWord
  | text content =>
    rw [text_toList]
    intro same
    rw [← (List.cons.inj same).1] at delimiter
    exact absurd delimiter (by decide)
  | vector items =>
    rw [vector_toList]
    intro same
    rw [← (List.cons.inj same).1] at delimiter
    exact absurd delimiter (by decide)

theorem writeRest_toList (next : Value) (rest : List Value) (s : List Char) :
    (writeRest (next :: rest)).toList ++ s =
      ',' :: ' ' :: (next.write.toList ++ ((writeRest rest).toList ++ s)) := by
  rw [writeRest, String.toList_append, String.toList_append, List.append_assoc,
    List.append_assoc]
  rfl

theorem delimited_of_mem {mark : Char} (rest : List Char) (delimiter : mark ∈ delimiters) :
    Delimited (mark :: rest) := by
  intro char first
  rw [List.head?_cons, Option.mem_some_iff] at first
  rwa [← first]

theorem writeRest_delimited (rest : List Value) (s : List Char) :
    Delimited ((writeRest rest).toList ++ ']' :: s) := by
  cases rest with
  | nil => exact delimited_of_mem s (by decide)
  | cons next rest =>
    rw [writeRest_toList]
    exact delimited_of_mem _ (by decide)

mutual

theorem write_append_injective : ∀ (left right : Value) {s t : List Char}, Delimited s →
    Delimited t → left.write.toList ++ s = right.write.toList ++ t →
    left.collapsed = right.collapsed ∧ s = t
  | .number n, right, s, t, leftEnds, rightEnds, same => by
    cases right with
    | number other =>
      obtain ⟨words, rests⟩ :=
        word_append_injective (number_word n) (number_word other) leftEnds rightEnds same
      rw [collapsed, collapsed, (Number.text_eq_iff n other).1 (String.toList_inj.1 words)]
      exact ⟨rfl, rests⟩
    | bool flag =>
      exact absurd (word_append_injective (number_word n) (bool_word flag) leftEnds rightEnds
        same).1 (number_ne_bool n flag)
    | text content =>
      rw [text_toList] at same
      exact absurd same (word_ne_cons n.text_ne_nil (number_word n) (by decide))
    | vector items =>
      rw [vector_toList] at same
      exact absurd same (word_ne_cons n.text_ne_nil (number_word n) (by decide))
  | .bool flag, right, s, t, leftEnds, rightEnds, same => by
    cases right with
    | number other =>
      exact absurd (word_append_injective (bool_word flag) (number_word other) leftEnds rightEnds
        same).1.symm (number_ne_bool other flag)
    | bool other =>
      obtain ⟨words, rests⟩ :=
        word_append_injective (bool_word flag) (bool_word other) leftEnds rightEnds same
      -- neither word is a front part of the other
      have equal : flag = other := by
        cases flag <;> cases other
        · rfl
        · exact absurd words (by decide)
        · exact absurd words (by decide)
        · rfl
      rw [equal]
      exact ⟨rfl, rests⟩
    | text content =>
      rw [text_toList] at same
      exact absurd same (word_ne_cons (boolText_ne_nil flag) (bool_word flag) (by decide))
    | vector items =>
      rw [vector_toList] at same
      exact absurd same (word_ne_cons (boolText_ne_nil flag) (bool_word flag) (by decide))
  | .text content, right, s, t, _, _, same => by
    cases right with
    | number other =>
      rw [text_toList] at same
      exact absurd same.symm (word_ne_cons other.text_ne_nil (number_word other) (by decide))
    | bool flag =>
      rw [text_toList] at same
      exact absurd same.symm (word_ne_cons (boolText_ne_nil flag) (bool_word flag) (by decide))
    | text other =>
      obtain ⟨contents, rests⟩ := Literal.quote_append_injective same
      rw [contents]
      exact ⟨rfl, rests⟩
    | vector items =>
      rw [text_toList, vector_toList] at same
      exact absurd (List.cons.inj same).1 (by decide)
  | .vector items, right, s, t, _, _, same => by
    rw [vector_toList] at same
    cases right with
    | number other =>
      exact absurd same.symm (word_ne_cons other.text_ne_nil (number_word other) (by decide))
    | bool flag =>
      exact absurd same.symm (word_ne_cons (boolText_ne_nil flag) (bool_word flag) (by decide))
    | text content =>
      rw [text_toList] at same
      exact absurd (List.cons.inj same).1 (by decide)
    | vector others =>
      rw [vector_toList] at same
      obtain ⟨contents, rests⟩ := writeItems_append_injective items others (List.cons.inj same).2
      rw [collapsed, collapsed, contents]
      exact ⟨rfl, rests⟩

theorem writeItems_append_injective : ∀ (left right : List Value) {s t : List Char},
    (writeItems left).toList ++ ']' :: s = (writeItems right).toList ++ ']' :: t →
    collapsedItems left = collapsedItems right ∧ s = t
  | [], [], s, t, same => ⟨rfl, (List.cons.inj same).2⟩
  | [], first :: rest, s, t, same => by
    rw [writeItems, writeItems, String.toList_append, List.append_assoc] at same
    exact absurd same.symm (first.write_ne_delimiter (by decide))
  | first :: rest, [], s, t, same => by
    rw [writeItems, writeItems, String.toList_append, List.append_assoc] at same
    exact absurd same (first.write_ne_delimiter (by decide))
  | first :: rest, other :: others, s, t, same => by
    rw [writeItems, writeItems, String.toList_append, String.toList_append, List.append_assoc,
      List.append_assoc] at same
    obtain ⟨heads, tails⟩ := write_append_injective first other (writeRest_delimited rest s)
      (writeRest_delimited others t) same
    obtain ⟨items, rests⟩ := writeRest_append_injective rest others tails
    rw [collapsedItems, collapsedItems, heads, items]
    exact ⟨rfl, rests⟩

theorem writeRest_append_injective : ∀ (left right : List Value) {s t : List Char},
    (writeRest left).toList ++ ']' :: s = (writeRest right).toList ++ ']' :: t →
    collapsedItems left = collapsedItems right ∧ s = t
  | [], [], s, t, same => ⟨rfl, (List.cons.inj same).2⟩
  | [], next :: rest, s, t, same => by
    rw [writeRest_toList] at same
    exact absurd (List.cons.inj same).1 (by decide)
  | next :: rest, [], s, t, same => by
    rw [writeRest_toList] at same
    exact absurd (List.cons.inj same).1 (by decide)
  | next :: rest, other :: others, s, t, same => by
    rw [writeRest_toList, writeRest_toList] at same
    obtain ⟨heads, tails⟩ := write_append_injective next other (writeRest_delimited rest s)
      (writeRest_delimited others t) (List.cons.inj (List.cons.inj same).2).2
    obtain ⟨items, rests⟩ := writeRest_append_injective rest others tails
    rw [collapsedItems, collapsedItems, heads, items]
    exact ⟨rfl, rests⟩

end

/-- The text of a value and what follows it tell both: the rest, and the value up to
the payload of its NaNs. A literal in front of any text ends at its own quote, and
reading it undoes the escapes. -/
theorem write_append_eq_iff {s t : String} (leftEnds : Delimited s.toList)
    (rightEnds : Delimited t.toList) (left right : Value) :
    (left.write ++ s = right.write ++ t ↔ s = t ∧ left.collapsed = right.collapsed) ∧
      ∀ content rest : String, ∃ inside,
        ((text content).write ++ rest).toList = '"' :: inside ∧
          Literal.read inside = some (content.toList, rest.toList) := by
  refine ⟨⟨fun same => ?_, ?_⟩, fun content rest => ?_⟩
  · have chars := congrArg String.toList same
    rw [String.toList_append, String.toList_append] at chars
    obtain ⟨values, rests⟩ := write_append_injective left right leftEnds rightEnds chars
    exact ⟨String.toList_inj.1 rests, values⟩
  · rintro ⟨rests, values⟩
    rw [← left.write_collapsed, ← right.write_collapsed, rests, values]
  · refine ⟨_, ?_, Literal.read_body content.toList rest.toList⟩
    rw [String.toList_append, text_toList]

/-- A comma inside a literal is not mistaken for a separator, and two NaNs read alike. -/
theorem write_append_of_quoted_comma :
    let words := vector [.text "\\\", \"", .number ⟨0x7ff8000000000001⟩]
    let other := vector [.text "\\\", \"", .number ⟨0xfff8000000000000⟩]
    let split := vector [.text "\\", .text "", .number ⟨0x7ff8000000000001⟩]
    (Delimited ", 2]".toList ∧ Delimited ")".toList) ∧
      words.write ++ ", 2]" = other.write ++ ", 2]" ∧
      words.write ++ ", 2]" ≠ other.write ++ ")" ∧ words.write ++ ")" ≠ split.write ++ ")" := by
  intro words other split
  have comma : Delimited ", 2]".toList := delimited_of_mem [' ', '2', ']'] (by decide)
  have parenthesis : Delimited ")".toList := delimited_of_mem [] (by decide)
  refine ⟨⟨comma, parenthesis⟩, ?_, fun same => ?_, fun same => ?_⟩
  · exact (write_append_eq_iff comma comma words other).1.2 ⟨rfl, rfl⟩
  · have rests := ((write_append_eq_iff comma parenthesis words other).1.1 same).1
    exact absurd rests (by decide)
  · have values := ((write_append_eq_iff parenthesis parenthesis words split).1.1 same).2
    have contents := Value.text.inj (List.cons.inj (Value.vector.inj values)).1
    exact absurd contents (by decide)

end Value

end SolidScene
