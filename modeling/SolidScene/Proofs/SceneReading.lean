import Mathlib.Data.List.Basic
import SolidScene.Proofs.ConstructibleNodes
import SolidScene.Proofs.ValueText

/-!
Reading scenes back from their joined text. A head is a mark, a word and a pair
of parentheses, and no word holds a parenthesis; what stands between them is cut
at the first `=` of each property and at the end of each value. A node is thereby
recovered with whatever text follows it, and a list of nodes up to its end or to
a closing brace. What the text does not tell is left out by `emitted`: the
properties of nodes that do not show them, and which NaN a number was.
-/

namespace SolidScene

namespace Properties

theorem names_collapsed (entries : List Property) :
    (entries.map fun property => (property.1, property.2.collapsed)).map Prod.fst =
      entries.map Prod.fst := by
  rw [List.map_map]
  rfl

def collapsed (properties : Properties) : Properties :=
  ⟨properties.entries.map fun property => (property.1, property.2.collapsed),
    by rw [names_collapsed]; exact properties.distinct⟩

def writeMore : List Property → List Char
  | [] => []
  | next :: rest => ',' :: ' ' :: (writeEntries (next :: rest)).toList

theorem writeEntries_toList (first : Property) (rest : List Property) (s : List Char) :
    (writeEntries (first :: rest)).toList ++ s =
      first.1.toList ++ '=' :: (first.2.write.toList ++ (writeMore rest ++ s)) := by
  have equals : ("=" : String).toList = ['='] := rfl
  have separator : (", " : String).toList = [',', ' '] := rfl
  cases rest <;>
    simp [writeEntries, Property.write, writeMore, equals, separator, List.append_assoc]

theorem writeMore_delimited (rest : List Property) (s : List Char) :
    Value.Delimited (writeMore rest ++ ')' :: s) := by
  cases rest with
  | nil => exact Value.delimited_of_mem s (by decide)
  | cons next rest => exact Value.delimited_of_mem _ (by decide)

/-- A name that cannot be mistaken for more than a name. -/
def IsPlainName (name : String) : Prop :=
  '=' ∉ name.toList ∧ ')' ∉ name.toList

instance (name : String) : Decidable (IsPlainName name) :=
  inferInstanceAs (Decidable ('=' ∉ name.toList ∧ ')' ∉ name.toList))

theorem writeEntries_ne_close {first : Property} (plain : IsPlainName first.1)
    (rest : List Property) (s t : List Char) :
    (writeEntries (first :: rest)).toList ++ s ≠ ')' :: t := by
  rw [writeEntries_toList]
  cases chars : first.1.toList with
  | nil => exact fun same => absurd (List.cons.inj same).1 (by decide)
  | cons char more =>
    intro same
    apply plain.2
    rw [chars, (List.cons.inj same).1]
    exact List.mem_cons_self

theorem writeEntries_append_injective {left right : List Property} {s t : List Char}
    (leftPlain : ∀ property ∈ left, IsPlainName property.1)
    (rightPlain : ∀ property ∈ right, IsPlainName property.1)
    (same : (writeEntries left).toList ++ ')' :: s = (writeEntries right).toList ++ ')' :: t) :
    left.map (fun property => (property.1, property.2.collapsed)) =
      right.map (fun property => (property.1, property.2.collapsed)) ∧ s = t := by
  induction left generalizing right with
  | nil =>
    cases right with
    | nil => exact ⟨rfl, (List.cons.inj same).2⟩
    | cons first rest =>
      exact absurd same.symm
        (writeEntries_ne_close (rightPlain first List.mem_cons_self) rest _ _)
  | cons first rest ih =>
    cases right with
    | nil =>
      exact absurd same (writeEntries_ne_close (leftPlain first List.mem_cons_self) rest _ _)
    | cons other others =>
      rw [writeEntries_toList, writeEntries_toList] at same
      obtain ⟨names, behind⟩ := cut_at_mark (leftPlain first List.mem_cons_self).1
        (rightPlain other List.mem_cons_self).1 same
      obtain ⟨values, tails⟩ := Value.write_append_injective first.2 other.2
        (writeMore_delimited rest s) (writeMore_delimited others t) behind
      have later : rest.map (fun property => (property.1, property.2.collapsed)) =
          others.map (fun property => (property.1, property.2.collapsed)) ∧ s = t := by
        apply ih (fun property member => leftPlain property (List.mem_cons_of_mem _ member))
          (fun property member => rightPlain property (List.mem_cons_of_mem _ member))
        -- a comma or the parenthesis tells whether there are more entries
        cases rest with
        | nil =>
          cases others with
          | nil => exact tails
          | cons next more => exact absurd (List.cons.inj tails).1 (by decide)
        | cons next more =>
          cases others with
          | nil => exact absurd (List.cons.inj tails).1 (by decide)
          | cons _ _ => exact (List.cons.inj (List.cons.inj tails).2).2
      rw [List.map_cons, List.map_cons, String.toList_inj.1 names, values, later.1]
      exact ⟨rfl, later.2⟩

theorem parameters_append_injective {left right : Properties} {s t : List Char}
    (leftPlain : ∀ name ∈ left.names, IsPlainName name)
    (rightPlain : ∀ name ∈ right.names, IsPlainName name)
    (same : left.parameters.toList ++ ')' :: s = right.parameters.toList ++ ')' :: t) :
    left.collapsed = right.collapsed ∧ s = t := by
  obtain ⟨entries, rests⟩ := writeEntries_append_injective
    (fun property member => leftPlain property.1 (List.mem_map_of_mem member))
    (fun property member => rightPlain property.1 (List.mem_map_of_mem member)) same
  exact ⟨Properties.ext entries, rests⟩

theorem parameters_collapsed (properties : Properties) :
    properties.collapsed.parameters = properties.parameters := by
  obtain ⟨entries, distinct⟩ := properties
  unfold parameters collapsed
  dsimp only
  clear distinct
  induction entries with
  | nil => rfl
  | cons first rest ih =>
    have head : Property.write (first.1, first.2.collapsed) = first.write := by
      rw [Property.write, Property.write, Value.write_collapsed]
    cases rest with
    | nil => exact head
    | cons next more =>
      rw [List.map_cons, writeEntries, writeEntries, head, ih]
      · exact List.cons_ne_nil _ _
      · exact List.cons_ne_nil _ _

end Properties

/-- The words that stand at the head of a node, raw commands apart. -/
inductive HeadWord where
  | shape (form : Shape)
  | extrusion
  | container (operation : Container)
  | transform (operation : Transform)
  deriving DecidableEq

namespace HeadWord

def name : HeadWord → String
  | .shape form => form.name
  | .extrusion => NodeKind.extrusionName
  | .container operation => operation.name
  | .transform operation => operation.name

def all : List HeadWord := [
  .shape .circle, .shape .square, .shape .polygon, .shape .text, .shape .sphere, .shape .cube,
  .shape .cylinder, .extrusion, .container .union, .container .difference,
  .container .intersection, .container .hull, .container .minkowski, .transform .translate,
  .transform .rotate, .transform .scale, .transform .resize, .transform .mirror,
  .transform .color]

theorem mem_all (word : HeadWord) : word ∈ all := by
  rcases word with form | _ | operation | operation
  · cases form <;> decide
  · decide
  · cases operation <;> decide
  · cases operation <;> decide

theorem name_injective {left right : HeadWord} (same : left.name = right.name) :
    left = right := by
  have distinct : (all.map name).Nodup := by decide
  exact List.inj_on_of_nodup_map distinct left.mem_all right.mem_all same

theorem name_chars (word : HeadWord) :
    ∀ char ∈ word.name.toList, char ∉ ['(', '*', '!', '#', '\x7d', '\n'] := by
  have checked : ∀ word ∈ all, word.name.toList.all
      (fun char => decide (char ∉ ['(', '*', '!', '#', '\x7d', '\n'])) = true := by decide
  exact forall_of_all (checked word word.mem_all)

theorem name_ne_nil (word : HeadWord) : word.name.toList ≠ [] := by
  have checked : ∀ word ∈ all, word.name.toList ≠ [] := by decide
  exact checked word word.mem_all

end HeadWord

namespace NodeKind

/-- The word at the head, unless the head is a raw command. -/
def headWord? : NodeKind → Option HeadWord
  | .shape form => some (.shape form)
  | .linearExtrude => some .extrusion
  | .container operation => some (.container operation)
  | .transform operation _ => some (.transform operation)
  | .raw _ => none

/-- What stands between the parentheses of the head. -/
def inside : NodeKind → Properties → List Char
  | .shape _, properties => properties.parameters.toList
  | .linearExtrude, properties => properties.parameters.toList
  | .transform _ parameter, _ => parameter.write.toList
  | .container _, _ => []
  | .raw _, _ => []

def collapsed : NodeKind → NodeKind
  | .transform operation parameter => .transform operation parameter.collapsed
  | other => other

def shown : NodeKind → Properties → Properties
  | .shape _, properties => properties.collapsed
  | .linearExtrude, properties => properties.collapsed
  | _, _ => .empty

theorem head_toList {kind : NodeKind} {word : HeadWord} (properties : Properties)
    (named : kind.headWord? = some word) (s : List Char) :
    (Node.head kind properties).toList ++ s =
      word.name.toList ++ '(' :: (kind.inside properties ++ ')' :: s) := by
  have opening : ("(" : String).toList = ['('] := rfl
  have closing : (")" : String).toList = [')'] := rfl
  have both : ("()" : String).toList = ['(', ')'] := rfl
  cases kind <;> cases named <;>
    simp [Node.head, HeadWord.name, inside, opening, closing, both, List.append_assoc]

theorem inside_append_injective {left right : NodeKind}
    {leftProperties rightProperties : Properties} {word : HeadWord} {s t : List Char}
    (leftNamed : left.headWord? = some word) (rightNamed : right.headWord? = some word)
    (leftPlain : ∀ name ∈ leftProperties.names, Properties.IsPlainName name)
    (rightPlain : ∀ name ∈ rightProperties.names, Properties.IsPlainName name)
    (same : left.inside leftProperties ++ ')' :: s = right.inside rightProperties ++ ')' :: t) :
    left.collapsed = right.collapsed ∧
      left.shown leftProperties = right.shown rightProperties ∧ s = t := by
  cases left with
  | shape form =>
    cases leftNamed
    cases right <;> cases rightNamed
    obtain ⟨properties, rests⟩ :=
      Properties.parameters_append_injective leftPlain rightPlain same
    exact ⟨rfl, properties, rests⟩
  | linearExtrude =>
    cases leftNamed
    cases right <;> cases rightNamed
    obtain ⟨properties, rests⟩ :=
      Properties.parameters_append_injective leftPlain rightPlain same
    exact ⟨rfl, properties, rests⟩
  | container operation =>
    cases leftNamed
    cases right <;> cases rightNamed
    exact ⟨rfl, rfl, (List.cons.inj same).2⟩
  | transform operation parameter =>
    cases leftNamed
    cases right with
    | transform other second =>
      cases rightNamed
      obtain ⟨parameters, rests⟩ := Value.write_append_injective parameter second
        (Value.delimited_of_mem s (by decide)) (Value.delimited_of_mem t (by decide)) same
      rw [collapsed, collapsed, parameters]
      exact ⟨rfl, rfl, (List.cons.inj rests).2⟩
    | shape _ => cases rightNamed
    | linearExtrude => cases rightNamed
    | container _ => cases rightNamed
    | raw _ => cases rightNamed
  | raw command => cases leftNamed

theorem head_shown (kind : NodeKind) (properties : Properties) :
    Node.head kind.collapsed (kind.shown properties) = Node.head kind properties := by
  cases kind with
  | transform operation parameter =>
    rw [collapsed, Node.head, Node.head, Value.write_collapsed]
  | shape form => simp only [collapsed, shown, Node.head, Properties.parameters_collapsed]
  | linearExtrude => simp only [collapsed, shown, Node.head, Properties.parameters_collapsed]
  | container operation => rfl
  | raw command => rfl

theorem headWord?_eq_none {kind : NodeKind} (wordless : kind.headWord? = none) :
    ∃ command, kind = .raw command := by
  cases kind with
  | raw command => exact ⟨command, rfl⟩
  | _ => cases wordless

end NodeKind

namespace Node

mutual

/-- What the text of a node tells: without the properties that are not shown, and
with one NaN in place of all of them. -/
def emitted : Node → Node
  | ⟨kind, properties, children, modifier⟩ =>
    ⟨kind.collapsed, kind.shown properties, emittedAll children, modifier⟩

def emittedAll : List Node → List Node
  | [] => []
  | first :: rest => emitted first :: emittedAll rest

end

theorem emittedAll_eq_map (nodes : List Node) : emittedAll nodes = nodes.map emitted := by
  induction nodes with
  | nil => rfl
  | cons first rest ih => rw [emittedAll, ih, List.map_cons]

theorem isStatement_emitted (kind : NodeKind) (children : List Node) :
    isStatement kind.collapsed (emittedAll children) = isStatement kind children := by
  cases kind with
  | raw command => cases children <;> rfl
  | _ => rfl

mutual

theorem write_emitted : ∀ node : Node, node.emitted.write = node.write
  | ⟨kind, properties, children, modifier⟩ => by
    rw [emitted, write, write, NodeKind.head_shown, isStatement_emitted,
      writeAll_emitted children]

theorem writeAll_emitted : ∀ nodes : List Node, writeAll (emittedAll nodes) = writeAll nodes
  | [] => rfl
  | first :: rest => by
    rw [emittedAll, writeAll, writeAll, write_emitted first, writeAll_emitted rest]

end

def marks : List Char := ['*', '!', '#']

theorem markText_append_injective {left right : Option Modifier} {s t : List Char}
    (leftPlain : ∀ char ∈ s.head?, char ∉ marks) (rightPlain : ∀ char ∈ t.head?, char ∉ marks)
    (same : (markText left).toList ++ s = (markText right).toList ++ t) :
    left = right ∧ s = t := by
  have single : ∀ modifier : Modifier,
      ∃ mark ∈ marks, (markText (some modifier)).toList = [mark] := by
    intro modifier
    cases modifier <;> exact ⟨_, by decide, rfl⟩
  cases left with
  | none =>
    cases right with
    | none => exact ⟨rfl, same⟩
    | some modifier =>
      obtain ⟨mark, isMark, text⟩ := single modifier
      rw [text] at same
      exact absurd isMark (leftPlain mark (by rw [show s = mark :: t from same]; rfl))
  | some modifier =>
    cases right with
    | none =>
      obtain ⟨mark, isMark, text⟩ := single modifier
      rw [text] at same
      exact absurd isMark (rightPlain mark (by rw [show t = mark :: s from same.symm]; rfl))
    | some other =>
      cases modifier <;> cases other <;> first
        | exact ⟨rfl, (List.cons.inj same).2⟩
        | exact absurd (List.cons.inj same).1 (by decide)

/-- A head that is read alike wherever it stands. -/
def IsReadable (node : Node) : Prop :=
  (∀ command, node.kind ≠ .raw command) ∧
    (∀ name ∈ node.properties.names, Properties.IsPlainName name) ∧ node.IsLeafShape

theorem IsReadable.headWord {node : Node} (readable : node.IsReadable) :
    ∃ word, node.kind.headWord? = some word := by
  cases named : node.kind.headWord? with
  | some word => exact ⟨word, rfl⟩
  | none =>
    obtain ⟨command, raw⟩ := NodeKind.headWord?_eq_none named
    exact absurd raw (readable.1 command)

theorem IsLeafShape.childless {node : Node} (leaf : node.IsLeafShape)
    (statement : isStatement node.kind node.children = true) : node.children = [] := by
  cases kind : node.kind with
  | shape form => exact leaf form kind
  | raw command =>
    rw [kind] at statement
    exact List.isEmpty_iff.1 statement
  | _ =>
    rw [kind] at statement
    cases statement

def ending (kind : NodeKind) (children : List Node) : List Char :=
  if isStatement kind children then statementEnd.toList
  else blockOpen.toList ++ ((writeAll children).toList ++ blockClose.toList)

theorem write_toList {node : Node} {word : HeadWord} (named : node.kind.headWord? = some word)
    (s : List Char) :
    node.write.toList ++ s =
      (markText node.modifier?).toList ++ (word.name.toList ++
        '(' :: (node.kind.inside node.properties ++
          ')' :: (ending node.kind node.children ++ s))) := by
  obtain ⟨kind, properties, children, modifier⟩ := node
  rw [← NodeKind.head_toList properties named, write, ending]
  dsimp only
  split <;> simp [List.append_assoc]

theorem name_head_plain (word : HeadWord) (rest : List Char) :
    ∀ char ∈ (word.name.toList ++ rest).head?, char ∈ word.name.toList := by
  cases chars : word.name.toList with
  | nil => exact absurd chars word.name_ne_nil
  | cons first more =>
    intro char found
    rw [List.cons_append, List.head?_cons, Option.mem_some_iff] at found
    rw [found]
    exact List.mem_cons_self

theorem write_ne_brace {node : Node} (readable : node.IsReadable) (s t : List Char) :
    node.write.toList ++ s ≠ '\x7d' :: t := by
  obtain ⟨word, named⟩ := readable.headWord
  rw [write_toList named]
  intro same
  cases mark : node.modifier? with
  | none =>
    rw [mark] at same
    have brace := name_head_plain word _ '\x7d' ((congrArg List.head? same).trans List.head?_cons)
    exact word.name_chars _ brace (by decide)
  | some modifier =>
    rw [mark] at same
    cases modifier <;> exact absurd (List.cons.inj same).1 (by decide)

/-- The end of the text, or a closing brace next. -/
def Closed (rest : List Char) : Prop :=
  ∀ char ∈ rest.head?, char = '\x7d'

theorem closed_brace (rest : List Char) : Closed ('\x7d' :: rest) :=
  fun _ found => (Option.mem_some_iff.1 found).symm

theorem closed_nil : Closed [] := by
  intro char found
  cases found

theorem write_not_closed {node : Node} (readable : node.IsReadable) (s : List Char)
    {rest : List Char} (closed : Closed rest) : node.write.toList ++ s ≠ rest := by
  intro same
  cases rest with
  | nil =>
    obtain ⟨word, named⟩ := readable.headWord
    rw [write_toList named] at same
    exact absurd (List.append_eq_nil_iff.1 (List.append_eq_nil_iff.1 same).2).1 word.name_ne_nil
  | cons char rest =>
    rw [closed char rfl] at same
    exact write_ne_brace readable s rest same

mutual

/-- A node is recovered with what follows it. -/
theorem write_append_injective : ∀ (left right : Node) {s t : List Char},
    (∀ node ∈ left.occurrences, node.IsReadable) →
    (∀ node ∈ right.occurrences, node.IsReadable) →
    left.write.toList ++ s = right.write.toList ++ t → left.emitted = right.emitted ∧ s = t
  | ⟨kind, properties, children, modifier⟩, ⟨otherKind, otherProperties, otherChildren,
      otherModifier⟩, s, t, leftReadable, rightReadable, same => by
    have readable := leftReadable _ (self_mem_occurrences _)
    have otherReadable := rightReadable _ (self_mem_occurrences _)
    obtain ⟨word, named⟩ := readable.headWord
    obtain ⟨otherWord, otherNamed⟩ := otherReadable.headWord
    rw [write_toList named, write_toList otherNamed] at same
    have noMark : ∀ (word : HeadWord) (rest : List Char),
        ∀ char ∈ (word.name.toList ++ rest).head?, char ∉ marks := by
      intro word rest char found mark
      exact word.name_chars char (name_head_plain word rest char found)
        (List.mem_cons_of_mem _ (List.mem_append_left ['\x7d', '\n'] mark))
    have noParenthesis : ∀ word : HeadWord, '(' ∉ word.name.toList := fun word member =>
      word.name_chars '(' member (by decide)
    -- from the front: the mark, the word, what is inside, and what follows the head
    obtain ⟨modifiers, heads⟩ := markText_append_injective (noMark word _) (noMark otherWord _) same
    obtain ⟨words, insides⟩ := cut_at_mark (noParenthesis word) (noParenthesis otherWord) heads
    obtain rfl := HeadWord.name_injective (String.toList_inj.1 words)
    obtain ⟨kinds, shown, endings⟩ := NodeKind.inside_append_injective named otherNamed
      readable.2.1 otherReadable.2.1 insides
    dsimp only at modifiers kinds shown endings named otherNamed
    -- without raw commands the word decides whether the node is a statement
    have statement : isStatement otherKind otherChildren = isStatement kind children := by
      cases kind <;> cases named <;> cases otherKind <;> cases otherNamed <;> rfl
    rw [ending, ending, statement] at endings
    rw [emitted, emitted, modifiers, kinds, shown]
    cases flag : isStatement kind children with
    | true =>
      rw [flag, if_pos rfl, if_pos rfl] at endings
      obtain rfl : children = [] := readable.2.2.childless flag
      obtain rfl : otherChildren = [] := otherReadable.2.2.childless (statement.trans flag)
      exact ⟨rfl, List.append_cancel_left endings⟩
    | false =>
      rw [flag, if_neg Bool.false_ne_true, if_neg Bool.false_ne_true, List.append_assoc,
        List.append_assoc, List.append_assoc, List.append_assoc] at endings
      obtain ⟨below, rests⟩ := writeAll_append_injective children otherChildren
        (fun node member => leftReadable node (below_occurrences _ member))
        (fun node member => rightReadable node (below_occurrences _ member))
        (closed_brace _) (closed_brace _) (List.append_cancel_left endings)
      rw [below]
      exact ⟨rfl, (List.cons.inj (List.cons.inj rests).2).2⟩

theorem writeAll_append_injective : ∀ (lefts rights : List Node) {s t : List Char},
    (∀ node ∈ occurrencesOfAll lefts, node.IsReadable) →
    (∀ node ∈ occurrencesOfAll rights, node.IsReadable) → Closed s → Closed t →
    (writeAll lefts).toList ++ s = (writeAll rights).toList ++ t →
    emittedAll lefts = emittedAll rights ∧ s = t
  | [], [], s, t, _, _, _, _, same => ⟨rfl, same⟩
  | [], first :: rest, s, t, _, readable, closed, _, same => by
    rw [writeAll, writeAll, String.toList_append, List.append_assoc] at same
    exact absurd same.symm
      (write_not_closed (readable first (List.mem_append_left _ first.self_mem_occurrences)) _
        closed)
  | first :: rest, [], s, t, readable, _, _, closed, same => by
    rw [writeAll, writeAll, String.toList_append, List.append_assoc] at same
    exact absurd same
      (write_not_closed (readable first (List.mem_append_left _ first.self_mem_occurrences)) _
        closed)
  | first :: rest, other :: others, s, t, leftReadable, rightReadable, leftClosed, rightClosed,
      same => by
    rw [writeAll, writeAll, String.toList_append, String.toList_append, List.append_assoc,
      List.append_assoc] at same
    obtain ⟨heads, tails⟩ := write_append_injective first other
      (fun node member => leftReadable node (List.mem_append_left _ member))
      (fun node member => rightReadable node (List.mem_append_left _ member)) same
    obtain ⟨nodes, rests⟩ := writeAll_append_injective rest others
      (fun node member => leftReadable node (List.mem_append_right _ member))
      (fun node member => rightReadable node (List.mem_append_right _ member))
      leftClosed rightClosed tails
    rw [emittedAll, emittedAll, heads, nodes]
    exact ⟨rfl, rests⟩

end

theorem writeAll_eq_join (nodes : List Node) : writeAll nodes = String.join (nodes.map write) := by
  induction nodes with
  | nil => rfl
  | cons first rest ih => rw [writeAll, ih, List.map_cons, String.join_cons]

def IsPlain (node : Node) : Prop :=
  ∀ other ∈ node.occurrences, (∀ command, other.kind ≠ .raw command) ∧
    ∀ name ∈ other.properties.names, Properties.IsPlainName name

theorem isPlain_of_children {node : Node} (noRaw : ∀ command, node.kind ≠ .raw command)
    (names : ∀ name ∈ node.properties.names, Properties.IsPlainName name)
    (below : ∀ child ∈ node.children, child.IsPlain) : node.IsPlain :=
  all_occurrences ⟨noRaw, names⟩ below

theorem readable_of_plain {nodes : List Node} (made : ∀ node ∈ nodes, node.Constructible)
    (plain : ∀ node ∈ nodes, node.IsPlain) :
    ∀ other ∈ occurrencesOfAll nodes, other.IsReadable := by
  intro other member
  obtain ⟨node, inside, below⟩ := (mem_occurrencesOfAll nodes other).1 member
  obtain ⟨noRaw, names⟩ := plain node inside other below
  exact ⟨noRaw, names, (made node inside).leafShapes other below⟩

/-- The joined text of constructible scenes without raw commands tells the scenes
apart in everything that is emitted, and in nothing else. -/
theorem joined_texts_eq_iff (lefts rights : List Node)
    (leftsMade : ∀ node ∈ lefts, node.Constructible)
    (rightsMade : ∀ node ∈ rights, node.Constructible)
    (leftsPlain : ∀ node ∈ lefts, node.IsPlain) (rightsPlain : ∀ node ∈ rights, node.IsPlain) :
    String.join (lefts.map write) = String.join (rights.map write) ↔
      lefts.map emitted = rights.map emitted := by
  rw [← writeAll_eq_join, ← writeAll_eq_join, ← emittedAll_eq_map, ← emittedAll_eq_map]
  constructor
  · intro same
    exact (writeAll_append_injective lefts rights (readable_of_plain leftsMade leftsPlain)
      (readable_of_plain rightsMade rightsPlain) closed_nil closed_nil
      (congrArg (String.toList · ++ []) same)).1
  · intro same
    rw [← writeAll_emitted lefts, ← writeAll_emitted rights, same]

theorem hidden_parts_read_alike :
    let ball (bits : UInt64) : Node := (Primitive.sphere (.number ⟨bits⟩)).node
    let left := (container .union [some (ball 0x7ff8000000000001), none]).update
      (Properties.empty.insert "ignored" (.bool true))
    let right := container .union [some (ball 0xfff8000000000000)]
    (left.Constructible ∧ right.Constructible) ∧ (left.IsPlain ∧ right.IsPlain) ∧
      String.join ([left, right].map write) = String.join ([right, left].map write) := by
  intro ball left right
  have leftMade : left.Constructible :=
    ⟨[.primitive (.sphere (.number ⟨0x7ff8000000000001⟩)), .container .union [some 0, none],
        .derive 1 (.update (Properties.empty.insert "ignored" (.bool true)))], _, rfl, _,
      Array.mem_push_self, rfl⟩
  have rightMade : right.Constructible :=
    ⟨[.primitive (.sphere (.number ⟨0xfff8000000000000⟩)), .container .union [some 0]], _, rfl, _,
      Array.mem_push_self, rfl⟩
  have ballPlain : ∀ bits, (ball bits).IsPlain := by
    intro bits
    apply isPlain_of_children
    · exact fun _ => NodeKind.noConfusion
    · change ∀ name ∈ ["r"], Properties.IsPlainName name
      decide
    · intro child member
      cases member
  have leftPlain : left.IsPlain := by
    apply isPlain_of_children
    · exact fun _ => NodeKind.noConfusion
    · change ∀ name ∈ ["ignored"], Properties.IsPlainName name
      decide
    · intro child member
      rw [List.mem_singleton.1 member]
      exact ballPlain _
  have rightPlain : right.IsPlain := by
    apply isPlain_of_children
    · exact fun _ => NodeKind.noConfusion
    · intro name member
      cases member
    · intro child member
      rw [List.mem_singleton.1 member]
      exact ballPlain _
  refine ⟨⟨leftMade, rightMade⟩, ⟨leftPlain, rightPlain⟩, ?_⟩
  apply (joined_texts_eq_iff [left, right] [right, left] (by simp [leftMade, rightMade])
    (by simp [leftMade, rightMade]) (by simp [leftPlain, rightPlain])
    (by simp [leftPlain, rightPlain])).2
  rfl

end Node

end SolidScene
