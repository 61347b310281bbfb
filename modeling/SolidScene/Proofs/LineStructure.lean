import SolidScene.Proofs.SceneReading
import SolidScene.Proofs.TreeMeasures

/-!
What cannot end a line. Literals escape their newlines and no other text of a
value holds one, so the head of a node is broken over lines only by a newline in a
raw command or in a property name.

The lines of a scene. Every node puts its header on a line of its own, and a block
ends with a line that holds the closing brace alone. The role of a line is told by
its end, so the lines read as brackets give back the shape of the tree, and the
level of a header among the brackets is the depth of its node in a traversal.
-/

namespace SolidScene

namespace Literal

theorem escape_newline_free (char : Char) : '\n' ∉ (escape char).toList := by
  unfold escape
  split
  case h_1 | h_2 | h_3 | h_4 | h_5 => decide
  case h_6 noNewline _ _ =>
    rw [show char.toString.toList = [char] from String.toList_singleton char, List.mem_singleton]
    exact fun same => noNewline same.symm

theorem body_newline_free (chars : List Char) : '\n' ∉ (body chars).toList := by
  induction chars with
  | nil => exact List.not_mem_nil
  | cons char rest ih =>
    rw [body, String.toList_append, List.mem_append]
    exact fun either => either.elim (escape_newline_free char) ih

theorem quote_newline_free (content : String) : '\n' ∉ (quote content).toList := by
  rw [quote_toList]
  intro member
  rcases List.mem_cons.1 member with quote | inside
  · exact absurd quote (by decide)
  · rcases List.mem_append.1 inside with char | quote
    · exact body_newline_free _ char
    · exact absurd quote (by decide)

end Literal

namespace Value

theorem number_newline_free (number : Number) : '\n' ∉ number.text.toList := by
  intro member
  rcases number.text_chars _ member with digit | letter
  · exact absurd digit (by decide)
  · exact absurd letter (by decide)

mutual

theorem write_newline_free : ∀ value : Value, '\n' ∉ value.write.toList
  | .number n => by
    rw [write]
    exact number_newline_free n
  | .bool flag => by
    cases flag <;> decide
  | .text content => by
    rw [write]
    exact Literal.quote_newline_free content
  | .vector items => by
    rw [write, String.toList_append, String.toList_append, List.mem_append, List.mem_append]
    rintro ((bracket | inside) | bracket)
    · exact absurd bracket (by decide)
    · exact writeItems_newline_free items inside
    · exact absurd bracket (by decide)

theorem writeItems_newline_free : ∀ items : List Value, '\n' ∉ (writeItems items).toList
  | [] => List.not_mem_nil
  | first :: rest => by
    rw [writeItems, String.toList_append, List.mem_append]
    exact fun either => either.elim (write_newline_free first) (writeRest_newline_free rest)

theorem writeRest_newline_free : ∀ items : List Value, '\n' ∉ (writeRest items).toList
  | [] => List.not_mem_nil
  | next :: rest => by
    rw [writeRest, String.toList_append, String.toList_append, List.mem_append, List.mem_append]
    rintro ((comma | inside) | later)
    · exact absurd comma (by decide)
    · exact write_newline_free next inside
    · exact writeRest_newline_free rest later

end

end Value

theorem Property.write_newline_free {property : Property} (name : '\n' ∉ property.1.toList) :
    '\n' ∉ property.write.toList := by
  rw [write, String.toList_append, String.toList_append, List.mem_append, List.mem_append]
  rintro ((inside | equals) | value)
  · exact name inside
  · exact absurd equals (by decide)
  · exact property.2.write_newline_free value

namespace Properties

theorem writeEntries_newline_free {entries : List Property}
    (names : ∀ property ∈ entries, '\n' ∉ property.1.toList) :
    '\n' ∉ (writeEntries entries).toList := by
  induction entries with
  | nil => exact List.not_mem_nil
  | cons first rest ih =>
    have here := Property.write_newline_free (names first List.mem_cons_self)
    have later := ih fun property member => names property (List.mem_cons_of_mem _ member)
    cases rest with
    | nil => exact here
    | cons next more =>
      rw [writeEntries, String.toList_append, String.toList_append, List.mem_append,
        List.mem_append]
      · rintro ((inside | separator) | behind)
        · exact here inside
        · exact absurd separator (by decide)
        · exact later behind
      · exact List.cons_ne_nil _ _

theorem parameters_newline_free {properties : Properties}
    (names : ∀ name ∈ properties.names, '\n' ∉ name.toList) :
    '\n' ∉ properties.parameters.toList :=
  writeEntries_newline_free fun property member => names property.1 (List.mem_map_of_mem member)

end Properties

namespace Node

/-- Neither a raw command nor the names of the properties hold a newline. -/
def IsUnbroken (node : Node) : Prop :=
  (∀ command, node.kind = .raw command → '\n' ∉ command.toList) ∧
    ∀ name ∈ node.properties.names, '\n' ∉ name.toList

theorem inside_newline_free {node : Node} (unbroken : node.IsUnbroken) :
    '\n' ∉ node.kind.inside node.properties := by
  cases node.kind with
  | shape form => exact Properties.parameters_newline_free unbroken.2
  | linearExtrude => exact Properties.parameters_newline_free unbroken.2
  | container operation => exact List.not_mem_nil
  | transform operation parameter => exact parameter.write_newline_free
  | raw command => exact List.not_mem_nil

theorem head_newline_free {node : Node} (unbroken : node.IsUnbroken) :
    '\n' ∉ (head node.kind node.properties).toList := by
  cases named : node.kind.headWord? with
  | none =>
    obtain ⟨command, raw⟩ := NodeKind.headWord?_eq_none named
    rw [raw]
    exact unbroken.1 command raw
  | some word =>
    rw [← List.append_nil (head _ _).toList, NodeKind.head_toList _ named]
    intro member
    rcases List.mem_append.1 member with inside | behind
    · exact word.name_chars _ inside (by decide)
    · rcases List.mem_cons.1 behind with parenthesis | behind
      · exact absurd parenthesis (by decide)
      · rcases List.mem_append.1 behind with inside | parenthesis
        · exact inside_newline_free unbroken inside
        · exact absurd parenthesis (by decide)

end Node

abbrev Line := List Char

def ended (lines : List Line) : List Char :=
  lines.flatMap (· ++ ['\n'])

theorem splitOn_ended {lines : List Line} (whole : ∀ line ∈ lines, '\n' ∉ line) :
    (ended lines).splitOn '\n' = lines ++ [[]] := by
  induction lines with
  | nil => rfl
  | cons first rest ih =>
    rw [ended, List.flatMap_cons, List.append_assoc, List.singleton_append,
      List.splitOn_append_cons_self_of_not_mem (whole first List.mem_cons_self), List.cons_append]
    exact congrArg _ (ih fun line member => whole line (List.mem_cons_of_mem _ member))

/-- What a line does to the brackets: it closes a block, opens one, or neither. -/
inductive LineRole where
  | closing
  | opening
  | statement
  deriving DecidableEq

namespace LineRole

def Marks : LineRole → Line → Prop
  | .closing, line => line = ['\x7d']
  | .opening, line => [' ', '\x7b'] <:+ line
  | .statement, line => [';'] <:+ line

instance (role : LineRole) (line : Line) : Decidable (role.Marks line) :=
  match role with
  | .closing => inferInstanceAs (Decidable (line = ['\x7d']))
  | .opening => inferInstanceAs (Decidable ([' ', '\x7b'] <:+ line))
  | .statement => inferInstanceAs (Decidable ([';'] <:+ line))

def of? (line : Line) : Option LineRole :=
  if closing.Marks line then some .closing
  else if opening.Marks line then some .opening
  else if statement.Marks line then some .statement
  else none

def mark : LineRole → Char
  | .closing => '\x7d'
  | .opening => '\x7b'
  | .statement => ';'

theorem Marks.getLast? {role : LineRole} {line : Line} (marks : role.Marks line) :
    line.getLast? = some role.mark := by
  cases role with
  | closing =>
    obtain rfl := marks
    rfl
  | opening =>
    obtain ⟨start, rfl⟩ := marks
    exact List.getLast?_append_of_ne_nil _ (List.cons_ne_nil _ _)
  | statement =>
    obtain ⟨start, rfl⟩ := marks
    exact List.getLast?_append_of_ne_nil _ (List.cons_ne_nil _ _)

theorem Marks.unique {role other : LineRole} {line : Line} (marks : role.Marks line)
    (otherMarks : other.Marks line) : other = role := by
  have same := Option.some.inj (otherMarks.getLast?.symm.trans marks.getLast?)
  cases role <;> cases other <;> first | rfl | exact absurd same (by decide)

theorem Marks.of? {role : LineRole} {line : Line} (marks : role.Marks line) :
    LineRole.of? line = some role := by
  have others : ∀ other, other ≠ role → ¬ other.Marks line :=
    fun other different otherMarks => different (marks.unique otherMarks)
  cases role with
  | closing => rw [LineRole.of?, if_pos marks]
  | opening => rw [LineRole.of?, if_neg (others .closing nofun), if_pos marks]
  | statement =>
    rw [LineRole.of?, if_neg (others .closing nofun), if_neg (others .opening nofun), if_pos marks]

theorem Marks.existsUnique {role : LineRole} {line : Line} (marks : role.Marks line) :
    ∃! role : LineRole, role.Marks line :=
  ⟨role, marks, fun _ otherMarks => marks.unique otherMarks⟩

end LineRole

/-- The shape of a text made of statements and blocks. -/
inductive Outline where
  | statement
  | block (items : List Outline)

namespace Outline

/-- Takes a line into the open blocks, the innermost first and the text itself
last, each with the items it has so far, latest first. -/
def take? (stack : List (List Outline)) (line : Line) : Option (List (List Outline)) :=
  match LineRole.of? line, stack with
  | some .opening, stack => some ([] :: stack)
  | some .statement, items :: outer => some ((.statement :: items) :: outer)
  | some .closing, items :: before :: outer => some ((.block items.reverse :: before) :: outer)
  | _, _ => none

theorem take?_opening {line : Line} (marks : LineRole.opening.Marks line)
    (stack : List (List Outline)) : take? stack line = some ([] :: stack) := by
  unfold take?
  rw [marks.of?]

theorem take?_statement {line : Line} (marks : LineRole.statement.Marks line)
    (items : List Outline) (outer : List (List Outline)) :
    take? (items :: outer) line = some ((.statement :: items) :: outer) := by
  unfold take?
  rw [marks.of?]

theorem take?_closing {line : Line} (marks : LineRole.closing.Marks line)
    (items before : List Outline) (outer : List (List Outline)) :
    take? (items :: before :: outer) line = some ((.block items.reverse :: before) :: outer) := by
  unfold take?
  rw [marks.of?]

def read? (lines : List Line) : Option (List Outline) :=
  match lines.foldlM take? [[]] with
  | some [items] => some items.reverse
  | _ => none

end Outline

/-- The lines that do not close a block, with their levels among the brackets. -/
def leveled (level : Nat) : List Line → List (Nat × Line)
  | [] => []
  | line :: rest =>
    match LineRole.of? line with
    | some .closing => leveled (level - 1) rest
    | some .opening => (level, line) :: leveled (level + 1) rest
    | _ => (level, line) :: leveled level rest

theorem leveled_opening {line : Line} (marks : LineRole.opening.Marks line) (level : Nat)
    (rest : List Line) :
    leveled level (line :: rest) = (level, line) :: leveled (level + 1) rest := by
  rw [leveled, marks.of?]

theorem leveled_statement {line : Line} (marks : LineRole.statement.Marks line) (level : Nat)
    (rest : List Line) : leveled level (line :: rest) = (level, line) :: leveled level rest := by
  rw [leveled, marks.of?]

theorem leveled_closing {line : Line} (marks : LineRole.closing.Marks line) (level : Nat)
    (rest : List Line) : leveled (level + 1) (line :: rest) = leveled level rest := by
  rw [leveled, marks.of?, Nat.add_sub_cancel]

namespace Node

def closingLine : Line := ['\x7d']

def header (node : Node) : Line :=
  (markText node.modifier? ++ head node.kind node.properties).toList ++
    if isStatement node.kind node.children then [';'] else [' ', '\x7b']

mutual

def lines : Node → List Line
  | ⟨kind, properties, children, modifier⟩ =>
    let header := header ⟨kind, properties, children, modifier⟩
    if isStatement kind children then [header]
    else header :: (linesOfAll children ++ [closingLine])

def linesOfAll : List Node → List Line
  | [] => []
  | first :: rest => lines first ++ linesOfAll rest

end

mutual

def outline : Node → Outline
  | ⟨kind, _, children, _⟩ =>
    if isStatement kind children then .statement else .block (outlineAll children)

def outlineAll : List Node → List Outline
  | [] => []
  | first :: rest => outline first :: outlineAll rest

end

theorem ended_append (left right : List Line) : ended (left ++ right) = ended left ++ ended right :=
  List.flatMap_append

mutual

theorem write_eq_ended : ∀ node : Node, node.write.toList = ended node.lines
  | ⟨kind, properties, children, modifier⟩ => by
    rw [write, lines]
    dsimp only [header]
    split
    · simp [ended, statementEnd, String.toList_append]
    · rw [String.toList_append, String.toList_append, writeAll_eq_ended children]
      simp [ended, blockOpen, blockClose, closingLine]

theorem writeAll_eq_ended : ∀ nodes : List Node, (writeAll nodes).toList = ended (linesOfAll nodes)
  | [] => rfl
  | first :: rest => by
    rw [writeAll, linesOfAll, String.toList_append, write_eq_ended first, writeAll_eq_ended rest,
      ended_append]

end

/-! A header has one role, by its node, and never closes a block. -/

theorem header_statement {node : Node} (flag : isStatement node.kind node.children = true) :
    LineRole.statement.Marks node.header := by
  rw [header, if_pos flag]
  exact List.suffix_append _ _

theorem header_opening {node : Node} (flag : isStatement node.kind node.children = false) :
    LineRole.opening.Marks node.header := by
  rw [header, if_neg (flag ▸ Bool.false_ne_true)]
  exact List.suffix_append _ _

theorem closing_marks : LineRole.closing.Marks closingLine :=
  rfl

theorem header_marks (node : Node) : ∃ role : LineRole, role.Marks node.header := by
  cases flag : isStatement node.kind node.children with
  | true => exact ⟨_, header_statement flag⟩
  | false => exact ⟨_, header_opening flag⟩

mutual

theorem mem_lines : ∀ node : Node, ∀ line ∈ node.lines,
    line = closingLine ∨ ∃ other ∈ node.occurrences, line = other.header
  | ⟨kind, properties, children, modifier⟩ => by
    rw [lines, occurrences]
    intro line member
    split at member
    · exact .inr ⟨_, List.mem_cons_self, List.mem_singleton.1 member⟩
    · rcases List.mem_cons.1 member with here | below
      · exact .inr ⟨_, List.mem_cons_self, here⟩
      · rcases List.mem_append.1 below with inside | last
        · exact (mem_linesOfAll children line inside).imp_right fun ⟨other, deeper, same⟩ =>
            ⟨other, List.mem_cons_of_mem _ deeper, same⟩
        · exact .inl (List.mem_singleton.1 last)

theorem mem_linesOfAll : ∀ nodes : List Node, ∀ line ∈ linesOfAll nodes,
    line = closingLine ∨ ∃ other ∈ occurrencesOfAll nodes, line = other.header
  | [] => nofun
  | first :: rest => by
    rw [linesOfAll, occurrencesOfAll]
    intro line member
    rcases List.mem_append.1 member with here | later
    · exact (mem_lines first line here).imp_right fun ⟨other, below, same⟩ =>
        ⟨other, List.mem_append_left _ below, same⟩
    · exact (mem_linesOfAll rest line later).imp_right fun ⟨other, below, same⟩ =>
        ⟨other, List.mem_append_right _ below, same⟩

end

theorem lines_marked (node : Node) : ∀ line ∈ node.lines, ∃ role : LineRole, role.Marks line := by
  intro line member
  rcases mem_lines node line member with rfl | ⟨other, _, rfl⟩
  · exact ⟨_, closing_marks⟩
  · exact other.header_marks

mutual

/-- Whatever blocks are open, the lines of a node add its shape to the innermost. -/
theorem take_lines : ∀ (node : Node) (items : List Outline) (outer : List (List Outline)),
    node.lines.foldlM Outline.take? (items :: outer) = some ((node.outline :: items) :: outer)
  | ⟨kind, properties, children, modifier⟩, items, outer => by
    rw [lines, outline]
    cases flag : isStatement kind children with
    | true =>
      rw [if_pos rfl, if_pos rfl, List.foldlM_cons, Outline.take?_statement (header_statement flag)]
      rfl
    | false =>
      -- the header opens a level, the children fill it, the last line closes it
      rw [if_neg Bool.false_ne_true, if_neg Bool.false_ne_true, List.foldlM_cons,
        Outline.take?_opening (header_opening flag), Option.bind_eq_bind, Option.bind_some,
        List.foldlM_append, take_linesOfAll children, Option.bind_eq_bind, Option.bind_some,
        List.foldlM_cons, Outline.take?_closing closing_marks, List.append_nil,
        List.reverse_reverse]
      rfl

theorem take_linesOfAll : ∀ (nodes : List Node) (items : List Outline)
    (outer : List (List Outline)),
    (linesOfAll nodes).foldlM Outline.take? (items :: outer) =
      some (((outlineAll nodes).reverse ++ items) :: outer)
  | [], items, outer => rfl
  | first :: rest, items, outer => by
    rw [linesOfAll, outlineAll, List.foldlM_append, take_lines first, Option.bind_eq_bind,
      Option.bind_some, take_linesOfAll rest, List.reverse_cons, List.append_assoc]
    rfl

end

theorem read_lines (node : Node) : Outline.read? node.lines = some [node.outline] := by
  rw [Outline.read?, take_lines]
  rfl

mutual

theorem leveled_lines : ∀ (node : Node) (level : Nat) (rest : List Line),
    (∀ other ∈ node.occurrences, other.IsLeafShape) →
    leveled level (node.lines ++ rest) =
      (node.layers level).map (fun seen => (seen.1, seen.2.header)) ++ leveled level rest
  | ⟨kind, properties, children, modifier⟩, level, rest, leaves => by
    rw [lines, layers]
    cases flag : isStatement kind children with
    | true =>
      -- the visitor goes to the children of a statement as well, but there are none
      obtain rfl : children = [] := (leaves _ (self_mem_occurrences _)).childless flag
      rw [if_pos rfl, List.singleton_append, leveled_statement (header_statement flag)]
      rfl
    | false =>
      rw [if_neg Bool.false_ne_true, List.cons_append, leveled_opening (header_opening flag),
        List.append_assoc, leveled_linesOfAll children, List.singleton_append,
        leveled_closing closing_marks]
      · rfl
      · exact fun other member => leaves other (below_occurrences _ member)

theorem leveled_linesOfAll : ∀ (nodes : List Node) (level : Nat) (rest : List Line),
    (∀ other ∈ occurrencesOfAll nodes, other.IsLeafShape) →
    leveled level (linesOfAll nodes ++ rest) =
      (layersOfAll level nodes).map (fun seen => (seen.1, seen.2.header)) ++ leveled level rest
  | [], level, rest, _ => rfl
  | first :: others, level, rest, leaves => by
    rw [linesOfAll, layersOfAll, List.append_assoc,
      leveled_lines first level _ fun other member => leaves other (List.mem_append_left _ member),
      leveled_linesOfAll others level rest fun other member =>
        leaves other (List.mem_append_right _ member),
      List.map_append, List.append_assoc]

end

theorem header_newline_free {node : Node} (unbroken : node.IsUnbroken) : '\n' ∉ node.header := by
  rw [header, String.toList_append, List.mem_append, List.mem_append]
  rintro ((mark | inside) | ending)
  · revert mark
    rcases node.modifier? with _ | _ | _ | _ <;> decide
  · exact head_newline_free unbroken inside
  · revert ending
    cases isStatement node.kind node.children <;> decide

theorem lines_newline_free {node : Node} (unbroken : ∀ other ∈ node.occurrences, other.IsUnbroken) :
    ∀ line ∈ node.lines, '\n' ∉ line := by
  intro line member
  rcases mem_lines node line member with rfl | ⟨other, inside, rfl⟩
  · decide
  · exact header_newline_free (unbroken other inside)

/-- The lines of a scene mirror its tree. Each has one role, they read as brackets
with the shape of the tree, and those that do not close a block are the headers of
the nodes as a traversal meets them, at the depths of the nodes. So there are as
many as the statistics count nodes, and the deepest is at their greatest depth. -/
theorem text_lines_mirror_tree (node : Node) (constructible : node.Constructible)
    (unbroken : ∀ other ∈ node.occurrences, other.IsUnbroken) :
    ∃ lines : List Line,
      node.write.toList.splitOn '\n' = lines ++ [[]] ∧
      (∀ line ∈ lines, ∃! role : LineRole, role.Marks line) ∧
      Outline.read? lines = some [node.outline] ∧
      leveled 1 lines = node.roll.map (fun seen => (seen.1, seen.2.header)) ∧
      (leveled 1 lines).length = (Stats.ofNode node).nodes ∧
      ((leveled 1 lines).map Prod.fst).max? = some (Stats.ofNode node).maxDepth := by
  have headers : leveled 1 node.lines = node.roll.map fun seen => (seen.1, seen.2.header) := by
    have whole := leveled_lines node 1 [] constructible.leafShapes
    rwa [List.append_nil, leveled, List.append_nil, ← roll_eq] at whole
  refine ⟨node.lines, ?_, ?_, read_lines node, headers, ?_, ?_⟩
  · rw [write_eq_ended, splitOn_ended (lines_newline_free unbroken)]
  · intro line member
    obtain ⟨role, marks⟩ := lines_marked node line member
    exact marks.existsUnique
  · rw [headers, List.length_map, roll_eq, Stats.ofNode_nodes]
  · rw [headers, List.map_map, roll_eq, ← Stats.ofNode_maxDepth]
    rfl

/-- A raw block around a text that holds a closing brace, a newline and a semicolon. -/
theorem text_lines_of_raw_block :
    let label := (Primitive.text (.text "\x7d\n;") none none).node
    let scene := rawBlock "for (i = [0:1])" [none, some label]
    scene.Constructible ∧ (∀ other ∈ scene.occurrences, other.IsUnbroken) ∧
      ∃ lines : List Line,
        scene.write.toList.splitOn '\n' = lines ++ [[]] ∧
        Outline.read? lines = some [.block [.statement]] ∧
        leveled 1 lines = [(1, "for (i = [0:1]) \x7b".toList),
          (2, "text(text=\"\x7d\\n;\");".toList)] ∧
        (Stats.ofNode scene).nodes = 2 ∧ (Stats.ofNode scene).maxDepth = 2 := by
  intro label scene
  have made : scene.Constructible :=
    ⟨[.primitive (.text (.text "\x7d\n;") none none),
        .rawBlock "for (i = [0:1])" [none, some 0]], _, rfl, _, Array.mem_push_self, rfl⟩
  have unbroken : ∀ other ∈ scene.occurrences, other.IsUnbroken := by
    intro other member
    rcases List.mem_cons.1 member with rfl | below
    · exact ⟨by rintro command ⟨⟩; decide, by decide⟩
    · obtain rfl := List.mem_singleton.1 below
      exact ⟨nofun, by decide⟩
  obtain ⟨lines, split, _, shape, headers, _, _⟩ := text_lines_mirror_tree scene made unbroken
  exact ⟨made, unbroken, lines, split, shape, headers.trans (by decide +kernel), by decide,
    by decide⟩

end Node

end SolidScene
