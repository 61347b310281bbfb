import SolidScene.Properties

/-!
Nodes of a scene and their text. A node is a primitive shape, an extrusion, a container
that combines its children, a transform with one positional parameter, or a raw command;
a modifier marks a single node. It is a plain tree: a derivation gives a new node with
the kind and the children of its receiver and leaves the receiver as it is. Updated
properties never replace what the receiver already has; a new modifier replaces the old
one.
-/

namespace SolidScene

inductive Modifier where
  | disable
  | showOnly
  | debug
  deriving DecidableEq

def Modifier.mark : Modifier → Char
  | .disable => '*'
  | .showOnly => '!'
  | .debug => '#'

def Modifier.name : Modifier → String
  | .disable => "disable"
  | .showOnly => "show_only"
  | .debug => "debug"

inductive Shape where
  | circle
  | square
  | polygon
  | text
  | sphere
  | cube
  | cylinder
  deriving DecidableEq

def Shape.name : Shape → String
  | .circle => "circle"
  | .square => "square"
  | .polygon => "polygon"
  | .text => "text"
  | .sphere => "sphere"
  | .cube => "cube"
  | .cylinder => "cylinder"

inductive Dimension where
  | two
  | three
  deriving DecidableEq

def Shape.dimension : Shape → Dimension
  | .circle | .square | .polygon | .text => .two
  | .sphere | .cube | .cylinder => .three

inductive Container where
  | union
  | difference
  | intersection
  | hull
  | minkowski
  deriving DecidableEq

def Container.name : Container → String
  | .union => "union"
  | .difference => "difference"
  | .intersection => "intersection"
  | .hull => "hull"
  | .minkowski => "minkowski"

inductive Transform where
  | translate
  | rotate
  | scale
  | resize
  | mirror
  | color
  deriving DecidableEq

def Transform.name : Transform → String
  | .translate => "translate"
  | .rotate => "rotate"
  | .scale => "scale"
  | .resize => "resize"
  | .mirror => "mirror"
  | .color => "color"

inductive NodeKind where
  | shape (shape : Shape)
  | linearExtrude
  | container (operation : Container)
  | transform (operation : Transform) (parameter : Value)
  | raw (command : String)

namespace NodeKind

def extrusionName : String := "linear_extrude"

/-- The word at the head of a node; for a raw node it is the whole command. -/
def name : NodeKind → String
  | .shape form => form.name
  | .linearExtrude => extrusionName
  | .container operation => operation.name
  | .transform operation _ => operation.name
  | .raw command => command

def parameter? : NodeKind → Option Value
  | .transform _ parameter => some parameter
  | _ => none

def dimension? : NodeKind → Option Dimension
  | .shape form => some form.dimension
  | _ => none

def equal : NodeKind → NodeKind → Bool
  | .shape left, .shape right => left == right
  | .linearExtrude, .linearExtrude => true
  | .container left, .container right => left == right
  | .transform left leftParameter, .transform right rightParameter =>
    left == right && leftParameter.equal rightParameter
  | .raw left, .raw right => left == right
  | _, _ => false

end NodeKind

structure Node where
  kind : NodeKind
  properties : Properties
  children : List Node
  modifier? : Option Modifier

namespace Node

def fresh (kind : NodeKind) (children : List Node) : Node :=
  ⟨kind, .empty, children, none⟩

def leaf (shape : Shape) : Node :=
  fresh (.shape shape) []

def name (node : Node) : String :=
  node.kind.name

def isLeaf (node : Node) : Bool :=
  node.children.isEmpty

def marked (node : Node) (modifier : Modifier) : Node :=
  { node with modifier? := some modifier }

def update (node : Node) (defaults : Properties) : Node :=
  { node with properties := node.properties.withDefaults defaults }

def centered (node : Node) : Option Bool → Node
  | none => node
  | some choice => node.update (Properties.empty.insert "center" (.bool choice))

/-- The flat node extruded along the third axis: a new node around it. -/
def linearExtrude (node : Node) (height : Value) (center : Option Bool) : Node :=
  ((fresh .linearExtrude [node]).centered center).update
    (Properties.empty.insert "height" height)

inductive Derivation where
  | mark (modifier : Modifier)
  | update (defaults : Properties)

def derive (node : Node) : Derivation → Node
  | .mark modifier => node.marked modifier
  | .update defaults => node.update defaults

mutual

/-- Equal kinds, properties, modifiers and children. It looks at every part, so
a node with a NaN anywhere differs from itself. -/
def equal : Node → Node → Bool
  | ⟨kind, properties, children, modifier⟩,
      ⟨otherKind, otherProperties, otherChildren, otherModifier⟩ =>
    kind.equal otherKind && properties.equal otherProperties &&
      equalAll children otherChildren && modifier == otherModifier

def equalAll : List Node → List Node → Bool
  | [], [] => true
  | node :: nodes, other :: others => equal node other && equalAll nodes others
  | _, _ => false

end

/-!
Text of a node in the scene language. A node is written as its modifier mark, its
head, and either a semicolon or a block with the texts of its children. Shapes
and raw commands without children are statements, every other node is a block.
Only shapes and extrusions show their properties.

The pieces of a node are the same text in the order and the portions it is
written in: a parameter list is one piece, the parameter of a transform is
written in pieces of its own.
-/

def blockOpen : String := " \x7b\n"

def blockClose : String := "\x7d\n"

def statementEnd : String := ";\n"

def markText : Option Modifier → String
  | none => ""
  | some modifier => modifier.mark.toString

def head : NodeKind → Properties → String
  | .shape form, properties => form.name ++ "(" ++ properties.parameters ++ ")"
  | .linearExtrude, properties => NodeKind.extrusionName ++ "(" ++ properties.parameters ++ ")"
  | .container operation, _ => operation.name ++ "()"
  | .transform operation parameter, _ => operation.name ++ "(" ++ parameter.write ++ ")"
  | .raw command, _ => command

def isStatement : NodeKind → List Node → Bool
  | .shape _, _ => true
  | .raw _, children => children.isEmpty
  | _, _ => false

mutual

def write : Node → String
  | ⟨kind, properties, children, modifier⟩ =>
    let start := markText modifier ++ head kind properties
    if isStatement kind children then start ++ statementEnd
    else start ++ blockOpen ++ writeAll children ++ blockClose

def writeAll : List Node → String
  | [] => ""
  | first :: rest => write first ++ writeAll rest

end

def markPieces : Option Modifier → List String
  | none => []
  | some modifier => [modifier.mark.toString]

mutual

def piecesBefore : Node → List String → List String
  | ⟨.shape form, properties, _, modifier⟩, others =>
    markPieces modifier ++
      form.name :: "(" :: properties.parameters :: (")" ++ statementEnd) :: others
  | ⟨.linearExtrude, properties, children, modifier⟩, others =>
    markPieces modifier ++
      NodeKind.extrusionName :: "(" :: properties.parameters :: (")" ++ blockOpen) ::
        piecesOfAll children (blockClose :: others)
  | ⟨.container operation, _, children, modifier⟩, others =>
    markPieces modifier ++
      operation.name :: ("()" ++ blockOpen) :: piecesOfAll children (blockClose :: others)
  | ⟨.transform operation parameter, _, children, modifier⟩, others =>
    markPieces modifier ++
      operation.name :: "(" :: parameter.piecesBefore
        ((")" ++ blockOpen) :: piecesOfAll children (blockClose :: others))
  | ⟨.raw command, _, children, modifier⟩, others =>
    if children.isEmpty then markPieces modifier ++ command :: statementEnd :: others
    else
      markPieces modifier ++ command :: blockOpen :: piecesOfAll children (blockClose :: others)

def piecesOfAll : List Node → List String → List String
  | [], others => others
  | first :: rest, others => piecesBefore first (piecesOfAll rest others)

end

def pieces (node : Node) : List String :=
  node.piecesBefore []

theorem join_markPieces (modifier : Option Modifier) :
    String.join (markPieces modifier) = markText modifier := by
  cases modifier <;> simp [markPieces, markText]

mutual

theorem join_piecesBefore : ∀ (node : Node) (others : List String),
    String.join (node.piecesBefore others) = node.write ++ String.join others
  | ⟨.shape form, properties, children, modifier⟩, others => by
    simp [piecesBefore, write, head, isStatement, join_markPieces, String.append_assoc]
  | ⟨.linearExtrude, properties, children, modifier⟩, others => by
    simp [piecesBefore, write, head, isStatement, join_markPieces, join_piecesOfAll children,
      String.append_assoc]
  | ⟨.container operation, properties, children, modifier⟩, others => by
    simp [piecesBefore, write, head, isStatement, join_markPieces, join_piecesOfAll children,
      String.append_assoc]
  | ⟨.transform operation parameter, properties, children, modifier⟩, others => by
    simp [piecesBefore, write, head, isStatement, join_markPieces, join_piecesOfAll children,
      Value.join_piecesBefore, String.append_assoc]
  | ⟨.raw command, properties, [], modifier⟩, others => by
    simp [piecesBefore, write, head, isStatement, join_markPieces, String.append_assoc]
  | ⟨.raw command, properties, first :: rest, modifier⟩, others => by
    simp [piecesBefore, write, head, isStatement, join_markPieces,
      join_piecesOfAll (first :: rest), String.append_assoc]

theorem join_piecesOfAll : ∀ (nodes : List Node) (others : List String),
    String.join (piecesOfAll nodes others) = writeAll nodes ++ String.join others
  | [], others => by simp [piecesOfAll, writeAll]
  | first :: rest, others => by
    simp [piecesOfAll, writeAll, join_piecesBefore first, join_piecesOfAll rest,
      String.append_assoc]

end

theorem join_pieces (node : Node) : String.join node.pieces = node.write := by
  simp [pieces, join_piecesBefore]

end Node

/-!
Primitive shapes with the arguments they are made from. Each becomes a leaf whose
own parameters come first, in the order of the scene language, and `center`
after them. The own parameters are filled in as defaults under `center`, which is
what puts them in front of it.
-/

inductive Radius where
  | uniform (radius : Value)
  | cone (bottom top : Value)

def Radius.parameters : Radius → List Property
  | .uniform radius => [("r", radius)]
  | .cone bottom top => [("r1", bottom), ("r2", top)]

inductive Primitive where
  | circle (radius : Value)
  | square (size : Value) (center : Option Bool)
  | polygon (points : Value)
  | text (content : Value) (size : Option Number) (font : Option String)
  | sphere (radius : Value)
  | cube (size : Value) (center : Option Bool)
  | cylinder (height : Value) (radius : Radius) (center : Option Bool)

namespace Primitive

def shape : Primitive → Shape
  | .circle _ => .circle
  | .square _ _ => .square
  | .polygon _ => .polygon
  | .text _ _ _ => .text
  | .sphere _ => .sphere
  | .cube _ _ => .cube
  | .cylinder _ _ _ => .cylinder

def ownParameters : Primitive → List Property
  | .circle radius => [("r", radius)]
  | .square size _ => [("size", size)]
  | .polygon points => [("points", points)]
  | .text content size font =>
    ("text", content) ::
      (size.toList.map fun n => ("size", Value.number n)) ++
      (font.toList.map fun face => ("font", Value.text face))
  | .sphere radius => [("r", radius)]
  | .cube size _ => [("size", size)]
  | .cylinder height radius _ => ("h", height) :: radius.parameters

def center? : Primitive → Option Bool
  | .square _ center => center
  | .cube _ center => center
  | .cylinder _ _ center => center
  | _ => none

def node (primitive : Primitive) : Node :=
  ((Node.leaf primitive.shape).centered primitive.center?).update
    (Properties.ofList primitive.ownParameters)

end Primitive

namespace Node

/-- Children that are present, in order; absent slots leave no trace. -/
def present (slots : List (Option Node)) : List Node :=
  slots.filterMap id

def container (operation : Container) (slots : List (Option Node)) : Node :=
  fresh (.container operation) (present slots)

def transform (operation : Transform) (parameter : Value) (slots : List (Option Node)) : Node :=
  fresh (.transform operation parameter) (present slots)

def raw (command : String) : Node :=
  fresh (.raw command) []

def rawBlock (command : String) (slots : List (Option Node)) : Node :=
  fresh (.raw command) (present slots)

end Node

end SolidScene
