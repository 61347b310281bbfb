import SolidScene.Number

/-!
Values given to parameters: numbers, truth values, texts and vectors of values. The
text of a value is what stands for it in the scene language. The pieces of a value are
that same text in the order and the portions it is written in.

Inside the quotes of a text only the quote, the backslash, the newline, the tab and the
carriage return are escaped; every other character, control characters included, stands
for itself.
-/

namespace SolidScene

namespace Literal

def escape : Char → String
  | '"' => "\\\""
  | '\\' => "\\\\"
  | '\n' => "\\n"
  | '\t' => "\\t"
  | '\r' => "\\r"
  | plain => plain.toString

def body : List Char → String
  | [] => ""
  | char :: rest => escape char ++ body rest

def quote (content : String) : String :=
  "\"" ++ body content.toList ++ "\""

def pieces (content : String) : List String :=
  "\"" :: content.toList.map escape ++ ["\""]

theorem join_map_escape (chars : List Char) : String.join (chars.map escape) = body chars := by
  induction chars with
  | nil => rfl
  | cons char rest ih => rw [List.map_cons, String.join_cons, ih, body]

theorem join_pieces (content : String) : String.join (pieces content) = quote content := by
  simp only [pieces, String.join_append, String.join_cons, String.join_nil, join_map_escape,
    quote, String.append_empty]

end Literal

inductive Value where
  | number (number : Number)
  | bool (flag : Bool)
  | text (content : String)
  | vector (items : List Value)

namespace Value

inductive Kind where
  | number
  | bool
  | text
  | vector
  deriving DecidableEq

def Kind.name : Kind → String
  | .number => "number"
  | .bool => "bool"
  | .text => "string"
  | .vector => "vector"

def kind : Value → Kind
  | .number _ => .number
  | .bool _ => .bool
  | .text _ => .text
  | .vector _ => .vector

def number? : Value → Option Number
  | .number n => some n
  | _ => none

def items? : Value → Option (List Value)
  | .vector items => some items
  | _ => none

def boolText (flag : Bool) : String :=
  if flag then "true" else "false"

mutual

def write : Value → String
  | .number n => n.text
  | .bool flag => boolText flag
  | .text content => Literal.quote content
  | .vector items => "[" ++ writeItems items ++ "]"

def writeItems : List Value → String
  | [] => ""
  | first :: rest => write first ++ writeRest rest

def writeRest : List Value → String
  | [] => ""
  | next :: rest => ", " ++ write next ++ writeRest rest

end

mutual

/-- The portions in which the text of a value is written, in front of others. A number is
one portion here, where a formatter of numbers hands its sign, digits and zeros over in
several. -/
def piecesBefore : Value → List String → List String
  | .number n, others => n.text :: others
  | .bool flag, others => boolText flag :: others
  | .text content, others => Literal.pieces content ++ others
  | .vector items, others => "[" :: piecesOfItems items ("]" :: others)

def piecesOfItems : List Value → List String → List String
  | [], others => others
  | first :: rest, others => piecesBefore first (piecesOfRest rest others)

def piecesOfRest : List Value → List String → List String
  | [], others => others
  | next :: rest, others => ", " :: piecesBefore next (piecesOfRest rest others)

end

def pieces (value : Value) : List String :=
  value.piecesBefore []

mutual

theorem join_piecesBefore : ∀ (value : Value) (others : List String),
    String.join (value.piecesBefore others) = value.write ++ String.join others
  | .number n, others => by simp [piecesBefore, write]
  | .bool flag, others => by simp [piecesBefore, write]
  | .text content, others => by
    rw [piecesBefore, write, String.join_append, Literal.join_pieces]
  | .vector items, others => by
    simp [piecesBefore, write, join_piecesOfItems items, String.append_assoc]

theorem join_piecesOfItems : ∀ (items : List Value) (others : List String),
    String.join (piecesOfItems items others) = writeItems items ++ String.join others
  | [], others => by simp [piecesOfItems, writeItems]
  | first :: rest, others => by
    simp [piecesOfItems, writeItems, join_piecesBefore first, join_piecesOfRest rest,
      String.append_assoc]

theorem join_piecesOfRest : ∀ (items : List Value) (others : List String),
    String.join (piecesOfRest items others) = writeRest items ++ String.join others
  | [], others => by simp [piecesOfRest, writeRest]
  | next :: rest, others => by
    simp [piecesOfRest, writeRest, join_piecesBefore next, join_piecesOfRest rest,
      String.append_assoc]

end

theorem join_pieces (value : Value) : String.join value.pieces = value.write := by
  simp [pieces, join_piecesBefore]

mutual

/-- Equal kinds with equal contents; numbers compare as floating-point numbers,
also inside vectors, so a value that holds a NaN equals nothing. -/
def equal : Value → Value → Bool
  | .number left, .number right => left.equal right
  | .bool left, .bool right => left == right
  | .text left, .text right => left == right
  | .vector left, .vector right => equalItems left right
  | _, _ => false

def equalItems : List Value → List Value → Bool
  | [], [] => true
  | left :: lefts, right :: rights => equal left right && equalItems lefts rights
  | _, _ => false

end

end Value

/-!
Arithmetic on coordinates. A number is added to, or multiplied with, every
coordinate; a vector of the same length is added place by place. An operand that
does not fit is an error: the length of a vector is looked at before its items,
and of its items the first that is no number is reported.
-/

abbrev Coordinates := List Number

namespace Coordinates

inductive Operation where
  | add
  | multiply
  deriving DecidableEq

def Operation.name : Operation → String
  | .add => "vector_add"
  | .multiply => "vector_multiply"

inductive Mismatch where
  | kind (operation : Operation) (found : Value.Kind)
  | length (expected found : Nat)
  deriving DecidableEq

namespace Mismatch

def message : Mismatch → String
  | .kind operation found => operation.name ++ ": unsupported operand of type " ++ found.name
  | .length expected found =>
    "vector length mismatch: expected " ++ toString expected ++ ", found " ++ toString found

def code : Mismatch → String
  | .kind _ _ => "scad::vector::type_mismatch"
  | .length _ _ => "scad::vector::length_mismatch"

def help? : Mismatch → Option String
  | .kind _ _ => some "pass a number, or (for addition) a vector of numbers"
  | .length _ _ => none

end Mismatch

def addItems : Coordinates → List Value → Except Mismatch Coordinates
  | [], _ => .ok []
  | _, [] => .ok []
  | first :: rest, item :: items =>
    match item.number? with
    -- reported before the rest is looked at
    | none => .error (.kind .add item.kind)
    | some n =>
      match addItems rest items with
      | .error mismatch => .error mismatch
      | .ok sums => .ok ((first + n) :: sums)

def add (coordinates : Coordinates) : Value → Except Mismatch Coordinates
  | .number n => .ok (coordinates.map (· + n))
  | .vector items =>
    if items.length = coordinates.length then addItems coordinates items
    else .error (.length coordinates.length items.length)
  | operand => .error (.kind .add operand.kind)

def multiply (coordinates : Coordinates) : Value → Except Mismatch Coordinates
  | .number n => .ok (coordinates.map (· * n))
  | operand => .error (.kind .multiply operand.kind)

def apply : Operation → Coordinates → Value → Except Mismatch Coordinates
  | .add => add
  | .multiply => multiply

/-- The coordinates after an operation. One that fails leaves them as they are. -/
def after (coordinates : Coordinates) (operation : Operation) (operand : Value) : Coordinates :=
  match apply operation coordinates operand with
  | .ok next => next
  | .error _ => coordinates

end Coordinates

end SolidScene
