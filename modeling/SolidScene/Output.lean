import SolidScene.Node

/-!
Sinks for bytes and writing to them. A sink may take only a part of what it is offered,
or refuse it; its state is a parameter, so a sink can be anything from a byte count to a
file system. On top of the single attempt stands the loop that offers the rest until
everything is taken, a refusal comes, or the sink takes nothing. Texts and nodes are
written to an output, which takes all bytes put into it or fails; writing stops at the
first piece that fails, and nothing is offered after it.
-/

namespace SolidScene

abbrev Bytes := List UInt8

def bytesOf (text : String) : Bytes :=
  text.toUTF8.data.toList

/-- Why output failed. The first three are refusals of a file system; a sink that
takes nothing stalls the direct loop or the emptying of a buffer. Every other error is
raised by a sink or a host, with a kind and a message of its own. -/
inductive OutputError where
  | notFound
  | isDirectory
  | notDirectory
  | stalled
  | stalledBuffer
  | raised (kind message : String)
  deriving DecidableEq

namespace OutputError

def kind : OutputError → String
  | .notFound => "NotFound"
  | .isDirectory => "IsADirectory"
  | .notDirectory => "NotADirectory"
  | .stalled => "WriteZero"
  | .stalledBuffer => "WriteZero"
  | .raised kind _ => kind

def message : OutputError → String
  | .notFound => "No such file or directory (os error 2)"
  | .isDirectory => "Is a directory (os error 21)"
  | .notDirectory => "Not a directory (os error 20)"
  | .stalled => "failed to write whole buffer"
  | .stalledBuffer => "failed to write the buffered data"
  | .raised _ message => message

end OutputError

abbrev Attempt (State : Type) := Except OutputError Unit × State

/-- A sink answers an offer with the number of bytes it took. -/
structure Sink (State : Type) where
  write : Bytes → State → Except OutputError Nat × State
  flush : State → Attempt State

namespace Sink

variable {State : Type}

/-- Offers the bytes until all are taken. It returns the bytes that were not, and
reports the given error when the sink takes none of a nonempty offer. -/
def deliver (sink : Sink State) (stall : OutputError) (bytes : Bytes) (state : State) :
    Attempt (Bytes × State) :=
  if bytes = [] then (.ok (), [], state)
  else
    match sink.write bytes state with
    | (.error error, next) => (.error error, bytes, next)
    | (.ok 0, next) => (.error stall, bytes, next)
    | (.ok (taken + 1), next) => deliver sink stall (bytes.drop (taken + 1)) next
termination_by bytes.length
decreasing_by
  rename_i nonempty
  have positive := List.length_pos_iff.2 nonempty
  rw [List.length_drop]
  omega

end Sink

structure Output (State : Type) where
  put : Bytes → State → Attempt State
  flush : State → Attempt State

def Sink.direct {State : Type} (sink : Sink State) : Output State where
  put bytes state :=
    match sink.deliver .stalled bytes state with
    | (outcome, _, next) => (outcome, next)
  flush := sink.flush

/-!
Bytes kept in memory. They stay in the portions they came in, latest first, beside
their number, so that a portion is added and the bytes are counted without going
through those already there. As a sink, memory takes everything.
-/

structure Memory where
  latest : List Bytes
  size : Nat
  size_eq : size = latest.reverse.flatten.length

namespace Memory

def empty : Memory := ⟨[], 0, rfl⟩

def bytes (memory : Memory) : Bytes :=
  memory.latest.reverse.flatten

def add (memory : Memory) (given : Bytes) : Memory :=
  ⟨given :: memory.latest, memory.size + given.length, by simp [memory.size_eq]⟩

def ofBytes (bytes : Bytes) : Memory :=
  empty.add bytes

def sink : Sink Memory where
  write bytes memory := (.ok bytes.length, memory.add bytes)
  flush memory := (.ok (), memory)

theorem size_eq_length (memory : Memory) : memory.size = memory.bytes.length :=
  memory.size_eq

theorem bytes_empty : empty.bytes = [] :=
  rfl

theorem bytes_add (memory : Memory) (given : Bytes) :
    (memory.add given).bytes = memory.bytes ++ given := by
  simp [add, bytes]

theorem bytes_ofBytes (bytes : Bytes) : (ofBytes bytes).bytes = bytes := by
  rw [ofBytes, bytes_add, bytes_empty, List.nil_append]

end Memory

/-!
A sink in memory with limits: on the bytes it holds in all and on the bytes it
takes at a time. Full, it refuses any byte more or, if it is told to, takes none
without refusing. Without limits it takes everything.
-/

structure Limits where
  capacity : Option Nat := none
  chunk : Option Nat := none
  stallsWhenFull : Bool := false
  refusesFlush : Bool := false

namespace Limits

def isFull (limits : Limits) (held : Nat) : Bool :=
  match limits.capacity with
  | none => false
  | some capacity => decide (capacity ≤ held)

def allowance? (limits : Limits) (held : Nat) : Option Nat :=
  match limits.capacity, limits.chunk with
  | none, none => none
  | none, some chunk => some chunk
  | some capacity, none => some (capacity - held)
  | some capacity, some chunk => some (min (capacity - held) chunk)

def portion (limits : Limits) (held : Nat) (offer : Bytes) : Bytes :=
  match limits.allowance? held with
  | none => offer
  | some most => offer.take most

def closed : OutputError := .raised "Other" "sink closed"

def flushRefused : OutputError := .raised "Other" "flush refused"

def sink (limits : Limits) : Sink Memory where
  write offer held :=
    if offer ≠ [] ∧ limits.isFull held.size = true then
      (if limits.stallsWhenFull then .ok 0 else .error closed, held)
    else
      let taken := limits.portion held.size offer
      (.ok taken.length, held.add taken)
  flush held :=
    (if limits.refusesFlush then .error flushRefused else .ok (), held)

end Limits

/-!
A buffer in front of a sink. Bytes that fit beside what is pending wait; bytes
that do not fit first send the pending ones off, and are themselves sent directly
when they would fill the buffer. Pending bytes leave the buffer as the sink takes
them, also when it fails midway, so a later try goes on where the last one ended.
-/

structure Buffer (State : Type) where
  pending : Memory
  inner : State

namespace Buffer

variable {State : Type}

def start (inner : State) : Buffer State := ⟨.empty, inner⟩

def drain (sink : Sink State) (buffer : Buffer State) : Attempt (Buffer State) :=
  match sink.deliver .stalledBuffer buffer.pending.bytes buffer.inner with
  | (outcome, rest, next) => (outcome, ⟨.ofBytes rest, next⟩)

def makeRoom (sink : Sink State) (capacity count : Nat) (buffer : Buffer State) :
    Attempt (Buffer State) :=
  if capacity - buffer.pending.size < count then buffer.drain sink
  else (.ok (), buffer)

def place (sink : Sink State) (capacity : Nat) (bytes : Bytes) (buffer : Buffer State) :
    Attempt (Buffer State) :=
  if capacity ≤ bytes.length then
    match sink.direct.put bytes buffer.inner with
    | (outcome, next) => (outcome, { buffer with inner := next })
  else (.ok (), { buffer with pending := buffer.pending.add bytes })

def output (sink : Sink State) (capacity : Nat) : Output (Buffer State) where
  put bytes buffer :=
    if bytes.length < capacity - buffer.pending.size then
      (.ok (), { buffer with pending := buffer.pending.add bytes })
    else
      match buffer.makeRoom sink capacity bytes.length with
      | (.error error, next) => (.error error, next)
      | (.ok _, next) => next.place sink capacity bytes
  flush buffer :=
    match buffer.drain sink with
    | (.error error, next) => (.error error, next)
    | (.ok _, next) =>
      match sink.flush next.inner with
      | (outcome, inner) => (outcome, { next with inner := inner })

/-- Gives the buffer up: what is pending is sent off as far as the sink takes it. -/
def close (sink : Sink State) (buffer : Buffer State) : State :=
  (buffer.drain sink).2.inner

end Buffer

namespace Output

variable {State : Type}

def putAll (output : Output State) : List String → State → Attempt State
  | [], state => (.ok (), state)
  | first :: rest, state =>
    match output.put (bytesOf first) state with
    | (.error error, next) => (.error error, next)
    | (.ok _, next) => putAll output rest next

def writeLine (output : Output State) (line : String) : State → Attempt State :=
  output.putAll [line, "\n"]

def writeNode (output : Output State) (node : Node) : State → Attempt State :=
  output.putAll node.pieces

inductive Step where
  | line (text : String)
  | node (root : Node)
  | flush

def perform (output : Output State) : Step → State → Attempt State
  | .line text => output.writeLine text
  | .node root => output.writeNode root
  | .flush => output.flush

/-- Performs all steps, also after failed ones, and gives how each ended. -/
def performAll (output : Output State) : List Step → State →
    List (Except OutputError Unit) × State
  | [], state => ([], state)
  | first :: rest, state =>
    let (outcome, next) := output.perform first state
    let (outcomes, last) := performAll output rest next
    (outcome :: outcomes, last)

end Output

namespace Node

def written (node : Node) : Attempt Memory :=
  Memory.sink.direct.writeNode node .empty

/-- The text of a node as read back from memory; there is none when writing fails
or the bytes are no text. -/
def toText? (node : Node) : Option String :=
  match node.written with
  | (.ok _, memory) => String.fromUTF8? ⟨memory.bytes.toArray⟩
  | (.error _, _) => none

end Node

/-!
Reading bytes as text without ever failing. Bytes are cut into characters and
malformed parts, and a malformed part reads as the replacement character. A part
is as long as it still begins some character: one byte, or two or three where
these are the start of a longer encoding that breaks off.
-/

namespace Utf8

inductive Part where
  | character (char : Char)
  | malformed (bytes : Bytes)
  deriving DecidableEq

def replacement : Char := '\ufffd'

def Part.shown : Part → Char
  | .character char => char
  | .malformed _ => replacement

def isContinuation (byte : UInt8) : Bool :=
  decide (0x80 ≤ byte) && decide (byte ≤ 0xbf)

/-- Whether two bytes begin an encoding of three or four bytes. -/
def beginsLong (first second : UInt8) : Bool :=
  -- four values of the first byte narrow the second
  if first = 0xe0 then decide (0xa0 ≤ second) && decide (second ≤ 0xbf)
  else if first = 0xed then decide (0x80 ≤ second) && decide (second ≤ 0x9f)
  else if first = 0xf0 then decide (0x90 ≤ second) && decide (second ≤ 0xbf)
  else if first = 0xf4 then decide (0x80 ≤ second) && decide (second ≤ 0x8f)
  else decide (0xe1 ≤ first) && decide (first ≤ 0xf3) && isContinuation second

/-- How many bytes after the first one are malformed together with it. -/
def malformedAfter (first : UInt8) : Bytes → Nat
  | [] => 0
  | [second] => if beginsLong first second then 1 else 0
  | second :: third :: _ =>
    if beginsLong first second then
      if 0xf0 ≤ first && isContinuation third then 2 else 1
    else 0

def character? (bytes : Bytes) : Option Char :=
  bytes.toByteArray.utf8DecodeChar? 0

/-- The parts of the bytes behind a number of them that are already read. -/
def partsBehind : Nat → Bytes → List Part
  | _, [] => []
  | read + 1, _ :: rest => partsBehind read rest
  | 0, first :: rest =>
    match character? (first :: rest) with
    | some char => .character char :: partsBehind (char.utf8Size - 1) rest
    | none =>
      let more := malformedAfter first rest
      .malformed (first :: rest.take more) :: partsBehind more rest

def parts (bytes : Bytes) : List Part :=
  partsBehind 0 bytes

def decode (bytes : Bytes) : String :=
  String.ofList ((parts bytes).map Part.shown)

end Utf8

/-- The text of a node, read from what was written to memory, however that ended. -/
def Node.toText (node : Node) : String :=
  Utf8.decode node.written.2.bytes

end SolidScene
