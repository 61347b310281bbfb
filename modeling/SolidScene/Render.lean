import SolidScene.FileSystem
import SolidScene.Quoted
import SolidScene.Traversal

/-!
Rendering scripts to a sink, to a file or to the standard output. A script echoes lines,
acts on its surroundings, and ends with a root node or a failure of its own. After each
echo it learns how the echo ended and decides how to go on, so a script is a tree that
branches on those answers; what an action may be is a parameter.

Between script and sink stands a buffer. The script runs first and may echo lines; then
the root it produced is compiled and the output flushed. On every way out the buffer is
given up, which sends off what is still pending as far as the sink takes it.

A file is created, and emptied, before the script runs; if it cannot be created the
script does not run. When rendering to a file fails afterwards, whatever its path names
by then is removed, and a removal that fails is logged without taking the place of the
error. What was printed stays printed.
-/

namespace SolidScene

inductive ScriptFailure where
  | stated (message : String)
  | output (error : OutputError)
  | arithmetic (mismatch : Coordinates.Mismatch)
  deriving DecidableEq

def ScriptFailure.message : ScriptFailure → String
  | .stated message => message
  | .output error => error.message
  | .arithmetic mismatch => mismatch.message

inductive Script (Action : Type) where
  | finish (root : Node)
  | fail (failure : ScriptFailure)
  | echo (line : String) (next : Except OutputError Unit → Script Action)
  | act (action : Action) (next : Script Action)

namespace Script

variable {Action State : Type}

/-- Echoes a line and stops with the error if that fails. -/
def line (text : String) (next : Script Action) : Script Action :=
  .echo text fun
    | .ok _ => next
    | .error error => .fail (.output error)

/-- Echoes a line and goes on in any case. -/
def tryLine (text : String) (next : Script Action) : Script Action :=
  .echo text fun _ => next

/-- Goes on if the arithmetic fits, and stops with its error if not. -/
def require (result : Except Coordinates.Mismatch Coordinates) (next : Script Action) :
    Script Action :=
  match result with
  | .ok _ => next
  | .error mismatch => .fail (.arithmetic mismatch)

def run (output : Output State) (perform : Action → State → State) :
    Script Action → State → Except ScriptFailure Node × State
  | .finish root, state => (.ok root, state)
  | .fail failure, state => (.error failure, state)
  | .echo text next, state =>
    match output.writeLine text state with
    | (outcome, after) => run output perform (next outcome) after
  | .act action next, state => run output perform next (perform action state)

end Script

inductive Target where
  | standardOutput
  | file (path : String)
  deriving DecidableEq

namespace Target

/-- A path names a file; without one the target is the standard output. -/
def ofArgument : Option String → Target
  | none => .standardOutput
  | some path => .file path

def shown : Target → String
  | .standardOutput => "Stdout"
  | .file path => "File(" ++ Quoted.quote path ++ ")"

end Target

inductive Level where
  | debug
  | warn
  deriving DecidableEq

def Level.name : Level → String
  | .debug => "DEBUG"
  | .warn => "WARN"

inductive Event where
  | rendering (target : Target)
  | built (stats : Stats)
  | compiled
  | removalFailed (path : String) (error : OutputError)
  deriving DecidableEq

namespace Event

def level : Event → Level
  | .removalFailed _ _ => .warn
  | _ => .debug

def message : Event → String
  | .rendering _ => "rendering script"
  | .built _ => "scene built"
  | .compiled => "scene compiled"
  | .removalFailed _ _ => "failed to remove partial output"

/-- Names and texts of what an event carries. -/
def fields : Event → List (String × String)
  | .rendering target => [("target", target.shown)]
  | .built stats =>
    [("nodes", toString stats.nodes), ("depth", toString stats.maxDepth),
      ("disabled", toString stats.disabled), ("show_only", toString stats.showOnly),
      ("debug", toString stats.debug)]
  | .compiled => []
  | .removalFailed path error => [("path", path), ("error", error.message)]

end Event

inductive RenderError where
  | create (path : String) (error : OutputError)
  | output (error : OutputError)
  | script (failure : ScriptFailure)
  deriving DecidableEq

namespace RenderError

def message : RenderError → String
  | .create path _ => "cannot create output file `" ++ path ++ "`"
  | .output _ => "failed to write output"
  | .script _ => "script failed"

def source : RenderError → String
  | .create _ error => error.message
  | .output error => error.message
  | .script failure => failure.message

def code : RenderError → String
  | .create _ _ => "scad::render::create"
  | .output _ => "scad::render::io"
  | .script _ => "scad::render::script"

def help? : RenderError → Option String
  | .script _ => some "the partially written output was discarded"
  | _ => none

end RenderError

structure Rendering (State : Type) where
  outcome : Except RenderError Unit
  log : List Event
  state : State

def bufferCapacity : Nat := 8192

variable {Action State : Type}

def compileRoot (sink : Sink State) (root : Node) (buffer : Buffer State) : Rendering State :=
  let output := Buffer.output sink bufferCapacity
  let built := Event.built (Stats.ofNode root)
  match output.writeNode root buffer with
  | (.error error, next) => ⟨.error (.output error), [built], next.close sink⟩
  | (.ok _, next) =>
    match output.flush next with
    | (.error error, last) => ⟨.error (.output error), [built], last.close sink⟩
    | (.ok _, last) =>
      match last.drain sink with
      | (.error error, rest) => ⟨.error (.output error), [built, .compiled], rest.close sink⟩
      | (.ok _, rest) => ⟨.ok (), [built, .compiled], rest.inner⟩

def renderToSink (sink : Sink State) (perform : Action → State → State)
    (script : Script Action) (state : State) : Rendering State :=
  let act (action : Action) (buffer : Buffer State) : Buffer State :=
    { buffer with inner := perform action buffer.inner }
  match script.run (Buffer.output sink bufferCapacity) act (.start state) with
  | (.error failure, buffer) => ⟨.error (.script failure), [], buffer.close sink⟩
  | (.ok root, buffer) => compileRoot sink root buffer

/-- The surroundings of a rendering: the files, and what stands behind the standard
output. -/
structure World (Terminal : Type) where
  files : FileSystem
  terminal : Terminal

namespace World

variable {Terminal : Type}

def act (action : FileAction) (world : World Terminal) : World Terminal :=
  { world with files := action.perform world.files }

/-- The standard output, which takes what the terminal takes. -/
def printer (terminal : Sink Terminal) : Sink (World Terminal) where
  write bytes world :=
    let (answer, next) := terminal.write bytes world.terminal
    (answer, { world with terminal := next })
  flush world :=
    let (outcome, next) := terminal.flush world.terminal
    (outcome, { world with terminal := next })

end World

/-- Removes a partial output file. -/
def discard (host : Host) (path : String) (files : FileSystem) : List Event × FileSystem :=
  match host.remove path files with
  | .ok next => ([], next)
  | .error error => ([.removalFailed path error], files)

def renderToFile (host : Host) (script : Script FileAction) (path : String)
    (files : FileSystem) : Rendering FileSystem :=
  match host.create path files with
  | .error error => ⟨.error (.create path error), [], files⟩
  | .ok file =>
    let done := renderToSink host.disk.sink OpenFile.act script file
    match done.outcome with
    | .ok _ => ⟨.ok (), done.log, done.state.files⟩
    | .error error =>
      let (events, left) := discard host path done.state.files
      ⟨.error error, done.log ++ events, left⟩

def render {Terminal : Type} (host : Host) (terminal : Sink Terminal)
    (script : Script FileAction) (target : Target) (world : World Terminal) :
    Rendering (World Terminal) :=
  match target with
  | .standardOutput =>
    let done := renderToSink (World.printer terminal) World.act script world
    { done with log := .rendering target :: done.log }
  | .file path =>
    let done := renderToFile host script path world.files
    ⟨done.outcome, .rendering target :: done.log, { world with files := done.state }⟩

end SolidScene
