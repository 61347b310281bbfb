import SolidScene.Proofs.FileTargets
import SolidScene.Proofs.TreeMeasures

/-!
What the log of a rendering tells. A call of the pipeline ends in one of three ways: the
script fails, the root of the script is not sent, or all is sent. It logs the measures
of the root if there is one, and that the scene is compiled just when all is sent: giving
up the buffer after that event cannot fail. Around these events a rendering to a target
logs its start, and a file of a failed call that could not be removed. The sink behind
the standard output, the disk and the refusals of the host are arbitrary.
-/

namespace SolidScene

namespace Event

def ofScript : Except ScriptFailure Node → List Event
  | .ok root => [.built root.measures]
  | .error _ => []

def ofPipeline : Except RenderError Unit → List Event
  | .ok _ => [.compiled]
  | .error _ => []

/-- What is logged of a removed file. Only if the pipeline fails the file is removed. -/
def ofRemoval (host : Host) (path : String) (outcome : Except RenderError Unit)
    (files : FileSystem) : List Event :=
  match outcome with
  | .ok _ => []
  | .error _ =>
    match host.remove path files with
    | .ok _ => []
    | .error cause => [.removalFailed path cause]

end Event

/-- How a call of the pipeline ends, given how its script ends. -/
inductive Ending : Except ScriptFailure Node → Except RenderError Unit → Prop where
  | failed (failure : ScriptFailure) : Ending (.error failure) (.error (.script failure))
  | unsent (root : Node) (error : OutputError) : Ending (.ok root) (.error (.output error))
  | sent (root : Node) : Ending (.ok root) (.ok ())

theorem Ending.script_failed {ran : Except ScriptFailure Node} {failure : ScriptFailure}
    (ending : Ending ran (.error (.script failure))) : ran = .error failure := by
  cases ending
  rfl

theorem Ending.script_finished {ran : Except ScriptFailure Node} {error : OutputError}
    (ending : Ending ran (.error (.output error))) : ∃ root, ran = .ok root := by
  cases ending with
  | unsent root _ => exact ⟨root, rfl⟩

section Pipeline

variable {Action State : Type} (sink : Sink State)

theorem compileRoot_ends (root : Node) (buffer : Buffer State) :
    let done := compileRoot sink root buffer
    Ending (.ok root) done.outcome ∧
      done.log = Event.ofScript (.ok root) ++ Event.ofPipeline done.outcome := by
  rw [Event.ofScript, ← Stats.ofNode_eq_measures]
  obtain ⟨error, _, result⟩ | ⟨_, error, _, result⟩ | ⟨_, _, error, _, result⟩ |
    ⟨_, _, _, result⟩ := compileRoot_cases sink root buffer <;> rw [result]
  · exact ⟨.unsent root error, rfl⟩
  · exact ⟨.unsent root error, rfl⟩
  · exact ⟨.unsent root error, rfl⟩
  · exact ⟨.sent root, rfl⟩

theorem renderToSink_ends (perform : Action → State → State) (script : Script Action)
    (state : State) :
    let ran := (script.buffered sink perform state).1
    let done := renderToSink sink perform script state
    Ending ran done.outcome ∧ done.log = Event.ofScript ran ++ Event.ofPipeline done.outcome := by
  obtain ⟨failure, ended, result⟩ | ⟨root, ended, result⟩ :=
    renderToSink_cases sink perform script state <;> rw [result, ended]
  · exact ⟨.failed failure, rfl⟩
  · exact compileRoot_ends sink root _

end Pipeline

/-- A call of the pipeline in a rendering: how its script ended, how the call itself
ended, and the files it left. -/
structure PipelineCall where
  ran : Except ScriptFailure Node
  outcome : Except RenderError Unit
  files : FileSystem
  ending : Ending ran outcome

namespace PipelineCall

variable {State : Type}

def ofSink (sink : Sink State) (perform : FileAction → State → State) (files : State → FileSystem)
    (script : Script FileAction) (state : State) : PipelineCall where
  ran := (script.buffered sink perform state).1
  outcome := (renderToSink sink perform script state).outcome
  files := files (renderToSink sink perform script state).state
  ending := (renderToSink_ends sink perform script state).1

def events (call : PipelineCall) : List Event :=
  Event.ofScript call.ran ++ Event.ofPipeline call.outcome

def warnings (call : PipelineCall) (host : Host) : Target → List Event
  | .standardOutput => []
  | .file path => Event.ofRemoval host path call.outcome call.files

variable (call : PipelineCall)

theorem mem_events (event : Event) :
    event ∈ call.events ↔ (∃ root, call.ran = .ok root ∧ event = .built root.measures) ∨
      call.outcome = .ok () ∧ event = .compiled := by
  obtain ⟨ran, outcome, files, ending⟩ := call
  cases ending with
  | failed failure => simp [events, Event.ofScript, Event.ofPipeline]
  | unsent root error => simp [events, Event.ofScript, Event.ofPipeline]
  | sent root => simp [events, Event.ofScript, Event.ofPipeline]

theorem mem_warnings (host : Host) (target : Target) (event : Event) :
    event ∈ call.warnings host target ↔ ∃ path error cause, target = .file path ∧
      call.outcome = .error error ∧ host.remove path call.files = .error cause ∧
      event = .removalFailed path cause := by
  cases target with
  | standardOutput => simp [warnings]
  | file path =>
    cases ended : call.outcome with
    | ok _ => simp [warnings, Event.ofRemoval, ended]
    | error error =>
      cases removed : host.remove path call.files <;>
        simp [warnings, Event.ofRemoval, ended, removed]

end PipelineCall

theorem FileRun.log_created {Terminal : Type} {run : FileRun Terminal} {file : OpenFile}
    (created : run.created = .ok file) :
    run.result.log = .rendering (.file run.job.path) ::
      ((run.job.pipeline file).log ++ Event.ofRemoval run.job.host run.job.path
        (run.job.pipeline file).outcome (run.job.pipeline file).state.files) := by
  cases ended : (run.job.pipeline file).outcome with
  | ok _ => rw [result_succeeded created ended, Event.ofRemoval, List.append_nil]
  | error error =>
    rw [Event.ofRemoval]
    obtain ⟨next, removed, result⟩ | ⟨cause, removed, result⟩ := failed_cases created ended
    · rw [result, removed, List.append_nil]
    · rw [result, removed]

structure TargetRun (Terminal : Type) where
  host : Host
  terminal : Sink Terminal
  script : Script FileAction
  target : Target
  world : World Terminal

namespace TargetRun

variable {Terminal : Type}

def result (run : TargetRun Terminal) : Rendering (World Terminal) :=
  render run.host run.terminal run.script run.target run.world

def call? (run : TargetRun Terminal) : Option PipelineCall :=
  match run.target with
  | .standardOutput =>
    some (.ofSink (World.printer run.terminal) World.act World.files run.script run.world)
  | .file path =>
    match run.host.create path run.world.files with
    | .error _ => none
    | .ok file => some (.ofSink run.host.disk.sink OpenFile.act OpenFile.files run.script file)

theorem result_cases (run : TargetRun Terminal) :
    (∃ path error, run.target = .file path ∧ run.call? = none ∧
      run.result.outcome = .error (.create path error) ∧
      run.result.log = [.rendering run.target]) ∨
    ∃ call, run.call? = some call ∧ run.result.outcome = call.outcome ∧
      run.result.log =
        .rendering run.target :: (call.events ++ call.warnings run.host run.target) := by
  obtain ⟨host, terminal, script, target, world⟩ := run
  cases target with
  | standardOutput =>
    refine .inr ⟨_, rfl, rfl, ?_⟩
    rw [PipelineCall.warnings, List.append_nil]
    exact congrArg _ (renderToSink_ends (World.printer terminal) World.act script world).2
  | file path =>
    let run : FileRun Terminal := ⟨⟨host, script, path⟩, terminal, world⟩
    cases created : run.created with
    | error error =>
      have refused := FileRun.result_refused created
      rw [FileRun.created] at created
      refine .inl ⟨path, error, rfl, ?_, congrArg Rendering.outcome refused,
        congrArg Rendering.log refused⟩
      simp only [call?]
      rw [created]
    | ok file =>
      have outcome := FileRun.outcome_eq created
      have log := FileRun.log_created created
      have events : (run.job.pipeline file).log = _ :=
        (renderToSink_ends host.disk.sink OpenFile.act script file).2
      rw [FileRun.created] at created
      refine .inr ⟨.ofSink host.disk.sink OpenFile.act OpenFile.files script file, ?_, outcome, ?_⟩
      · simp only [call?]
        rw [created]
      · rw [events] at log
        exact log

/-- What the log of a rendering tells: the events in their order and no others, and of
each one when it is logged. -/
structure LogTells (run : TargetRun Terminal) : Prop where
  events : run.result.log = .rendering run.target ::
    match run.call? with
    | none => []
    | some call => Event.ofScript call.ran ++ Event.ofPipeline call.outcome ++
        call.warnings run.host run.target
  built : ∀ stats, .built stats ∈ run.result.log ↔
    ∃ call root, run.call? = some call ∧ call.ran = .ok root ∧ stats = root.measures
  compiled : .compiled ∈ run.result.log ↔
    ∃ call, run.call? = some call ∧ call.outcome = .ok ()
  warned : ∀ path cause, .removalFailed path cause ∈ run.result.log ↔
    run.target = .file path ∧ ∃ call error, run.call? = some call ∧
      call.outcome = .error error ∧ run.host.remove path call.files = .error cause
  apart : .compiled ∈ run.result.log → ∀ event ∈ run.result.log, event.level ≠ .warn
  failed : ∀ failure, run.result.outcome = .error (.script failure) →
    ∀ stats, .built stats ∉ run.result.log
  unsent : ∀ error, run.result.outcome = .error (.output error) →
    (∃ stats, .built stats ∈ run.result.log) ∧ .compiled ∉ run.result.log

section Opened

variable {run : TargetRun Terminal} {call : PipelineCall} (opened : run.call? = some call)

include opened

theorem result_opened : run.result.outcome = call.outcome ∧
    run.result.log =
      .rendering run.target :: (call.events ++ call.warnings run.host run.target) := by
  obtain ⟨_, _, _, closed, _⟩ | ⟨other, also, result⟩ := run.result_cases
  · rw [closed] at opened
    cases opened
  · cases opened.symm.trans also
    exact result

theorem mem_log (event : Event) :
    event ∈ run.result.log ↔ event = .rendering run.target ∨ event ∈ call.events ∨
      event ∈ call.warnings run.host run.target := by
  rw [(result_opened opened).2, List.mem_cons, List.mem_append]

theorem built_mem_log (stats : Stats) :
    .built stats ∈ run.result.log ↔ ∃ root, call.ran = .ok root ∧ stats = root.measures := by
  simp [mem_log opened, call.mem_events, call.mem_warnings]

theorem compiled_mem_log : .compiled ∈ run.result.log ↔ call.outcome = .ok () := by
  simp [mem_log opened, call.mem_events, call.mem_warnings]

theorem removalFailed_mem_log (path : String) (cause : OutputError) :
    .removalFailed path cause ∈ run.result.log ↔ run.target = .file path ∧
      ∃ error, call.outcome = .error error ∧ run.host.remove path call.files = .error cause := by
  rw [mem_log opened, call.mem_events, call.mem_warnings]
  constructor
  · rintro (same | (⟨_, _, same⟩ | ⟨_, same⟩) | ⟨_, error, _, target, failed, kept, same⟩) <;>
      cases same
    exact ⟨target, error, failed, kept⟩
  · rintro ⟨target, error, failed, kept⟩
    exact .inr (.inr ⟨path, error, cause, target, failed, kept, rfl⟩)

theorem failed_of_warn {event : Event} (member : event ∈ run.result.log)
    (warn : event.level = .warn) : ∃ error, call.outcome = .error error := by
  rw [mem_log opened, call.mem_events, call.mem_warnings] at member
  obtain rfl | (⟨_, _, rfl⟩ | ⟨_, rfl⟩) | ⟨_, error, _, _, failed, _⟩ := member
  · cases warn
  · cases warn
  · cases warn
  · exact ⟨error, failed⟩

theorem logTells_opened : run.LogTells where
  events := by
    rw [(result_opened opened).2, opened]
    rfl
  built := by simp [built_mem_log opened, opened]
  compiled := by simp [compiled_mem_log opened, opened]
  warned := by simp [removalFailed_mem_log opened, opened]
  apart compiled event member warn := by
    obtain ⟨error, failed⟩ := failed_of_warn opened member warn
    cases failed.symm.trans ((compiled_mem_log opened).1 compiled)
  failed failure failed stats built := by
    rw [(result_opened opened).1] at failed
    have ending := call.ending
    rw [failed] at ending
    obtain ⟨root, finished, _⟩ := (built_mem_log opened stats).1 built
    cases ending.script_failed.symm.trans finished
  unsent error failed := by
    rw [(result_opened opened).1] at failed
    have ending := call.ending
    rw [failed] at ending
    obtain ⟨root, finished⟩ := ending.script_finished
    refine ⟨⟨_, (built_mem_log opened _).2 ⟨root, finished, rfl⟩⟩, fun compiled => ?_⟩
    cases failed.symm.trans ((compiled_mem_log opened).1 compiled)

end Opened

theorem logTells (run : TargetRun Terminal) : run.LogTells := by
  obtain ⟨path, error, file, closed, outcome, log⟩ | ⟨call, opened, _⟩ := run.result_cases
  · constructor <;> simp [log, closed, outcome, Event.level]
  · exact logTells_opened opened

end TargetRun

/-- The log of a rendering tells how it went. With any sink, the pipeline logs the
measures of the root just when the script finished with it, and that the scene is
compiled just when it ends well. A rendering to a target logs its start before that, and
afterwards a file that was created, should have been removed and could not be. -/
theorem render_log_tells :
    (∀ (Action State : Type) (sink : Sink State) (perform : Action → State → State)
      (script : Script Action) (state : State),
      let ran := (script.buffered sink perform state).1
      let done := renderToSink sink perform script state
      Ending ran done.outcome ∧
        done.log = Event.ofScript ran ++ Event.ofPipeline done.outcome) ∧
    (∀ (Terminal : Type) (run : TargetRun Terminal), run.LogTells) ∧
    ∀ root : Node, (Event.built root.measures).fields =
      [("nodes", toString root.size), ("depth", toString root.height),
        ("disabled", toString (root.markCount .disable)),
        ("show_only", toString (root.markCount .showOnly)),
        ("debug", toString (root.markCount .debug))] :=
  ⟨fun _ _ => renderToSink_ends, fun _ => TargetRun.logTells, fun _ => rfl⟩

/-- A standard output that is closed after four bytes, and a file that the host does not
let go. -/
theorem render_log_tells_of_failures :
    let cube : Node := (Primitive.cube (.bool true) none).node
    let scene : Node := Node.container .union [some (cube.marked .disable), some cube]
    let printed : TargetRun Memory :=
      ⟨.roomy, ({ capacity := some 4 } : Limits).sink, .finish scene, .standardOutput,
        ⟨.empty, .empty⟩⟩
    let denied : OutputError := .raised "PermissionDenied" "Permission denied (os error 13)"
    let closed : Host :=
      ⟨.roomy, fun access _ _ => if access = .remove then some denied else none⟩
    let kept : TargetRun Memory :=
      ⟨closed, Memory.sink, .fail (.stated "bad radius"), .file "out.scad", ⟨.empty, .empty⟩⟩
    (printed.LogTells ∧ printed.result.outcome = .error (.output Limits.closed) ∧
        printed.result.log.map (fun event => (event.message, event.fields)) =
          [("rendering script", [("target", "Stdout")]),
            ("scene built", [("nodes", "3"), ("depth", "2"), ("disabled", "1"),
              ("show_only", "0"), ("debug", "0")])]) ∧
      kept.LogTells ∧ kept.result.outcome = .error (.script (.stated "bad radius")) ∧
        kept.result.log =
          [.rendering (.file "out.scad"), .removalFailed "out.scad" denied] := by
  intro cube scene printed denied closed kept
  obtain ⟨_, tells, _⟩ := render_log_tells
  exact ⟨⟨tells Memory printed, by decide +kernel, by decide +kernel⟩,
    tells Memory kept, by decide +kernel, by decide +kernel⟩

end SolidScene
