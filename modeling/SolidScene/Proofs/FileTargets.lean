import Mathlib.Control.Monad.Basic
import SolidScene.Proofs.FileRendering

/-!
Sequences of renderings to files. A file that cannot be created ends its rendering
before the script runs. When rendering fails later the error is the one of the
pipeline, and the path leads nowhere afterwards or a warning names it. When rendering
succeeds and its script left the file alone, the file holds what the echoes left and
the root, and nothing else. All other locations change by the actions of scripts only,
so without such actions each location stays as the last rendering that opened it left
it.

This holds of the files as they are modelled. A file has one name, there are no links,
and no name is moved to another place. A creation or removal that the names allow is
refused by the host alone; what the host of one rendering refuses, that of the next may
allow. Two paths are the same when they lead to one location, however they are spelled.
-/

namespace SolidScene

namespace Host

/-- The host never refuses what the names allow. -/
def Permits (host : Host) (access : Access) : Prop :=
  ∀ path files, host.refusal? access path files = none

variable {host : Host} {path : String} {files : FileSystem}

theorem create_ok {file : OpenFile} (created : host.create path files = .ok file) :
    files.create path = .ok file := by
  unfold create at created
  split at created
  · cases created
  · exact created

theorem remove_ok {next : FileSystem} (removed : host.remove path files = .ok next) :
    files.remove path = .ok next := by
  unfold remove at removed
  split at removed
  · cases removed
  · exact removed

theorem Permits.remove_eq (permits : host.Permits .remove) (path : String) (files : FileSystem) :
    host.remove path files = files.remove path := by
  rw [remove, permits]

end Host

structure FileRun (Terminal : Type) where
  job : FileJob
  terminal : Sink Terminal
  world : World Terminal

namespace FileRun

variable {Terminal : Type} (run : FileRun Terminal)

def result : Rendering (World Terminal) :=
  render run.job.host run.terminal run.job.script (.file run.job.path) run.world

def created : Except OutputError OpenFile :=
  run.job.host.create run.job.path run.world.files

def acts : List (FileAction × FileSystem) :=
  match run.created with
  | .error _ => []
  | .ok file => run.job.acts file

def opens (location : Location) : Bool :=
  match run.created with
  | .error _ => false
  | .ok _ => decide (Path.location? run.job.path = some location)

def Gone : Prop :=
  run.result.state.files.view run.job.path = none ∧
    ∀ location, Path.location? run.job.path = some location →
      run.result.state.files.entryAt? location = none

def Warned : Prop :=
  ∃ event ∈ run.result.log, event.level = .warn ∧ ("path", run.job.path) ∈ event.fields

/-- No action of the script changes what the path leads to. -/
def Spares : Prop :=
  ∀ act ∈ run.acts, (act.1.perform act.2).view run.job.path = act.2.view run.job.path

/-- The path leads to a file that holds what the echoes left and the text of the root.
If no echo failed that is the text of the run. -/
def Written (file : OpenFile) : Prop :=
  ∃ inode bytes, run.result.state.files.view run.job.path = some (.file inode, some bytes) ∧
    run.job.Text file bytes ∧
    ((∀ echo ∈ run.job.echoes file, echo.2 = .ok ()) →
      bytes = run.job.script.text run.job.output (Buffer.act OpenFile.act) (.start file))

/-- What is promised of a rendering to a file. A file that cannot be created leaves the
world as it was. A later failure keeps its error, whether or not the file can be removed,
and it can if the script left it alone and the host permits. A success has written what
the echoes left and the root; a line whose echo failed may be cut in it, which a disk
that fails for good rules out. A disk that never fails leaves success to the script.
Elsewhere only the script makes changes, and nothing is printed. -/
structure Lawful : Prop where
  refused : ∀ error, run.created = .error error →
    run.result =
      ⟨.error (.create run.job.path error), [.rendering (.file run.job.path)], run.world⟩
  failed : ∀ file error, run.created = .ok file →
    (run.job.pipeline file).outcome = .error error →
      run.result.outcome = .error error ∧
      (run.Gone ∨ run.Warned ∧ run.result.state.files = (run.job.pipeline file).state.files) ∧
      (run.job.host.Permits .remove → run.Spares → run.Gone)
  succeeds : run.result.outcome = .ok () ↔
    ∃ file, run.created = .ok file ∧ (run.job.pipeline file).outcome = .ok ()
  written : ∀ file, run.created = .ok file → run.result.outcome = .ok () →
    (run.Spares → run.Written file) ∧
    (run.job.host.disk.FailsForGood → ∀ echo ∈ run.job.echoes file, echo.2 = .ok ())
  complete : run.job.host.disk.NeverFails → ∀ file, run.created = .ok file →
    (run.result.outcome = .ok () ↔ ∃ root, run.job.ran file = .ok root)
  elsewhere : ∀ location, Path.location? run.job.path ≠ some location →
    Between (fun first last => last.seen location = first.seen location) FileAction.perform
      run.world.files run.acts run.result.state.files
  printed : run.result.state.terminal = run.world.terminal

variable {run} {file : OpenFile} {place : Place}

theorem result_refused {error : OutputError} (refused : run.created = .error error) :
    run.result =
      ⟨.error (.create run.job.path error), [.rendering (.file run.job.path)], run.world⟩ := by
  rw [created] at refused
  rw [result, render, renderToFile, refused]

theorem result_succeeded (created : run.created = .ok file)
    (success : (run.job.pipeline file).outcome = .ok ()) :
    run.result = ⟨.ok (), .rendering (.file run.job.path) :: (run.job.pipeline file).log,
      { run.world with files := (run.job.pipeline file).state.files }⟩ := by
  rw [FileRun.created] at created
  rw [FileJob.pipeline] at success
  simp only [result, render, renderToFile, created, success]
  rfl

theorem result_failed {error : RenderError} (created : run.created = .ok file)
    (failed : (run.job.pipeline file).outcome = .error error) :
    run.result =
      let discarded := discard run.job.host run.job.path (run.job.pipeline file).state.files
      ⟨.error error,
        .rendering (.file run.job.path) :: ((run.job.pipeline file).log ++ discarded.1),
        { run.world with files := discarded.2 }⟩ := by
  rw [FileRun.created] at created
  rw [FileJob.pipeline] at failed
  simp only [result, render, renderToFile, created, failed]
  rfl

/-- The two ways in which a rendering fails after its file was created. -/
theorem failed_cases {error : RenderError} (created : run.created = .ok file)
    (failed : (run.job.pipeline file).outcome = .error error) :
    let done := run.job.pipeline file
    (∃ next, run.job.host.remove run.job.path done.state.files = .ok next ∧ run.result =
      ⟨.error error, .rendering (.file run.job.path) :: done.log,
        { run.world with files := next }⟩) ∨
    ∃ cause, run.job.host.remove run.job.path done.state.files = .error cause ∧ run.result =
      ⟨.error error,
        .rendering (.file run.job.path) :: (done.log ++ [.removalFailed run.job.path cause]),
        { run.world with files := done.state.files }⟩ := by
  intro done
  rw [result_failed created failed, discard]
  cases run.job.host.remove run.job.path (run.job.pipeline file).state.files with
  | ok next => exact .inl ⟨next, rfl, by simp only [List.append_nil, done]⟩
  | error cause => exact .inr ⟨cause, rfl, rfl⟩

theorem gone_of_removed {next : FileSystem}
    (removed : run.job.host.remove run.job.path (run.job.pipeline file).state.files = .ok next)
    (left : run.result.state.files = next) : run.Gone := by
  obtain ⟨place, found, gone, nowhere, _⟩ := FileSystem.remove_removed (Host.remove_ok removed)
  rw [Gone, left]
  refine ⟨nowhere, fun location means => ?_⟩
  obtain rfl := Option.some.inj ((FileSystem.find_location found).symm.trans means)
  exact gone

theorem Spares.job (spares : run.Spares) (created : run.created = .ok file) :
    run.job.Spares file := by
  rw [Spares, acts, created] at spares
  exact spares

theorem gone_of_spares {error : RenderError} (created : run.created = .ok file)
    (failed : (run.job.pipeline file).outcome = .error error)
    (permits : run.job.host.Permits .remove) (spares : run.Spares) : run.Gone := by
  obtain ⟨_, opened⟩ := FileSystem.create_opened (Host.create_ok created)
  obtain ⟨place, found, named, _⟩ :=
    OpenFile.atEnd_iff.1 (FileJob.pipeline_atEnd opened (spares.job created))
  -- the path means the place that was opened, so it is no name of a directory
  have same := (FileSystem.find_place found).symm.trans (FileSystem.find_place opened.found)
  obtain rfl := Option.some.inj same
  obtain ⟨next, possible⟩ := FileSystem.remove_ok found opened.plain named
  obtain ⟨_, removed, result⟩ | ⟨cause, refused, _⟩ := failed_cases created failed
  · exact gone_of_removed removed (by rw [result])
  · rw [permits.remove_eq, possible] at refused
    cases refused

theorem gone_or_warned {error : RenderError} (created : run.created = .ok file)
    (failed : (run.job.pipeline file).outcome = .error error) :
    run.Gone ∨ run.Warned ∧ run.result.state.files = (run.job.pipeline file).state.files := by
  obtain ⟨_, removed, result⟩ | ⟨cause, _, result⟩ := failed_cases created failed
  · exact .inl (gone_of_removed removed (by rw [result]))
  · rw [Warned, result]
    refine .inr ⟨⟨.removalFailed run.job.path cause, ?_, rfl, List.mem_cons_self⟩, rfl⟩
    exact List.mem_cons_of_mem _ (List.mem_append_right _ List.mem_cons_self)

theorem changes_elsewhere (run : FileRun Terminal) {location : Location}
    (apart : Path.location? run.job.path ≠ some location) :
    Between (fun first last => last.seen location = first.seen location) FileAction.perform
      run.world.files run.acts run.result.state.files := by
  cases created : run.created with
  | error error =>
    rw [acts, created, result_refused created]
    exact .still rfl
  | ok file =>
    obtain ⟨place, opened⟩ := FileSystem.create_opened (Host.create_ok created)
    have elsewhere := FileSystem.ne_of_find opened.found apart
    have ran : Between _ FileAction.perform run.world.files (run.job.acts file)
        (run.job.pipeline file).state.files :=
      (FileJob.pipeline_elsewhere opened elsewhere).before
        (fun earlier later => later.trans earlier) (opened.elsewhere location elsewhere)
    rw [acts, created]
    cases ended : (run.job.pipeline file).outcome with
    | ok _ =>
      rw [result_succeeded created ended]
      exact ran
    | error error =>
      obtain ⟨next, removed, result⟩ | ⟨_, _, result⟩ := failed_cases created ended
      · rw [result]
        refine ran.after (fun earlier later => later.trans earlier) ?_
        obtain ⟨gone, found, _, _, others⟩ := FileSystem.remove_removed (Host.remove_ok removed)
        exact others location (FileSystem.ne_of_find found apart)
      · rw [result]
        exact ran

theorem outcome_eq (created : run.created = .ok file) :
    run.result.outcome = (run.job.pipeline file).outcome := by
  cases ended : (run.job.pipeline file).outcome with
  | ok _ => rw [result_succeeded created ended]
  | error error =>
    obtain ⟨_, _, result⟩ | ⟨_, _, result⟩ := failed_cases created ended <;> rw [result]

theorem created_of_success (success : run.result.outcome = .ok ()) :
    ∃ file, run.created = .ok file := by
  cases created : run.created with
  | error error =>
    rw [result_refused created] at success
    cases success
  | ok file => exact ⟨file, rfl⟩

theorem written_of_spares (created : run.created = .ok file)
    (success : (run.job.pipeline file).outcome = .ok ()) (spares : run.Spares) :
    run.Written file := by
  obtain ⟨_, opened⟩ := FileSystem.create_opened (Host.create_ok created)
  obtain ⟨inode, bytes, text, visible⟩ :=
    FileJob.pipeline_writes opened (spares.job created) success
  refine ⟨inode, bytes, ?_, text, text.eq_text⟩
  rw [result_succeeded created success]
  exact visible

theorem lawful (run : FileRun Terminal) : run.Lawful where
  refused _ refused := result_refused refused
  failed file error created failed :=
    ⟨(outcome_eq created).trans failed, gone_or_warned created failed,
      gone_of_spares created failed⟩
  succeeds := by
    constructor
    · intro success
      obtain ⟨file, created⟩ := created_of_success success
      exact ⟨file, created, (outcome_eq created).symm.trans success⟩
    · rintro ⟨file, created, ended⟩
      exact (outcome_eq created).trans ended
  written file created success := by
    have ended := (outcome_eq created).symm.trans success
    exact ⟨written_of_spares created ended, fun forGood => FileJob.echoes_succeed forGood ended⟩
  complete never file created := by
    rw [outcome_eq created]
    exact FileJob.succeeds_iff never file
  elsewhere _ apart := run.changes_elsewhere apart
  printed := rfl

/-- A script that removes its own file and then fails leaves nothing to discard. -/
example :
    let script : Script FileAction := .act (.remove "out.scad") (.fail (.stated "bad radius"))
    let run : FileRun Memory := ⟨⟨.roomy, script, "out.scad"⟩, Memory.sink, ⟨.empty, .empty⟩⟩
    run.result.log =
      [.rendering (.file "out.scad"), .removalFailed "out.scad" .notFound] := by
  decide +kernel

theorem seen_of_not_opens (run : FileRun Terminal) {location : Location}
    (still : run.acts = [] ∧ run.opens location = false) :
    run.result.state.files.seen location = run.world.files.seen location := by
  obtain ⟨still, closed⟩ := still
  cases created : run.created with
  | error error => rw [result_refused created]
  | ok file =>
    rw [opens, created] at closed
    have changes := run.changes_elsewhere (of_decide_eq_false closed)
    rw [still] at changes
    cases changes with
    | still same => exact same

end FileRun

namespace FileJob

variable {Terminal : Type}

def renderAll (terminal : Sink Terminal) : List FileJob → World Terminal → World Terminal
  | [], world => world
  | job :: rest, world => renderAll terminal rest (FileRun.mk job terminal world).result.state

def runs (terminal : Sink Terminal) : List FileJob → World Terminal → List (FileRun Terminal)
  | [], _ => []
  | job :: rest, world =>
    ⟨job, terminal, world⟩ :: runs terminal rest (FileRun.mk job terminal world).result.state

variable {terminal : Sink Terminal} {location : Location}

theorem renderAll_seen {jobs : List FileJob} {world : World Terminal}
    (still : ∀ run ∈ runs terminal jobs world, run.acts = [] ∧ run.opens location = false) :
    (renderAll terminal jobs world).files.seen location = world.files.seen location := by
  induction jobs generalizing world with
  | nil => rfl
  | cons job rest ih =>
    have first := (FileRun.mk job terminal world).seen_of_not_opens (still _ List.mem_cons_self)
    exact (ih fun run member => still run (List.mem_cons_of_mem _ member)).trans first

theorem renderAll_seen_last {jobs : List FileJob} {world : World Terminal}
    {earlier later : List (FileRun Terminal)} {run : FileRun Terminal}
    (split : runs terminal jobs world = earlier ++ run :: later)
    (still : ∀ other ∈ later, other.acts = [] ∧ other.opens location = false) :
    (renderAll terminal jobs world).files.seen location =
      run.result.state.files.seen location := by
  induction jobs generalizing world earlier with
  | nil => exact absurd split.symm (List.append_ne_nil_of_right_ne_nil _ nofun)
  | cons job rest ih =>
    cases earlier with
    | nil =>
      obtain ⟨rfl, rfl⟩ := List.cons.inj split
      exact renderAll_seen still
    | cons other earlier => exact ih (List.cons.inj split).2

/-- Any sequence of renderings to files. Each of them keeps the promises, and without
actions of scripts a location ends as the last rendering that opened it left it. -/
theorem runs_lawful (terminal : Sink Terminal) (jobs : List FileJob) (world : World Terminal) :
    (∀ run ∈ runs terminal jobs world, run.Lawful) ∧
      ∀ location,
        ((∀ run ∈ runs terminal jobs world, run.acts = [] ∧ run.opens location = false) →
          (renderAll terminal jobs world).files.seen location = world.files.seen location) ∧
        ∀ earlier run later, runs terminal jobs world = earlier ++ run :: later →
          (∀ other ∈ later, other.acts = [] ∧ other.opens location = false) →
          (renderAll terminal jobs world).files.seen location =
            run.result.state.files.seen location :=
  ⟨fun run _ => run.lawful, fun _ =>
    ⟨renderAll_seen, fun _ _ _ split still => renderAll_seen_last split still⟩⟩

end FileJob

namespace Disk

def outOfSpace : OutputError :=
  .raised "StorageFull" "No space left on device (os error 28)"

/-- A disk that stores five bytes of the first offer, fails the second and stores whatever
comes after them. -/
def faltering : Disk := fun file bytes =>
  match file.attempts with
  | 0 => .ok 5
  | 1 => .error outOfSpace
  | _ => .ok bytes.length

theorem faltering_put {bytes : Bytes} (full : bytes.length = bufferCapacity)
    {file : OpenFile} (fresh : file.attempts = 0) :
    (Buffer.output faltering.sink bufferCapacity).put bytes (.start file) =
      (.error outOfSpace, .start { file.append (bytes.take 5) with attempts := 2 }) := by
  have first : faltering.sink.write bytes file =
      (.ok 5, { file.append (bytes.take 5) with attempts := 1 }) := by
    simp only [sink, faltering, fresh, List.length_take, full]
    rfl
  have nonempty : bytes ≠ [] := by
    rintro rfl
    cases full
  have more : bytes.drop 5 ≠ [] := by
    rw [← List.length_pos_iff, List.length_drop, full]
    decide
  have cut : faltering.sink.deliver .stalled bytes file =
      (.error outOfSpace, bytes.drop 5, { file.append (bytes.take 5) with attempts := 2 }) := by
    rw [Sink.deliver, if_neg nonempty, first]
    dsimp only
    rw [Sink.deliver, if_neg more]
    rfl
  simp only [Buffer.output, Buffer.start, Buffer.makeRoom, Buffer.place, Memory.empty, full,
    Nat.sub_zero, Nat.lt_irrefl, if_false, Nat.le_refl, if_true, Sink.direct, cut]

end Disk

namespace FileJob

def fromEmpty (job : FileJob) : FileRun Memory :=
  ⟨job, Memory.sink, ⟨.empty, .empty⟩⟩

def ball : Node :=
  (Primitive.sphere (.bool true)).node

def faltering (line : String) : FileJob where
  host := ⟨.faltering, fun _ _ _ => none⟩
  script := .tryLine line (.finish ball)
  path := "out.scad"

theorem faltering_acts (line : String) (file : OpenFile) : (faltering line).acts file = [] :=
  rfl

theorem faltering_pipeline {line : String} (full : (bytesOf line).length = bufferCapacity)
    {file : OpenFile} (fresh : file.attempts = 0) :
    (faltering line).pipeline file = compileRoot Disk.faltering.sink ball
      (.start { file.append ((bytesOf line).take 5) with attempts := 2 }) := by
  have cut := Disk.faltering_put full fresh
  simp only [pipeline, faltering, renderToSink, Script.tryLine, Script.run, Output.writeLine,
    Output.putAll, cut]

def longLine : String :=
  String.ofList (List.replicate bufferCapacity 'x')

theorem bytesOf_longLine : bytesOf longLine = List.replicate bufferCapacity 120 := by
  have code : String.utf8EncodeChar 'x' = [120] := by decide
  rw [longLine, bytesOf_ofList, List.flatMap_replicate, code, List.flatten_replicate_singleton]

theorem length_longLine : (bytesOf longLine).length = bufferCapacity := by
  rw [bytesOf_longLine, List.length_replicate]

theorem length_le_append (line later : String) :
    (bytesOf line).length ≤ (bytesOf (line ++ later)).length := by
  rw [bytesOf_append, List.length_append]
  exact Nat.le_add_right _ _

def newFile : OpenFile where
  files := FileSystem.empty.addFile (Location.working.child "out.scad")
  inode := 0
  offset := 0
  attempts := 0
  inUse := Nat.zero_lt_one

theorem faltering_created (line : String) :
    (faltering line).fromEmpty.created = .ok newFile := by
  have created : FileSystem.empty.create "out.scad" = .ok newFile := by decide +kernel
  exact created

theorem faltering_result :
    (faltering longLine).fromEmpty.result =
      let done := compileRoot Disk.faltering.sink ball
        (.start { newFile.append (bytesOf "xxxxx") with attempts := 2 })
      ⟨.ok (), .rendering (.file "out.scad") :: done.log, ⟨done.state.files, .empty⟩⟩ := by
  have front : (bytesOf longLine).take 5 = bytesOf "xxxxx" := by
    rw [bytesOf_longLine, List.take_replicate]
    decide +kernel
  have piped : (faltering longLine).fromEmpty.job.pipeline newFile = _ :=
    faltering_pipeline length_longLine rfl
  rw [front] at piped
  have success : ((faltering longLine).fromEmpty.job.pipeline newFile).outcome = .ok () := by
    rw [piped]
    decide +kernel
  rw [FileRun.result_succeeded (faltering_created _) success, piped]
  rfl

/-- A success need not leave the lines of its script: one that drops the error of an echo
goes on behind the part of the line that was stored. Nor need it leave a file whose path
no action names, as an action may spell the path in another way. -/
theorem success_without_lines :
    let cut := (faltering longLine).fromEmpty
    let respelled : Script FileAction := .act (.remove "./out.scad") (.finish ball)
    let removed := (FileJob.mk .roomy respelled "out.scad").fromEmpty
    let there := Location.working.child "out.scad"
    (cut.result.outcome = .ok () ∧ cut.acts = [] ∧
        cut.result.state.files.read? there = some (bytesOf ("xxxxx" ++ ball.write)) ∧
        bytesOf ("xxxxx" ++ ball.write) ≠ bytesOf (longLine ++ "\n" ++ ball.write)) ∧
      removed.result.outcome = .ok () ∧ removed.result.state.files.read? there = none := by
  intro cut respelled removed there
  have result : cut.result = _ := faltering_result
  refine ⟨⟨?_, ?_, ?_, ?_⟩, by decide +kernel, by decide +kernel⟩
  · rw [result]
  · rw [FileRun.acts, faltering_created]
    exact faltering_acts longLine newFile
  · rw [result]
    decide +kernel
  · intro same
    have short : (bytesOf ("xxxxx" ++ ball.write)).length < bufferCapacity := by decide +kernel
    have long := length_le_append longLine ("\n" ++ ball.write)
    rw [length_longLine, ← String.append_assoc, ← same] at long
    exact Nat.not_le_of_lt short long

/-- A line is cut, a text is written whole, one host refuses to create the file, and
another one to remove it. -/
theorem runs_lawful_of_mixed_jobs :
    let denied : OutputError := .raised "PermissionDenied" "Permission denied (os error 13)"
    let closed (refused : Access) : Host :=
      ⟨.roomy, fun access _ _ => if access = refused then some denied else none⟩
    let jobs : List FileJob := [faltering longLine,
      ⟨.roomy, .line "// a ball" (.finish ball), "whole.scad"⟩,
      ⟨closed .create, .finish ball, "whole.scad"⟩,
      ⟨closed .remove, .line "// kept" (.fail (.stated "bad radius")), "kept.scad"⟩]
    let world : World Memory := ⟨.empty, .empty⟩
    let files := (renderAll Memory.sink jobs world).files
    (∀ run ∈ runs Memory.sink jobs world, run.Lawful) ∧
      (runs Memory.sink jobs world).map (·.result.outcome) = [.ok (), .ok (),
        .error (.create "whole.scad" denied), .error (.script (.stated "bad radius"))] ∧
      files.read? (Location.working.child "out.scad") =
        some (bytesOf ("xxxxx" ++ ball.write)) ∧
      files.read? (Location.working.child "whole.scad") =
        some (bytesOf ("// a ball\n" ++ ball.write)) ∧
      files.read? (Location.working.child "kept.scad") = some (bytesOf "// kept\n") := by
  intro denied closed jobs world files
  have cut : (FileRun.mk (faltering longLine) Memory.sink world).result = _ := faltering_result
  refine ⟨(runs_lawful Memory.sink jobs world).1, ?_⟩
  simp only [files, jobs, runs, renderAll, List.map_cons, List.map_nil, cut]
  decide +kernel

end FileJob

end SolidScene
