import SolidScene.Proofs.FileEntries
import SolidScene.Proofs.ScriptRuns

/-!
A file open for writing, as a sink. Its bytes up to the offset are what it has
received. Whatever the disk answers, a write changes nothing but the contents of
this one file, so no other location shows a difference; and a file that is written
at its end stays so, as long as the actions of a script leave it alone.

Rendering into a file that was just opened. As long as the actions of the script
leave the file alone, the row of what it has received and what is pending is what the
echoes left, so a rendering that succeeds ends with that and the text of the root.
Whatever the script does and however the rendering ends, the other locations change by
its actions alone.

Disks by when they fail. On a disk that never does, rendering succeeds whenever the
script does. A disk may also fail for good: after an offer of which it stored nothing
it stores nothing more. An echo that fails leaves such a disk spent, whatever the
script does then, and the root does not reach the file any more. So when rendering
succeeds, every echo did.
-/

namespace SolidScene

theorem FileSystem.front_length (old : Bytes) (offset : Nat) :
    (front old offset).length = offset := by
  rw [front, List.length_take, List.length_append, List.length_replicate]
  omega

theorem FileSystem.front_overwrite (old : Bytes) (offset : Nat) (bytes : Bytes) :
    front (overwrite old offset bytes) (offset + bytes.length) = front old offset ++ bytes := by
  have written : (front old offset ++ bytes).length = offset + bytes.length := by
    rw [List.length_append, front_length]
  rw [front, overwrite, List.append_assoc (front old offset ++ bytes), ← written, List.take_left]

theorem FileSystem.overwrite_at_end {old : Bytes} {offset : Nat} (toEnd : old = front old offset)
    (bytes : Bytes) : overwrite old offset bytes = front old offset ++ bytes := by
  have length : old.length = offset := (congrArg List.length toEnd).trans (front_length old offset)
  rw [overwrite, List.drop_of_length_le (by omega), List.append_nil]

namespace OpenFile

def content (file : OpenFile) : Bytes :=
  file.files.contents[file.inode]?.getD []

/-- The bytes of the file up to the offset. -/
def received (file : OpenFile) : Bytes :=
  FileSystem.front file.content file.offset

theorem contents_inode (file : OpenFile) :
    file.files.contents[file.inode]? = some file.content := by
  rw [content, List.getElem?_eq_getElem file.inUse]
  rfl

theorem content_append (file : OpenFile) (bytes : Bytes) :
    (file.append bytes).content = FileSystem.overwrite file.content file.offset bytes := by
  have stored : (file.append bytes).files.contents[file.inode]? =
      some (FileSystem.overwrite file.content file.offset bytes) := by
    simp only [append, FileSystem.rewrite, List.getElem?_modify_eq, file.contents_inode]
    rfl
  exact congrArg (·.getD []) stored

theorem received_append (file : OpenFile) (bytes : Bytes) :
    (file.append bytes).received = file.received ++ bytes := by
  rw [received, content_append]
  exact FileSystem.front_overwrite file.content file.offset bytes

/-- One state of an open file comes from another by writing: only its contents have
changed, and it is at its end if it was. -/
structure Extends (start last : OpenFile) : Prop where
  inode : last.inode = start.inode
  entries : ∀ location, last.files.entryAt? location = start.files.entryAt? location
  others : ∀ other, other ≠ start.inode →
    last.files.contents[other]? = start.files.contents[other]?
  toEnd : start.content = start.received → last.content = last.received

theorem Extends.refl (file : OpenFile) : file.Extends file :=
  ⟨rfl, fun _ => rfl, fun _ _ => rfl, id⟩

theorem Extends.trans {start middle last : OpenFile} (first : start.Extends middle)
    (second : middle.Extends last) : start.Extends last where
  inode := second.inode.trans first.inode
  entries location := (second.entries location).trans (first.entries location)
  others other apart := (second.others other (first.inode ▸ apart)).trans (first.others other apart)
  toEnd atEnd := second.toEnd (first.toEnd atEnd)

theorem extends_append (file : OpenFile) (bytes : Bytes) : file.Extends (file.append bytes) where
  inode := rfl
  entries _ := rfl
  others other apart := List.getElem?_modify_ne _ _ (Ne.symm apart)
  toEnd atEnd := by
    rw [content_append, received_append, FileSystem.overwrite_at_end atEnd]
    rfl

end OpenFile

theorem Disk.write_extends (disk : Disk) (offer : Bytes) (file : OpenFile) :
    file.Extends (disk.sink.write offer file).2 := by
  have tried : file.Extends { file with attempts := file.attempts + 1 } :=
    ⟨rfl, fun _ => rfl, fun _ _ => rfl, id⟩
  unfold Disk.sink
  dsimp only
  split
  · exact tried
  · exact tried.trans (OpenFile.extends_append _ _)

theorem Disk.sink_changes (disk : Disk) : disk.sink.Changes OpenFile.Extends where
  refl := OpenFile.Extends.refl
  trans := OpenFile.Extends.trans
  write := disk.write_extends
  flush file := OpenFile.Extends.refl file

theorem Disk.sink_appends (disk : Disk) : disk.sink.Appends OpenFile.received where
  taken {offer file count next} answer := by
    unfold sink at answer
    dsimp only at answer
    split at answer <;> cases answer
    rw [OpenFile.received_append, List.length_take]
    refine ⟨Nat.min_le_right _ _, ?_⟩
    rw [← List.take_eq_take_min]
    rfl
  refused {offer file error next} answer := by
    unfold sink at answer
    dsimp only at answer
    split at answer <;> cases answer
    rfl

namespace OpenFile

/-- The path leads to the file that is open, which ends where it is written. -/
def AtEnd (path : String) (file : OpenFile) : Prop :=
  file.files.view path = some (.file file.inode, some file.received)

theorem atEnd_iff {path : String} {file : OpenFile} :
    file.AtEnd path ↔
      ∃ place, file.files.find path = .ok place ∧
        file.files.entryAt? place.location = some (.file file.inode) ∧
        file.content = file.received := by
  rw [AtEnd, FileSystem.view_file, file.contents_inode]
  simp only [Option.some.injEq]

theorem AtEnd.extended {path : String} {start last : OpenFile} (atEnd : start.AtEnd path)
    (extended : start.Extends last) : last.AtEnd path := by
  obtain ⟨place, found, named, toEnd⟩ := atEnd_iff.1 atEnd
  refine atEnd_iff.2 ⟨place, ?_, ?_, extended.toEnd toEnd⟩
  · exact (FileSystem.find_congr extended.entries path).trans found
  · rw [extended.entries, extended.inode, named]

theorem AtEnd.acted {path : String} {file : OpenFile} {action : FileAction}
    (atEnd : file.AtEnd path)
    (spared : (action.perform file.files).view path = file.files.view path) :
    (file.act action).AtEnd path ∧ (file.act action).received = file.received := by
  have visible : (file.act action).files.view path = some (.file file.inode, some file.received) :=
    spared.trans atEnd
  obtain ⟨_, _, _, stored⟩ := FileSystem.view_file.1 visible
  obtain ⟨_, _, _, toEnd⟩ := atEnd_iff.1 atEnd
  have content : (file.act action).content = file.content :=
    (congrArg (·.getD []) stored).trans toEnd.symm
  have same : (file.act action).received = file.received := by
    rw [received, content]
    rfl
  refine ⟨?_, same⟩
  rw [AtEnd, same]
  exact visible

/-- No location but one leads to the file that is open. -/
def OnlyAt (location : Location) (file : OpenFile) : Prop :=
  ∀ other, file.files.entryAt? other = some (.file file.inode) → other = location

theorem OnlyAt.extended {location : Location} {start last : OpenFile} (only : start.OnlyAt location)
    (extended : start.Extends last) : last.OnlyAt location := by
  intro other named
  rw [extended.entries, extended.inode] at named
  exact only other named

theorem OnlyAt.acted {location : Location} {file : OpenFile} (only : file.OnlyAt location)
    (action : FileAction) : (file.act action).OnlyAt location :=
  fun other named => only other (action.perform_old file.inUse named)

theorem OnlyAt.seen {location other : Location} {start last : OpenFile}
    (only : start.OnlyAt location) (extended : start.Extends last) (apart : other ≠ location) :
    last.files.seen other = start.files.seen other := by
  refine FileSystem.seen_congr (extended.entries other) fun inode here => ?_
  refine extended.others inode ?_
  rintro rfl
  exact apart (only other here)

end OpenFile

namespace FileSystem.Opened

variable {files : FileSystem} {path : String} {file : OpenFile} {place : Place}

theorem content_nil (opened : Opened files path file place) : file.content = [] := by
  rw [OpenFile.content, opened.blank]
  rfl

theorem received_nil (opened : Opened files path file place) : file.received = [] := by
  rw [OpenFile.received, opened.content_nil, opened.atStart]
  rfl

theorem atEnd (opened : Opened files path file place) : file.AtEnd path :=
  OpenFile.atEnd_iff.2 ⟨place, opened.stillFound, opened.named,
    opened.content_nil.trans opened.received_nil.symm⟩

theorem onlyAt (opened : Opened files path file place) : file.OnlyAt place.location :=
  fun _ named => entryAt?_single named opened.named

end FileSystem.Opened

structure FileJob where
  host : Host
  script : Script FileAction
  path : String

namespace FileJob

variable (job : FileJob) (file : OpenFile)

def pipeline : Rendering OpenFile :=
  renderToSink job.host.disk.sink OpenFile.act job.script file

def output : Output (Buffer OpenFile) :=
  Buffer.output job.host.disk.sink bufferCapacity

def ran : Except ScriptFailure Node :=
  (job.script.buffered job.host.disk.sink OpenFile.act file).1

def echoes : List (String × Except OutputError Unit) :=
  job.script.echoes job.output (Buffer.act OpenFile.act) (.start file)

/-- The actions of the script, each with the files it is performed on. -/
def acts : List (FileAction × FileSystem) :=
  (job.script.acts job.output (Buffer.act OpenFile.act) (.start file)).map
    fun act => (act.1, act.2.inner.files)

/-- No action of the script changes what the path leads to. -/
def Spares : Prop :=
  ∀ act ∈ job.acts file, (act.1.perform act.2).view job.path = act.2.view job.path

/-- The bytes are what the echoes leave, followed by the text of the root. -/
def Text (bytes : Bytes) : Prop :=
  ∃ echoed root, Script.Leaves (job.echoes file) echoed ∧ job.ran file = .ok root ∧
    bytes = echoed ++ bytesOf root.write

theorem Text.eq_text {job : FileJob} {file : OpenFile} {bytes : Bytes}
    (text : job.Text file bytes) (fine : ∀ echo ∈ job.echoes file, echo.2 = .ok ()) :
    bytes = job.script.text job.output (Buffer.act OpenFile.act) (.start file) := by
  obtain ⟨echoed, root, leaves, ran, rfl⟩ := text
  rw [leaves.lines fine, echoes, ← Script.echoed_eq_map, Script.text]
  rw [FileJob.ran, Script.buffered] at ran
  rw [output, ran]

/-- The open file is written at its end, and the row behind it is a text. -/
def Tracks (text : Bytes) (buffer : Buffer OpenFile) : Prop :=
  buffer.inner.AtEnd job.path ∧ buffer.row OpenFile.received = text

variable {job file}

theorem Tracks.line (line : String) {text : Bytes} {buffer : Buffer OpenFile}
    (tracks : job.Tracks text buffer) :
    ∃ portion, Sent (bytesOf (line ++ "\n")) portion (job.output.writeLine line buffer).1 ∧
      job.Tracks (text ++ portion) (job.output.writeLine line buffer).2 := by
  obtain ⟨atEnd, rfl⟩ := tracks
  have lengthened := Judgement.writeLine_judged (Buffer.lengthens_composes OpenFile.received)
    (Buffer.put_lengthens job.host.disk.sink_appends bufferCapacity) line buffer
  obtain ⟨portion, grown, sent⟩ := lengthened.row_eq
  exact ⟨portion, sent, atEnd.extended (job.host.disk.sink_changes.writeLine _ line buffer), grown⟩

theorem Tracks.act {action : FileAction} {text : Bytes} {buffer : Buffer OpenFile}
    (tracks : job.Tracks text buffer)
    (spared : (action.perform buffer.inner.files).view job.path =
      buffer.inner.files.view job.path) :
    job.Tracks text (buffer.act OpenFile.act action) := by
  obtain ⟨atEnd, rfl⟩ := tracks
  obtain ⟨stays, same⟩ := atEnd.acted spared
  exact ⟨stays, congrArg (· ++ buffer.pending.bytes) same⟩

variable {files : FileSystem} {place : Place}

theorem run_tracks (opened : FileSystem.Opened files job.path file place)
    (spares : job.Spares file) :
    ∃ echoed, Script.Leaves (job.echoes file) echoed ∧
      job.Tracks echoed (job.script.buffered job.host.disk.sink OpenFile.act file).2 := by
  have start : job.Tracks [] (.start file) := by
    refine ⟨opened.atEnd, ?_⟩
    rw [Buffer.row, Buffer.start, opened.received_nil]
    rfl
  exact job.script.run_leaves Tracks.line
    (fun act member _ tracks => tracks.act (spares _ (List.mem_map_of_mem member))) start

theorem pipeline_atEnd (opened : FileSystem.Opened files job.path file place)
    (spares : job.Spares file) : (job.pipeline file).state.AtEnd job.path := by
  obtain ⟨_, _, atEnd, _⟩ := run_tracks opened spares
  rw [pipeline]
  rcases renderToSink_cases job.host.disk.sink OpenFile.act job.script file with ⟨_, _, result⟩ |
    ⟨root, _, result⟩ <;> rw [result]
  · exact atEnd.extended (job.host.disk.sink_changes.close _)
  · exact atEnd.extended (job.host.disk.sink_changes.compileRoot root _)

/-- A rendering that succeeds leaves the path with the text and nothing else, if the
script leaves the file alone. -/
theorem pipeline_writes (opened : FileSystem.Opened files job.path file place)
    (spares : job.Spares file) (success : (job.pipeline file).outcome = .ok ()) :
    ∃ inode bytes, job.Text file bytes ∧
      (job.pipeline file).state.files.view job.path = some (.file inode, some bytes) := by
  obtain ⟨echoed, leaves, _, row⟩ := run_tracks opened spares
  rcases renderToSink_cases job.host.disk.sink OpenFile.act job.script file with ⟨_, _, result⟩ |
    ⟨root, ran, result⟩
  · rw [pipeline, result] at success
    cases success
  · have compiled : job.pipeline file = compileRoot job.host.disk.sink root _ := result
    have sent : (job.pipeline file).state.received = echoed ++ bytesOf root.write := by
      rw [compiled] at success ⊢
      exact (compileRoot_sends job.host.disk.sink_appends (fun _ => rfl) success).trans
        (congrArg (· ++ bytesOf root.write) row)
    refine ⟨(job.pipeline file).state.inode, _, ⟨echoed, root, leaves, ran, rfl⟩, ?_⟩
    rw [← sent]
    exact pipeline_atEnd opened spares

theorem pipeline_elsewhere (opened : FileSystem.Opened files job.path file place)
    {location : Location} (apart : location ≠ place.location) :
    Between (fun first last => last.seen location = first.seen location) FileAction.perform
      file.files (job.acts file) (job.pipeline file).state.files := by
  have stretches : Between (fun first last : FileSystem => last.seen location = first.seen location)
      FileAction.perform file.files _ (job.pipeline file).state.files :=
    (job.host.disk.sink_changes.rendering OpenFile.act job.script file).viewed OpenFile.files
      (OpenFile.OnlyAt place.location) (fun _ _ => rfl)
      (fun only extended => ⟨only.seen extended apart, only.extended extended⟩)
      (fun action _ only => only.acted action) opened.onlyAt
  rwa [List.map_map] at stretches

end FileJob

def Disk.Fails (disk : Disk) (file : OpenFile) (offer : Bytes) : Prop :=
  ∀ count, (disk.sink.write offer file).1 = .ok count → count = 0

/-- The disk stores nothing more, neither now nor later. -/
def Disk.Spent (disk : Disk) (file : OpenFile) : Prop :=
  ∀ later : OpenFile, file.offset ≤ later.offset → file.attempts ≤ later.attempts →
    ∀ offer ≠ [], disk.Fails later offer

/-- After the first offer of which it stores nothing, the disk stores nothing more. -/
def Disk.FailsForGood (disk : Disk) : Prop :=
  ∀ file : OpenFile, ∀ offer ≠ [], disk.Fails file offer →
    ∀ later : OpenFile, file.offset ≤ later.offset → file.attempts < later.attempts →
      ∀ more ≠ [], disk.Fails later more

def Disk.NeverFails (disk : Disk) : Prop :=
  ∀ file : OpenFile, ∀ offer ≠ [], ¬ disk.Fails file offer

theorem Disk.NeverFails.failsForGood {disk : Disk} (never : disk.NeverFails) :
    disk.FailsForGood :=
  fun file offer nonempty fails => absurd fails (never file offer nonempty)

theorem Disk.roomy_neverFails : Disk.roomy.NeverFails := by
  intro file offer nonempty fails
  have nothing : (offer.take offer.length).length = 0 := fails _ rfl
  rw [List.take_length] at nothing
  exact nonempty (List.length_eq_zero_iff.1 nothing)

/-- A disk with limited room for a file fails for good when the room is used up. -/
theorem Disk.limited_failsForGood (room : Nat) (error : OutputError) :
    Disk.FailsForGood fun file _ =>
      if file.offset < room then .ok (room - file.offset) else .error error := by
  intro file offer nonempty fails later further _ more _ count stored
  have full : ¬ file.offset < room := by
    intro free
    have stores := fails (offer.take (room - file.offset)).length (by simp only [sink, if_pos free])
    have positive := List.length_pos_iff.2 nonempty
    rw [List.length_take] at stores
    omega
  have fullStill : ¬ later.offset < room := by omega
  simp only [sink, if_neg fullStill] at stored
  cases stored

namespace Disk

variable {disk : Disk}

theorem fails_of_stalled {offer : Bytes} {file next : OpenFile}
    (answer : disk.sink.write offer file = (.ok 0, next)) : disk.Fails file offer := by
  rw [Fails, answer]
  rintro count ⟨⟩
  rfl

theorem fails_of_refused {offer : Bytes} {file next : OpenFile} {error : OutputError}
    (answer : disk.sink.write offer file = (.error error, next)) : disk.Fails file offer := by
  rw [Fails, answer]
  rintro count ⟨⟩

def Succeeds : Judgement OpenFile :=
  fun _ _ outcome _ => outcome = .ok ()

theorem succeeds_composes : Succeeds.Composes where
  empty _ := rfl
  next _ second := second
  stop _ known := known

theorem NeverFails.succeeds_offers (never : disk.NeverFails) (stall : OutputError) :
    Succeeds.Offers disk.sink stall where
  taken _ _ := rfl
  stalled nonempty answer := absurd (fails_of_stalled answer) (never _ _ nonempty)
  refused nonempty answer := absurd (fails_of_refused answer) (never _ _ nonempty)

theorem write_moves (disk : Disk) (offer : Bytes) (file : OpenFile) :
    file.offset ≤ (disk.sink.write offer file).2.offset ∧
      file.attempts < (disk.sink.write offer file).2.attempts := by
  unfold sink
  dsimp only
  split
  · exact ⟨Nat.le_refl _, Nat.lt_succ_self _⟩
  · exact ⟨Nat.le_add_right _ _, Nat.lt_succ_self _⟩

theorem Spent.mono {start last : OpenFile} (spent : disk.Spent start)
    (offset : start.offset ≤ last.offset) (attempts : start.attempts ≤ last.attempts) :
    disk.Spent last :=
  fun later further more =>
    spent later (Nat.le_trans offset further) (Nat.le_trans attempts more)

theorem Spent.written {file : OpenFile} (spent : disk.Spent file) (offer : Bytes) :
    disk.Spent (disk.sink.write offer file).2 :=
  have ⟨offset, attempts⟩ := disk.write_moves offer file
  spent.mono offset (Nat.le_of_lt attempts)

theorem FailsForGood.spent (forGood : disk.FailsForGood) {file : OpenFile} {offer : Bytes}
    (nonempty : offer ≠ []) (fails : disk.Fails file offer) :
    disk.Spent (disk.sink.write offer file).2 := by
  obtain ⟨offset, attempts⟩ := disk.write_moves offer file
  intro later further more
  exact forGood file offer nonempty fails later (Nat.le_trans offset further)
    (Nat.lt_of_lt_of_le attempts more)

def Stuck (disk : Disk) (start last : OpenFile) : Prop :=
  disk.Spent start → disk.Spent last ∧ last.received = start.received

theorem stuck_changes (disk : Disk) : disk.sink.Changes disk.Stuck where
  refl _ spent := ⟨spent, rfl⟩
  trans first second spent :=
    have ⟨still, same⟩ := first spent
    have ⟨last, sameAgain⟩ := second still
    ⟨last, sameAgain.trans same⟩
  write offer file spent := by
    refine ⟨spent.written offer, ?_⟩
    cases answer : (disk.sink.write offer file).1 with
    | error error => exact disk.sink_appends.refused (Prod.ext answer rfl)
    | ok count =>
      have taken := (disk.sink_appends.taken (Prod.ext answer rfl)).2
      suffices nothing : offer.take count = [] by rw [taken, nothing, List.append_nil]
      by_cases empty : offer = []
      · rw [empty, List.take_nil]
      · rw [spent file (Nat.le_refl _) (Nat.le_refl _) offer empty count answer, List.take_zero]
  flush _ spent := ⟨spent, rfl⟩

/-- Judges attempts by whether a failure, now or before, leaves the disk spent. -/
def Exhausts (disk : Disk) : Judgement OpenFile :=
  fun _ start outcome last => disk.Spent start ∨ outcome ≠ .ok () → disk.Spent last

theorem exhausts_composes (disk : Disk) : disk.Exhausts.Composes where
  empty _ cause := cause.resolve_right fun failed => failed rfl
  next first second cause := second (cause.imp_left fun spent => first (.inl spent))
  stop _ known := known

theorem FailsForGood.exhausts_offers (forGood : disk.FailsForGood) (stall : OutputError) :
    disk.Exhausts.Offers disk.sink stall where
  taken {offer file count next} nonempty answer cause := by
    have spent := cause.resolve_right fun failed => failed rfl
    have fails := spent file (Nat.le_refl _) (Nat.le_refl _) offer nonempty (count + 1)
    exact absurd (fails (congrArg Prod.fst answer)) (Nat.succ_ne_zero count)
  stalled nonempty answer _ := by
    have spent := forGood.spent nonempty (fails_of_stalled answer)
    rwa [answer] at spent
  refused nonempty answer _ := by
    have spent := forGood.spent nonempty (fails_of_refused answer)
    rwa [answer] at spent

end Disk

namespace FileJob

variable {job : FileJob}

theorem compileRoot_succeeds (never : job.host.disk.NeverFails) (root : Node)
    (buffer : Buffer OpenFile) : (compileRoot job.host.disk.sink root buffer).outcome = .ok () := by
  have composes := Disk.succeeds_composes
  obtain ⟨_, written⟩ := Judgement.writeNode_judged (Buffer.behind_composes composes)
    (Buffer.put_behind composes (never.succeeds_offers .stalled)
      (never.succeeds_offers .stalledBuffer) bufferCapacity) root buffer
  have drained := Buffer.drain_behind composes (never.succeeds_offers .stalledBuffer)
  rcases compileRoot_cases job.host.disk.sink root buffer with ⟨_, failed, _⟩ | ⟨_, _, failed, _⟩ |
    ⟨_, _, _, failed, _⟩ | ⟨_, _, _, result⟩
  · exact nomatch failed.symm.trans written
  · exact nomatch failed.symm.trans (drained _)
  · cases failed
  · rw [result]

theorem succeeds_iff (never : job.host.disk.NeverFails) (file : OpenFile) :
    (job.pipeline file).outcome = .ok () ↔ ∃ root, job.ran file = .ok root := by
  obtain ⟨_, failed, result⟩ | ⟨root, ran, result⟩ :=
    renderToSink_cases job.host.disk.sink OpenFile.act job.script file <;> rw [pipeline, result]
  · constructor
    · intro success
      cases success
    · rintro ⟨root, ran⟩
      cases failed.symm.trans ran
  · exact iff_of_true (compileRoot_succeeds never root _) ⟨root, ran⟩

theorem line_exhausts (forGood : job.host.disk.FailsForGood) (line : String)
    (buffer : Buffer OpenFile)
    (cause : job.host.disk.Spent buffer.inner ∨ (job.output.writeLine line buffer).1 ≠ .ok ()) :
    job.host.disk.Spent (job.output.writeLine line buffer).2.inner := by
  have composes := job.host.disk.exhausts_composes
  obtain ⟨_, exhausts⟩ := Judgement.writeLine_judged (Buffer.behind_composes composes)
    (Buffer.put_behind composes (forGood.exhausts_offers .stalled)
      (forGood.exhausts_offers .stalledBuffer) bufferCapacity) line buffer
  exact exhausts cause

theorem run_exhausts (forGood : job.host.disk.FailsForGood) (script : Script FileAction)
    (buffer : Buffer OpenFile)
    (cause : job.host.disk.Spent buffer.inner ∨
      ∃ echo ∈ script.echoes job.output (Buffer.act OpenFile.act) buffer, echo.2 ≠ .ok ()) :
    job.host.disk.Spent (script.run job.output (Buffer.act OpenFile.act) buffer).2.inner := by
  induction script generalizing buffer with
  | finish root => exact cause.resolve_right fun ⟨_, member, _⟩ => nomatch member
  | fail failure => exact cause.resolve_right fun ⟨_, member, _⟩ => nomatch member
  | echo line next ih =>
    refine ih _ _ ?_
    rcases cause with spent | ⟨echo, member, failed⟩
    · exact .inl (line_exhausts forGood line buffer (.inl spent))
    · rcases List.mem_cons.1 member with rfl | later
      · exact .inl (line_exhausts forGood line buffer (.inr failed))
      · exact .inr ⟨echo, later, failed⟩
  | act action next ih =>
    -- an action changes neither the offset nor the number of attempts
    exact ih _ (cause.imp_left fun spent => spent.mono (Nat.le_refl _) (Nat.le_refl _))

/-- On a disk that fails for good, rendering succeeds only if every echo did. -/
theorem echoes_succeed (forGood : job.host.disk.FailsForGood) {file : OpenFile}
    (success : (job.pipeline file).outcome = .ok ()) :
    ∀ echo ∈ job.echoes file, echo.2 = .ok () := by
  intro echo member
  refine Classical.byContradiction fun failed => ?_
  have spent := run_exhausts forGood job.script (.start file) (.inr ⟨echo, member, failed⟩)
  rw [pipeline] at success
  rcases renderToSink_cases job.host.disk.sink OpenFile.act job.script file with ⟨_, _, result⟩ |
    ⟨root, _, result⟩ <;> rw [result] at success
  · cases success
  · have sent := compileRoot_sends job.host.disk.sink_appends (fun _ => rfl) success
    have stuck := (job.host.disk.stuck_changes.compileRoot root _ spent).2
    -- the file would have received the root although the disk takes nothing
    rw [Buffer.row, List.append_assoc] at sent
    have nothing := List.append_right_eq_self.1 (sent.symm.trans stuck)
    exact root.write_bytes_nonempty (List.append_eq_nil_iff.1 nothing).2

end FileJob

end SolidScene
