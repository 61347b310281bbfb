import SolidScene.Proofs.ScriptRuns

/-!
Rendering to sinks that may fail and recover. A sink that refused a part of the
output may take the rest when the buffer is given up. Nothing is put into the row of
sent and pending bytes after the first failure, so what arrives later still continues
what arrived before: the sink receives a front part of the text of the run, and all
of it when rendering succeeds. A flush that succeeds leaves nothing to send.
-/

namespace SolidScene

variable {Action State : Type} {sink : Sink State} {received : State → Bytes}

namespace Buffer

theorem drain_row_eq (appends : sink.Appends received) (buffer : Buffer State) :
    (buffer.drain sink).2.row received = buffer.row received := by
  obtain ⟨sent, appended, whole, _⟩ := buffer.drain_forwards appends
  rw [row, appended, List.append_assoc, whole, row]

theorem close_front (appends : sink.Appends received) (buffer : Buffer State) :
    received (buffer.close sink) <+: buffer.row received := by
  rw [← buffer.drain_row_eq appends]
  exact List.prefix_append _ _

theorem drain_of_flushed {capacity : Nat} {buffer : Buffer State}
    (success : ((output sink capacity).flush buffer).1 = .ok ()) :
    ((output sink capacity).flush buffer).2.drain sink =
      (.ok (), ⟨.ofBytes [], ((output sink capacity).flush buffer).2.inner⟩) := by
  -- a flush drains the buffer first, and the flush of the sink does not fill it again
  have clears := buffer.drain_clears sink
  rw [output_flush] at success ⊢
  generalize buffer.drain sink = drained at clears success ⊢
  obtain ⟨outcome, next⟩ := drained
  cases outcome with
  | error error => cases success
  | ok _ => exact drain_of_clear sink ⟨next.pending, _⟩ (clears rfl)

end Buffer

theorem compileRoot_front (appends : sink.Appends received)
    (flushes : ∀ state, received (sink.flush state).2 = received state) (root : Node)
    (buffer : Buffer State) :
    received (compileRoot sink root buffer).state <+:
      buffer.row received ++ bytesOf root.write := by
  -- each attempt leaves a front part of the row and the text, whichever is the last
  let tries := RootWriting.ofRoot sink root buffer
  have lengthened := Judgement.writeNode_judged (Buffer.lengthens_composes received)
    (Buffer.put_lengthens appends bufferCapacity) root buffer
  obtain ⟨portion, grown, known⟩ := lengthened.row_eq
  have written : tries.written.2.row received <+: buffer.row received ++ bytesOf root.write := by
    rw [show tries.written.2.row received = _ from grown]
    exact (List.prefix_append_right_inj _).2 known.isPrefix
  have drained : tries.drained.2.row received <+: buffer.row received ++ bytesOf root.write := by
    rw [show tries.drained.2.row received = _ from Buffer.drain_row_eq appends _]
    exact written
  have flushed : Buffer.row received { tries.drained.2 with inner := tries.flushed.2 } <+:
      buffer.row received ++ bytesOf root.write := by
    rw [Buffer.row, show received tries.flushed.2 = _ from flushes _]
    exact drained
  rcases compileRoot_cases sink root buffer with ⟨_, _, result⟩ | ⟨_, _, _, result⟩ |
    ⟨_, _, _, _, result⟩ | ⟨_, _, _, result⟩ <;> rw [result]
  · exact (Buffer.close_front appends _).trans written
  · exact (Buffer.close_front appends _).trans drained
  · exact (Buffer.close_front appends _).trans flushed
  · exact (List.prefix_append _ _).trans flushed

namespace Script

def Fails : Script Action → Prop
  | .finish _ => False
  | .fail _ => True
  | .echo _ _ => False
  | .act _ next => next.Fails

/-- A script that fails as soon as one of its echoes does. -/
def StopsOnFailure : Script Action → Prop
  | .finish _ => True
  | .fail _ => True
  | .echo _ next => (∀ error, (next (.error error)).Fails) ∧ (next (.ok ())).StopsOnFailure
  | .act _ next => next.StopsOnFailure

variable {output : Output State} {perform : Action → State → State}

theorem Fails.run {script : Script Action} (fails : script.Fails) (output : Output State)
    (perform : Action → State → State) (state : State) :
    script.echoes output perform state = [] ∧
      ∃ failure, (script.run output perform state).1 = .error failure := by
  induction script generalizing state with
  | finish root => cases fails
  | fail failure => exact ⟨rfl, failure, rfl⟩
  | echo text next ih => cases fails
  | act action next ih => exact ih fails _

theorem StopsOnFailure.leaves {script : Script Action} (stops : script.StopsOnFailure)
    {state : State} {bytes : Bytes} (leaves : Leaves (script.echoes output perform state) bytes) :
    let lines := (script.echoed output perform state).flatMap fun line => bytesOf (line ++ "\n")
    bytes <+: lines ∧ ∀ root, (script.run output perform state).1 = .ok root → bytes = lines := by
  induction script generalizing state bytes with
  | finish root =>
    cases leaves
    exact ⟨List.prefix_rfl, fun _ _ => rfl⟩
  | fail failure =>
    cases leaves
    exact ⟨List.prefix_rfl, fun _ _ => rfl⟩
  | echo text next ih =>
    obtain ⟨failing, going⟩ := stops
    simp only [echoes, echoed, run, List.flatMap_cons] at leaves ⊢
    generalize output.writeLine text state = written at leaves ⊢
    obtain ⟨outcome, after⟩ := written
    cases leaves with
    | cons sent rest =>
      cases outcome with
      | ok _ =>
        obtain rfl := sent
        obtain ⟨front, whole⟩ := ih _ going rest
        refine ⟨(List.prefix_append_right_inj _).2 front, fun root ran => ?_⟩
        rw [whole root ran]
      | error error =>
        -- no echo comes after the failed one, and no root
        obtain ⟨silent, failure, ended⟩ := (failing error).run output perform after
        rw [silent] at rest
        cases rest
        constructor
        · rw [List.append_nil]
          exact sent.isPrefix.trans (List.prefix_append _ _)
        · intro root ran
          cases ended.symm.trans ran
  | act action next ih => exact ih stops leaves

end Script

theorem Sink.Appends.grows (appends : sink.Appends received)
    (flushes : ∀ state, received (sink.flush state).2 = received state) :
    sink.Changes fun first last => received first <+: received last where
  refl _ := List.prefix_rfl
  trans first second := first.trans second
  write offer state := by
    cases answer : sink.write offer state with
    | mk outcome next =>
      cases outcome with
      | ok count =>
        rw [(appends.taken answer).2]
        exact List.prefix_append _ _
      | error error => exact (appends.refused answer) ▸ List.prefix_rfl
  flush state := (flushes state) ▸ List.prefix_rfl

theorem Between.related {related : State → State → Prop} {perform : Action → State → State}
    (trans : ∀ {first middle last}, related first middle → related middle last →
      related first last)
    (acted : ∀ action state, related state (perform action state)) {first last : State}
    {acts : List (Action × State)} (between : Between related perform first acts last) :
    related first last := by
  induction between with
  | still stretch => exact stretch
  | act stretch rest ih => exact trans (trans stretch (acted _ _)) ih

namespace Script

variable {perform : Action → State → State} {script : Script Action} {start : State}

theorem run_row (appends : sink.Appends received)
    (spared : ∀ action state, received (perform action state) = received state) (capacity : Nat)
    (script : Script Action) (buffer : Buffer State) :
    ∃ bytes,
      Leaves (script.echoes (Buffer.output sink capacity) (Buffer.act perform) buffer) bytes ∧
      (script.run (Buffer.output sink capacity) (Buffer.act perform) buffer).2.row received =
        buffer.row received ++ bytes := by
  let continues (text : Bytes) (next : Buffer State) : Prop :=
    next.row received = buffer.row received ++ text
  have line : ∀ line {text next}, continues text next → ∃ portion,
      Sent (bytesOf (line ++ "\n")) portion
        ((Buffer.output sink capacity).writeLine line next).1 ∧
      continues (text ++ portion) ((Buffer.output sink capacity).writeLine line next).2 := by
    intro line text next row
    have lengthened := Judgement.writeLine_judged (Buffer.lengthens_composes received)
      (Buffer.put_lengthens appends capacity) line next
    obtain ⟨portion, grown, sent⟩ := lengthened.row_eq
    refine ⟨portion, sent, grown.trans ?_⟩
    rw [row, List.append_assoc]
  have begun : continues [] buffer := (List.append_nil _).symm
  refine script.run_leaves line (fun act _ text row => ?_) begun
  exact (congrArg (· ++ act.2.pending.bytes) (spared act.1 act.2.inner)).trans row

theorem received_grows (appends : sink.Appends received)
    (flushes : ∀ state, received (sink.flush state).2 = received state)
    (spared : ∀ action state, received (perform action state) = received state)
    (script : Script Action) (start : State) :
    received start <+: received (renderToSink sink perform script start).state := by
  have changes := appends.grows flushes
  apply (changes.rendering perform script start).related
  · exact changes.trans
  · intro action state
    exact ⟨[], (List.append_nil _).trans (spared action state).symm⟩

theorem text_of_failure {output : Output State} {act : Action → State → State}
    {failure : ScriptFailure} (ran : (script.run output act start).1 = .error failure) :
    script.text output act start =
      (script.echoed output act start).flatMap fun line => bytesOf (line ++ "\n") := by
  simp [text, ran]

theorem text_of_root {output : Output State} {act : Action → State → State} {root : Node}
    (ran : (script.run output act start).1 = .ok root) :
    script.text output act start =
      ((script.echoed output act start).flatMap fun line => bytesOf (line ++ "\n")) ++
        bytesOf root.write := by
  simp [text, ran]

theorem StopsOnFailure.rendered (stops : script.StopsOnFailure) (appends : sink.Appends received)
    (flushes : ∀ state, received (sink.flush state).2 = received state)
    (spared : ∀ action state, received (perform action state) = received state)
    (start : State) :
    let whole := received start ++
      script.text (Buffer.output sink bufferCapacity) (Buffer.act perform) (.start start)
    let done := renderToSink sink perform script start
    received done.state <+: whole ∧ (done.outcome = .ok () → received done.state = whole) := by
  intro whole done
  obtain ⟨bytes, leaves, ran⟩ := script.run_row appends spared bufferCapacity (.start start)
  obtain ⟨front, all⟩ := stops.leaves leaves
  have row : (script.buffered sink perform start).2.row received = received start ++ bytes :=
    ran.trans (congrArg (· ++ bytes) (List.append_nil _))
  rcases renderToSink_cases sink perform script start with ⟨failure, ended, result⟩ |
    ⟨root, ended, result⟩
  · have text : whole = received start ++ _ := congrArg _ (text_of_failure ended)
    rw [text, show done = _ from result]
    refine ⟨(Buffer.close_front appends _).trans ?_, nofun⟩
    rw [row]
    exact (List.prefix_append_right_inj _).2 front
  · -- there is a root, so no echo failed and the row has all the lines
    obtain rfl := all root ended
    have text : whole = received start ++ (_ ++ _) := congrArg _ (text_of_root ended)
    rw [text, show done = _ from result, ← List.append_assoc, ← row]
    exact ⟨compileRoot_front appends flushes root _, compileRoot_sends appends flushes⟩

end Script

theorem compileRoot_compiled (root : Node) (buffer : Buffer State)
    (compiled : .compiled ∈ (compileRoot sink root buffer).log) :
    (compileRoot sink root buffer).outcome = .ok () := by
  rcases compileRoot_cases sink root buffer with ⟨_, _, result⟩ | ⟨_, _, _, result⟩ |
    ⟨_, _, _, _, result⟩ | ⟨_, _, _, result⟩ <;> rw [result] at compiled ⊢
  · simp at compiled
  · simp at compiled
  · simp at compiled

/-- Rendering a script that stops at its first failed echo, to a sink that may fail and
recover at any time. The sink receives a front part of the text of the run, in order and
without repetition, and all of it if rendering succeeds. Once the output has been
flushed nothing is left to be sent, so giving the buffer up makes no call and rendering
succeeds. -/
theorem renderToSink_sends_front {perform : Action → State → State}
    (appends : sink.Appends received)
    (flushes : ∀ state, received (sink.flush state).2 = received state)
    (spared : ∀ action state, received (perform action state) = received state)
    {script : Script Action} (stops : script.StopsOnFailure) (start : State) :
    let output := Buffer.output sink bufferCapacity
    let text := script.text output (Buffer.act perform) (.start start)
    let done := renderToSink sink perform script start
    (∃ sent, received done.state = received start ++ sent ∧ sent <+: text ∧
      (done.outcome = .ok () → sent = text)) ∧
    (∀ buffer, (output.flush buffer).1 = .ok () →
      (output.flush buffer).2.drain sink =
        (.ok (), ⟨.ofBytes [], (output.flush buffer).2.inner⟩)) ∧
    (.compiled ∈ done.log → done.outcome = .ok ()) := by
  intro output text done
  refine ⟨?_, fun buffer => Buffer.drain_of_flushed, ?_⟩
  · obtain ⟨front, whole⟩ := stops.rendered appends flushes spared start
    obtain ⟨sent, appended⟩ := script.received_grows appends flushes spared start
    rw [← appended] at front whole
    exact ⟨sent, appended.symm, (List.prefix_append_right_inj _).1 front,
      fun success => List.append_cancel_left (whole success)⟩
  · rcases renderToSink_cases sink perform script start with ⟨_, _, result⟩ | ⟨root, _, result⟩ <;>
      rw [show done = _ from result]
    · intro compiled
      cases compiled
    · exact compileRoot_compiled root _

/-- A sink that refuses a number of offers and takes everything after them. -/
def Sink.faltering : Sink (Nat × Bytes) where
  write offer state :=
    match state.1 with
    | 0 => (.ok offer.length, (0, state.2 ++ offer))
    | left + 1 => (.error (.raised "Other" "busy"), (left, state.2))
  flush state := (.ok (), state)

theorem Sink.faltering_appends : Sink.faltering.Appends Prod.snd where
  taken {offer state count next} answer := by
    obtain ⟨left, held⟩ := state
    cases left <;> cases answer
    exact ⟨Nat.le_refl _, by rw [List.take_length]⟩
  refused {offer state error next} answer := by
    obtain ⟨left, held⟩ := state
    cases left <;> cases answer
    rfl

/-- A sink that refuses the first offer fails the rendering, and has the whole text when
the buffer has been given up. -/
theorem renderToSink_sends_front_late :
    let script : Script Empty := .line "// ball" (.finish (Primitive.sphere (.bool true)).node)
    let done := renderToSink Sink.faltering (fun _ state => state) script (1, [])
    done.outcome.isOk = false ∧ done.state.2 = bytesOf "// ball\nsphere(r=true);\n" ∧
      done.state.2 <+: script.text (Buffer.output Sink.faltering bufferCapacity)
        (Buffer.act fun _ state => state) (.start (1, [])) := by
  intro script done
  have stops : script.StopsOnFailure := ⟨fun _ => trivial, trivial⟩
  obtain ⟨⟨sent, appended, front, _⟩, _, _⟩ :=
    renderToSink_sends_front Sink.faltering_appends (fun _ => rfl) (fun _ _ => rfl) stops (1, [])
  refine ⟨by decide +kernel, by decide +kernel, ?_⟩
  exact appended ▸ front

end SolidScene
