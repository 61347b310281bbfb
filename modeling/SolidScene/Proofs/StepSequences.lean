import SolidScene.Proofs.LimitedSinks

/-!
Steps performed straight on a sink, whether or not earlier ones failed. With nothing
in between, a sink with limited room holds at any time the front part it has room for
of the text of all steps so far, wherever a failed step was cut. A step that writes
fails exactly when the text up to its end does not fit, so from the first such failure
on every step that writes fails and adds nothing.
-/

namespace SolidScene

variable {State : Type} {sink : Sink State} {received : State → Bytes} {capacity : Capacity}

def Judgement.Sends (received : State → Bytes) : Judgement State :=
  fun bytes start outcome last =>
    ∃ sent, received last = received start ++ sent ∧ Sent bytes sent outcome

namespace Judgement

theorem sends_composes (received : State → Bytes) : (Sends received).Composes where
  empty state := ⟨[], (List.append_nil _).symm, rfl⟩
  next {first rest start middle outcome last} := by
    rintro ⟨sent, appended, rfl⟩ ⟨later, nextAppended, known⟩
    refine ⟨sent ++ later, ?_, known.after sent⟩
    rw [nextAppended, appended, List.append_assoc]
  stop {first start error last} rest := by
    rintro ⟨sent, appended, known⟩
    exact ⟨sent, appended, known.failing rest⟩

end Judgement

theorem Judgement.Sends.kept {text bytes : Bytes} {start last : State}
    {outcome : Except OutputError Unit} (sends : Judgement.Sends received bytes start outcome last)
    (confined : capacity.Confines received bytes start outcome last) (nonempty : bytes ≠ [])
    (held : received start = capacity.kept text) :
    received last = capacity.kept (text ++ bytes) ∧
      (outcome = .ok () ↔ capacity.Fits (text ++ bytes)) := by
  obtain ⟨sent, appended, known⟩ := sends
  obtain ⟨fits, ends⟩ := confined (held ▸ capacity.fits_kept text)
  by_cases whole : capacity.Fits text
  · rw [Capacity.kept_of_fits whole] at held
    rw [held] at appended
    cases outcome with
    | ok _ =>
      obtain rfl : sent = bytes := known
      rw [appended] at fits ⊢
      exact ⟨(Capacity.kept_of_fits fits).symm, iff_of_true rfl fits⟩
    | error error =>
      -- the sink is full, and what the attempt left out does not fit
      obtain ⟨missed, missing, rfl⟩ := known
      have full := ends.resolve_left nofun
      have split : text ++ (sent ++ missed) = received last ++ missed := by
        rw [appended, List.append_assoc]
      rw [split]
      exact ⟨(Capacity.kept_of_full missed fits full).symm,
        iff_of_false nofun (Capacity.not_fits_of_full full missing)⟩
  · -- a sink that is full of the text so far takes nothing
    rw [appended, held] at fits
    obtain rfl := Buffer.nothing_sent whole fits
    rw [appended, held, List.append_nil, Capacity.kept_append whole]
    refine ⟨rfl, iff_of_false (fun success => nonempty ?_) fun longer => ?_⟩
    · exact (known.ok_iff.1 success).symm
    · exact whole (Capacity.fits_of_append longer)

theorem Sink.Limited.direct_sends (limited : sink.Limited received capacity) (bytes : Bytes)
    (state : State) :
    Judgement.Sends received bytes state (sink.direct.put bytes state).1
      (sink.direct.put bytes state).2 :=
  limited.toAppends.direct_sends bytes state

theorem Sink.Limited.direct_confined (limited : sink.Limited received capacity) (bytes : Bytes)
    (state : State) :
    capacity.Confines received bytes state (sink.direct.put bytes state).1
      (sink.direct.put bytes state).2 :=
  Judgement.direct_judged (capacity.confines_composes received) (limited.confines_offers .stalled)
    bytes state

namespace Output

namespace Step

def text : Step → Bytes
  | .line words => bytesOf (words ++ "\n")
  | .node root => bytesOf root.write
  | .flush => []

def writes : Step → Bool
  | .flush => false
  | _ => true

end Step

/-- A step as it was performed: the state it found, how it ended and the state it left. -/
structure Performed (State : Type) where
  step : Step
  before : State
  outcome : Except OutputError Unit
  after : State

/-- The steps of a run as they are performed, each in the state the one before left. -/
def course (output : Output State) : List Step → State → List (Performed State)
  | [], _ => []
  | first :: rest, state =>
    ⟨first, state, (output.perform first state).1, (output.perform first state).2⟩ ::
      course output rest (output.perform first state).2

def courseText (done : List (Performed State)) : Bytes :=
  done.flatMap (·.step.text)

theorem courseText_snoc (done : List (Performed State)) (last : Performed State) :
    courseText (done ++ [last]) = courseText done ++ last.step.text := by
  simp [courseText]

theorem course_steps (output : Output State) (steps : List Step) (state : State) :
    (output.course steps state).map Performed.step = steps := by
  induction steps generalizing state with
  | nil => rfl
  | cons first rest ih => exact congrArg (first :: ·) (ih _)

theorem performAll_eq_course (output : Output State) (steps : List Step) (state : State) :
    output.performAll steps state =
      ((output.course steps state).map Performed.outcome,
        ((output.course steps state).map Performed.after).getLastD state) := by
  induction steps generalizing state with
  | nil => rfl
  | cons first rest ih =>
    rw [performAll, course, List.map_cons, List.map_cons, List.getLastD_cons]
    simp only [ih]

theorem perform_limited (limited : sink.Limited received capacity) (step : Step) {text : Bytes}
    {state : State} (held : received state = capacity.kept text) :
    received (sink.direct.perform step state).2 = capacity.kept (text ++ step.text) ∧
      (step.writes = true →
        ((sink.direct.perform step state).1 = .ok () ↔ capacity.Fits (text ++ step.text))) := by
  have sends := Judgement.sends_composes received
  have confines := capacity.confines_composes received
  cases step with
  | line words =>
    -- a line has at least its end, so it cannot fit without being written
    have ended : bytesOf (words ++ "\n") ≠ [] := by
      rw [bytesOf_append]
      exact List.append_ne_nil_of_right_ne_nil _ (by decide)
    obtain ⟨kept, ends⟩ := Judgement.Sends.kept
      (Judgement.writeLine_judged sends limited.direct_sends words state)
      (Judgement.writeLine_judged confines limited.direct_confined words state) ended held
    exact ⟨kept, fun _ => ends⟩
  | node root =>
    obtain ⟨kept, ends⟩ := Judgement.Sends.kept
      (Judgement.writeNode_judged sends limited.direct_sends root state)
      (Judgement.writeNode_judged confines limited.direct_confined root state)
      root.write_bytes_nonempty held
    exact ⟨kept, fun _ => ends⟩
  | flush =>
    rw [Step.text, List.append_nil]
    exact ⟨(limited.flushes state).trans held, nofun⟩

theorem course_limited (limited : sink.Limited received capacity) {steps : List Step}
    {text : Bytes} {state : State} (held : received state = capacity.kept text)
    {earlier later : List (Performed State)} {done : Performed State}
    (split : sink.direct.course steps state = earlier ++ done :: later) :
    received done.before = capacity.kept (text ++ courseText earlier) ∧
      (done.outcome, done.after) = sink.direct.perform done.step done.before := by
  induction steps generalizing text state earlier with
  | nil => exact absurd split.symm (List.append_ne_nil_of_right_ne_nil _ nofun)
  | cons first rest ih =>
    rw [course] at split
    cases earlier with
    | nil =>
      obtain ⟨rfl, rfl⟩ := List.cons.inj split
      rw [courseText, List.flatMap_nil, List.append_nil]
      exact ⟨held, rfl⟩
    | cons other earlier =>
      obtain ⟨rfl, tail⟩ := List.cons.inj split
      have found := ih (perform_limited limited first held).1 tail
      rwa [List.append_assoc] at found

section Course

variable {steps : List Step} {start : State} {earlier later : List (Performed State)}
  {done : Performed State}

theorem course_step_limited (limited : sink.Limited received capacity)
    (begun : received start = capacity.kept [])
    (split : sink.direct.course steps start = earlier ++ done :: later) :
    received done.before = capacity.kept (courseText earlier) ∧
      received done.after = capacity.kept (courseText (earlier ++ [done])) ∧
      (done.step.writes = true →
        (done.outcome = .ok () ↔ capacity.Fits (courseText (earlier ++ [done])))) := by
  obtain ⟨before, performed⟩ := course_limited limited begun split
  obtain ⟨after, ends⟩ := perform_limited limited done.step before
  rw [← performed, List.nil_append, ← courseText_snoc] at after ends
  exact ⟨before, after, ends⟩

theorem not_fits_of_failed (limited : sink.Limited received capacity)
    (begun : received start = capacity.kept [])
    (split : sink.direct.course steps start = earlier ++ done :: later) {failed : Performed State}
    (member : failed ∈ earlier) (writes : failed.step.writes = true)
    (failure : failed.outcome ≠ .ok ()) : ¬ capacity.Fits (courseText earlier) := by
  obtain ⟨sooner, between, rfl⟩ := List.append_of_mem member
  obtain ⟨_, _, ends⟩ :=
    course_step_limited limited begun (split.trans (List.append_assoc _ _ _))
  -- if all of the text fitted, so would the part of it up to the failed step
  intro fits
  have longer : capacity.Fits (courseText (sooner ++ [failed]) ++ courseText between) := by
    simpa [courseText] using fits
  exact failure ((ends writes).2 (Capacity.fits_of_append longer))

end Course

/-- Steps on a sink with limited room, all performed whether or not earlier ones failed.
After each the sink holds the front part it has room for of the text of all so far. A
step that writes succeeds exactly when the text up to its end fits, and a flush ends as
the sink lets it. After a step that writes has failed, every other one fails too, and no
step adds a byte. -/
theorem performAll_limited (limited : sink.Limited received capacity) (steps : List Step)
    {start : State} (empty : received start = []) :
    let course := sink.direct.course steps start
    course.map Performed.step = steps ∧
    sink.direct.performAll steps start =
      (course.map Performed.outcome, (course.map Performed.after).getLastD start) ∧
    ∀ earlier done later, course = earlier ++ done :: later →
      let text := courseText (earlier ++ [done])
      received done.after = capacity.kept text ∧
      (done.step.writes = true → (done.outcome = .ok () ↔ capacity.Fits text)) ∧
      (done.step = .flush → (done.outcome, done.after) = sink.flush done.before) ∧
      ∀ failed ∈ earlier, failed.step.writes = true → failed.outcome ≠ .ok () →
        (done.step.writes = true → done.outcome ≠ .ok ()) ∧
        received done.after = received done.before := by
  intro course
  have begun : received start = capacity.kept [] := by
    have nothing : capacity.Fits [] := fun most _ => Nat.zero_le most
    rw [empty, Capacity.kept_of_fits nothing]
  refine ⟨course_steps _ steps start, performAll_eq_course _ steps start, ?_⟩
  intro earlier done later split
  obtain ⟨before, after, ends⟩ := course_step_limited limited begun split
  refine ⟨after, ends, fun flush => ?_, fun failed member writes failure => ?_⟩
  · rw [(course_limited limited begun split).2, flush]
    rfl
  · have exceeds := not_fits_of_failed limited begun split member writes failure
    rw [courseText_snoc] at after ends
    refine ⟨fun also success => exceeds (Capacity.fits_of_append ((ends also).1 success)), ?_⟩
    rw [after, before, Capacity.kept_append exceeds]

/-- A sink with room for four bytes, which takes three at a time, stalls when it is full
and refuses to flush. The second line is cut inside its first character, and the
command after it fails although it is shorter than the line that fits. -/
theorem performAll_limited_room_for_four :
    let limits : Limits :=
      { capacity := some 4, chunk := some 3, stallsWhenFull := true, refusesFlush := true }
    let steps : List Step :=
      [.line "é", .flush, .line "é", .node (Node.raw ""), .flush]
    let done := limits.sink.direct.performAll steps .empty
    done.1.map (·.isOk) = [true, false, false, false, false] ∧
      done.2.bytes = [0xc3, 0xa9, 0x0a, 0xc3] ∧
      ∃ course : List (Performed Memory), course.map Performed.step = steps ∧
        done.1 = course.map Performed.outcome ∧
        ∀ earlier done later, course = earlier ++ done :: later →
          done.after.bytes = (courseText (earlier ++ [done])).take 4 := by
  intro limits steps done
  obtain ⟨same, ran, held⟩ :=
    performAll_limited (limits.sink_limited (by decide)) steps Memory.bytes_empty
  refine ⟨by decide +kernel, by decide +kernel, _, same, congrArg Prod.fst ran, ?_⟩
  exact fun earlier done later split => (held earlier done later split).1

end Output

end SolidScene
