import SolidScene.Proofs.LimitedSinks

/-!
Runs of scripts, told as what they echo and what they do. The echoes of a run leave
bytes behind: the line where an echo succeeded, and a part of it where it failed.
Between one action and the next the state changes only by echoes, so what a relation
says of every echo it says of every stretch between actions.
-/

namespace SolidScene

variable {Action State : Type}

namespace Script

def echoes (output : Output State) (perform : Action → State → State) :
    Script Action → State → List (String × Except OutputError Unit)
  | .finish _, _ => []
  | .fail _, _ => []
  | .echo text next, state =>
    (text, (output.writeLine text state).1) ::
      echoes output perform (next (output.writeLine text state).1) (output.writeLine text state).2
  | .act action next, state => echoes output perform next (perform action state)

def acts (output : Output State) (perform : Action → State → State) :
    Script Action → State → List (Action × State)
  | .finish _, _ => []
  | .fail _, _ => []
  | .echo text next, state =>
    acts output perform (next (output.writeLine text state).1) (output.writeLine text state).2
  | .act action next, state => (action, state) :: acts output perform next (perform action state)

/-- What is left behind by echoes: the line where an echo succeeded, and a front part
of it that is not the whole where it failed. -/
inductive Leaves : List (String × Except OutputError Unit) → Bytes → Prop where
  | nil : Leaves [] []
  | cons {line outcome portion echoes later} (sent : Sent (bytesOf (line ++ "\n")) portion outcome)
      (rest : Leaves echoes later) : Leaves ((line, outcome) :: echoes) (portion ++ later)

theorem Leaves.lines {echoes : List (String × Except OutputError Unit)} {bytes : Bytes}
    (leaves : Leaves echoes bytes) (fine : ∀ echo ∈ echoes, echo.2 = .ok ()) :
    bytes = (echoes.map Prod.fst).flatMap fun line => bytesOf (line ++ "\n") := by
  induction leaves with
  | nil => rfl
  | cons sent rest ih =>
    have success := fine _ List.mem_cons_self
    rw [sent.ok_iff.1 success, ih fun echo member => fine echo (List.mem_cons_of_mem _ member)]
    rfl

theorem echoed_eq_map (output : Output State) (perform : Action → State → State)
    (script : Script Action) (state : State) :
    script.echoed output perform state = (script.echoes output perform state).map Prod.fst := by
  induction script generalizing state with
  | finish root => rfl
  | fail failure => rfl
  | echo line next ih => exact congrArg (line :: ·) (ih _ _)
  | act action next ih => exact ih _

/-- What holds of a text and a state holds at the end of the text with what the echoes
left, if each line that is echoed moves it on and the actions leave it as it is. -/
theorem run_leaves {output : Output State} {perform : Action → State → State}
    {holds : Bytes → State → Prop}
    (line : ∀ line {text state}, holds text state → ∃ portion,
      Sent (bytesOf (line ++ "\n")) portion (output.writeLine line state).1 ∧
        holds (text ++ portion) (output.writeLine line state).2)
    (script : Script Action) {text : Bytes} {state : State}
    (spared : ∀ act ∈ script.acts output perform state, ∀ text, holds text act.2 →
      holds text (perform act.1 act.2))
    (start : holds text state) :
    ∃ bytes, Leaves (script.echoes output perform state) bytes ∧
      holds (text ++ bytes) (script.run output perform state).2 := by
  induction script generalizing text state with
  | finish root => exact ⟨[], .nil, by rwa [List.append_nil]⟩
  | fail failure => exact ⟨[], .nil, by rwa [List.append_nil]⟩
  | echo words next ih =>
    obtain ⟨portion, sent, moved⟩ := line words start
    obtain ⟨later, leaves, kept⟩ := ih _ spared moved
    refine ⟨portion ++ later, .cons sent leaves, ?_⟩
    rwa [← List.append_assoc]
  | act action next ih =>
    exact ih (fun act member => spared act (List.mem_cons_of_mem _ member))
      (spared _ List.mem_cons_self _ start)

end Script

/-- From a first state to a last one by actions, each in the state it is listed with,
and a relation holding of every stretch without an action. -/
inductive Between (related : State → State → Prop) (perform : Action → State → State) :
    State → List (Action × State) → State → Prop where
  | still {first last} (stretch : related first last) : Between related perform first [] last
  | act {first before last action acts} (stretch : related first before)
      (rest : Between related perform (perform action before) acts last) :
      Between related perform first ((action, before) :: acts) last

namespace Between

variable {related : State → State → Prop} {perform : Action → State → State}
  {first middle last : State} {acts : List (Action × State)}

theorem before (trans : ∀ {first middle last}, related first middle → related middle last →
      related first last)
    (stretch : related first middle) (between : Between related perform middle acts last) :
    Between related perform first acts last := by
  cases between with
  | still later => exact .still (trans stretch later)
  | act later rest => exact .act (trans stretch later) rest

theorem after (trans : ∀ {first middle last}, related first middle → related middle last →
      related first last)
    (between : Between related perform first acts middle) (stretch : related middle last) :
    Between related perform first acts last := by
  induction between with
  | still earlier => exact .still (trans earlier stretch)
  | act earlier rest ih => exact .act earlier (ih stretch)

theorem viewed {View : Type} {seen : View → View → Prop} {performed : Action → View → View}
    (view : State → View) (known : State → Prop)
    (same : ∀ action state, view (perform action state) = performed action (view state))
    (stretch : ∀ {first last}, known first → related first last →
      seen (view first) (view last) ∧ known last)
    (acted : ∀ action {state}, known state → known (perform action state))
    (start : known first) (between : Between related perform first acts last) :
    Between seen performed (view first) (acts.map fun act => (act.1, view act.2)) (view last) := by
  induction between with
  | still only => exact .still (stretch start only).1
  | act earlier rest ih =>
    obtain ⟨stays, there⟩ := stretch start earlier
    refine .act stays ?_
    rw [← same]
    exact ih (acted _ there)

end Between

/-! A rendering is a run of the script against the buffer, and the compilation of the
root if there is one. -/

section Rendering

variable (sink : Sink State) (perform : Action → State → State) (script : Script Action)
  (state : State)

def Buffer.act (perform : Action → State → State) (action : Action) (buffer : Buffer State) :
    Buffer State :=
  { buffer with inner := perform action buffer.inner }

def Script.buffered : Except ScriptFailure Node × Buffer State :=
  script.run (Buffer.output sink bufferCapacity) (Buffer.act perform) (.start state)

theorem renderToSink_cases :
    (∃ failure, (script.buffered sink perform state).1 = .error failure ∧
        renderToSink sink perform script state =
          ⟨.error (.script failure), [], (script.buffered sink perform state).2.close sink⟩) ∨
      ∃ root, (script.buffered sink perform state).1 = .ok root ∧
        renderToSink sink perform script state =
          compileRoot sink root (script.buffered sink perform state).2 := by
  unfold renderToSink Script.buffered Buffer.act
  dsimp only
  generalize script.run _ _ _ = ran
  obtain ⟨outcome, buffer⟩ := ran
  cases outcome with
  | error failure => exact .inl ⟨failure, rfl, rfl⟩
  | ok root => exact .inr ⟨root, rfl, rfl⟩

end Rendering

namespace Sink.Changes

variable {sink : Sink State} {related : State → State → Prop}

theorem run (changes : sink.Changes related) (perform : Action → State → State)
    (script : Script Action) (buffer : Buffer State) :
    Between related perform buffer.inner
      ((script.acts (Buffer.output sink bufferCapacity) (Buffer.act perform) buffer).map
        fun act => (act.1, act.2.inner))
      (script.run (Buffer.output sink bufferCapacity) (Buffer.act perform) buffer).2.inner := by
  induction script generalizing buffer with
  | finish root => exact .still (changes.refl _)
  | fail failure => exact .still (changes.refl _)
  | echo line next ih =>
    exact (ih _ _).before changes.trans (changes.writeLine bufferCapacity line buffer)
  | act action next ih => exact .act (changes.refl _) (ih (buffer.act perform action))

theorem rendering (changes : sink.Changes related) (perform : Action → State → State)
    (script : Script Action) (state : State) :
    Between related perform state
      ((script.acts (Buffer.output sink bufferCapacity) (Buffer.act perform) (.start state)).map
        fun act => (act.1, act.2.inner))
      (renderToSink sink perform script state).state := by
  refine (changes.run perform script (.start state)).after changes.trans ?_
  rcases renderToSink_cases sink perform script state with ⟨_, _, result⟩ | ⟨root, _, result⟩ <;>
    rw [result]
  · exact changes.close _
  · exact changes.compileRoot root _

end Sink.Changes

end SolidScene
