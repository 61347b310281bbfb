import SolidScene.Output

/-!
What carries over from single offers to whole texts. A judgement of attempts that
composes, success after success and failure at the end, holds of a delivery when
it holds of every offer, and of lines and nodes when it holds of every piece.
Faithful sinks append the bytes they take and change nothing when they refuse, so
a delivery appends some front part of its bytes, and all of them on success.

Nodes streamed to a sink, call by call. A logged sink behaves as the sink itself
and keeps every offer with its answer. Whatever the sink answers and whenever it
refuses, what it receives is a front part of the text of the node, the whole text
exactly on success, and the log ends with the first call that failed.
-/

namespace SolidScene

section

theorem bytesOf_ofList (chars : List Char) :
    bytesOf (String.ofList chars) = chars.flatMap String.utf8EncodeChar := by
  rw [bytesOf, String.toUTF8_eq_toByteArray, String.toByteArray_ofList]
  exact List.toList_data_toByteArray

theorem bytesOf_append (left right : String) :
    bytesOf (left ++ right) = bytesOf left ++ bytesOf right := by
  simp [bytesOf]

variable {State : Type}

/-- Relates the bytes of an attempt and the state before it to how the attempt
ended and the state after it. -/
abbrev Judgement (State : Type) :=
  Bytes → State → Except OutputError Unit → State → Prop

namespace Judgement

/-- A judgement of parts that carries over to the whole. After a failure no part
is attempted, whatever the remaining bytes are. -/
structure Composes (judged : Judgement State) : Prop where
  empty : ∀ state, judged [] state (.ok ()) state
  next : ∀ {first rest start middle outcome last}, judged first start (.ok ()) middle →
    judged rest middle outcome last → judged (first ++ rest) start outcome last
  stop : ∀ {first start error last} rest, judged first start (.error error) last →
    judged (first ++ rest) start (.error error) last

structure Offers (judged : Judgement State) (sink : Sink State) (stall : OutputError) :
    Prop where
  taken : ∀ {offer state count next}, offer ≠ [] →
    sink.write offer state = (.ok (count + 1), next) →
    judged (offer.take (count + 1)) state (.ok ()) next
  stalled : ∀ {offer state next}, offer ≠ [] → sink.write offer state = (.ok 0, next) →
    judged offer state (.error stall) next
  refused : ∀ {offer state error next}, offer ≠ [] →
    sink.write offer state = (.error error, next) → judged offer state (.error error) next

theorem deliver_judged {judged : Judgement State} {sink : Sink State} {stall : OutputError}
    (composes : judged.Composes) (offers : judged.Offers sink stall) (bytes : Bytes)
    (state : State) :
    judged bytes state (sink.deliver stall bytes state).1 (sink.deliver stall bytes state).2.2 := by
  fun_induction Sink.deliver sink stall bytes state with
  | case1 state => exact composes.empty state
  | case2 bytes state nonempty error next answer => exact offers.refused nonempty answer
  | case3 bytes state nonempty next answer => exact offers.stalled nonempty answer
  | case4 bytes state nonempty taken next answer ih =>
    -- what was taken and what is offered next make up the bytes
    have whole := composes.next (offers.taken nonempty answer) ih
    rwa [List.take_append_drop] at whole

theorem direct_judged {judged : Judgement State} {sink : Sink State}
    (composes : judged.Composes) (offers : judged.Offers sink .stalled) (bytes : Bytes)
    (state : State) :
    judged bytes state (sink.direct.put bytes state).1 (sink.direct.put bytes state).2 :=
  deliver_judged composes offers bytes state

theorem putAll_judged {judged : Judgement State} {output : Output State}
    (composes : judged.Composes)
    (puts : ∀ bytes state, judged bytes state (output.put bytes state).1 (output.put bytes state).2)
    (pieces : List String) (state : State) :
    judged (bytesOf (String.join pieces)) state (output.putAll pieces state).1
      (output.putAll pieces state).2 := by
  induction pieces generalizing state with
  | nil => exact composes.empty state
  | cons first rest ih =>
    have here := puts (bytesOf first) state
    rw [String.join_cons, bytesOf_append, Output.putAll]
    split
    case h_1 error next answer =>
      rw [answer] at here
      exact composes.stop _ here
    case h_2 next answer =>
      rw [answer] at here
      exact composes.next here (ih next)

theorem writeLine_judged {judged : Judgement State} {output : Output State}
    (composes : judged.Composes)
    (puts : ∀ bytes state, judged bytes state (output.put bytes state).1 (output.put bytes state).2)
    (line : String) (state : State) :
    judged (bytesOf (line ++ "\n")) state (output.writeLine line state).1
      (output.writeLine line state).2 := by
  have whole := putAll_judged composes puts [line, "\n"] state
  rwa [String.join_cons, String.join_cons, String.join_nil, String.append_empty] at whole

theorem writeNode_judged {judged : Judgement State} {output : Output State}
    (composes : judged.Composes)
    (puts : ∀ bytes state, judged bytes state (output.put bytes state).1 (output.put bytes state).2)
    (node : Node) (state : State) :
    judged (bytesOf node.write) state (output.writeNode node state).1
      (output.writeNode node state).2 := by
  have whole := putAll_judged composes puts node.pieces state
  rwa [Node.join_pieces] at whole

end Judgement

/-- A success sends all bytes, and a failure stops before the last one. -/
def Sent (bytes sent : Bytes) : Except OutputError Unit → Prop
  | .ok _ => sent = bytes
  | .error _ => ∃ rest, rest ≠ [] ∧ sent ++ rest = bytes

theorem Sent.isPrefix {bytes sent : Bytes} {outcome : Except OutputError Unit}
    (known : Sent bytes sent outcome) : sent <+: bytes := by
  cases outcome with
  | ok _ =>
    obtain rfl : sent = bytes := known
    exact List.prefix_rfl
  | error error =>
    obtain ⟨rest, _, whole⟩ := known
    exact ⟨rest, whole⟩

theorem Sent.ok_iff {bytes sent : Bytes} {outcome : Except OutputError Unit}
    (known : Sent bytes sent outcome) : outcome = .ok () ↔ sent = bytes := by
  cases outcome with
  | ok _ => exact iff_of_true rfl known
  | error error =>
    obtain ⟨rest, missing, whole⟩ := known
    refine iff_of_false nofun fun same => missing ?_
    rwa [same, List.append_right_eq_self] at whole

theorem Sent.after {bytes sent : Bytes} {outcome : Except OutputError Unit}
    (earlier : Bytes) (known : Sent bytes sent outcome) :
    Sent (earlier ++ bytes) (earlier ++ sent) outcome := by
  cases outcome with
  | ok _ => exact congrArg (earlier ++ ·) known
  | error error =>
    obtain ⟨rest, missing, whole⟩ := known
    exact ⟨rest, missing, by rw [List.append_assoc, whole]⟩

theorem Sent.failing {bytes sent : Bytes} {error : OutputError} (rest : Bytes)
    (known : Sent bytes sent (.error error)) : Sent (bytes ++ rest) sent (.error error) := by
  obtain ⟨missed, missing, whole⟩ := known
  refine ⟨missed ++ rest, ?_, ?_⟩
  · exact fun nothing => missing (List.append_eq_nil_iff.1 nothing).1
  · rw [← List.append_assoc, whole]

namespace Sink

/-- A sink that appends the bytes it takes to those it has received and leaves
them as they are when it refuses. When and how often it refuses is open. -/
structure Appends (sink : Sink State) (received : State → Bytes) : Prop where
  taken : ∀ {offer state count next}, sink.write offer state = (.ok count, next) →
    count ≤ offer.length ∧ received next = received state ++ offer.take count
  refused : ∀ {offer state error next}, sink.write offer state = (.error error, next) →
    received next = received state

theorem Appends.deliver_taken {sink : Sink State} {received : State → Bytes}
    (appends : sink.Appends received) (stall : OutputError) (bytes : Bytes) (state : State) :
    ∃ taken, taken ++ (sink.deliver stall bytes state).2.1 = bytes ∧
      received (sink.deliver stall bytes state).2.2 = received state ++ taken ∧
      ((sink.deliver stall bytes state).1 = .ok () ↔
        (sink.deliver stall bytes state).2.1 = []) := by
  fun_induction Sink.deliver sink stall bytes state with
  | case1 state => exact ⟨[], rfl, (List.append_nil _).symm, iff_of_true rfl rfl⟩
  | case2 bytes state nonempty error next answer =>
    exact ⟨[], rfl, by rw [appends.refused answer, List.append_nil],
      iff_of_false nofun nonempty⟩
  | case3 bytes state nonempty next answer =>
    refine ⟨[], rfl, ?_, iff_of_false nofun nonempty⟩
    rw [(appends.taken answer).2, List.take_zero]
  | case4 bytes state nonempty taken next answer ih =>
    obtain ⟨later, whole, appended, ends⟩ := ih
    refine ⟨bytes.take (taken + 1) ++ later, ?_, ?_, ends⟩
    · rw [List.append_assoc, whole, List.take_append_drop]
    · rw [appended, (appends.taken answer).2, List.append_assoc]

theorem Appends.direct_sends {sink : Sink State} {received : State → Bytes}
    (appends : sink.Appends received) (bytes : Bytes) (state : State) :
    ∃ sent, received (sink.direct.put bytes state).2 = received state ++ sent ∧
      Sent bytes sent (sink.direct.put bytes state).1 := by
  obtain ⟨sent, whole, appended, ends⟩ := appends.deliver_taken .stalled bytes state
  refine ⟨sent, appended, ?_⟩
  change Sent bytes sent (sink.deliver .stalled bytes state).1
  generalize (sink.deliver .stalled bytes state).1 = outcome at ends
  cases outcome with
  | ok _ => exact (List.append_nil sent).symm.trans (ends.1 rfl ▸ whole)
  | error error =>
    refine ⟨_, ?_, whole⟩
    exact fun nothing => nomatch ends.2 nothing

end Sink

theorem Memory.sink_appends : Memory.sink.Appends Memory.bytes where
  taken answer := by
    cases answer
    exact ⟨Nat.le_refl _, by rw [Memory.bytes_add, List.take_length]⟩
  refused answer := by cases answer

theorem Limits.portion_eq_take (limits : Limits) (held : Nat) (offer : Bytes) :
    limits.portion held offer = offer.take (limits.portion held offer).length := by
  unfold portion
  split
  · rw [List.take_length]
  · rw [List.length_take]
    exact List.take_eq_take_min

theorem Limits.sink_appends (limits : Limits) : limits.sink.Appends Memory.bytes where
  taken {offer state count next} answer := by
    unfold sink at answer
    dsimp only at answer
    split at answer
    · rw [Prod.mk.injEq] at answer
      obtain ⟨stalls, rfl⟩ := answer
      split at stalls <;> cases stalls
      exact ⟨Nat.zero_le _, by rw [List.take_zero, List.append_nil]⟩
    · cases answer
      rw [Memory.bytes_add, ← portion_eq_take]
      refine ⟨?_, rfl⟩
      rw [portion_eq_take, List.length_take]
      exact Nat.min_le_right _ _
  refused {offer state error next} answer := by
    unfold sink at answer
    dsimp only at answer
    split at answer
    · rw [Prod.mk.injEq] at answer
      rw [← answer.2]
    · cases answer

end

section

structure Call where
  offer : Bytes
  answer : Except OutputError Nat

/-- The error a call ends with, if it fails: the one the sink gave, or a stall
when the sink took nothing of a nonempty offer. -/
def Call.failure? (call : Call) : Option OutputError :=
  match call.answer with
  | .error error => some error
  | .ok count => if count = 0 ∧ call.offer ≠ [] then some .stalled else none

variable {State : Type}

def Sink.logged (sink : Sink State) : Sink (State × List Call) where
  write offer state :=
    ((sink.write offer state.1).1,
      ((sink.write offer state.1).2, state.2 ++ [⟨offer, (sink.write offer state.1).1⟩]))
  flush state := ((sink.flush state.1).1, ((sink.flush state.1).2, state.2))

/-! Logging changes neither how an attempt ends nor the state of the sink. -/

theorem Sink.deliver_logged (sink : Sink State) (stall : OutputError) (bytes : Bytes)
    (state : State) (log : List Call) :
    (sink.logged.deliver stall bytes (state, log)).1 = (sink.deliver stall bytes state).1 ∧
      (sink.logged.deliver stall bytes (state, log)).2.2.1 =
        (sink.deliver stall bytes state).2.2 := by
  fun_induction Sink.deliver sink stall bytes state generalizing log with
  | case1 state =>
    rw [deliver, if_pos rfl]
    exact ⟨rfl, rfl⟩
  | case2 bytes state nonempty error next answer =>
    rw [deliver, if_neg nonempty]
    simp only [logged, answer, and_self]
  | case3 bytes state nonempty next answer =>
    rw [deliver, if_neg nonempty]
    simp only [logged, answer, and_self]
  | case4 bytes state nonempty taken next answer ih =>
    rw [deliver, if_neg nonempty]
    simp only [logged, answer]
    exact ih _

theorem Output.putAll_view {Other : Type} {output : Output State} {plain : Output Other}
    (view : State → Other)
    (same : ∀ bytes state, (output.put bytes state).1 = (plain.put bytes (view state)).1 ∧
      view (output.put bytes state).2 = (plain.put bytes (view state)).2)
    (pieces : List String) (state : State) :
    (output.putAll pieces state).1 = (plain.putAll pieces (view state)).1 ∧
      view (output.putAll pieces state).2 = (plain.putAll pieces (view state)).2 := by
  induction pieces generalizing state with
  | nil => exact ⟨rfl, rfl⟩
  | cons first rest ih =>
    obtain ⟨outcomes, states⟩ := same (bytesOf first) state
    rw [putAll, putAll]
    split
    case h_1 error next answer =>
      rw [answer] at outcomes states
      split
      case h_1 other after plainAnswer =>
        rw [plainAnswer] at outcomes states
        exact ⟨outcomes, states⟩
      case h_2 after plainAnswer =>
        rw [plainAnswer] at outcomes
        cases outcomes
    case h_2 next answer =>
      rw [answer] at outcomes states
      split
      case h_1 other after plainAnswer =>
        rw [plainAnswer] at outcomes
        cases outcomes
      case h_2 after plainAnswer =>
        rw [plainAnswer] at states
        rw [← show view next = after from states]
        exact ih next

theorem Sink.writeNode_logged (sink : Sink State) (node : Node) (state : State)
    (log : List Call) :
    (sink.logged.direct.writeNode node (state, log)).1 = (sink.direct.writeNode node state).1 ∧
      (sink.logged.direct.writeNode node (state, log)).2.1 =
        (sink.direct.writeNode node state).2 :=
  Output.putAll_view Prod.fst
    (fun bytes start => sink.deliver_logged .stalled bytes start.1 start.2) node.pieces (state, log)

/-- All calls succeed, or the last one is the first to fail and gives its error. -/
def EndsAtFailure (calls : List Call) : Except OutputError Unit → Prop
  | .ok _ => ∀ call ∈ calls, call.failure? = none
  | .error error => ∃ earlier last, calls = earlier ++ [last] ∧
      (∀ call ∈ earlier, call.failure? = none) ∧ last.failure? = some error

def Streams (received : State → Bytes) : Judgement (State × List Call) :=
  fun bytes start outcome last => ∃ sent calls, last.2 = start.2 ++ calls ∧
    received last.1 = received start.1 ++ sent ∧ Sent bytes sent outcome ∧
    EndsAtFailure calls outcome

theorem streams_composes (received : State → Bytes) : (Streams received).Composes where
  empty state := by
    refine ⟨[], [], (List.append_nil _).symm, (List.append_nil _).symm, rfl, ?_⟩
    intro call member
    cases member
  next {first rest start middle outcome last} := by
    rintro ⟨sent, calls, log, appended, rfl, passed⟩ ⟨later, others, nextLog, nextAppended, ends,
      stops⟩
    refine ⟨sent ++ later, calls ++ others, ?_, ?_, ?_, ?_⟩
    · rw [nextLog, log, List.append_assoc]
    · rw [nextAppended, appended, List.append_assoc]
    · exact Sent.after sent ends
    -- the first attempt succeeded, so none of its calls is the failing one
    · cases outcome with
      | ok _ =>
        intro call member
        rcases List.mem_append.1 member with early | late
        · exact passed call early
        · exact stops call late
      | error error =>
        obtain ⟨earlier, failing, rfl, clean, failed⟩ := stops
        refine ⟨calls ++ earlier, failing, (List.append_assoc _ _ _).symm, ?_, failed⟩
        intro call member
        rcases List.mem_append.1 member with early | late
        · exact passed call early
        · exact clean call late
  stop {first start error last} rest := by
    rintro ⟨sent, calls, log, appended, known, stops⟩
    exact ⟨sent, calls, log, appended, known.failing rest, stops⟩

theorem streams_offers {sink : Sink State} {received : State → Bytes}
    (appends : sink.Appends received) : (Streams received).Offers sink.logged .stalled where
  taken {offer state count next} _ answer := by
    obtain ⟨answered, rfl⟩ := Prod.mk.inj answer
    refine ⟨offer.take (count + 1), _, rfl, (appends.taken (Prod.ext answered rfl)).2, rfl, ?_⟩
    intro call member
    obtain rfl := List.mem_singleton.1 member
    rw [Call.failure?, answered]
    exact if_neg fun stalls => Nat.succ_ne_zero count stalls.1
  stalled {offer state next} nonempty answer := by
    obtain ⟨answered, rfl⟩ := Prod.mk.inj answer
    refine ⟨[], _, rfl, (appends.taken (Prod.ext answered rfl)).2, ⟨offer, nonempty, rfl⟩, [], _,
      rfl, nofun, ?_⟩
    rw [Call.failure?, answered]
    exact if_pos ⟨rfl, nonempty⟩
  refused {offer state error next} nonempty answer := by
    obtain ⟨answered, rfl⟩ := Prod.mk.inj answer
    refine ⟨[], _, rfl, ?_, ⟨offer, nonempty, rfl⟩, [], _, rfl, nofun, ?_⟩
    · rw [List.append_nil]
      exact appends.refused (Prod.ext answered rfl)
    · rw [Call.failure?, answered]

/-- Streaming a node appends a front part of its text, all of it exactly on
success. The log of the calls shows where it stopped: no call follows the first
one that failed, and the error is the one of that call. -/
theorem writeNode_streams_text {sink : Sink State} {received : State → Bytes}
    (appends : sink.Appends received) (node : Node) (state : State) :
    ∃ sent calls,
      sink.logged.direct.writeNode node (state, []) =
        ((sink.direct.writeNode node state).1, (sink.direct.writeNode node state).2, calls) ∧
      received (sink.direct.writeNode node state).2 = received state ++ sent ∧
      sent <+: bytesOf node.write ∧
      ((sink.direct.writeNode node state).1 = .ok () ↔ sent = bytesOf node.write) ∧
      EndsAtFailure calls (sink.direct.writeNode node state).1 := by
  obtain ⟨outcome, final⟩ := sink.writeNode_logged node state []
  obtain ⟨sent, calls, log, appended, known, ends⟩ :=
    Judgement.writeNode_judged (streams_composes received)
      (Judgement.direct_judged (streams_composes received) (streams_offers appends)) node
      (state, [])
  rw [outcome] at known ends
  rw [final] at appended
  refine ⟨sent, calls, ?_, appended, known.isPrefix, known.ok_iff, ends⟩
  exact Prod.ext outcome (Prod.ext final (log.trans (List.nil_append calls)))

/-- A sink with room for four bytes, which takes three at a time, cuts the text of
a ball after them. -/
theorem writeNode_streams_text_cut :
    let sink := ({ capacity := some 4, chunk := some 3 } : Limits).sink
    let ball := (Primitive.sphere (.bool true)).node
    (sink.direct.writeNode ball .empty).2.bytes = bytesOf "sphe" ∧
      (sink.direct.writeNode ball .empty).1.isOk = false ∧
      ∃ sent calls,
        sink.logged.direct.writeNode ball (.empty, []) =
          ((sink.direct.writeNode ball .empty).1, (sink.direct.writeNode ball .empty).2, calls) ∧
        (sink.direct.writeNode ball .empty).2.bytes = Memory.empty.bytes ++ sent ∧
        sent <+: bytesOf ball.write ∧
        ((sink.direct.writeNode ball .empty).1 = .ok () ↔ sent = bytesOf ball.write) ∧
        EndsAtFailure calls (sink.direct.writeNode ball .empty).1 := by
  intro sink ball
  refine ⟨?_, ?_, writeNode_streams_text (Limits.sink_appends _) _ _⟩
  · decide +kernel
  · decide +kernel

end

end SolidScene
