import SolidScene.Proofs.FaithfulSinks
import SolidScene.Render

/-!
Buffered output in front of a faithful sink. What was pending and what is put
stays in one row: a front part of it has reached the sink and the rest is pending
in its order. A put that succeeds leaves nothing out, and one that fails leaves
out some end of what it was given, but nothing that was in the row before.

How the compilation of a root can end. The root may fail to be written, its last
bytes to leave the buffer, or the sink to flush; when none of this happens the
buffer is empty and giving it up succeeds.

Compilations through a buffer, seen from the sink. All bytes are in one row: those
the sink has received, and behind them those that are pending. Whatever is put makes
the row longer, and at the end of a compilation that succeeds the sink has received
it. What every single call does to the state of the sink, any number of calls do: a
relation of states that each call keeps is kept by all that is written through a
buffer, by giving the buffer up, and by compiling a root, whichever calls fail.
-/

namespace SolidScene

section

variable {State : Type} {sink : Sink State}

namespace Buffer

theorem drain_forwards {received : State → Bytes} (appends : sink.Appends received)
    (buffer : Buffer State) :
    ∃ sent, received (buffer.drain sink).2.inner = received buffer.inner ++ sent ∧
      sent ++ (buffer.drain sink).2.pending.bytes = buffer.pending.bytes ∧
      ((buffer.drain sink).1 = .ok () ↔ (buffer.drain sink).2.pending.bytes = []) := by
  obtain ⟨sent, whole, appended, ends⟩ :=
    appends.deliver_taken .stalledBuffer buffer.pending.bytes buffer.inner
  refine ⟨sent, appended, ?_, ?_⟩
  · rw [drain, Memory.bytes_ofBytes]
    exact whole
  · rw [drain, Memory.bytes_ofBytes]
    exact ends

/-- Judges attempts by how the row grows: what is sent comes off its front, and some
front part of what is put joins it at the end. -/
def Lengthens (received : State → Bytes) : Judgement (Buffer State) :=
  fun bytes start outcome last => ∃ sent portion,
    received last.inner = received start.inner ++ sent ∧
    sent ++ last.pending.bytes = start.pending.bytes ++ portion ∧ Sent bytes portion outcome

theorem lengthens_composes (received : State → Bytes) : (Lengthens received).Composes where
  empty buffer := ⟨[], [], (List.append_nil _).symm, (List.append_nil _).symm, rfl⟩
  next {first rest start middle outcome last} := by
    rintro ⟨sent, portion, appended, row, rfl⟩ ⟨later, other, nextAppended, nextRow, known⟩
    refine ⟨sent ++ later, portion ++ other, ?_, ?_, known.after portion⟩
    · rw [nextAppended, appended, List.append_assoc]
    · rw [List.append_assoc, nextRow, ← List.append_assoc, row, List.append_assoc]
  stop {first start error last} rest := by
    rintro ⟨sent, portion, appended, row, known⟩
    exact ⟨sent, portion, appended, row, known.failing rest⟩

/-- The row of what was pending and what is put, before and after an attempt. -/
def Forwards (received : State → Bytes) : Judgement (Buffer State) :=
  fun bytes start outcome last => ∃ sent, received last.inner = received start.inner ++ sent ∧
    Sent (start.pending.bytes ++ bytes) (sent ++ last.pending.bytes) outcome

theorem Lengthens.forwards {received : State → Bytes} {bytes : Bytes} {start last : Buffer State}
    {outcome : Except OutputError Unit} (known : Lengthens received bytes start outcome last) :
    Forwards received bytes start outcome last := by
  obtain ⟨sent, portion, appended, row, known⟩ := known
  refine ⟨sent, appended, ?_⟩
  rw [row]
  exact known.after _

theorem makeRoom_forwards {received : State → Bytes} (appends : sink.Appends received)
    (capacity : Nat) (bytes : Bytes) (buffer : Buffer State) :
    ∃ sent, received (buffer.makeRoom sink capacity bytes.length).2.inner =
        received buffer.inner ++ sent ∧
      sent ++ (buffer.makeRoom sink capacity bytes.length).2.pending.bytes =
        buffer.pending.bytes ∧
      ((buffer.makeRoom sink capacity bytes.length).1 ≠ .ok () → bytes ≠ []) ∧
      ((buffer.makeRoom sink capacity bytes.length).1 = .ok () → capacity ≤ bytes.length →
        (buffer.makeRoom sink capacity bytes.length).2.pending.bytes = [] ∨ bytes = []) := by
  unfold makeRoom
  split
  case isTrue needed =>
    obtain ⟨sent, appended, whole, ends⟩ := buffer.drain_forwards appends
    refine ⟨sent, appended, whole, fun _ nothing => ?_, fun success _ => .inl (ends.1 success)⟩
    rw [nothing] at needed
    exact Nat.not_lt_zero _ needed
  case isFalse fits =>
    refine ⟨[], (List.append_nil _).symm, rfl, fun failed => absurd rfl failed, fun _ fills => ?_⟩
    have counted : buffer.pending.size = buffer.pending.bytes.length := Memory.size_eq_length _
    -- bytes as long as the buffer fit beside the pending ones only if one of them is empty
    rw [← List.length_eq_zero_iff, ← List.length_eq_zero_iff, ← counted]
    omega

theorem place_lengthens {received : State → Bytes} (appends : sink.Appends received)
    {capacity : Nat} {bytes : Bytes} {buffer : Buffer State}
    (clear : capacity ≤ bytes.length → buffer.pending.bytes = [] ∨ bytes = []) :
    Lengthens received bytes buffer (buffer.place sink capacity bytes).1
      (buffer.place sink capacity bytes).2 := by
  unfold place
  split
  case isTrue fills =>
    obtain ⟨sent, appended, known⟩ := appends.direct_sends bytes buffer.inner
    refine ⟨sent, sent, appended, ?_, known⟩
    -- the bytes overtake what is pending, so one of the two has to be empty
    rcases clear fills with nothing | rfl
    · rw [nothing, List.append_nil, List.nil_append]
    · obtain rfl := List.prefix_nil.1 known.isPrefix
      rw [List.append_nil]
      exact List.nil_append _
  case isFalse fits =>
    exact ⟨[], bytes, (List.append_nil _).symm, Memory.bytes_add _ _, rfl⟩

theorem put_lengthens {received : State → Bytes} (appends : sink.Appends received)
    (capacity : Nat) (bytes : Bytes) (buffer : Buffer State) :
    Lengthens received bytes buffer ((output sink capacity).put bytes buffer).1
      ((output sink capacity).put bytes buffer).2 := by
  unfold output
  dsimp only
  split
  case isTrue fits =>
    exact ⟨[], bytes, (List.append_nil _).symm, Memory.bytes_add _ _, rfl⟩
  case isFalse full =>
    obtain ⟨sent, appended, whole, fails, clear⟩ := buffer.makeRoom_forwards appends capacity bytes
    split
    case h_1 error next answer =>
      rw [answer] at appended whole fails
      exact ⟨sent, [], appended, by rw [whole, List.append_nil], bytes, fails nofun, rfl⟩
    case h_2 next answer =>
      rw [answer] at appended whole clear
      obtain ⟨later, portion, nextAppended, row, known⟩ := place_lengthens appends (clear rfl)
      refine ⟨sent ++ later, portion, by rw [nextAppended, appended, List.append_assoc], ?_, known⟩
      rw [← whole, List.append_assoc, List.append_assoc, row]

/-- What an attempt does to the sink, judged as a delivery of some bytes. -/
def Behind (judged : Judgement State) : Judgement (Buffer State) :=
  fun _ start outcome last => ∃ offered, judged offered start.inner outcome last.inner

theorem behind_composes {judged : Judgement State} (composes : judged.Composes) :
    (Behind judged).Composes where
  empty buffer := ⟨[], composes.empty buffer.inner⟩
  next := by
    rintro first rest start middle outcome last ⟨offered, here⟩ ⟨later, there⟩
    exact ⟨offered ++ later, composes.next here there⟩
  stop := by
    rintro first start error last rest ⟨offered, here⟩
    exact ⟨offered, here⟩

theorem drain_behind {judged : Judgement State} (composes : judged.Composes)
    (drained : judged.Offers sink .stalledBuffer) (buffer : Buffer State) :
    judged buffer.pending.bytes buffer.inner (buffer.drain sink).1 (buffer.drain sink).2.inner :=
  Judgement.deliver_judged composes drained _ _

theorem makeRoom_behind {judged : Judgement State} (composes : judged.Composes)
    (drained : judged.Offers sink .stalledBuffer) (capacity count : Nat) (buffer : Buffer State) :
    ∃ offered, judged offered buffer.inner (buffer.makeRoom sink capacity count).1
      (buffer.makeRoom sink capacity count).2.inner := by
  unfold makeRoom
  split
  case isTrue needed => exact ⟨_, drain_behind composes drained buffer⟩
  case isFalse fits => exact ⟨[], composes.empty _⟩

theorem place_behind {judged : Judgement State} (composes : judged.Composes)
    (direct : judged.Offers sink .stalled) (capacity : Nat) (bytes : Bytes)
    (buffer : Buffer State) :
    ∃ offered, judged offered buffer.inner (buffer.place sink capacity bytes).1
      (buffer.place sink capacity bytes).2.inner := by
  unfold place
  split
  case isTrue fills => exact ⟨bytes, Judgement.direct_judged composes direct bytes _⟩
  case isFalse fits => exact ⟨[], composes.empty _⟩

theorem put_behind {judged : Judgement State} (composes : judged.Composes)
    (direct : judged.Offers sink .stalled) (drained : judged.Offers sink .stalledBuffer)
    (capacity : Nat) (bytes : Bytes) (buffer : Buffer State) :
    Behind judged bytes buffer ((output sink capacity).put bytes buffer).1
      ((output sink capacity).put bytes buffer).2 := by
  unfold output
  dsimp only
  split
  case isTrue fits => exact ⟨[], composes.empty _⟩
  case isFalse full =>
    obtain ⟨offered, here⟩ := makeRoom_behind composes drained capacity bytes.length buffer
    split
    case h_1 error next answer =>
      rw [answer] at here
      exact ⟨offered, here⟩
    case h_2 next answer =>
      rw [answer] at here
      obtain ⟨later, there⟩ := place_behind composes direct capacity bytes next
      exact ⟨offered ++ later, composes.next here there⟩

end Buffer

end

section

variable {State : Type}

theorem Sink.deliver_ok (sink : Sink State) (stall : OutputError) (bytes : Bytes) (state : State)
    (success : (sink.deliver stall bytes state).1 = .ok ()) :
    (sink.deliver stall bytes state).2.1 = [] := by
  fun_induction Sink.deliver sink stall bytes state with
  | case1 state => rfl
  | case2 bytes state nonempty error next answer => cases success
  | case3 bytes state nonempty next answer => cases success
  | case4 bytes state nonempty taken next answer ih => exact ih success

namespace Buffer

theorem drain_clears (sink : Sink State) (buffer : Buffer State)
    (success : (buffer.drain sink).1 = .ok ()) : (buffer.drain sink).2.pending.bytes = [] := by
  rw [drain, Memory.bytes_ofBytes]
  exact sink.deliver_ok _ _ _ success

theorem drain_of_clear (sink : Sink State) (buffer : Buffer State)
    (clear : buffer.pending.bytes = []) :
    buffer.drain sink = (.ok (), ⟨.ofBytes [], buffer.inner⟩) := by
  rw [drain, clear, Sink.deliver, if_pos rfl]

theorem output_flush (sink : Sink State) (size : Nat) (buffer : Buffer State) :
    (output sink size).flush buffer =
      match buffer.drain sink with
      | (.error error, next) => (.error error, next)
      | (.ok _, next) =>
        ((sink.flush next.inner).1, { next with inner := (sink.flush next.inner).2 }) :=
  rfl

end Buffer

/-- What is known of the sink and the buffer when a root has been put into it:
how writing it ended, then draining the buffer, then flushing the sink. -/
structure RootWriting (State : Type) where
  written : Attempt (Buffer State)
  drained : Attempt (Buffer State)
  flushed : Attempt State

def RootWriting.ofRoot (sink : Sink State) (root : Node) (buffer : Buffer State) :
    RootWriting State :=
  let written := (Buffer.output sink bufferCapacity).writeNode root buffer
  let drained := written.2.drain sink
  ⟨written, drained, sink.flush drained.2.inner⟩

theorem compileRoot_cases (sink : Sink State) (root : Node) (buffer : Buffer State) :
    let tries := RootWriting.ofRoot sink root buffer
    let built := Event.built (Stats.ofNode root)
    (∃ error, tries.written.1 = .error error ∧
        compileRoot sink root buffer =
          ⟨.error (.output error), [built], tries.written.2.close sink⟩) ∨
      (tries.written.1 = .ok () ∧ ∃ error, tries.drained.1 = .error error ∧
        compileRoot sink root buffer =
          ⟨.error (.output error), [built], tries.drained.2.close sink⟩) ∨
      (tries.written.1 = .ok () ∧ tries.drained.1 = .ok () ∧ ∃ error,
        tries.flushed.1 = .error error ∧
        compileRoot sink root buffer =
          ⟨.error (.output error), [built],
            { tries.drained.2 with inner := tries.flushed.2 }.close sink⟩) ∨
      (tries.written.1 = .ok () ∧ tries.drained.1 = .ok () ∧ tries.flushed.1 = .ok () ∧
        compileRoot sink root buffer = ⟨.ok (), [built, .compiled], tries.flushed.2⟩) := by
  dsimp only [RootWriting.ofRoot]
  unfold compileRoot
  dsimp only
  -- one attempt after the other, each in the state that the one before left
  generalize (Buffer.output sink bufferCapacity).writeNode root buffer = written
  obtain ⟨outcome, left⟩ := written
  cases outcome with
  | error error => exact .inl ⟨error, rfl, rfl⟩
  | ok _ =>
    refine .inr ?_
    have clears := left.drain_clears sink
    dsimp only
    rw [Buffer.output_flush]
    generalize left.drain sink = drained at clears ⊢
    obtain ⟨outcome, last⟩ := drained
    cases outcome with
    | error error => exact .inl ⟨rfl, error, rfl, rfl⟩
    | ok _ =>
      refine .inr ?_
      have clear := clears rfl
      dsimp only at clear ⊢
      generalize sink.flush last.inner = flushed
      obtain ⟨outcome, inner⟩ := flushed
      cases outcome with
      | error error => exact .inl ⟨rfl, rfl, error, rfl, rfl⟩
      | ok _ =>
        -- the flush does not touch the buffer, which the drain left empty
        refine .inr ⟨rfl, rfl, rfl, ?_⟩
        dsimp only
        rw [Buffer.drain_of_clear sink ⟨last.pending, inner⟩ clear]

end

section

variable {State : Type}

section Row

variable {sink : Sink State}

namespace Buffer

def row (received : State → Bytes) (buffer : Buffer State) : Bytes :=
  received buffer.inner ++ buffer.pending.bytes

theorem Lengthens.row_eq {received : State → Bytes} {bytes : Bytes} {start last : Buffer State}
    {outcome : Except OutputError Unit} (known : Lengthens received bytes start outcome last) :
    ∃ portion, last.row received = start.row received ++ portion ∧ Sent bytes portion outcome := by
  obtain ⟨sent, portion, appended, same, known⟩ := known
  refine ⟨portion, ?_, known⟩
  rw [row, appended, List.append_assoc, same, ← List.append_assoc, row]

theorem drain_row {received : State → Bytes} (appends : sink.Appends received)
    {buffer : Buffer State} (success : (buffer.drain sink).1 = .ok ()) :
    received (buffer.drain sink).2.inner = buffer.row received := by
  obtain ⟨sent, appended, whole, ends⟩ := buffer.drain_forwards appends
  rw [ends.1 success, List.append_nil] at whole
  rw [appended, whole, row]

end Buffer

/-- A compilation that succeeds has sent off the row there was and the text of the root. -/
theorem compileRoot_sends {received : State → Bytes} (appends : sink.Appends received)
    (flushes : ∀ state, received (sink.flush state).2 = received state) {root : Node}
    {buffer : Buffer State} (success : (compileRoot sink root buffer).outcome = .ok ()) :
    received (compileRoot sink root buffer).state = buffer.row received ++ bytesOf root.write := by
  have lengthened := Judgement.writeNode_judged (Buffer.lengthens_composes received)
    (Buffer.put_lengthens appends bufferCapacity) root buffer
  obtain ⟨portion, grown, known⟩ := lengthened.row_eq
  rcases compileRoot_cases sink root buffer with ⟨_, _, result⟩ | ⟨_, _, _, result⟩ |
    ⟨_, _, _, _, result⟩ | ⟨written, drained, _, result⟩
  · rw [result] at success
    cases success
  · rw [result] at success
    cases success
  · rw [result] at success
    cases success
  · rw [result]
    calc
      received (RootWriting.ofRoot sink root buffer).flushed.2
      _ = received (RootWriting.ofRoot sink root buffer).drained.2.inner := flushes _
      _ = (RootWriting.ofRoot sink root buffer).written.2.row received :=
        Buffer.drain_row appends drained
      _ = buffer.row received ++ bytesOf root.write := by
        rw [← known.ok_iff.1 written]
        exact grown

end Row

def Judgement.ofRelation (related : State → State → Prop) : Judgement State :=
  fun _ start _ last => related start last

/-- A relation that holds of a state and itself, carries over from call to call, and
is kept by every call of a sink. -/
structure Sink.Changes (sink : Sink State) (related : State → State → Prop) : Prop where
  refl : ∀ state, related state state
  trans : ∀ {start middle last}, related start middle → related middle last → related start last
  write : ∀ offer state, related state (sink.write offer state).2
  flush : ∀ state, related state (sink.flush state).2

namespace Sink.Changes

variable {sink : Sink State} {related : State → State → Prop}

theorem composes (changes : sink.Changes related) : (Judgement.ofRelation related).Composes where
  empty := changes.refl
  next := changes.trans
  stop _ known := known

theorem offers (changes : sink.Changes related) (stall : OutputError) :
    (Judgement.ofRelation related).Offers sink stall where
  taken {offer state count next} _ answer := by
    have written := changes.write offer state
    rwa [answer] at written
  stalled {offer state next} _ answer := by
    have written := changes.write offer state
    rwa [answer] at written
  refused {offer state error next} _ answer := by
    have written := changes.write offer state
    rwa [answer] at written

theorem drain (changes : sink.Changes related) (buffer : Buffer State) :
    related buffer.inner (buffer.drain sink).2.inner :=
  Buffer.drain_behind changes.composes (changes.offers .stalledBuffer) buffer

theorem close (changes : sink.Changes related) (buffer : Buffer State) :
    related buffer.inner (buffer.close sink) :=
  changes.drain buffer

theorem put (changes : sink.Changes related) (capacity : Nat) (bytes : Bytes)
    (buffer : Buffer State) :
    Buffer.Behind (Judgement.ofRelation related) bytes buffer
      ((Buffer.output sink capacity).put bytes buffer).1
      ((Buffer.output sink capacity).put bytes buffer).2 :=
  Buffer.put_behind changes.composes (changes.offers .stalled) (changes.offers .stalledBuffer)
    capacity bytes buffer

theorem writeLine (changes : sink.Changes related) (capacity : Nat) (line : String)
    (buffer : Buffer State) :
    related buffer.inner ((Buffer.output sink capacity).writeLine line buffer).2.inner :=
  have ⟨_, changed⟩ := Judgement.writeLine_judged (Buffer.behind_composes changes.composes)
    (changes.put capacity) line buffer
  changed

theorem writeNode (changes : sink.Changes related) (capacity : Nat) (node : Node)
    (buffer : Buffer State) :
    related buffer.inner ((Buffer.output sink capacity).writeNode node buffer).2.inner :=
  have ⟨_, changed⟩ := Judgement.writeNode_judged (Buffer.behind_composes changes.composes)
    (changes.put capacity) node buffer
  changed

theorem compileRoot (changes : sink.Changes related) (root : Node) (buffer : Buffer State) :
    related buffer.inner (compileRoot sink root buffer).state := by
  let tries := RootWriting.ofRoot sink root buffer
  have written : related buffer.inner tries.written.2.inner :=
    changes.writeNode bufferCapacity root buffer
  have drained : related buffer.inner tries.drained.2.inner :=
    changes.trans written (changes.drain _)
  have flushed : related buffer.inner tries.flushed.2 := changes.trans drained (changes.flush _)
  rcases compileRoot_cases sink root buffer with ⟨_, _, result⟩ | ⟨_, _, _, result⟩ |
    ⟨_, _, _, _, result⟩ | ⟨_, _, _, result⟩ <;> rw [result]
  · exact changes.trans written (changes.close _)
  · exact changes.trans drained (changes.close _)
  · exact changes.trans flushed (changes.close { tries.drained.2 with inner := tries.flushed.2 })
  · exact flushed

end Sink.Changes

end

end SolidScene
