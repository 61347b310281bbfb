import SolidScene.Proofs.BufferedOutput

/-!
Sinks that hold a limited number of bytes in all. Below their capacity they take
something of every offer, however little; at their capacity they take nothing. So
a delivery fails only at a full sink, and a sink that started empty holds as much
of the front of what it was given as it has room for.

Rendering to a sink with limited room. The text of a run is the lines it echoes
and the root it ends with. On the way either all of the text so far is in the
sink or pending, or the sink is full of its front part; both survive echoes that
fail. At the end the sink holds the front part there is room for, and rendering
succeeds exactly when that is all of it and the sink agrees to flush.
-/

namespace SolidScene

section

/-- The most bytes a sink can hold, if there is a limit. -/
abbrev Capacity := Option Nat

namespace Capacity

def Fits (capacity : Capacity) (bytes : Bytes) : Prop :=
  ∀ most, capacity = some most → bytes.length ≤ most

def IsFull (capacity : Capacity) (bytes : Bytes) : Prop :=
  ∃ most, capacity = some most ∧ most ≤ bytes.length

def kept : Capacity → Bytes → Bytes
  | none, bytes => bytes
  | some most, bytes => bytes.take most

theorem kept_of_fits {capacity : Capacity} {bytes : Bytes} (fits : capacity.Fits bytes) :
    capacity.kept bytes = bytes := by
  cases capacity with
  | none => rfl
  | some most => exact List.take_of_length_le (fits most rfl)

theorem fits_kept (capacity : Capacity) (bytes : Bytes) : capacity.Fits (capacity.kept bytes) := by
  rintro most rfl
  exact List.length_take_le most bytes

theorem kept_of_full {capacity : Capacity} {held : Bytes} (rest : Bytes)
    (fits : capacity.Fits held) (full : capacity.IsFull held) :
    capacity.kept (held ++ rest) = held := by
  obtain ⟨most, rfl, reached⟩ := full
  have exact : most = held.length := Nat.le_antisymm reached (fits most rfl)
  rw [kept, exact, List.take_left]

theorem kept_is_full {capacity : Capacity} {bytes : Bytes} (exceeds : ¬ capacity.Fits bytes) :
    capacity.IsFull (capacity.kept bytes) := by
  cases capacity with
  | none => exact absurd nofun exceeds
  | some most =>
    refine ⟨most, rfl, ?_⟩
    rw [kept, List.length_take]
    refine Nat.le_min.2 ⟨Nat.le_refl _, Nat.le_of_not_le fun within => exceeds ?_⟩
    rintro _ ⟨⟩
    exact within

theorem fits_of_append {capacity : Capacity} {held rest : Bytes}
    (fits : capacity.Fits (held ++ rest)) : capacity.Fits held :=
  fun most limited => Nat.le_trans (List.prefix_append held rest).length_le (fits most limited)

theorem kept_append {capacity : Capacity} {bytes : Bytes} (exceeds : ¬ capacity.Fits bytes)
    (rest : Bytes) : capacity.kept (bytes ++ rest) = capacity.kept bytes := by
  cases capacity with
  | none => exact absurd nofun exceeds
  | some most =>
    refine List.take_append_of_le_length (Nat.le_of_not_le fun within => exceeds ?_)
    rintro _ ⟨⟩
    exact within

theorem not_fits_of_full {capacity : Capacity} {held rest : Bytes}
    (full : capacity.IsFull held) (nonempty : rest ≠ []) : ¬ capacity.Fits (held ++ rest) := by
  intro fits
  obtain ⟨most, limited, reached⟩ := full
  have within := fits most limited
  have positive := List.length_pos_iff.2 nonempty
  rw [List.length_append] at within
  omega

end Capacity

variable {State : Type}

/-- A sink that never holds more than its capacity, and takes nothing of an offer
only when it has reached it, be it with a refusal or without. -/
structure Sink.Limited (sink : Sink State) (received : State → Bytes) (capacity : Capacity) :
    Prop extends sink.Appends received where
  within : ∀ {offer state count next}, sink.write offer state = (.ok count, next) →
    capacity.Fits (received state) → capacity.Fits (received next)
  stalls : ∀ {offer state next}, offer ≠ [] → sink.write offer state = (.ok 0, next) →
    capacity.IsFull (received state)
  refuses : ∀ {offer state error next}, offer ≠ [] →
    sink.write offer state = (.error error, next) → capacity.IsFull (received state)
  flushes : ∀ state, received (sink.flush state).2 = received state

def Capacity.Confines (capacity : Capacity) (received : State → Bytes) : Judgement State :=
  fun _ start outcome last => capacity.Fits (received start) →
    capacity.Fits (received last) ∧ (outcome = .ok () ∨ capacity.IsFull (received last))

theorem Capacity.confines_composes (capacity : Capacity) (received : State → Bytes) :
    (capacity.Confines received).Composes where
  empty _ fits := ⟨fits, .inl rfl⟩
  next here there fits := there (here fits).1
  stop _ here fits := here fits

theorem Sink.Limited.confines_offers {sink : Sink State} {received : State → Bytes}
    {capacity : Capacity} (limited : sink.Limited received capacity) (stall : OutputError) :
    (capacity.Confines received).Offers sink stall where
  taken _ answer fits := ⟨limited.within answer fits, .inl rfl⟩
  stalled nonempty answer fits := by
    -- a stall takes nothing, so the sink is as full as it was
    have same := (limited.taken answer).2
    rw [List.take_zero, List.append_nil] at same
    rw [same]
    exact ⟨fits, .inr (limited.stalls nonempty answer)⟩
  refused nonempty answer fits := by
    rw [limited.refused answer]
    exact ⟨fits, .inr (limited.refuses nonempty answer)⟩

namespace Limits

theorem isFull_iff (limits : Limits) (held : Memory) :
    limits.isFull held.size = true ↔ Capacity.IsFull limits.capacity held.bytes := by
  rw [isFull, held.size_eq_length, Capacity.IsFull]
  cases limits.capacity with
  | none => simp
  | some most => simp

theorem allowance?_within {limits : Limits} {most : Nat} (limited : limits.capacity = some most)
    (held : Nat) :
    ∃ count, limits.allowance? held = some count ∧ count ≤ most - held := by
  rw [allowance?, limited]
  cases limits.chunk with
  | none => exact ⟨_, rfl, Nat.le_refl _⟩
  | some chunk => exact ⟨_, rfl, Nat.min_le_left _ _⟩

theorem allowance?_positive {limits : Limits} (positive : limits.chunk ≠ some 0) {held count : Nat}
    (room : ¬ limits.isFull held = true) (allowed : limits.allowance? held = some count) :
    0 < count := by
  have portions : ∀ chunk, limits.chunk = some chunk → 0 < chunk := by
    rintro chunk limited
    exact Nat.pos_of_ne_zero fun zero => positive (zero ▸ limited)
  unfold isFull at room
  unfold allowance? at allowed
  cases limited : limits.capacity <;> cases portioned : limits.chunk <;>
    simp only [limited, portioned, Option.some.injEq, decide_eq_true_eq,
      reduceCtorEq] at allowed room
  case none.some chunk =>
    have := portions chunk portioned
    omega
  case some.none most => omega
  case some.some most chunk =>
    have := portions chunk portioned
    omega

theorem portion_within {limits : Limits} {most : Nat} (limited : limits.capacity = some most)
    (held : Nat) (offer : Bytes) : (limits.portion held offer).length ≤ most - held := by
  obtain ⟨count, allowed, within⟩ := allowance?_within limited held
  rw [portion, allowed]
  exact Nat.le_trans (List.length_take_le count offer) within

theorem portion_nonempty {limits : Limits} (positive : limits.chunk ≠ some 0) {held : Nat}
    (room : ¬ limits.isFull held = true) {offer : Bytes} (nonempty : offer ≠ []) :
    limits.portion held offer ≠ [] := by
  cases allowed : limits.allowance? held with
  | none =>
    rw [portion, allowed]
    exact nonempty
  | some count =>
    have takes := allowance?_positive positive room allowed
    rw [portion, allowed]
    intro nothing
    rcases List.take_eq_nil_iff.1 nothing with zero | empty
    · exact Nat.ne_of_gt takes zero
    · exact nonempty empty

theorem sink_limited (limits : Limits) (positive : limits.chunk ≠ some 0) :
    limits.sink.Limited Memory.bytes limits.capacity where
  toAppends := limits.sink_appends
  within {offer state count next} answer fits := by
    unfold sink at answer
    dsimp only at answer
    split at answer
    case isTrue full =>
      rw [← (Prod.mk.inj answer).2]
      exact fits
    case isFalse room =>
      cases answer
      intro most limited
      have here := fits most limited
      have taken := portion_within limited state.size offer
      rw [Memory.bytes_add, List.length_append, ← state.size_eq_length] at *
      omega
  stalls {offer state next} nonempty answer := by
    rw [← isFull_iff]
    apply Decidable.byContradiction
    intro room
    unfold sink at answer
    dsimp only at answer
    rw [if_neg fun full => room full.2] at answer
    have stalled : (limits.portion state.size offer).length = 0 :=
      Except.ok.inj (Prod.mk.inj answer).1
    exact portion_nonempty positive room nonempty (List.length_eq_zero_iff.1 stalled)
  refuses {offer state error next} nonempty answer := by
    rw [← isFull_iff]
    unfold sink at answer
    dsimp only at answer
    split at answer
    case isTrue full => exact full.2
    case isFalse room => cases answer
  flushes _ := rfl

end Limits

end

section

variable {Action State : Type} {sink : Sink State} {received : State → Bytes} {capacity : Capacity}

namespace Buffer

/-- All of the text is in the row, or the text has no room and the sink holds the
front part of it that does. -/
inductive Tracks (received : State → Bytes) (capacity : Capacity) (text : Bytes)
    (buffer : Buffer State) : Prop where
  | whole (row : received buffer.inner ++ buffer.pending.bytes = text)
    (fits : capacity.Fits (received buffer.inner))
  | cut (exceeds : ¬ capacity.Fits text) (held : received buffer.inner = capacity.kept text)

theorem nothing_sent {text sent : Bytes} (exceeds : ¬ capacity.Fits text)
    (fits : capacity.Fits (capacity.kept text ++ sent)) : sent = [] := by
  apply Decidable.byContradiction
  intro nonempty
  exact Capacity.not_fits_of_full (Capacity.kept_is_full exceeds) nonempty fits

theorem Tracks.fits {text : Bytes} {buffer : Buffer State}
    (known : buffer.Tracks received capacity text) : capacity.Fits (received buffer.inner) := by
  cases known with
  | whole row fits => exact fits
  | cut exceeds held =>
    rw [held]
    exact capacity.fits_kept text

/-- An attempt moves the text on by what was put, and when it fails the text has
become too long for the sink. -/
theorem Tracks.step {text bytes : Bytes} {start last : Buffer State}
    {outcome : Except OutputError Unit} (known : start.Tracks received capacity text)
    (forwards : Forwards received bytes start outcome last)
    (confined : Behind (capacity.Confines received) bytes start outcome last) :
    last.Tracks received capacity (text ++ bytes) ∧
      (outcome = .ok () ∨ ¬ capacity.Fits (text ++ bytes)) := by
  obtain ⟨sent, appended, row⟩ := forwards
  obtain ⟨_, confined⟩ := confined
  obtain ⟨fits, ends⟩ := confined known.fits
  cases known with
  | cut exceeds held =>
    -- a full sink takes nothing more, and the text only gets longer
    have longer : ¬ capacity.Fits (text ++ bytes) :=
      fun short => exceeds (Capacity.fits_of_append short)
    refine ⟨.cut longer ?_, .inr longer⟩
    rw [appended, held] at fits
    rw [appended, held, nothing_sent exceeds fits, List.append_nil, Capacity.kept_append exceeds]
  | whole together _ =>
    cases outcome with
    | ok _ =>
      refine ⟨.whole ?_ fits, .inl rfl⟩
      rw [appended, List.append_assoc, show sent ++ last.pending.bytes = _ from row,
        ← List.append_assoc, together]
    | error error =>
      -- the attempt failed at a full sink, and what it left out does not fit
      obtain ⟨missed, missing, row⟩ := row
      have full := ends.resolve_left nofun
      have split : text ++ bytes = received last.inner ++ (last.pending.bytes ++ missed) := by
        rw [← together, List.append_assoc, ← row, appended]
        simp only [List.append_assoc]
      have exceeds : ¬ capacity.Fits (text ++ bytes) := by
        rw [split]
        refine Capacity.not_fits_of_full full fun nothing => missing ?_
        exact (List.append_eq_nil_iff.1 nothing).2
      refine ⟨.cut exceeds ?_, .inr exceeds⟩
      rw [split, Capacity.kept_of_full _ fits full]

theorem Tracks.settles {text bytes : Bytes} {start last : Buffer State}
    (known : start.Tracks received capacity text) (nonempty : bytes ≠ [])
    (forwards : Forwards received bytes start (.ok ()) last)
    (confined : Behind (capacity.Confines received) bytes start (.ok ()) last)
    (clear : last.pending.bytes = []) : capacity.Fits (text ++ bytes) := by
  obtain ⟨sent, appended, row⟩ := forwards
  obtain ⟨_, confined⟩ := confined
  obtain ⟨fits, _⟩ := confined known.fits
  -- everything has been sent, which a sink full of less would not have taken
  have all : sent = start.pending.bytes ++ bytes := by
    rw [← show sent ++ last.pending.bytes = _ from row, clear, List.append_nil]
  cases known with
  | cut exceeds held =>
    rw [appended, held] at fits
    exact absurd (List.append_eq_nil_iff.1 (all.symm.trans (nothing_sent exceeds fits))).2 nonempty
  | whole together _ => rwa [appended, all, ← List.append_assoc, together] at fits

theorem Tracks.drain_cases {text : Bytes} {buffer : Buffer State}
    (known : buffer.Tracks received capacity text) (limited : sink.Limited received capacity) :
    (¬ capacity.Fits text ∧ received (buffer.drain sink).2.inner = capacity.kept text ∧
        (buffer.drain sink).2.pending.bytes = buffer.pending.bytes) ∨
      (received (buffer.drain sink).2.inner ++ (buffer.drain sink).2.pending.bytes = text ∧
        capacity.Fits (received (buffer.drain sink).2.inner) ∧
        ((buffer.drain sink).1 = .ok () ∨
          capacity.IsFull (received (buffer.drain sink).2.inner))) := by
  obtain ⟨sent, appended, row, ends⟩ := buffer.drain_forwards limited.toAppends
  obtain ⟨fits, full⟩ := drain_behind (capacity.confines_composes received)
    (limited.confines_offers .stalledBuffer) buffer known.fits
  cases known with
  | cut exceeds held =>
    rw [appended, held] at fits
    -- a sink that is full of the text takes nothing of what is pending
    obtain rfl := nothing_sent exceeds fits
    exact .inl ⟨exceeds, by rw [appended, held, List.append_nil], row⟩
  | whole together _ => exact .inr ⟨by rw [appended, List.append_assoc, row, together], fits, full⟩

theorem drain_ok {received : State → Bytes} (appends : sink.Appends received)
    (buffer : Buffer State) :
    (buffer.drain sink).1 = .ok () ↔ (buffer.drain sink).2.pending.bytes = [] :=
  let ⟨_, _, _, ends⟩ := buffer.drain_forwards appends
  ends

theorem Tracks.drained {text : Bytes} {buffer : Buffer State}
    (known : buffer.Tracks received capacity text) (limited : sink.Limited received capacity) :
    (buffer.drain sink).2.Tracks received capacity text ∧
      received (buffer.drain sink).2.inner = capacity.kept text := by
  rcases known.drain_cases limited with ⟨exceeds, held, _⟩ | ⟨row, fits, ends⟩
  · exact ⟨.cut exceeds held, held⟩
  · refine ⟨.whole row fits, ?_⟩
    rcases ends with success | full
    · rw [(drain_ok limited.toAppends buffer).1 success, List.append_nil] at row
      rw [row] at fits ⊢
      exact (Capacity.kept_of_fits fits).symm
    · rw [← row, Capacity.kept_of_full _ fits full]

theorem Tracks.drain_ok_iff {text : Bytes} {buffer : Buffer State}
    (known : buffer.Tracks received capacity text) (limited : sink.Limited received capacity)
    (settled : buffer.pending.bytes = [] → capacity.Fits text) :
    (buffer.drain sink).1 = .ok () ↔ capacity.Fits text := by
  rw [drain_ok limited.toAppends]
  rcases known.drain_cases limited with ⟨exceeds, _, same⟩ | ⟨row, fits, ends⟩
  · exact iff_of_false (fun clear => exceeds (settled (same ▸ clear))) exceeds
  · constructor
    · intro clear
      rw [clear, List.append_nil] at row
      exact row ▸ fits
    · intro short
      apply Decidable.byContradiction
      intro nonempty
      -- what is still pending was left by a full sink, so the text has no room
      rcases ends with success | full
      · exact nonempty ((drain_ok limited.toAppends buffer).1 success)
      · exact Capacity.not_fits_of_full full nonempty (row ▸ short)

theorem put_confined (limited : sink.Limited received capacity) (size : Nat) (bytes : Bytes)
    (buffer : Buffer State) :
    Behind (capacity.Confines received) bytes buffer ((output sink size).put bytes buffer).1
      ((output sink size).put bytes buffer).2 :=
  put_behind (capacity.confines_composes received) (limited.confines_offers .stalled)
    (limited.confines_offers .stalledBuffer) size bytes buffer

theorem Tracks.line {text : Bytes} {buffer : Buffer State}
    (known : buffer.Tracks received capacity text) (limited : sink.Limited received capacity)
    (size : Nat) (line : String) :
    ((output sink size).writeLine line buffer).2.Tracks received capacity
      (text ++ bytesOf (line ++ "\n")) := by
  have forwards := (Judgement.writeLine_judged (lengthens_composes received)
    (put_lengthens limited.toAppends size) line buffer).forwards
  have confined := Judgement.writeLine_judged
    (behind_composes (capacity.confines_composes received)) (put_confined limited size) line buffer
  exact (known.step forwards confined).1

end Buffer

theorem Node.write_bytes_nonempty (node : Node) : bytesOf node.write ≠ [] := by
  obtain ⟨kind, properties, children, modifier⟩ := node
  rw [write]
  split
  · rw [bytesOf_append]
    exact List.append_ne_nil_of_right_ne_nil _ (by decide)
  · rw [bytesOf_append]
    exact List.append_ne_nil_of_right_ne_nil _ (by decide)

theorem Buffer.Tracks.node {text : Bytes} {buffer : Buffer State}
    (known : buffer.Tracks received capacity text) (limited : sink.Limited received capacity)
    (size : Nat) (node : Node) :
    ((output sink size).writeNode node buffer).2.Tracks received capacity
        (text ++ bytesOf node.write) ∧
      (((output sink size).writeNode node buffer).1 = .ok () →
        ((output sink size).writeNode node buffer).2.pending.bytes = [] →
          capacity.Fits (text ++ bytesOf node.write)) ∧
      (((output sink size).writeNode node buffer).1 = .ok () ∨
        ¬ capacity.Fits (text ++ bytesOf node.write)) := by
  have forwards := (Judgement.writeNode_judged (lengthens_composes received)
    (put_lengthens limited.toAppends size) node buffer).forwards
  have confined := Judgement.writeNode_judged
    (behind_composes (capacity.confines_composes received)) (put_confined limited size) node buffer
  obtain ⟨next, ends⟩ := known.step forwards confined
  -- bytes put behind a full sink stay pending, so an empty buffer has lost nothing
  refine ⟨next, ?_, ends⟩
  intro success
  rw [success] at forwards confined
  exact known.settles node.write_bytes_nonempty forwards confined

namespace Script

def echoed (output : Output State) (perform : Action → State → State) :
    Script Action → State → List String
  | .finish _, _ => []
  | .fail _, _ => []
  | .echo text next, state =>
    text :: echoed output perform (next (output.writeLine text state).1)
      (output.writeLine text state).2
  | .act action next, state => echoed output perform next (perform action state)

/-- The text of a run: each echoed line with its end, and the root if there is one. -/
def text (output : Output State) (perform : Action → State → State) (script : Script Action)
    (state : State) : Bytes :=
  (script.echoed output perform state).flatMap (fun line => bytesOf (line ++ "\n")) ++
    match (script.run output perform state).1 with
    | .ok root => bytesOf root.write
    | .error _ => []

theorem run_tracks (limited : sink.Limited received capacity) (size : Nat)
    (script : Script Action) {before : Bytes} {buffer : Buffer State}
    (known : buffer.Tracks received capacity before) :
    (script.run (Buffer.output sink size) (fun _ state => state) buffer).2.Tracks received capacity
      (before ++ (script.echoed (Buffer.output sink size) (fun _ state => state) buffer).flatMap
        (fun line => bytesOf (line ++ "\n"))) := by
  induction script generalizing before buffer with
  | finish root =>
    rw [run, echoed, List.flatMap_nil, List.append_nil]
    exact known
  | fail failure =>
    rw [run, echoed, List.flatMap_nil, List.append_nil]
    exact known
  | echo line next ih =>
    rw [run, echoed, List.flatMap_cons, ← List.append_assoc]
    exact ih _ (known.line limited size line)
  | act action next ih =>
    rw [run, echoed]
    exact ih known

end Script

namespace Buffer

theorem Tracks.flushed {text : Bytes} {buffer : Buffer State}
    (known : buffer.Tracks received capacity text) (limited : sink.Limited received capacity) :
    { buffer with inner := (sink.flush buffer.inner).2 }.Tracks received capacity text := by
  have same := limited.flushes buffer.inner
  cases known with
  | whole row fits => exact .whole (same ▸ row) (same ▸ fits)
  | cut exceeds held => exact .cut exceeds (same ▸ held)

end Buffer

theorem compileRoot_limited (limited : sink.Limited received capacity) (root : Node)
    {before : Bytes} {buffer : Buffer State} (known : buffer.Tracks received capacity before) :
    received (compileRoot sink root buffer).state =
        capacity.kept (before ++ bytesOf root.write) ∧
      ((compileRoot sink root buffer).outcome = .ok () ↔
        capacity.Fits (before ++ bytesOf root.write) ∧
          (RootWriting.ofRoot sink root buffer).flushed.1 = .ok ()) ∧
      ((compileRoot sink root buffer).outcome = .ok () ∨
        ∃ error, (compileRoot sink root buffer).outcome = .error (.output error)) := by
  obtain ⟨next, settled, ends⟩ := known.node limited bufferCapacity root
  obtain ⟨after, kept⟩ := next.drained limited
  have flushed := after.flushed limited
  rcases compileRoot_cases sink root buffer with ⟨error, failed, result⟩ |
    ⟨written, error, failed, result⟩ | ⟨_, _, error, failed, result⟩ |
    ⟨written, drained, succeeded, result⟩
  · rw [result]
    have exceeds := ends.resolve_left fun success => nomatch failed.symm.trans success
    exact ⟨kept, iff_of_false nofun fun fine => exceeds fine.1, .inr ⟨error, rfl⟩⟩
  · rw [result]
    refine ⟨(after.drained limited).2, iff_of_false nofun fun fine => ?_, .inr ⟨error, rfl⟩⟩
    have success := (next.drain_ok_iff limited (settled written)).2 fine.1
    exact nomatch failed.symm.trans success
  · rw [result]
    refine ⟨(flushed.drained limited).2, iff_of_false nofun fun fine => ?_, .inr ⟨error, rfl⟩⟩
    exact nomatch failed.symm.trans fine.2
  · rw [result]
    have short := (next.drain_ok_iff limited (settled written)).1 drained
    exact ⟨(limited.flushes _).trans kept, iff_of_true rfl ⟨short, succeeded⟩, .inl rfl⟩

/-- Rendering to a sink with limited room. The sink ends up with the front part of
the text of the run it has room for. A script that fails gives its failure.
Otherwise rendering succeeds exactly when there is room for the whole text and the
sink agrees to flush, and else fails with an error of the output. -/
theorem renderToSink_limited (limited : sink.Limited received capacity) (script : Script Action)
    {start : State} (empty : received start = []) :
    let output := Buffer.output sink bufferCapacity
    let text := script.text output (fun _ state => state) (.start start)
    let ran := script.run output (fun _ state => state) (.start start)
    let done := renderToSink sink (fun _ state => state) script start
    received done.state = capacity.kept text ∧
      (∀ failure, done.outcome = .error (.script failure) ↔ ran.1 = .error failure) ∧
      ∀ root, ran.1 = .ok root →
        (done.outcome = .ok () ↔
          capacity.Fits text ∧ (RootWriting.ofRoot sink root ran.2).flushed.1 = .ok ()) ∧
        (done.outcome = .ok () ∨ ∃ error, done.outcome = .error (.output error)) := by
  intro output text ran done
  have begun : (Buffer.start start).Tracks received capacity [] := by
    refine .whole ?_ ?_
    · rw [Buffer.start, empty, Memory.bytes_empty, List.append_nil]
    · rw [Buffer.start, empty]
      exact fun most _ => Nat.zero_le most
  have echoed := script.run_tracks limited bufferCapacity begun
  rw [List.nil_append] at echoed
  dsimp only [text, ran, done, output]
  unfold renderToSink Script.text
  dsimp only
  generalize script.run (Buffer.output sink bufferCapacity) (fun _ state => state)
    (.start start) = ran at echoed ⊢
  obtain ⟨outcome, buffer⟩ := ran
  cases outcome with
  | error failure =>
    rw [List.append_nil]
    refine ⟨(echoed.drained limited).2, fun other => ?_, nofun⟩
    constructor <;> rintro ⟨⟩ <;> rfl
  | ok root =>
    obtain ⟨kept, fine, ends⟩ := compileRoot_limited limited root echoed
    refine ⟨kept, fun failure => iff_of_false ?_ nofun, ?_⟩
    · intro failed
      rcases ends with success | ⟨error, other⟩
      · exact nomatch failed.symm.trans success
      · exact nomatch failed.symm.trans other
    · rintro _ ⟨⟩
      exact ⟨fine, ends⟩

/-- A sink with room for three bytes gets the start of an echoed line; the script
goes on, and it is its root that cannot be written. -/
theorem renderToSink_limited_room_for_three :
    let limits : Limits := { capacity := some 3, chunk := some 2 }
    let script : Script Empty := .tryLine "// ball" (.finish (Primitive.sphere (.bool true)).node)
    let done := renderToSink limits.sink (fun _ state => state) script .empty
    done.state.bytes = bytesOf "// " ∧ ∃ error, done.outcome = .error (.output error) := by
  intro limits script done
  obtain ⟨held, _, ends⟩ := renderToSink_limited (limits.sink_limited (by decide)) script
    Memory.bytes_empty
  obtain ⟨fine, ends⟩ := ends _ rfl
  refine ⟨held.trans (by decide), ends.resolve_left fun success => ?_⟩
  have fits := (fine.1 success).1 3 rfl
  dsimp only [script, limits] at fits
  exact absurd fits (by decide)

end

end SolidScene
