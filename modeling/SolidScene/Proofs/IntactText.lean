import SolidScene.Proofs.LimitedSinks

/-!
Reading back what was written. The encoding of a text is cut into its characters
and nothing else, so reading it replaces nothing, although it was written in many
portions and a sink may have cut it inside a character. A sink that accepts
everything receives exactly these bytes.
-/

namespace SolidScene

namespace Utf8

theorem character?_append (char : Char) (rest : Bytes) :
    character? (String.utf8EncodeChar char ++ rest) = some char := by
  rw [character?, List.toByteArray_append]
  exact ByteArray.utf8DecodeChar?_utf8EncodeChar_append

theorem partsBehind_append (read rest : Bytes) :
    partsBehind read.length (read ++ rest) = parts rest := by
  induction read with
  | nil => rfl
  | cons first read ih => exact ih

theorem parts_append (char : Char) (rest : Bytes) :
    parts (String.utf8EncodeChar char ++ rest) = .character char :: parts rest := by
  have found := character?_append char rest
  have size := String.length_utf8EncodeChar char
  -- the first byte is read as the character, the others are counted off behind it
  cases encoded : String.utf8EncodeChar char with
  | nil => exact absurd encoded String.utf8EncodeChar_ne_nil
  | cons first more =>
    rw [encoded] at found size
    rw [List.cons_append] at found ⊢
    rw [List.length_cons] at size
    rw [parts, partsBehind, found]
    dsimp only
    rw [← size, Nat.add_sub_cancel, partsBehind_append]

theorem parts_bytesOf (text : String) : parts (bytesOf text) = text.toList.map .character := by
  rw [← String.ofList_toList (s := text), bytesOf_ofList, String.toList_ofList]
  induction text.toList with
  | nil => rfl
  | cons char rest ih => rw [List.flatMap_cons, parts_append, ih, List.map_cons]

example : parts [0x41, 0xf0, 0x9f, 0x98, 0x42] =
    [.character 'A', .malformed [0xf0, 0x9f, 0x98], .character 'B'] := by
  decide

theorem decode_bytesOf (text : String) : decode (bytesOf text) = text := by
  have shown : Part.shown ∘ Part.character = id := rfl
  rw [decode, parts_bytesOf, List.map_map, shown, List.map_id, String.ofList_toList]

theorem fromUTF8?_bytesOf (text : String) :
    String.fromUTF8? ⟨(bytesOf text).toArray⟩ = some text := by
  have whole : (⟨(bytesOf text).toArray⟩ : ByteArray) = text.toByteArray := rfl
  rw [whole, String.fromUTF8?, dif_pos text.isValidUTF8]
  rfl

end Utf8

variable {State : Type}

/-- The sink accepts everything: of each offer it takes a part, as small as it likes. -/
def Sink.Accepts (sink : Sink State) : Prop :=
  ∀ offer state, offer ≠ [] → ∃ count next, sink.write offer state = (.ok (count + 1), next)

def Arrives (received : State → Bytes) : Judgement State :=
  fun bytes start outcome last => outcome = .ok () ∧ received last = received start ++ bytes

theorem arrives_composes (received : State → Bytes) : (Arrives received).Composes where
  empty state := ⟨rfl, (List.append_nil _).symm⟩
  next := by
    rintro first rest start middle outcome last ⟨_, here⟩ ⟨success, there⟩
    exact ⟨success, by rw [there, here, List.append_assoc]⟩
  stop _ failed := nomatch failed.1

theorem Sink.Accepts.arrives_offers {sink : Sink State} {received : State → Bytes}
    (accepts : sink.Accepts) (appends : sink.Appends received) (stall : OutputError) :
    (Arrives received).Offers sink stall where
  taken _ answer := ⟨rfl, (appends.taken answer).2⟩
  stalled nonempty answer := by
    obtain ⟨count, next, takes⟩ := accepts _ _ nonempty
    cases answer.symm.trans takes
  refused nonempty answer := by
    obtain ⟨count, next, takes⟩ := accepts _ _ nonempty
    cases answer.symm.trans takes

theorem Sink.Accepts.node_arrives {sink : Sink State} {received : State → Bytes}
    (accepts : sink.Accepts) (appends : sink.Appends received) (node : Node) (state : State) :
    (sink.direct.writeNode node state).1 = .ok () ∧
      received (sink.direct.writeNode node state).2 = received state ++ bytesOf node.write :=
  Judgement.writeNode_judged (arrives_composes received)
    (Judgement.direct_judged (arrives_composes received)
      (accepts.arrives_offers appends .stalled)) node state

theorem Memory.sink_accepts : Memory.sink.Accepts := by
  intro offer memory nonempty
  cases offer with
  | nil => exact absurd rfl nonempty
  | cons first rest => exact ⟨rest.length, _, rfl⟩

theorem Sink.Limited.accepts {sink : Sink State} {received : State → Bytes}
    (unlimited : sink.Limited received none) : sink.Accepts := by
  intro offer state nonempty
  have never : ∀ bytes, ¬ Capacity.IsFull none bytes := nofun
  rcases answer : sink.write offer state with ⟨result, next⟩
  cases result with
  | error error => exact absurd (unlimited.refuses nonempty answer) (never _)
  | ok count =>
    cases count with
    | zero => exact absurd (unlimited.stalls nonempty answer) (never _)
    | succ count => exact ⟨count, next, rfl⟩

namespace Node

theorem written_whole (node : Node) :
    node.written.1 = .ok () ∧ node.written.2.bytes = bytesOf node.write := by
  obtain ⟨success, received⟩ := Memory.sink_accepts.node_arrives Memory.sink_appends node .empty
  exact ⟨success, received.trans (List.nil_append _)⟩

/-- Writing a node to memory succeeds, what it wrote is the encoding of a text, and
reading it replaces nothing. Every sink that accepts everything receives the encoding of
that same text, in whatever portions it takes it. -/
theorem text_intact (node : Node) :
    node.written.1 = .ok () ∧ ByteArray.IsValidUTF8 ⟨node.written.2.bytes.toArray⟩ ∧
    (∀ part ∈ Utf8.parts node.written.2.bytes, ∃ char, part = .character char) ∧
    node.toText = node.write ∧ node.toText? = some node.toText ∧
    node.written.2.bytes = bytesOf node.toText ∧
    ∀ {State : Type} (sink : Sink State) (received : State → Bytes), sink.Appends received →
      sink.Accepts → ∀ state, (sink.direct.writeNode node state).1 = .ok () ∧
        received (sink.direct.writeNode node state).2 = received state ++ bytesOf node.toText := by
  obtain ⟨success, whole⟩ := node.written_whole
  have text : node.toText = node.write := by rw [toText, whole, Utf8.decode_bytesOf]
  refine ⟨success, ?_, ?_, text, ?_, by rw [text, whole], ?_⟩
  · rw [whole]
    exact node.write.isValidUTF8
  · intro part member
    rw [whole, Utf8.parts_bytesOf] at member
    obtain ⟨char, _, rfl⟩ := List.mem_map.1 member
    exact ⟨char, rfl⟩
  · have shape : node.written = (.ok (), node.written.2) := Prod.ext success rfl
    rw [toText?, shape]
    dsimp only
    rw [whole, Utf8.fromUTF8?_bytesOf, text]
  · intro State sink received appends accepts state
    rw [text]
    exact accepts.node_arrives appends node state

/-- A label outside the basic plane, read back from memory and sent to a sink that takes
three bytes at a time and so cuts the encoding of its character. -/
theorem text_intact_in_threes :
    let sink := ({ chunk := some 3 } : Limits).sink
    let label := rawBlock "\x00" [some (Primitive.text (.text "\"😀\n") none none).node]
    sink.Appends Memory.bytes ∧ sink.Accepts ∧
      label.toText = "\x00 \x7b\ntext(text=\"\\\"😀\\n\");\n\x7d\n" ∧
      (sink.write (bytesOf "😀") .empty).2.bytes = [0xf0, 0x9f, 0x98] ∧
      (sink.direct.writeNode label .empty).1 = .ok () ∧
      (sink.direct.writeNode label .empty).2.bytes = bytesOf label.toText := by
  intro sink label
  have limited := ({ chunk := some 3 } : Limits).sink_limited (by decide)
  obtain ⟨_, _, _, text, _, _, everywhere⟩ := label.text_intact
  obtain ⟨success, arrived⟩ :=
    everywhere sink Memory.bytes limited.toAppends limited.accepts .empty
  refine ⟨limited.toAppends, limited.accepts, ?_, rfl, success, arrived⟩
  rw [text]
  decide +kernel

end Node

end SolidScene
