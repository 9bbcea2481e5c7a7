import TokenTransfer.Proofs.Wire.Layout
import TokenTransfer.Wire.Envelope

/-!
# Round trip

What was written is read back: a payload of any shape, and an envelope, whose payloads may be read as
their shapes at once, or first as raw bytes.

## Main statements

* `Shape.encode_manager`, `Shape.encode_instruction` - the bytes of a frame, or why it has none
* `Shape.decode_of_encode` - a payload is read back from its bytes
* `Envelope.encode_eq_ok_iff` - when an envelope has bytes, and which
* `Envelope.decode_of_encode`, `Envelope.decodeAs_of_encode`, `Envelope.decode_raw_of_encode` - an
  envelope is read back from its bytes, its payloads as their shapes or as raw bytes
-/

namespace TokenTransfer

/-! ### What writers append -/

namespace Writer

/-- The bytes of a payload behind their count in `width` bytes, or why there are none. -/
def framed (width : Nat) (payload : Except WireError Bytes) : Except WireError Bytes := do
  let bytes ← payload
  if bytes.length < Bytes.count width then return Bytes.bigEndian width bytes.length ++ bytes
  else throw (.lengthOverflow bytes.length width)

/-- A payload is framed if it has bytes and their count fits. -/
theorem framed_eq_ok_iff {width : Nat} {payload : Except WireError Bytes} {framedBytes : Bytes} :
    framed width payload = .ok framedBytes ↔
      ∃ bytes, payload = .ok bytes ∧ bytes.length < Bytes.count width ∧
        framedBytes = Bytes.bigEndian width bytes.length ++ bytes := by
  constructor
  · intro h
    obtain ⟨bytes, encodes, h⟩ := Outcome.bind_eq_ok_iff.mp h
    split at h
    · rename_i fits
      cases h
      exact ⟨bytes, encodes, fits, rfl⟩
    · cases h
  · rintro ⟨bytes, rfl, fits, rfl⟩
    exact Outcome.bind_eq_ok_iff.mpr ⟨bytes, rfl, if_pos fits⟩

/-- Writing a nested payload appends its frame, or leaves the buffer as it was. -/
theorem runOn_nested (payload : Writer) {width : Nat} (supported : WidthSupported width)
    (buffer : Bytes) :
    (nested payload width).runOn buffer =
      match framed width (toBytes payload) with
      | .ok bytes => (.ok (), buffer ++ bytes)
      | .error e => (.error e, buffer) := by
  unfold nested framed
  rw [Fallible.runOn_bind, Fallible.runOn_ofExcept]
  cases toBytes payload with
  | error e => rfl
  | ok bytes =>
      show (counted bytes width).runOn buffer = _
      unfold counted
      rw [if_pos supported]
      by_cases fits : bytes.length < Bytes.count width
      · rw [if_pos fits, Fallible.runOn_bind_of_ok (runOn_put _ _), runOn_put, List.append_assoc]
        simp [bind, Except.bind, fits]
        rfl
      · rw [if_neg fits]
        simp [bind, Except.bind, fits]
        rfl

end Writer

namespace Shape

/-! ### The bytes of a value -/

/-- A message is its id, its sender and the frame of its payload. -/
theorem encode_manager (payload : Shape) (message : (manager payload).Val) :
    (manager payload).encode message =
      (Writer.framed 2 (payload.encode message.payload)).map fun bytes =>
        Layout.encode message.id ++ (Layout.encode message.sender ++ bytes) := by
  have supported : WidthSupported 2 := by decide
  show Writer.toBytes (do
    Writer.value message.id
    Writer.value message.sender
    Writer.nested (payload.write message.payload) 2) = _
  rw [Writer.toBytes]
  simp only [Fallible.runOn_bind, Writer.value, Writer.runOn_put, Writer.runOn_nested _ supported,
    List.nil_append, List.append_assoc]
  show _ = Except.map _ (Writer.framed 2 (Writer.toBytes (payload.write message.payload)))
  generalize Writer.framed 2 _ = inner
  cases inner with
  | ok bytes => rfl
  | error e => rfl

/-- An instruction is its index and the frame of its payload. -/
theorem encode_instruction (payload : Shape) (i : (instruction payload).Val) :
    (instruction payload).encode i =
      (Writer.framed 1 (payload.encode i.payload)).map fun bytes =>
        Layout.encode i.index ++ bytes := by
  have supported : WidthSupported 1 := by decide
  show Writer.toBytes (do
    Writer.value i.index
    Writer.nested (payload.write i.payload) 1) = _
  rw [Writer.toBytes]
  simp only [Fallible.runOn_bind, Writer.value, Writer.runOn_put, Writer.runOn_nested _ supported,
    List.nil_append]
  show _ = Except.map _ (Writer.framed 1 (Writer.toBytes (payload.write i.payload)))
  generalize Writer.framed 1 _ = inner
  cases inner with
  | ok bytes => rfl
  | error e => rfl

/-- A hint is one byte, and it is read back. -/
theorem decode_of_encode_hint {h : RelayHint} {bytes : Bytes}
    (encodes : hint.encode h = .ok bytes) :
    bytes ≠ [] ∧ RelayHint.decode bytes = .ok h := by
  obtain ⟨specialized⟩ := h
  cases specialized with
  | true =>
      cases encodes
      exact ⟨List.cons_ne_nil _ _, rfl⟩
  | false =>
      cases encodes
      exact ⟨List.cons_ne_nil _ _, rfl⟩

/-- A manager message is read from its fields and a payload behind its count. -/
theorem decode_manager_of_framed {payload : Shape} (id : MessageId) (sender : Address)
    {inner : Bytes} {v : payload.Val} (fits : inner.length < Bytes.count 2)
    (decodes : payload.decode inner = .ok v) :
    (manager payload).decode (Layout.encode id ++ (Layout.encode sender ++
      (Bytes.bigEndian 2 inner.length ++ inner))) = .ok ⟨id, sender, v⟩ := by
  have nested := Reader.reads_nested (by decide) fits decodes
  exact ((LawfulLayout.reads id).bind ((LawfulLayout.reads sender).bind
    (nested.bind_pure _))).whole ManagerMessage.frame

/-- **A payload is read back from its bytes**, whatever its shape. -/
theorem decode_of_encode (shape : Shape) {v : shape.Val} {bytes : Bytes}
    (encodes : shape.encode v = .ok bytes) : shape.decode bytes = .ok v := by
  induction shape generalizing bytes with
  | raw =>
      cases encodes
      rfl
  | transfer =>
      cases encodes
      exact (LawfulLayout.reads v).whole Transfer.frame
  | hint => exact (decode_of_encode_hint encodes).2
  | optionalHint =>
      cases v with
      | none =>
          cases encodes
          rfl
      | some h =>
          obtain ⟨nonempty, decodes⟩ := decode_of_encode_hint encodes
          cases bytes with
          | nil => exact absurd rfl nonempty
          | cons b rest =>
              show some <$> RelayHint.decode (b :: rest) = _
              rw [decodes]
              rfl
  | registration =>
      cases encodes
      exact (LawfulLayout.reads v).whole Registration.frame
  | manager payload ih =>
      rw [encode_manager] at encodes
      obtain ⟨_, frames, rfl⟩ := Outcome.map_eq_ok_iff.mp encodes
      obtain ⟨inner, encodes', fits, rfl⟩ := Writer.framed_eq_ok_iff.mp frames
      exact decode_manager_of_framed v.id v.sender fits (ih encodes')
  | instruction payload ih =>
      rw [encode_instruction] at encodes
      obtain ⟨_, frames, rfl⟩ := Outcome.map_eq_ok_iff.mp encodes
      obtain ⟨inner, encodes', fits, rfl⟩ := Writer.framed_eq_ok_iff.mp frames
      have nested := Reader.reads_nested (by decide) fits (ih encodes')
      exact ((LawfulLayout.reads v.index).bind (nested.bind_pure _)).whole Instruction.frame

end Shape

/-! ### Envelopes -/

namespace Envelope

/-- The body of an envelope whose payloads are given as bytes: the two managers, and the payloads
behind their counts. -/
def body (source recipient : Address) (inner outer : Bytes) : Bytes :=
  source.bytes ++ (recipient.bytes ++ ((Bytes.bigEndian 2 inner.length ++ inner) ++
    (Bytes.bigEndian 2 outer.length ++ outer)))

variable {manager transceiver : Shape} {envelope : Envelope manager.Val transceiver.Val}

/-- The bytes of an envelope: its tag and its body, once its payloads are framed. -/
theorem encode_eq (tag : Tag) (envelope : Envelope manager.Val transceiver.Val) :
    encode tag envelope = do
      let inner ← Writer.framed 2 (manager.encode envelope.managerPayload)
      let outer ← Writer.framed 2 (transceiver.encode envelope.transceiverPayload)
      return tag.bytes ++
        (envelope.source.bytes ++ (envelope.recipient.bytes ++ (inner ++ outer))) := by
  have supported : WidthSupported 2 := by decide
  unfold encode writeBody
  rw [Writer.toBytes]
  simp only [Fallible.runOn_bind, Writer.value, Writer.runOn_put, Writer.runOn_nested _ supported,
    List.nil_append, List.append_assoc]
  unfold Shape.encode
  generalize Writer.framed 2 (Writer.toBytes (manager.write envelope.managerPayload)) = inner
  generalize
    Writer.framed 2 (Writer.toBytes (transceiver.write envelope.transceiverPayload)) = outer
  cases inner with
  | error e => rfl
  | ok bytes =>
      cases outer with
      | error e => rfl
      | ok bytes' =>
          apply congrArg Except.ok
          simp only [List.append_assoc]
          rfl

/-- **When an envelope has bytes, and which.** -/
theorem encode_eq_ok_iff {tag : Tag} {bytes : Bytes} :
    encode tag envelope = .ok bytes ↔
      ∃ inner outer,
        manager.encode envelope.managerPayload = .ok inner ∧ inner.length < Bytes.count 2 ∧
        transceiver.encode envelope.transceiverPayload = .ok outer ∧
        outer.length < Bytes.count 2 ∧
        bytes = tag.bytes ++ body envelope.source envelope.recipient inner outer := by
  rw [encode_eq]
  constructor
  · intro encodes
    obtain ⟨_, frames, encodes⟩ := Outcome.bind_eq_ok_iff.mp encodes
    obtain ⟨_, frames', encodes⟩ := Outcome.bind_eq_ok_iff.mp encodes
    obtain ⟨inner, innerEncodes, fits, rfl⟩ := Writer.framed_eq_ok_iff.mp frames
    obtain ⟨outer, outerEncodes, fits', rfl⟩ := Writer.framed_eq_ok_iff.mp frames'
    cases encodes
    exact ⟨inner, outer, innerEncodes, fits, outerEncodes, fits', rfl⟩
  · rintro ⟨inner, outer, innerEncodes, fits, outerEncodes, fits', rfl⟩
    have frames := Writer.framed_eq_ok_iff.mpr ⟨inner, innerEncodes, fits, rfl⟩
    have frames' := Writer.framed_eq_ok_iff.mpr ⟨outer, outerEncodes, fits', rfl⟩
    rw [frames, frames']
    rfl

/-- The body of an envelope is read back, if its payloads are. -/
theorem runOn_readBody {inner outer : Bytes} (fits : inner.length < Bytes.count 2)
    (fits' : outer.length < Bytes.count 2)
    (decodes : manager.decode inner = .ok envelope.managerPayload)
    (decodes' : transceiver.decode outer = .ok envelope.transceiverPayload) :
    (readBody manager transceiver).runOn (body envelope.source envelope.recipient inner outer) =
      (.ok envelope, []) := by
  have supported : WidthSupported 2 := by decide
  have last := Reader.reads_nested supported fits' decodes' []
  rw [List.append_nil] at last
  unfold readBody body
  refine (Fallible.runOn_bind_of_ok (LawfulLayout.reads envelope.source _)).trans ?_
  refine (Fallible.runOn_bind_of_ok (LawfulLayout.reads envelope.recipient _)).trans ?_
  refine (Fallible.runOn_bind_of_ok (Reader.reads_nested supported fits decodes _)).trans ?_
  refine (Fallible.runOn_bind_of_ok last).trans ?_
  exact Fallible.runOn_bind_of_ok (Reader.runOn_finish frame [])

/-- What is laid out as an envelope is read as one.  Its tag alone decides whether it is read. -/
theorem decode_of_body {inner outer : Bytes} (fits : inner.length < Bytes.count 2)
    (fits' : outer.length < Bytes.count 2)
    (decodes : manager.decode inner = .ok envelope.managerPayload)
    (decodes' : transceiver.decode outer = .ok envelope.transceiverPayload) (tag : Tag)
    (tags : List Tag) :
    decode manager transceiver
        (tag.bytes ++ body envelope.source envelope.recipient inner outer) tags =
      if tag ∈ tags then .ok (tag, envelope) else .error (.unknownTag tag) := by
  unfold decode Fallible.outcome
  rw [Fallible.runOn_bind_of_ok (Reader.reads_fixed tag _)]
  by_cases known : tag ∈ tags
  · rw [if_pos known, if_pos known,
      Fallible.runOn_bind_of_ok (runOn_readBody fits fits' decodes decodes')]
    rfl
  · rw [if_neg known, if_neg known]
    rfl

/-- **An envelope is read back from its bytes**, whatever the shapes of its payloads. -/
theorem decode_of_encode {tag : Tag} {bytes : Bytes} (encodes : encode tag envelope = .ok bytes)
    (tags : List Tag) :
    decode manager transceiver bytes tags =
      if tag ∈ tags then .ok (tag, envelope) else .error (.unknownTag tag) := by
  obtain ⟨inner, outer, innerEncodes, fits, outerEncodes, fits', rfl⟩ :=
    encode_eq_ok_iff.mp encodes
  exact decode_of_body fits fits' (manager.decode_of_encode innerEncodes)
    (transceiver.decode_of_encode outerEncodes) tag tags

/-- The same where only one tag is expected. -/
theorem decodeAs_of_encode {tag : Tag} {bytes : Bytes}
    (encodes : encode tag envelope = .ok bytes) :
    decodeAs manager transceiver tag bytes = .ok envelope := by
  obtain ⟨inner, outer, innerEncodes, fits, outerEncodes, fits', rfl⟩ :=
    encode_eq_ok_iff.mp encodes
  have reads := runOn_readBody fits fits' (manager.decode_of_encode innerEncodes)
    (transceiver.decode_of_encode outerEncodes)
  unfold decodeAs Fallible.outcome
  rw [Fallible.runOn_bind_of_ok (Reader.reads_tag tag frame _), reads]

/-- An envelope is read back from its bytes with its payloads as the bytes that they were written
as. -/
theorem decode_raw_of_encode {tag : Tag} {bytes : Bytes}
    (encodes : encode tag envelope = .ok bytes) :
    ∃ inner outer,
      manager.encode envelope.managerPayload = .ok inner ∧
      transceiver.encode envelope.transceiverPayload = .ok outer ∧
      ∀ tags, decode .raw .raw bytes tags =
        if tag ∈ tags then
          .ok (tag, { source := envelope.source
                      recipient := envelope.recipient
                      managerPayload := inner
                      transceiverPayload := outer })
        else .error (.unknownTag tag) := by
  obtain ⟨inner, outer, innerEncodes, fits, outerEncodes, fits', rfl⟩ :=
    encode_eq_ok_iff.mp encodes
  refine ⟨inner, outer, innerEncodes, outerEncodes, ?_⟩
  exact @decode_of_body .raw .raw ⟨envelope.source, envelope.recipient, inner, outer⟩ inner outer
    fits fits' rfl rfl tag

end Envelope

end TokenTransfer
