import Mathlib.Logic.Basic
import TokenTransfer.Peer
import TokenTransfer.Proofs.Wire.RoundTrip

/-!
# Which values can be written

A frame says in a count how long its payload is, in two bytes for a manager message and an envelope
and in one for an instruction.  A payload that is longer than its count can say is the only thing
that keeps a value from having bytes, at whatever depth it is nested; every other value is written,
and read back as it was.

## Main definitions

* `Shape.Overlong` - some nested payload is longer than its count can say
* `Shape.Unfit` - a payload has no bytes, or too many for its frame

## Main statements

* `Shape.encode_of_overlong`, `Shape.exists_encode` - which values have bytes
* `Envelope.exists_error_iff` - which envelopes have none
* `wire_round_trip` - the round trip of the whole format
-/

namespace TokenTransfer

namespace Writer

/-- A value of fixed size is appended. -/
theorem runOn_value {α : Type} [Layout α] (a : α) (buffer : Bytes) :
    (value a).runOn buffer = (.ok (), buffer ++ Layout.encode a) := rfl

/-- A number that fits its width is appended. -/
theorem runOn_uint {width : Nat} (supported : WidthSupported width) {value : UInt64}
    (fits : value.toNat < Bytes.count width) (buffer : Bytes) :
    (uint value width).runOn buffer = (.ok (), buffer ++ Bytes.bigEndian width value.toNat) := by
  unfold uint
  rw [if_pos supported, if_pos fits]
  rfl

variable {payload : Except WireError Bytes} (width : Nat)

/-- A payload that was refused for a length, or that is too long here, is refused for a length. -/
theorem framed_of_long
    (long : (∃ length width', Bytes.count width' ≤ length ∧
        payload = .error (.lengthOverflow length width')) ∨
      ∃ bytes, payload = .ok bytes ∧ Bytes.count width ≤ bytes.length) :
    ∃ length width', Bytes.count width' ≤ length ∧
      framed width payload = .error (.lengthOverflow length width') := by
  rcases long with ⟨length, width', exceeds, rfl⟩ | ⟨bytes, rfl, exceeds⟩
  · exact ⟨length, width', exceeds, rfl⟩
  · exact ⟨bytes.length, width, exceeds, if_neg (Nat.not_lt.mpr exceeds)⟩

/-- A payload that has bytes, and is not too long here, is framed. -/
theorem framed_of_short (written : ∃ bytes, payload = .ok bytes)
    (short : ¬ ∃ bytes, payload = .ok bytes ∧ Bytes.count width ≤ bytes.length) :
    ∃ framedBytes, framed width payload = .ok framedBytes := by
  obtain ⟨bytes, rfl⟩ := written
  have fits : bytes.length < Bytes.count width := by
    apply Nat.lt_of_not_le
    intro long
    exact short ⟨bytes, rfl, long⟩
  exact ⟨_, framed_eq_ok_iff.mpr ⟨bytes, rfl, fits, rfl⟩⟩

end Writer

namespace Shape

/-- **A payload that is too long.**  Somewhere in the value the bytes of a nested payload are more
than the count before them can say. -/
def Overlong : (shape : Shape) → shape.Val → Prop
  | manager payload, message =>
    payload.Overlong message.payload ∨
      ∃ bytes, payload.encode message.payload = .ok bytes ∧ 65535 < bytes.length
  | instruction payload, i =>
    payload.Overlong i.payload ∨
      ∃ bytes, payload.encode i.payload = .ok bytes ∧ 255 < bytes.length
  | raw, _ | transfer, _ | hint, _ | optionalHint, _ | registration, _ => False

/-- A payload does not fit behind a count up to `limit`: it has no bytes, or more than that. -/
def Unfit (shape : Shape) (limit : Nat) (v : shape.Val) : Prop :=
  (∃ e, shape.encode v = .error e) ∨ ∃ bytes, shape.encode v = .ok bytes ∧ limit < bytes.length

/-- A value that has a payload which is too long has no bytes, and the refusal tells a length and
the width of a count that cannot say it. -/
theorem encode_of_overlong (shape : Shape) {v : shape.Val} (overlong : shape.Overlong v) :
    ∃ length width, Bytes.count width ≤ length ∧
      shape.encode v = .error (.lengthOverflow length width) := by
  induction shape with
  | raw | transfer | hint | optionalHint | registration => exact overlong.elim
  | manager payload ih =>
      have long : payload.Overlong v.payload ∨ _ := overlong
      obtain ⟨length, width, exceeds, refused⟩ := Writer.framed_of_long 2 (long.imp_left ih)
      exact ⟨length, width, exceeds, by rw [encode_manager, refused]; rfl⟩
  | instruction payload ih =>
      have long : payload.Overlong v.payload ∨ _ := overlong
      obtain ⟨length, width, exceeds, refused⟩ := Writer.framed_of_long 1 (long.imp_left ih)
      exact ⟨length, width, exceeds, by rw [encode_instruction, refused]; rfl⟩

/-- Every hint has bytes. -/
theorem exists_encode_hint (h : RelayHint) : ∃ bytes, hint.encode h = .ok bytes := by
  obtain ⟨specialized⟩ := h
  cases specialized with
  | true => exact ⟨_, rfl⟩
  | false => exact ⟨_, rfl⟩

/-- A value without such a payload has bytes. -/
theorem exists_encode (shape : Shape) {v : shape.Val} (fits : ¬ shape.Overlong v) :
    ∃ bytes, shape.encode v = .ok bytes := by
  induction shape with
  | raw | transfer | registration => exact ⟨_, rfl⟩
  | hint => exact exists_encode_hint v
  | optionalHint =>
      cases v with
      | none => exact ⟨_, rfl⟩
      | some h => exact exists_encode_hint h
  | manager payload ih =>
      obtain ⟨shallow, short⟩ := not_or.mp fits
      obtain ⟨bytes, frames⟩ := Writer.framed_of_short 2 (ih shallow) short
      exact ⟨_, by rw [encode_manager, frames]; rfl⟩
  | instruction payload ih =>
      obtain ⟨shallow, short⟩ := not_or.mp fits
      obtain ⟨bytes, frames⟩ := Writer.framed_of_short 1 (ih shallow) short
      exact ⟨_, by rw [encode_instruction, frames]; rfl⟩

/-- A message about a transfer always takes the same number of bytes. -/
theorem exists_encode_message (message : ManagerMessage Transfer) :
    ∃ bytes, (manager .transfer).encode message = .ok bytes ∧ bytes.length = 145 := by
  have size : (Layout.encode message.payload).length = 79 := Layout.length_encode message.payload
  have framed : Writer.framed 2 (transfer.encode message.payload) =
      .ok (Bytes.bigEndian 2 79 ++ Layout.encode message.payload) := by
    refine Writer.framed_eq_ok_iff.mpr ⟨Layout.encode message.payload, rfl, ?_, ?_⟩
    · rw [size]
      decide
    · rw [size]
  refine ⟨_, by rw [encode_manager, framed]; rfl, ?_⟩
  simp [size, Layout.length_encode, Layout.size]

/-- A hint takes one byte, and no hint takes none. -/
theorem exists_encode_optionalHint (hint : Option RelayHint) :
    ∃ bytes, optionalHint.encode hint = .ok bytes ∧ bytes.length ≤ 1 := by
  cases hint with
  | none => exact ⟨[], rfl, Nat.zero_le 1⟩
  | some hint =>
      obtain ⟨specialized⟩ := hint
      cases specialized with
      | true => exact ⟨_, rfl, Nat.le_refl 1⟩
      | false => exact ⟨_, rfl, Nat.le_refl 1⟩

/-- A payload fits its frame if it has bytes, and not too many. -/
theorem not_unfit_iff {shape : Shape} {limit : Nat} {v : shape.Val} :
    ¬ shape.Unfit limit v ↔ ∃ bytes, shape.encode v = .ok bytes ∧ bytes.length ≤ limit := by
  unfold Unfit
  cases shape.encode v with
  | error e => simp
  | ok bytes => simp

end Shape

/-- **A peer's configuration always has bytes.** -/
theorem PeerConfig.exists_toBytes (config : PeerConfig) : ∃ bytes, config.toBytes = .ok bytes := by
  have decimals : config.tokenDecimals.toUInt64.toNat < Bytes.count 1 :=
    config.tokenDecimals.toNat_lt
  have limit : config.inboundLimit.toNat < Bytes.count 8 := config.inboundLimit.toNat_lt
  unfold toBytes Writer.toBytes
  rw [Fallible.runOn_bind_of_ok (Writer.runOn_value config.chain _),
    Fallible.runOn_bind_of_ok (Writer.runOn_value config.manager _),
    Fallible.runOn_bind_of_ok (Writer.runOn_uint (by decide) decimals _),
    Writer.runOn_uint (by decide) limit]
  exact ⟨_, rfl⟩

namespace Envelope

variable {manager transceiver : Shape}

/-- **Which envelopes have no bytes**: those with a payload that does not fit. -/
theorem exists_error_iff {tag : Tag} {envelope : Envelope manager.Val transceiver.Val} :
    (∃ e, encode tag envelope = .error e) ↔
      manager.Unfit 65535 envelope.managerPayload ∨
        transceiver.Unfit 65535 envelope.transceiverPayload := by
  -- Each side of the statement is negated: an envelope has bytes exactly when both payloads fit.
  have written : (∃ bytes, encode tag envelope = .ok bytes) ↔
      ¬ manager.Unfit 65535 envelope.managerPayload ∧
        ¬ transceiver.Unfit 65535 envelope.transceiverPayload := by
    rw [Shape.not_unfit_iff, Shape.not_unfit_iff]
    constructor
    · rintro ⟨bytes, encodes⟩
      obtain ⟨inner, outer, innerEncodes, fits, outerEncodes, fits', -⟩ :=
        encode_eq_ok_iff.mp encodes
      exact ⟨⟨inner, innerEncodes, Nat.le_of_lt_succ fits⟩,
        ⟨outer, outerEncodes, Nat.le_of_lt_succ fits'⟩⟩
    · rintro ⟨⟨inner, innerEncodes, fits⟩, ⟨outer, outerEncodes, fits'⟩⟩
      exact ⟨_, encode_eq_ok_iff.mpr ⟨inner, outer, innerEncodes, Nat.lt_succ_of_le fits,
        outerEncodes, Nat.lt_succ_of_le fits', rfl⟩⟩
  rw [← not_iff_not, not_or, ← written]
  cases encode tag envelope with
  | error e => simp
  | ok bytes => simp

end Envelope

/-- **The round trip of the whole format.**  A value of any shape has no bytes exactly when some
nested payload is longer than its count can say, and is read back from its bytes otherwise.  An
envelope is read back from its bytes under every list of tags that has its own, and has no bytes
exactly when one of its payloads has none, or more than `65535`. -/
theorem wire_round_trip :
    (∀ (shape : Shape) (v : shape.Val),
      (shape.Overlong v → ∃ length width, Bytes.count width ≤ length ∧
        shape.encode v = .error (.lengthOverflow length width)) ∧
      (¬ shape.Overlong v → ∃ bytes, shape.encode v = .ok bytes ∧ shape.decode bytes = .ok v)) ∧
    (∀ (manager transceiver : Shape) (envelope : Envelope manager.Val transceiver.Val) (tag : Tag),
      (∀ bytes tags, Envelope.encode tag envelope = .ok bytes → tag ∈ tags →
        Envelope.decode manager transceiver bytes tags = .ok (tag, envelope)) ∧
      ((∃ e, Envelope.encode tag envelope = .error e) ↔
        manager.Unfit 65535 envelope.managerPayload ∨
          transceiver.Unfit 65535 envelope.transceiverPayload)) := by
  refine ⟨fun shape v => ⟨shape.encode_of_overlong, ?_⟩,
    fun manager transceiver envelope tag => ⟨?_, Envelope.exists_error_iff⟩⟩
  · intro fits
    obtain ⟨bytes, encodes⟩ := shape.exists_encode fits
    exact ⟨bytes, encodes, shape.decode_of_encode encodes⟩
  · intro bytes tags encodes known
    rw [Envelope.decode_of_encode encodes tags, if_pos known]

/-- A manager message around an instruction whose payload is one byte too long. -/
def longMessage : (Shape.manager (.instruction .raw)).Val where
  id := .ofNat 32 1
  sender := .ofNat 32 2
  payload := { index := 0, payload := List.replicate 256 0 }

/-- The announcement of one unit for the specialized relayer, among other tags. -/
def hintedEnvelope : Envelope (Shape.manager .transfer).Val Shape.optionalHint.Val where
  source := .ofNat 32 1
  recipient := .ofNat 32 2
  managerPayload :=
    { id := .ofNat 32 3
      sender := .ofNat 32 4
      payload :=
        { amount := ⟨1, 8⟩
          sourceToken := .ofNat 32 5
          recipient := .ofNat 32 6
          recipientChain := .solana } }
  transceiverPayload := some ⟨true⟩

/-- The inner frame is at fault, and not the one around it. -/
theorem wire_round_trip_of_samples :
    (∃ length width, Bytes.count width ≤ length ∧
      (Shape.manager (.instruction .raw)).encode longMessage =
        .error (.lengthOverflow length width)) ∧
    ∃ bytes, Envelope.encode Tag.wormhole hintedEnvelope = .ok bytes ∧
      Envelope.decode (.manager .transfer) .optionalHint bytes [Tag.transfer, Tag.wormhole] =
        .ok (Tag.wormhole, hintedEnvelope) := by
  have long : (Shape.manager (.instruction .raw)).Overlong longMessage :=
    .inl (.inr ⟨List.replicate 256 0, rfl, by simp only [List.length_replicate]; decide⟩)
  have written : (Envelope.encode Tag.wormhole hintedEnvelope).isOk := by decide +kernel
  refine ⟨(wire_round_trip.1 _ longMessage).1 long, ?_⟩
  cases encodes : Envelope.encode Tag.wormhole hintedEnvelope with
  | error e => simp [encodes, Except.isOk, Except.toBool] at written
  | ok bytes =>
      exact ⟨bytes, rfl, (wire_round_trip.2 _ _ hintedEnvelope Tag.wormhole).1 bytes
        [Tag.transfer, Tag.wormhole] encodes (by decide)⟩

end TokenTransfer
