import TokenTransfer.Proofs.Wire.Canonical

/-!
# Which envelopes are accepted

How an envelope lies on the wire is said here without its reader, and the reader accepts just what
lies so with payloads that are accepted in their turn.  A payload is read from the bytes that its
count spans and from nothing else, so it makes no difference whether it is read along with the
envelope, or kept as raw bytes and read later.

What is refused is refused for its tag, which may be unknown, or because the bytes are malformed.
Only the tag of the envelope itself can be unknown: no reader behind it, at whatever depth, fails in
that way.

## Main definitions

* `Envelope.LaidOut` - the layout of an envelope, with its payloads as bytes
* `Envelope.Parses` - an envelope whose payloads are raw bytes, read as one of given shapes
* `Reader.FailsMalformed` - a reader that fails only on malformed bytes
* `StrictLayout` - the layouts whose readers do so

## Main statements

* `Envelope.decode_eq_ok_iff_laidOut` - what is accepted
* `Shape.failsMalformed_decode`, `Envelope.failsMalformed_readBody` - why the rest is not
* `decode_iff_two_phases` - reading the payloads at once, or later, in either order
* `decode_accepts_iff` - acceptance and refusal, with one tag or several
-/

namespace TokenTransfer

open Fallible

/-! ### The bytes are at fault -/

namespace Reader

variable {α β : Type}

/-- **The bytes are at fault** where the reader fails, and not a tag that nobody knows. -/
def FailsMalformed (reader : Reader α) : Prop :=
  ∀ bytes, reader.FailsWithin bytes fun e => e.isMalformed = true

theorem failsMalformed_pure (a : α) : FailsMalformed (pure a) := fun _ => failsWithin_pure a

/-- The bytes are at fault in a composition, if they are in each of its parts. -/
theorem FailsMalformed.bind {reader : Reader α} {next : α → Reader β}
    (first : reader.FailsMalformed) (rest : ∀ a, (next a).FailsMalformed) :
    FailsMalformed (reader >>= next) :=
  fun bytes => (first bytes).bind rest

theorem failsMalformed_take (count : Nat) : (take count).FailsMalformed := by
  intro bytes
  refine failsWithin_get.bind fun rest left => ?_
  exact FailsWithin.ite ((failsWithin_set _).bind fun _ _ => failsWithin_pure _)
    (failsWithin_throw rfl)

theorem failsMalformed_fixed (count : Nat) : (fixed count).FailsMalformed := by
  intro bytes
  unfold Fallible.FailsWithin Fallible.outcome
  rw [runOn_fixed]
  split
  · exact Outcome.failsWithin_ok _
  · exact Outcome.failsWithin_error rfl

theorem failsMalformed_finish (frame : String) : (finish frame).FailsMalformed := by
  intro bytes
  refine failsWithin_get.bind fun rest left => ?_
  exact FailsWithin.ite (failsWithin_throw rfl) (failsWithin_pure _)

/-- A number is missing bytes, or its width is not supported. -/
theorem failsMalformed_uint (width : Nat) : (uint width).FailsMalformed := by
  intro bytes
  refine FailsWithin.ite ?_ (failsWithin_throw rfl)
  exact (failsMalformed_take width).bind (fun _ => failsMalformed_pure _) bytes

/-- Counted bytes are missing their count, or some of the bytes. -/
theorem failsMalformed_counted (width : Nat) : (counted width).FailsMalformed := by
  refine (failsMalformed_uint width).bind fun declared => ?_
  intro bytes
  refine failsWithin_get.bind fun rest left => ?_
  exact FailsWithin.ite (failsMalformed_take _ left) (failsWithin_throw rfl)

/-- A counted payload fails as what is counted does. -/
theorem failsMalformed_nested {decode : Bytes → Except WireError α}
    (strict : ∀ bytes, Outcome.FailsWithin (decode bytes) fun e => e.isMalformed = true)
    (width : Nat) : (nested decode width).FailsMalformed :=
  (failsMalformed_counted width).bind fun bytes _ => strict bytes

/-- A frame whose own tag is another is malformed. -/
theorem failsMalformed_tag (expected : Tag) (frame : String) :
    (tag expected frame).FailsMalformed := by
  refine (failsMalformed_fixed 4).bind fun found => ?_
  intro bytes
  exact FailsWithin.ite (failsWithin_throw rfl) (failsWithin_pure _)

/-- Bytes that are left over are at fault too. -/
theorem FailsMalformed.whole {reader : Reader α} (strict : reader.FailsMalformed) (frame : String)
    (bytes : Bytes) :
    Outcome.FailsWithin (whole reader frame bytes) fun e => e.isMalformed = true :=
  strict.bind (fun _ => (failsMalformed_finish frame).bind fun _ => failsMalformed_pure _) bytes

end Reader

/-- A layout whose reader fails only on malformed bytes. -/
class StrictLayout (α : Type) [Layout α] : Prop where
  strict : (Layout.read : Reader α).FailsMalformed

namespace StrictLayout

open Reader

instance {n : Nat} : StrictLayout (FixedBytes n) := ⟨failsMalformed_fixed n⟩

instance : StrictLayout UInt8 := ⟨(failsMalformed_fixed 1).bind fun _ => failsMalformed_pure _⟩

instance : StrictLayout UInt16 := ⟨(failsMalformed_fixed 2).bind fun _ => failsMalformed_pure _⟩

instance : StrictLayout UInt64 := ⟨(failsMalformed_fixed 8).bind fun _ => failsMalformed_pure _⟩

instance : StrictLayout ChainId := ⟨FailsMalformed.bind strict fun _ => failsMalformed_pure _⟩

instance : StrictLayout Amount :=
  ⟨FailsMalformed.bind strict fun _ => FailsMalformed.bind strict fun _ => failsMalformed_pure _⟩

instance : StrictLayout Transfer :=
  ⟨(failsMalformed_tag Tag.transfer Transfer.frame).bind fun _ =>
    FailsMalformed.bind strict fun _ => FailsMalformed.bind strict fun _ =>
      FailsMalformed.bind strict fun _ => FailsMalformed.bind strict fun _ =>
        failsMalformed_pure _⟩

instance : StrictLayout Registration :=
  ⟨(failsMalformed_tag Tag.registration Registration.frame).bind fun _ =>
    FailsMalformed.bind strict fun _ => FailsMalformed.bind strict fun _ => failsMalformed_pure _⟩

end StrictLayout

/-- A hint that cannot be read is at fault, whatever its version. -/
theorem RelayHint.failsMalformed_decode (bytes : Bytes) :
    Outcome.FailsWithin (RelayHint.decode bytes) fun e => e.isMalformed = true :=
  ((Reader.failsMalformed_uint 1).bind fun _ => Reader.failsMalformed_pure _).whole
    RelayHint.frame bytes

namespace Shape

/-- **What is no payload of a shape is malformed**, at whatever depth the fault lies. -/
theorem failsMalformed_decode (shape : Shape) (bytes : Bytes) :
    Outcome.FailsWithin (shape.decode bytes) fun e => e.isMalformed = true := by
  induction shape generalizing bytes with
  | raw => exact Outcome.failsWithin_ok bytes
  | transfer => exact Reader.FailsMalformed.whole StrictLayout.strict Transfer.frame bytes
  | hint => exact RelayHint.failsMalformed_decode bytes
  | optionalHint =>
      cases bytes with
      | nil => exact Outcome.failsWithin_ok none
      | cons b rest => exact (RelayHint.failsMalformed_decode (b :: rest)).map some
  | registration => exact Reader.FailsMalformed.whole StrictLayout.strict Registration.frame bytes
  | manager payload ih =>
      refine Reader.FailsMalformed.whole ?_ ManagerMessage.frame bytes
      exact Reader.FailsMalformed.bind StrictLayout.strict fun _ =>
        Reader.FailsMalformed.bind StrictLayout.strict fun _ =>
          (Reader.failsMalformed_nested ih 2).bind fun _ => Reader.failsMalformed_pure _
  | instruction payload ih =>
      refine Reader.FailsMalformed.whole ?_ Instruction.frame bytes
      exact Reader.FailsMalformed.bind StrictLayout.strict fun _ =>
        (Reader.failsMalformed_nested ih 1).bind fun _ => Reader.failsMalformed_pure _

end Shape

namespace Envelope

variable {manager transceiver : Shape} {bytes : Bytes} {tag : Tag} {tags : List Tag}

/-- Behind a tag that is known, what is no envelope is malformed. -/
theorem failsMalformed_readBody (manager transceiver : Shape) :
    (readBody manager transceiver).FailsMalformed :=
  Reader.FailsMalformed.bind StrictLayout.strict fun _ =>
    Reader.FailsMalformed.bind StrictLayout.strict fun _ =>
      (Reader.failsMalformed_nested manager.failsMalformed_decode 2).bind fun _ =>
        (Reader.failsMalformed_nested transceiver.failsMalformed_decode 2).bind fun _ =>
          (Reader.failsMalformed_finish frame).bind fun _ => Reader.failsMalformed_pure _

/-! ### The tag -/

/-- Four bytes or more begin with a tag. -/
theorem exists_tag_append (enough : 4 ≤ bytes.length) :
    ∃ (tag : Tag) (rest : Bytes), bytes = tag.bytes ++ rest :=
  ⟨⟨bytes.take 4, List.length_take_of_le enough⟩, bytes.drop 4,
    (List.take_append_drop 4 bytes).symm⟩

theorem runOn_fixed_of_short (short : bytes.length < 4) :
    (Reader.fixed 4).runOn bytes = (.error .truncated, []) := by
  rw [Reader.runOn_fixed, dif_neg (Nat.not_le.mpr short)]

/-- Too few bytes for a tag are truncated, whichever tags are looked for. -/
theorem decode_of_short (short : bytes.length < 4) :
    decode manager transceiver bytes tags = .error .truncated := by
  unfold decode Fallible.outcome
  rw [runOn_bind_of_error (runOn_fixed_of_short short)]

/-- So are they where just one tag is looked for. -/
theorem decodeAs_of_short (short : bytes.length < 4) :
    decodeAs manager transceiver tag bytes = .error .truncated := by
  unfold decodeAs Reader.tag Fallible.outcome
  rw [runOn_bind_of_error (runOn_bind_of_error (runOn_fixed_of_short short))]

/-- The tag decides whether the body is read at all. -/
theorem decode_tag_append (tag : Tag) (rest : Bytes) :
    decode manager transceiver (tag.bytes ++ rest) tags =
      if tag ∈ tags then ((readBody manager transceiver).outcome rest).map fun body => (tag, body)
      else .error (.unknownTag tag) := by
  unfold decode Fallible.outcome
  rw [runOn_bind_of_ok (Reader.reads_fixed tag rest)]
  by_cases known : tag ∈ tags
  · rw [if_pos known, if_pos known, ← map_eq_pure_bind, runOn_map]
  · rw [if_neg known, if_neg known]
    rfl

/-- Where one tag is looked for, another one is a mismatch. -/
theorem decodeAs_tag_append (found : Tag) (rest : Bytes) :
    decodeAs manager transceiver tag (found.bytes ++ rest) =
      if found = tag then (readBody manager transceiver).outcome rest
      else .error (.tagMismatch frame tag found) := by
  unfold decodeAs Fallible.outcome
  by_cases same : found = tag
  · subst same
    rw [if_pos rfl, runOn_bind_of_ok (Reader.reads_tag found frame rest)]
  · have refused : (Reader.tag tag frame).runOn (found.bytes ++ rest) =
        (.error (.tagMismatch frame tag found), rest) := by
      unfold Reader.tag
      rw [runOn_bind_of_ok (Reader.reads_fixed found rest), if_pos same]
      rfl
    rw [if_neg same, runOn_bind_of_error refused]

/-- **Only the tag in front can be unknown**, and it is when it is not looked for. -/
theorem decode_eq_unknownTag_iff :
    decode manager transceiver bytes tags = .error (.unknownTag tag) ↔
      (∃ rest, bytes = tag.bytes ++ rest) ∧ tag ∉ tags := by
  constructor
  · intro refused
    rcases Nat.lt_or_ge bytes.length 4 with short | enough
    · rw [decode_of_short short] at refused
      cases refused
    · obtain ⟨found, rest, rfl⟩ := exists_tag_append enough
      rw [decode_tag_append] at refused
      split at refused
      · -- A failure of the body is malformed, so it is none of an unknown tag.
        have strict := (failsMalformed_readBody manager transceiver rest).map fun body =>
          (found, body)
        cases strict _ refused
      · rename_i unknown
        cases refused
        exact ⟨⟨rest, rfl⟩, unknown⟩
  · rintro ⟨⟨rest, rfl⟩, unknown⟩
    rw [decode_tag_append, if_neg unknown]

/-- Whatever else is refused is malformed. -/
theorem malformed_or_unknownTag_of_decode {e : WireError}
    (refused : decode manager transceiver bytes tags = .error e) :
    e.isMalformed = true ∨
      ∃ tag rest, bytes = tag.bytes ++ rest ∧ tag ∉ tags ∧ e = .unknownTag tag := by
  by_cases malformed : e.isMalformed = true
  · exact .inl malformed
  · obtain ⟨tag, rfl⟩ : ∃ tag, e = .unknownTag tag := by
      cases e with
      | unknownTag tag => exact ⟨tag, rfl⟩
      | _ => exact absurd rfl malformed
    obtain ⟨⟨rest, same⟩, unknown⟩ := decode_eq_unknownTag_iff.mp refused
    exact .inr ⟨tag, rest, same, unknown, rfl⟩

/-- **One tag or a list of one** accept the same bytes as the same envelope. -/
theorem decodeAs_eq_ok_iff {envelope : Envelope manager.Val transceiver.Val} :
    decodeAs manager transceiver tag bytes = .ok envelope ↔
      decode manager transceiver bytes [tag] = .ok (tag, envelope) := by
  rcases Nat.lt_or_ge bytes.length 4 with short | enough
  · rw [decodeAs_of_short short, decode_of_short short]
    exact iff_of_false nofun nofun
  · obtain ⟨found, rest, rfl⟩ := exists_tag_append enough
    rw [decodeAs_tag_append, decode_tag_append]
    by_cases same : found = tag
    · subst same
      rw [if_pos rfl, if_pos (List.mem_singleton_self found), Outcome.map_eq_ok_iff]
      constructor
      · intro reads
        exact ⟨envelope, reads, rfl⟩
      · rintro ⟨_, reads, ⟨⟩⟩
        exact reads
    · rw [if_neg same, if_neg (mt List.mem_singleton.mp same)]
      exact iff_of_false nofun nofun

/-- They refuse the same bytes, though not for the same reason: a foreign tag is malformed where
only one is expected. -/
theorem exists_decodeAs_error_iff :
    (∃ e, decodeAs manager transceiver tag bytes = .error e) ↔
      ∃ e, decode manager transceiver bytes [tag] = .error e := by
  cases reads : decodeAs manager transceiver tag bytes with
  | ok envelope =>
      rw [decodeAs_eq_ok_iff.mp reads]
      exact iff_of_false nofun nofun
  | error e =>
      cases reads' : decode manager transceiver bytes [tag] with
      | error e' => exact iff_of_true ⟨e, rfl⟩ ⟨e', rfl⟩
      | ok found =>
          obtain ⟨found, envelope⟩ := found
          obtain ⟨known, -⟩ := eq_of_decode reads'
          cases List.mem_singleton.mp known
          cases reads.symm.trans (decodeAs_eq_ok_iff.mpr reads')

/-! ### The layout -/

/-- **How an envelope lies on the wire**: a tag, the two managers, and two payloads, each behind the
number of its bytes in two bytes, with nothing after them. -/
inductive LaidOut (tag : Tag) (source recipient : Address) (inner outer : Bytes) : Bytes → Prop
  | intro (innerCount outerCount : FixedBytes 2)
      (innerCounted : innerCount.toNat = inner.length)
      (outerCounted : outerCount.toNat = outer.length) :
      LaidOut tag source recipient inner outer
        (tag.bytes ++ source.bytes ++ recipient.bytes ++ innerCount.bytes ++ inner ++
          outerCount.bytes ++ outer)

/-- Counts have room for the payloads, and are written as such. -/
theorem laidOut_iff {source recipient : Address} {inner outer : Bytes} :
    LaidOut tag source recipient inner outer bytes ↔
      inner.length < Bytes.count 2 ∧ outer.length < Bytes.count 2 ∧
        bytes = tag.bytes ++ body source recipient inner outer := by
  constructor
  · rintro ⟨innerCount, outerCount, innerCounted, outerCounted⟩
    have fits := innerCount.toNat_lt
    have fits' := outerCount.toNat_lt
    rw [innerCounted] at fits
    rw [outerCounted] at fits'
    refine ⟨fits, fits', ?_⟩
    rw [body, ← innerCounted, ← outerCounted, innerCount.bigEndian_toNat,
      outerCount.bigEndian_toNat]
    simp only [List.append_assoc]
  · rintro ⟨fits, fits', rfl⟩
    have counted {payload : Bytes} (fits : payload.length < Bytes.count 2) :
        (FixedBytes.ofNat 2 payload.length).toNat = payload.length := by
      rw [FixedBytes.toNat_ofNat, Nat.mod_eq_of_lt fits]
    have laidOut : LaidOut tag source recipient inner outer _ :=
      .intro _ _ (counted fits) (counted fits')
    simpa only [body, FixedBytes.ofNat, List.append_assoc] using laidOut

/-- **What is accepted**: the layout of an envelope under a tag that is looked for, around two
payloads that are accepted. -/
theorem decode_eq_ok_iff_laidOut {envelope : Envelope manager.Val transceiver.Val} :
    decode manager transceiver bytes tags = .ok (tag, envelope) ↔
      tag ∈ tags ∧ ∃ inner outer,
        LaidOut tag envelope.source envelope.recipient inner outer bytes ∧
        manager.decode inner = .ok envelope.managerPayload ∧
        transceiver.decode outer = .ok envelope.transceiverPayload := by
  constructor
  · intro decodes
    obtain ⟨known, inner, outer, innerDecodes, fits, outerDecodes, fits', same⟩ :=
      eq_of_decode decodes
    exact ⟨known, inner, outer, laidOut_iff.mpr ⟨fits, fits', same⟩, innerDecodes, outerDecodes⟩
  · rintro ⟨known, inner, outer, laidOut, innerDecodes, outerDecodes⟩
    obtain ⟨fits, fits', rfl⟩ := laidOut_iff.mp laidOut
    rw [decode_of_body fits fits' innerDecodes outerDecodes, if_pos known]

/-! ### Payloads that are read later -/

/-- **The payloads are read as their shapes.**  The managers are the same, and each raw payload is
read as the one that the envelope has. -/
structure Parses (raw : Envelope Bytes Bytes) (envelope : Envelope manager.Val transceiver.Val) :
    Prop where
  source : raw.source = envelope.source
  recipient : raw.recipient = envelope.recipient
  managerPayload : manager.decode raw.managerPayload = .ok envelope.managerPayload
  transceiverPayload : transceiver.decode raw.transceiverPayload = .ok envelope.transceiverPayload

/-- An envelope is accepted when it is with its payloads as raw bytes, and these are. -/
theorem decode_eq_ok_iff_parses {envelope : Envelope manager.Val transceiver.Val} :
    decode manager transceiver bytes tags = .ok (tag, envelope) ↔
      ∃ raw, decode .raw .raw bytes tags = .ok (tag, raw) ∧ Parses raw envelope := by
  rw [decode_eq_ok_iff_laidOut]
  constructor
  · rintro ⟨known, inner, outer, laidOut, innerDecodes, outerDecodes⟩
    refine ⟨⟨envelope.source, envelope.recipient, inner, outer⟩, ?_,
      rfl, rfl, innerDecodes, outerDecodes⟩
    exact decode_eq_ok_iff_laidOut.mpr ⟨known, inner, outer, laidOut, rfl, rfl⟩
  · rintro ⟨raw, decodes, source, recipient, innerDecodes, outerDecodes⟩
    obtain ⟨known, inner, outer, laidOut, same, same'⟩ := decode_eq_ok_iff_laidOut.mp decodes
    cases same
    cases same'
    rw [source, recipient] at laidOut
    exact ⟨known, _, _, laidOut, innerDecodes, outerDecodes⟩

/-- The second phase reads the payload of the transceiver and leaves the rest as it is. -/
theorem parseTransceiver_eq_ok_iff {M : Type} {shape : Shape} {raw : Envelope M Bytes}
    {envelope : Envelope M shape.Val} :
    raw.parseTransceiver shape = .ok envelope ↔
      ∃ v, shape.decode raw.transceiverPayload = .ok v ∧
        envelope = { raw with transceiverPayload := v } :=
  Outcome.bind_pure_eq_ok_iff

variable {raw : Envelope Bytes Bytes} {envelope : Envelope manager.Val transceiver.Val}

/-- **The second phase in one order**: first the payload of the manager. -/
theorem parseManager_parseTransceiver_eq_ok_iff :
    (raw.parseManager manager >>= fun half => half.parseTransceiver transceiver) = .ok envelope ↔
      Parses raw envelope := by
  rw [Outcome.bind_eq_ok_iff]
  constructor
  · rintro ⟨half, parses, parses'⟩
    obtain ⟨v, decodes, rfl⟩ := parseManager_eq_ok_iff.mp parses
    obtain ⟨v', decodes', rfl⟩ := parseTransceiver_eq_ok_iff.mp parses'
    exact ⟨rfl, rfl, decodes, decodes'⟩
  · obtain ⟨source, recipient, v, v'⟩ := envelope
    rintro ⟨rfl, rfl, decodes, decodes'⟩
    exact ⟨_, parseManager_eq_ok_iff.mpr ⟨v, decodes, rfl⟩,
      parseTransceiver_eq_ok_iff.mpr ⟨v', decodes', rfl⟩⟩

/-- **The second phase in the other order** reads the same. -/
theorem parseTransceiver_parseManager_eq_ok_iff :
    (raw.parseTransceiver transceiver >>= fun half => half.parseManager manager) = .ok envelope ↔
      Parses raw envelope := by
  rw [Outcome.bind_eq_ok_iff]
  constructor
  · rintro ⟨half, parses, parses'⟩
    obtain ⟨v, decodes, rfl⟩ := parseTransceiver_eq_ok_iff.mp parses
    obtain ⟨v', decodes', rfl⟩ := parseManager_eq_ok_iff.mp parses'
    exact ⟨rfl, rfl, decodes', decodes⟩
  · obtain ⟨source, recipient, v, v'⟩ := envelope
    rintro ⟨rfl, rfl, decodes, decodes'⟩
    exact ⟨_, parseTransceiver_eq_ok_iff.mpr ⟨v', decodes', rfl⟩,
      parseManager_eq_ok_iff.mpr ⟨v, decodes, rfl⟩⟩

end Envelope

/-- A message that was read with raw bytes is read again with a payload. -/
theorem ManagerMessage.parse_eq_ok_iff {shape : Shape} {raw : ManagerMessage Bytes}
    {message : ManagerMessage shape.Val} :
    raw.parse shape = .ok message ↔
      ∃ v, shape.decode raw.payload = .ok v ∧ message = { raw with payload := v } :=
  Outcome.bind_pure_eq_ok_iff

/-- A manager message is accepted when it is with its payload as raw bytes, and these are. -/
theorem Shape.decode_manager_eq_ok_iff {payload : Shape} {bytes : Bytes}
    {message : (manager payload).Val} :
    (manager payload).decode bytes = .ok message ↔
      ∃ raw, (manager .raw).decode bytes = .ok raw ∧ raw.parse payload = .ok message := by
  constructor
  · intro decodes
    obtain ⟨inner, decodes', fits, rfl⟩ := eq_of_decode_manager decodes
    refine ⟨⟨message.id, message.sender, inner⟩, decode_manager_of_framed _ _ fits rfl, ?_⟩
    exact Outcome.bind_eq_ok_iff.mpr ⟨message.payload, decodes', rfl⟩
  · rintro ⟨raw, decodes, parses⟩
    obtain ⟨inner, same, fits, rfl⟩ := eq_of_decode_manager decodes
    obtain ⟨v, decodes', rfl⟩ := ManagerMessage.parse_eq_ok_iff.mp parses
    cases same
    exact decode_manager_of_framed _ _ fits decodes'

/-! ### The statements -/

/-- **The two phases of reading are one.**  An envelope is read under one of several tags exactly
when it is so with its payloads as raw bytes and these are then read as their shapes, the manager's
first or the transceiver's; the envelope and the tag are the same.  A manager message is read
exactly when it is with its payload as raw bytes and these are read as its shape. -/
theorem decode_iff_two_phases :
    (∀ (manager transceiver : Shape) (bytes : Bytes) (tags : List Tag) (tag : Tag)
        (envelope : Envelope manager.Val transceiver.Val),
      (Envelope.decode manager transceiver bytes tags = .ok (tag, envelope) ↔
        ∃ raw, Envelope.decode .raw .raw bytes tags = .ok (tag, raw) ∧
          (raw.parseManager manager >>= fun half => half.parseTransceiver transceiver) =
            .ok envelope) ∧
      (Envelope.decode manager transceiver bytes tags = .ok (tag, envelope) ↔
        ∃ raw, Envelope.decode .raw .raw bytes tags = .ok (tag, raw) ∧
          (raw.parseTransceiver transceiver >>= fun half => half.parseManager manager) =
            .ok envelope)) ∧
    ∀ (payload : Shape) (bytes : Bytes) (message : (Shape.manager payload).Val),
      (Shape.manager payload).decode bytes = .ok message ↔
        ∃ raw, (Shape.manager .raw).decode bytes = .ok raw ∧ raw.parse payload = .ok message := by
  refine ⟨fun manager transceiver bytes tags tag envelope => ⟨?_, ?_⟩,
    fun payload bytes message => Shape.decode_manager_eq_ok_iff⟩
  · simp only [Envelope.parseManager_parseTransceiver_eq_ok_iff]
    exact Envelope.decode_eq_ok_iff_parses
  · simp only [Envelope.parseTransceiver_parseManager_eq_ok_iff]
    exact Envelope.decode_eq_ok_iff_parses

/-- What lies as an envelope may have a payload that is none. -/
example :
    (Envelope.decode .raw .raw looseBytes [Tag.wormhole]).isOk = true ∧
      (Envelope.decode (.manager .transfer) .optionalHint looseBytes [Tag.wormhole]).isOk =
        false := by
  decide

/-- **What is accepted, and why the rest is not.**  Fewer than four bytes are truncated.  A tag is
unknown exactly when it is in front and is not looked for.  What is accepted are the bytes that lie
as an envelope does, under a tag that is looked for and around two payloads that are accepted.  All
other refusals are for malformed bytes, and so is every refusal of a payload, at whatever depth.  One
tag and a list of that tag accept the same bytes as the same envelope, and refuse the same. -/
theorem decode_accepts_iff (manager transceiver : Shape) (bytes : Bytes) (tags : List Tag) :
    (bytes.length < 4 →
      Envelope.decode manager transceiver bytes tags = .error .truncated) ∧
    (∀ tag, Envelope.decode manager transceiver bytes tags = .error (.unknownTag tag) ↔
      (∃ rest, bytes = tag.bytes ++ rest) ∧ tag ∉ tags) ∧
    (∀ tag envelope,
      Envelope.decode manager transceiver bytes tags = .ok (tag, envelope) ↔
        tag ∈ tags ∧ ∃ inner outer,
          Envelope.LaidOut tag envelope.source envelope.recipient inner outer bytes ∧
          manager.decode inner = .ok envelope.managerPayload ∧
          transceiver.decode outer = .ok envelope.transceiverPayload) ∧
    (∀ e, Envelope.decode manager transceiver bytes tags = .error e →
      e.isMalformed = true ∨
        ∃ tag rest, bytes = tag.bytes ++ rest ∧ tag ∉ tags ∧ e = .unknownTag tag) ∧
    (∀ (shape : Shape) (payload : Bytes) (e : WireError),
      shape.decode payload = .error e → e.isMalformed = true) ∧
    ∀ tag,
      (∀ envelope, Envelope.decodeAs manager transceiver tag bytes = .ok envelope ↔
        Envelope.decode manager transceiver bytes [tag] = .ok (tag, envelope)) ∧
      ((∃ e, Envelope.decodeAs manager transceiver tag bytes = .error e) ↔
        ∃ e, Envelope.decode manager transceiver bytes [tag] = .error e) :=
  ⟨Envelope.decode_of_short, fun _ => Envelope.decode_eq_unknownTag_iff,
    fun _ _ => Envelope.decode_eq_ok_iff_laidOut,
    fun _ => Envelope.malformed_or_unknownTag_of_decode,
    fun shape payload => shape.failsMalformed_decode payload,
    fun _ => ⟨fun _ => Envelope.decodeAs_eq_ok_iff, Envelope.exists_decodeAs_error_iff⟩⟩

/-- Three bytes have no tag; the loose envelope has one that may be unknown, and its raw payload is
no message of a manager. -/
theorem decode_accepts_iff_of_loose :
    Envelope.decode .raw .optionalHint [0x99, 0x45, 0xff] [Tag.wormhole] = .error .truncated ∧
    Envelope.decode .raw .optionalHint looseBytes [Tag.transfer] =
      .error (.unknownTag Tag.wormhole) ∧
    (∃ inner outer, Envelope.LaidOut Tag.wormhole looseEnvelope.source looseEnvelope.recipient
      inner outer looseBytes) ∧
    ∃ e, Envelope.decode (.manager .transfer) .optionalHint looseBytes [Tag.wormhole] = .error e ∧
      e.isMalformed = true := by
  refine ⟨(decode_accepts_iff .raw .optionalHint [0x99, 0x45, 0xff] [Tag.wormhole]).1 (by decide),
    ((decode_accepts_iff .raw .optionalHint looseBytes [Tag.transfer]).2.1 Tag.wormhole).mpr
      ⟨⟨_, rfl⟩, by decide⟩, ?_, .truncated, rfl, ?_⟩
  · obtain ⟨-, inner, outer, laidOut, -⟩ :=
      ((decode_accepts_iff .raw .optionalHint looseBytes [Tag.wormhole]).2.2.1 Tag.wormhole
        looseEnvelope).mp rfl
    exact ⟨inner, outer, laidOut⟩
  · exact (decode_accepts_iff .raw .raw [] []).2.2.2.2.1 (.manager .transfer) [1, 2, 3]
      .truncated rfl

end TokenTransfer
