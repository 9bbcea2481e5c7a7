import TokenTransfer.Proofs.Wire.RoundTrip

/-!
# Only what is written is read

The converse of the round trip.  What a reader takes off the front of the bytes is what a writer
would have put there for the value that was read, so a byte string that is read as a value is the
one way to write it.  The one exception is a hint, whose reader takes any byte for a flag.  It is
always the last byte of a payload, at whatever depth it is nested: a frame puts its fields and a count
before its payload and nothing after it.

## Main definitions

* `Reader.Recovers` - what a reader takes is what is written for the value it gives
* `CanonicalLayout` - the layouts whose readers take what they encode
* `RelayHint.Respelled` - the same bytes, with the hint spelled as a writer spells it
* `Shape.hint?`, `Shape.HintFree` - the hint in a value, and the shapes that have none
* `Shape.Canonical` - the shapes whose values are read only from their own bytes

## Main statements

* `Shape.respelled_of_decode`, `Envelope.respelled_of_decode` - what is read is written again, with
  its hint spelled out
* `Shape.HintFree.canonical` - only a hint has more than one spelling
* `Envelope.decode_eq_ok_iff` - an envelope is read from its own bytes and no others
* `accepted_bytes_canonical` - all this of the whole format
-/

namespace TokenTransfer

open Fallible

namespace Reader

variable {α : Type}

/-- **The reader recovers what was written.**  It takes off the front what `bytes` says of the value
that it gives. -/
def Recovers (reader : Reader α) (bytes : α → Bytes) : Prop :=
  ∀ {input : Bytes} {a : α} {rest : Bytes},
    reader.runOn input = (.ok a, rest) → input = bytes a ++ rest

theorem recovers_fixed (n : Nat) : (fixed n).Recovers FixedBytes.bytes := by
  intro input word rest runs
  rw [runOn_fixed] at runs
  split at runs
  · cases runs
    exact (List.take_append_drop n input).symm
  · cases runs

theorem recovers_tag (expected : Tag) (frame : String) :
    (tag expected frame).Recovers fun _ => expected.bytes := by
  intro input _ rest runs
  obtain ⟨found, rest', reads, runs⟩ := runOn_bind_eq_ok_iff.mp runs
  by_cases same : found = expected
  · subst same
    simp only [ne_eq, not_true_eq_false, if_false] at runs
    cases runs
    exact recovers_fixed 4 reads
  · simp [same] at runs

/-- A number is recovered in all its bytes: a word has room for what eight of them can say. -/
theorem eq_of_runOn_uint {width : Nat} {input rest : Bytes} {value : UInt64}
    (runs : (uint width).runOn input = (.ok value, rest)) :
    value.toNat < Bytes.count width ∧ input = Bytes.bigEndian width value.toNat ++ rest := by
  unfold uint at runs
  split at runs
  · rename_i supported
    obtain ⟨bytes, rest', takes, runs⟩ := runOn_bind_eq_ok_iff.mp runs
    rw [runOn_take] at takes
    split at takes
    · rename_i enough
      cases takes
      cases runs
      have length : (input.take width).length = width := List.length_take_of_le enough
      have lt := Bytes.value_lt (input.take width)
      have written := Bytes.bigEndian_value (input.take width)
      rw [length] at lt written
      have number : (UInt64.ofNat (Bytes.value (input.take width))).toNat =
          Bytes.value (input.take width) := WidthSupported.toNat_ofNat supported lt
      rw [number, written, List.take_append_drop]
      exact ⟨lt, rfl⟩
    · cases takes
  · cases runs

/-- A counted byte string stands behind its number, which its count can say. -/
theorem eq_of_runOn_counted {width : Nat} {input bytes rest : Bytes}
    (runs : (counted width).runOn input = (.ok bytes, rest)) :
    bytes.length < Bytes.count width ∧
      input = Bytes.bigEndian width bytes.length ++ (bytes ++ rest) := by
  unfold counted at runs
  obtain ⟨declared, rest', numbered, runs⟩ := runOn_bind_eq_ok_iff.mp runs
  obtain ⟨fits, written⟩ := eq_of_runOn_uint numbered
  rw [runOn_bind_of_ok (runOn_get _)] at runs
  split at runs
  · rename_i enough
    rw [runOn_take, if_pos enough] at runs
    cases runs
    have length : (rest'.take declared.toNat).length = declared.toNat :=
      List.length_take_of_le enough
    rw [length, List.take_append_drop]
    exact ⟨fits, written⟩
  · cases runs

/-- What was read as a nested payload is its count and the bytes that it was read from. -/
theorem eq_of_runOn_nested {decode : Bytes → Except WireError α} {width : Nat}
    {input rest : Bytes} {a : α} (runs : (nested decode width).runOn input = (.ok a, rest)) :
    ∃ bytes, decode bytes = .ok a ∧ bytes.length < Bytes.count width ∧
      input = (Bytes.bigEndian width bytes.length ++ bytes) ++ rest := by
  obtain ⟨bytes, rest', counts, decodes⟩ := runOn_bind_eq_ok_iff.mp runs
  obtain ⟨fits, rfl⟩ := eq_of_runOn_counted counts
  obtain ⟨decoded, rfl⟩ := Prod.mk.inj decodes
  exact ⟨bytes, decoded, fits, (List.append_assoc ..).symm⟩

theorem eq_of_runOn_finish {frame : String} {input rest : Bytes} {u : Unit}
    (runs : (finish frame).runOn input = (.ok u, rest)) : input = [] ∧ rest = [] := by
  rw [runOn_finish] at runs
  split at runs
  · rename_i empty
    cases runs
    exact ⟨empty, empty⟩
  · cases runs

/-- A frame that was read is all there was. -/
theorem runOn_of_whole {reader : Reader α} {frame : String} {input : Bytes} {a : α}
    (reads : whole reader frame input = .ok a) : reader.runOn input = (.ok a, []) := by
  obtain ⟨left, runs⟩ : ∃ left, (do let a ← reader; finish frame; return a : Reader α).runOn input =
      (.ok a, left) := ⟨_, Prod.ext reads rfl⟩
  obtain ⟨a', rest, runs', ends⟩ := runOn_bind_eq_ok_iff.mp runs
  obtain ⟨_, rest', finishes, returns⟩ := runOn_bind_eq_ok_iff.mp ends
  obtain ⟨rfl, rfl⟩ := eq_of_runOn_finish finishes
  cases returns
  exact runs'

end Reader

/-! ### Layouts -/

/-- A layout whose reader takes what it encodes. -/
class CanonicalLayout (α : Type) [Layout α] : Prop where
  recovers : (Layout.read : Reader α).Recovers Layout.encode

namespace CanonicalLayout

open Reader

instance {n : Nat} : CanonicalLayout (FixedBytes n) := ⟨recovers_fixed n⟩

/-- A word is recovered in as many bytes as it has. -/
private theorem recovers_word {α : Type} (width : Nat) {ofNat : Nat → α} {toNat : α → Nat}
    (back : ∀ n, n < Bytes.count width → toNat (ofNat n) = n) :
    Reader.Recovers (do return ofNat (← Reader.fixed width).toNat) fun a =>
      Bytes.bigEndian width (toNat a) := by
  intro input a rest runs
  obtain ⟨word, rest', reads, runs⟩ := runOn_bind_eq_ok_iff.mp runs
  cases runs
  show input = Bytes.bigEndian width (toNat (ofNat word.toNat)) ++ rest
  rw [back _ word.toNat_lt, word.bigEndian_toNat]
  exact recovers_fixed width reads

instance : CanonicalLayout UInt8 := ⟨recovers_word 1 fun _ lt => UInt8.toNat_ofNat_of_lt' lt⟩

instance : CanonicalLayout UInt16 := ⟨recovers_word 2 fun _ lt => UInt16.toNat_ofNat_of_lt' lt⟩

instance : CanonicalLayout UInt64 := ⟨recovers_word 8 fun _ lt => UInt64.toNat_ofNat_of_lt' lt⟩

instance : CanonicalLayout ChainId where
  recovers runs := by
    obtain ⟨id, _, idRead, runs⟩ := runOn_bind_eq_ok_iff.mp runs
    cases runs
    have written := recovers idRead
    exact written

instance : CanonicalLayout Amount where
  recovers runs := by
    obtain ⟨decimals, _, decimalsRead, runs⟩ := runOn_bind_eq_ok_iff.mp runs
    obtain ⟨units, _, unitsRead, runs⟩ := runOn_bind_eq_ok_iff.mp runs
    cases runs
    rw [recovers decimalsRead, recovers unitsRead]
    exact (List.append_assoc ..).symm

instance : CanonicalLayout Transfer where
  recovers runs := by
    obtain ⟨_, _, tagged, runs⟩ := runOn_bind_eq_ok_iff.mp runs
    obtain ⟨amount, _, amountRead, runs⟩ := runOn_bind_eq_ok_iff.mp runs
    obtain ⟨token, _, tokenRead, runs⟩ := runOn_bind_eq_ok_iff.mp runs
    obtain ⟨recipient, _, recipientRead, runs⟩ := runOn_bind_eq_ok_iff.mp runs
    obtain ⟨chain, _, chainRead, runs⟩ := runOn_bind_eq_ok_iff.mp runs
    cases runs
    rw [recovers_tag _ _ tagged, recovers amountRead, recovers tokenRead, recovers recipientRead,
      recovers chainRead]
    simp [Layout.encode]

instance : CanonicalLayout Registration where
  recovers runs := by
    obtain ⟨_, _, tagged, runs⟩ := runOn_bind_eq_ok_iff.mp runs
    obtain ⟨chain, _, chainRead, runs⟩ := runOn_bind_eq_ok_iff.mp runs
    obtain ⟨transceiver, _, transceiverRead, runs⟩ := runOn_bind_eq_ok_iff.mp runs
    cases runs
    rw [recovers_tag _ _ tagged, recovers chainRead, recovers transceiverRead]
    simp [Layout.encode]

end CanonicalLayout

/-- A frame of a fixed layout is read only from its own bytes. -/
theorem Layout.eq_encode_of_decode {α : Type} [Layout α] [CanonicalLayout α] {frame : String}
    {bytes : Bytes} {a : α} (decodes : Layout.decode frame bytes = .ok a) :
    bytes = Layout.encode a := by
  have written := CanonicalLayout.recovers (Reader.runOn_of_whole decodes)
  rwa [List.append_nil] at written

/-! ### Hints -/

namespace RelayHint

/-- **The same bytes, the hint spelled out.**  Without a hint nothing changes.  A hint is the last
byte, which asks for the specialized relayer unless it is zero; it is all that may change, to one if
it is more. -/
def Respelled : Option RelayHint → Bytes → Bytes → Prop
  | none, bytes, bytes' => bytes' = bytes
  | some h, bytes, bytes' => ∃ front byte,
      bytes = front ++ [byte] ∧ (h.specialized = true ↔ byte ≠ 0) ∧
        bytes' = front ++ [if 1 < byte then 1 else byte]

/-- Another spelling is as long. -/
theorem Respelled.length_eq {hint : Option RelayHint} {bytes bytes' : Bytes}
    (respelled : Respelled hint bytes bytes') : bytes'.length = bytes.length := by
  cases hint with
  | none => exact congrArg List.length respelled
  | some h =>
      obtain ⟨front, byte, rfl, -, rfl⟩ := respelled
      simp

/-- What stands before a payload is written as it was read. -/
theorem Respelled.append_left {hint : Option RelayHint} {bytes bytes' : Bytes}
    (respelled : Respelled hint bytes bytes') (head : Bytes) :
    Respelled hint (head ++ bytes) (head ++ bytes') := by
  cases hint with
  | none => exact congrArg (head ++ ·) respelled
  | some h =>
      obtain ⟨front, byte, rfl, asks, rfl⟩ := respelled
      exact ⟨head ++ front, byte, (List.append_assoc ..).symm, asks, (List.append_assoc ..).symm⟩

/-- A payload whose hint is spelled out has as many bytes, so its count is the same. -/
theorem Respelled.framed {hint : Option RelayHint} {bytes bytes' : Bytes}
    (respelled : Respelled hint bytes bytes') (width : Nat) :
    Respelled hint (Bytes.bigEndian width bytes.length ++ bytes)
      (Bytes.bigEndian width bytes'.length ++ bytes') := by
  rw [respelled.length_eq]
  exact respelled.append_left _

/-- **A hint is one byte**, and is written as one or zero. -/
theorem respelled_of_decode {bytes : Bytes} {h : RelayHint} (decodes : decode bytes = .ok h) :
    ∃ bytes', Shape.hint.encode h = .ok bytes' ∧ Respelled (some h) bytes bytes' := by
  obtain ⟨value, rest, numbered, returns⟩ :=
    runOn_bind_eq_ok_iff.mp (Reader.runOn_of_whole decodes)
  cases returns
  obtain ⟨fits, rfl⟩ := Reader.eq_of_runOn_uint numbered
  obtain ⟨byte, rfl⟩ : ∃ byte : UInt8, value = byte.toUInt64 := by
    refine ⟨UInt8.ofNat value.toNat, UInt64.toNat.inj ?_⟩
    rw [UInt8.toNat_toUInt64, UInt8.toNat_ofNat_of_lt' fits]
  have zero : byte.toUInt64 = 0 ↔ byte = 0 := by
    rw [← UInt64.toNat_inj, ← UInt8.toNat_inj, UInt8.toNat_toUInt64]
    rfl
  refine ⟨[if 1 < byte then 1 else byte], ?_, [], byte, ?_, ?_, rfl⟩
  · by_cases silent : byte = 0
    · subst silent
      rfl
    · have asks : decide (byte.toUInt64 ≠ 0) = true := decide_eq_true (mt zero.mp silent)
      have written : (if 1 < byte then 1 else byte) = 1 := by
        split
        · rfl
        · rename_i small
          rw [← UInt8.toNat_inj] at silent ⊢
          rw [UInt8.lt_iff_toNat_lt] at small
          have one : (1 : UInt8).toNat = 1 := rfl
          have none : (0 : UInt8).toNat = 0 := rfl
          omega
      rw [asks, written]
      rfl
  · show [UInt8.ofNat byte.toUInt64.toNat] ++ [] = [byte]
    simp
  · rw [decide_eq_true_iff]
    exact not_congr zero

end RelayHint

/-! ### Shapes -/

namespace Shape

/-- What a manager message was read from: its fields, and a payload behind its count. -/
theorem eq_of_decode_manager {payload : Shape} {bytes : Bytes} {message : (manager payload).Val}
    (decodes : (manager payload).decode bytes = .ok message) :
    ∃ inner, payload.decode inner = .ok message.payload ∧ inner.length < Bytes.count 2 ∧
      bytes = Layout.encode message.id ++ (Layout.encode message.sender ++
        (Bytes.bigEndian 2 inner.length ++ inner)) := by
  have runs := Reader.runOn_of_whole decodes
  obtain ⟨id, _, idRead, runs⟩ := runOn_bind_eq_ok_iff.mp runs
  obtain ⟨sender, _, senderRead, runs⟩ := runOn_bind_eq_ok_iff.mp runs
  obtain ⟨v, _, nests, runs⟩ := runOn_bind_eq_ok_iff.mp runs
  cases runs
  obtain ⟨inner, decodes', fits, written⟩ := Reader.eq_of_runOn_nested nests
  rw [List.append_nil] at written
  refine ⟨inner, decodes', fits, ?_⟩
  rw [CanonicalLayout.recovers idRead, CanonicalLayout.recovers senderRead, written]

/-- What an instruction was read from: its index, and a payload behind its count. -/
theorem eq_of_decode_instruction {payload : Shape} {bytes : Bytes} {i : (instruction payload).Val}
    (decodes : (instruction payload).decode bytes = .ok i) :
    ∃ inner, payload.decode inner = .ok i.payload ∧ inner.length < Bytes.count 1 ∧
      bytes = Layout.encode i.index ++ (Bytes.bigEndian 1 inner.length ++ inner) := by
  have runs := Reader.runOn_of_whole decodes
  obtain ⟨index, _, indexRead, runs⟩ := runOn_bind_eq_ok_iff.mp runs
  obtain ⟨v, _, nests, runs⟩ := runOn_bind_eq_ok_iff.mp runs
  cases runs
  obtain ⟨inner, decodes', fits, written⟩ := Reader.eq_of_runOn_nested nests
  rw [List.append_nil] at written
  refine ⟨inner, decodes', fits, ?_⟩
  rw [CanonicalLayout.recovers indexRead, written]

/-- The hint in a value, at whatever depth.  A value has no more than one. -/
def hint? : (shape : Shape) → shape.Val → Option RelayHint
  | hint, h => some h
  | optionalHint, h => h
  | manager payload, message => payload.hint? message.payload
  | instruction payload, i => payload.hint? i.payload
  | raw, _ | transfer, _ | registration, _ => none

/-- **What is read is written again**, with its hint spelled out. -/
theorem respelled_of_decode (shape : Shape) {bytes : Bytes} {v : shape.Val}
    (decodes : shape.decode bytes = .ok v) :
    ∃ bytes', shape.encode v = .ok bytes' ∧
      RelayHint.Respelled (shape.hint? v) bytes bytes' := by
  induction shape generalizing bytes with
  | raw =>
      cases decodes
      exact ⟨bytes, rfl, rfl⟩
  | transfer | registration => exact ⟨_, rfl, (Layout.eq_encode_of_decode decodes).symm⟩
  | hint => exact RelayHint.respelled_of_decode decodes
  | optionalHint =>
      cases bytes with
      | nil =>
          cases decodes
          exact ⟨[], rfl, rfl⟩
      | cons b rest =>
          obtain ⟨h, decodes', rfl⟩ := Outcome.map_eq_ok_iff.mp decodes
          exact RelayHint.respelled_of_decode decodes'
  | manager payload ih =>
      obtain ⟨inner, decodes', fits, rfl⟩ := eq_of_decode_manager decodes
      obtain ⟨inner', encodes, respelled⟩ := ih decodes'
      have frames := Writer.framed_eq_ok_iff.mpr
        ⟨inner', encodes, respelled.length_eq ▸ fits, rfl⟩
      refine ⟨_, by rw [encode_manager, frames]; rfl, ?_⟩
      exact ((respelled.framed 2).append_left _).append_left _
  | instruction payload ih =>
      obtain ⟨inner, decodes', fits, rfl⟩ := eq_of_decode_instruction decodes
      obtain ⟨inner', encodes, respelled⟩ := ih decodes'
      have frames := Writer.framed_eq_ok_iff.mpr
        ⟨inner', encodes, respelled.length_eq ▸ fits, rfl⟩
      refine ⟨_, by rw [encode_instruction, frames]; rfl, ?_⟩
      exact (respelled.framed 1).append_left _

/-- No value of the shape has a hint. -/
def HintFree : Shape → Prop
  | hint | optionalHint => False
  | manager payload | instruction payload => payload.HintFree
  | raw | transfer | registration => True

/-- Where a shape has no place for a hint, no value has one. -/
theorem HintFree.hint?_eq_none {shape : Shape} (free : shape.HintFree) (v : shape.Val) :
    shape.hint? v = none := by
  induction shape with
  | raw | transfer | registration => rfl
  | hint | optionalHint => exact free.elim
  | manager payload ih => exact ih free v.payload
  | instruction payload ih => exact ih free v.payload

/-- **A shape whose values are read only from their own bytes.** -/
def Canonical (shape : Shape) : Prop :=
  ∀ {bytes : Bytes} {v : shape.Val}, shape.decode bytes = .ok v → shape.encode v = .ok bytes

/-- **A canonical shape is read from its own bytes and no others.** -/
theorem Canonical.decode_eq_ok_iff {shape : Shape} (canonical : shape.Canonical) {bytes : Bytes}
    {v : shape.Val} : shape.decode bytes = .ok v ↔ shape.encode v = .ok bytes :=
  ⟨canonical, shape.decode_of_encode⟩

/-- A manager's message is one with raw bytes, which are those of its payload. -/
theorem exists_encode_manager_raw {payload : Shape} {message : (manager payload).Val}
    {bytes : Bytes} (encodes : (manager payload).encode message = .ok bytes) :
    ∃ inner, (manager raw).encode ⟨message.id, message.sender, inner⟩ = .ok bytes := by
  rw [encode_manager] at encodes
  obtain ⟨framed, frames, same⟩ := Outcome.map_eq_ok_iff.mp encodes
  obtain ⟨inner, -, fits, rfl⟩ := Writer.framed_eq_ok_iff.mp frames
  refine ⟨inner, ?_⟩
  rw [encode_manager]
  exact Outcome.map_eq_ok_iff.mpr ⟨_, Writer.framed_eq_ok_iff.mpr ⟨inner, rfl, fits, rfl⟩, same⟩

/-- Only a hint has more than one spelling. -/
theorem HintFree.canonical {shape : Shape} (free : shape.HintFree) : shape.Canonical := by
  intro bytes v decodes
  obtain ⟨bytes', encodes, respelled⟩ := shape.respelled_of_decode decodes
  rw [free.hint?_eq_none] at respelled
  have same : bytes' = bytes := respelled
  rw [encodes, same]

end Shape

/-! ### Envelopes -/

namespace Envelope

variable {manager transceiver : Shape} {envelope : Envelope manager.Val transceiver.Val}

/-- What the body of an envelope was read from: the managers, and both payloads behind their
counts, with nothing after them. -/
theorem eq_of_runOn_readBody {input rest : Bytes}
    (runs : (readBody manager transceiver).runOn input = (.ok envelope, rest)) :
    ∃ inner outer,
      manager.decode inner = .ok envelope.managerPayload ∧ inner.length < Bytes.count 2 ∧
      transceiver.decode outer = .ok envelope.transceiverPayload ∧
      outer.length < Bytes.count 2 ∧
      input = body envelope.source envelope.recipient inner outer := by
  obtain ⟨source, _, sourceRead, runs⟩ := runOn_bind_eq_ok_iff.mp runs
  obtain ⟨recipient, _, recipientRead, runs⟩ := runOn_bind_eq_ok_iff.mp runs
  obtain ⟨managerPayload, _, innerRead, runs⟩ := runOn_bind_eq_ok_iff.mp runs
  obtain ⟨transceiverPayload, _, outerRead, runs⟩ := runOn_bind_eq_ok_iff.mp runs
  obtain ⟨_, _, finishes, runs⟩ := runOn_bind_eq_ok_iff.mp runs
  cases runs
  obtain ⟨rfl, -⟩ := Reader.eq_of_runOn_finish finishes
  obtain ⟨inner, decodes, fits, rfl⟩ := Reader.eq_of_runOn_nested innerRead
  obtain ⟨outer, decodes', fits', rfl⟩ := Reader.eq_of_runOn_nested outerRead
  refine ⟨inner, outer, decodes, fits, decodes', fits', ?_⟩
  rw [CanonicalLayout.recovers sourceRead, CanonicalLayout.recovers recipientRead,
    List.append_nil]
  rfl

/-- What an envelope was read from: a tag that is looked for, and the body. -/
theorem eq_of_decode {bytes : Bytes} {tag : Tag} {tags : List Tag}
    (decodes : decode manager transceiver bytes tags = .ok (tag, envelope)) :
    tag ∈ tags ∧ ∃ inner outer,
      manager.decode inner = .ok envelope.managerPayload ∧ inner.length < Bytes.count 2 ∧
      transceiver.decode outer = .ok envelope.transceiverPayload ∧
      outer.length < Bytes.count 2 ∧
      bytes = tag.bytes ++ body envelope.source envelope.recipient inner outer := by
  obtain ⟨left, runs⟩ : ∃ left, (do
      let found ← Reader.fixed 4
      if found ∈ tags then return (found, ← readBody manager transceiver)
      else throw (.unknownTag found) : Reader (Tag × Envelope _ _)).runOn bytes =
        (.ok (tag, envelope), left) := ⟨_, Prod.ext decodes rfl⟩
  obtain ⟨found, rest, tagRead, runs⟩ := runOn_bind_eq_ok_iff.mp runs
  by_cases known : found ∈ tags
  · rw [if_pos known] at runs
    obtain ⟨envelope', rest', bodyRead, returns⟩ := runOn_bind_eq_ok_iff.mp runs
    cases returns
    obtain ⟨inner, outer, innerDecodes, fits, outerDecodes, fits', rfl⟩ :=
      eq_of_runOn_readBody bodyRead
    exact ⟨known, inner, outer, innerDecodes, fits, outerDecodes, fits',
      Reader.recovers_fixed 4 tagRead⟩
  · rw [if_neg known] at runs
    cases runs

/-- **An envelope is read from its own bytes and no others**, if its payloads are, under a tag that
is looked for. -/
theorem decode_eq_ok_iff (canonical : manager.Canonical) (canonical' : transceiver.Canonical)
    {bytes : Bytes} {tag : Tag} {tags : List Tag} :
    decode manager transceiver bytes tags = .ok (tag, envelope) ↔
      tag ∈ tags ∧ encode tag envelope = .ok bytes := by
  constructor
  · intro decodes
    obtain ⟨known, inner, outer, innerDecodes, fits, outerDecodes, fits', same⟩ :=
      eq_of_decode decodes
    exact ⟨known, encode_eq_ok_iff.mpr ⟨inner, outer, canonical innerDecodes, fits,
      canonical' outerDecodes, fits', same⟩⟩
  · rintro ⟨known, encodes⟩
    rw [decode_of_encode encodes, if_pos known]

/-- **An envelope written again.**  The bytes of its two payloads are written with their hints
spelled out, and all other bytes as they were. -/
inductive Respelled (envelope : Envelope manager.Val transceiver.Val) : Bytes → Bytes → Prop
  | intro {head inner inner' count outer outer' : Bytes}
      (innerDecodes : manager.decode inner = .ok envelope.managerPayload)
      (outerDecodes : transceiver.decode outer = .ok envelope.transceiverPayload)
      (innerRespelled :
        RelayHint.Respelled (manager.hint? envelope.managerPayload) inner inner')
      (outerRespelled :
        RelayHint.Respelled (transceiver.hint? envelope.transceiverPayload) outer outer') :
      Respelled envelope (head ++ (inner ++ (count ++ outer)))
        (head ++ (inner' ++ (count ++ outer')))

/-- If only the transceiver's payload can have a hint, it is the last byte of the envelope. -/
theorem Respelled.last {bytes bytes' : Bytes} (respelled : Respelled envelope bytes bytes')
    (free : manager.HintFree) :
    RelayHint.Respelled (transceiver.hint? envelope.transceiverPayload) bytes bytes' := by
  obtain @⟨head, inner, inner', count, outer, outer', -, -, same, outer⟩ := respelled
  rw [free.hint?_eq_none] at same
  cases same
  exact ((outer.append_left count).append_left inner).append_left head

/-- **What is read as an envelope is written again** under the same tag, with the hints spelled
out. -/
theorem respelled_of_decode {bytes : Bytes} {tag : Tag} {tags : List Tag}
    (decodes : decode manager transceiver bytes tags = .ok (tag, envelope)) :
    ∃ bytes', encode tag envelope = .ok bytes' ∧ Respelled envelope bytes bytes' := by
  obtain ⟨-, inner, outer, innerDecodes, fits, outerDecodes, fits', rfl⟩ := eq_of_decode decodes
  obtain ⟨inner', innerEncodes, respelled⟩ := manager.respelled_of_decode innerDecodes
  obtain ⟨outer', outerEncodes, respelled'⟩ := transceiver.respelled_of_decode outerDecodes
  have length := respelled.length_eq
  have length' := respelled'.length_eq
  refine ⟨_, encode_eq_ok_iff.mpr ⟨inner', outer', innerEncodes, length ▸ fits, outerEncodes,
    length' ▸ fits', rfl⟩, ?_⟩
  have parts (inner outer : Bytes) :
      tag.bytes ++ body envelope.source envelope.recipient inner outer =
        (tag.bytes ++ envelope.source.bytes ++ envelope.recipient.bytes ++
          Bytes.bigEndian 2 inner.length) ++
            (inner ++ (Bytes.bigEndian 2 outer.length ++ outer)) := by
    simp [body]
  rw [parts inner outer, parts inner' outer', length, length']
  exact .intro innerDecodes outerDecodes respelled respelled'

/-- The bytes of a payload may be put in its place: they are what is framed. -/
theorem encode_eq_ok_iff_raw {tag : Tag} {bytes : Bytes} {envelope : Envelope manager.Val Bytes} :
    @encode manager .raw tag envelope = .ok bytes ↔
      ∃ inner, manager.encode envelope.managerPayload = .ok inner ∧
        @encode .raw .raw tag { envelope with managerPayload := inner } = .ok bytes := by
  constructor
  · intro encodes
    obtain ⟨inner, outer, innerEncodes, fits, outerEncodes, fits', rfl⟩ :=
      encode_eq_ok_iff.mp encodes
    exact ⟨inner, innerEncodes,
      encode_eq_ok_iff.mpr ⟨inner, outer, rfl, fits, outerEncodes, fits', rfl⟩⟩
  · rintro ⟨inner, innerEncodes, encodes⟩
    obtain ⟨_, outer, raw, fits, outerEncodes, fits', rfl⟩ := encode_eq_ok_iff.mp encodes
    cases raw
    exact encode_eq_ok_iff.mpr ⟨inner, outer, innerEncodes, fits, outerEncodes, fits', rfl⟩

/-! ### Payloads that are read later -/

/-- The second phase reads the payload of the manager and leaves the rest as it is. -/
theorem parseManager_eq_ok_iff {T : Type} {shape : Shape} {raw : Envelope Bytes T}
    {envelope : Envelope shape.Val T} :
    raw.parseManager shape = .ok envelope ↔
      ∃ v, shape.decode raw.managerPayload = .ok v ∧
        envelope = { raw with managerPayload := v } :=
  Outcome.bind_pure_eq_ok_iff

/-- **The two phases of reading an envelope are one**: its payloads are read as raw bytes first, and
these are the bytes of the manager's message. -/
theorem decode_parse_eq_ok_iff (canonical : manager.Canonical) {bytes : Bytes} {tag : Tag}
    {tags : List Tag} {envelope : Envelope manager.Val Bytes} :
    (∃ raw, decode .raw .raw bytes tags = .ok (tag, raw) ∧
        raw.parseManager manager = .ok envelope) ↔
      tag ∈ tags ∧ @encode manager .raw tag envelope = .ok bytes := by
  have free : Shape.raw.HintFree := trivial
  rw [encode_eq_ok_iff_raw]
  constructor
  · rintro ⟨raw, decodes, parses⟩
    obtain ⟨known, encodes⟩ := (decode_eq_ok_iff free.canonical free.canonical).mp decodes
    obtain ⟨v, reads, rfl⟩ := parseManager_eq_ok_iff.mp parses
    exact ⟨known, raw.managerPayload, canonical reads, encodes⟩
  · rintro ⟨known, inner, writes, encodes⟩
    exact ⟨_, (decode_eq_ok_iff free.canonical free.canonical).mpr ⟨known, encodes⟩,
      parseManager_eq_ok_iff.mpr ⟨_, canonical.decode_eq_ok_iff.mpr writes, rfl⟩⟩

/-- An optional hint is read from no byte or one, whatever it is. -/
theorem exists_parseTransceiver_hint_iff {M : Type} {raw : Envelope M Bytes} :
    (∃ envelope, raw.parseTransceiver .optionalHint = .ok envelope) ↔
      raw.transceiverPayload.length ≤ 1 := by
  obtain ⟨source, recipient, managerPayload, bytes⟩ := raw
  cases bytes with
  | nil => exact iff_of_true ⟨_, rfl⟩ (Nat.zero_le 1)
  | cons b rest =>
      cases rest with
      | nil => exact iff_of_true ⟨_, rfl⟩ (Nat.le_refl 1)
      | cons b' rest =>
          have long : ¬ (b :: b' :: rest).length ≤ 1 := by simp
          refine iff_of_false ?_ long
          rintro ⟨envelope, parses⟩
          obtain ⟨hint, decodes, -⟩ := Outcome.bind_eq_ok_iff.mp parses
          cases decodes

end Envelope

/-! ### The statement -/

/-- An envelope that asks for the specialized relayer with the largest byte there is. -/
def looseBytes : Bytes :=
  Tag.wormhole.bytes ++ Envelope.body (.ofNat 32 1) (.ofNat 32 2) [1, 2, 3] [255]

/-- What the envelope says. -/
def looseEnvelope : Envelope Shape.raw.Val Shape.optionalHint.Val where
  source := .ofNat 32 1
  recipient := .ofNat 32 2
  managerPayload := [1, 2, 3]
  transceiverPayload := some ⟨true⟩

end TokenTransfer
