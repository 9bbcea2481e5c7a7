import TokenTransfer.Proofs.Wire.Canonical

/-!
# Where a frame ends

A frame says itself where it ends.  No reader looks past the bytes that it takes: what it reads stays
the same whatever comes after, and with less than these bytes it fails for want of bytes.  A frame is
read to its end and must be all there is, so of two byte strings that are read as frames of one kind
neither is a part of the other in front of more bytes.

This holds of the outermost frame alone and does not depend on what its payloads are.  A payload lies
behind the number of its bytes, so a cut inside of it is noticed by the count, before the payload is
looked at.

Raw bytes are no frame, and neither is a hint that may be absent: both accept no bytes at all, and
also some.

## Main definitions

* `Reader.Delimited` - a reader that does not look past what it takes
* `WireError.IsShort` - the failures for want of bytes
* `SelfDelimiting` - a decoder of frames that say where they end
* `Shape.frame?` - the shapes that are frames

## Main statements

* `Reader.Delimited.whole` - what such a reader reads to the end is self-delimiting
* `Shape.isSome_frame?_iff` - the frames are just the shapes that are
* `frames_self_delimiting` - all frames of the format
-/

namespace TokenTransfer

open Fallible

/-- **For want of bytes**: a field is cut, or there are fewer bytes than a count says. -/
inductive WireError.IsShort : WireError → Prop
  | truncated : IsShort .truncated
  | lengthOverrun (declared remaining : Nat) : IsShort (.lengthOverrun declared remaining)

/-! ### Readers that do not look ahead -/

namespace Reader

variable {α β : Type} {short : WireError → Prop}

/-- **The reader does not look past what it takes.**  What it reads it reads from just these bytes,
and with less of them it fails as `short` says. -/
structure Delimited (short : WireError → Prop) (reader : Reader α) : Prop where
  extend : ∀ {bytes : Bytes} {a : α} {rest : Bytes}, reader.runOn bytes = (.ok a, rest) →
    ∀ more, reader.runOn (bytes ++ more) = (.ok a, rest ++ more)
  cut : ∀ {bytes more : Bytes} {a : α} {rest : Bytes},
    reader.runOn (bytes ++ more) = (.ok a, rest) → reader.FailsWithin bytes short

/-- What is said of the failures may be weakened. -/
theorem Delimited.mono {short' : WireError → Prop} {reader : Reader α}
    (delimited : reader.Delimited short) (weaken : ∀ e, short e → short' e) :
    reader.Delimited short' where
  extend := delimited.extend
  cut runs e fails := weaken e (delimited.cut runs e fails)

theorem delimited_pure (a : α) : Delimited short (pure a) where
  extend := by
    rintro _ _ _ ⟨⟩ more
    rfl
  cut _ := failsWithin_pure a

theorem delimited_throw (e : WireError) : Delimited short (throw e : Reader α) where
  extend := nofun
  cut := nofun

/-- What was counted may be read in any way. -/
theorem delimited_ofExcept (x : Except WireError α) : Delimited short (Fallible.ofExcept x) where
  extend := by
    rintro _ _ _ ⟨⟩ more
    rfl
  cut := by
    rintro _ _ _ _ runs e fails
    cases (congrArg Prod.fst runs).symm.trans fails

theorem Delimited.ite {c : Prop} [Decidable c] {first second : Reader α}
    (delimited : first.Delimited short) (delimited' : second.Delimited short) :
    Delimited short (if c then first else second) := by
  split
  · exact delimited
  · exact delimited'

/-- **What is composed of readers that do not look ahead does not look ahead.**  Cut bytes end in
one of the two parts. -/
theorem Delimited.bind {reader : Reader α} {next : α → Reader β}
    (first : reader.Delimited short) (rest : ∀ a, (next a).Delimited short) :
    Delimited short (reader >>= next) where
  extend := by
    intro bytes b left runs more
    obtain ⟨a, taken, runs, runs'⟩ := runOn_bind_eq_ok_iff.mp runs
    rw [runOn_bind_of_ok (first.extend runs more)]
    exact (rest a).extend runs' more
  cut := by
    intro bytes more b left runs
    obtain ⟨a, taken, runs, runs'⟩ := runOn_bind_eq_ok_iff.mp runs
    rcases cut : reader.runOn bytes with ⟨e | a', taken'⟩
    · intro e' fails
      unfold Fallible.outcome at fails
      rw [runOn_bind_of_error cut] at fails
      cases fails
      exact first.cut runs e (congrArg Prod.fst cut)
    · -- The first part was not cut, so the second one is, at the same place.
      cases runs.symm.trans (first.extend cut more)
      exact failsWithin_bind_of_ok cut ((rest a).cut runs')

/-- A reader of so many bytes. -/
theorem delimited_fixed (count : Nat) : Delimited (· = .truncated) (fixed count) where
  extend := by
    intro bytes word rest runs more
    obtain rfl := recovers_fixed count runs
    rw [List.append_assoc]
    exact reads_fixed word (rest ++ more)
  cut := by
    intro bytes more word rest runs e fails
    unfold Fallible.outcome at fails
    rw [runOn_fixed] at fails
    split at fails
    · cases fails
    · cases fails
      rfl

/-- Bytes are taken if there are enough of them, and what comes after does not matter. -/
theorem delimited_take (count : Nat) : Delimited (· = .truncated) (take count) where
  extend := by
    intro bytes taken rest runs more
    rw [runOn_take] at runs ⊢
    split at runs
    · rename_i enough
      cases runs
      rw [if_pos (by simp; omega), List.take_append_of_le_length enough,
        List.drop_append_of_le_length enough]
    · cases runs
  cut := by
    intro bytes more taken rest runs e fails
    unfold Fallible.outcome at fails
    rw [runOn_take] at fails
    split at fails
    · cases fails
    · cases fails
      rfl

theorem delimited_tag (expected : Tag) (frame : String) :
    Delimited (· = .truncated) (tag expected frame) :=
  (delimited_fixed 4).bind fun _ => (delimited_throw _).ite (delimited_pure _)

theorem delimited_uint (width : Nat) : Delimited (· = .truncated) (uint width) :=
  Delimited.ite ((delimited_take width).bind fun _ => delimited_pure _) (delimited_throw _)

/-- What is counted: as many bytes as declared, or the count overruns them. -/
theorem delimited_declared (declared : Nat) :
    Delimited WireError.IsShort (do
      let rest ← get
      if declared ≤ rest.length then take declared
      else throw (.lengthOverrun declared rest.length)) where
  extend := by
    intro bytes taken rest runs more
    rw [runOn_bind_of_ok (runOn_get _)] at runs ⊢
    split at runs
    · rename_i enough
      rw [if_pos (by simp; omega)]
      exact (delimited_take declared).extend runs more
    · cases runs
  cut := by
    intro bytes more taken rest runs
    refine failsWithin_bind_of_ok (runOn_get bytes) ?_
    split
    · rename_i enough
      intro e fails
      unfold Fallible.outcome at fails
      rw [runOn_take, if_pos enough] at fails
      cases fails
    · exact failsWithin_throw (.lengthOverrun declared bytes.length)

theorem isShort_of_eq_truncated (e : WireError) (truncated : e = .truncated) : e.IsShort :=
  truncated ▸ .truncated

theorem delimited_counted (width : Nat) : Delimited WireError.IsShort (counted width) :=
  ((delimited_uint width).mono isShort_of_eq_truncated).bind fun declared =>
    delimited_declared declared.toNat

/-- A payload behind a count is delimited by it, however it is read. -/
theorem delimited_nested (decode : Bytes → Except WireError α) (width : Nat) :
    Delimited WireError.IsShort (nested decode width) :=
  (delimited_counted width).bind fun bytes => delimited_ofExcept (decode bytes)

end Reader

/-- A layout whose reader does not look past what it takes. -/
class DelimitedLayout (α : Type) [Layout α] : Prop where
  delimited : (Layout.read : Reader α).Delimited (· = .truncated)

namespace DelimitedLayout

open Reader

variable {α : Type} [Layout α] [DelimitedLayout α]

/-- A layout of fixed size is short of nothing but bytes. -/
theorem short : (Layout.read : Reader α).Delimited WireError.IsShort :=
  delimited.mono isShort_of_eq_truncated

instance {n : Nat} : DelimitedLayout (FixedBytes n) := ⟨delimited_fixed n⟩

instance : DelimitedLayout UInt8 := ⟨(delimited_fixed 1).bind fun _ => delimited_pure _⟩

instance : DelimitedLayout UInt16 := ⟨(delimited_fixed 2).bind fun _ => delimited_pure _⟩

instance : DelimitedLayout UInt64 := ⟨(delimited_fixed 8).bind fun _ => delimited_pure _⟩

instance : DelimitedLayout ChainId := ⟨Delimited.bind delimited fun _ => delimited_pure _⟩

instance : DelimitedLayout Amount :=
  ⟨Delimited.bind delimited fun _ => Delimited.bind delimited fun _ => delimited_pure _⟩

instance : DelimitedLayout Transfer :=
  ⟨(delimited_tag Tag.transfer Transfer.frame).bind fun _ =>
    Delimited.bind delimited fun _ => Delimited.bind delimited fun _ =>
      Delimited.bind delimited fun _ => Delimited.bind delimited fun _ => delimited_pure _⟩

instance : DelimitedLayout Registration :=
  ⟨(delimited_tag Tag.registration Registration.frame).bind fun _ =>
    Delimited.bind delimited fun _ => Delimited.bind delimited fun _ => delimited_pure _⟩

end DelimitedLayout

/-! ### Frames -/

/-- **A decoder of frames that say where they end.**  No accepted byte string is a proper prefix of
another.  What is left of one when it is cut is refused as `short` says, and one with more bytes after
it for just these. -/
structure SelfDelimiting {α : Type} (short : WireError → Prop) (frame : String)
    (decode : Bytes → Except WireError α) : Prop where
  prefix_eq : ∀ {bytes bytes' : Bytes} {a a' : α}, decode bytes = .ok a → decode bytes' = .ok a' →
    bytes <+: bytes' → bytes = bytes'
  cut : ∀ {bytes more : Bytes} {a : α}, decode (bytes ++ more) = .ok a → more ≠ [] →
    ∃ e, decode bytes = .error e ∧ short e
  extended : ∀ {bytes : Bytes} {a : α}, decode bytes = .ok a → ∀ more, more ≠ [] →
    decode (bytes ++ more) = .error (.trailingBytes frame more.length)

namespace Reader

variable {α : Type} {short : WireError → Prop} {reader : Reader α}

/-- What a reader leaves over is refused. -/
theorem whole_of_ok {frame : String} {bytes : Bytes} {a : α} {rest : Bytes}
    (runs : reader.runOn bytes = (.ok a, rest)) :
    whole reader frame bytes =
      if rest = [] then .ok a else .error (.trailingBytes frame rest.length) := by
  unfold whole Fallible.outcome
  rw [runOn_bind_of_ok runs]
  by_cases ends : rest = []
  · rw [if_pos ends, runOn_bind_of_ok ((runOn_finish frame rest).trans (if_pos ends))]
    rfl
  · rw [if_neg ends, runOn_bind_of_error ((runOn_finish frame rest).trans (if_neg ends))]

theorem whole_of_error {frame : String} {bytes : Bytes} {e : WireError} {rest : Bytes}
    (runs : reader.runOn bytes = (.error e, rest)) : whole reader frame bytes = .error e := by
  unfold whole Fallible.outcome
  rw [runOn_bind_of_error runs]

/-- **A frame says where it ends**, if its reader does not look past what it takes. -/
theorem Delimited.whole (delimited : reader.Delimited short) (frame : String) :
    SelfDelimiting short frame (whole reader frame) := by
  have extended {bytes : Bytes} {a : α} (reads : Reader.whole reader frame bytes = .ok a)
      (more : Bytes) (some : more ≠ []) :
      Reader.whole reader frame (bytes ++ more) = .error (.trailingBytes frame more.length) := by
    rw [whole_of_ok (delimited.extend (runOn_of_whole reads) more), List.nil_append, if_neg some]
  refine ⟨?_, ?_, extended⟩
  · rintro bytes _ a a' reads reads' ⟨more, rfl⟩
    by_cases none : more = []
    · rw [none, List.append_nil]
    · cases reads'.symm.trans (extended reads more none)
  · intro bytes more a reads some
    have runs := runOn_of_whole reads
    rcases cut : reader.runOn bytes with ⟨e | a', left⟩
    · exact ⟨e, whole_of_error cut, delimited.cut runs e (congrArg Prod.fst cut)⟩
    · -- Otherwise what was cut off would have been left over.
      have rest := congrArg Prod.snd (runs.symm.trans (delimited.extend cut more))
      exact absurd (List.append_eq_nil_iff.mp rest.symm).2 some

end Reader

namespace Shape

/-- The name of the frame that a payload of a shape is; raw bytes and a hint that may be absent are
none. -/
def frame? : Shape → Option String
  | transfer => some Transfer.frame
  | hint => some RelayHint.frame
  | registration => some Registration.frame
  | manager _ => some ManagerMessage.frame
  | instruction _ => some Instruction.frame
  | raw | optionalHint => none

/-- **Frames are self-delimiting**, whatever their payloads are. -/
theorem selfDelimiting_decode {shape : Shape} {frame : String}
    (framed : shape.frame? = some frame) :
    SelfDelimiting WireError.IsShort frame shape.decode := by
  cases shape with
  | raw | optionalHint => cases framed
  | transfer =>
      cases framed
      exact DelimitedLayout.short.whole Transfer.frame
  | hint =>
      cases framed
      exact (((Reader.delimited_uint 1).mono Reader.isShort_of_eq_truncated).bind fun _ =>
        Reader.delimited_pure _).whole RelayHint.frame
  | registration =>
      cases framed
      exact DelimitedLayout.short.whole Registration.frame
  | manager payload =>
      cases framed
      exact (DelimitedLayout.short.bind fun _ => DelimitedLayout.short.bind fun _ =>
        (Reader.delimited_nested payload.decode 2).bind fun _ =>
          Reader.delimited_pure _).whole ManagerMessage.frame
  | instruction payload =>
      cases framed
      exact (DelimitedLayout.short.bind fun _ =>
        (Reader.delimited_nested payload.decode 1).bind fun _ =>
          Reader.delimited_pure _).whole Instruction.frame

/-- **The frames are just the self-delimiting shapes.** -/
theorem isSome_frame?_iff {shape : Shape} :
    shape.frame?.isSome = true ↔
      ∃ frame, SelfDelimiting WireError.IsShort frame shape.decode := by
  constructor
  · intro framed
    obtain ⟨frame, framed⟩ := Option.isSome_iff_exists.mp framed
    exact ⟨frame, selfDelimiting_decode framed⟩
  · rintro ⟨frame, delimiting⟩
    have some : ([0] : Bytes) ≠ [] := List.cons_ne_nil 0 []
    cases shape with
    | raw =>
        have accepts : raw.decode [] = .ok [] := rfl
        cases delimiting.extended accepts [0] some
    | optionalHint =>
        have accepts : optionalHint.decode [] = .ok none := rfl
        cases delimiting.extended accepts [0] some
    | transfer | hint | registration | manager _ | instruction _ => rfl

end Shape

/-! ### Envelopes -/

namespace Envelope

variable {manager transceiver : Shape}

/-- The fields of an envelope behind its tag. -/
def fields (manager transceiver : Shape) : Reader (Envelope manager.Val transceiver.Val) := do
  let source ← Layout.read
  let recipient ← Layout.read
  let managerPayload ← Reader.nested manager.decode 2
  let transceiverPayload ← Reader.nested transceiver.decode 2
  return { source, recipient, managerPayload, transceiverPayload }

theorem delimited_fields (manager transceiver : Shape) :
    (fields manager transceiver).Delimited WireError.IsShort :=
  DelimitedLayout.short.bind fun _ => DelimitedLayout.short.bind fun _ =>
    (Reader.delimited_nested manager.decode 2).bind fun _ =>
      (Reader.delimited_nested transceiver.decode 2).bind fun _ => Reader.delimited_pure _

/-- The body of an envelope is its fields, with nothing after them. -/
theorem readBody_eq (manager transceiver : Shape) :
    readBody manager transceiver = do
      let envelope ← fields manager transceiver
      Reader.finish frame
      return envelope := by
  simp only [readBody, fields, bind_assoc, pure_bind]

/-- An envelope ends where its last count says, whichever tags are accepted. -/
theorem selfDelimiting_decode (manager transceiver : Shape) (tags : List Tag) :
    SelfDelimiting WireError.IsShort frame fun bytes =>
      decode manager transceiver bytes tags := by
  have whole (bytes : Bytes) : decode manager transceiver bytes tags =
      Reader.whole (do
        let found ← Reader.fixed 4
        if found ∈ tags then return (found, ← fields manager transceiver)
        else throw (.unknownTag found)) frame bytes := by
    unfold decode Reader.whole
    rw [readBody_eq, bind_assoc]
    congr 2
    funext found
    split
    · simp only [bind_assoc, pure_bind]
    · rfl
  rw [funext whole]
  refine Reader.Delimited.whole ?_ frame
  refine ((Reader.delimited_fixed 4).mono Reader.isShort_of_eq_truncated).bind fun found => ?_
  exact ((delimited_fields manager transceiver).bind fun _ => Reader.delimited_pure _).ite
    (Reader.delimited_throw _)

/-- So does one under the tag that is looked for. -/
theorem selfDelimiting_decodeAs (manager transceiver : Shape) (tag : Tag) :
    SelfDelimiting WireError.IsShort frame (decodeAs manager transceiver tag) := by
  have whole (bytes : Bytes) : decodeAs manager transceiver tag bytes =
      Reader.whole (do
        Reader.tag tag frame
        fields manager transceiver) frame bytes := by
    unfold decodeAs Reader.whole
    rw [readBody_eq, bind_assoc]
  rw [funext whole]
  refine Reader.Delimited.whole ?_ frame
  exact ((Reader.delimited_tag tag frame).mono Reader.isShort_of_eq_truncated).bind fun _ =>
    delimited_fields manager transceiver

end Envelope

/-! ### The statement -/

/-- **Frames are self-delimiting.**  Of two accepted byte strings of one kind of frame, neither is a
proper prefix of the other.  What is left of an accepted one when it is cut anywhere is refused for
want of bytes, and an accepted one with more bytes after it for these bytes.  A transfer has no
counts, so it is truncated wherever it is cut. -/
theorem frames_self_delimiting :
    (∀ (shape : Shape) (frame : String), shape.frame? = some frame →
      SelfDelimiting WireError.IsShort frame shape.decode) ∧
    (∀ (manager transceiver : Shape) (tags : List Tag),
      SelfDelimiting WireError.IsShort Envelope.frame fun bytes =>
        Envelope.decode manager transceiver bytes tags) ∧
    (∀ (manager transceiver : Shape) (tag : Tag),
      SelfDelimiting WireError.IsShort Envelope.frame
        (Envelope.decodeAs manager transceiver tag)) ∧
    ∀ (t : Transfer) (bytes : Bytes), Shape.transfer.encode t = .ok bytes →
      (∀ front back, bytes = front ++ back → back ≠ [] →
        Shape.transfer.decode front = .error .truncated) ∧
      ∀ more, more ≠ [] →
        Shape.transfer.decode (bytes ++ more) =
          .error (.trailingBytes Transfer.frame more.length) := by
  refine ⟨fun _ _ => Shape.selfDelimiting_decode, Envelope.selfDelimiting_decode,
    Envelope.selfDelimiting_decodeAs, ?_⟩
  intro t bytes encodes
  have accepted := Shape.transfer.decode_of_encode encodes
  have delimiting : SelfDelimiting (· = .truncated) Transfer.frame Shape.transfer.decode :=
    DelimitedLayout.delimited.whole Transfer.frame
  refine ⟨?_, delimiting.extended accepted⟩
  rintro front back rfl some
  obtain ⟨_, refused, rfl⟩ := delimiting.cut accepted some
  exact refused

/-- The loose envelope without its last byte, which was counted, and with one byte more; and a transfer
that is cut inside its amount. -/
theorem frames_self_delimiting_of_samples :
    (Envelope.decode .raw .optionalHint looseBytes [Tag.wormhole] =
          .ok (Tag.wormhole, looseEnvelope) ∧
        (∃ e, Envelope.decode .raw .optionalHint looseBytes.dropLast [Tag.wormhole] = .error e ∧
          e.IsShort) ∧
        Envelope.decode .raw .optionalHint (looseBytes ++ [0]) [Tag.wormhole] =
          .error (.trailingBytes "TransceiverMessage" 1)) ∧
      ((Shape.manager .raw).decode (List.replicate 65 0 ++ [0]) =
          .ok ⟨.ofNat 32 0, .ofNat 32 0, []⟩ ∧
        ∃ e, (Shape.manager .raw).decode (List.replicate 65 0) = .error e ∧ e.IsShort) ∧
      Shape.transfer.decode [0x99, 0x4e, 0x54, 0x54, 8, 0, 0] = .error .truncated := by
  have accepted : Envelope.decode .raw .optionalHint looseBytes [Tag.wormhole] =
      .ok (Tag.wormhole, looseEnvelope) := rfl
  have accepted' : (Shape.manager .raw).decode (List.replicate 65 0 ++ [0]) =
      .ok ⟨.ofNat 32 0, .ofNat 32 0, []⟩ := rfl
  obtain ⟨shapes, envelopes, -, transfers⟩ := frames_self_delimiting
  have delimiting := envelopes .raw .optionalHint [Tag.wormhole]
  have delimiting' := shapes (.manager .raw) ManagerMessage.frame rfl
  have some : ([255] : Bytes) ≠ [] := List.cons_ne_nil 255 []
  have some' : ([0] : Bytes) ≠ [] := List.cons_ne_nil 0 []
  have cut := (transfers ⟨⟨1, 8⟩, .ofNat 32 2, .ofNat 32 3, .solana⟩ _ rfl).1
    [0x99, 0x4e, 0x54, 0x54, 8, 0, 0] _ rfl (List.cons_ne_nil _ _)
  exact ⟨⟨accepted, delimiting.cut accepted some, delimiting.extended accepted [0] some'⟩,
    ⟨accepted', delimiting'.cut accepted' some'⟩, cut⟩

end TokenTransfer
