import TokenTransfer.Proofs.Wire.Encodable

/-!
# What a refused write leaves in the buffer

A single step of a writer checks before it appends, so it appends all of its bytes or none.  A frame
takes several steps: its fields are in the buffer before its payload is written, and they stay there
when the payload is refused.  A payload is written to a buffer of its own, though, so no more than
the fields of the outermost frame can be left over, however deep the refusal lies; and of a payload
behind a count nothing is.

## Main definitions

* `Writer.Appends` - a writer that appends all of its bytes or leaves the buffer alone
* `Shape.front` - the fields of a frame, which stand in front of its payload

## Main statements

* `Writer.appends_nested` - a payload behind its count is all or nothing, whatever writes it
* `Shape.runOn_write` - what a value leaves in the buffer, written or refused
* `failed_write_keeps_buffer` - no step of a writer leaves anything when it is refused
-/

namespace TokenTransfer

open Fallible

namespace Writer

variable {α : Type} {writer : Writer} {written : Bytes → Prop}

/-- **All or nothing.**  The writer succeeds exactly when there are bytes as `written` says; it keeps
what the buffer held and appends just these.  When it is refused the buffer is as it was. -/
structure Appends (writer : Writer) (written : Bytes → Prop) : Prop where
  runOn_eq_ok_iff : ∀ {buffer after : Bytes}, writer.runOn buffer = (.ok (), after) ↔
    ∃ bytes, written bytes ∧ after = buffer ++ bytes
  eq_of_error : ∀ {buffer after : Bytes} {e : WireError},
    writer.runOn buffer = (.error e, after) → after = buffer

/-- A writer that never fails appends its bytes. -/
theorem appends_of_runOn {bytes : Bytes}
    (runs : ∀ buffer, writer.runOn buffer = (.ok (), buffer ++ bytes)) :
    writer.Appends (· = bytes) where
  runOn_eq_ok_iff := by
    intro buffer after
    rw [runs]
    constructor
    · rintro ⟨⟩
      exact ⟨bytes, rfl, rfl⟩
    · rintro ⟨_, rfl, rfl⟩
      rfl
  eq_of_error := by
    intro buffer after e fails
    cases (runs buffer).symm.trans fails

/-- A writer that always fails, and touches nothing, appends nothing. -/
theorem appends_of_refused {e : WireError}
    (fails : ∀ buffer, writer.runOn buffer = (.error e, buffer)) :
    writer.Appends fun _ => False where
  runOn_eq_ok_iff := by
    intro buffer after
    rw [fails]
    constructor
    · nofun
    · rintro ⟨_, ⟨⟩, _⟩
  eq_of_error := by
    intro buffer after e' fails'
    cases (fails buffer).symm.trans fails'
    rfl

/-- What is checked is checked before anything is appended. -/
theorem Appends.guard (appends : writer.Appends written) (c : Prop) [Decidable c]
    (e : WireError) : Appends (if c then writer else throw e) fun bytes => c ∧ written bytes := by
  by_cases holds : c
  · simp only [holds, if_true, true_and]
    exact appends
  · simp only [holds, if_false, false_and]
    exact appends_of_refused (runOn_throw e)

/-- What is known without the buffer may come first. -/
theorem appends_ofExcept_bind {x : Except WireError α} {next : α → Writer}
    {written : α → Bytes → Prop} (rest : ∀ a, (next a).Appends (written a)) :
    Appends (Fallible.ofExcept x >>= next) fun bytes => ∃ a, x = .ok a ∧ written a bytes := by
  cases x with
  | error e =>
      simp only [reduceCtorEq, false_and, exists_false]
      exact appends_of_refused fun buffer => runOn_bind_of_error (runOn_ofExcept _ buffer)
  | ok a =>
      simp only [Except.ok.injEq, exists_eq_left']
      exact rest a

/-! ### The steps of a writer -/

/-- A number is written if its width is supported and it fits. -/
theorem appends_uint (value : UInt64) (width : Nat) :
    (uint value width).Appends fun bytes => WidthSupported width ∧
      value.toNat < Bytes.count width ∧ bytes = Bytes.bigEndian width value.toNat :=
  ((appends_of_runOn (runOn_put _)).guard _ _).guard _ _

/-- Bytes of a fixed length are written if they have it. -/
theorem appends_fixed (bytes : Bytes) (length : Nat) :
    (fixed bytes length).Appends fun appended => bytes.length = length ∧ appended = bytes :=
  (appends_of_runOn (runOn_put bytes)).guard _ _

/-- The count and what is counted are two steps, of which the first cannot be refused any more. -/
theorem appends_counted (bytes : Bytes) (width : Nat) :
    (counted bytes width).Appends fun appended => WidthSupported width ∧
      bytes.length < Bytes.count width ∧
        appended = Bytes.bigEndian width bytes.length ++ bytes := by
  have both (buffer : Bytes) :
      Fallible.runOn (do put (Bytes.bigEndian width bytes.length); put bytes) buffer =
        ((.ok () : Except WireError Unit),
          buffer ++ (Bytes.bigEndian width bytes.length ++ bytes)) := by
    rw [runOn_bind_of_ok (runOn_put _ _), runOn_put, List.append_assoc]
  exact ((appends_of_runOn both).guard _ _).guard _ _

/-- **A payload behind its count is all or nothing**, whatever its own writer does when it is
refused: that writer has a buffer of its own. -/
theorem appends_nested (payload : Writer) (width : Nat) :
    (nested payload width).Appends fun appended => ∃ bytes, toBytes payload = .ok bytes ∧
      WidthSupported width ∧ bytes.length < Bytes.count width ∧
        appended = Bytes.bigEndian width bytes.length ++ bytes :=
  appends_ofExcept_bind fun bytes => appends_counted bytes width

/-- A payload that cannot be written leaves no part of its frame. -/
theorem runOn_nested_of_error {payload : Writer} {e : WireError}
    (refused : toBytes payload = .error e) (width : Nat) (buffer : Bytes) :
    (nested payload width).runOn buffer = (.error e, buffer) := by
  unfold nested
  rw [refused]
  rfl

end Writer

/-! ### Payloads -/

namespace Shape

/-- **The fields of a frame**, which stand in front of its payload. -/
def front : (shape : Shape) → shape.Val → Bytes
  | manager _, message => Layout.encode message.id ++ Layout.encode message.sender
  | instruction _, i => Layout.encode i.index
  | raw, _ | transfer, _ | hint, _ | optionalHint, _ | registration, _ => []

theorem runOn_write_hint (h : RelayHint) (buffer : Bytes) :
    ∃ bytes, hint.encode h = .ok bytes ∧ h.write.runOn buffer = (.ok (), buffer ++ bytes) := by
  obtain ⟨specialized⟩ := h
  cases specialized with
  | true => exact ⟨_, rfl, rfl⟩
  | false => exact ⟨_, rfl, rfl⟩

/-- **What a value leaves in the buffer**: its bytes, or the fields of its outermost frame if it has
none.  There is no induction in this: the payload is written to another buffer, so what it leaves
there does not matter. -/
theorem runOn_write (shape : Shape) (v : shape.Val) (buffer : Bytes) :
    (shape.write v).runOn buffer =
      match shape.encode v with
      | .ok bytes => (.ok (), buffer ++ bytes)
      | .error e => (.error e, buffer ++ shape.front v) := by
  cases shape with
  | raw | transfer | registration => rfl
  | hint =>
      obtain ⟨bytes, encodes, runs⟩ := runOn_write_hint v buffer
      rw [encodes]
      exact runs
  | optionalHint =>
      cases v with
      | none => exact Prod.ext rfl (List.append_nil buffer).symm
      | some h =>
          obtain ⟨bytes, encodes, runs⟩ := runOn_write_hint h buffer
          have encodes : optionalHint.encode (some h) = .ok bytes := encodes
          rw [encodes]
          exact runs
  | manager payload =>
      have fields : (write (manager payload) v).runOn buffer =
          (Writer.nested (payload.write v.payload) 2).runOn
            ((buffer ++ Layout.encode v.id) ++ Layout.encode v.sender) := rfl
      rw [fields, Writer.runOn_nested _ (by decide), encode_manager, Shape.encode]
      cases Writer.framed 2 (Writer.toBytes (payload.write v.payload)) with
      | error e => exact Prod.ext rfl (List.append_assoc ..)
      | ok bytes =>
          refine Prod.ext rfl ?_
          show ((buffer ++ Layout.encode v.id) ++ Layout.encode v.sender) ++ bytes =
            buffer ++ (Layout.encode v.id ++ (Layout.encode v.sender ++ bytes))
          simp only [List.append_assoc]
  | instruction payload =>
      have fields : (write (instruction payload) v).runOn buffer =
          (Writer.nested (payload.write v.payload) 1).runOn
            (buffer ++ Layout.encode v.index) := rfl
      rw [fields, Writer.runOn_nested _ (by decide), encode_instruction, Shape.encode]
      cases Writer.framed 1 (Writer.toBytes (payload.write v.payload)) with
      | error e => rfl
      | ok bytes => exact Prod.ext rfl (List.append_assoc ..)

/-- A value that is refused is a frame, whose fields have been written. -/
theorem front_ne_nil_of_error {shape : Shape} {v : shape.Val} {e : WireError}
    (refused : shape.encode v = .error e) : shape.front v ≠ [] := by
  cases shape with
  | raw | transfer | hint | optionalHint | registration =>
      -- Only a frame can have a payload that is too long.
      obtain ⟨bytes, encodes⟩ := exists_encode _ (v := v) not_false
      cases refused.symm.trans encodes
  | manager payload =>
      apply List.ne_nil_of_length_pos
      show 0 < (Layout.encode v.id ++ Layout.encode v.sender).length
      simp [Layout.length_encode, Layout.size]
  | instruction payload =>
      apply List.ne_nil_of_length_pos
      show 0 < (Layout.encode v.index).length
      simp [Layout.length_encode, Layout.size]

/-- **A refused value leaves the fields of its outermost frame**, and nothing of what is nested in
it. -/
theorem eq_of_runOn_write_eq_error {shape : Shape} {v : shape.Val} {buffer after : Bytes}
    {e : WireError} (fails : (shape.write v).runOn buffer = (.error e, after)) :
    shape.encode v = .error e ∧ after = buffer ++ shape.front v := by
  rw [runOn_write] at fails
  cases encodes : shape.encode v with
  | ok bytes =>
      rw [encodes] at fails
      cases fails
  | error e' =>
      rw [encodes] at fails
      cases fails
      exact ⟨rfl, rfl⟩

end Shape

/-! ### The statement -/

/-- **A refused write leaves the buffer as it was**, and one that succeeds appends just the bytes of
what is written: a number, bytes of a given length, bytes behind their count, and a payload of any
shape behind its count.  The last holds although the writer of a payload by itself leaves something
whenever it is refused, namely the fields of the outermost frame. -/
theorem failed_write_keeps_buffer :
    (∀ (value : UInt64) (width : Nat), (Writer.uint value width).Appends fun appended =>
      WidthSupported width ∧ value.toNat < Bytes.count width ∧
        appended = Bytes.bigEndian width value.toNat) ∧
    (∀ (bytes : Bytes) (length : Nat), (Writer.fixed bytes length).Appends fun appended =>
      bytes.length = length ∧ appended = bytes) ∧
    (∀ (bytes : Bytes) (width : Nat), (Writer.counted bytes width).Appends fun appended =>
      WidthSupported width ∧ bytes.length < Bytes.count width ∧
        appended = Bytes.bigEndian width bytes.length ++ bytes) ∧
    ∀ (shape : Shape) (v : shape.Val),
      (∀ width, (Writer.nested (shape.write v) width).Appends fun appended =>
        ∃ bytes, shape.encode v = .ok bytes ∧ WidthSupported width ∧
          bytes.length < Bytes.count width ∧
            appended = Bytes.bigEndian width bytes.length ++ bytes) ∧
      ∀ (started left : Bytes) (e : WireError), (shape.write v).runOn started = (.error e, left) →
        left = started ++ shape.front v ∧ shape.front v ≠ [] ∧
          ∀ width buffer, (Writer.nested (shape.write v) width).runOn buffer =
            (.error e, buffer) := by
  refine ⟨Writer.appends_uint, Writer.appends_fixed, Writer.appends_counted, fun shape v =>
    ⟨Writer.appends_nested (shape.write v), ?_⟩⟩
  intro started left e fails
  obtain ⟨refused, leaves⟩ := Shape.eq_of_runOn_write_eq_error fails
  exact ⟨leaves, Shape.front_ne_nil_of_error refused, Writer.runOn_nested_of_error refused⟩

/-- The instruction in the message is too long.  By then the message's own id and sender have been
written, and with a count in front of it none of this shows. -/
theorem failed_write_keeps_buffer_of_longMessage :
    ((Shape.manager (.instruction .raw)).write longMessage).runOn [7] =
        (.error (.lengthOverflow 256 1),
          [7] ++ (longMessage.id.bytes ++ longMessage.sender.bytes)) ∧
      (Shape.manager (.instruction .raw)).front longMessage ≠ [] ∧
      (Writer.nested ((Shape.manager (.instruction .raw)).write longMessage) 2).runOn [7] =
        (.error (.lengthOverflow 256 1), [7]) := by
  have long : Writer.framed 1 (.ok (List.replicate 256 0)) =
      .error (.lengthOverflow 256 1) := by
    unfold Writer.framed
    rw [Outcome.ok_bind, List.length_replicate, if_neg (by decide)]
    rfl
  have refused : (Shape.manager (.instruction .raw)).encode longMessage =
      .error (.lengthOverflow 256 1) := by
    rw [Shape.encode_manager, Shape.encode_instruction]
    show (Writer.framed 2 ((Writer.framed 1 (.ok (List.replicate 256 0))).map _)).map _ = _
    rw [long]
    rfl
  have fails : ((Shape.manager (.instruction .raw)).write longMessage).runOn [7] =
      (.error (.lengthOverflow 256 1),
        [7] ++ (longMessage.id.bytes ++ longMessage.sender.bytes)) := by
    rw [Shape.runOn_write, refused]
    rfl
  obtain ⟨-, -, -, payloads⟩ := failed_write_keeps_buffer
  obtain ⟨-, some, kept⟩ := (payloads _ longMessage).2 _ _ _ fails
  exact ⟨fails, some, kept 2 [7]⟩

end TokenTransfer
