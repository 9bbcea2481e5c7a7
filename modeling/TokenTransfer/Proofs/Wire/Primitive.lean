import TokenTransfer.Proofs.Wire.Buffer

/-!
# Primitives

Every frame is put together from three kinds of field: a number in one to eight bytes, bytes behind
their count, and bytes of a fixed length.  A list of such fields that was written is read back field
by field, whatever stood in the buffer before and whatever follows.

## Main definitions

* `Primitive` - a field, with its width
* `Primitive.Kind` - what a reader has to know of a field

## Main statements

* `Primitive.reads_of_runOn_write`, `Primitive.reads_of_runOn_forM` - one field, and a list of them,
  is read back
* `Writer.outcome_uint_eq_error_iff`, `Writer.outcome_counted_eq_error_iff` - when a number and a
  counted byte string are refused, and why
* `Reader.runOn_counted_of_readable`, `Reader.runOn_counted_of_not_readable` - what the reader of a
  counted byte string takes
* `Writer.uint_eq_shift`, `Reader.uint_eq_shift` - numbers written and read with the shifts of words
* `primitives_read_back` - the reading back, the refusals and the overrun in one statement
-/

namespace TokenTransfer

open Fallible

/-! ### Fields -/

/-- A field that is written in one step, with the width or the length that it has. -/
inductive Primitive where
  | number (value : UInt64) (width : Nat)
  | counted (bytes : Bytes) (width : Nat)
  | fixed (bytes : Bytes) (length : Nat)
deriving DecidableEq

namespace Primitive

/-- What a reader has to know of a field. -/
inductive Kind where
  | number (width : Nat)
  | counted (width : Nat)
  | fixed (length : Nat)
deriving DecidableEq

/-- The kind of a field. -/
def kind : Primitive → Kind
  | number _ width => .number width
  | counted _ width => .counted width
  | fixed _ length => .fixed length

/-- Appends a field. -/
def write : Primitive → Writer
  | number value width => Writer.uint value width
  | counted bytes width => Writer.counted bytes width
  | fixed bytes length => Writer.fixed bytes length

/-- Reads a field of a kind. -/
def Kind.read : Kind → Reader Primitive
  | number width => do return .number (← Reader.uint width) width
  | counted width => do return .counted (← Reader.counted width) width
  | fixed length => do return .fixed (← Reader.fixed length).bytes length

/-- **A field that was written is read back.** -/
theorem reads_of_runOn_write {field : Primitive} {buffer after : Bytes}
    (writes : field.write.runOn buffer = (.ok (), after)) :
    ∃ bytes, after = buffer ++ bytes ∧ field.kind.read.Reads bytes field := by
  cases field with
  | number value width =>
      obtain ⟨bytes, ⟨supported, fits, rfl⟩, same⟩ :=
        (Writer.appends_uint value width).runOn_eq_ok_iff.mp writes
      have reads := (Reader.reads_uint supported fits).bind_pure fun n => number n width
      rw [UInt64.ofNat_toNat] at reads
      exact ⟨_, same, reads⟩
  | counted bytes width =>
      obtain ⟨_, ⟨supported, fits, rfl⟩, same⟩ :=
        (Writer.appends_counted bytes width).runOn_eq_ok_iff.mp writes
      exact ⟨_, same, (Reader.reads_counted supported fits).bind_pure fun b => counted b width⟩
  | fixed bytes length =>
      obtain ⟨_, ⟨sized, rfl⟩, same⟩ :=
        (Writer.appends_fixed bytes length).runOn_eq_ok_iff.mp writes
      exact ⟨_, same, (Reader.reads_fixed ⟨_, sized⟩).bind_pure fun word =>
        fixed word.bytes length⟩

/-- **Fields that were written one after the other are read back in order.** -/
theorem reads_of_runOn_forM {fields : List Primitive} {buffer after : Bytes}
    (writes : (fields.forM write).runOn buffer = (.ok (), after)) :
    ∃ bytes, after = buffer ++ bytes ∧
      ((fields.map kind).mapM Kind.read).Reads bytes fields := by
  induction fields generalizing buffer with
  | nil =>
      cases writes
      exact ⟨[], (List.append_nil _).symm, fun rest => rfl⟩
  | cons field rest ih =>
      obtain ⟨_, between, first, writes⟩ := runOn_bind_eq_ok_iff.mp writes
      obtain ⟨bytes, rfl, reads⟩ := reads_of_runOn_write first
      obtain ⟨bytes', rfl, reads'⟩ := ih writes
      refine ⟨bytes ++ bytes', List.append_assoc .., ?_⟩
      -- To the first field the bytes of the others are a part of what follows.
      rw [List.map_cons, List.mapM_cons]
      exact reads.bind (reads'.bind_pure fun fields => field :: fields)

end Primitive

/-! ### What is refused -/

namespace Writer

/-- **When a number is refused**: its width is not one to eight bytes, or it does not fit. -/
theorem outcome_uint_eq_error_iff {value : UInt64} {width : Nat} {buffer : Bytes}
    {e : WireError} :
    (uint value width).outcome buffer = .error e ↔
      (¬ WidthSupported width ∧ e = .unsupportedWidth width) ∨
        (WidthSupported width ∧ Bytes.count width ≤ value.toNat ∧
          e = .valueOverflow value width) := by
  have appends : (put (Bytes.bigEndian width value.toNat)).outcome buffer ≠ .error e := nofun
  unfold uint
  rw [outcome_guard_eq_error_iff, outcome_guard_eq_error_iff, Nat.not_lt]
  simp only [appends, and_false, or_false]

/-- **When counted bytes are refused**: the width of the count is not one to eight bytes, or it
cannot say how many they are. -/
theorem outcome_counted_eq_error_iff {bytes : Bytes} {width : Nat} {buffer : Bytes}
    {e : WireError} :
    (counted bytes width).outcome buffer = .error e ↔
      (¬ WidthSupported width ∧ e = .unsupportedWidth width) ∨
        (WidthSupported width ∧ Bytes.count width ≤ bytes.length ∧
          e = .lengthOverflow bytes.length width) := by
  have appends : Fallible.outcome (do put (Bytes.bigEndian width bytes.length); put bytes)
      buffer ≠ (.error e : Except WireError Unit) := nofun
  unfold counted
  rw [outcome_guard_eq_error_iff, outcome_guard_eq_error_iff, Nat.not_lt]
  simp only [appends, and_false, or_false]

end Writer

/-! ### What is taken -/

namespace Reader

variable {width : Nat} {input : Bytes}

/-- A number that can be read is what its bytes denote: a word has room for eight of them. -/
theorem runOn_uint_of_readable (supported : WidthSupported width)
    (enough : width ≤ input.length) :
    ∃ value : UInt64, value.toNat = Bytes.value (input.take width) ∧
      (uint width).runOn input = (.ok value, input.drop width) := by
  have lt := Bytes.value_lt (input.take width)
  have written := Bytes.bigEndian_value (input.take width)
  rw [List.length_take_of_le enough] at lt written
  have runs := reads_uint supported lt (input.drop width)
  rw [written, List.take_append_drop] at runs
  exact ⟨_, supported.toNat_ofNat lt, runs⟩

/-- A number that cannot be read leaves the bytes alone. -/
theorem runOn_uint_of_not_readable (unreadable : ¬ (WidthSupported width ∧ width ≤ input.length)) :
    ∃ e, (∀ declared remaining, e ≠ .lengthOverrun declared remaining) ∧
      (uint width).runOn input = (.error e, input) := by
  unfold uint
  by_cases supported : WidthSupported width
  · have short : ¬ width ≤ input.length := fun enough => unreadable ⟨supported, enough⟩
    refine ⟨.truncated, nofun, ?_⟩
    rw [if_pos supported, runOn_bind_of_error ((runOn_take width input).trans (if_neg short))]
  · refine ⟨.unsupportedWidth width, nofun, ?_⟩
    rw [if_neg supported]
    rfl

/-- **A count that can be read is taken**, and what it declares with it if there is as much. -/
theorem runOn_counted_of_readable (supported : WidthSupported width)
    (enough : width ≤ input.length) :
    (counted width).runOn input =
      if Bytes.value (input.take width) ≤ (input.drop width).length then
        (.ok ((input.drop width).take (Bytes.value (input.take width))),
          (input.drop width).drop (Bytes.value (input.take width)))
      else
        (.error (.lengthOverrun (Bytes.value (input.take width)) (input.drop width).length),
          input.drop width) := by
  obtain ⟨value, declares, runs⟩ := runOn_uint_of_readable supported enough
  unfold counted
  rw [runOn_bind_of_ok runs, runOn_bind_of_ok (runOn_get _), declares, runOn_ite]
  split
  · rename_i fits
    rw [runOn_take, if_pos fits]
  · rfl

/-- A count that cannot be read leaves the bytes alone, and there is nothing for it to overrun. -/
theorem runOn_counted_of_not_readable
    (unreadable : ¬ (WidthSupported width ∧ width ≤ input.length)) :
    ∃ e, (∀ declared remaining, e ≠ .lengthOverrun declared remaining) ∧
      (counted width).runOn input = (.error e, input) := by
  obtain ⟨e, other, runs⟩ := runOn_uint_of_not_readable unreadable
  exact ⟨e, other, runOn_bind_of_error runs⟩

/-- **No more is taken than a count and what it declares**, and just that if there is a result. -/
theorem taken_of_runOn_counted {outcome : Except WireError Bytes} {rest : Bytes}
    (runs : (counted width).runOn input = (outcome, rest)) :
    ∃ taken, input = taken ++ rest ∧
      taken.length ≤ width + Bytes.value (input.take width) ∧
      ∀ bytes, outcome = .ok bytes → taken = input.take width ++ bytes ∧
        bytes.length = Bytes.value (input.take width) := by
  by_cases readable : WidthSupported width ∧ width ≤ input.length
  · rw [runOn_counted_of_readable readable.1 readable.2] at runs
    split at runs
    · rename_i fits
      cases runs
      have length := List.length_take_of_le fits
      refine ⟨input.take width ++ (input.drop width).take (Bytes.value (input.take width)),
        ?_, ?_, ?_⟩
      · rw [List.append_assoc, List.take_append_drop, List.take_append_drop]
      · apply Nat.le_of_eq
        rw [List.length_append, length, List.length_take_of_le readable.2]
      · rintro _ ⟨⟩
        exact ⟨rfl, length⟩
    · cases runs
      refine ⟨input.take width, (List.take_append_drop ..).symm, ?_, nofun⟩
      rw [List.length_take_of_le readable.2]
      exact Nat.le_add_right ..
  · obtain ⟨e, -, runs'⟩ := runOn_counted_of_not_readable readable
    cases runs.symm.trans runs'
    exact ⟨[], rfl, Nat.zero_le _, nofun⟩

/-- **When a count overruns**: it can be read, and declares more than what remains. -/
theorem outcome_counted_eq_lengthOverrun_iff {declared remaining : Nat} :
    (counted width).outcome input = .error (.lengthOverrun declared remaining) ↔
      (WidthSupported width ∧ width ≤ input.length) ∧
        declared = Bytes.value (input.take width) ∧ remaining = (input.drop width).length ∧
          remaining < declared := by
  by_cases readable : WidthSupported width ∧ width ≤ input.length
  · unfold outcome
    rw [runOn_counted_of_readable readable.1 readable.2]
    split
    · rename_i fits
      constructor
      · nofun
      · rintro ⟨-, rfl, rfl, overruns⟩
        exact absurd fits (Nat.not_le.mpr overruns)
    · rename_i overruns
      constructor
      · rintro ⟨⟩
        exact ⟨readable, rfl, rfl, Nat.not_le.mp overruns⟩
      · rintro ⟨-, rfl, rfl, -⟩
        rfl
  · obtain ⟨e, other, runs⟩ := runOn_counted_of_not_readable readable
    unfold outcome
    rw [runs]
    constructor
    · rintro ⟨⟩
      exact absurd rfl (other declared remaining)
    · rintro ⟨readable', -⟩
      exact absurd readable' readable

end Reader

/-! ### Numbers by the shifts of words

The definitions write and read a number by its value.  A machine has it in a word and shifts: down
by the width to see whether anything is left, and up by one byte for each byte that it reads.
-/

namespace Bytes

/-- The narrower form of a number is the end of the wider one. -/
theorem drop_bigEndian {width wider : Nat} (le : width ≤ wider) (n : Nat) :
    (bigEndian wider n).drop (wider - width) = bigEndian width n := by
  induction width generalizing wider n with
  | zero => exact List.drop_of_length_le (by simp)
  | succ width ih =>
      obtain ⟨wider, rfl⟩ : ∃ w, wider = w + 1 := ⟨wider - 1, by omega⟩
      have start : wider + 1 - (width + 1) ≤ (bigEndian wider (n / 256)).length := by
        rw [length_bigEndian]
        omega
      rw [bigEndian, bigEndian, List.drop_append_of_le_length start, Nat.add_sub_add_right,
        ih (by omega)]

/-- The next byte goes below a word that was shifted up by one byte. -/
theorem shiftLeft_or_ofNat (n : Nat) (b : UInt8) :
    (UInt64.ofNat n <<< 8 ||| b.toUInt64) = UInt64.ofNat (256 * n + b.toNat) := by
  have byte := b.toNat_lt
  apply UInt64.toNat.inj
  have shifted : (UInt64.ofNat n <<< 8).toNat = 2 ^ 8 * (n % 2 ^ 56) := by
    rw [UInt64.toNat_shiftLeft, UInt64.toNat_ofNat', Nat.shiftLeft_eq]
    show n % 2 ^ 64 * 2 ^ 8 % 2 ^ 64 = _
    omega
  rw [UInt64.toNat_or, shifted, UInt8.toNat_toUInt64, ← Nat.two_pow_add_eq_or_of_lt byte,
    UInt64.toNat_ofNat']
  omega

/-- The word into which the bytes are shifted one by one. -/
def word (bytes : Bytes) : UInt64 :=
  bytes.foldl (fun (w : UInt64) b => w <<< 8 ||| b.toUInt64) 0

/-- That word is the number that the bytes denote, as far as it has room. -/
theorem word_eq (bytes : Bytes) : word bytes = UInt64.ofNat bytes.value := by
  have after (n : Nat) :
      bytes.foldl (fun (w : UInt64) b => w <<< 8 ||| b.toUInt64) (UInt64.ofNat n) =
        UInt64.ofNat (bytes.foldl (fun n b => 256 * n + b.toNat) n) := by
    induction bytes generalizing n with
    | nil => rfl
    | cons b rest ih => rw [List.foldl_cons, List.foldl_cons, shiftLeft_or_ofNat, ih]
  exact after 0

end Bytes

/-- A number does not fit when a shift by its width leaves something of the word.  Of eight bytes
this is not asked: there the shift is by the whole word, and nothing can be too large. -/
theorem Writer.shiftRight_ne_zero_iff {value : UInt64} {width : Nat}
    (supported : WidthSupported width) :
    (width < 8 ∧ value >>> UInt64.ofNat (8 * width) ≠ 0) ↔
      Bytes.count width ≤ value.toNat := by
  by_cases narrow : width < 8
  · have count : Bytes.count width = 2 ^ (8 * width) := (Nat.pow_mul 2 8 width).symm
    have left : (value >>> UInt64.ofNat (8 * width)).toNat = value.toNat / 2 ^ (8 * width) := by
      rw [UInt64.toNat_shiftRight, UInt64.toNat_ofNat_of_lt' (by omega : 8 * width < 2 ^ 64),
        Nat.mod_eq_of_lt (by omega), Nat.shiftRight_eq_div_pow]
    rw [count, ← UInt64.toNat_inj.ne, left]
    simp [narrow, Nat.div_eq_zero_iff]
  · have all : width = 8 := Nat.le_antisymm supported.2 (Nat.not_lt.mp narrow)
    have whole : value.toNat < Bytes.count width := by
      rw [all]
      exact value.toNat_lt
    simp only [narrow, false_and, false_iff]
    exact Nat.not_le.mpr whole

/-- **A number is written by shifts**: its bytes are the last ones of the word. -/
theorem Writer.uint_eq_shift (value : UInt64) (width : Nat) :
    uint value width =
      if WidthSupported width then
        if width < 8 ∧ value >>> UInt64.ofNat (8 * width) ≠ 0 then
          throw (.valueOverflow value width)
        else put ((Bytes.bigEndian 8 value.toNat).drop (8 - width))
      else throw (.unsupportedWidth width) := by
  unfold uint
  by_cases supported : WidthSupported width
  · rw [if_pos supported, if_pos supported, Bytes.drop_bigEndian supported.2]
    by_cases fits : value.toNat < Bytes.count width
    · rw [if_pos fits, if_neg (mt (shiftRight_ne_zero_iff supported).mp (Nat.not_le.mpr fits))]
    · rw [if_neg fits, if_pos ((shiftRight_ne_zero_iff supported).mpr (Nat.not_lt.mp fits))]
  · rw [if_neg supported, if_neg supported]

/-- **A number is read by shifts.** -/
theorem Reader.uint_eq_shift (width : Nat) :
    uint width =
      if WidthSupported width then do
        let bytes ← take width
        return bytes.word
      else throw (.unsupportedWidth width) := by
  simp only [Bytes.word_eq]
  rfl

/-! ### The statement -/

/-- **Primitives are read back**: a list of fields that was appended to any buffer is read back in
order from what was appended, up to whatever follows it.  A number is refused exactly when its width
is not one to eight bytes or it does not fit, counted bytes exactly when the width of their count is
not or they are too many for it.  The reader of counted bytes takes no more than the count and what
it declares, and it overruns exactly when the count can be read and declares more than what
remains. -/
theorem primitives_read_back :
    (∀ (fields : List Primitive) (buffer after : Bytes),
      (fields.forM Primitive.write).runOn buffer = (.ok (), after) →
        ∃ appended, after = buffer ++ appended ∧ ∀ further,
          ((fields.map Primitive.kind).mapM Primitive.Kind.read).runOn (appended ++ further) =
            (.ok fields, further)) ∧
    (∀ (value : UInt64) (width : Nat) (buffer : Bytes) (e : WireError),
      (Writer.uint value width).outcome buffer = .error e ↔
        (¬ WidthSupported width ∧ e = .unsupportedWidth width) ∨
          (WidthSupported width ∧ Bytes.count width ≤ value.toNat ∧
            e = .valueOverflow value width)) ∧
    (∀ (bytes : Bytes) (width : Nat) (buffer : Bytes) (e : WireError),
      (Writer.counted bytes width).outcome buffer = .error e ↔
        (¬ WidthSupported width ∧ e = .unsupportedWidth width) ∨
          (WidthSupported width ∧ Bytes.count width ≤ bytes.length ∧
            e = .lengthOverflow bytes.length width)) ∧
    (∀ (width : Nat) (input rest : Bytes) (outcome : Except WireError Bytes),
      (Reader.counted width).runOn input = (outcome, rest) →
        ∃ taken, input = taken ++ rest ∧
          taken.length ≤ width + Bytes.value (input.take width) ∧
          ∀ bytes, outcome = .ok bytes → taken = input.take width ++ bytes ∧
            bytes.length = Bytes.value (input.take width)) ∧
    ∀ (width : Nat) (input : Bytes) (declared remaining : Nat),
      (Reader.counted width).outcome input = .error (.lengthOverrun declared remaining) ↔
        (WidthSupported width ∧ width ≤ input.length) ∧
          declared = Bytes.value (input.take width) ∧ remaining = (input.drop width).length ∧
            remaining < declared :=
  ⟨fun _ _ _ => Primitive.reads_of_runOn_forM,
    fun _ _ _ _ => Writer.outcome_uint_eq_error_iff,
    fun _ _ _ _ => Writer.outcome_counted_eq_error_iff,
    fun _ _ _ _ => Reader.taken_of_runOn_counted,
    fun _ _ _ _ => Reader.outcome_counted_eq_lengthOverrun_iff⟩

/-- A field of each kind, the empty byte string, and the largest number. -/
def samplePrimitives : List Primitive :=
  [.number 258 2, .counted [170, 187] 1, .fixed [1, 2, 3, 4] 4, .counted [] 2,
    .number 18446744073709551615 8]

/-- The bytes of these fields. -/
def samplePrimitiveBytes : Bytes :=
  [1, 2, 2, 170, 187, 1, 2, 3, 4, 0, 0, 255, 255, 255, 255, 255, 255, 255, 255]

/-- They are read back behind a byte that was there before and in front of two that follow.  A count
of five with two bytes behind it is taken alone. -/
theorem primitives_read_back_of_samples :
    ((samplePrimitives.forM Primitive.write).runOn [9] = (.ok (), [9] ++ samplePrimitiveBytes) ∧
      ((samplePrimitives.map Primitive.kind).mapM Primitive.Kind.read).runOn
        (samplePrimitiveBytes ++ [7, 7]) = (.ok samplePrimitives, [7, 7])) ∧
      (Reader.counted 2).runOn [0, 5, 170, 187] =
        (.error (.lengthOverrun 5 2), [170, 187]) ∧
      ∃ taken, ([0, 5, 170, 187] : Bytes) = taken ++ [170, 187] ∧
        taken.length ≤ 2 + Bytes.value [0, 5] := by
  have writes : (samplePrimitives.forM Primitive.write).runOn [9] =
      (.ok (), [9] ++ samplePrimitiveBytes) := rfl
  have overruns : (Reader.counted 2).runOn [0, 5, 170, 187] =
      (.error (.lengthOverrun 5 2), [170, 187]) := rfl
  obtain ⟨fields, -, -, counts, -⟩ := primitives_read_back
  obtain ⟨appended, same, reads⟩ := fields samplePrimitives _ _ writes
  obtain rfl := List.append_cancel_left same
  obtain ⟨taken, split, le, -⟩ := counts _ _ _ _ overruns
  exact ⟨⟨writes, reads [7, 7]⟩, overruns, taken, split, le⟩

end TokenTransfer
