import TokenTransfer.Proofs.Fallible
import TokenTransfer.Wire.Message

/-!
# Reading back what was written

A reader reads a byte string as a value if it takes that byte string off the front of any bytes and
leaves the rest alone.  This is closed under composition, so the reader of a record reads what is
the concatenation of its fields.

## Main definitions

* `Reader.Reads` - a reader takes a byte string off the front and gives a value
* `LawfulLayout` - the layouts whose readers read what they encode
-/

namespace TokenTransfer

/-- A word has room for what eight bytes can say. -/
theorem WidthSupported.toNat_ofNat {width n : Nat} (supported : WidthSupported width)
    (fits : n < Bytes.count width) : (UInt64.ofNat n).toNat = n :=
  UInt64.toNat_ofNat_of_lt'
    (Nat.lt_of_lt_of_le fits (Nat.pow_le_pow_right (by decide : 0 < 256) supported.2))

namespace Reader

variable {α β : Type}

/-- **The reader reads `bytes` as `a`**, whatever comes after them. -/
def Reads (reader : Reader α) (bytes : Bytes) (a : α) : Prop :=
  ∀ rest, reader.runOn (bytes ++ rest) = (.ok a, rest)

/-- What is read in two parts is read from the bytes of both. -/
theorem Reads.bind {reader : Reader α} {next : α → Reader β} {bytes bytes' : Bytes} {a : α} {b : β}
    (first : reader.Reads bytes a) (second : (next a).Reads bytes' b) :
    Reads (reader >>= next) (bytes ++ bytes') b := by
  intro rest
  rw [List.append_assoc, Fallible.runOn_bind_of_ok (first (bytes' ++ rest))]
  exact second rest

/-- The last part of a composition, after which only the value is put together. -/
theorem Reads.bind_pure {reader : Reader α} {bytes : Bytes} {a : α} (reads : reader.Reads bytes a)
    (f : α → β) : Reads (reader >>= fun x => pure (f x)) bytes (f a) := by
  intro rest
  rw [Fallible.runOn_bind_of_ok (reads rest)]
  rfl

theorem reads_fixed {n : Nat} (word : FixedBytes n) : (fixed n).Reads word.bytes word := by
  intro rest
  have fits : n ≤ (word.bytes ++ rest).length := by
    rw [List.length_append, word.length_eq]
    exact Nat.le_add_right _ _
  rw [runOn_fixed, dif_pos fits]
  refine Prod.ext (congrArg Except.ok (FixedBytes.ext ?_)) ?_
  · exact List.take_left' word.length_eq
  · exact List.drop_left' word.length_eq

theorem reads_tag (expected : Tag) (frame : String) :
    (tag expected frame).Reads expected.bytes () := by
  intro rest
  unfold tag
  rw [Fallible.runOn_bind_of_ok (reads_fixed expected rest), if_neg (by simp)]
  rfl

theorem reads_take (bytes : Bytes) : (take bytes.length).Reads bytes bytes := by
  intro rest
  rw [runOn_take, if_pos (by simp), List.take_left, List.drop_left]

/-- A number that fits its width is read from its bytes. -/
theorem reads_uint {width : Nat} (supported : WidthSupported width) {value : Nat}
    (fits : value < Bytes.count width) :
    (uint width).Reads (Bytes.bigEndian width value) (UInt64.ofNat value) := by
  intro rest
  have reads := reads_take (Bytes.bigEndian width value) rest
  rw [Bytes.length_bigEndian] at reads
  unfold uint
  rw [if_pos supported, Fallible.runOn_bind_of_ok reads, Bytes.value_bigEndian_of_lt fits]
  rfl

/-- Bytes are read from their count and themselves. -/
theorem reads_counted {width : Nat} (supported : WidthSupported width) {bytes : Bytes}
    (fits : bytes.length < Bytes.count width) :
    (counted width).Reads (Bytes.bigEndian width bytes.length ++ bytes) bytes := by
  have count : (UInt64.ofNat bytes.length).toNat = bytes.length := supported.toNat_ofNat fits
  unfold counted
  refine (reads_uint supported fits).bind ?_
  intro rest
  rw [Fallible.runOn_bind_of_ok (Fallible.runOn_get _), count, if_pos (by simp)]
  exact reads_take bytes rest

/-- So is what they decode to. -/
theorem reads_nested {width : Nat} (supported : WidthSupported width) {bytes : Bytes}
    (fits : bytes.length < Bytes.count width) {decode : Bytes → Except WireError α} {a : α}
    (decodes : decode bytes = .ok a) :
    (nested decode width).Reads (Bytes.bigEndian width bytes.length ++ bytes) a := by
  intro rest
  unfold nested
  rw [Fallible.runOn_bind_of_ok (reads_counted supported fits rest), Fallible.runOn_ofExcept,
    decodes]

/-- What reads a byte string as a value reads a frame of just those bytes. -/
theorem Reads.whole {reader : Reader α} {bytes : Bytes} {a : α} (reads : reader.Reads bytes a)
    (frame : String) : whole reader frame bytes = .ok a := by
  have run := reads []
  rw [List.append_nil] at run
  unfold Reader.whole Fallible.outcome
  rw [Fallible.runOn_bind_of_ok run, Fallible.runOn_bind_of_ok (runOn_finish frame [])]
  rfl

end Reader

/-! ### Layouts -/

/-- A layout whose reader reads what it encodes. -/
class LawfulLayout (α : Type) [Layout α] : Prop where
  reads (a : α) : (Layout.read : Reader α).Reads (Layout.encode a) a

namespace LawfulLayout

open Reader

instance {n : Nat} : LawfulLayout (FixedBytes n) := ⟨reads_fixed⟩

/-- A word is read back from as many bytes as it has. -/
private theorem reads_word {α : Type} {width value : Nat} {a : α} (ofNat : Nat → α)
    (fits : value < Bytes.count width) (same : ofNat value = a) :
    Reader.Reads (do return ofNat (← Reader.fixed width).toNat) (Bytes.bigEndian width value)
      a := by
  have reads := (reads_fixed (FixedBytes.ofNat width value)).bind_pure fun word => ofNat word.toNat
  rw [FixedBytes.toNat_ofNat, Nat.mod_eq_of_lt fits, same] at reads
  exact reads

instance : LawfulLayout UInt8 := ⟨fun n => reads_word UInt8.ofNat n.toNat_lt UInt8.ofNat_toNat⟩

instance : LawfulLayout UInt16 := ⟨fun n => reads_word UInt16.ofNat n.toNat_lt UInt16.ofNat_toNat⟩

instance : LawfulLayout UInt64 := ⟨fun n => reads_word UInt64.ofNat n.toNat_lt UInt64.ofNat_toNat⟩

instance : LawfulLayout ChainId := ⟨fun chain => (reads chain.id).bind_pure ChainId.mk⟩

instance : LawfulLayout Amount := ⟨fun amount =>
  (reads amount.decimals).bind ((reads amount.units).bind_pure fun units =>
    Amount.mk units amount.decimals)⟩

instance : LawfulLayout Transfer := ⟨fun t => by
  have fields : Layout.encode t = Tag.transfer.bytes ++ (Layout.encode t.amount ++
      (Layout.encode t.sourceToken ++ (Layout.encode t.recipient ++
        Layout.encode t.recipientChain))) := by
    simp [Layout.encode]
  rw [fields]
  exact (reads_tag Tag.transfer Transfer.frame).bind ((reads t.amount).bind
    ((reads t.sourceToken).bind ((reads t.recipient).bind
      ((reads t.recipientChain).bind_pure _))))⟩

instance : LawfulLayout Registration := ⟨fun r => by
  have fields : Layout.encode r =
      Tag.registration.bytes ++ (Layout.encode r.chain ++ Layout.encode r.transceiver) := by
    simp [Layout.encode]
  rw [fields]
  exact (reads_tag Tag.registration Registration.frame).bind ((reads r.chain).bind
    ((reads r.transceiver).bind_pure _))⟩

end LawfulLayout

end TokenTransfer
