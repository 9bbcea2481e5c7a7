/-!
# Byte strings

Byte strings, the numbers they denote, and byte strings of a fixed length.  All numbers are
big-endian: the most significant byte comes first.

## Main definitions

* `Bytes` - a byte string
* `Bytes.value` - the number a byte string denotes
* `Bytes.bigEndian` - the byte string of a given length that denotes a number
* `Bytes.count` - the number of byte strings of a given length
* `FixedBytes n` - a byte string of length `n`

`value_bigEndian` and `bigEndian_value` say that, at a fixed length, byte strings and the numbers
below `count n` are the same thing.
-/

namespace TokenTransfer

/-- A byte string. -/
abbrev Bytes := List UInt8

namespace Bytes

/-- The number that `bytes` denotes, most significant byte first. -/
def value (bytes : Bytes) : Nat :=
  bytes.foldl (fun n b => 256 * n + b.toNat) 0

/-- The lowest `width` bytes of `n`, most significant byte first. -/
def bigEndian : (width : Nat) → (n : Nat) → Bytes
  | 0, _ => []
  | width + 1, n => bigEndian width (n / 256) ++ [UInt8.ofNat n]

/-- The number of byte strings of length `n`. -/
def count (n : Nat) : Nat := Nat.pow 256 n

theorem count_succ (n : Nat) : count (n + 1) = 256 * count n := Nat.mul_comm _ _

theorem count_pos (n : Nat) : 0 < count n := Nat.pow_pos (by decide)

@[simp] theorem value_append_singleton (bytes : Bytes) (b : UInt8) :
    value (bytes ++ [b]) = 256 * value bytes + b.toNat := by
  simp [value]

@[simp] theorem length_bigEndian (width n : Nat) : (bigEndian width n).length = width := by
  induction width generalizing n with
  | zero => rfl
  | succ width ih => simp [bigEndian, ih]

/-- Writing `n` in `width` bytes keeps exactly its remainder modulo `count width`. -/
theorem value_bigEndian (width n : Nat) : value (bigEndian width n) = n % count width := by
  induction width generalizing n with
  | zero => exact (Nat.mod_one n).symm
  | succ width ih =>
    rw [bigEndian, value_append_singleton, ih, count_succ, Nat.mod_mul]
    simp [UInt8.toNat_ofNat']
    omega

/-- A number that fits its width is read back from its bytes. -/
theorem value_bigEndian_of_lt {width n : Nat} (h : n < count width) :
    value (bigEndian width n) = n := by
  rw [value_bigEndian, Nat.mod_eq_of_lt h]

/-- A byte string is the big-endian form of its value at its own length. -/
theorem bigEndian_value (bytes : Bytes) : bigEndian bytes.length (value bytes) = bytes := by
  obtain ⟨reversed, rfl⟩ : ∃ r : Bytes, bytes = r.reverse := ⟨bytes.reverse, by simp⟩
  induction reversed with
  | nil => rfl
  | cons b rest ih =>
    have low : (256 * value rest.reverse + b.toNat) / 256 = value rest.reverse := by
      have := b.toNat_lt
      omega
    simp only [List.reverse_cons, List.length_append, List.length_singleton, bigEndian,
      value_append_singleton, low, ih]
    congr 2
    apply UInt8.toNat.inj
    simp

/-- A byte string of length `n` denotes a number below `count n`. -/
theorem value_lt (bytes : Bytes) : value bytes < count bytes.length := by
  rw [← bigEndian_value bytes, value_bigEndian, length_bigEndian]
  exact Nat.mod_lt _ (count_pos _)

/-- Byte strings of one length that denote one number are equal. -/
theorem value_inj {a b : Bytes} (length : a.length = b.length) (h : value a = value b) :
    a = b := by
  rw [← bigEndian_value a, ← bigEndian_value b, length, h]

end Bytes

/-! ### Byte strings of a fixed length -/

/-- A byte string of length `n`. -/
structure FixedBytes (n : Nat) where
  bytes : Bytes
  length_eq : bytes.length = n
deriving DecidableEq

namespace FixedBytes

/-- The bytes of `bytes`, if there are exactly `n` of them. -/
def ofBytes? (n : Nat) (bytes : Bytes) : Option (FixedBytes n) :=
  if h : bytes.length = n then some ⟨bytes, h⟩ else none

/-- The lowest `n` bytes of a number. -/
def ofNat (n value : Nat) : FixedBytes n :=
  ⟨Bytes.bigEndian n value, Bytes.length_bigEndian n value⟩

/-- The number that the bytes denote. -/
def toNat {n : Nat} (word : FixedBytes n) : Nat := word.bytes.value

/-- The string of `n` zero bytes. -/
def zero (n : Nat) : FixedBytes n := ⟨List.replicate n 0, List.length_replicate⟩

@[ext] theorem ext {n : Nat} {a b : FixedBytes n} (h : a.bytes = b.bytes) : a = b := by
  cases a
  cases b
  simpa using h

theorem toNat_lt {n : Nat} (word : FixedBytes n) : word.toNat < Bytes.count n := by
  have := Bytes.value_lt word.bytes
  rwa [word.length_eq] at this

theorem toNat_inj {n : Nat} {a b : FixedBytes n} (h : a.toNat = b.toNat) : a = b :=
  ext (Bytes.value_inj (by rw [a.length_eq, b.length_eq]) h)

@[simp] theorem toNat_ofNat (n value : Nat) : (ofNat n value).toNat = value % Bytes.count n :=
  Bytes.value_bigEndian n value

/-- The bytes are the big-endian form of the number that they denote. -/
theorem bigEndian_toNat {n : Nat} (word : FixedBytes n) :
    Bytes.bigEndian n word.toNat = word.bytes := by
  have written := Bytes.bigEndian_value word.bytes
  rwa [word.length_eq] at written

end FixedBytes

end TokenTransfer
