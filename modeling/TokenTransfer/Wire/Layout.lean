import TokenTransfer.Amount
import TokenTransfer.Chain
import TokenTransfer.Wire.Writer

/-!
# Layouts of a fixed size

Values that take the same number of bytes whichever they are: words, chains, addresses and amounts.

## Main definitions

* `Layout α` - the bytes of an `α`, how many there are, and how to read them
* `Writer.value` - appends a value
* `Layout.decode` - reads a value that takes up a whole byte string
-/

namespace TokenTransfer

/-- A layout of a fixed size for the values of a type. -/
class Layout (α : Type) where
  /-- The number of bytes of any value. -/
  size : Nat
  /-- The bytes of a value. -/
  encode : α → Bytes
  /-- Reads a value. -/
  read : Reader α
  /-- Every value takes as many bytes as the layout says. -/
  length_encode : ∀ a, (encode a).length = size

namespace Layout

instance {n : Nat} : Layout (FixedBytes n) where
  size := n
  encode := FixedBytes.bytes
  read := Reader.fixed n
  length_encode := FixedBytes.length_eq

instance : Layout UInt8 where
  size := 1
  encode n := Bytes.bigEndian 1 n.toNat
  read := do return UInt8.ofNat (← Reader.fixed 1).toNat
  length_encode _ := Bytes.length_bigEndian ..

instance : Layout UInt16 where
  size := 2
  encode n := Bytes.bigEndian 2 n.toNat
  read := do return UInt16.ofNat (← Reader.fixed 2).toNat
  length_encode _ := Bytes.length_bigEndian ..

instance : Layout UInt64 where
  size := 8
  encode n := Bytes.bigEndian 8 n.toNat
  read := do return UInt64.ofNat (← Reader.fixed 8).toNat
  length_encode _ := Bytes.length_bigEndian ..

instance : Layout ChainId where
  size := 2
  encode chain := encode chain.id
  read := do return ⟨← read⟩
  length_encode chain := length_encode chain.id

/-- The decimals come before the units. -/
instance : Layout Amount where
  size := 9
  encode amount := encode amount.decimals ++ encode amount.units
  read := do
    let decimals ← read
    let units ← read
    return ⟨units, decimals⟩
  length_encode amount := by simp [length_encode, size]

/-- Reads a value that takes up all of `bytes`, a frame of the given name. -/
def decode {α : Type} [Layout α] (frame : String) (bytes : Bytes) : Except WireError α :=
  Reader.whole read frame bytes

end Layout

/-- Appends the bytes of a value. -/
def Writer.value {α : Type} [Layout α] (a : α) : Writer := put (Layout.encode a)

end TokenTransfer
