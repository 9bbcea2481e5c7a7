import TokenTransfer.Wire.Reader

/-!
# Writers

A writer appends bytes to a buffer.  It checks before it appends, and a nested payload is written to a
buffer of its own first, so one step of a writer that fails leaves the buffer as it was.

## Main definitions

* `Writer` - appends to a buffer, or fails
* `Writer.uint` - a number in one to eight bytes
* `Writer.fixed` - bytes that must have a given length
* `Writer.counted` - bytes behind their number
* `Writer.nested` - a payload behind the number of its bytes
* `Writer.toBytes` - what a writer appends to the empty buffer
-/

namespace TokenTransfer

/-- Appends bytes to a buffer. -/
abbrev Writer := Fallible WireError Bytes Unit

namespace Writer

/-- What a writer appends to the empty buffer. -/
def toBytes (writer : Writer) : Except WireError Bytes :=
  match Fallible.runOn writer [] with
  | (.ok (), bytes) => .ok bytes
  | (.error e, _) => .error e

/-- Appends `bytes`. -/
def put (bytes : Bytes) : Writer := modify (· ++ bytes)

/-- Appends `value` in `width` bytes. -/
def uint (value : UInt64) (width : Nat) : Writer := do
  if WidthSupported width then
    if value.toNat < Bytes.count width then put (Bytes.bigEndian width value.toNat)
    else throw (.valueOverflow value width)
  else throw (.unsupportedWidth width)

/-- Appends `bytes`, which must be `length` many. -/
def fixed (bytes : Bytes) (length : Nat) : Writer := do
  if bytes.length = length then put bytes
  else throw (.lengthMismatch length bytes.length)

/-- Appends `bytes` behind their number in `width` bytes. -/
def counted (bytes : Bytes) (width : Nat) : Writer := do
  if WidthSupported width then
    if bytes.length < Bytes.count width then
      put (Bytes.bigEndian width bytes.length)
      put bytes
    else throw (.lengthOverflow bytes.length width)
  else throw (.unsupportedWidth width)

/-- Appends what `payload` writes behind the number of its bytes. -/
def nested (payload : Writer) (width : Nat) : Writer := do
  let bytes ← Fallible.ofExcept (toBytes payload)
  counted bytes width

/-! ### What writers do to the buffer -/

@[simp] theorem runOn_put (bytes buffer : Bytes) :
    Fallible.runOn (put bytes) buffer = (.ok (), buffer ++ bytes) := rfl

end Writer

end TokenTransfer
