import TokenTransfer.Wire.Message

/-!
# Shapes of payloads

The payloads that frames carry, nested to any depth.  A shape says which kind of payload a byte string
is to be read as; the values of a shape, their bytes and their reading all follow the shape.

## Main definitions

* `Shape` - raw bytes, a transfer, a hint, a registration, or a frame around a shape
* `Shape.Val` - the values of a shape
* `Shape.write`, `Shape.encode` - the bytes of a value
* `Shape.decode` - the value that a whole byte string denotes
-/

namespace TokenTransfer

/-- The kinds of payload. -/
inductive Shape where
  | raw
  | transfer
  | hint
  | optionalHint
  | registration
  | manager (payload : Shape)
  | instruction (payload : Shape)
deriving DecidableEq

namespace Shape

/-- The values of a shape. -/
@[reducible] def Val : Shape → Type
  | raw => Bytes
  | transfer => Transfer
  | hint => RelayHint
  | optionalHint => Option RelayHint
  | registration => Registration
  | manager payload => ManagerMessage payload.Val
  | instruction payload => Instruction payload.Val

/-- Writes a value field by field.  The payload of a manager message stands behind a two-byte count,
that of an instruction behind a one-byte count; a hint that is absent leaves no bytes. -/
def write : (shape : Shape) → shape.Val → Writer
  | raw, bytes => Writer.put bytes
  | transfer, t => Writer.value t
  | hint, h => h.write
  | optionalHint, none => pure ()
  | optionalHint, some h => h.write
  | registration, r => Writer.value r
  | manager payload, message => do
    Writer.value message.id
    Writer.value message.sender
    Writer.nested (payload.write message.payload) 2
  | instruction payload, i => do
    Writer.value i.index
    Writer.nested (payload.write i.payload) 1

/-- The bytes of a value. -/
def encode (shape : Shape) (v : shape.Val) : Except WireError Bytes := Writer.toBytes (shape.write v)

/-- Reads a value that takes up a whole byte string. -/
def decode : (shape : Shape) → Bytes → Except WireError shape.Val
  | raw, bytes => .ok bytes
  | transfer, bytes => Layout.decode Transfer.frame bytes
  | hint, bytes => RelayHint.decode bytes
  | optionalHint, [] => .ok none
  | optionalHint, bytes => some <$> RelayHint.decode bytes
  | registration, bytes => Layout.decode Registration.frame bytes
  | manager payload, bytes =>
    Reader.whole (do
      let id ← Layout.read
      let sender ← Layout.read
      let inner ← Reader.nested payload.decode 2
      return { id, sender, payload := inner }) ManagerMessage.frame bytes
  | instruction payload, bytes =>
    Reader.whole (do
      let index ← Layout.read
      let inner ← Reader.nested payload.decode 1
      return { index, payload := inner }) Instruction.frame bytes

end Shape

/-- Reads the raw payload of a manager message as a shape. -/
def ManagerMessage.parse (shape : Shape) (message : ManagerMessage Bytes) :
    Except WireError (ManagerMessage shape.Val) := do
  let payload ← shape.decode message.payload
  return { message with payload }

end TokenTransfer
