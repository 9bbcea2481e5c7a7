import TokenTransfer.Wire.Shape

/-!
# Envelopes

The outermost frame, in which a transceiver delivers a manager's message.  Its tag names the
transceiver; the envelope itself does not keep the tag.

## Main definitions

* `Envelope M T` - the two managers, the manager's payload and the transceiver's
* `Envelope.encode` - the bytes of an envelope under a tag
* `Envelope.decode` - reads an envelope under one of several tags
* `Envelope.decodeAs` - reads an envelope under one tag
* `Envelope.parseManager`, `Envelope.parseTransceiver` - read a raw payload as a shape
-/

namespace TokenTransfer

/-- A manager's message on its way, with what its transceiver adds. -/
structure Envelope (M T : Type) where
  source : Address
  recipient : Address
  managerPayload : M
  transceiverPayload : T
deriving DecidableEq

namespace Envelope

/-- The name of the frame in error texts. -/
def frame : String := "TransceiverMessage"

variable {manager transceiver : Shape}

/-- Writes all but the tag. -/
def writeBody (envelope : Envelope manager.Val transceiver.Val) : Writer := do
  Writer.value envelope.source
  Writer.value envelope.recipient
  Writer.nested (manager.write envelope.managerPayload) 2
  Writer.nested (transceiver.write envelope.transceiverPayload) 2

/-- The bytes of an envelope under a tag. -/
def encode (tag : Tag) (envelope : Envelope manager.Val transceiver.Val) :
    Except WireError Bytes :=
  Writer.toBytes do
    Writer.value tag
    envelope.writeBody

/-- Reads all but the tag. -/
def readBody (manager transceiver : Shape) : Reader (Envelope manager.Val transceiver.Val) := do
  let source ← Layout.read
  let recipient ← Layout.read
  let managerPayload ← Reader.nested manager.decode 2
  let transceiverPayload ← Reader.nested transceiver.decode 2
  Reader.finish frame
  return { source, recipient, managerPayload, transceiverPayload }

/-- Reads an envelope under one of `tags` and says which. -/
def decode (manager transceiver : Shape) (bytes : Bytes) (tags : List Tag) :
    Except WireError (Tag × Envelope manager.Val transceiver.Val) :=
  Fallible.outcome (do
    let found ← Reader.fixed 4
    if found ∈ tags then return (found, ← readBody manager transceiver)
    else throw (.unknownTag found)) bytes

/-- Reads an envelope under `tag`. -/
def decodeAs (manager transceiver : Shape) (tag : Tag) (bytes : Bytes) :
    Except WireError (Envelope manager.Val transceiver.Val) :=
  Fallible.outcome (do
    Reader.tag tag frame
    readBody manager transceiver) bytes

/-- Reads the raw manager payload as a shape. -/
def parseManager {T : Type} (shape : Shape) (envelope : Envelope Bytes T) :
    Except WireError (Envelope shape.Val T) := do
  let managerPayload ← shape.decode envelope.managerPayload
  return { envelope with managerPayload }

/-- Reads the raw transceiver payload as a shape. -/
def parseTransceiver {M : Type} (shape : Shape) (envelope : Envelope M Bytes) :
    Except WireError (Envelope M shape.Val) := do
  let transceiverPayload ← shape.decode envelope.transceiverPayload
  return { envelope with transceiverPayload }

end Envelope

end TokenTransfer
