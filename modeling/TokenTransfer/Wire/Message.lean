import TokenTransfer.Wire.Layout

/-!
# Messages

What managers and transceivers say to each other.  A manager message and an instruction carry a
payload, whose type is a parameter.

## Main definitions

* `Transfer` - an amount of a token for a recipient on a chain
* `ManagerMessage P` - what one manager sends to its peer
* `Instruction P` - what a transfer asks of one transceiver
* `RelayHint` - which relayer is to deliver a message
* `Registration` - the peer that a transceiver records for a chain
-/

namespace TokenTransfer

/-! ### Transfers -/

/-- An amount of a token, bound for a recipient on a chain. -/
structure Transfer where
  amount : Amount
  sourceToken : Address
  recipient : Address
  recipientChain : ChainId
deriving DecidableEq

namespace Transfer

/-- The name of the frame in error texts. -/
def frame : String := "NativeTokenTransfer"

/-- The tag, then the fields in order. -/
instance : Layout Transfer where
  size := 79
  encode t :=
    Tag.transfer.bytes ++ Layout.encode t.amount ++ Layout.encode t.sourceToken ++
      Layout.encode t.recipient ++ Layout.encode t.recipientChain
  read := do
    Reader.tag Tag.transfer frame
    let amount ← Layout.read
    let sourceToken ← Layout.read
    let recipient ← Layout.read
    let recipientChain ← Layout.read
    return { amount, sourceToken, recipient, recipientChain }
  length_encode t := by simp [Layout.length_encode, Layout.size, Tag.transfer]

end Transfer

/-! ### Messages between managers -/

/-- The id that tells a manager's messages apart. -/
abbrev MessageId := FixedBytes 32

namespace MessageId

/-- The id of the outbound transfer with a given sequence number: the number, in 32 bytes. -/
def ofSequence (sequence : UInt64) : MessageId := FixedBytes.ofNat 32 sequence.toNat

end MessageId

/-- What one manager sends to its peer on another chain. -/
structure ManagerMessage (P : Type) where
  id : MessageId
  sender : Address
  payload : P
deriving DecidableEq

/-- The name of a manager message's frame in error texts. -/
def ManagerMessage.frame : String := "NttManagerMessage"

/-! ### Transceivers -/

/-- What a transfer asks of one transceiver, which is named by its place in the manager's list. -/
structure Instruction (P : Type) where
  index : UInt8
  payload : P
deriving DecidableEq

/-- The name of an instruction's frame in error texts. -/
def Instruction.frame : String := "TransceiverInstruction"

/-- Which relayer is to deliver a message: the specialized or the standard one. -/
structure RelayHint where
  specialized : Bool
deriving DecidableEq

namespace RelayHint

/-- The name of the frame in error texts. -/
def frame : String := "WormholeTransceiverPayload"

/-- The version of the hint, which is not written. -/
def version : Nat := 1

/-- A hint is one byte, one for the specialized relayer. -/
def write (hint : RelayHint) : Writer := Writer.uint (if hint.specialized then 1 else 0) 1

/-- Any byte but zero asks for the specialized relayer. -/
def decode (bytes : Bytes) : Except WireError RelayHint :=
  Reader.whole (do return ⟨(← Reader.uint 1) ≠ 0⟩) frame bytes

end RelayHint

/-- The peer that a transceiver records for a chain. -/
structure Registration where
  chain : ChainId
  transceiver : Address
deriving DecidableEq

namespace Registration

/-- The name of the frame in error texts. -/
def frame : String := "WormholeTransceiverRegistration"

/-- The tag, then the fields in order. -/
instance : Layout Registration where
  size := 38
  encode r :=
    Tag.registration.bytes ++ Layout.encode r.chain ++ Layout.encode r.transceiver
  read := do
    Reader.tag Tag.registration frame
    let chain ← Layout.read
    let transceiver ← Layout.read
    return { chain, transceiver }
  length_encode r := by simp [Layout.length_encode, Layout.size, Tag.registration]

end Registration

end TokenTransfer
