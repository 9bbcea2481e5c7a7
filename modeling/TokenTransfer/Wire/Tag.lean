import TokenTransfer.Address

/-!
# Tags

A frame on the wire may begin with a tag, four bytes that say what follows.

## Main definitions

* `Tag` - four bytes
* `Tag.transfer`, `Tag.registration`, `Tag.wormhole` - the tags of this format
-/

namespace TokenTransfer

/-- Four bytes at the head of a frame. -/
abbrev Tag := FixedBytes 4

namespace Tag

/-- The tag of a token transfer. -/
def transfer : Tag := ⟨[0x99, 0x4e, 0x54, 0x54], rfl⟩

/-- The tag of a transceiver's registration of its peer. -/
def registration : Tag := ⟨[0x18, 0xfc, 0x67, 0xc2], rfl⟩

/-- The tag of an envelope that the Wormhole transceiver delivers. -/
def wormhole : Tag := ⟨[0x99, 0x45, 0xff, 0x10], rfl⟩

/-- A tag in an error text: its bytes in brackets, two digits each. -/
def listed (tag : Tag) : String :=
  "[" ++ ", ".intercalate (tag.bytes.map fun b => Hex.encode [b]) ++ "]"

/-- A tag as it is shown for inspection. -/
def inspect (tag : Tag) : String := "TransceiverPrefix(0x" ++ Hex.encode tag.bytes ++ ")"

end Tag

end TokenTransfer
