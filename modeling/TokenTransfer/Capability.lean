/-!
# Capabilities

An adapter need not offer every operation.  The optional ones are grouped into capabilities, and an
adapter lists those it has.

## Main definitions

* `Capability` - the groups of optional operations
* `Capabilities` - a set of them, as a word of flags
-/

namespace TokenTransfer

/-- The groups of optional operations. -/
inductive Capability where
  | nftTransfer
  | automaticRelay
  | deliveryQuote
  | capacityQuery
  | inboundQueue
  | outboundQueue
  | attestationStatus
  | metadata
deriving DecidableEq

namespace Capability

/-- All capabilities, in the order of their flags. -/
def all : List Capability :=
  [nftTransfer, automaticRelay, deliveryQuote, capacityQuery, inboundQueue, outboundQueue,
    attestationStatus, metadata]

/-- The name of a capability in error texts. -/
def text : Capability → String
  | nftTransfer => "nft transfer"
  | automaticRelay => "automatic relay"
  | deliveryQuote => "delivery quote"
  | capacityQuery => "capacity query"
  | inboundQueue => "inbound queue"
  | outboundQueue => "outbound queue"
  | attestationStatus => "attestation status"
  | metadata => "metadata"

/-- The place of a capability's bit. -/
def place : Capability → Nat
  | nftTransfer => 0
  | automaticRelay => 1
  | deliveryQuote => 2
  | capacityQuery => 3
  | inboundQueue => 4
  | outboundQueue => 5
  | attestationStatus => 6
  | metadata => 7

/-- The word in which only the bit of a capability is set. -/
def flag (c : Capability) : UInt16 := UInt16.ofNat (1 <<< c.place)

end Capability

/-- A set of capabilities, one bit each. -/
structure Capabilities where
  bits : UInt16
deriving DecidableEq

namespace Capabilities

/-- The set of all capabilities. -/
def full : Capabilities := ⟨255⟩

/-- The capabilities whose bits are set; other bits mean nothing and are dropped. -/
def ofBits (bits : UInt16) : Capabilities := ⟨bits &&& full.bits⟩

/-- Whether a capability is in the set. -/
def supports (set : Capabilities) (c : Capability) : Bool := set.bits &&& c.flag == c.flag

/-- The capabilities in both sets. -/
def inter (s t : Capabilities) : Capabilities := ⟨s.bits &&& t.bits⟩

/-- The set without a capability. -/
def without (set : Capabilities) (c : Capability) : Capabilities :=
  ⟨set.bits &&& (full.bits ^^^ c.flag)⟩

/-- The capabilities in the set, in the order of their flags. -/
def toList (set : Capabilities) : List Capability := Capability.all.filter set.supports

end Capabilities

end TokenTransfer
