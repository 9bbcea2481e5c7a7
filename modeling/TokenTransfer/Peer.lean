import TokenTransfer.Wire.Layout

/-!
# Peers

## Main definitions

* `Peer` - the manager on another chain
* `PeerConfig` - what is set up for a peer's chain
-/

namespace TokenTransfer

/-- The manager on another chain, and the decimals of its token. -/
structure Peer where
  manager : Address
  tokenDecimals : UInt8
deriving DecidableEq

/-- What is set up for a peer's chain: the peer and the limit on what comes from there. -/
structure PeerConfig where
  chain : ChainId
  manager : Address
  tokenDecimals : UInt8
  inboundLimit : UInt64
deriving DecidableEq

/-- The fields in order, at their own sizes. -/
def PeerConfig.toBytes (peer : PeerConfig) : Except WireError Bytes :=
  Writer.toBytes do
    Writer.value peer.chain
    Writer.value peer.manager
    Writer.uint peer.tokenDecimals.toUInt64 1
    Writer.uint peer.inboundLimit 8

end TokenTransfer
