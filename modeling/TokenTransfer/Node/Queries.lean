import TokenTransfer.Node.Operations

/-!
# What a node knows

Questions to a node change nothing.  Each belongs to a capability, and is refused where the node does
not offer it.

## Main definitions

* `Node.isRelayingAvailable`, `Node.quote` - relaying
* `Node.version`, `Node.custodyAddress`, `Node.tokenDecimals` - metadata
* `Node.outboundCapacity`, `Node.inboundCapacity` - capacities
* `Node.isApproved`, `Node.isExecuted` - what has become of an attestation
* `Node.inboundQueued`, `Node.outboundQueued` - what waits
-/

namespace TokenTransfer

namespace Node

/-! ### Relaying -/

/-- Whether messages to a chain can be relayed. -/
def isRelayingAvailable (node : Node) (destination : ChainId) : Bool :=
  node.capabilities.supports .automaticRelay && node.manager.peers.contains destination

/-- The price of a delivery. -/
def quote (node : Node) (destination : ChainId) (options : TransferOptions) :
    Except Fault UInt64 := do
  node.require .deliveryQuote
  let _ ← node.manager.peer destination
  node.deliveryPrice options.gasDropoff

/-! ### Metadata -/

/-- The version of nodes of this kind. -/
def currentVersion : String := "0.1.0"

/-- The version of the node. -/
def version (node : Node) : Except Fault String := do
  node.require .metadata
  return currentVersion

/-- The address that holds the tokens in custody, which is the manager's. -/
def custodyAddress (node : Node) : Except Fault Address := do
  node.require .metadata
  return node.manager.settings.manager

/-- The decimals of the token. -/
def tokenDecimals (node : Node) : Except Fault UInt8 := do
  node.require .metadata
  return node.manager.settings.tokenDecimals

/-! ### Capacities -/

/-- The capacity for all that goes out. -/
def outboundCapacity (node : Node) (now : Timestamp) : Except Fault UInt64 := do
  node.require .capacityQuery
  return node.manager.outbound.capacity now

/-- The capacity for what comes in from a chain. -/
def inboundCapacity (node : Node) (fromChain : ChainId) (now : Timestamp) :
    Except Fault UInt64 := do
  node.require .capacityQuery
  return (← node.manager.inboundLimit fromChain).capacity now

/-! ### Attestations -/

/-- The key that the transfer of an attestation would have in the inbox.  Nothing is checked but that
the payload is an envelope around a manager message. -/
def keyOf (node : Node) (attestation : Attestation) : Except Fault TransferKey := do
  let (_, raw) ← Fault.liftWire <|
    Envelope.decode .raw .raw attestation.payload node.manager.settings.tags
  let envelope ← Fault.liftWire (raw.parseManager (.manager .raw))
  return ⟨attestation.emitterChain, envelope.managerPayload.id⟩

/-- Whether the transfer of an attestation is in the inbox. -/
def isApproved (node : Node) (attestation : Attestation) : Except Fault Bool := do
  node.require .attestationStatus
  return node.manager.inbox.contains (← node.keyOf attestation)

/-- Whether the transfer of an attestation was paid out. -/
def isExecuted (node : Node) (attestation : Attestation) : Except Fault Bool := do
  node.require .attestationStatus
  return (node.manager.inbox.find? (← node.keyOf attestation)).any (·.status = .released)

/-! ### Queues -/

/-- The view of an inbound transfer while it waits. -/
def inboundQueued (node : Node) (fromChain : ChainId) (message : ManagerMessage Transfer) :
    Except Fault (Option InboundQueued) := do
  node.require .inboundQueue
  return (node.manager.inbox.find? ⟨fromChain, message.id⟩).bind InboxItem.queued

/-- The view of an outbound transfer while it waits. -/
def outboundQueued (node : Node) (sequence : UInt64) : Except Fault (Option OutboundQueued) := do
  node.require .outboundQueue
  return (node.manager.outbox.find? sequence).bind OutboxItem.queued

end Node

end TokenTransfer
