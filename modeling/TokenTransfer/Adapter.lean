import TokenTransfer.Node.Queries

/-!
# Adapters

An adapter is what callers see of a chain.  Four operations every adapter has; the others belong to
capabilities, and an adapter that does not have one refuses them and names the capability.

## Main definitions

* `Adapter` - a node, or an adapter without a manager of its own that has the four operations only
* `Adapter.Action` - an operation of an adapter
* `Adapter.transfer`, `Adapter.redeem`, `Adapter.setPeer`, `Adapter.setTransceiverPeer` - the four
-/

namespace TokenTransfer

/-- What callers see of a chain: a node, or an adapter that leaves all optional operations out. -/
inductive Adapter where
  | node (node : Node)
  | bare (chain : ChainId) (capabilities : Capabilities)

namespace Adapter

/-- The chain of an adapter. -/
def chain : Adapter → ChainId
  | node n => n.chain
  | bare chain _ => chain

/-- The capabilities that an adapter lists. -/
def capabilities : Adapter → Capabilities
  | node n => n.capabilities
  | bare _ capabilities => capabilities

/-- An operation of an adapter, which may be refused and is recorded. -/
abbrev Action (α : Type) := Fallible Fault (Logged Adapter) α

/-- Does what a node does, or else what is `left` to other adapters. -/
def act {α : Type} (action : Node.Action α) (left : Capabilities → Except Fault α) : Action α :=
  .ofFunction fun logged =>
    match logged.state with
    | node n =>
      let (outcome, after) := action.runOn ⟨n, logged.events⟩
      (outcome, ⟨node after.state, after.events⟩)
    | bare _ capabilities => (left capabilities, logged)

/-- What an adapter answers to an operation that it leaves out. -/
def leftOut {α : Type} (capability : Capability) (_ : Capabilities) : Except Fault α :=
  .error (.unsupported capability)

/-- A question that nodes answer and that belongs to a capability. -/
def askNode {α : Type} (capability : Capability) (question : Node → Except Fault α) : Action α :=
  act (Node.ask question) (leftOut capability)

/-! ### The four operations -/

/-- Sends a transfer. -/
def transfer (sender : Address) (amount : UInt64) (recipient : ChainAddress)
    (options : TransferOptions) (now : Timestamp) : Action (List UnsignedTransaction) :=
  act (Node.transfer sender amount recipient options now) fun _ => .ok []

/-- Redeems attestations. -/
def redeem (attestations : List Attestation) (now : Timestamp) :
    Action (List UnsignedTransaction) :=
  act (Node.redeem attestations now) fun _ => .ok []

/-- Sets up the peer on another chain. -/
def setPeer (peer : ChainAddress) (tokenDecimals : UInt8) (inboundLimit : UInt64)
    (now : Timestamp) : Action (List UnsignedTransaction) :=
  act (Node.setPeer peer tokenDecimals inboundLimit now) fun _ => .ok []

/-- Sets up the transceiver on another chain. -/
def setTransceiverPeer (peer : ChainAddress) : Action (List UnsignedTransaction) :=
  act (Node.setTransceiverPeer peer) fun _ => .ok []

/-! ### Optional operations -/

/-- Sends single tokens, which are named by numbers of a given width.  No adapter here does. -/
def transferNft (_sender : Address) (_ids : List UInt64) (_width : UInt8)
    (_recipient : ChainAddress) (_options : TransferOptions) :
    Action (List UnsignedTransaction) :=
  Fallible.ofExcept (.error (.unsupported .nftTransfer))

/-- Whether messages to a chain can be relayed. -/
def isRelayingAvailable (destination : ChainId) : Action Bool :=
  act (Node.ask fun n => .ok (n.isRelayingAvailable destination)) fun capabilities =>
    .ok (capabilities.supports .automaticRelay)

/-- The price of a delivery. -/
def quote (destination : ChainId) (options : TransferOptions) : Action UInt64 :=
  askNode .deliveryQuote (·.quote destination options)

/-- The version of the adapter. -/
def version : Action String := askNode .metadata Node.version

/-- The address that holds the tokens in custody. -/
def custodyAddress : Action Address := askNode .metadata Node.custodyAddress

/-- The decimals of the token. -/
def tokenDecimals : Action UInt8 := askNode .metadata Node.tokenDecimals

/-- The capacity for all that goes out. -/
def outboundCapacity (now : Timestamp) : Action UInt64 :=
  askNode .capacityQuery (·.outboundCapacity now)

/-- The capacity for what comes in from a chain. -/
def inboundCapacity (fromChain : ChainId) (now : Timestamp) : Action UInt64 :=
  askNode .capacityQuery (·.inboundCapacity fromChain now)

/-- Whether an attestation was accepted. -/
def isApproved (attestation : Attestation) : Action Bool :=
  askNode .attestationStatus (·.isApproved attestation)

/-- Whether the transfer of an attestation was paid out. -/
def isExecuted (attestation : Attestation) : Action Bool :=
  askNode .attestationStatus (·.isExecuted attestation)

/-- The view of an inbound transfer while it waits. -/
def inboundQueued (fromChain : ChainId) (message : ManagerMessage Transfer) :
    Action (Option InboundQueued) :=
  askNode .inboundQueue (·.inboundQueued fromChain message)

/-- Pays out a transfer that has waited. -/
def completeInbound (fromChain : ChainId) (message : ManagerMessage Transfer) (now : Timestamp) :
    Action (List UnsignedTransaction) :=
  act (Node.completeInbound fromChain message now) (leftOut .inboundQueue)

/-- The view of an outbound transfer while it waits. -/
def outboundQueued (sequence : UInt64) : Action (Option OutboundQueued) :=
  askNode .outboundQueue (·.outboundQueued sequence)

/-- Publishes a transfer that has waited. -/
def completeOutbound (sequence : UInt64) (now : Timestamp) : Action (List UnsignedTransaction) :=
  act (Node.completeOutbound sequence now) (leftOut .outboundQueue)

end Adapter

end TokenTransfer
