import TokenTransfer.Node.Basic

/-!
# What a node does

## Main definitions

* `Node.transfer`, `Node.redeem` - send and receive
* `Node.completeInbound`, `Node.completeOutbound` - release what has waited
* `Node.setPeer`, `Node.setTransceiverPeer` - set up peers
* `Node.setPaused`, `Node.setOutboundLimit`, `Node.setInboundLimit`, `Node.mint`,
  `Node.fundCustody` - administration, which needs no transactions
-/

namespace TokenTransfer

namespace Node

/-! ### Sending -/

/-- The fee for a delivery that drops off some gas. -/
def deliveryPrice (node : Node) (gasDropoff : UInt64) : Except Fault UInt64 :=
  match node.relayer with
  | none => .error (.unsupported .deliveryQuote)
  | some relayer =>
    match Word64.add? relayer.baseFee gasDropoff with
    | some price => .ok price
    | none => .error .overflow

/-- The hint for the relayer that the node's deliveries go to. -/
def relayHint (node : Node) : Option RelayHint :=
  node.relayer.map fun relayer => ⟨relayer.specialized⟩

/-- The hint that the options ask for. -/
def hintFor (node : Node) (options : TransferOptions) : Except Fault (Option RelayHint) :=
  if options.automatic then do
    node.require .automaticRelay
    return node.relayHint
  else .ok none

/-- The quoter that is to be paid for a delivery, and what it may charge. -/
def relayRequest (node : Node) (options : TransferOptions) :
    Except Fault (Option (Address × UInt64)) :=
  match node.quoter with
  | some quoter =>
    if options.automatic then do return some (quoter, ← node.deliveryPrice options.gasDropoff)
    else .ok none
  | none => .ok none

/-- Asks the quoter to relay a transfer for at most `maxFee`. -/
def requestRelay (quoter : Address) (sequence gasDropoff maxFee : UInt64) :
    Action UnsignedTransaction :=
  transaction "NttQuoter.RequestRelay"
    (Layout.encode quoter ++ Layout.encode sequence ++ Layout.encode gasDropoff ++
      Layout.encode maxFee)

/-- Hands an announcement to the transceiver. -/
def announce (announcement : Announcement) : Action UnsignedTransaction := do
  let payload ← written announcement.toBytes
  transaction "WormholeTransceiver.Publish" payload

/-- The steps that ask for a relay, if a quoter is to be paid. -/
def relaySteps (request : Option (Address × UInt64)) (sequence gasDropoff : UInt64) :
    Action (List UnsignedTransaction) :=
  match request with
  | some (quoter, maxFee) => do return [← requestRelay quoter sequence gasDropoff maxFee]
  | none => return []

/-- Publishes a transfer whose tokens were taken, unless it has to wait. -/
def dispatch (item : OutboxItem) (relayed : Bool) (now : Timestamp) :
    Action (List UnsignedTransaction) := do
  let chain ← ask fun node => .ok node.chain
  if now < item.releaseTime then
    record (.sendingQueued chain item.sequence item.releaseTime)
    return []
  let announcement ← onManager (Manager.publish item.sequence now)
  let publication ← announce announcement
  record (.sent chain item.sequence item.recipient.chain item.amount.units)
  -- The relay request and the publication wait for the transfer, not for each other.
  return [{ publication with parallelizable := relayed }]

/-- Sends a transfer, and publishes it unless it has to wait.  A relay request and the publication both
wait for the transfer only, so with a request the publication is parallelizable. -/
def transfer (sender : Address) (amount : UInt64) (recipient : ChainAddress)
    (options : TransferOptions) (now : Timestamp) : Action (List UnsignedTransaction) := do
  let hint ← ask (hintFor · options)
  let request ← ask (relayRequest · options)
  let item ← onManager <|
    Manager.transfer { sender, amount, recipient, mayQueue := options.queue, hint } now
  let instruction : Instruction (Option RelayHint) := { index := 0, payload := item.hint }
  let payload ← written ((Shape.instruction .optionalHint).encode instruction)
  let first ← transaction "Ntt.Transfer" payload
  let relay ← relaySteps request item.sequence options.gasDropoff
  let publications ← dispatch item request.isSome now
  return first :: relay ++ publications

/-- Publishes a transfer that has waited. -/
def completeOutbound (sequence : UInt64) (now : Timestamp) :
    Action (List UnsignedTransaction) := do
  ask (require · .outboundQueue)
  let announcement ← onManager (Manager.publish sequence now)
  let chain ← ask fun node => .ok node.chain
  record (.sendingCompleted chain sequence)
  let completion ← transaction "Ntt.CompleteOutboundQueuedTransfer" (Layout.encode sequence)
  return [completion, ← announce announcement]

/-! ### Receiving -/

/-- Redeems a batch and records why it is refused, if it is. -/
def redeemRecorded (attestations : List Attestation) (now : Timestamp) :
    Action (List Redemption) :=
  tryCatch (onManager (Manager.redeemBatch attestations now)) fun fault => do
    let chain ← ask fun node => .ok node.chain
    record (.ofRefusal chain fault)
    throw fault

/-- Records what came of an attestation. -/
def recordRedemption (attestation : Attestation) (redemption : Redemption) : Action Unit := do
  let chain ← ask fun node => .ok node.chain
  match redemption with
  | .released payout => record (.released chain payout.fromChain payout.id payout.amount)
  | .queued view =>
    record (.receivingQueued chain attestation.emitterChain view.message.id view.releaseAfter)

/-- Redeems attestations, each of which makes a transaction of its own. -/
def redeem (attestations : List Attestation) (now : Timestamp) :
    Action (List UnsignedTransaction) := do
  if attestations.isEmpty then throw .noAttestations
  let redemptions ← redeemRecorded attestations now
  (attestations.zip redemptions).mapM fun (attestation, redemption) => do
    recordRedemption attestation redemption
    let step ← transaction "Ntt.Redeem" attestation.payload
    return { step with parallelizable := true }

/-- Pays out a transfer that has waited. -/
def completeInbound (fromChain : ChainId) (message : ManagerMessage Transfer) (now : Timestamp) :
    Action (List UnsignedTransaction) := do
  ask (require · .inboundQueue)
  let payout ← onManager (Manager.payOut ⟨fromChain, message.id⟩ now)
  let chain ← ask fun node => .ok node.chain
  record (.receivingCompleted chain fromChain payout.id payout.amount)
  return [← transaction "Ntt.CompleteInboundQueuedTransfer" message.id.bytes]

/-! ### Setting up -/

/-- Sets up the peer on another chain. -/
def setPeer (peer : ChainAddress) (tokenDecimals : UInt8) (inboundLimit : UInt64)
    (now : Timestamp) : Action (List UnsignedTransaction) := do
  let config ← onManager (Manager.setPeer peer tokenDecimals inboundLimit now)
  let chain ← ask fun node => .ok node.chain
  record (.peerSet chain peer.chain peer.address tokenDecimals inboundLimit)
  return [← transaction "Ntt.SetPeer" (← written config.toBytes)]

/-- Sets up the transceiver on another chain. -/
def setTransceiverPeer (peer : ChainAddress) : Action (List UnsignedTransaction) := do
  let registration ← onManager (Manager.setTransceiverPeer peer)
  let chain ← ask fun node => .ok node.chain
  record (.transceiverSet chain peer.chain peer.address)
  return [← transaction "WormholeTransceiver.SetPeer" (Layout.encode registration)]

/-! ### Administration -/

/-- Pauses or resumes the manager. -/
def setPaused (paused : Bool) : Action Unit := do
  onManager (Manager.setPaused paused)
  let chain ← ask fun node => .ok node.chain
  record (.pauseSet chain paused)

/-- Changes the limit on all that goes out. -/
def setOutboundLimit (limit : UInt64) (now : Timestamp) : Action Unit := do
  onManager (Manager.setOutboundLimit limit now)
  let chain ← ask fun node => .ok node.chain
  record (.outboundLimitSet chain limit)

/-- Changes the limit on what comes in from a chain. -/
def setInboundLimit (fromChain : ChainId) (limit : UInt64) (now : Timestamp) : Action Unit := do
  onManager (Manager.setInboundLimit fromChain limit now)
  let chain ← ask fun node => .ok node.chain
  record (.inboundLimitSet chain fromChain limit)

/-- Creates tokens on an account. -/
def mint (account : Address) (amount : UInt64) : Action Unit :=
  onManager (Manager.onLedger (Ledger.mint account amount))

/-- Creates tokens in custody. -/
def fundCustody (amount : UInt64) : Action Unit :=
  onManager (Manager.onLedger (Ledger.fundCustody amount))

end Node

end TokenTransfer
