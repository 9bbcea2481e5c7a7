import TokenTransfer.Manager.Basic
import TokenTransfer.Wire.Envelope

/-!
# Sending

A transfer takes tokens from its sender and waits in the outbox until its message is published.  Only
what survives trimming is taken, so dust stays with the sender.  What is sent at once gives capacity
back to the limit on what comes in from the destination.

## Main definitions

* `TransferRequest` - what a sender asks for
* `Manager.prepare` - the checks
* `Manager.transfer` - takes the tokens and puts the transfer into the outbox
* `Manager.publish` - marks a transfer as published and gives its message
-/

namespace TokenTransfer

/-- What a sender asks for. -/
structure TransferRequest where
  sender : Address
  /-- The amount in units of the local token. -/
  amount : UInt64
  recipient : ChainAddress
  /-- Whether the transfer may wait if it exceeds the capacity. -/
  mayQueue : Bool
  hint : Option RelayHint
deriving DecidableEq

/-- What a transfer comes to once its dust is left with the sender. -/
structure Dispatch where
  /-- The amount as it is announced. -/
  trimmed : Amount
  /-- The same amount in units of the local token. -/
  amount : UInt64
deriving DecidableEq

/-- The envelope in which a manager announces a transfer. -/
abbrev Announcement := Envelope (Shape.manager .transfer).Val Shape.optionalHint.Val

/-- The bytes of an announcement, which the Wormhole transceiver delivers. -/
def Announcement.toBytes (announcement : Announcement) : Except WireError Bytes :=
  Envelope.encode Tag.wormhole announcement

namespace Manager

/-- Takes tokens from an account: into custody, or out of the supply. -/
def takeFrom (account : Address) (amount : UInt64) : Action Unit := do
  let m ← get
  match m.settings.mode with
  | .locking => onLedger (Ledger.lock account amount)
  | .burning => onLedger (Ledger.burn account amount)

/-- Claims outbound capacity and gives the time at which the transfer may be released.  A transfer
that fits gives its amount back to the limit on what comes in from its destination. -/
def claimOutbound (destination : ChainId) (amount : UInt64) (now : Timestamp) :
    Action Timestamp := do
  let m ← get
  let (claim, outbound) := m.outbound.claim amount now
  set { m with outbound }
  match claim with
  | .consumed time =>
    let inbound ← ask (inboundLimit · destination)
    modify fun m => { m with inbound := m.inbound.insert destination (inbound.refill amount time) }
    return time
  | .delayed release => return release

/-- Checks a request and says what it comes to: which amount is announced, and what its sender pays. -/
def prepare (m : Manager) (request : TransferRequest) (now : Timestamp) :
    Except Fault Dispatch := do
  m.ensureActive
  if request.amount = 0 then throw .zeroAmount
  let peer ← m.peer request.recipient.chain
  -- The limit that gets the capacity back must be there before any token moves.
  let _ ← m.inboundLimit request.recipient.chain
  let available := m.ledger.balance request.sender
  if available < request.amount then throw (.insufficientFunds request.amount available)
  let (trimmed, amount) ← Fault.liftScaling <|
    Amount.dedust request.amount m.settings.tokenDecimals peer.tokenDecimals
  if trimmed.units = 0 then throw .zeroAmount
  let capacity := m.outbound.capacity now
  if capacity < amount ∧ ¬ request.mayQueue then throw (.overLimit amount capacity)
  return { trimmed, amount }

/-- Puts a transfer whose tokens were taken into the outbox. -/
def enqueue (request : TransferRequest) (dispatch : Dispatch) (now : Timestamp) :
    Action OutboxItem := do
  let releaseTime ← claimOutbound request.recipient.chain dispatch.amount now
  let sequence ← takeSequence
  let item : OutboxItem :=
    { sequence
      amount := dispatch.trimmed
      sender := request.sender
      recipient := request.recipient
      releaseTime
      hint := request.hint
      released := false }
  modify fun m => { m with outbox := m.outbox.insert sequence item }
  return item

/-- Takes the tokens of a transfer and puts it into the outbox. -/
def transfer (request : TransferRequest) (now : Timestamp) : Action OutboxItem := do
  let dispatch ← ask (prepare · request now)
  -- The sender pays for what survives trimming, no more.
  takeFrom request.sender dispatch.amount
  enqueue request dispatch now

/-- The message of a transfer in the outbox, for the peer on its destination. -/
def announcement (m : Manager) (peer : Peer) (sequence : UInt64) (item : OutboxItem) :
    Announcement :=
  { source := m.settings.manager
    recipient := peer.manager
    managerPayload :=
      { id := .ofSequence sequence
        sender := item.sender
        payload :=
          { amount := item.amount
            sourceToken := m.settings.token
            recipient := item.recipient.address
            recipientChain := item.recipient.chain } }
    transceiverPayload := item.hint }

/-- The transfer in the outbox with a sequence number. -/
def outboxItem (m : Manager) (sequence : UInt64) : Except Fault OutboxItem :=
  match m.outbox.find? sequence with
  | some item => .ok item
  | none => .error .notQueued

/-- Marks a transfer as published and gives its message. -/
def publish (sequence : UInt64) (now : Timestamp) : Action Announcement := do
  ask ensureActive
  let item ← ask (outboxItem · sequence)
  let peer ← ask (peer · item.recipient.chain)
  let (outcome, item) := (OutboxItem.release now).runOn item
  modify fun m => { m with outbox := m.outbox.insert sequence item }
  Fallible.ofExcept outcome
  let m ← get
  return m.announcement peer sequence item

end Manager

end TokenTransfer
