import TokenTransfer.Fault
import TokenTransfer.Fallible
import TokenTransfer.Transaction

/-!
# The outbox

A transfer whose tokens have left the sender is kept in the outbox.  It is released once, when its
message is published, and not before its time.

## Main definitions

* `OutboxItem` - a transfer on its way out
* `OutboxItem.release` - marks it as published
* `OutboxItem.queued` - the view of a transfer that is not yet published
-/

namespace TokenTransfer

/-- A transfer whose tokens have left the sender. -/
structure OutboxItem where
  sequence : UInt64
  amount : Amount
  sender : Address
  recipient : ChainAddress
  releaseTime : Timestamp
  hint : Option RelayHint
  released : Bool
deriving DecidableEq

/-- A transfer that is not yet published. -/
structure OutboundQueued where
  sequence : UInt64
  releaseAfter : Timestamp
  sender : Address
  recipient : ChainAddress
  amount : Amount
deriving DecidableEq

namespace OutboxItem

/-- Marks the transfer as published.  A time that has not come is told before an earlier release. -/
def release (now : Timestamp) : Fallible Fault OutboxItem Unit := do
  let item ← get
  if now < item.releaseTime then throw (.tooEarly item.releaseTime now)
  if item.released then throw (.alreadySent item.sequence)
  set { item with released := true }

/-- The view of a transfer until it is published. -/
def queued (item : OutboxItem) : Option OutboundQueued :=
  if item.released then none
  else some
    { sequence := item.sequence
      releaseAfter := item.releaseTime
      sender := item.sender
      recipient := item.recipient
      amount := item.amount }

end OutboxItem

end TokenTransfer
