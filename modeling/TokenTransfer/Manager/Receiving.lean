import TokenTransfer.Manager.Basic
import TokenTransfer.Wire.Envelope

/-!
# Receiving

An attestation is checked against the peers and the inbox and then redeemed: a transfer within the
inbound capacity of its chain is paid out at once, a larger one waits.  A batch of attestations is
redeemed as a whole or not at all.

## Main definitions

* `ValidTransfer` - an attested transfer that has passed all checks
* `Manager.validate` - the checks
* `Manager.payOut` - pays a transfer in the inbox to its recipient
* `Manager.accept` - puts a checked transfer into the inbox
* `Manager.redeem`, `Manager.redeemBatch` - redeem one attestation, or several
-/

namespace TokenTransfer

/-- An attested transfer that has passed all checks. -/
structure ValidTransfer where
  fromChain : ChainId
  message : ManagerMessage Transfer
  /-- The amount in units of the local token. -/
  amount : UInt64
deriving DecidableEq

/-- The key under which a transfer will be in the inbox. -/
def ValidTransfer.key (t : ValidTransfer) : TransferKey := ⟨t.fromChain, t.message.id⟩

/-- A transfer that was paid to its recipient. -/
structure Payout where
  fromChain : ChainId
  id : MessageId
  recipient : Address
  /-- The amount in units of the local token. -/
  amount : UInt64
deriving DecidableEq

/-- What comes of redeeming an attestation. -/
inductive Redemption where
  | released (payout : Payout)
  | queued (view : InboundQueued)
deriving DecidableEq

namespace Manager

/-! ### Checks -/

/-- Checks that what was found is the address of the peer that was expected. -/
def ensurePeer (chain : ChainId) (expected found : Address) : Except Fault Unit :=
  if expected = found then .ok () else .error (.peerMismatch chain expected found)

/-- Reads the manager's message out of an attestation.  Only the payload of the Wormhole transceiver is
known here; other transceivers may add what they like. -/
def messageOf (m : Manager) (attestation : Attestation) :
    Except Fault (ManagerMessage Transfer) := do
  let (tag, raw) ← Fault.liftWire (Envelope.decode .raw .raw attestation.payload m.settings.tags)
  let envelope ← Fault.liftWire (raw.parseManager (.manager .transfer))
  let peer ← m.peer attestation.emitterChain
  ensurePeer attestation.emitterChain peer.manager envelope.source
  if envelope.recipient ≠ m.settings.manager then
    throw (.wrongRecipientManager m.settings.manager envelope.recipient)
  if tag = Tag.wormhole then
    let _ ← Fault.liftWire (envelope.parseTransceiver .optionalHint)
  return envelope.managerPayload

/-- An amount in units of the local token, if it fits a word. -/
def localAmount (m : Manager) (amount : Amount) : Except Fault UInt64 := do
  let value ← Fault.liftScaling (amount.untrim m.settings.tokenDecimals)
  match Word64.ofNat? value with
  | some word => return word
  | none => throw .overflow

/-- Checks an attestation against the peers and the inbox. -/
def validate (m : Manager) (attestation : Attestation) : Except Fault ValidTransfer := do
  m.ensureActive
  let chain := attestation.emitterChain
  let emitter ← m.transceiverPeer chain
  ensurePeer chain emitter attestation.emitter
  let message ← m.messageOf attestation
  if message.payload.recipientChain ≠ m.settings.chain then
    throw (.wrongChain m.settings.chain message.payload.recipientChain)
  if m.inbox.contains ⟨chain, message.id⟩ then throw (.alreadyRedeemed chain message.id)
  let amount ← m.localAmount message.payload.amount
  return { fromChain := chain, message, amount }

/-- Checks that `amount` can be paid: from custody, or on top of the supply. -/
def ensurePayable (mode : Mode) (custody supply amount : UInt64) : Except Fault Unit :=
  match mode with
  | .locking =>
    if custody < amount then .error (.insufficientFunds amount custody) else .ok ()
  | .burning => if (Word64.add? supply amount).isNone then .error .overflow else .ok ()

/-! ### Paying out -/

/-- Pays tokens to an account: out of custody, or on top of the supply. -/
def payTo (account : Address) (amount : UInt64) : Action Unit := do
  let m ← get
  match m.settings.mode with
  | .locking => onLedger (Ledger.unlock account amount)
  | .burning => onLedger (Ledger.mint account amount)

/-- The transfer in the inbox under a key. -/
def inboxItem (m : Manager) (key : TransferKey) : Except Fault InboxItem :=
  match m.inbox.find? key with
  | some item => .ok item
  | none => .error .notQueued

/-- Checks that a transfer is approved, due and not yet paid. -/
def ensureDue (key : TransferKey) (status : ReleaseStatus) (now : Timestamp) :
    Except Fault Unit :=
  match status with
  | .notApproved => .error .notApproved
  | .releaseAfter time => if now < time then .error (.tooEarly time now) else .ok ()
  | .released => .error (.alreadyRedeemed key.chain key.id)

/-- Marks a transfer whose recipient was paid as released. -/
def settle (key : TransferKey) (item : InboxItem) (now : Timestamp) : Action Payout := do
  let (outcome, released) := (InboxItem.tryRelease now).runOn item
  modify fun m => { m with inbox := m.inbox.insert key released }
  let _ ← Fallible.ofExcept outcome
  return { fromChain := key.chain, id := key.id, recipient := item.recipient, amount := item.amount }

/-- Pays a transfer in the inbox to its recipient. -/
def payOut (key : TransferKey) (now : Timestamp) : Action Payout := do
  ask ensureActive
  let item ← ask (inboxItem · key)
  Fallible.ofExcept (ensureDue key item.status now)
  payTo item.recipient item.amount
  settle key item now

/-! ### Redeeming -/

/-- Puts a checked transfer into the inbox, and pays it out if it fits the capacity.  What is paid at
once gives capacity back to the outbound limit. -/
def accept (transfer : ValidTransfer) (now : Timestamp) : Action Redemption := do
  let limit ← ask (inboundLimit · transfer.fromChain)
  let (claim, limit) := limit.claim transfer.amount now
  modify fun m => { m with inbound := m.inbound.insert transfer.fromChain limit }
  let item := InboxItem.ofMessage transfer.fromChain transfer.message transfer.amount
  match claim with
  | .consumed time =>
    modify fun m => { m with outbound := m.outbound.refill transfer.amount time }
    let (outcome, item) := (InboxItem.releaseAfter time).runOn item
    Fallible.ofExcept outcome
    modify fun m => { m with inbox := m.inbox.insert item.key item }
    return .released (← payOut item.key time)
  | .delayed release =>
    let (outcome, item) := (InboxItem.releaseAfter release).runOn item
    Fallible.ofExcept outcome
    modify fun m => { m with inbox := m.inbox.insert item.key item }
    return .queued (item.waiting release)

/-- Redeems an attestation.  What is due at once must be payable before anything is changed. -/
def redeem (attestation : Attestation) (now : Timestamp) : Action Redemption := do
  let transfer ← ask (validate · attestation)
  let limit ← ask (inboundLimit · transfer.fromChain)
  let m ← get
  -- A transfer that has to wait may be paid later, so only one that is due is looked at.
  if transfer.amount ≤ limit.capacity now then
    Fallible.ofExcept <|
      ensurePayable m.settings.mode m.ledger.custody m.ledger.supply transfer.amount
  accept transfer now

/-! ### Redeeming a batch -/

/-- Checks several attestations against the same state, and that none of them repeats the message of
one in `before`. -/
def validateAll (m : Manager) (before : List ValidTransfer) :
    List Attestation → Except Fault (List ValidTransfer)
  | [] => .ok before.reverse
  | attestation :: rest =>
    match m.validate attestation with
    | .error fault => .error fault
    | .ok transfer =>
      if transfer.key ∈ before.map ValidTransfer.key then
        .error (.alreadyRedeemed transfer.fromChain transfer.message.id)
      else m.validateAll (transfer :: before) rest

/-- The limits and totals that a batch will have left when some of it has been redeemed. -/
structure Forecast where
  inbound : Table ChainId RateLimit
  custody : UInt64
  supply : UInt64

/-- The limits and totals before a batch. -/
def forecast (m : Manager) : Forecast :=
  { inbound := m.inbound, custody := m.ledger.custody, supply := m.ledger.supply }

/-- What one more transfer will leave, if it can be paid or need not be paid at once. -/
def Forecast.step (mode : Mode) (now : Timestamp) (f : Forecast) (transfer : ValidTransfer) :
    Except Fault Forecast := do
  match f.inbound.find? transfer.fromChain with
  | none => throw (.unknownPeer transfer.fromChain)
  | some limit =>
    if limit.capacity now < transfer.amount then return f
    ensurePayable mode f.custody f.supply transfer.amount
    let inbound := f.inbound.insert transfer.fromChain (limit.claim transfer.amount now).2
    match mode with
    | .locking => return { f with inbound, custody := f.custody - transfer.amount }
    | .burning => return { f with inbound, supply := f.supply + transfer.amount }

/-- Checks a batch without changing anything: every attestation is valid, none repeats a message, and
every payout that the batch would make at once can be made. -/
def rehearse (m : Manager) (attestations : List Attestation) (now : Timestamp) :
    Except Fault (List ValidTransfer) := do
  let transfers ← m.validateAll [] attestations
  -- A payout that would fail in the middle of the batch fails here, before the first one is made.
  let _ ← transfers.foldlM (Forecast.step m.settings.mode now) m.forecast
  return transfers

/-- Redeems all attestations or none of them: the whole batch is rehearsed before anything is
changed. -/
def redeemBatch (attestations : List Attestation) (now : Timestamp) :
    Action (List Redemption) := do
  let transfers ← ask (rehearse · attestations now)
  transfers.mapM (accept · now)

end Manager

end TokenTransfer
