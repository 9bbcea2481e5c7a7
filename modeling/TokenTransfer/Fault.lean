import TokenTransfer.Capability
import TokenTransfer.Network
import TokenTransfer.Wire.Message

/-!
# Faults

Why an operation is refused.

## Main definitions

* `Fault` - the causes
* `Fault.message` - their texts
* `Fault.ofWire` - the fault that a wire error stands for
-/

namespace TokenTransfer

/-- What a deployment lacks. -/
inductive Absence where
  | contracts (chain : ChainId)
  | deployment (chain : ChainId)
  | adapter (chain : ChainId)
deriving DecidableEq

/-- What is lacking, in words. -/
def Absence.text : Absence → String
  | contracts chain => "no NTT contracts for chain " ++ chain.text
  | deployment chain => "no configuration for chain " ++ chain.text
  | adapter chain => "no adapter registered for chain " ++ chain.text

/-- Why an operation is refused. -/
inductive Fault where
  | malformed (cause : WireError)
  | unknownTag (found : Tag)
  | unknownPeer (chain : ChainId)
  | peerMismatch (chain : ChainId) (expected found : Address)
  | wrongRecipientManager (expected found : Address)
  | wrongChain (expected found : ChainId)
  | ownPeer (chain : ChainId)
  | alreadyRedeemed (chain : ChainId) (id : MessageId)
  | alreadySent (sequence : UInt64)
  | insufficientFunds (required available : UInt64)
  | unsupported (capability : Capability)
  | missing (what : Absence)
  | networkMismatch (configured requested : Network)
  | tooEarly (releaseAfter now : Timestamp)
  | overLimit (amount capacity : UInt64)
  | notQueued
  | notApproved
  | zeroAmount
  | paused
  | noAttestations
  | overflow
  | scaling (cause : ScalingError)
  | badConfiguration
deriving DecidableEq

namespace Fault

/-- A time in error texts. -/
def timeText (t : Timestamp) : String := toString t.toInt

/-- A number in error texts. -/
def wordText (n : UInt64) : String := toString n.toNat

/-- The text of a refusal. -/
def message : Fault → String
  | malformed cause => "malformed layout: " ++ cause.message
  | unknownTag found => (WireError.unknownTag found).message
  | unknownPeer chain => "no peer configured for chain " ++ chain.text
  | peerMismatch chain expected found =>
    "peer mismatch on chain " ++ chain.text ++ ": expected " ++ expected.text ++ ", found " ++
      found.text
  | wrongRecipientManager expected found =>
    "message is addressed to manager " ++ found.text ++ ", not " ++ expected.text
  | wrongChain expected found =>
    "invalid chain id: expected " ++ expected.text ++ ", found " ++ found.text
  | ownPeer chain => "chain " ++ chain.text ++ " can't be its own peer"
  | alreadyRedeemed chain id =>
    "message 0x" ++ Hex.encode id.bytes ++ " from chain " ++ chain.text ++
      " was already redeemed"
  | alreadySent sequence => "outbound transfer " ++ wordText sequence ++ " was already sent"
  | insufficientFunds required available =>
    "insufficient funds: " ++ wordText required ++ " required, " ++ wordText available ++
      " available"
  | unsupported capability => "capability not supported by this adapter: " ++ capability.text
  | missing what => "configuration missing: " ++ what.text
  | networkMismatch configured requested =>
    "network mismatch: configured for " ++ configured.text ++ ", asked for " ++ requested.text
  | tooEarly releaseAfter now =>
    "release timestamp " ++ timeText releaseAfter ++ " not reached (now " ++ timeText now ++ ")"
  | overLimit amount capacity =>
    "transfer of " ++ wordText amount ++ " exceeds the current capacity " ++ wordText capacity
  | notQueued => "queued transfer not found"
  | notApproved => "transfer has not been approved for release"
  | zeroAmount => "transfer amount is zero after trimming"
  | paused => "paused"
  | noAttestations => "no attestations supplied"
  | overflow => "arithmetic overflow"
  | scaling cause => cause.message
  | badConfiguration => "invalid configuration"

/-- An unknown tag is a fault of its own; whatever else is wrong with the bytes makes them
malformed. -/
def ofWire : WireError → Fault
  | .unknownTag found => unknownTag found
  | error => malformed error

/-- The outcome of reading or writing bytes, with wire errors as faults. -/
def liftWire {α : Type} (outcome : Except WireError α) : Except Fault α :=
  outcome.mapError ofWire

/-- The outcome of rescaling an amount, with scaling errors as faults. -/
def liftScaling {α : Type} (outcome : Except ScalingError α) : Except Fault α :=
  outcome.mapError scaling

/-- Refuses what needs a capability that is not in `set`. -/
def require (set : Capabilities) (capability : Capability) : Except Fault Unit :=
  if set.supports capability then .ok () else .error (unsupported capability)

end Fault

end TokenTransfer
