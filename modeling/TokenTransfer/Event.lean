import TokenTransfer.Fault

/-!
# Events

What a node records of its work.

## Main definitions

* `Event` - the events, with what they are about
* `Event.severity`, `Event.message`, `Event.fields` - how an event is written down
* `Logged` - a state together with the events on the way to it
-/

namespace TokenTransfer

/-- How much an event matters. -/
inductive Severity where
  | debug
  | info
  | warn
deriving DecidableEq

/-- The name of a severity. -/
def Severity.text : Severity → String
  | debug => "DEBUG"
  | info => "INFO"
  | warn => "WARN"

/-- What a node records of its work. -/
inductive Event where
  | created (chain : ChainId) (network : Network) (manager : Address)
  | pauseSet (chain : ChainId) (paused : Bool)
  | outboundLimitSet (chain : ChainId) (limit : UInt64)
  | inboundLimitSet (chain fromChain : ChainId) (limit : UInt64)
  | peerSet (chain peerChain : ChainId) (manager : Address) (decimals : UInt8) (limit : UInt64)
  | transceiverSet (chain peerChain : ChainId) (transceiver : Address)
  | sent (chain : ChainId) (sequence : UInt64) (destination : ChainId) (amount : UInt64)
  | sendingQueued (chain : ChainId) (sequence : UInt64) (releaseAfter : Timestamp)
  | sendingCompleted (chain : ChainId) (sequence : UInt64)
  | released (chain fromChain : ChainId) (id : MessageId) (amount : UInt64)
  | receivingQueued (chain fromChain : ChainId) (id : MessageId) (releaseAfter : Timestamp)
  | receivingCompleted (chain fromChain : ChainId) (id : MessageId) (amount : UInt64)
  | replayed (fromChain : ChainId) (id : MessageId)
  | strangePeer (fromChain : ChainId) (expected found : Address)
  | redeemRejected (chain : ChainId) (fault : Fault)
deriving DecidableEq

namespace Event

/-- How much an event matters. -/
def severity : Event → Severity
  | created .. | redeemRejected .. => .debug
  | replayed .. | strangePeer .. => .warn
  | _ => .info

/-- The text of an event. -/
def message : Event → String
  | created .. => "memory adapter created"
  | pauseSet .. => "pause flag set"
  | outboundLimitSet .. => "outbound limit set"
  | inboundLimitSet .. => "inbound limit set"
  | peerSet .. => "peer set"
  | transceiverSet .. => "transceiver peer set"
  | sent .. => "outbound transfer sent"
  | sendingQueued .. => "outbound transfer queued"
  | sendingCompleted .. => "queued outbound transfer completed"
  | released .. => "inbound transfer released"
  | receivingQueued .. => "inbound transfer queued"
  | receivingCompleted .. => "queued inbound transfer completed"
  | replayed .. => "replayed message rejected"
  | strangePeer .. => "attestation from unexpected peer rejected"
  | redeemRejected .. => "redeem rejected"

/-- An id in an event. -/
def idText (id : MessageId) : String := Hex.encode id.bytes

/-- The named values of an event, in order. -/
def fields : Event → List (String × String)
  | created chain network manager =>
    [("chain", chain.text), ("network", network.text), ("manager", manager.text)]
  | pauseSet chain paused => [("chain", chain.text), ("paused", toString paused)]
  | outboundLimitSet chain limit => [("chain", chain.text), ("limit", Fault.wordText limit)]
  | inboundLimitSet chain fromChain limit =>
    [("chain", chain.text), ("from_chain", fromChain.text), ("limit", Fault.wordText limit)]
  | peerSet chain peerChain manager decimals limit =>
    [("chain", chain.text), ("peer_chain", peerChain.text), ("manager", manager.text),
      ("token_decimals", toString decimals.toNat), ("inbound_limit", Fault.wordText limit)]
  | transceiverSet chain peerChain transceiver =>
    [("chain", chain.text), ("peer_chain", peerChain.text), ("transceiver", transceiver.text)]
  | sent chain sequence destination amount =>
    [("chain", chain.text), ("sequence", Fault.wordText sequence),
      ("to_chain", destination.text), ("amount", Fault.wordText amount)]
  | sendingQueued chain sequence releaseAfter =>
    [("chain", chain.text), ("sequence", Fault.wordText sequence),
      ("release_after", Fault.timeText releaseAfter)]
  | sendingCompleted chain sequence =>
    [("chain", chain.text), ("sequence", Fault.wordText sequence)]
  | released chain fromChain id amount | receivingCompleted chain fromChain id amount =>
    [("chain", chain.text), ("from_chain", fromChain.text), ("id", idText id),
      ("amount", Fault.wordText amount)]
  | receivingQueued chain fromChain id releaseAfter =>
    [("chain", chain.text), ("from_chain", fromChain.text), ("id", idText id),
      ("release_after", Fault.timeText releaseAfter)]
  | replayed fromChain id => [("chain", fromChain.text), ("id", idText id)]
  | strangePeer fromChain expected found =>
    [("chain", fromChain.text), ("expected", expected.text), ("found", found.text)]
  | redeemRejected chain fault => [("chain", chain.text), ("error", fault.message)]

/-- What is recorded when attestations are refused: replays and strangers by name. -/
def ofRefusal (chain : ChainId) : Fault → Event
  | .alreadyRedeemed fromChain id => replayed fromChain id
  | .peerMismatch fromChain expected found => strangePeer fromChain expected found
  | fault => redeemRejected chain fault

end Event

/-- A state together with the events on the way to it. -/
structure Logged (σ : Type) where
  state : σ
  events : List Event

end TokenTransfer
