import TokenTransfer.Inbox
import TokenTransfer.Ledger
import TokenTransfer.Outbox
import TokenTransfer.Peer
import TokenTransfer.RateLimit

/-!
# Managers

A manager takes tokens on its chain and announces them to its peers on others, and pays out what its
peers announce.  This module holds the state of a manager; its operations are in the modules beside
this one.

## Main definitions

* `Settings` - what is fixed when a manager is set up, and whether it is paused
* `Manager` - the state of a manager
* `Manager.start` - a manager without peers
* `Manager.Action` - an operation of a manager, which may be refused
-/

namespace TokenTransfer

/-- What is fixed when a manager is set up, and whether it is paused. -/
structure Settings where
  chain : ChainId
  mode : Mode
  tokenDecimals : UInt8
  manager : Address
  token : Address
  transceiver : Address
  duration : Timestamp
  /-- The tags accepted on inbound envelopes. -/
  tags : List Tag
  paused : Bool
deriving DecidableEq

/-- The state of a manager. -/
structure Manager where
  settings : Settings
  ledger : Ledger
  /-- The manager on each other chain. -/
  peers : Table ChainId Peer
  /-- The transceiver on each other chain. -/
  transceivers : Table ChainId Address
  /-- The limit on all that goes out. -/
  outbound : RateLimit
  /-- The limit on what comes in from each chain. -/
  inbound : Table ChainId RateLimit
  inbox : Table TransferKey InboxItem
  outbox : Table UInt64 OutboxItem
  nextSequence : UInt64

namespace Manager

/-- A manager without peers, whose outbound limit is full. -/
def start (settings : Settings) (outboundLimit : UInt64) (now : Timestamp) : Manager where
  settings := settings
  ledger := .empty
  peers := .empty
  transceivers := .empty
  outbound := .full outboundLimit now settings.duration
  inbound := .empty
  inbox := .empty
  outbox := .empty
  nextSequence := 0

/-! ### Lookups -/

/-- The peer on a chain. -/
def peer (m : Manager) (chain : ChainId) : Except Fault Peer :=
  match m.peers.find? chain with
  | some peer => .ok peer
  | none => .error (.unknownPeer chain)

/-- The peer of the transceiver on a chain. -/
def transceiverPeer (m : Manager) (chain : ChainId) : Except Fault Address :=
  match m.transceivers.find? chain with
  | some address => .ok address
  | none => .error (.unknownPeer chain)

/-- The limit on what comes in from a chain, which is set up together with the peer. -/
def inboundLimit (m : Manager) (chain : ChainId) : Except Fault RateLimit :=
  match m.inbound.find? chain with
  | some limit => .ok limit
  | none => .error (.unknownPeer chain)

/-- What is set up for a chain, if a peer and a limit are. -/
def peerConfig (m : Manager) (chain : ChainId) : Option PeerConfig := do
  let peer ← m.peers.find? chain
  let limit ← m.inbound.find? chain
  return {
    chain
    manager := peer.manager
    tokenDecimals := peer.tokenDecimals
    inboundLimit := limit.limit }

/-- A paused manager refuses to move tokens. -/
def ensureActive (m : Manager) : Except Fault Unit :=
  if m.settings.paused then .error .paused else .ok ()

/-! ### Operations -/

/-- An operation of a manager, which may be refused. -/
abbrev Action (α : Type) := Fallible Fault Manager α

/-- Answers from the state alone. -/
def ask {α : Type} (question : Manager → Except Fault α) : Action α :=
  .ofFunction fun m => (question m, m)

/-- Changes the ledger. -/
def onLedger (change : Ledger.Action) : Action Unit :=
  Fallible.focus Manager.ledger (fun ledger m => { m with ledger }) change

/-- Takes the next sequence number. -/
def takeSequence : Action UInt64 := do
  let m ← get
  set { m with nextSequence := m.nextSequence + 1 }
  return m.nextSequence

end Manager

end TokenTransfer
