import TokenTransfer.Manager.Basic

/-!
# Setting up a manager

Peers, limits and the pause switch.

## Main definitions

* `Manager.setPeer` - sets up the peer on another chain and the limit on what comes from there
* `Manager.setTransceiverPeer` - sets up the transceiver on another chain
* `Manager.setOutboundLimit`, `Manager.setInboundLimit` - change a limit
* `Manager.setPaused` - pauses or resumes
-/

namespace TokenTransfer

namespace Manager

/-- The limit on what comes in from a chain, after its peer was set up: an existing limit is changed,
so that setting up the same peer again keeps its capacity. -/
def limitFor (m : Manager) (chain : ChainId) (limit : UInt64) (now : Timestamp) : RateLimit :=
  match m.inbound.find? chain with
  | some existing => existing.setLimit limit now
  | none => .full limit now m.settings.duration

/-- Sets up the peer on another chain and the limit on what comes from there. -/
def setPeer (peer : ChainAddress) (tokenDecimals : UInt8) (inboundLimit : UInt64)
    (now : Timestamp) : Action PeerConfig := do
  let m ← get
  if peer.chain = m.settings.chain then throw (.ownPeer peer.chain)
  set { m with
    peers := m.peers.insert peer.chain { manager := peer.address, tokenDecimals }
    inbound := m.inbound.insert peer.chain (m.limitFor peer.chain inboundLimit now) }
  return { chain := peer.chain, manager := peer.address, tokenDecimals, inboundLimit }

/-- Sets up the transceiver on another chain. -/
def setTransceiverPeer (peer : ChainAddress) : Action Registration := do
  let m ← get
  if peer.chain = m.settings.chain then throw (.ownPeer peer.chain)
  set { m with transceivers := m.transceivers.insert peer.chain peer.address }
  return { chain := peer.chain, transceiver := peer.address }

/-- Changes the limit on all that goes out. -/
def setOutboundLimit (limit : UInt64) (now : Timestamp) : Action Unit :=
  modify fun m => { m with outbound := m.outbound.setLimit limit now }

/-- Changes the limit on what comes in from a chain. -/
def setInboundLimit (chain : ChainId) (limit : UInt64) (now : Timestamp) : Action Unit := do
  let existing ← ask (inboundLimit · chain)
  modify fun m => { m with inbound := m.inbound.insert chain (existing.setLimit limit now) }

/-- Pauses or resumes the manager. -/
def setPaused (paused : Bool) : Action Unit :=
  modify fun m => { m with settings.paused := paused }

end Manager

end TokenTransfer
