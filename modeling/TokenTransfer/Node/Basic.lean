import TokenTransfer.Deployment.Basic
import TokenTransfer.Event
import TokenTransfer.Manager.Administration
import TokenTransfer.Manager.Receiving
import TokenTransfer.Manager.Sending

/-!
# Nodes

A node runs a manager in place, as a deployed one would run on its chain, and describes each step it
has taken as a transaction.  It offers all capabilities but the transfer of single tokens, and those of
relaying only where a relayer is configured.

## Main definitions

* `Node` - a manager with what its adapter knows besides
* `Node.create` - the node of a deployment
* `Node.narrow` - offers fewer capabilities
* `Node.Action` - an operation of a node, which may be refused and is recorded
-/

namespace TokenTransfer

/-- A manager with what its adapter knows besides. -/
structure Node where
  manager : Manager
  capabilities : Capabilities
  relayer : Option RelayerConfig
  quoter : Option Address

namespace Node

/-- The chain of a node. -/
def chain (node : Node) : ChainId := node.manager.settings.chain

/-- The capabilities that a deployment offers. -/
def capabilitiesOf (d : Deployment) : Capabilities :=
  let all := Capabilities.full.without .nftTransfer
  match d.relayer with
  | some _ => all
  -- Without a relayer there is nobody to deliver, and nothing to quote.
  | none => (all.without .automaticRelay).without .deliveryQuote

/-- The settings of a manager whose contracts are known. -/
def settingsOf (d : Deployment) (contracts : TokenContracts) : Settings where
  chain := d.chain
  mode := d.mode
  tokenDecimals := d.tokenDecimals
  manager := contracts.manager
  token := contracts.token
  transceiver := contracts.transceiver.wormhole
  duration := d.duration
  tags := d.tags
  paused := false

/-- The node of a deployment, which must have its contracts. -/
def create (d : Deployment) (now : Timestamp) : Except Fault (Logged Node) := do
  let contracts ← d.tokenContracts
  return {
    state :=
      { manager := .start (settingsOf d contracts) d.outboundLimit now
        capabilities := capabilitiesOf d
        relayer := d.relayer
        quoter := contracts.quoter }
    events := [.created d.chain d.network contracts.manager] }

/-- Offers only those capabilities that are also in `set`. -/
def narrow (node : Node) (set : Capabilities) : Node :=
  { node with capabilities := node.capabilities.inter set }

/-- Refuses what needs a capability that the node does not offer. -/
def require (node : Node) (capability : Capability) : Except Fault Unit :=
  Fault.require node.capabilities capability

/-! ### Operations -/

/-- An operation of a node, which may be refused and is recorded. -/
abbrev Action (α : Type) := Fallible Fault (Logged Node) α

/-- Records an event. -/
def record (event : Event) : Action Unit :=
  modify fun logged => { logged with events := logged.events ++ [event] }

/-- Answers from the node alone. -/
def ask {α : Type} (question : Node → Except Fault α) : Action α :=
  .ofFunction fun logged => (question logged.state, logged)

/-- An operation of the node's manager. -/
def onManager {α : Type} (action : Manager.Action α) : Action α :=
  Fallible.focus (fun logged => logged.state.manager)
    (fun manager logged => { logged with state := { logged.state with manager } }) action

/-- Bytes that are written as part of an operation. -/
def written (bytes : Except WireError Bytes) : Action Bytes :=
  Fallible.ofExcept (Fault.liftWire bytes)

/-- A transaction that has to wait for the one before it. -/
def transaction (description : String) (payload : Bytes) : Action UnsignedTransaction := do
  let node ← ask .ok
  return { chain := node.chain, description, parallelizable := false, payload }

end Node

end TokenTransfer
