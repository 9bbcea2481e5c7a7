import TokenTransfer.Fault
import TokenTransfer.RateLimit

/-!
# Deployments

What is known of a manager's deployment on one chain, and the deployments on all chains.

## Main definitions

* `Deployment` - the configuration of one chain
* `Deployment.tokenContracts` - its contracts, if there are any
* `Deployments` - one configuration per chain
* `Deployments.lookup` - the configuration of a chain, on a network
-/

namespace TokenTransfer

/-- The contracts of the transceivers. -/
structure TransceiverContracts where
  wormhole : Address
deriving DecidableEq

/-- The contracts that move a token. -/
structure TokenContracts where
  manager : Address
  token : Address
  transceiver : TransceiverContracts
  quoter : Option Address
deriving DecidableEq

/-- The contracts on a chain. -/
structure Contracts where
  ntt : Option TokenContracts
deriving DecidableEq

/-- The price of having a relayer deliver a message. -/
structure RelayerConfig where
  /-- The fee for a delivery, in native units of gas. -/
  baseFee : UInt64
  /-- Whether the specialized relayer delivers. -/
  specialized : Bool
deriving DecidableEq

/-- The configuration of one chain. -/
structure Deployment where
  network : Network
  chain : ChainId
  mode : Mode
  tokenDecimals : UInt8
  outboundLimit : UInt64
  duration : Timestamp
  tags : List Tag
  relayer : Option RelayerConfig
  contracts : Contracts
deriving DecidableEq

namespace Deployment

/-- The tags that are accepted unless a configuration lists others. -/
def defaultTags : List Tag := [Tag.wormhole]

/-- The contracts that move the token. -/
def tokenContracts (d : Deployment) : Except Fault TokenContracts :=
  match d.contracts.ntt with
  | some contracts => .ok contracts
  | none => .error (.missing (.contracts d.chain))

end Deployment

/-- One configuration per chain.  The key of an entry says for which chain it is looked up. -/
structure Deployments where
  table : Table ChainId Deployment

namespace Deployments

/-- No configurations. -/
def empty : Deployments := ⟨.empty⟩

/-- Adds a configuration under its own chain, and gives the one it replaces. -/
def insert (ds : Deployments) (d : Deployment) : Option Deployment × Deployments :=
  (ds.table.find? d.chain, ⟨ds.table.insert d.chain d⟩)

/-- The configuration for a chain, which must have been written for `network`. -/
def lookup (ds : Deployments) (network : Network) (chain : ChainId) : Except Fault Deployment :=
  match ds.table.find? chain with
  | none => .error (.missing (.deployment chain))
  | some d =>
    if d.network = network then .ok d else .error (.networkMismatch d.network network)

end Deployments

/-- What a sender may ask of an adapter beyond the transfer itself. -/
structure TransferOptions where
  /-- Whether the transfer may wait if it exceeds the capacity. -/
  queue : Bool
  /-- Whether a relayer is to deliver the message. -/
  automatic : Bool
  /-- The native gas that the relayer drops off at the recipient. -/
  gasDropoff : UInt64
deriving DecidableEq

/-- To wait for nothing and ask for nothing, which is what is meant by options that are left out. -/
def TransferOptions.none : TransferOptions := { queue := false, automatic := false, gasDropoff := 0 }

end TokenTransfer
