import TokenTransfer.Wire.Message

/-!
# Transactions and attestations

What an adapter hands out, and what it is given as proof.

## Main definitions

* `ChainAddress` - an address together with its chain
* `UnsignedTransaction` - one step of an operation, for the caller to sign and submit
* `Attestation` - a proof that an emitter on some chain has sent a payload
-/

namespace TokenTransfer

/-- An address together with the chain it lives on. -/
structure ChainAddress where
  chain : ChainId
  address : Address
deriving DecidableEq

/-- One step of an operation.  Steps are in the order of their submission; one that is parallelizable
need not wait for the one before it. -/
structure UnsignedTransaction where
  chain : ChainId
  description : String
  parallelizable : Bool
  payload : Bytes
deriving DecidableEq

/-- A proof that an emitter on some chain has sent `payload`. -/
structure Attestation where
  emitterChain : ChainId
  emitter : Address
  sequence : UInt64
  payload : Bytes
deriving DecidableEq

end TokenTransfer
