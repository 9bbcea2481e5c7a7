import TokenTransfer.Adapter
import TokenTransfer.Proofs.Node.Capabilities
import TokenTransfer.Proofs.Node.Run

/-!
# Adapters tell the truth about their capabilities

Callers look at the capabilities of an adapter before they use it.  What is listed is offered: an
operation is refused for want of a capability exactly where it belongs to one that is not listed, it
names that one, and it does nothing.  An operation that belongs to none is never refused so.

This holds of every adapter that is set up by a deployment, however it was narrowed since and
whatever has become of its manager.

## Main definitions

* `Adapter.Call`, `Adapter.Call.capability?` - the operations, and the capabilities they belong to
* `Adapter.Truthful` - what is refused for want of a capability is what is not listed

## Main statements

* `Adapter.Call.decidedBy` - each operation of a node is decided by its capability
* `Adapter.truthful` - adapters are truthful, and narrowing adds nothing
-/

namespace TokenTransfer

namespace Adapter

open Fallible

/-! ### Calls -/

/-- **An operation of an adapter**, with its arguments and the time of the call where it matters. -/
inductive Call where
  | transfer (sender : Address) (amount : UInt64) (recipient : ChainAddress)
      (options : TransferOptions) (now : Timestamp)
  | redeem (attestations : List Attestation) (now : Timestamp)
  | setPeer (peer : ChainAddress) (tokenDecimals : UInt8) (inboundLimit : UInt64) (now : Timestamp)
  | setTransceiverPeer (peer : ChainAddress)
  | transferNft (sender : Address) (ids : List UInt64) (width : UInt8) (recipient : ChainAddress)
      (options : TransferOptions)
  | isRelayingAvailable (destination : ChainId)
  | quote (destination : ChainId) (options : TransferOptions)
  | version
  | custodyAddress
  | tokenDecimals
  | outboundCapacity (now : Timestamp)
  | inboundCapacity (fromChain : ChainId) (now : Timestamp)
  | isApproved (attestation : Attestation)
  | isExecuted (attestation : Attestation)
  | inboundQueued (fromChain : ChainId) (message : ManagerMessage Transfer)
  | completeInbound (fromChain : ChainId) (message : ManagerMessage Transfer) (now : Timestamp)
  | outboundQueued (sequence : UInt64)
  | completeOutbound (sequence : UInt64) (now : Timestamp)

namespace Call

/-- What a call gives if it is not refused. -/
def Answer : Call → Type
  | transfer .. | redeem .. | setPeer .. | setTransceiverPeer _ | transferNft .. |
    completeInbound .. | completeOutbound .. => List UnsignedTransaction
  | isRelayingAvailable _ | isApproved _ | isExecuted _ => Bool
  | quote .. | outboundCapacity _ | inboundCapacity .. => UInt64
  | version => String
  | custodyAddress => Address
  | tokenDecimals => UInt8
  | inboundQueued .. => Option InboundQueued
  | outboundQueued _ => Option OutboundQueued

/-- Performs a call. -/
def perform : (call : Call) → Action call.Answer
  | transfer sender amount recipient options now =>
      Adapter.transfer sender amount recipient options now
  | redeem attestations now => Adapter.redeem attestations now
  | setPeer peer decimals inboundLimit now => Adapter.setPeer peer decimals inboundLimit now
  | setTransceiverPeer peer => Adapter.setTransceiverPeer peer
  | transferNft sender ids width recipient options =>
      Adapter.transferNft sender ids width recipient options
  | isRelayingAvailable destination => Adapter.isRelayingAvailable destination
  | quote destination options => Adapter.quote destination options
  | version => Adapter.version
  | custodyAddress => Adapter.custodyAddress
  | tokenDecimals => Adapter.tokenDecimals
  | outboundCapacity now => Adapter.outboundCapacity now
  | inboundCapacity fromChain now => Adapter.inboundCapacity fromChain now
  | isApproved attestation => Adapter.isApproved attestation
  | isExecuted attestation => Adapter.isExecuted attestation
  | inboundQueued fromChain message => Adapter.inboundQueued fromChain message
  | completeInbound fromChain message now => Adapter.completeInbound fromChain message now
  | outboundQueued sequence => Adapter.outboundQueued sequence
  | completeOutbound sequence now => Adapter.completeOutbound sequence now

/-- **The capability to which a call belongs**, if there is one.  A transfer belongs to relaying if
it is to be delivered. -/
def capability? : Call → Option Capability
  | transfer _ _ _ options _ => Node.transferCapability options
  | redeem .. | setPeer .. | setTransceiverPeer _ | isRelayingAvailable _ => none
  | transferNft .. => some .nftTransfer
  | quote .. => some .deliveryQuote
  | version | custodyAddress | tokenDecimals => some .metadata
  | outboundCapacity _ | inboundCapacity .. => some .capacityQuery
  | isApproved _ | isExecuted _ => some .attestationStatus
  | inboundQueued .. | completeInbound .. => some .inboundQueue
  | outboundQueued _ | completeOutbound .. => some .outboundQueue

end Call

/-! ### Nodes -/

variable {node : Node} {events : List Event} {α : Type}

/-- What decides over an action of a node decides over it for the adapter. -/
theorem decidedBy_act {action : Node.Action α} {left : Capabilities → Except Fault α}
    {offered : Capabilities} {capability : Option Capability}
    (decided : action.DecidedBy ⟨node, events⟩ offered capability) :
    (act action left).DecidedBy ⟨.node node, events⟩ offered capability := by
  refine ⟨?_, fun granted => decided.granted granted⟩
  intro c belongs missing
  unfold act
  rw [runOn_ofFunction]
  dsimp only
  rw [decided.refused c belongs missing]

/-- A question that a node answers after it has checked a capability belongs to that. -/
theorem decidedBy_askNode {c : Capability} (question : Node → Except Fault α)
    {answer : Except Fault α} (asks : question node = node.require c >>= fun _ => answer)
    (rest : Outcome.FailsWithin answer Fault.OnMerits) :
    (askNode c question).DecidedBy ⟨.node node, events⟩ node.capabilities (some c) :=
  decidedBy_act (Node.decidedBy_ask asks fun _ => rest)

/-- **Each call is decided by the capability to which it belongs**, if it is made to a node. -/
theorem Call.decidedBy (equipped : node.Equipped) (call : Call) :
    call.perform.DecidedBy ⟨.node node, events⟩ node.capabilities call.capability? := by
  cases call with
  | transfer => exact decidedBy_act (Node.transfer_decidedBy equipped _ _ _ _ _)
  | redeem => exact decidedBy_act (decidedBy_none (Node.redeem_onMerits _ _))
  | setPeer => exact decidedBy_act (decidedBy_none (Node.setPeer_onMerits _ _ _ _))
  | setTransceiverPeer => exact decidedBy_act (decidedBy_none (Node.setTransceiverPeer_onMerits _))
  | transferNft =>
      -- It is always refused, and never listed.
      refine decidedBy_some (fun _ => rfl) fun offered => ?_
      cases equipped.fungible.symm.trans offered
  | isRelayingAvailable destination =>
      have answers : (Node.ask fun n => .ok (n.isRelayingAvailable destination)).FailsWithin
          ⟨node, events⟩ Fault.OnMerits := Outcome.failsWithin_ok _
      exact decidedBy_act (decidedBy_none answers)
  | quote => exact decidedBy_act (Node.quote_decidedBy equipped _ _)
  | version => exact decidedBy_askNode Node.version rfl (Outcome.failsWithin_ok _)
  | custodyAddress => exact decidedBy_askNode Node.custodyAddress rfl (Outcome.failsWithin_ok _)
  | tokenDecimals => exact decidedBy_askNode Node.tokenDecimals rfl (Outcome.failsWithin_ok _)
  | outboundCapacity now =>
      exact decidedBy_askNode (·.outboundCapacity now) rfl (Outcome.failsWithin_ok _)
  | inboundCapacity fromChain now =>
      exact decidedBy_askNode (·.inboundCapacity fromChain now) rfl
        ((Manager.inboundLimit_onMerits _).bind fun _ => Outcome.failsWithin_ok _)
  | isApproved attestation =>
      exact decidedBy_askNode (·.isApproved attestation) rfl
        ((Node.keyOf_onMerits _).bind fun _ => Outcome.failsWithin_ok _)
  | isExecuted attestation =>
      exact decidedBy_askNode (·.isExecuted attestation) rfl
        ((Node.keyOf_onMerits _).bind fun _ => Outcome.failsWithin_ok _)
  | inboundQueued fromChain message =>
      exact decidedBy_askNode (·.inboundQueued fromChain message) rfl (Outcome.failsWithin_ok _)
  | outboundQueued sequence =>
      exact decidedBy_askNode (·.outboundQueued sequence) rfl (Outcome.failsWithin_ok _)
  | completeInbound => exact decidedBy_act (Node.completeInbound_decidedBy _ _ _)
  | completeOutbound => exact decidedBy_act (Node.completeOutbound_decidedBy _ _)

/-! ### Truth -/

/-- **An adapter tells the truth about its capabilities**, whatever it is called for and whatever was
recorded before. -/
structure Truthful (adapter : Adapter) : Prop where
  /-- What is refused for want of a capability is what belongs to one that is not listed. -/
  refused_iff : ∀ (call : Call) (events : List Event) (c : Capability),
    call.perform.outcome ⟨adapter, events⟩ = .error (.unsupported c) ↔
      call.capability? = some c ∧ adapter.capabilities.supports c = false
  /-- It is refused before anything is done. -/
  unchanged : ∀ (call : Call) (events : List Event) (c : Capability),
    call.perform.outcome ⟨adapter, events⟩ = .error (.unsupported c) →
      call.perform.runOn ⟨adapter, events⟩ = (.error (.unsupported c), ⟨adapter, events⟩)

/-- **A node that has what its offers take is truthful.** -/
theorem truthful_of_equipped (equipped : node.Equipped) : Truthful (.node node) := by
  refine ⟨?_, ?_⟩
  · intro call events c
    exact (call.decidedBy equipped).outcome_eq_iff
  · intro call events c refused
    exact (call.decidedBy equipped).runOn_eq refused

section Truthful

variable {d : Deployment} {start : Timestamp} {logged : Logged Node}

/-- **Adapters are truthful**, however they were narrowed and whatever their managers have come to.
What they list is what the deployment offers, as far as it was left by all that has narrowed it. -/
theorem truthful (creates : Node.create d start = .ok logged) (sets : List Capabilities)
    (manager : Manager) :
    Truthful (.node { sets.foldl Node.narrow logged.state with manager }) ∧
      ∀ c, (sets.foldl Node.narrow logged.state).capabilities.supports c = true ↔
        logged.state.capabilities.supports c = true ∧ ∀ set ∈ sets, set.supports c = true := by
  obtain ⟨relayed, quoted, fungible⟩ := (Node.equipped_of_create creates).foldl_narrow sets
  exact ⟨truthful_of_equipped ⟨relayed, quoted, fungible⟩, fun c => Node.supports_foldl_narrow_iff⟩

end Truthful

/-- A narrowed node that offers relaying but no quotes, and that has a peer. -/
def sampleNarrowed (node : Node) : Node :=
  { [Capabilities.full.without .deliveryQuote].foldl Node.narrow node with
    manager := Node.sampleNode.manager }

/-- It refuses to quote a price, and yet it pays the quoter for a delivery. -/
theorem truthful_of_sample : ∃ logged, Node.create Node.sampleDeployment 0 = .ok logged ∧
    Truthful (.node (sampleNarrowed logged.state)) ∧
    (quote .solana Node.sampleOptions).outcome ⟨.node (sampleNarrowed logged.state), []⟩ =
      .error (.unsupported .deliveryQuote) ∧
    ((transfer (.ofNat 32 1) 2000000000 Node.sampleRecipient Node.sampleOptions 0).outcome
      ⟨.node (sampleNarrowed logged.state), []⟩).isOk = true := by
  have creates : Node.create Node.sampleDeployment 0 = .ok _ := rfl
  obtain ⟨tells, -⟩ := truthful creates [Capabilities.full.without .deliveryQuote]
    Node.sampleNode.manager
  refine ⟨_, creates, tells, ?refuses, ?delivers⟩
  case refuses =>
    refine (tells.refused_iff (.quote .solana Node.sampleOptions) [] .deliveryQuote).mpr ⟨rfl, ?_⟩
    decide +kernel
  case delivers => decide +kernel

end Adapter

end TokenTransfer
