import TokenTransfer.Node.Queries
import TokenTransfer.Proofs.Manager.Refusals

/-!
# What a node offers

Which capabilities a node offers follows from its deployment and from how it was narrowed: all but the
transfer of single tokens, and those of relaying only where there is a relayer.  Each operation
belongs to one capability at most.  A node that does not offer it refuses before anything is done, and
one that does refuses on the merits only.

This needs care in one place.  A quoter is paid the price of a delivery, and that price is refused
for want of delivery quotes where there is no relayer; but nobody gets to ask for it there, as
relaying is not offered (`Equipped`).  So a node may offer relaying and no quotes, and will still
pay the quoter.

## Main definitions

* `Fallible.DecidedBy` - a computation is refused for want of one capability, and of no other
* `Node.Equipped` - there is a relayer where a node offers what needs one

## Main statements

* `Node.supports_of_create_iff`, `Node.supports_foldl_narrow_iff` - what a new node offers, and what
  is left of it
* `Node.transfer_decidedBy` - a transfer belongs to relaying if it is to be delivered, and to nothing
  otherwise
-/

namespace TokenTransfer

/-! ### Deciding capabilities -/

namespace Fallible

variable {σ α : Type} {f : Fallible Fault σ α} {s : σ} {offered : Capabilities}
  {capability : Option Capability} {c : Capability}

/-- **A capability decides over a computation.**  Where it is not offered, the computation is refused
for want of it and nothing is done; where it is, nothing is refused for want of a capability.  If
there is no such capability, the latter holds always. -/
structure DecidedBy (f : Fallible Fault σ α) (s : σ) (offered : Capabilities)
    (capability : Option Capability) : Prop where
  refused : ∀ c ∈ capability, offered.supports c = false →
    f.runOn s = (.error (.unsupported c), s)
  granted : (∀ c ∈ capability, offered.supports c = true) → f.FailsWithin s Fault.OnMerits

/-- What is never refused for want of a capability is decided by none. -/
theorem decidedBy_none (h : f.FailsWithin s Fault.OnMerits) : f.DecidedBy s offered none :=
  ⟨nofun, fun _ => h⟩

/-- A capability decides if it is asked for first. -/
theorem decidedBy_some
    (refused : offered.supports c = false → f.runOn s = (.error (.unsupported c), s))
    (granted : offered.supports c = true → f.FailsWithin s Fault.OnMerits) :
    f.DecidedBy s offered (some c) := by
  refine ⟨?_, fun given => granted (given c rfl)⟩
  rintro _ ⟨⟩
  exact refused

namespace DecidedBy

variable (decided : f.DecidedBy s offered capability)

include decided

/-- **What is refused for want of a capability** is what belongs to it, where it is not offered. -/
theorem outcome_eq_iff :
    f.outcome s = .error (.unsupported c) ↔ capability = some c ∧ offered.supports c = false := by
  constructor
  · intro fails
    cases capability with
    | none =>
        -- Nothing is needed, so nothing can be missing.
        exact absurd rfl (decided.granted nofun _ fails c)
    | some needed =>
        cases given : offered.supports needed with
        | true =>
            have all : ∀ c ∈ some needed, offered.supports c = true := by
              rintro _ ⟨⟩
              exact given
            exact absurd rfl (decided.granted all _ fails c)
        | false =>
            have fails' := congrArg Prod.fst (decided.refused needed rfl given)
            cases fails.symm.trans fails'
            exact ⟨rfl, given⟩
  · rintro ⟨rfl, missing⟩
    exact congrArg Prod.fst (decided.refused c rfl missing)

/-- What is refused for want of a capability does nothing. -/
theorem runOn_eq (fails : f.outcome s = .error (.unsupported c)) :
    f.runOn s = (.error (.unsupported c), s) := by
  obtain ⟨rfl, missing⟩ := decided.outcome_eq_iff.mp fails
  exact decided.refused c rfl missing

end DecidedBy

end Fallible

/-! ### Capabilities that are offered -/

namespace Capabilities

variable {s t : Capabilities} {c : Capability}

theorem supports_iff : s.supports c = true ↔ s.bits &&& c.flag = c.flag := beq_iff_eq

/-- A capability that is left by a restriction was there before. -/
theorem supports_of_inter (supported : (s.inter t).supports c = true) : s.supports c = true := by
  have kept : (s.bits &&& t.bits) &&& c.flag = c.flag := supports_iff.mp supported
  refine supports_iff.mpr ?_
  calc s.bits &&& c.flag = s.bits &&& ((s.bits &&& t.bits) &&& c.flag) := by rw [kept]
    _ = (s.bits &&& t.bits) &&& c.flag := by
      rw [← UInt16.and_assoc, ← UInt16.and_assoc, UInt16.and_self]
    _ = c.flag := kept

/-- What is left by a restriction is what is in both sets. -/
theorem supports_inter_iff :
    (s.inter t).supports c = true ↔ s.supports c = true ∧ t.supports c = true := by
  constructor
  · intro supported
    have swapped : (t.inter s).supports c = true := by
      rwa [inter, UInt16.and_comm]
    exact ⟨supports_of_inter supported, supports_of_inter swapped⟩
  · rintro ⟨first, second⟩
    refine supports_iff.mpr ?_
    calc (s.bits &&& t.bits) &&& c.flag = s.bits &&& (t.bits &&& c.flag) := UInt16.and_assoc ..
      _ = s.bits &&& c.flag := by rw [supports_iff.mp second]
      _ = c.flag := supports_iff.mp first

end Capabilities

namespace Node

open Fallible

variable {node : Node} {events : List Event} {α : Type}

/-- **A node that was narrowed** offers what it has offered and what every set has left. -/
theorem supports_foldl_narrow_iff {sets : List Capabilities} {c : Capability} :
    (sets.foldl narrow node).capabilities.supports c = true ↔
      node.capabilities.supports c = true ∧ ∀ set ∈ sets, set.supports c = true := by
  induction sets generalizing node with
  | nil => simp
  | cons set rest ih =>
      rw [List.foldl_cons, ih, List.forall_mem_cons, ← and_assoc]
      exact and_congr_left' Capabilities.supports_inter_iff

/-- **A new node offers** all but the transfer of single tokens, and needs a relayer to offer relaying
and the price of it. -/
theorem supports_of_create_iff {d : Deployment} {start : Timestamp} {logged : Logged Node}
    (creates : create d start = .ok logged) {c : Capability} :
    logged.state.capabilities.supports c = true ↔ c ≠ .nftTransfer ∧
      (c = .automaticRelay ∨ c = .deliveryQuote → d.relayer.isSome = true) := by
  obtain ⟨contracts, -, h⟩ := Outcome.bind_eq_ok_iff.mp creates
  cases h
  show (capabilitiesOf d).supports c = true ↔ _
  unfold capabilitiesOf
  cases d.relayer with
  | none =>
      cases c with
      | _ => decide
  | some relayer =>
      cases c with
      | _ => simp; decide

/-- **A node has what its offers take**: a relayer where it offers relaying or the price of it, and
nothing that takes single tokens. -/
structure Equipped (node : Node) : Prop where
  relayed : node.capabilities.supports .automaticRelay = true → node.relayer.isSome = true
  quoted : node.capabilities.supports .deliveryQuote = true → node.relayer.isSome = true
  fungible : node.capabilities.supports .nftTransfer = false

/-- A new node offers relaying and its price only if the deployment has a relayer. -/
theorem equipped_of_create {d : Deployment} {start : Timestamp} {logged : Logged Node}
    (creates : create d start = .ok logged) : logged.state.Equipped := by
  have offers {c : Capability} := supports_of_create_iff creates (c := c)
  have relayer : logged.state.relayer = d.relayer := by
    obtain ⟨contracts, -, h⟩ := Outcome.bind_eq_ok_iff.mp creates
    cases h
    rfl
  refine ⟨?relayed, ?quoted, ?fungible⟩
  case relayed =>
    intro offered
    rw [relayer]
    exact (offers.mp offered).2 (.inl rfl)
  case quoted =>
    intro offered
    rw [relayer]
    exact (offers.mp offered).2 (.inr rfl)
  case fungible =>
    exact eq_false_of_ne_true fun offered => (offers.mp offered).1 rfl

/-- To offer less takes no more. -/
theorem Equipped.narrow (equipped : node.Equipped) (set : Capabilities) :
    (node.narrow set).Equipped := by
  obtain ⟨relayed, quoted, fungible⟩ := equipped
  refine ⟨fun offered => relayed (Capabilities.supports_of_inter offered),
    fun offered => quoted (Capabilities.supports_of_inter offered), ?_⟩
  refine eq_false_of_ne_true fun offered => ?_
  cases fungible.symm.trans (Capabilities.supports_of_inter offered)

/-- So a chain of restrictions leaves a node with what it offers. -/
theorem Equipped.foldl_narrow (equipped : node.Equipped) (sets : List Capabilities) :
    (sets.foldl Node.narrow node).Equipped := by
  induction sets generalizing node with
  | nil => exact equipped
  | cons set rest ih => exact ih (equipped.narrow set)

/-! ### Checks -/

/-- A check passes when the capability is offered. -/
theorem require_eq_ok_iff {capability : Capability} {u : Unit} :
    node.require capability = .ok u ↔ node.capabilities.supports capability = true := by
  unfold require Fault.require
  split
  · rename_i offered
    simp [offered]
  · rename_i missing
    simp [missing]

/-- A check that fails names its capability. -/
theorem require_of_supports_eq_false {c : Capability}
    (missing : node.capabilities.supports c = false) :
    node.require c = .error (.unsupported c) := by
  unfold require Fault.require
  rw [missing]
  rfl

theorem runOn_ask (question : Node → Except Fault α) :
    (ask question).runOn ⟨node, events⟩ = (question node, ⟨node, events⟩) := rfl

/-- What comes after a check belongs to the capability that is checked. -/
theorem decidedBy_require_bind {c : Capability} {next : Action α}
    (rest : next.FailsWithin ⟨node, events⟩ Fault.OnMerits) :
    (ask (require · c) >>= fun _ => next).DecidedBy ⟨node, events⟩ node.capabilities (some c) := by
  refine decidedBy_some ?_ ?_
  · intro missing
    exact runOn_bind_of_error (congrArg (·, _) (require_of_supports_eq_false missing))
  · intro offered
    have granted : node.require c = .ok () := require_eq_ok_iff.mpr offered
    exact failsWithin_bind_of_ok (congrArg (·, _) granted) rest

/-- So does an answer that is given after a check. -/
theorem decidedBy_ask {c : Capability} {question : Node → Except Fault α} {answer : Except Fault α}
    (asks : question node = node.require c >>= fun _ => answer)
    (rest : node.capabilities.supports c = true → Outcome.FailsWithin answer Fault.OnMerits) :
    (ask question).DecidedBy ⟨node, events⟩ node.capabilities (some c) := by
  refine decidedBy_some ?_ ?_
  · intro missing
    rw [runOn_ask, asks, require_of_supports_eq_false missing]
    rfl
  · intro offered
    have granted : node.require c = .ok () := require_eq_ok_iff.mpr offered
    unfold FailsWithin outcome
    rw [runOn_ask, asks, granted]
    exact rest offered

/-! ### Steps -/

theorem onManager_onMerits {action : Manager.Action α}
    (h : action.FailsWithin node.manager Fault.OnMerits) :
    (onManager action).FailsWithin ⟨node, events⟩ Fault.OnMerits := h

theorem record_onMerits (event : Event) :
    (record event).FailsWithin ⟨node, events⟩ Fault.OnMerits := failsWithin_modify _

theorem chain_onMerits :
    (ask fun node => .ok node.chain).FailsWithin ⟨node, events⟩ Fault.OnMerits := nofun

theorem written_onMerits (bytes : Except WireError Bytes) :
    (written bytes).FailsWithin ⟨node, events⟩ Fault.OnMerits := liftWire_onMerits bytes

theorem transaction_onMerits (description : String) (payload : Bytes) :
    (transaction description payload).FailsWithin ⟨node, events⟩ Fault.OnMerits :=
  FailsWithin.bind nofun fun _ _ => failsWithin_pure _

theorem announce_onMerits (announcement : Announcement) :
    (announce announcement).FailsWithin ⟨node, events⟩ Fault.OnMerits :=
  (written_onMerits _).bind fun _ _ => transaction_onMerits _ _

theorem relaySteps_onMerits (request : Option (Address × UInt64)) (sequence gasDropoff : UInt64) :
    (relaySteps request sequence gasDropoff).FailsWithin ⟨node, events⟩ Fault.OnMerits := by
  unfold relaySteps
  split
  · exact (transaction_onMerits _ _).bind fun _ _ => failsWithin_pure _
  · exact failsWithin_pure _

theorem dispatch_onMerits (item : OutboxItem) (relayed : Bool) (now : Timestamp) :
    (dispatch item relayed now).FailsWithin ⟨node, events⟩ Fault.OnMerits := by
  unfold dispatch
  refine chain_onMerits.bind fun _ _ => .ite ?_ ?_
  · exact (record_onMerits _).bind fun _ _ => failsWithin_pure _
  · refine (onManager_onMerits (Manager.publish_onMerits _ _)).bind fun _ _ => ?_
    exact (announce_onMerits _).bind fun _ _ => (record_onMerits _).bind fun _ _ =>
      failsWithin_pure _

theorem recordRedemption_onMerits (attestation : Attestation) (redemption : Redemption) :
    (recordRedemption attestation redemption).FailsWithin ⟨node, events⟩ Fault.OnMerits := by
  unfold recordRedemption
  refine chain_onMerits.bind fun _ _ => ?_
  split
  · exact record_onMerits _
  · exact record_onMerits _

/-! ### Operations -/

/-- The capability to which a transfer belongs: relaying if it is to be delivered. -/
def transferCapability (options : TransferOptions) : Option Capability :=
  if options.automatic then some .automaticRelay else none

/-- Where there is a relayer, its price is not refused for want of quotes. -/
theorem deliveryPrice_onMerits (known : node.relayer.isSome = true) (gasDropoff : UInt64) :
    Outcome.FailsWithin (node.deliveryPrice gasDropoff) Fault.OnMerits := by
  obtain ⟨relayer, known⟩ := Option.isSome_iff_exists.mp known
  unfold deliveryPrice
  rw [known]
  dsimp only
  split
  · exact Outcome.failsWithin_ok _
  · exact Outcome.failsWithin_error nofun

/-- **Who offers relaying is able to ask for it**: the price for the quoter is refused on its merits,
whether or not prices are offered. -/
theorem relayRequest_onMerits (equipped : node.Equipped) {options : TransferOptions}
    (granted : options.automatic = true → node.capabilities.supports .automaticRelay = true) :
    Outcome.FailsWithin (node.relayRequest options) Fault.OnMerits := by
  unfold relayRequest
  split
  · cases automatic : options.automatic with
    | false => exact Outcome.failsWithin_ok _
    | true =>
        exact (deliveryPrice_onMerits (equipped.relayed (granted automatic)) _).bind fun _ =>
          Outcome.failsWithin_ok _
  · exact Outcome.failsWithin_ok _

/-- **A transfer belongs to relaying** if it is to be delivered, and to nothing otherwise. -/
theorem transfer_decidedBy (equipped : node.Equipped) (sender : Address) (amount : UInt64)
    (recipient : ChainAddress) (options : TransferOptions) (now : Timestamp) :
    (transfer sender amount recipient options now).DecidedBy ⟨node, events⟩ node.capabilities
      (transferCapability options) := by
  -- Once there is a hint, or none is asked for, nothing that follows asks for a capability.
  have rest {hint : Option RelayHint} (hinted : node.hintFor options = .ok hint)
      (granted : options.automatic = true → node.capabilities.supports .automaticRelay = true) :
      (transfer sender amount recipient options now).FailsWithin ⟨node, events⟩ Fault.OnMerits := by
    unfold transfer
    refine failsWithin_bind_of_ok (congrArg (·, _) hinted) ?_
    refine FailsWithin.bind (relayRequest_onMerits equipped granted) fun _ _ => ?_
    refine (onManager_onMerits (Manager.transfer_onMerits _ _)).bind fun _ _ => ?_
    refine (written_onMerits _).bind fun _ _ => (transaction_onMerits _ _).bind fun _ _ => ?_
    exact (relaySteps_onMerits _ _ _).bind fun _ _ => (dispatch_onMerits _ _ _).bind fun _ _ =>
      failsWithin_pure _
  unfold transferCapability
  cases automatic : options.automatic with
  | false =>
      have hinted : node.hintFor options = .ok none := by
        unfold hintFor
        rw [automatic]
        rfl
      refine decidedBy_none (rest hinted ?_)
      intro asked
      cases automatic.symm.trans asked
  | true =>
      have hints : node.hintFor options = node.require .automaticRelay >>= fun _ =>
          .ok node.relayHint := by
        unfold hintFor
        rw [automatic]
        rfl
      refine decidedBy_some ?_ ?_
      · intro missing
        rw [require_of_supports_eq_false missing] at hints
        exact runOn_bind_of_error (congrArg (·, _) hints)
      · intro offered
        have granted : node.require .automaticRelay = .ok () := require_eq_ok_iff.mpr offered
        rw [granted] at hints
        exact rest hints fun _ => offered

theorem redeem_onMerits (attestations : List Attestation) (now : Timestamp) :
    (redeem attestations now).FailsWithin ⟨node, events⟩ Fault.OnMerits := by
  unfold redeem redeemRecorded
  refine .ite (failsWithin_throw nofun) ?_
  refine FailsWithin.bind (.tryCatch (onManager_onMerits (Manager.redeemBatch_onMerits _ _)) ?_) ?_
  · -- The fault is recorded, and thrown as it is.
    intro fault merits _
    exact chain_onMerits.bind fun _ _ => (record_onMerits _).bind fun _ _ => failsWithin_throw merits
  · intro redemptions _
    refine failsWithin_mapM (fun pair _ => ?_) _
    obtain ⟨attestation, redemption⟩ := pair
    exact (recordRedemption_onMerits _ _).bind fun _ _ => (transaction_onMerits _ _).bind fun _ _ =>
      failsWithin_pure _

theorem setPeer_onMerits (peer : ChainAddress) (tokenDecimals : UInt8) (inboundLimit : UInt64)
    (now : Timestamp) :
    (setPeer peer tokenDecimals inboundLimit now).FailsWithin ⟨node, events⟩ Fault.OnMerits := by
  unfold setPeer
  refine (onManager_onMerits (Manager.setPeer_onMerits _ _ _ _)).bind fun _ _ => ?_
  refine chain_onMerits.bind fun _ _ => (record_onMerits _).bind fun _ _ => ?_
  exact (written_onMerits _).bind fun _ _ => (transaction_onMerits _ _).bind fun _ _ =>
    failsWithin_pure _

theorem setTransceiverPeer_onMerits (peer : ChainAddress) :
    (setTransceiverPeer peer).FailsWithin ⟨node, events⟩ Fault.OnMerits := by
  unfold setTransceiverPeer
  refine (onManager_onMerits (Manager.setTransceiverPeer_onMerits _)).bind fun _ _ => ?_
  refine chain_onMerits.bind fun _ _ => (record_onMerits _).bind fun _ _ => ?_
  exact (transaction_onMerits _ _).bind fun _ _ => failsWithin_pure _

/-- Completing what has come in takes the inbound queue. -/
theorem completeInbound_decidedBy (fromChain : ChainId) (message : ManagerMessage Transfer)
    (now : Timestamp) :
    (completeInbound fromChain message now).DecidedBy ⟨node, events⟩ node.capabilities
      (some .inboundQueue) := by
  unfold completeInbound
  refine decidedBy_require_bind ?_
  refine (onManager_onMerits (Manager.payOut_onMerits _ _)).bind fun _ _ => ?_
  refine chain_onMerits.bind fun _ _ => (record_onMerits _).bind fun _ _ => ?_
  exact (transaction_onMerits _ _).bind fun _ _ => failsWithin_pure _

/-- Completing what is to go out takes the outbound queue. -/
theorem completeOutbound_decidedBy (sequence : UInt64) (now : Timestamp) :
    (completeOutbound sequence now).DecidedBy ⟨node, events⟩ node.capabilities
      (some .outboundQueue) := by
  unfold completeOutbound
  refine decidedBy_require_bind ?_
  refine (onManager_onMerits (Manager.publish_onMerits _ _)).bind fun _ _ => ?_
  refine chain_onMerits.bind fun _ _ => (record_onMerits _).bind fun _ _ => ?_
  exact (transaction_onMerits _ _).bind fun _ _ => (announce_onMerits _).bind fun _ _ =>
    failsWithin_pure _

/-! ### Questions -/

/-- A price takes the capability to quote one, and a node that has it has a relayer. -/
theorem quote_decidedBy (equipped : node.Equipped) (destination : ChainId)
    (options : TransferOptions) :
    (ask (·.quote destination options)).DecidedBy ⟨node, events⟩ node.capabilities
      (some .deliveryQuote) := by
  refine decidedBy_ask rfl fun offered => ?_
  exact (Manager.peer_onMerits _).bind fun _ => deliveryPrice_onMerits (equipped.quoted offered) _

theorem keyOf_onMerits (attestation : Attestation) :
    Outcome.FailsWithin (node.keyOf attestation) Fault.OnMerits :=
  (liftWire_onMerits _).bind fun _ => (liftWire_onMerits _).bind fun _ => Outcome.failsWithin_ok _

end Node

end TokenTransfer
