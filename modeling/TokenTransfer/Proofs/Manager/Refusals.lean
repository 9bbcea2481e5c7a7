import TokenTransfer.Manager.Administration
import TokenTransfer.Manager.Receiving
import TokenTransfer.Manager.Sending
import TokenTransfer.Proofs.Fallible

/-!
# Why a manager refuses

A manager knows nothing of what its adapter offers.  Whatever state it is in, and whatever it is told
to do, it refuses on the merits of the case and not for want of a capability.  So when an operation
is refused for want of one, the adapter has refused it.

There is nothing to assume of the state here: what is shown of each function follows from the faults
that it can raise and from those of the functions it calls.

## Main definitions

* `Fault.OnMerits` - a refusal that is not for want of a capability

## Main statements

* `Manager.transfer_onMerits`, `Manager.publish_onMerits`, `Manager.payOut_onMerits`,
  `Manager.redeemBatch_onMerits` - the operations that an adapter leaves to its manager
-/

namespace TokenTransfer

open Fallible

/-! ### Faults -/

namespace Fault

/-- **A refusal on the merits of the case**, which is not for want of a capability. -/
def OnMerits (fault : Fault) : Prop := ∀ capability, fault ≠ .unsupported capability

theorem onMerits_ofWire (e : WireError) : (ofWire e).OnMerits := by
  cases e with
  | unknownTag => exact nofun
  | _ => exact nofun

end Fault

variable {α : Type}

theorem liftWire_onMerits (x : Except WireError α) : Outcome.FailsWithin (Fault.liftWire x) Fault.OnMerits := by
  cases x with
  | error e => exact Outcome.failsWithin_error (Fault.onMerits_ofWire e)
  | ok a => exact Outcome.failsWithin_ok a

theorem liftScaling_onMerits (x : Except ScalingError α) :
    Outcome.FailsWithin (Fault.liftScaling x) Fault.OnMerits := by
  cases x with
  | error e => exact Outcome.failsWithin_error nofun
  | ok a => exact Outcome.failsWithin_ok a

/-! ### Ledgers -/

namespace Ledger

variable {ledger : Ledger} (account : Address) (amount : UInt64)

theorem sum_onMerits (a b : UInt64) : (sum a b).FailsWithin ledger Fault.OnMerits := by
  unfold sum
  split
  · exact failsWithin_pure _
  · exact failsWithin_throw nofun

theorem debit_onMerits : (debit account amount).FailsWithin ledger Fault.OnMerits := by
  unfold debit
  refine failsWithin_get.bind fun ledger _ => ?_
  exact .ite (failsWithin_throw nofun) (failsWithin_set _)

theorem mint_onMerits : (mint account amount).FailsWithin ledger Fault.OnMerits := by
  unfold mint
  refine failsWithin_get.bind fun ledger _ => ?_
  exact (sum_onMerits _ _).bind fun _ _ => (sum_onMerits _ _).bind fun _ _ => failsWithin_set _

theorem burn_onMerits : (burn account amount).FailsWithin ledger Fault.OnMerits :=
  (debit_onMerits account amount).bind fun _ _ => failsWithin_modify _

theorem lock_onMerits : (lock account amount).FailsWithin ledger Fault.OnMerits := by
  unfold lock
  refine failsWithin_get.bind fun ledger _ => ?_
  exact (sum_onMerits _ _).bind fun _ _ => (debit_onMerits account amount).bind fun _ _ =>
    failsWithin_modify _

theorem unlock_onMerits : (unlock account amount).FailsWithin ledger Fault.OnMerits := by
  unfold unlock
  refine failsWithin_get.bind fun ledger _ => ?_
  refine .ite (failsWithin_throw nofun) ?_
  exact (sum_onMerits _ _).bind fun _ _ => failsWithin_set _

end Ledger

namespace Manager

variable {m : Manager}

/-! ### Lookups -/

theorem ensureActive_onMerits : Outcome.FailsWithin m.ensureActive Fault.OnMerits :=
  .ite (Outcome.failsWithin_error nofun) (Outcome.failsWithin_ok ())

theorem peer_onMerits (chain : ChainId) : Outcome.FailsWithin (m.peer chain) Fault.OnMerits := by
  unfold peer
  split
  · exact Outcome.failsWithin_ok _
  · exact Outcome.failsWithin_error nofun

theorem transceiverPeer_onMerits (chain : ChainId) :
    Outcome.FailsWithin (m.transceiverPeer chain) Fault.OnMerits := by
  unfold transceiverPeer
  split
  · exact Outcome.failsWithin_ok _
  · exact Outcome.failsWithin_error nofun

theorem inboundLimit_onMerits (chain : ChainId) :
    Outcome.FailsWithin (m.inboundLimit chain) Fault.OnMerits := by
  unfold inboundLimit
  split
  · exact Outcome.failsWithin_ok _
  · exact Outcome.failsWithin_error nofun

theorem inboxItem_onMerits (key : TransferKey) : Outcome.FailsWithin (m.inboxItem key) Fault.OnMerits := by
  unfold inboxItem
  split
  · exact Outcome.failsWithin_ok _
  · exact Outcome.failsWithin_error nofun

theorem outboxItem_onMerits (sequence : UInt64) :
    Outcome.FailsWithin (m.outboxItem sequence) Fault.OnMerits := by
  unfold outboxItem
  split
  · exact Outcome.failsWithin_ok _
  · exact Outcome.failsWithin_error nofun

/-- A question is refused as its answer is. -/
theorem failsWithin_ask {question : Manager → Except Fault α} {kind : Fault → Prop}
    (h : Outcome.FailsWithin (question m) kind) : (ask question).FailsWithin m kind := h

theorem onLedger_onMerits {change : Ledger.Action}
    (h : change.FailsWithin m.ledger Fault.OnMerits) :
    (onLedger change).FailsWithin m Fault.OnMerits := h.focus

/-! ### Sending -/

theorem prepare_onMerits (request : TransferRequest) (now : Timestamp) :
    Outcome.FailsWithin (m.prepare request now) Fault.OnMerits := by
  unfold prepare
  refine ensureActive_onMerits.bind fun _ => ?_
  refine .ite (Outcome.failsWithin_error nofun) ?_
  refine (peer_onMerits _).bind fun _ => (inboundLimit_onMerits _).bind fun _ => ?_
  refine .ite (Outcome.failsWithin_error nofun) ?_
  refine (liftScaling_onMerits _).bind fun _ => ?_
  exact .ite (Outcome.failsWithin_error nofun) (.ite (Outcome.failsWithin_error nofun) (Outcome.failsWithin_ok _))

theorem takeFrom_onMerits (account : Address) (amount : UInt64) :
    (takeFrom account amount).FailsWithin m Fault.OnMerits := by
  unfold takeFrom
  refine failsWithin_get.bind fun m' _ => ?_
  split
  · exact onLedger_onMerits (Ledger.lock_onMerits account amount)
  · exact onLedger_onMerits (Ledger.burn_onMerits account amount)

theorem claimOutbound_onMerits (destination : ChainId) (amount : UInt64) (now : Timestamp) :
    (claimOutbound destination amount now).FailsWithin m Fault.OnMerits := by
  unfold claimOutbound
  refine failsWithin_get.bind fun m' _ => (failsWithin_set _).bind fun _ _ => ?_
  split
  · exact (failsWithin_ask (inboundLimit_onMerits _)).bind fun _ _ =>
      (failsWithin_modify _).bind fun _ _ => failsWithin_pure _
  · exact failsWithin_pure _

theorem enqueue_onMerits (request : TransferRequest) (dispatch : Dispatch) (now : Timestamp) :
    (enqueue request dispatch now).FailsWithin m Fault.OnMerits := by
  unfold enqueue takeSequence
  refine (claimOutbound_onMerits _ _ _).bind fun _ _ => ?_
  refine (failsWithin_get.bind fun _ _ => (failsWithin_set _).bind fun _ _ =>
    failsWithin_pure _).bind fun _ _ => ?_
  exact (failsWithin_modify _).bind fun _ _ => failsWithin_pure _

theorem transfer_onMerits (request : TransferRequest) (now : Timestamp) :
    (transfer request now).FailsWithin m Fault.OnMerits :=
  (failsWithin_ask (prepare_onMerits request now)).bind fun dispatch _ =>
    (takeFrom_onMerits request.sender dispatch.amount).bind fun _ _ =>
      enqueue_onMerits request dispatch now


theorem release_onMerits (now : Timestamp) (item : OutboxItem) :
    Outcome.FailsWithin ((OutboxItem.release now).runOn item).1 Fault.OnMerits := by
  have h : (OutboxItem.release now).FailsWithin item Fault.OnMerits :=
    failsWithin_get.bind fun _ _ =>
      .ite (failsWithin_throw nofun) (.ite (failsWithin_throw nofun) (failsWithin_set _))
  exact h

theorem publish_onMerits (sequence : UInt64) (now : Timestamp) :
    (publish sequence now).FailsWithin m Fault.OnMerits := by
  unfold publish
  refine (failsWithin_ask ensureActive_onMerits).bind fun _ _ => ?_
  refine (failsWithin_ask (outboxItem_onMerits _)).bind fun item _ => ?_
  refine (failsWithin_ask (peer_onMerits _)).bind fun _ _ => ?_
  refine (failsWithin_modify _).bind fun _ _ => ?_
  exact FailsWithin.bind (release_onMerits now item) fun _ _ => failsWithin_get.bind fun _ _ =>
    failsWithin_pure _

/-! ### Checks of attestations -/

theorem ensurePeer_onMerits (chain : ChainId) (expected found : Address) :
    Outcome.FailsWithin (ensurePeer chain expected found) Fault.OnMerits :=
  .ite (Outcome.failsWithin_ok ()) (Outcome.failsWithin_error nofun)

theorem messageOf_onMerits (attestation : Attestation) :
    Outcome.FailsWithin (m.messageOf attestation) Fault.OnMerits := by
  unfold messageOf
  refine (liftWire_onMerits _).bind fun _ => (liftWire_onMerits _).bind fun _ => ?_
  refine (peer_onMerits _).bind fun _ => (ensurePeer_onMerits _ _ _).bind fun _ => ?_
  refine .ite (Outcome.failsWithin_error nofun) (.ite ?_ (Outcome.failsWithin_ok _))
  exact (liftWire_onMerits _).bind fun _ => Outcome.failsWithin_ok _

theorem localAmount_onMerits (amount : Amount) :
    Outcome.FailsWithin (m.localAmount amount) Fault.OnMerits := by
  unfold localAmount
  refine (liftScaling_onMerits _).bind fun _ => ?_
  split
  · exact Outcome.failsWithin_ok _
  · exact Outcome.failsWithin_error nofun

theorem validate_onMerits (attestation : Attestation) :
    Outcome.FailsWithin (m.validate attestation) Fault.OnMerits := by
  unfold validate
  refine ensureActive_onMerits.bind fun _ => (transceiverPeer_onMerits _).bind fun _ => ?_
  refine (ensurePeer_onMerits _ _ _).bind fun _ => (messageOf_onMerits _).bind fun _ => ?_
  refine .ite (Outcome.failsWithin_error nofun) (.ite (Outcome.failsWithin_error nofun) ?_)
  exact (localAmount_onMerits _).bind fun _ => Outcome.failsWithin_ok _

theorem validateAll_onMerits (before : List ValidTransfer) (attestations : List Attestation) :
    Outcome.FailsWithin (m.validateAll before attestations) Fault.OnMerits := by
  induction attestations generalizing before with
  | nil => exact Outcome.failsWithin_ok _
  | cons attestation rest ih =>
      unfold validateAll
      cases validates : m.validate attestation with
      | error fault => exact Outcome.failsWithin_error (validate_onMerits attestation fault validates)
      | ok transfer => exact .ite (Outcome.failsWithin_error nofun) (ih _)

theorem ensurePayable_onMerits (mode : Mode) (custody supply amount : UInt64) :
    Outcome.FailsWithin (ensurePayable mode custody supply amount) Fault.OnMerits := by
  unfold ensurePayable
  split
  · exact .ite (Outcome.failsWithin_error nofun) (Outcome.failsWithin_ok ())
  · exact .ite (Outcome.failsWithin_error nofun) (Outcome.failsWithin_ok ())

theorem forecastStep_onMerits (mode : Mode) (now : Timestamp) (f : Forecast)
    (transfer : ValidTransfer) :
    Outcome.FailsWithin (f.step mode now transfer) Fault.OnMerits := by
  unfold Forecast.step
  split
  · exact Outcome.failsWithin_error nofun
  · refine .ite (Outcome.failsWithin_ok f) ((ensurePayable_onMerits _ _ _ _).bind fun _ => ?_)
    split
    · exact Outcome.failsWithin_ok _
    · exact Outcome.failsWithin_ok _

theorem rehearse_onMerits (attestations : List Attestation) (now : Timestamp) :
    Outcome.FailsWithin (m.rehearse attestations now) Fault.OnMerits := by
  unfold rehearse
  refine (validateAll_onMerits [] attestations).bind fun transfers => ?_
  refine (Outcome.failsWithin_foldlM ?_ transfers m.forecast).bind fun _ => Outcome.failsWithin_ok _
  exact forecastStep_onMerits m.settings.mode now

/-! ### Receiving -/

theorem payTo_onMerits (account : Address) (amount : UInt64) :
    (payTo account amount).FailsWithin m Fault.OnMerits := by
  unfold payTo
  refine failsWithin_get.bind fun m' _ => ?_
  split
  · exact onLedger_onMerits (Ledger.unlock_onMerits account amount)
  · exact onLedger_onMerits (Ledger.mint_onMerits account amount)

theorem ensureDue_onMerits (key : TransferKey) (status : ReleaseStatus) (now : Timestamp) :
    Outcome.FailsWithin (ensureDue key status now) Fault.OnMerits := by
  unfold ensureDue
  split
  · exact Outcome.failsWithin_error nofun
  · exact .ite (Outcome.failsWithin_error nofun) (Outcome.failsWithin_ok ())
  · exact Outcome.failsWithin_error nofun

theorem tryRelease_onMerits (now : Timestamp) (item : InboxItem) :
    (InboxItem.tryRelease now).FailsWithin item Fault.OnMerits := by
  unfold InboxItem.tryRelease
  refine failsWithin_get.bind fun item _ => ?_
  split
  · exact failsWithin_pure _
  · exact .ite (failsWithin_pure _) ((failsWithin_set _).bind fun _ _ => failsWithin_pure _)
  · exact failsWithin_throw nofun

theorem releaseAfter_onMerits (time : Timestamp) (item : InboxItem) :
    (InboxItem.releaseAfter time).FailsWithin item Fault.OnMerits :=
  failsWithin_get.bind fun _ _ => .ite (failsWithin_throw nofun) (failsWithin_set _)

theorem settle_onMerits (key : TransferKey) (item : InboxItem) (now : Timestamp) :
    (settle key item now).FailsWithin m Fault.OnMerits := by
  unfold settle
  refine (failsWithin_modify _).bind fun _ _ => ?_
  exact FailsWithin.bind (tryRelease_onMerits now item) fun _ _ => failsWithin_pure _

theorem payOut_onMerits (key : TransferKey) (now : Timestamp) :
    (payOut key now).FailsWithin m Fault.OnMerits := by
  unfold payOut
  refine (failsWithin_ask ensureActive_onMerits).bind fun _ _ => ?_
  refine (failsWithin_ask (inboxItem_onMerits key)).bind fun item _ => ?_
  refine FailsWithin.bind (ensureDue_onMerits key item.status now) fun _ _ => ?_
  exact (payTo_onMerits _ _).bind fun _ _ => settle_onMerits key item now

theorem accept_onMerits (transfer : ValidTransfer) (now : Timestamp) :
    (accept transfer now).FailsWithin m Fault.OnMerits := by
  unfold accept
  refine (failsWithin_ask (inboundLimit_onMerits _)).bind fun limit _ => ?_
  -- Whether the amount fits does not matter here.
  generalize limit.claim transfer.amount now = claimed
  obtain ⟨claim, limit⟩ := claimed
  let item := InboxItem.ofMessage transfer.fromChain transfer.message transfer.amount
  refine (failsWithin_modify _).bind fun _ _ => ?_
  cases claim with
  | consumed time =>
      refine (failsWithin_modify _).bind fun _ _ => ?_
      refine FailsWithin.bind (releaseAfter_onMerits time item) fun _ _ => ?_
      refine (failsWithin_modify _).bind fun _ _ => ?_
      exact (payOut_onMerits _ _).bind fun _ _ => failsWithin_pure _
  | delayed release =>
      refine FailsWithin.bind (releaseAfter_onMerits release item) fun _ _ => ?_
      exact (failsWithin_modify _).bind fun _ _ => failsWithin_pure _

theorem redeemBatch_onMerits (attestations : List Attestation) (now : Timestamp) :
    (redeemBatch attestations now).FailsWithin m Fault.OnMerits :=
  (failsWithin_ask (rehearse_onMerits attestations now)).bind fun transfers _ =>
    failsWithin_mapM (fun transfer _ => accept_onMerits transfer now) transfers

/-! ### Setting up -/

theorem setPeer_onMerits (peer : ChainAddress) (tokenDecimals : UInt8) (inboundLimit : UInt64)
    (now : Timestamp) :
    (setPeer peer tokenDecimals inboundLimit now).FailsWithin m Fault.OnMerits := by
  unfold setPeer
  refine failsWithin_get.bind fun _ _ => .ite (failsWithin_throw nofun) ?_
  exact (failsWithin_set _).bind fun _ _ => failsWithin_pure _

theorem setTransceiverPeer_onMerits (peer : ChainAddress) :
    (setTransceiverPeer peer).FailsWithin m Fault.OnMerits := by
  unfold setTransceiverPeer
  refine failsWithin_get.bind fun _ _ => .ite (failsWithin_throw nofun) ?_
  exact (failsWithin_set _).bind fun _ _ => failsWithin_pure _

end Manager

end TokenTransfer
