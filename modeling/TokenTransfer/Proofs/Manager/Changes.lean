import TokenTransfer.Proofs.Amount.Dust
import TokenTransfer.Proofs.Manager.Waiting
import TokenTransfer.Proofs.RateLimit.Alike

/-!
# All that a transfer and a redemption change

What `Transferred` and `Accepted` say by the limits that they write is said here by what can be seen
of a manager: balances and totals, the capacity of every gate at the time of the operation, and the
entries of the inbox and the outbox.  In either direction there are two cases, which are told apart
by nothing but the capacity of the gate that is claimed: value that fits goes through at once and
shifts the capacities of two gates, and value that does not fit changes no capacity and waits.

The release time of what waits is the same for all gates of a manager (`Reachable.timed`), and it
stays in the entry until it is paid (`inbox_kept`).  So what callers are told of a redemption that
waits is what its entry says until then, whatever happens in between.

## Main definitions

* `Shifts` - what value that goes through at once does to the capacities of all gates
* `TransferChanges` - all that a transfer changes
* `RedemptionChanges` - all that a redemption changes

## Main statements

* `Passes.shifts` - a passage shifts capacity from one gate to another, and no limit
* `transfer_changes`, `redeem_changes` - every successful transfer and redemption of a reachable
  manager changes just this
-/

namespace TokenTransfer

namespace Manager

open Fallible

variable {m m' : Manager} {now : Timestamp}

/-! ### Capacities -/

/-- **Capacity shifts** from the gate that is claimed to the one that is refilled, up to the limit
of that one.  No limit changes, and no other gate. -/
structure Shifts (now : Timestamp) (claimed refilled : Gate) (amount : UInt64)
    (before after : Gate → Option RateLimit) : Prop where
  claims : ∃ r r', before claimed = some r ∧ after claimed = some r' ∧ r'.limit = r.limit ∧
    (r'.capacity now).toNat + amount.toNat = (r.capacity now).toNat
  refills : ∃ r r', before refilled = some r ∧ after refilled = some r' ∧ r'.limit = r.limit ∧
    (r'.capacity now).toNat = min r.limit.toNat ((r.capacity now).toNat + amount.toNat)
  others : ∀ gate, gate ≠ claimed → gate ≠ refilled → after gate = before gate

/-- **A passage shifts capacity**, if the limits take their time to fill. -/
theorem Passes.shifts {claimed refilled : Gate} {amount : UInt64}
    {before after : Gate → Option RateLimit}
    (passes : Passes now claimed refilled amount before after)
    (positive : ∀ gate r, before gate = some r → 0 < r.duration) :
    Shifts now claimed refilled amount before after := by
  obtain ⟨⟨r, claimedBefore, fits, claimedAfter⟩, ⟨s, refilledBefore, refilledAfter⟩, others⟩ :=
    passes
  refine ⟨⟨r, _, claimedBefore, claimedAfter, r.limit_claim amount now, ?_⟩,
    ⟨s, _, refilledBefore, refilledAfter, rfl, ?_⟩, others⟩
  · exact RateLimit.toNat_capacity_claim (positive claimed r claimedBefore) fits
  · rw [s.toNat_capacity_refill, min_comm]

/-! ### Transfers -/

/-- **All that a transfer changes**, where `worth` is what its item is worth in the local token. -/
structure TransferChanges (m : Manager) (request : TransferRequest) (now : Timestamp)
    (item : OutboxItem) (worth : UInt64) (m' : Manager) : Prop where
  /-- The item is what was asked for. -/
  asked : item.sender = request.sender ∧ item.recipient = request.recipient ∧
    item.hint = request.hint ∧ item.released = false
  untrims : item.amount.untrim m.settings.tokenDecimals = .ok worth.toNat
  positive : 0 < worth
  /-- What was asked for and is not sent is dust, less than a unit of the item. -/
  dust : worth ≤ request.amount ∧ request.amount.toNat - worth.toNat <
    10 ^ (m.settings.tokenDecimals.toNat - item.amount.decimals.toNat)
  takes : Ledger.Takes m.settings.mode request.sender worth m.ledger m'.ledger
  /-- What fits the outbound capacity goes out at once. -/
  leaves : worth ≤ m.outbound.capacity now →
    item.releaseTime = now ∧
      Shifts now .outbound (.inbound request.recipient.chain) worth m.gates m'.gates
  /-- What does not fit waits, if the sender lets it. -/
  waits : m.outbound.capacity now < worth →
    request.mayQueue = true ∧ item.releaseTime.toInt = now.delayed m.settings.duration ∧
      m'.outbound = m.outbound ∧ m'.inbound = m.inbound
  /-- The item enters the outbox under the next number. -/
  enters : item.sequence = m.nextSequence ∧ m'.outbox.find? m.nextSequence = some item ∧
    ∀ sequence, sequence ≠ m.nextSequence → m'.outbox.find? sequence = m.outbox.find? sequence
  /-- Nothing else changes. -/
  rest : m' =
    { m with
      ledger := m'.ledger
      outbound := m'.outbound
      inbound := m'.inbound
      outbox := m'.outbox
      nextSequence := m.nextSequence + 1 }

namespace Enqueued

variable {request : TransferRequest} {dispatch : Dispatch} {item : OutboxItem}
  (enqueued : Enqueued m request dispatch now item m')

include enqueued

/-- The item enters the outbox under the next number, and besides the limits nothing else
changes. -/
theorem enters :
    m'.outbox = m.outbox.insert m.nextSequence item ∧
      m' =
        { m with
          outbound := m'.outbound
          inbound := m'.inbound
          outbox := m'.outbox
          nextSequence := m.nextSequence + 1 } := by
  cases enqueued with
  | admitted limited fits => exact ⟨rfl, rfl⟩
  | delayed exceeds => exact ⟨rfl, rfl⟩

/-- What fits the capacity goes out at once. -/
theorem leaves (timed : m.Timed) (positive : 0 < m.settings.duration)
    (fits : dispatch.amount ≤ m.outbound.capacity now) :
    item.releaseTime = now ∧
      Shifts now .outbound (.inbound request.recipient.chain) dispatch.amount m.gates m'.gates := by
  cases enqueued with
  | admitted limited _ =>
      exact ⟨rfl, (passes_out limited fits rfl rfl).shifts (timed.positive positive)⟩
  | delayed exceeds => exact absurd exceeds (UInt64.not_lt.mpr fits)

/-- What does not fit leaves the limits alone and waits. -/
theorem waits (timed : m.Timed) (exceeds : m.outbound.capacity now < dispatch.amount) :
    item.releaseTime.toInt = now.delayed m.settings.duration ∧
      m'.outbound = m.outbound ∧ m'.inbound = m.inbound := by
  cases enqueued with
  | admitted limited fits => exact absurd exceeds (UInt64.not_lt.mpr fits)
  | delayed _ =>
      have found : m.gates .outbound = some m.outbound := rfl
      exact ⟨timed.toInt_releaseTime found now, rfl, rfl⟩

end Enqueued

/-- A transfer that has gone through has changed all this and nothing else. -/
theorem Transferred.changes {request : TransferRequest} {item : OutboxItem}
    (transferred : Transferred m request now item m') (timed : m.Timed)
    (positive : 0 < m.settings.duration) :
    ∃ worth, TransferChanges m request now item worth m' := by
  obtain @⟨dispatch, ledger, prepared, takes, enqueued⟩ := transferred
  obtain ⟨peer, known, scales⟩ := prepared.peer
  obtain ⟨-, untrims⟩ := Amount.dedust_eq_ok scales
  obtain ⟨some, within, dust⟩ := Amount.dedust_bounds scales prepared.positive
  obtain ⟨stored, rest⟩ := enqueued.enters
  obtain ⟨time, rfl⟩ := enqueued.exists_item_eq
  have paid : m'.ledger = ledger := by rw [rest]
  exact
    ⟨dispatch.amount,
      { asked := ⟨rfl, rfl, rfl, rfl⟩
        untrims
        positive := some
        dust := ⟨within, dust⟩
        takes := by rw [paid]; exact takes
        leaves := enqueued.leaves timed positive
        waits := fun exceeds =>
          ⟨prepared.room.resolve_left (UInt64.not_le.mpr exceeds), enqueued.waits timed exceeds⟩
        enters := ⟨rfl, by rw [stored]; exact Table.find?_insert_self _ _ _,
          fun _ other => by rw [stored]; exact Table.find?_insert_of_ne _ _ other⟩
        rest := by rw [paid]; exact rest }⟩

/-- While numbers last, items stand in the outbox under their own. -/
theorem numbered_after {settings : Settings} {outboundLimit : UInt64} {since : Timestamp}
    {run : List Operation}
    (fits : (((start settings outboundLimit since).effects run).map Effect.sends).sum < 2 ^ 64) :
    ((start settings outboundLimit since).after run).Numbered := by
  obtain ⟨moves, lasting, -, -⟩ :=
    exists_lasting (balanced_start settings outboundLimit since) run
      (numbered_start settings outboundLimit since) (fits_start settings outboundLimit since fits)
  exact lasting.numbered

/-- **All that a transfer changes**, in every reachable manager whose limits take their time to
fill.

No earlier item of the outbox is lost.  A counter of numbers that runs over stops the program, so a
run has sent fewer than `2 ^ 64` transfers. -/
theorem transfer_changes (reachable : m.Reachable) (positive : 0 < m.settings.duration)
    {request : TransferRequest} {item : OutboxItem}
    (runs : (transfer request now).runOn m = (.ok item, m')) :
    (∃ worth, TransferChanges m request now item worth m') ∧
      ∀ settings outboundLimit since run,
        m = (start settings outboundLimit since).after run →
        (((start settings outboundLimit since).effects run).map Effect.sends).sum < 2 ^ 64 →
        ∀ sequence earlier, m.outbox.find? sequence = some earlier →
          m'.outbox.find? sequence = some earlier := by
  have transferred := (transfer_transacts reachable.balanced request now).of_ok runs
  obtain ⟨worth, changes⟩ := transferred.changes reachable.timed positive
  refine ⟨⟨worth, changes⟩, ?_⟩
  intro settings outboundLimit since run reached fits sequence earlier found
  have numbered : m.Numbered := reached ▸ numbered_after fits
  have other : sequence ≠ m.nextSequence := by
    rintro rfl
    cases numbered.next_absent.symm.trans found
  rw [changes.enters.2.2 sequence other, found]

/-- A transfer is sent before those that are looked at. -/
def sampleSending : List Operation :=
  peering sampleTarget ++
    [.mint sampleRequest.sender 9000000000, .transfer sampleRequest 0]

/-- The manager that has sent it. -/
def sampleSender : Manager := (start sampleSource 5000000000 0).after sampleSending

/-- A transfer that exceeds what may still go out. -/
def sampleExcess : TransferRequest := { sampleRequest with amount := 6000000000, mayQueue := true }

/-- One transfer goes out at once, and another has to wait for a day; the first one stays. -/
theorem transfer_changes_of_samples :
    (∃ item worth m', (transfer sampleRequest 7).runOn sampleSender = (.ok item, m') ∧
      item.releaseTime = 7 ∧ TransferChanges sampleSender sampleRequest 7 item worth m' ∧
      m'.outbox.find? 0 = sampleSender.outbox.find? 0) ∧
    ∃ item worth m', (transfer sampleExcess 7).runOn sampleSender = (.ok item, m') ∧
      item.releaseTime = 86407 ∧ TransferChanges sampleSender sampleExcess 7 item worth m' ∧
      m'.outbox.find? 0 = sampleSender.outbox.find? 0 := by
  have reachable := (reachable_start sampleSource 5000000000 0).after sampleSending
  have positive : 0 < sampleSender.settings.duration := by decide +kernel
  have few : (((start sampleSource 5000000000 0).effects sampleSending).map Effect.sends).sum <
      2 ^ 64 := by decide +kernel
  have sent : (sampleSender.outbox.find? 0).isSome := by decide +kernel
  obtain ⟨first, found⟩ := Option.isSome_iff_exists.mp sent
  have sends {request : TransferRequest} {time : Timestamp}
      (succeeds : ((transfer request 7).outcome sampleSender).toOption.map OutboxItem.releaseTime =
        some time) :
      ∃ item worth m', (transfer request 7).runOn sampleSender = (.ok item, m') ∧
        item.releaseTime = time ∧ TransferChanges sampleSender request 7 item worth m' ∧
        m'.outbox.find? 0 = sampleSender.outbox.find? 0 := by
    obtain ⟨item, m', runs, due⟩ := exists_runOn_eq_ok succeeds
    obtain ⟨⟨worth, changes⟩, kept⟩ := transfer_changes reachable positive runs
    have stays := kept sampleSource 5000000000 0 sampleSending rfl few 0 first found
    exact ⟨item, worth, m', runs, due, changes, stays.trans found.symm⟩
  exact ⟨sends (by decide +kernel), sends (by decide +kernel)⟩

/-! ### Redemptions -/

/-- **All that a redemption changes**, where `limit` limits what comes in from the chain of the
transfer. -/
structure RedemptionChanges (m : Manager) (transfer : ValidTransfer) (limit : RateLimit)
    (now : Timestamp) (redemption : Redemption) (m' : Manager) : Prop where
  limited : m.inbound.find? transfer.fromChain = some limit
  absent : m.inbox.find? transfer.key = none
  /-- The capacity alone decides between the two outcomes. -/
  released_iff : (∃ payout, redemption = .released payout) ↔ transfer.amount ≤ limit.capacity now
  /-- What fits the capacity comes in at once. -/
  released : ∀ payout, redemption = .released payout →
    payout =
        { fromChain := transfer.fromChain
          id := transfer.message.id
          recipient := transfer.message.payload.recipient
          amount := transfer.amount } ∧
      Shifts now (.inbound transfer.fromChain) .outbound transfer.amount m.gates m'.gates ∧
      Ledger.Pays m.settings.mode transfer.message.payload.recipient transfer.amount m.ledger
        m'.ledger ∧
      m'.inbox.find? transfer.key = some { transfer.entry now with status := .released }
  /-- What does not fit waits in the inbox, and the view that is told is that of its entry until it
  is paid. -/
  queued : ∀ view, redemption = .queued view →
    m'.outbound = m.outbound ∧ m'.inbound = m.inbound ∧ m'.ledger = m.ledger ∧
      ∃ time, time.toInt = now.delayed m.settings.duration ∧
        m'.inbox.find? transfer.key = some (transfer.entry time) ∧
        ∀ run, ∃ stored, (m'.after run).inbox.find? transfer.key = some stored ∧
          (stored = transfer.entry time ∧ stored.queued = some view ∨
            stored = { transfer.entry time with status := .released } ∧ stored.queued = none)
  /-- No other entry of the inbox changes. -/
  others : ∀ key, key ≠ transfer.key → m'.inbox.find? key = m.inbox.find? key
  /-- Nothing else changes. -/
  rest : m' =
    { m with
      ledger := m'.ledger
      outbound := m'.outbound
      inbound := m'.inbound
      inbox := m'.inbox }

/-- **What waits has the same view** until it is paid, and none after. -/
theorem queued_after (balanced : m.ledger.Balanced) {transfer : ValidTransfer} {time : Timestamp}
    (found : m.inbox.find? transfer.key = some (transfer.entry time)) (run : List Operation) :
    ∃ stored, (m.after run).inbox.find? transfer.key = some stored ∧
      (stored = transfer.entry time ∧ stored.queued = some ((transfer.entry time).waiting time) ∨
        stored = { transfer.entry time with status := .released } ∧ stored.queued = none) := by
  obtain ⟨status, kept, leads⟩ := inbox_kept balanced run found
  refine ⟨_, kept, ?_⟩
  rcases leads with rfl | ⟨-, rfl⟩
  · exact .inl ⟨rfl, rfl⟩
  · exact .inr ⟨rfl, rfl⟩

/-- A transfer that was accepted has changed all this and nothing else. -/
theorem Accepted.changes {transfer : ValidTransfer} {redemption : Redemption}
    (accepted : Accepted m transfer now redemption m') (balanced : m.ledger.Balanced)
    (timed : m.Timed) (positive : 0 < m.settings.duration)
    (absent : m.inbox.find? transfer.key = none) :
    ∃ limit, RedemptionChanges m transfer limit now redemption m' := by
  have others (key : TransferKey) (other : key ≠ transfer.key) := accepted.find?_eq other
  have balanced' := accepted.balanced balanced
  cases accepted with
  | @queued limit limited exceeds =>
      have found : m.gates (.inbound transfer.fromChain) = some limit := limited
      have due := timed.toInt_releaseTime found now
      have entered := Table.find?_insert_self m.inbox transfer.key
        (transfer.entry (limit.releaseTime now))
      refine ⟨limit, limited, absent, ?_, nofun, ?_, others, rfl⟩
      · exact iff_of_false nofun (UInt64.not_le.mpr exceeds)
      · rintro _ ⟨⟩
        exact ⟨rfl, rfl, rfl, _, due, entered, queued_after balanced' entered⟩
  | @released limit ledger limited fits pays =>
      refine ⟨limit, limited, absent, iff_of_true ⟨_, rfl⟩ fits, ?_, nofun, others, rfl⟩
      rintro _ ⟨⟩
      exact ⟨rfl, (passes_in limited fits rfl rfl).shifts (timed.positive positive), pays,
        Table.find?_insert_self _ _ _⟩

/-- **All that a redemption changes**, in every reachable manager whose limits take their time to
fill. -/
theorem redeem_changes (reachable : m.Reachable) (positive : 0 < m.settings.duration)
    {attestation : Attestation} {redemption : Redemption}
    (runs : (redeem attestation now).runOn m = (.ok redemption, m')) :
    ∃ transfer limit, m.validate attestation = .ok transfer ∧
      RedemptionChanges m transfer limit now redemption m' := by
  obtain ⟨transfer, validates, accepted⟩ :=
    (redeem_transacts reachable.balanced attestation now).of_ok runs
  obtain ⟨limit, changes⟩ := accepted.changes reachable.balanced reachable.timed positive
    (validated_of_validate validates).absent
  exact ⟨transfer, limit, validates, changes⟩

/-- One transfer is paid at once, and another has to wait. -/
theorem redeem_changes_of_samples :
    (∃ payout transfer limit m',
      (redeem (sampleDelivery 1 2000000000) 7).runOn sampleReceiver = (.ok (.released payout), m') ∧
        RedemptionChanges sampleReceiver transfer limit 7 (.released payout) m') ∧
    ∃ view transfer limit m',
      (redeem (sampleDelivery 7 6000000000) 7).runOn sampleReceiver = (.ok (.queued view), m') ∧
        RedemptionChanges sampleReceiver transfer limit 7 (.queued view) m' := by
  have positive : 0 < sampleReceiver.settings.duration := by decide +kernel
  have paid : ((redeem (sampleDelivery 1 2000000000) 7).outcome sampleReceiver).toOption.map
      (·.payouts.length) = some 1 := by decide +kernel
  have unpaid : ((redeem (sampleDelivery 7 6000000000) 7).outcome sampleReceiver).toOption.map
      (·.payouts.length) = some 0 := by decide +kernel
  constructor
  · obtain ⟨redemption, m', runs, one⟩ := exists_runOn_eq_ok paid
    obtain ⟨transfer, limit, -, changes⟩ := redeem_changes reachable_sampleReceiver positive runs
    cases redemption with
    | released payout => exact ⟨payout, transfer, limit, m', runs, changes⟩
    | queued view => cases one
  · obtain ⟨redemption, m', runs, none⟩ := exists_runOn_eq_ok unpaid
    obtain ⟨transfer, limit, -, changes⟩ := redeem_changes reachable_sampleReceiver positive runs
    cases redemption with
    | released payout => cases none
    | queued view => exact ⟨view, transfer, limit, m', runs, changes⟩

end Manager

end TokenTransfer
