import TokenTransfer.Proofs.Manager.Accounting
import TokenTransfer.Proofs.Link.Basic

/-!
# Agreement of two managers

Every entry of the target's inbox that comes from the source's chain is a transfer of the source: it
is in the source's outbox, released, and its sender has paid as much as the recipient is to get.
Since different entries are different transfers, the target never pays out more than the source has
taken.

## Main definitions

* `Link.Agrees` - an entry and an item are of one transfer

The argument follows an entry back.  It was attested in the name of the source, since that is what
the target has recorded for the source's chain; so it was published; and what the source publishes
says what stands in its outbox.  The bytes are read back as they were written, and the amount was
trimmed to decimals that both tokens have.
-/

namespace TokenTransfer

namespace Manager

/-- **A message is read as it was announced.** -/
theorem eq_of_messageOf {m : Manager} {attestation : Attestation}
    {message : ManagerMessage Transfer} {announcement : Announcement}
    (bytes : announcement.toBytes = .ok attestation.payload)
    (reads : m.messageOf attestation = .ok message) : message = announcement.managerPayload := by
  obtain ⟨tag, raw, envelope, peer, decodes, parses, -, -, -, -, rfl⟩ :=
    messageOf_eq_ok_iff_reads.mp reads
  obtain ⟨inner, outer, encodes, -, readsBack⟩ := Envelope.decode_raw_of_encode bytes
  rw [readsBack] at decodes
  split at decodes
  · cases decodes
    obtain ⟨payload, decoded, same⟩ := Outcome.bind_eq_ok_iff.mp parses
    cases same
    exact Except.ok.inj (decoded.symm.trans (Shape.decode_of_encode _ encodes))
  · cases decodes

end Manager

namespace Link

open Manager

variable {l : Link}

/-! ### The source -/

/-- **What is known of an item of the source's outbox.**  It was sent in an event that has taken its
worth from its sender, and if it is bound for the target its amount is in decimals that both tokens
have. -/
structure Sent (l : Link) (item : OutboxItem) : Prop where
  taken : ∃ e ∈ l.sent, .sent { item with released := false } ∈ e.effects ∧
    (e.after.ledger.balance item.sender).toNat + item.worth l.source.settings.tokenDecimals =
      (e.before.ledger.balance item.sender).toNat
  worth : item.amount.untrim l.source.settings.tokenDecimals =
    .ok (item.worth l.source.settings.tokenDecimals)
  decimals : item.recipient.chain = l.target.settings.chain →
    item.amount.decimals =
      Amount.keptDecimals l.source.settings.tokenDecimals l.target.settings.tokenDecimals

/-- Every item of the source was sent by one of its transfers. -/
theorem Past.sent (past : l.Past) {sequence : UInt64} {item : OutboxItem}
    (found : l.source.outbox.find? sequence = some item) : l.Sent item := by
  obtain ⟨settings, outboundLimit, now, run, same, events⟩ := past.source
  have balanced := balanced_start settings outboundLimit now
  rw [same] at found
  obtain ⟨e, mem, sent⟩ := Manager.exists_sent balanced run rfl found
  obtain ⟨balanced', fixed⟩ := before_of_mem_events balanced mem
  obtain ⟨moves, trace, -⟩ := exists_trace balanced run
  have decimals : e.before.settings.tokenDecimals = l.source.settings.tokenDecimals := by
    rw [same, tokenDecimals_eq_of_fixed_eq trace.fixed_eq, tokenDecimals_eq_of_fixed_eq fixed]
  rw [← events] at mem
  obtain ⟨amount, step⟩ := e.sent_of_mem balanced' sent
  generalize after : e.after = m' at step
  cases step with
  | @send _ _ peer ledger _ _ number unreleased known kept worth takes =>
      rw [decimals] at kept worth
      have untrims : item.amount.untrim l.source.settings.tokenDecimals = .ok amount.toNat := worth
      have amounts := OutboxItem.worth_eq untrims
      refine ⟨⟨e, mem, sent, ?_⟩, by rw [amounts, untrims], ?_⟩
      · rw [after, amounts]
        exact takes.balance
      · intro bound
        have known : e.before.peers.find? l.target.settings.chain = some peer := bound ▸ known
        rw [(past.sourceKnew e mem).peer peer known] at kept
        exact kept

/-- What was published announces a released item of the source's outbox. -/
theorem Past.announced (past : l.Past)
    (fits : ((l.sent.flatMap Event.effects).map Effect.sends).sum < 2 ^ 64) {payload : Bytes}
    (published : l.Published payload) :
    ∃ announcement : Announcement, announcement.toBytes = .ok payload ∧
      ∃ sequence item, l.source.outbox.find? sequence = some item ∧ item.released = true ∧
        Announces announcement.managerPayload sequence item := by
  obtain ⟨settings, outboundLimit, now, run, same, events⟩ := past.source
  obtain ⟨e, mem, announcement, announced, bytes⟩ := published
  rw [events] at fits mem
  refine ⟨announcement, bytes, ?_⟩
  rw [same]
  exact exists_released (balanced_start settings outboundLimit now) run (numbered_start _ _ _)
    (fits_start _ _ _ fits) (List.mem_flatMap.mpr ⟨e, mem, announced⟩)

/-! ### Entries and items -/

/-- **An entry of the target and an item of the source are of one transfer.** -/
structure Agrees (l : Link) (key : TransferKey) (entry : InboxItem) (sequence : UInt64)
    (item : OutboxItem) : Prop where
  found : l.source.outbox.find? sequence = some item
  released : item.released = true
  addressed : item.recipient.chain = l.target.settings.chain
  key : key.id = .ofSequence sequence
  id : entry.message.id = .ofSequence sequence
  sender : entry.message.sender = item.sender
  recipient : entry.recipient = item.recipient.address
  trimmed : entry.message.payload.amount = item.amount
  sent : l.Sent item
  /-- The recipient gets what was taken from the sender, each in decimals of their own token. -/
  worth : entry.amount.toNat * 10 ^ l.source.settings.tokenDecimals.toNat =
    item.worth l.source.settings.tokenDecimals * 10 ^ l.target.settings.tokenDecimals.toNat

/-- **An entry from the source agrees with one of its items**, if its numbers last. -/
theorem Past.agrees (past : l.Past)
    (fits : ((l.sent.flatMap Event.effects).map Effect.sends).sum < 2 ^ 64) {key : TransferKey}
    {entry : InboxItem} (found : l.target.inbox.find? key = some entry)
    (fromSource : key.chain = l.source.settings.chain) :
    ∃ sequence item, l.Agrees key entry sequence item := by
  obtain ⟨settings, outboundLimit, now, run, same, events⟩ := past.target
  have balanced := balanced_start settings outboundLimit now
  rw [same] at found
  obtain ⟨e, mem, attestation, given, transfer, time, status, validates, rfl, rfl⟩ :=
    exists_attested balanced run rfl found
  obtain ⟨balanced', fixed⟩ := before_of_mem_events balanced mem
  obtain ⟨moves, trace, -⟩ := exists_trace balanced run
  have unchanged : e.before.fixed = l.target.fixed := by rw [same, trace.fixed_eq, fixed]
  rw [← events] at mem
  have valid := validated_of_validate validates
  have chain : attestation.emitterChain = l.source.settings.chain := valid.fromChain ▸ fromSource
  -- The target has recorded the source's transceiver, so the attestation is in the source's name.
  have emitter : attestation.emitter = l.source.settings.transceiver :=
    (past.targetKnew e mem).transceiver _ (chain ▸ valid.emitter)
  obtain ⟨announcement, bytes, sequence, item, stored, released, announces⟩ :=
    past.announced fits (past.authentic e mem attestation given chain emitter)
  have message := eq_of_messageOf bytes valid.message
  rw [← message] at announces
  have sent := past.sent stored
  have addressed : item.recipient.chain = l.target.settings.chain := by
    rw [← announces.recipientChain, valid.suits.addressed, chain_eq_of_fixed_eq unchanged]
  have worth := valid.suits.worth
  rw [announces.amount, tokenDecimals_eq_of_fixed_eq unchanged] at worth
  exact ⟨sequence, item,
    { found := stored
      released
      addressed
      key := announces.id
      id := announces.id
      sender := announces.sender
      recipient := announces.recipient
      trimmed := announces.amount
      sent
      worth := Amount.worth_mul_pow_eq (sent.decimals addressed) sent.worth worth }⟩

/-- Different entries are different transfers. -/
theorem Agrees.key_inj {key key' : TransferKey} {entry entry' : InboxItem} {sequence : UInt64}
    {item item' : OutboxItem} (agrees : l.Agrees key entry sequence item)
    (agrees' : l.Agrees key' entry' sequence item') (chains : key.chain = key'.chain) :
    key = key' := by
  obtain ⟨chain, id⟩ := key
  obtain ⟨chain', id'⟩ := key'
  have ids : id = id' := agrees.key.trans agrees'.key.symm
  cases chains
  rw [ids]

/-! ### Totals -/

/-- What the target has paid for transfers from the source's chain, in units of its token. -/
def paid (l : Link) : Nat :=
  ((l.received.flatMap Event.effects).map (Effect.paidWeight fun payout =>
    bif payout.key.chain = l.source.settings.chain then payout.amount.toNat else 0)).sum

/-- What the source has taken for transfers to the target's chain, in units of its token. -/
def taken (l : Link) : Nat :=
  ((l.sent.flatMap Event.effects).map (Effect.sentWeight fun item =>
    bif item.recipient.chain = l.target.settings.chain then
      item.worth l.source.settings.tokenDecimals else 0)).sum

/-- What the target has paid to transfers of the source, read off its inbox. -/
theorem Past.paid_eq (past : l.Past) :
    l.paid = l.target.inbox.sum fun key entry =>
      bif key.chain = l.source.settings.chain then entry.paidAmount else 0 := by
  obtain ⟨settings, outboundLimit, now, run, same, events⟩ := past.target
  rw [paid, events, same]
  exact (paid_sum_after settings outboundLimit now run
    fun key => decide (key.chain = l.source.settings.chain)).symm

/-- What the source has taken for transfers to the target, read off its outbox. -/
theorem Past.taken_eq (past : l.Past)
    (fits : ((l.sent.flatMap Event.effects).map Effect.sends).sum < 2 ^ 64) :
    l.taken = l.source.outbox.sum fun _ item =>
      bif item.recipient.chain = l.target.settings.chain then
        item.worth l.source.settings.tokenDecimals else 0 := by
  obtain ⟨settings, outboundLimit, now, run, same, events⟩ := past.source
  rw [taken, events]
  rw [events] at fits
  generalize l.source.settings.tokenDecimals = decimals
  rw [same]
  exact (outbox_sum_after settings outboundLimit now run fits _ fun _ => rfl).symm

/-- **The target pays no more than the source has taken**: every paid entry is worth an item of its
own. -/
theorem Past.paid_le_taken (past : l.Past)
    (fits : ((l.sent.flatMap Event.effects).map Effect.sends).sum < 2 ^ 64) :
    l.paid * 10 ^ l.source.settings.tokenDecimals.toNat ≤
      l.taken * 10 ^ l.target.settings.tokenDecimals.toNat := by
  have counted : ∀ key entry, l.target.inbox.find? key = some entry →
      (bif key.chain = l.source.settings.chain then entry.paidAmount else 0) *
        10 ^ l.source.settings.tokenDecimals.toNat ≠ 0 →
      key.chain = l.source.settings.chain ∧
        ∃ item, l.Agrees key entry (UInt64.ofNat key.id.toNat) item := by
    intro key entry found nonzero
    by_cases fromSource : key.chain = l.source.settings.chain
    · obtain ⟨sequence, item, agrees⟩ := past.agrees fits found fromSource
      rw [agrees.key, MessageId.ofNat_ofSequence]
      exact ⟨fromSource, item, agrees⟩
    · simp [fromSource] at nonzero
  rw [past.paid_eq, past.taken_eq fits, Table.sum_mul, Table.sum_mul]
  refine Table.sum_le_sum_of_injOn (fun key => UInt64.ofNat key.id.toNat) ?_ ?_
  · intro key entry found nonzero
    obtain ⟨chain, item, agrees⟩ := counted key entry found nonzero
    refine ⟨item, agrees.found, ?_⟩
    simp only [chain, agrees.addressed, decide_true, cond_true]
    calc entry.paidAmount * 10 ^ l.source.settings.tokenDecimals.toNat
        ≤ entry.amount.toNat * 10 ^ l.source.settings.tokenDecimals.toNat :=
          Nat.mul_le_mul_right _ entry.paidAmount_le
      _ = item.worth l.source.settings.tokenDecimals *
            10 ^ l.target.settings.tokenDecimals.toNat := agrees.worth
  · intro key entry key' entry' found nonzero found' nonzero' same
    obtain ⟨chain, item, agrees⟩ := counted key entry found nonzero
    obtain ⟨chain', item', agrees'⟩ := counted key' entry' found' nonzero'
    rw [← same] at agrees'
    exact agrees.key_inj agrees' (chain.trans chain'.symm)

/-! ### The statement -/

/-- **Agreement.**  In every state that two managers reach, every entry of the target's inbox from
the source's chain is one transfer in the source's outbox, different entries are different
transfers, and the target has paid no more than the source has taken.

A counter of numbers that runs over stops the program, so the source has sent fewer than `2 ^ 64`
transfers. -/
theorem agreement (reachable : l.Reachable)
    (fits : ((l.sent.flatMap Event.effects).map Effect.sends).sum < 2 ^ 64) :
    (∀ key entry, l.target.inbox.find? key = some entry →
      key.chain = l.source.settings.chain →
      ∃! sequence, ∃ item, l.Agrees key entry sequence item) ∧
    (∀ key key' entry entry' sequence item item',
      key.chain = l.source.settings.chain → key'.chain = l.source.settings.chain →
      l.Agrees key entry sequence item → l.Agrees key' entry' sequence item' → key = key') ∧
    l.paid * 10 ^ l.source.settings.tokenDecimals.toNat ≤
      l.taken * 10 ^ l.target.settings.tokenDecimals.toNat := by
  have past := reachable.past
  refine ⟨?_, ?_, past.paid_le_taken fits⟩
  · intro key entry found fromSource
    obtain ⟨sequence, item, agrees⟩ := past.agrees fits found fromSource
    refine ⟨sequence, ⟨item, agrees⟩, ?_⟩
    rintro other ⟨item', agrees'⟩
    exact MessageId.ofSequence_inj (agrees'.key.symm.trans agrees.key)
  · intro key key' entry entry' sequence item item' chain chain' agrees agrees'
    exact agrees.key_inj agrees' (chain.trans chain'.symm)

/-! ### A transfer from end to end -/

/-- The transfer in the source's outbox, once it is announced. -/
def sampleItem : OutboxItem where
  sequence := 0
  amount := ⟨1234567, 6⟩
  sender := sampleRequest.sender
  recipient := sampleRequest.recipient
  releaseTime := 0
  hint := none
  released := true

/-- What the source announces. -/
def sampleAnnouncement : Announcement :=
  sampleManager.announcement ⟨sampleTarget.manager, sampleTarget.tokenDecimals⟩ 0 sampleItem

/-- The attestation that carries the announcement. -/
def sampleAttestation : Attestation where
  emitterChain := sampleSource.chain
  emitter := sampleSource.transceiver
  sequence := 0
  payload := sampleAnnouncement.toBytes.toOption.getD []

/-- The target redeems the attestation, and then it tries again. -/
def sampleRedemptions : List Operation :=
  peering sampleSource ++ [.redeem sampleAttestation 0, .redeem sampleAttestation 1]

/-- The source has sent, and the target has paid. -/
def sampleLink : Link where
  source := sampleManager
  target := (start sampleTarget 5000000000 0).after sampleRedemptions
  sent := (start sampleSource 5000000000 0).events sampleRun
  received := (start sampleTarget 5000000000 0).events sampleRedemptions

theorem reachable_sampleLink : sampleLink.Reachable := by
  have sent := (Reachable.start sampleSource sampleTarget 5000000000 5000000000 0 0).sourceRun
    sampleRun (by decide +kernel)
  refine sent.targetRun sampleRedemptions (by decide +kernel) ?_
  intro operation mem attestation given
  have only : ∀ operation ∈ sampleRedemptions, ∀ attestation ∈ operation.attestations,
      attestation = sampleAttestation := by decide +kernel
  rw [only operation mem attestation given]
  intro _ _
  have announced : ((start sampleSource 5000000000 0).events sampleRun).any
      (fun e => .announced sampleAnnouncement ∈ e.effects) = true := by decide +kernel
  obtain ⟨e, mem, announced⟩ := List.any_eq_true.mp announced
  exact ⟨e, mem, sampleAnnouncement, of_decide_eq_true announced, by decide +kernel⟩

/-- The entry in the target's inbox. -/
def sampleEntry : InboxItem where
  fromChain := sampleSource.chain
  message := sampleAnnouncement.managerPayload
  amount := 1234567
  recipient := sampleRequest.recipient.address
  status := .released

/-- What the target has paid is the transfer that the source has sent. -/
theorem agreement_of_sample :
    ∃! sequence, ∃ item,
      sampleLink.Agrees ⟨sampleSource.chain, .ofSequence 0⟩ sampleEntry sequence item :=
  (agreement reachable_sampleLink (by decide +kernel)).1 _ _ (by decide +kernel) (by decide +kernel)

end Link

end TokenTransfer
