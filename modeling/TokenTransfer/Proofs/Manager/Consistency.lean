import TokenTransfer.Proofs.Manager.Waiting

/-!
# The parts of a manager agree

What an operation finds in one part of a manager it takes for granted in another: a transfer whose
destination has a peer gives capacity back to the limit on what comes in from there, after the tokens
were taken; the limit of an attested transfer is looked up after the peer was; a publication asks for
the peer of an item that has waited.  None of this is checked where it is used.  It holds because the
parts of a manager are only ever changed together (`Consistent`).

The chains that are set up are followed apart from the rest: `SetsUp` says what an operation does to
them.  They never become fewer, so what has entered the inbox from a chain, or waits in the outbox
for one, stays on a chain with a peer.

## Main definitions

* `OutboxItem.Sound` - what holds of every item of an outbox
* `SetsUp` - what an operation does to the chains that are set up
* `Consistent` - the parts of a manager agree

## Main statements

* `Operation.Does.consistent` - every operation keeps the parts in agreement
* `consistent_after` - they agree after every run of a new manager
-/

namespace TokenTransfer

/-- **What holds of every item of an outbox**: it stands under its number, and its amount is one that
is worth announcing and has no more decimals than the token. -/
structure OutboxItem.Sound (item : OutboxItem) (sequence : UInt64) (settings : Settings) : Prop where
  numbered : item.sequence = sequence
  positive : item.amount.units ≠ 0
  decimals : item.amount.decimals ≤ min Amount.maxDecimals settings.tokenDecimals

namespace Manager

variable {m m' m'' : Manager} {now : Timestamp}

/-! ### Chains that are set up -/

/-- **The same chains are set up**: peers and transceivers are the same, and so are the chains that
have a limit. -/
structure SameChains (m m' : Manager) : Prop where
  peers : m'.peers = m.peers
  transceivers : m'.transceivers = m.transceivers
  limited : ∀ chain, m'.inbound.contains chain ↔ m.inbound.contains chain

/-- What leaves the three tables alone sets up nothing. -/
theorem SameChains.of_eq (peers : m'.peers = m.peers) (transceivers : m'.transceivers = m.transceivers)
    (inbound : m'.inbound = m.inbound) : SameChains m m' :=
  ⟨peers, transceivers, fun _ => by rw [inbound]⟩

theorem SameChains.trans (first : SameChains m m') (second : SameChains m' m'') :
    SameChains m m'' where
  peers := second.peers.trans first.peers
  transceivers := second.transceivers.trans first.transceivers
  limited chain := (second.limited chain).trans (first.limited chain)

/-- Another limit for a chain that has one. -/
theorem contains_insert_inbound {chain : ChainId} {limit : RateLimit}
    (limited : m.inbound.find? chain = some limit) (limit' : RateLimit) (other : ChainId) :
    (m.inbound.insert chain limit').contains other ↔ m.inbound.contains other := by
  rw [Table.contains_insert_iff]
  refine ⟨?_, .inr⟩
  rintro (rfl | limited')
  · exact Table.contains_iff.mpr ⟨limit, limited⟩
  · exact limited'

/-- A transfer refills the limit of its destination, which has one already. -/
theorem Transferred.sameChains {request : TransferRequest} {item : OutboxItem}
    (transferred : Transferred m request now item m') : SameChains m m' := by
  obtain ⟨prepared, takes, enqueued⟩ := transferred
  cases enqueued with
  | admitted limited fits => exact ⟨rfl, rfl, contains_insert_inbound limited _⟩
  | delayed waits => exact .of_eq rfl rfl rfl

/-- A redemption claims of the limit of its chain, which has one already. -/
theorem Accepted.sameChains {transfer : ValidTransfer} {redemption : Redemption}
    (accepted : Accepted m transfer now redemption m') : SameChains m m' := by
  cases accepted with
  | queued limited waits => exact .of_eq rfl rfl rfl
  | released limited fits pays => exact ⟨rfl, rfl, contains_insert_inbound limited _⟩

theorem AcceptedAll.sameChains {transfers : List ValidTransfer} {redemptions : List Redemption}
    (accepted : AcceptedAll now m transfers redemptions m') : SameChains m m' := by
  induction accepted with
  | nil => exact .of_eq rfl rfl rfl
  | cons absent suits accepted _ ih => exact accepted.sameChains.trans ih

/-- **What an operation does to the chains that are set up.**  A peer comes with a limit, and neither
a peer nor a transceiver is on the manager's own chain. -/
inductive SetsUp (m m' : Manager) : Prop
  | peer {chain : ChainId} {peer : Peer} {limit : RateLimit} (foreign : chain ≠ m.settings.chain)
      (peers : m'.peers = m.peers.insert chain peer)
      (transceivers : m'.transceivers = m.transceivers)
      (inbound : m'.inbound = m.inbound.insert chain limit)
  | transceiver {chain : ChainId} {address : Address} (foreign : chain ≠ m.settings.chain)
      (peers : m'.peers = m.peers)
      (transceivers : m'.transceivers = m.transceivers.insert chain address)
      (inbound : m'.inbound = m.inbound)
  | keeps (same : SameChains m m')

/-- Chains are set up by the two operations that are for it, and by no other. -/
theorem Operation.Does.setsUp {operation : Operation} {reply : Reply}
    (does : operation.Does m reply m') : SetsUp m m' := by
  cases does with
  | transfer transferred => exact .keeps transferred.sameChains
  | publish step =>
      cases step with
      | announce found unreleased due known => exact .keeps (.of_eq rfl rfl rfl)
  | redeem validates accepted => exact .keeps accepted.sameChains
  | redeemBatch rehearsed accepted => exact .keeps accepted.sameChains
  | payOut step =>
      cases step with
      | pay found waits due pays => exact .keeps (.of_eq rfl rfl rfl)
  | setPeer foreign => exact .peer foreign rfl rfl rfl
  | setTransceiverPeer foreign => exact .transceiver foreign rfl rfl rfl
  | setInboundLimit found => exact .keeps ⟨rfl, rfl, contains_insert_inbound found _⟩
  | setOutboundLimit | setPaused | mint | fundCustody => exact .keeps (.of_eq rfl rfl rfl)

namespace SetsUp

variable (setsUp : SetsUp m m')

include setsUp

/-- A chain with a peer stays one. -/
theorem peer_kept {chain : ChainId} (known : m.peers.contains chain) :
    m'.peers.contains chain := by
  cases setsUp with
  | peer foreign peers transceivers inbound =>
      rw [peers, Table.contains_insert_iff]
      exact .inr known
  | transceiver foreign peers transceivers inbound => rwa [peers]
  | keeps same => rwa [same.peers]

/-- A chain has a peer exactly when it has a limit, since the two are set up together. -/
theorem peered (peered : ∀ chain, m.peers.contains chain ↔ m.inbound.contains chain)
    (chain : ChainId) : m'.peers.contains chain ↔ m'.inbound.contains chain := by
  cases setsUp with
  | peer foreign peers transceivers inbound =>
      rw [peers, inbound, Table.contains_insert_iff, Table.contains_insert_iff, peered]
  | transceiver foreign peers transceivers inbound => rw [peers, inbound, peered]
  | keeps same => rw [same.peers, peered, same.limited]

/-- A manager never becomes its own peer. -/
theorem foreign
    (own : ¬ m.peers.contains m.settings.chain ∧ ¬ m.transceivers.contains m.settings.chain) :
    ¬ m'.peers.contains m.settings.chain ∧ ¬ m'.transceivers.contains m.settings.chain := by
  cases setsUp with
  | peer foreign peers transceivers inbound =>
      rw [peers, transceivers, Table.contains_insert_iff, not_or]
      exact ⟨⟨foreign.symm, own.1⟩, own.2⟩
  | transceiver foreign peers transceivers inbound =>
      rw [peers, transceivers, Table.contains_insert_iff, not_or]
      exact ⟨own.1, foreign.symm, own.2⟩
  | keeps same =>
      rw [same.peers, same.transceivers]
      exact own

end SetsUp

/-! ### Limits -/

/-- No more is stored than the limit, so there is never more capacity. -/
theorem limitInvariant_within (duration : Timestamp) :
    LimitInvariant duration fun r => r.stored ≤ r.limit where
  full limit _ := UInt64.le_refl limit
  claim r amount now within := by
    rw [r.limit_claim]
    exact RateLimit.stored_claim_le within amount
  refill r amount now _ := r.stored_refill_le amount now
  setLimit r limit now _ := r.stored_setLimit_le limit now

/-! ### Entries of the inbox -/

/-- A transfer that is accepted comes from a chain that has a limit. -/
theorem Accepted.limited {transfer : ValidTransfer} {redemption : Redemption}
    (accepted : Accepted m transfer now redemption m') :
    m.inbound.contains transfer.fromChain := by
  cases accepted with
  | queued limited waits => exact Table.contains_iff.mpr ⟨_, limited⟩
  | released limited fits pays => exact Table.contains_iff.mpr ⟨_, limited⟩

/-- What is in the inbox after transfers were accepted was there before, or comes from a chain that
has a limit. -/
theorem AcceptedAll.contains_or_limited {transfers : List ValidTransfer}
    {redemptions : List Redemption} (accepted : AcceptedAll now m transfers redemptions m')
    {key : TransferKey} {item : InboxItem} (found : m'.inbox.find? key = some item) :
    m.inbox.find? key = some item ∨ m.inbound.contains key.chain := by
  induction accepted with
  | nil => exact .inl found
  | @cons _ _ _ transfer _ _ _ absent suits accepted _ ih =>
      rcases ih found with found | limited
      · by_cases same : key = transfer.key
        · exact .inr (same ▸ accepted.limited)
        · exact .inl (accepted.find?_eq same ▸ found)
      · exact .inr ((accepted.sameChains.limited key.chain).mp limited)

/-- An entry is new only if its chain has a limit, of which the redemption has claimed. -/
theorem Handled.exists_or_limited {operation : Operation} {redemptions : List Redemption}
    {effects : List Effect} (handled : Handled operation redemptions effects m m')
    {key : TransferKey} {item : InboxItem} (found : m'.inbox.find? key = some item) :
    (∃ before, m.inbox.find? key = some before) ∨ m.inbound.contains key.chain := by
  cases handled with
  | redeems time paid accepted =>
      exact (accepted.contains_or_limited found).imp_left fun before => ⟨item, before⟩
  | pays time none paid step =>
      cases step with
      | pay found' waits due pays =>
          rcases Table.find?_insert_eq_some found with ⟨rfl, -⟩ | ⟨-, found⟩
          · exact .inl ⟨_, found'⟩
          · exact .inl ⟨_, found⟩
  | leaves none unpaid same => exact .inl ⟨item, same ▸ found⟩

/-! ### Items of the outbox -/

/-- Redemptions leave the outbox alone. -/
theorem AcceptedAll.outbox_eq {transfers : List ValidTransfer} {redemptions : List Redemption}
    (accepted : AcceptedAll now m transfers redemptions m') : m'.outbox = m.outbox := by
  induction accepted with
  | nil => rfl
  | cons absent suits accepted _ ih =>
      cases accepted with
      | queued limited waits => exact ih
      | released limited fits pays => exact ih

/-- **What an operation does to the outbox**: a transfer enters it that has passed all checks, an
item is released, or nothing. -/
inductive OutboxChange (m m' : Manager) : Prop
  | enters {request : TransferRequest} {now time : Timestamp} {dispatch : Dispatch}
      (prepared : Prepared m request now dispatch)
      (outbox : m'.outbox =
        m.outbox.insert m.nextSequence (request.item dispatch m.nextSequence time))
  | releases {sequence : UInt64} {item : OutboxItem}
      (found : m.outbox.find? sequence = some item)
      (outbox : m'.outbox = m.outbox.insert sequence { item with released := true })
  | keeps (same : m'.outbox = m.outbox)

/-- What each operation does to the outbox. -/
theorem Operation.Does.outboxChange {operation : Operation} {reply : Reply}
    (does : operation.Does m reply m') : OutboxChange m m' := by
  cases does with
  | transfer transferred =>
      obtain ⟨prepared, takes, enqueued⟩ := transferred
      cases enqueued with
      | admitted limited fits => exact .enters prepared rfl
      | delayed waits => exact .enters prepared rfl
  | publish step =>
      cases step with
      | announce found unreleased due known => exact .releases found rfl
  | redeem validates accepted =>
      have valid := validated_of_validate validates
      exact .keeps (AcceptedAll.outbox_eq (.cons valid.absent valid.suits accepted .nil))
  | redeemBatch rehearsed accepted => exact .keeps accepted.outbox_eq
  | payOut step =>
      cases step with
      | pay found waits due pays => exact .keeps rfl
  | _ => exact .keeps rfl

/-- The item of a transfer that has passed all checks. -/
theorem Prepared.sound {request : TransferRequest} {dispatch : Dispatch}
    (prepared : Prepared m request now dispatch) (sequence : UInt64) (time : Timestamp) :
    (request.item dispatch sequence time).Sound sequence m.settings := by
  obtain ⟨peer, known, scales⟩ := prepared.peer
  refine ⟨rfl, prepared.positive, ?_⟩
  show dispatch.trimmed.decimals ≤ _
  rw [(Amount.dedust_eq_ok scales).1]
  exact Amount.keptDecimals_le m.settings.tokenDecimals peer.tokenDecimals

/-! ### Agreement -/

/-- **The parts of a manager agree.** -/
structure Consistent (m : Manager) : Prop where
  /-- The chains that have a peer are those that have a limit on what comes in. -/
  peered : ∀ chain, m.peers.contains chain ↔ m.inbound.contains chain
  /-- Neither a peer nor a transceiver is on the own chain. -/
  foreign : ¬ m.peers.contains m.settings.chain ∧ ¬ m.transceivers.contains m.settings.chain
  /-- Every limit fills in the time that was set up. -/
  timed : m.Timed
  /-- No limit stores more than its limit. -/
  within : ∀ gate r, m.gates gate = some r → r.stored ≤ r.limit
  /-- An entry of the inbox is approved and what its message says, and its chain has a peer. -/
  inbox : ∀ key item, m.inbox.find? key = some item →
    item.Sound key m.settings ∧ m.peers.contains key.chain
  /-- An item of the outbox has an amount to announce, and its destination has a peer. -/
  outbox : ∀ sequence item, m.outbox.find? sequence = some item →
    item.Sound sequence m.settings ∧ m.peers.contains item.recipient.chain

/-- A new manager has no peers, no entries and no items, so there is nothing to disagree. -/
theorem consistent_start (settings : Settings) (outboundLimit : UInt64) (now : Timestamp) :
    (start settings outboundLimit now).Consistent where
  peered chain := Iff.rfl
  foreign := ⟨Bool.false_ne_true, Bool.false_ne_true⟩
  timed := timed_start settings outboundLimit now
  within := (limitInvariant_within settings.duration).start outboundLimit now
  inbox := by rintro key item ⟨⟩
  outbox := by rintro sequence item ⟨⟩

/-- **Every operation keeps the parts of a manager in agreement.** -/
theorem Operation.Does.consistent {operation : Operation} {reply : Reply}
    (does : operation.Does m reply m') (consistent : m.Consistent) : m'.Consistent := by
  obtain ⟨moves, explains⟩ := does.exists_explains
  have fixed := explains.trace.fixed_eq
  have setsUp := does.setsUp
  refine ⟨setsUp.peered consistent.peered, ?_, ?_, ?_, ?_, ?_⟩
  · rw [chain_eq_of_fixed_eq fixed]
    exact setsUp.foreign consistent.foreign
  · exact does.regulated.timed (duration_eq_of_fixed_eq fixed) consistent.timed
  · exact (limitInvariant_within m.settings.duration).regulated does.regulated consistent.within
  · have sound : m'.InboxSound :=
      explains.trace.invariant (fun step => step.inboxSound) fun key item found =>
        (consistent.inbox key item found).1
    intro key item found
    refine ⟨sound key item found, setsUp.peer_kept ?_⟩
    rcases does.handled.exists_or_limited found with ⟨before, found⟩ | limited
    · exact (consistent.inbox key before found).2
    · exact (consistent.peered key.chain).mpr limited
  · have kept {sequence : UInt64} {item : OutboxItem}
        (holds : item.Sound sequence m.settings ∧ m.peers.contains item.recipient.chain) :
        item.Sound sequence m'.settings ∧ m'.peers.contains item.recipient.chain := by
      obtain ⟨⟨numbered, positive, decimals⟩, known⟩ := holds
      rw [← tokenDecimals_eq_of_fixed_eq fixed] at decimals
      exact ⟨⟨numbered, positive, decimals⟩, setsUp.peer_kept known⟩
    intro sequence item found
    apply kept
    cases does.outboxChange with
    | @enters request _ time dispatch prepared outbox =>
        rw [outbox] at found
        rcases Table.find?_insert_eq_some found with ⟨rfl, rfl⟩ | ⟨-, found⟩
        · obtain ⟨peer, known, -⟩ := prepared.peer
          exact ⟨prepared.sound m.nextSequence time, Table.contains_iff.mpr ⟨peer, known⟩⟩
        · exact consistent.outbox sequence item found
    | @releases sequence' before found' outbox =>
        rw [outbox] at found
        rcases Table.find?_insert_eq_some found with ⟨rfl, rfl⟩ | ⟨-, found⟩
        · obtain ⟨sound, known⟩ := consistent.outbox sequence before found'
          exact ⟨{ sound with }, known⟩
        · exact consistent.outbox sequence item found
    | keeps same => exact consistent.outbox sequence item (same ▸ found)

/-- **An event keeps the parts of a manager in agreement**, also if it is refused. -/
theorem Event.consistent (e : Event) (balanced : e.before.ledger.Balanced)
    (consistent : e.before.Consistent) : e.after.Consistent := by
  rcases e.refused_or_does balanced with ⟨fault, refused, same⟩ | ⟨reply, replied, does⟩
  · rw [same]
    exact consistent
  · exact does.consistent consistent

/-- **The parts of a manager agree** after every run of a new manager.  No limit has more capacity
than its limit at any time, and all numbers of the outbox were issued.

A counter of numbers that runs over stops the program, so for the last part a run has sent fewer than
`2 ^ 64` transfers. -/
theorem consistent_after (settings : Settings) (outboundLimit : UInt64) (now : Timestamp)
    (run : List Operation) :
    let m := (start settings outboundLimit now).after run
    m.Consistent ∧
      (∀ gate r, m.gates gate = some r → ∀ time, r.capacity time ≤ r.limit) ∧
      ((((start settings outboundLimit now).effects run).map Effect.sends).sum < 2 ^ 64 →
        ∀ sequence item, m.outbox.find? sequence = some item → sequence < m.nextSequence) := by
  intro m
  have balanced := balanced_start settings outboundLimit now
  refine ⟨?_, fun gate r found time => r.capacity_le_limit time, ?_⟩
  · exact invariant_of_events balanced run (fun e => e.consistent)
      (consistent_start settings outboundLimit now)
  · intro fits sequence item found
    obtain ⟨moves, lasting, -⟩ := exists_lasting balanced run
      (numbered_start settings outboundLimit now) (fits_start settings outboundLimit now fits)
    exact UInt64.lt_iff_toNat_lt.mpr (lasting.numbered sequence item found).2

/-- The manager that has made a transfer wait in each direction, and has released both. -/
theorem consistent_after_of_sample :
    ((start sampleTarget 5000000000 0).after sampleWait).inbox.size = 1 ∧
      ((start sampleTarget 5000000000 0).after sampleWait).Consistent ∧
      ∀ sequence item,
        ((start sampleTarget 5000000000 0).after sampleWait).outbox.find? sequence = some item →
        sequence < 1 := by
  obtain ⟨consistent, -, issued⟩ := consistent_after sampleTarget 5000000000 0 sampleWait
  have next : ((start sampleTarget 5000000000 0).after sampleWait).nextSequence = 1 := by
    decide +kernel
  rw [next] at issued
  exact ⟨by decide +kernel, consistent, issued (by decide +kernel)⟩

end Manager

end TokenTransfer
