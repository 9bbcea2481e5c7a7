import TokenTransfer.Proofs.Link.Agreement
import TokenTransfer.Proofs.Manager.Publication
import TokenTransfer.Proofs.Wire.Encodable

/-!
# Delivery

What is sent can be received, and is worth as much.  A transfer that the source has accepted and
published has bytes, and a target that knows the source reads them as they were written; it finds
the message bound for its chain, and new.  All that can still go wrong is that the amount does not
fit a word in units of the target's token.

The amount is the one thing that both sides compute.  The source trims it to decimals that both
tokens have, and takes from the sender no more than what the trimmed amount is worth; so what the
target makes of it is the same value to the last digit (`Amount.unitsIn_mul_pow_eq`), and since
nothing is rounded, it is refused only where that value has no word.

## Main definitions

* `Manager.Awaits`, `Manager.Reaches` - a manager is set up to receive from another, or to send to it
* `Manager.Requested` - a transfer that was received is the one that was asked for
* `Manager.Sends` - what the source has done for a transfer to the target

## Main statements

* `Manager.Awaits.messageOf_eq_ok` - the target reads what the source has announced
* `Manager.sends_and_announces` - the source announces what it has sent, to the target
* `Link.delivery` - what is sent can be received, with its exact value
-/

namespace TokenTransfer

namespace Manager

/-! ### The target -/

/-- **A manager is set up to receive** from one with the given settings: it is active, it has
recorded the other's manager and transceiver, and it accepts what the Wormhole transceiver
delivers. -/
structure Awaits (target : Manager) (source : Settings) : Prop where
  active : target.settings.paused = false
  transceiver : target.transceivers.find? source.chain = some source.transceiver
  peer : ∃ peer, target.peers.find? source.chain = some peer ∧ peer.manager = source.manager
  accepted : Tag.wormhole ∈ target.settings.tags

/-- The attestation that carries `payload` in the name of a manager with the given settings. -/
def attest (source : Settings) (number : UInt64) (payload : Bytes) : Attestation where
  emitterChain := source.chain
  emitter := source.transceiver
  sequence := number
  payload := payload

/-- **The target reads what the source has announced.** -/
theorem Awaits.messageOf_eq_ok {target : Manager} {source : Settings}
    (awaits : target.Awaits source) {announcement : Announcement}
    (sender : announcement.source = source.manager)
    (receiver : announcement.recipient = target.settings.manager) {payload : Bytes}
    (bytes : announcement.toBytes = .ok payload) (number : UInt64) :
    target.messageOf (attest source number payload) = .ok announcement.managerPayload := by
  obtain ⟨peer, known, manager⟩ := awaits.peer
  obtain ⟨extra, short, encodes⟩ := announcement.exists_extra bytes
  rw [sender, ← manager, receiver] at encodes
  exact messageOf_eq_ok_iff.mpr ⟨peer, Tag.wormhole, extra,
    { known, accepted := awaits.accepted, hint := fun _ => short, encoded := encodes }⟩

/-- **What the source has announced to the target is accepted**, unless its amount is too much for
a word. -/
theorem Awaits.validate_eq_ok_or_error {target m : Manager} {source : Settings}
    (awaits : target.Awaits source) (manager : m.settings.manager = source.manager) {peer : Peer}
    (receiver : peer.manager = target.settings.manager) {item : OutboxItem}
    (addressed : item.recipient.chain = target.settings.chain)
    (le : item.amount.decimals ≤ target.settings.tokenDecimals) (positive : item.amount.units ≠ 0)
    {sequence : UInt64}
    (fresh : target.inbox.find? ⟨source.chain, .ofSequence sequence⟩ = none) {payload : Bytes}
    (bytes : (m.announcement peer sequence item).toBytes = .ok payload) (number : UInt64) :
    (∃ amount, target.validate (attest source number payload) =
          .ok ⟨source.chain, (m.announcement peer sequence item).managerPayload, amount⟩ ∧
        amount.toNat = item.amount.unitsIn target.settings.tokenDecimals) ∨
      Word64.bound ≤ item.amount.unitsIn target.settings.tokenDecimals ∧
        (target.validate (attest source number payload) = .error .overflow ∨
          ∃ cause, target.validate (attest source number payload) = .error (.scaling cause)) := by
  have reads := awaits.messageOf_eq_ok manager receiver bytes number
  have validates : target.validate (attest source number payload) =
      (target.localAmount item.amount).map fun amount =>
        ⟨source.chain, (m.announcement peer sequence item).managerPayload, amount⟩ :=
    validate_of_messageOf awaits.active awaits.transceiver reads addressed fresh
  rw [validates]
  rcases localAmount_eq_ok_or_error le positive with
    ⟨word, counted, value⟩ | ⟨large, overflow | ⟨cause, refused⟩⟩
  · rw [counted]
    exact .inl ⟨word, rfl, value⟩
  · rw [overflow]
    exact .inr ⟨large, .inl rfl⟩
  · rw [refused]
    exact .inr ⟨large, .inr ⟨cause, rfl⟩⟩

/-- **A transfer is the one that was asked for**, in the name of a manager with the given settings
and under a number, and is worth `b` units of the local token. -/
structure Requested (transfer : ValidTransfer) (source : Settings) (sequence : UInt64)
    (request : TransferRequest) (b : Nat) : Prop where
  fromChain : transfer.fromChain = source.chain
  id : transfer.message.id = .ofSequence sequence
  sender : transfer.message.sender = request.sender
  recipient : transfer.message.payload.recipient = request.recipient.address
  amount : transfer.amount.toNat = b

/-! ### The source -/

/-- **A manager is set up to send** to another: it has recorded the other's manager and the decimals
of its token. -/
def Reaches (m target : Manager) : Prop :=
  m.peers.find? target.settings.chain =
    some { manager := target.settings.manager, tokenDecimals := target.settings.tokenDecimals }

instance (m target : Manager) : Decidable (m.Reaches target) := inferInstanceAs (Decidable (_ = _))

/-- **What is known of a transfer that was sent to the target.**  Its amount is in decimals that
both tokens have, and what it is worth in the source's token was taken from the sender. -/
structure Sends (m m' target : Manager) (request : TransferRequest) (item : OutboxItem) : Prop where
  sender : item.sender = request.sender
  recipient : item.recipient = request.recipient
  positive : item.amount.units ≠ 0
  decimals : item.amount.decimals =
    Amount.keptDecimals m.settings.tokenDecimals target.settings.tokenDecimals
  worth : item.amount.untrim m.settings.tokenDecimals = .ok (item.worth m.settings.tokenDecimals)
  taken : (m'.ledger.balance request.sender).toNat + item.worth m.settings.tokenDecimals =
    (m.ledger.balance request.sender).toNat

/-- A transfer that has gone through sends to the manager it is addressed to. -/
theorem Transferred.sends {m m' target : Manager} {request : TransferRequest} {now : Timestamp}
    {item : OutboxItem} (transferred : Transferred m request now item m') (reaches : m.Reaches target)
    (addressed : request.recipient.chain = target.settings.chain) :
    Sends m m' target request item := by
  obtain @⟨dispatch, ledger, prepared, takes, enqueued⟩ := transferred
  obtain ⟨peer, known, scales⟩ := prepared.peer
  rw [addressed] at known
  cases reaches.symm.trans known
  obtain ⟨decimals, worth⟩ := Amount.dedust_eq_ok scales
  have pays : m'.ledger = ledger := by
    cases enqueued with
    | admitted limited fits => rfl
    | delayed waits => rfl
  obtain ⟨time, same⟩ := enqueued.exists_item_eq
  have amount := prepared.worth_eq m.nextSequence time
  subst same
  refine ⟨rfl, rfl, prepared.positive, decimals, ?_, ?_⟩
  · rw [amount]
    exact worth
  · rw [amount, pays]
    exact takes.balance

/-- **What a run sends and publishes to the target**: the announcement is of the item that was sent,
and it is for the target's manager. -/
theorem sends_and_announces {m target : Manager} {run : List Operation}
    (balanced : m.ledger.Balanced) (numbered : m.Numbered)
    (fits : m.nextSequence.toNat + ((m.effects run).map Effect.sends).sum < 2 ^ 64)
    {e e' : Event} (mem : e ∈ m.events run) (mem' : e' ∈ m.events run)
    {request : TransferRequest} {time time' : Timestamp} {item : OutboxItem}
    {announcement : Announcement}
    (transfers : e.operation = .transfer request time) (sent : e.outcome = .ok (.sent item))
    (publishes : e'.operation = .publish item.sequence time')
    (announced : e'.outcome = .ok (.announced announcement))
    (addressed : request.recipient.chain = target.settings.chain)
    (reaches : e.before.Reaches target) (reaches' : e'.before.Reaches target) :
    Sends e.before e.after target request item ∧ ∃ peer : Peer,
      peer.manager = target.settings.manager ∧
      announcement = e'.before.announcement peer item.sequence item := by
  obtain ⟨balanced', -⟩ := before_of_mem_events balanced mem
  have mem_effects : .sent item ∈ e.effects := by
    rw [e.effects_of_sent transfers sent]
    exact List.mem_singleton_self _
  have sends := (e.transferred_of_sent balanced' transfers mem_effects).sends reaches addressed
  obtain ⟨peer, _, -, -, known, effects⟩ := published_of_sent balanced numbered fits mem mem_effects
    mem' (e'.published?_of_announced publishes announced)
  rw [e'.effects_of_announced publishes announced] at effects
  rw [sends.recipient, addressed] at known
  cases reaches'.symm.trans known
  exact ⟨sends, _, rfl, Effect.announced.inj (List.singleton_inj.mp effects)⟩

end Manager

namespace Link

open Manager

/-- **Delivery.**  In a run of a new manager, the source, a transfer to the chain of the target was
accepted and published.  Whenever the target awaits the source and has not received the id of the
transfer, it accepts an attestation of what was published: with the sender, the recipient and the id
of the transfer, and with the value that was taken from the sender, in units of its own token.  It
refuses only a value that no word has room for, and says so.

A counter of numbers that runs over stops the program, so the source has sent fewer than `2 ^ 64`
transfers. -/
theorem delivery {settings : Settings} {outboundLimit : UInt64} {now : Timestamp}
    {run : List Operation}
    (fits : (((start settings outboundLimit now).effects run).map Effect.sends).sum < 2 ^ 64)
    {e e' : Manager.Event} (mem : e ∈ (start settings outboundLimit now).events run)
    (mem' : e' ∈ (start settings outboundLimit now).events run)
    {request : TransferRequest} {time time' : Timestamp} {item : OutboxItem}
    {announcement : Announcement}
    (transfers : e.operation = .transfer request time) (sent : e.outcome = .ok (.sent item))
    (publishes : e'.operation = .publish item.sequence time')
    (announced : e'.outcome = .ok (.announced announcement)) {target : Manager}
    (addressed : request.recipient.chain = target.settings.chain)
    (reaches : e.before.Reaches target) (reaches' : e'.before.Reaches target)
    (awaits : target.Awaits settings)
    (fresh : target.inbox.find? ⟨settings.chain, .ofSequence item.sequence⟩ = none) :
    ∃ payload a b, announcement.toBytes = .ok payload ∧
      (e.after.ledger.balance request.sender).toNat + a =
        (e.before.ledger.balance request.sender).toNat ∧
      b * 10 ^ settings.tokenDecimals.toNat = a * 10 ^ target.settings.tokenDecimals.toNat ∧
      ∀ number,
        (b < 2 ^ 64 → ∃ transfer,
          target.validate (attest settings number payload) = .ok transfer ∧
            Requested transfer settings item.sequence request b) ∧
        (2 ^ 64 ≤ b →
          target.validate (attest settings number payload) = .error .overflow ∨
            ∃ cause, target.validate (attest settings number payload) = .error (.scaling cause)) := by
  have balanced := balanced_start settings outboundLimit now
  have numbered := numbered_start settings outboundLimit now
  obtain ⟨-, same⟩ := before_of_mem_events balanced mem
  obtain ⟨-, same'⟩ := before_of_mem_events balanced mem'
  have decimals : e.before.settings.tokenDecimals = settings.tokenDecimals :=
    tokenDecimals_eq_of_fixed_eq same
  obtain ⟨sends, peer, receiver, rfl⟩ := sends_and_announces balanced numbered
    (fits_start settings outboundLimit now fits) mem mem' transfers sent publishes announced addressed
    reaches reaches'
  obtain ⟨payload, bytes⟩ := Announcement.exists_toBytes (e'.before.announcement peer _ item)
  refine ⟨payload, item.worth settings.tokenDecimals,
    item.amount.unitsIn target.settings.tokenDecimals, bytes, ?_, ?_, ?_⟩
  · rw [← decimals]
    exact sends.taken
  · rw [← decimals]
    exact Amount.unitsIn_mul_pow_eq sends.decimals sends.worth
  · intro number
    have manager : e'.before.settings.manager = settings.manager := manager_eq_of_fixed_eq same'
    have bound : item.recipient.chain = target.settings.chain := by
      rw [sends.recipient]
      exact addressed
    have le : item.amount.decimals ≤ target.settings.tokenDecimals := by
      rw [sends.decimals]
      exact Amount.keptDecimals_le_target _ _
    have validates :=
      awaits.validate_eq_ok_or_error manager receiver bound le sends.positive fresh bytes number
    constructor
    · intro small
      rcases validates with ⟨amount, accepted, value⟩ | ⟨large, -⟩
      · exact ⟨_, accepted, rfl, rfl, sends.sender, congrArg ChainAddress.address sends.recipient,
          value⟩
      · exact absurd small (Nat.not_lt.mpr large)
    · intro large
      rcases validates with ⟨amount, -, value⟩ | ⟨-, refused⟩
      · exact absurd (value ▸ amount.toNat_lt) (Nat.not_lt.mpr large)
      · exact refused

/-! ### A transfer that arrives -/

/-- The source accepts the transfer. -/
def sampleTransfer : Manager.Event where
  before := (start sampleSource 5000000000 0).after
    (peering sampleTarget ++ [.mint sampleRequest.sender 3000000000])
  operation := .transfer sampleRequest 0

/-- The source publishes it. -/
def samplePublication : Manager.Event where
  before := sampleTransfer.after
  operation := .publish 0 0

theorem awaits_sampleReceiver : sampleReceiver.Awaits sampleSource where
  active := by decide +kernel
  transceiver := by decide +kernel
  peer := ⟨⟨sampleSource.manager, sampleSource.tokenDecimals⟩, by decide +kernel, rfl⟩
  accepted := by decide +kernel

/-- All but the dust of the transfer arrives, in a token with fewer decimals. -/
theorem delivery_of_sample :
    ∃ payload transfer, sampleAnnouncement.toBytes = .ok payload ∧
      sampleReceiver.validate (attest sampleSource 0 payload) = .ok transfer ∧
      transfer.amount.toNat = 1234567 := by
  obtain ⟨payload, a, b, bytes, taken, value, validates⟩ :=
    @delivery sampleSource 5000000000 0 sampleRun (by decide +kernel) sampleTransfer
      samplePublication (.tail _ (.tail _ (.tail _ (.head _))))
      (.tail _ (.tail _ (.tail _ (.tail _ (.head _))))) sampleRequest 0 0
      { sampleItem with released := false } sampleAnnouncement rfl (by decide +kernel) rfl
      (by decide +kernel) sampleReceiver (by decide +kernel) (by decide +kernel) (by decide +kernel)
      awaits_sampleReceiver (by decide +kernel)
  have before : (sampleTransfer.before.ledger.balance sampleRequest.sender).toNat = 3000000000 := by
    decide +kernel
  have after : (sampleTransfer.after.ledger.balance sampleRequest.sender).toNat = 1765433000 := by
    decide +kernel
  have source : sampleSource.tokenDecimals.toNat = 9 := rfl
  have target : sampleReceiver.settings.tokenDecimals.toNat = 6 := by decide +kernel
  rw [before, after] at taken
  rw [source, target] at value
  have amount : b = 1234567 := by omega
  obtain ⟨transfer, accepted, requested⟩ := (validates 0).1 (by omega)
  exact ⟨payload, transfer, bytes, accepted, requested.amount.trans amount⟩

end Link

end TokenTransfer
