import TokenTransfer.Proofs.Amount
import TokenTransfer.Proofs.Manager.Move
import TokenTransfer.Proofs.Wire.Encodable

/-!
# Sending, move by move

A transfer is one move, `send`, and its publication another, `announce`.  Both operations are all or
nothing, for different reasons: a transfer looks everything up before it takes the tokens, so that
nothing after that can fail (`enqueue_yields`), while a publication writes the item back also when
the item refuses its release, and then writes what was there before.

## Main definitions

* `Manager.Prepared` - what is known of a transfer that has passed all checks
* `Manager.Enqueued` - what a transfer does after its tokens were taken
* `Manager.Transferred` - what a transfer does

## Main statements

* `Announcement.exists_toBytes` - every announcement has bytes
* `transfer_transacts`, `publish_transacts` - each operation is a move or nothing
* `Transferred.publish_yields` - a transfer that is due can be published at once
-/

namespace TokenTransfer

/-- The outbox entry of a transfer. -/
def TransferRequest.item (request : TransferRequest) (dispatch : Dispatch) (sequence : UInt64)
    (releaseTime : Timestamp) : OutboxItem :=
  { sequence
    amount := dispatch.trimmed
    sender := request.sender
    recipient := request.recipient
    releaseTime
    hint := request.hint
    released := false }

/-! ### The bytes of an announcement -/

namespace Announcement

/-- **Every announcement has bytes.** -/
theorem exists_toBytes (announcement : Announcement) :
    ∃ payload, announcement.toBytes = .ok payload := by
  obtain ⟨inner, encodes, size⟩ := Shape.exists_encode_message announcement.managerPayload
  obtain ⟨outer, encodes', size'⟩ := Shape.exists_encode_optionalHint announcement.transceiverPayload
  have fits : inner.length < Bytes.count 2 := by
    rw [size]
    decide
  have fits' : outer.length < Bytes.count 2 := Nat.lt_of_le_of_lt size' (by decide)
  exact ⟨_, Envelope.encode_eq_ok_iff.mpr ⟨inner, outer, encodes, fits, encodes', fits', rfl⟩⟩

/-- The bytes of an announcement, with those of the hint left as they are. -/
theorem exists_extra {announcement : Announcement} {payload : Bytes}
    (bytes : announcement.toBytes = .ok payload) :
    ∃ extra : Bytes, extra.length ≤ 1 ∧
      @Envelope.encode (.manager .transfer) .raw Tag.wormhole
        ⟨announcement.source, announcement.recipient, announcement.managerPayload, extra⟩ =
        .ok payload := by
  obtain ⟨inner, outer, encodes, fits, encodes', fits', rfl⟩ := Envelope.encode_eq_ok_iff.mp bytes
  obtain ⟨extra, hint, short⟩ := Shape.exists_encode_optionalHint announcement.transceiverPayload
  cases hint.symm.trans encodes'
  exact ⟨outer, short, Envelope.encode_eq_ok_iff.mpr ⟨inner, outer, encodes, fits, rfl, fits', rfl⟩⟩

end Announcement

namespace Manager

open Fallible

variable {m : Manager}

/-! ### Lookups -/

theorem ensureActive_eq_ok_iff {u : Unit} : m.ensureActive = .ok u ↔ m.settings.paused = false := by
  unfold ensureActive
  cases paused : m.settings.paused with
  | false => simp
  | true => simp

theorem peer_eq_ok_iff {chain : ChainId} {peer : Peer} :
    m.peer chain = .ok peer ↔ m.peers.find? chain = some peer := by
  unfold Manager.peer
  cases m.peers.find? chain with
  | none => simp
  | some found => simp

theorem inboundLimit_eq_ok_iff {chain : ChainId} {limit : RateLimit} :
    m.inboundLimit chain = .ok limit ↔ m.inbound.find? chain = some limit := by
  unfold inboundLimit
  cases m.inbound.find? chain with
  | none => simp
  | some found => simp

theorem outboxItem_eq_ok_iff {sequence : UInt64} {item : OutboxItem} :
    m.outboxItem sequence = .ok item ↔ m.outbox.find? sequence = some item := by
  unfold outboxItem
  cases m.outbox.find? sequence with
  | none => simp
  | some found => simp

/-- Asking changes nothing, so it is what comes after the answer that counts. -/
theorem transacts_ask_bind {α β : Type} {question : Manager → Except Fault α} {next : α → Action β}
    {post : β → Manager → Prop} (h : ∀ a, question m = .ok a → (next a).Transacts m post) :
    (ask question >>= next).Transacts m post := by
  refine Transacts.bind_of_keeps rfl ?_
  intro a runs
  exact h a (congrArg Prod.fst runs)

theorem runOn_ask_bind_eq_ok_iff {α β : Type} {question : Manager → Except Fault α}
    {next : α → Action β} {b : β} {m' : Manager} :
    (ask question >>= next).runOn m = (.ok b, m') ↔
      ∃ a, question m = .ok a ∧ (next a).runOn m = (.ok b, m') := by
  rw [runOn_bind_eq_ok_iff]
  constructor
  · rintro ⟨a, _, answers, runs⟩
    obtain ⟨answered, rfl⟩ := Prod.mk.inj answers
    exact ⟨a, answered, runs⟩
  · rintro ⟨a, answered, runs⟩
    exact ⟨a, m, congrArg (·, m) answered, runs⟩

/-- A change of the ledger that is all or nothing is so for the manager. -/
theorem onLedger_transacts {change : Ledger.Action} {post : Unit → Ledger → Prop}
    (h : change.Transacts m.ledger post) :
    (onLedger change).Transacts m fun u m' => ∃ ledger, m' = { m with ledger } ∧ post u ledger :=
  h.focus rfl

/-! ### Preparing a transfer -/

/-- **What is known of a transfer that has passed all checks.** -/
structure Prepared (m : Manager) (request : TransferRequest) (now : Timestamp)
    (dispatch : Dispatch) : Prop where
  active : m.settings.paused = false
  peer : ∃ peer, m.peers.find? request.recipient.chain = some peer ∧
    Amount.dedust request.amount m.settings.tokenDecimals peer.tokenDecimals =
      .ok (dispatch.trimmed, dispatch.amount)
  limit : ∃ limit, m.inbound.find? request.recipient.chain = some limit
  funds : request.amount ≤ m.ledger.balance request.sender
  positive : dispatch.trimmed.units ≠ 0
  room : dispatch.amount ≤ m.outbound.capacity now ∨ request.mayQueue = true

/-- A transfer that was prepared has passed all checks. -/
theorem prepared_of_prepare {request : TransferRequest} {now : Timestamp} {dispatch : Dispatch}
    (h : m.prepare request now = .ok dispatch) : Prepared m request now dispatch := by
  unfold prepare at h
  obtain ⟨_, active, h⟩ := Outcome.bind_eq_ok_iff.mp h
  simp only [Outcome.throw_bind, Outcome.ite_error_eq_ok_iff] at h
  obtain ⟨-, h⟩ := h
  obtain ⟨peer, known, h⟩ := Outcome.bind_eq_ok_iff.mp h
  obtain ⟨limit, limited, h⟩ := Outcome.bind_eq_ok_iff.mp h
  simp only [Outcome.ite_error_eq_ok_iff] at h
  obtain ⟨funds, h⟩ := h
  obtain ⟨⟨trimmed, amount⟩, scales, h⟩ := Outcome.bind_eq_ok_iff.mp h
  simp only [Outcome.ite_error_eq_ok_iff] at h
  obtain ⟨positive, room, h⟩ := h
  cases h
  exact
    { active := ensureActive_eq_ok_iff.mp active
      peer := ⟨peer, peer_eq_ok_iff.mp known, (Outcome.mapError_eq_ok_iff _).mp scales⟩
      limit := ⟨limit, inboundLimit_eq_ok_iff.mp limited⟩
      funds := UInt64.not_lt.mp funds
      positive
      room := by
        by_cases fits : m.outbound.capacity now < amount
        · exact .inr (by simpa [fits] using room)
        · exact .inl (UInt64.not_lt.mp fits) }

/-! ### Taking the tokens -/

/-- Tokens are locked or burned, as the mode says. -/
theorem runOn_takeFrom (account : Address) (amount : UInt64) :
    (takeFrom account amount).runOn m =
      match m.settings.mode with
      | .locking => (onLedger (Ledger.lock account amount)).runOn m
      | .burning => (onLedger (Ledger.burn account amount)).runOn m := by
  unfold takeFrom
  simp only [runOn_bind, runOn_get]
  cases m.settings.mode with
  | locking => rfl
  | burning => rfl

/-- Taking tokens debits the account, or leaves the manager as it was. -/
theorem takeFrom_transacts (balanced : m.ledger.Balanced) (account : Address) (amount : UInt64) :
    (takeFrom account amount).Transacts m fun _ m' =>
      ∃ ledger, m' = { m with ledger } ∧
        Ledger.Takes m.settings.mode account amount m.ledger ledger := by
  have runs := runOn_takeFrom (m := m) account amount
  cases mode : m.settings.mode with
  | locking =>
      rw [mode] at runs
      exact (onLedger_transacts (Ledger.lock_transacts account amount m.ledger)).of_runOn_eq runs
  | burning =>
      rw [mode] at runs
      exact (onLedger_transacts (Ledger.burn_transacts balanced account amount)).of_runOn_eq runs

/-! ### After the tokens were taken -/

/-- Claiming outbound capacity cannot fail where the destination has a limit.  What is sent at once
refills that limit; what has to wait changes nothing. -/
theorem runOn_claimOutbound {destination : ChainId} {limit : RateLimit}
    (found : m.inbound.find? destination = some limit) (amount : UInt64) (now : Timestamp) :
    (claimOutbound destination amount now).runOn m =
      if amount ≤ m.outbound.capacity now then
        (.ok now,
          { m with
            outbound := (m.outbound.claim amount now).2
            inbound := m.inbound.insert destination (limit.refill amount now) })
      else (.ok (m.outbound.releaseTime now), m) := by
  unfold claimOutbound
  by_cases fits : amount ≤ m.outbound.capacity now
  · simp [runOn_bind, runOn_map, Except.map, RateLimit.claim, fits, ask, inboundLimit, found]
  · simp [runOn_bind, runOn_map, Except.map, RateLimit.claim, fits]

/-- **What a transfer does after its tokens were taken.**  It enters the outbox under the next
number.  One that fits the capacity claims it and gives as much back to what may come in from the
destination; one that does not fit waits, and the limits stay as they are. -/
inductive Enqueued (m : Manager) (request : TransferRequest) (dispatch : Dispatch)
    (now : Timestamp) : OutboxItem → Manager → Prop
  | admitted {limit : RateLimit} (limited : m.inbound.find? request.recipient.chain = some limit)
      (fits : dispatch.amount ≤ m.outbound.capacity now) :
      Enqueued m request dispatch now (request.item dispatch m.nextSequence now)
        { m with
          outbound := (m.outbound.claim dispatch.amount now).2
          inbound := m.inbound.insert request.recipient.chain (limit.refill dispatch.amount now)
          outbox :=
            m.outbox.insert m.nextSequence (request.item dispatch m.nextSequence now)
          nextSequence := m.nextSequence + 1 }
  | delayed (waits : m.outbound.capacity now < dispatch.amount) :
      Enqueued m request dispatch now
        (request.item dispatch m.nextSequence (m.outbound.releaseTime now))
        { m with
          outbox :=
            m.outbox.insert m.nextSequence
              (request.item dispatch m.nextSequence (m.outbound.releaseTime now))
          nextSequence := m.nextSequence + 1 }

/-- The item is what the sender has asked for, with a time at which it may be released. -/
theorem Enqueued.exists_item_eq {request : TransferRequest} {dispatch : Dispatch} {now : Timestamp}
    {item : OutboxItem} {m' : Manager} (enqueued : Enqueued m request dispatch now item m') :
    ∃ time, item = request.item dispatch m.nextSequence time := by
  cases enqueued with
  | admitted limited fits => exact ⟨_, rfl⟩
  | delayed waits => exact ⟨_, rfl⟩

/-- **Once the tokens are taken nothing can fail.** -/
theorem enqueue_yields {request : TransferRequest} {limit : RateLimit}
    (found : m.inbound.find? request.recipient.chain = some limit) (dispatch : Dispatch)
    (now : Timestamp) :
    (enqueue request dispatch now).Yields m (Enqueued m request dispatch now) := by
  have claims := runOn_claimOutbound found dispatch.amount now
  unfold enqueue
  split at claims
  · rename_i fits
    exact ⟨_, _, by rw [runOn_bind_of_ok claims]; rfl, .admitted found fits⟩
  · rename_i waits
    exact ⟨_, _, by rw [runOn_bind_of_ok claims]; rfl, .delayed (UInt64.not_le.mp waits)⟩

/-- **What a transfer does.**  Its sender pays for what survives trimming, and it is enqueued. -/
inductive Transferred (m : Manager) (request : TransferRequest) (now : Timestamp)
    (item : OutboxItem) (m' : Manager) : Prop
  | intro {dispatch : Dispatch} {ledger : Ledger} (prepared : Prepared m request now dispatch)
      (takes : Ledger.Takes m.settings.mode request.sender dispatch.amount m.ledger ledger)
      (enqueued : Enqueued { m with ledger } request dispatch now item m')

/-- A transfer is one move. -/
theorem Transferred.step {request : TransferRequest} {now : Timestamp} {item : OutboxItem}
    {m' : Manager} (transferred : Transferred m request now item m') :
    ∃ amount, Step m (.send item amount) m' := by
  obtain ⟨prepared, takes, enqueued⟩ := transferred
  obtain ⟨peer, known, scales⟩ := prepared.peer
  obtain ⟨decimals, worth⟩ := Amount.dedust_eq_ok scales
  cases enqueued with
  | admitted limited fits => exact ⟨_, .send rfl rfl known decimals worth takes⟩
  | delayed waits => exact ⟨_, .send rfl rfl known decimals worth takes⟩

/-- Its item is what the sender has asked for. -/
theorem Transferred.asked {request : TransferRequest} {now : Timestamp} {item : OutboxItem}
    {m' : Manager} (transferred : Transferred m request now item m') :
    item.sender = request.sender ∧ item.recipient = request.recipient ∧
      item.hint = request.hint := by
  obtain ⟨prepared, takes, enqueued⟩ := transferred
  obtain ⟨time, rfl⟩ := enqueued.exists_item_eq
  exact ⟨rfl, rfl, rfl⟩

/-- **A transfer is made**, or nothing happens. -/
theorem transfer_transacts (balanced : m.ledger.Balanced) (request : TransferRequest)
    (now : Timestamp) :
    (transfer request now).Transacts m (Transferred m request now) := by
  unfold transfer
  apply transacts_ask_bind
  intro dispatch prepares
  have prepared := prepared_of_prepare prepares
  obtain ⟨limit, limited⟩ := prepared.limit
  refine Transacts.bind ((takeFrom_transacts balanced request.sender dispatch.amount).mono ?_)
  rintro - m' - ⟨ledger, rfl, takes⟩
  refine (enqueue_yields (m := { m with ledger }) limited dispatch now).mono ?_
  intro item m' enqueued
  exact ⟨prepared, takes, enqueued⟩

/-! ### Publishing -/

/-- An item is released once, and not before its time. -/
theorem runOn_release (now : Timestamp) (item : OutboxItem) :
    (OutboxItem.release now).runOn item =
      if now < item.releaseTime then (.error (.tooEarly item.releaseTime now), item)
      else if item.released then (.error (.alreadySent item.sequence), item)
      else (.ok (), { item with released := true }) := by
  unfold OutboxItem.release
  simp only [runOn_bind, runOn_get]
  split
  · rfl
  · split
    · rfl
    · rfl

/-- **A publication is one move**, or nothing. -/
theorem publish_transacts (sequence : UInt64) (now : Timestamp) :
    (publish sequence now).Transacts m fun announcement m' =>
      Step m (.announce sequence announcement now) m' := by
  unfold publish
  refine transacts_ask_bind fun _ _ => transacts_ask_bind fun item lookup =>
    transacts_ask_bind fun peer lookup' => ?_
  have found := outboxItem_eq_ok_iff.mp lookup
  have known := peer_eq_ok_iff.mp lookup'
  have releases := runOn_release now item
  by_cases early : now < item.releaseTime
  · -- An item that is not released is written back as it was.
    rw [if_pos early] at releases
    refine .refused (.tooEarly item.releaseTime now) ?_
    simp [runOn_bind, releases, Table.insert_of_find? found]
  · rw [if_neg early] at releases
    by_cases sent : item.released
    · rw [if_pos sent] at releases
      refine .refused (.alreadySent item.sequence) ?_
      simp [runOn_bind, releases, Table.insert_of_find? found]
    · rw [if_neg sent] at releases
      have step := Step.announce found (by simpa using sent) early known
      exact .done _ _ (by simp only [releases, runOn_bind]; rfl) step

/-- An item that is due is published wherever its peer is known. -/
theorem publish_yields {sequence : UInt64} {item : OutboxItem} {peer : Peer} {now : Timestamp}
    (active : m.settings.paused = false) (found : m.outbox.find? sequence = some item)
    (known : m.peers.find? item.recipient.chain = some peer) (unreleased : item.released = false)
    (due : ¬ now < item.releaseTime) :
    (publish sequence now).Yields m fun announcement m' =>
      Step m (.announce sequence announcement now) m' := by
  have isActive : m.ensureActive = .ok () := ensureActive_eq_ok_iff.mpr active
  have isFound : m.outboxItem sequence = .ok item := outboxItem_eq_ok_iff.mpr found
  have isKnown : m.peer item.recipient.chain = .ok peer := peer_eq_ok_iff.mpr known
  have releases : (OutboxItem.release now).runOn item = (.ok (), { item with released := true }) := by
    rw [runOn_release, if_neg due, if_neg (by simp [unreleased])]
  unfold publish
  refine yields_bind_of_ok (congrArg (·, m) isActive) (yields_bind_of_ok (congrArg (·, m) isFound)
    (yields_bind_of_ok (congrArg (·, m) isKnown) ?_))
  exact ⟨_, _, by simp only [releases, runOn_bind]; rfl, .announce found unreleased due known⟩

/-- **A transfer that is due can be published** right after it was made. -/
theorem Transferred.publish_yields {request : TransferRequest} {now now' : Timestamp}
    {item : OutboxItem} {m' : Manager} (transferred : Transferred m request now item m')
    (due : ¬ now' < item.releaseTime) :
    (publish item.sequence now').Yields m' fun announcement m'' =>
      Step m' (.announce item.sequence announcement now') m'' := by
  obtain ⟨prepared, takes, enqueued⟩ := transferred
  obtain ⟨peer, known, -⟩ := prepared.peer
  cases enqueued with
  | admitted limited fits =>
      exact Manager.publish_yields prepared.active (Table.find?_insert_self _ _ _) known rfl due
  | delayed waits =>
      exact Manager.publish_yields prepared.active (Table.find?_insert_self _ _ _) known rfl due

end Manager

end TokenTransfer
