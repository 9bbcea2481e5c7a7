import TokenTransfer.Proofs.Manager.Sending
import TokenTransfer.Proofs.Wire.Canonical

/-!
# Which attestations are accepted

The checks on an attestation are spread over lookups, decoders that work in two phases, comparisons
of addresses and the scaling of an amount.  Taken together they come to one description of the
attestation: its payload is, byte for byte, an envelope from the known manager to this one, and what
is in the envelope can be paid here for the first time.

That nothing else passes rests on the converse of the round trip: a payload that is read is the one
way to write what was read.

## Main definitions

* `Manager.Validated` - what is known of an attestation that has passed all checks
* `Manager.Delivers` - the payload is an envelope that brings a message from a peer
* `Manager.Legitimate` - an attestation from the other chain's manager, which is new and can be paid

## Main statements

* `Manager.validate_eq_ok_iff` - what a validation checks
* `Manager.messageOf_eq_ok_iff` - a message is read exactly from what delivers it
* `Manager.validate_iff_legitimate` - the checks let through exactly the legitimate attestations
-/

namespace TokenTransfer

namespace Manager

variable {m : Manager} {attestation : Attestation}

/-! ### The checks, one by one -/

/-- **What is known of an attestation that has passed all checks.** -/
structure Validated (m : Manager) (attestation : Attestation) (transfer : ValidTransfer) :
    Prop where
  fromChain : transfer.fromChain = attestation.emitterChain
  active : m.settings.paused = false
  emitter : m.transceivers.find? attestation.emitterChain = some attestation.emitter
  message : m.messageOf attestation = .ok transfer.message
  absent : m.inbox.find? transfer.key = none
  suits : transfer.Suits m.settings

theorem transceiverPeer_eq_ok_iff {chain : ChainId} {address : Address} :
    m.transceiverPeer chain = .ok address ↔ m.transceivers.find? chain = some address := by
  unfold transceiverPeer
  cases m.transceivers.find? chain with
  | none => simp
  | some found => simp

theorem ensurePeer_eq_ok_iff {chain : ChainId} {expected found : Address} {u : Unit} :
    ensurePeer chain expected found = .ok u ↔ expected = found := by
  unfold ensurePeer
  split
  · simpa
  · simpa

/-- What the Wormhole transceiver has added must be an optional hint; what another one has added is
not looked at. -/
theorem readHint_eq_ok_iff {M : Type} {tag : Tag} {envelope : Envelope M Bytes} {message : M} :
    (if tag = Tag.wormhole then do
        let _ ← Fault.liftWire (envelope.parseTransceiver .optionalHint)
        return envelope.managerPayload
      else return envelope.managerPayload : Except Fault M) = .ok message ↔
      (tag = Tag.wormhole → ∃ parsed, envelope.parseTransceiver .optionalHint = .ok parsed) ∧
        envelope.managerPayload = message := by
  by_cases isWormhole : tag = Tag.wormhole
  · rw [if_pos isWormhole, Outcome.bind_eq_ok_iff]
    constructor
    · rintro ⟨parsed, parses, same⟩
      exact ⟨fun _ => ⟨parsed, (Outcome.mapError_eq_ok_iff _).mp parses⟩, Except.ok.inj same⟩
    · rintro ⟨hint, rfl⟩
      obtain ⟨parsed, parses⟩ := hint isWormhole
      exact ⟨parsed, (Outcome.mapError_eq_ok_iff _).mpr parses, rfl⟩
  · rw [if_neg isWormhole]
    constructor
    · intro same
      exact ⟨fun isWormhole' => absurd isWormhole' isWormhole, Except.ok.inj same⟩
    · rintro ⟨-, rfl⟩
      rfl

/-- **How a message is read**, check by check: out of an envelope from the peer's manager to this
one. -/
structure Reads (m : Manager) (attestation : Attestation) (message : ManagerMessage Transfer)
    (tag : Tag) (raw : Envelope Bytes Bytes) (envelope : Envelope (ManagerMessage Transfer) Bytes)
    (peer : Peer) : Prop where
  decodes : Envelope.decode .raw .raw attestation.payload m.settings.tags = .ok (tag, raw)
  parses : raw.parseManager (.manager .transfer) = .ok envelope
  known : m.peers.find? attestation.emitterChain = some peer
  source : peer.manager = envelope.source
  recipient : envelope.recipient = m.settings.manager
  hint : tag = Tag.wormhole → ∃ parsed, envelope.parseTransceiver .optionalHint = .ok parsed
  message : envelope.managerPayload = message

/-- A message is read exactly when all these checks are passed. -/
theorem messageOf_eq_ok_iff_reads {attestation : Attestation} {message : ManagerMessage Transfer} :
    m.messageOf attestation = .ok message ↔
      ∃ tag raw envelope peer, Reads m attestation message tag raw envelope peer := by
  unfold messageOf
  constructor
  · intro h
    obtain ⟨⟨tag, raw⟩, decodes, h⟩ := Outcome.bind_eq_ok_iff.mp h
    obtain ⟨envelope, parses, h⟩ := Outcome.bind_eq_ok_iff.mp h
    obtain ⟨peer, lookup, h⟩ := Outcome.bind_eq_ok_iff.mp h
    obtain ⟨_, same, h⟩ := Outcome.bind_eq_ok_iff.mp h
    simp only [Outcome.throw_bind, Outcome.ite_error_eq_ok_iff, not_not] at h
    obtain ⟨recipient, h⟩ := h
    obtain ⟨hint, message⟩ := readHint_eq_ok_iff.mp h
    exact ⟨tag, raw, envelope, peer,
      { decodes := (Outcome.mapError_eq_ok_iff _).mp decodes
        parses := (Outcome.mapError_eq_ok_iff _).mp parses
        known := peer_eq_ok_iff.mp lookup
        source := ensurePeer_eq_ok_iff.mp same
        recipient, hint, message }⟩
  · rintro ⟨tag, raw, envelope, peer, reads⟩
    refine Outcome.bind_eq_ok_iff.mpr ⟨_, (Outcome.mapError_eq_ok_iff _).mpr reads.decodes,
      Outcome.bind_eq_ok_iff.mpr ⟨_, (Outcome.mapError_eq_ok_iff _).mpr reads.parses,
        Outcome.bind_eq_ok_iff.mpr ⟨peer, peer_eq_ok_iff.mpr reads.known,
          Outcome.bind_eq_ok_iff.mpr ⟨(), ensurePeer_eq_ok_iff.mpr reads.source, ?_⟩⟩⟩⟩
    rw [if_neg (not_not.mpr reads.recipient)]
    exact readHint_eq_ok_iff.mpr ⟨reads.hint, reads.message⟩

/-- An amount is accepted if what it untrims to fits a word. -/
theorem localAmount_eq_ok_iff {amount : Amount} {word : UInt64} :
    m.localAmount amount = .ok word ↔ amount.untrim m.settings.tokenDecimals = .ok word.toNat := by
  unfold localAmount
  constructor
  · intro h
    obtain ⟨value, untrims, h⟩ := Outcome.bind_eq_ok_iff.mp h
    cases found : Word64.ofNat? value with
    | none =>
        rw [found] at h
        cases h
    | some word' =>
        rw [found] at h
        cases h
        rw [Word64.ofNat?_eq_some_iff.mp found]
        exact (Outcome.mapError_eq_ok_iff _).mp untrims
  · intro untrims
    refine Outcome.bind_eq_ok_iff.mpr
      ⟨word.toNat, (Outcome.mapError_eq_ok_iff _).mpr untrims, ?_⟩
    rw [Word64.ofNat?_eq_some_iff.mpr rfl]
    rfl

/-- **An amount that a word has room for is counted in the local token**, and one that is too much
is refused as such. -/
theorem localAmount_eq_ok_or_error {amount : Amount}
    (le : amount.decimals ≤ m.settings.tokenDecimals) (positive : amount.units ≠ 0) :
    (∃ word, m.localAmount amount = .ok word ∧
        word.toNat = amount.unitsIn m.settings.tokenDecimals) ∨
      Word64.bound ≤ amount.unitsIn m.settings.tokenDecimals ∧
        (m.localAmount amount = .error .overflow ∨
          ∃ cause, m.localAmount amount = .error (.scaling cause)) := by
  rcases Amount.untrim_eq_ok_or_error le positive with untrims | ⟨⟨cause, refused⟩, large⟩
  · cases found : Word64.ofNat? (amount.unitsIn m.settings.tokenDecimals) with
    | none =>
        refine .inr ⟨Word64.ofNat?_eq_none_iff.mp found, .inl ?_⟩
        simp only [localAmount, Fault.liftScaling, Except.mapError, untrims, Outcome.ok_bind, found]
        rfl
    | some word =>
        have counts := Word64.ofNat?_eq_some_iff.mp found
        exact .inl ⟨word, localAmount_eq_ok_iff.mpr (by rw [untrims, counts]), counts⟩
  · refine .inr ⟨large, .inr ⟨cause, ?_⟩⟩
    simp [localAmount, Fault.liftScaling, Except.mapError, refused]

/-- **What is left of the checks** of a message that is new and bound for this chain: its amount is
counted in the local token. -/
theorem validate_of_messageOf {message : ManagerMessage Transfer}
    (active : m.settings.paused = false)
    (emitter : m.transceivers.find? attestation.emitterChain = some attestation.emitter)
    (reads : m.messageOf attestation = .ok message)
    (addressed : message.payload.recipientChain = m.settings.chain)
    (absent : m.inbox.find? ⟨attestation.emitterChain, message.id⟩ = none) :
    m.validate attestation = (m.localAmount message.payload.amount).map fun amount =>
      { fromChain := attestation.emitterChain, message, amount } := by
  have isActive : m.ensureActive = .ok () := ensureActive_eq_ok_iff.mpr active
  have isKnown := transceiverPeer_eq_ok_iff.mpr emitter
  have isPeer : ensurePeer attestation.emitterChain attestation.emitter attestation.emitter =
      .ok () := ensurePeer_eq_ok_iff.mpr rfl
  have fresh : m.inbox.contains ⟨attestation.emitterChain, message.id⟩ = false :=
    Table.contains_eq_false_iff.mpr absent
  unfold validate
  rw [isActive, Outcome.ok_bind]
  dsimp only
  rw [isKnown, Outcome.ok_bind, isPeer, Outcome.ok_bind, reads, Outcome.ok_bind,
    if_neg (not_not.mpr addressed), fresh]
  rfl

/-- A valid attestation has passed all checks. -/
theorem validated_of_validate {attestation : Attestation} {transfer : ValidTransfer}
    (h : m.validate attestation = .ok transfer) : Validated m attestation transfer := by
  unfold validate at h
  obtain ⟨_, active, h⟩ := Outcome.bind_eq_ok_iff.mp h
  obtain ⟨emitter, known, h⟩ := Outcome.bind_eq_ok_iff.mp h
  obtain ⟨_, same, h⟩ := Outcome.bind_eq_ok_iff.mp h
  obtain ⟨message, decoded, h⟩ := Outcome.bind_eq_ok_iff.mp h
  simp only [Outcome.throw_bind, Outcome.ite_error_eq_ok_iff, not_not] at h
  obtain ⟨addressed, absent, h⟩ := h
  obtain ⟨amount, worth, h⟩ := Outcome.bind_eq_ok_iff.mp h
  cases h
  rw [ensurePeer_eq_ok_iff] at same
  exact
    { fromChain := rfl
      active := ensureActive_eq_ok_iff.mp active
      emitter := same ▸ transceiverPeer_eq_ok_iff.mp known
      message := decoded
      absent := Table.contains_eq_false_iff.mp (Bool.eq_false_iff.mpr absent)
      suits := ⟨addressed, localAmount_eq_ok_iff.mp worth⟩ }

/-- **What a validation checks** is no more than what is known when it succeeds. -/
theorem validate_eq_ok_iff {attestation : Attestation} {transfer : ValidTransfer} :
    m.validate attestation = .ok transfer ↔ Validated m attestation transfer := by
  constructor
  · exact validated_of_validate
  · rintro ⟨fromChain, active, emitter, message, absent, suits⟩
    obtain ⟨chain, message', amount⟩ := transfer
    cases fromChain
    rw [validate_of_messageOf active emitter message suits.addressed absent,
      localAmount_eq_ok_iff.mpr suits.worth]
    rfl

/-! ### Legitimate attestations -/

/-- **The payload delivers the message.**  It is an envelope under a tag that is accepted, from the
manager that is known on the other chain to this one, and after the message come the bytes `extra`.
The Wormhole transceiver may add one byte, any other as many as it likes. -/
structure Delivers (m : Manager) (attestation : Attestation) (message : ManagerMessage Transfer)
    (peer : Peer) (tag : Tag) (extra : Bytes) : Prop where
  known : m.peers.find? attestation.emitterChain = some peer
  accepted : tag ∈ m.settings.tags
  hint : tag = Tag.wormhole → extra.length ≤ 1
  encoded : @Envelope.encode (.manager .transfer) .raw tag
    ⟨peer.manager, m.settings.manager, message, extra⟩ = .ok attestation.payload

/-- **A legitimate attestation of a transfer.**  It comes from the transceiver that is known on the
other chain while this manager is active, and delivers a message that was not received before, is
bound for this chain and whose amount fits a word in units of the local token. -/
structure Legitimate (m : Manager) (attestation : Attestation) (transfer : ValidTransfer) :
    Prop where
  active : m.settings.paused = false
  fromChain : transfer.fromChain = attestation.emitterChain
  emitter : m.transceivers.find? attestation.emitterChain = some attestation.emitter
  delivered : ∃ peer tag extra, m.Delivers attestation transfer.message peer tag extra
  addressed : transfer.message.payload.recipientChain = m.settings.chain
  fresh : m.inbox.find? ⟨attestation.emitterChain, transfer.message.id⟩ = none
  worth :
    transfer.message.payload.amount.untrim m.settings.tokenDecimals = .ok transfer.amount.toNat

/-- **A message is read exactly from what delivers it.** -/
theorem messageOf_eq_ok_iff {message : ManagerMessage Transfer} :
    m.messageOf attestation = .ok message ↔
      ∃ peer tag extra, m.Delivers attestation message peer tag extra := by
  have free : (Shape.manager .transfer).HintFree := trivial
  rw [messageOf_eq_ok_iff_reads]
  constructor
  · rintro ⟨tag, raw, ⟨source, recipient, message, extra⟩, peer,
      decodes, parses, known, rfl, rfl, hint, rfl⟩
    obtain ⟨accepted, encoded⟩ :=
      (Envelope.decode_parse_eq_ok_iff free.canonical).mp ⟨raw, decodes, parses⟩
    exact ⟨peer, tag, extra, known, accepted,
      fun isWormhole => Envelope.exists_parseTransceiver_hint_iff.mp (hint isWormhole), encoded⟩
  · rintro ⟨peer, tag, extra, known, accepted, hint, encoded⟩
    obtain ⟨raw, decodes, parses⟩ :=
      (Envelope.decode_parse_eq_ok_iff free.canonical).mpr ⟨accepted, encoded⟩
    exact ⟨tag, raw, _, peer, decodes, parses, known, rfl, rfl,
      fun isWormhole => Envelope.exists_parseTransceiver_hint_iff.mpr (hint isWormhole), rfl⟩

/-- **The checks let through exactly the legitimate attestations**, and what they give is the
transfer that is attested. -/
theorem validate_iff_legitimate {transfer : ValidTransfer} :
    m.validate attestation = .ok transfer ↔ m.Legitimate attestation transfer := by
  rw [validate_eq_ok_iff]
  constructor
  · rintro ⟨fromChain, active, emitter, message, absent, addressed, worth⟩
    have fresh : m.inbox.find? ⟨attestation.emitterChain, transfer.message.id⟩ = none :=
      fromChain ▸ absent
    exact ⟨active, fromChain, emitter, messageOf_eq_ok_iff.mp message, addressed, fresh, worth⟩
  · rintro ⟨active, fromChain, emitter, delivered, addressed, fresh, worth⟩
    have absent : m.inbox.find? transfer.key = none := by
      rw [ValidTransfer.key, fromChain]
      exact fresh
    exact ⟨fromChain, active, emitter, messageOf_eq_ok_iff.mpr delivered, absent,
      addressed, worth⟩

end Manager

end TokenTransfer
