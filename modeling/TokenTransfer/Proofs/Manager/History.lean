import TokenTransfer.Proofs.Manager.ExactlyOnce

/-!
# What the inbox tells of the past

An entry of the inbox is there exactly because an attestation of its key was redeemed, and it is
released exactly because it was paid.  An attestation is said to name a key by its bytes alone
(`Attestation.Names`): nothing has to be known of who has sent it, of what is in its message or of
whether it would be accepted.  So what names a key can be asked about before and after.

## Main definitions

* `Attestation.Names` - the key that an attestation is about, by its bytes

## Main statements

* `Event.contains_iff`, `Event.isPaid_iff` - what an event changes in what the inbox tells
-/

namespace TokenTransfer

/-! ### Names -/

/-- **An attestation names a key**: it is from the chain of the key, and its payload is an envelope
under one of `tags` around a message with the id of the key, whatever else is in it. -/
structure Attestation.Names (attestation : Attestation) (tags : List Tag) (key : TransferKey) :
    Prop where
  fromChain : attestation.emitterChain = key.chain
  written : ∃ tag ∈ tags, ∃ envelope : Envelope (ManagerMessage Bytes) Bytes,
    @Envelope.encode (.manager .raw) .raw tag envelope = .ok attestation.payload ∧
      envelope.managerPayload.id = key.id

namespace Attestation

variable {attestation : Attestation} {tags : List Tag} {key key' : TransferKey}

/-- What an attestation names is read from it. -/
theorem names_iff_reads :
    attestation.Names tags key ↔
      ∃ tag raw envelope,
        Envelope.decode .raw .raw attestation.payload tags = .ok (tag, raw) ∧
        raw.parseManager (.manager .raw) = .ok envelope ∧
        key = ⟨attestation.emitterChain, envelope.managerPayload.id⟩ := by
  have free : (Shape.manager .raw).HintFree := trivial
  constructor
  · rintro ⟨fromChain, tag, known, envelope, encodes, id⟩
    obtain ⟨raw, decodes, parses⟩ :=
      (Envelope.decode_parse_eq_ok_iff free.canonical).mpr ⟨known, encodes⟩
    refine ⟨tag, raw, envelope, decodes, parses, ?_⟩
    rw [fromChain, id]
  · rintro ⟨tag, raw, envelope, decodes, parses, rfl⟩
    obtain ⟨known, encodes⟩ :=
      (Envelope.decode_parse_eq_ok_iff free.canonical).mp ⟨raw, decodes, parses⟩
    exact ⟨rfl, tag, known, envelope, encodes, rfl⟩

/-- An attestation names one key. -/
theorem Names.key_eq (names : attestation.Names tags key) (names' : attestation.Names tags key') :
    key = key' := by
  obtain ⟨tag, raw, envelope, decodes, parses, rfl⟩ := names_iff_reads.mp names
  obtain ⟨tag', raw', envelope', decodes', parses', rfl⟩ := names_iff_reads.mp names'
  cases decodes.symm.trans decodes'
  cases parses.symm.trans parses'
  rfl

end Attestation

namespace Manager

variable {m m' : Manager}

/-- What passes the checks names its transfer. -/
theorem names_of_validate {attestation : Attestation} {transfer : ValidTransfer}
    (validates : m.validate attestation = .ok transfer) :
    attestation.Names m.settings.tags transfer.key := by
  have valid := validated_of_validate validates
  obtain ⟨peer, tag, extra, delivers⟩ := messageOf_eq_ok_iff.mp valid.message
  obtain ⟨bytes, writes, encodes⟩ := Envelope.encode_eq_ok_iff_raw.mp delivers.encoded
  obtain ⟨inner, writesRaw⟩ := Shape.exists_encode_manager_raw writes
  let envelope : Envelope (ManagerMessage Bytes) Bytes :=
    { source := peer.manager
      recipient := m.settings.manager
      managerPayload := ⟨transfer.message.id, transfer.message.sender, inner⟩
      transceiverPayload := extra }
  have encodesRaw : @Envelope.encode (.manager .raw) .raw tag envelope = .ok attestation.payload :=
    Envelope.encode_eq_ok_iff_raw.mpr ⟨bytes, writesRaw, encodes⟩
  exact ⟨valid.fromChain.symm, tag, delivers.accepted, envelope, encodesRaw, rfl⟩

/-- Attestations that pass the checks name the keys of their transfers and no others. -/
theorem exists_names_iff {attestations : List Attestation} {transfers : List ValidTransfer}
    (valid : List.Forall₂ (fun attestation transfer => m.validate attestation = .ok transfer)
      attestations transfers) (key : TransferKey) :
    (∃ attestation ∈ attestations, attestation.Names m.settings.tags key) ↔
      ∃ transfer ∈ transfers, transfer.key = key := by
  induction valid with
  | nil => simp
  | @cons attestation transfer _ _ validates _ ih =>
      have names := names_of_validate validates
      have named : attestation.Names m.settings.tags key ↔ transfer.key = key :=
        ⟨fun names' => names.key_eq names', fun same => same ▸ names⟩
      rw [List.exists_mem_cons_iff, List.exists_mem_cons_iff, ih, named]

/-- Each of them names some key. -/
theorem exists_names_of_mem {attestations : List Attestation} {transfers : List ValidTransfer}
    (valid : List.Forall₂ (fun attestation transfer => m.validate attestation = .ok transfer)
      attestations transfers) {attestation : Attestation} (mem : attestation ∈ attestations) :
    ∃ key, attestation.Names m.settings.tags key := by
  induction valid with
  | nil => cases mem
  | cons validates _ ih =>
      rcases List.mem_cons.mp mem with rfl | mem
      · exact ⟨_, names_of_validate validates⟩
      · exact ih mem

/-! ### Moves -/

/-- What a step changes only where its move says so, a trace does too. -/
theorem Trace.iff_exists {holds : Manager → Prop} {tells : Move → Prop}
    (step_iff : ∀ {m m' : Manager} {move : Move}, Step m move m' → (holds m' ↔ holds m ∨ tells move))
    {moves : List Move} (trace : Trace m moves m') :
    holds m' ↔ holds m ∨ ∃ move ∈ moves, tells move := by
  induction trace with
  | nil => simp
  | cons step _ ih => rw [ih, step_iff step, List.exists_mem_cons_iff, or_assoc]

/-- A key enters the inbox with the transfer that is taken in under it. -/
theorem Step.contains_iff {move : Move} (step : Step m move m') (key : TransferKey) :
    m'.inbox.contains key ↔ m.inbox.contains key ∨
      ∃ transfer, move.received? = some transfer ∧ transfer.key = key := by
  cases step with
  | @receive transfer _ _ _ absent suits =>
      rw [Table.contains_insert_iff]
      constructor
      · rintro (rfl | known)
        · exact .inr ⟨transfer, rfl, rfl⟩
        · exact .inl known
      · rintro (known | ⟨_, ⟨⟩, rfl⟩)
        · exact .inr known
        · exact .inl rfl
  | @pay key' item _ _ _ found waits due pays =>
      have known : m.inbox.contains key' := Table.contains_iff.mpr ⟨item, found⟩
      rw [Table.contains_insert_iff]
      constructor
      · rintro (rfl | known')
        · exact .inl known
        · exact .inl known'
      · rintro (known' | ⟨_, received, -⟩)
        · exact .inr known'
        · cases received
  | send | announce | mint | fund | configure => simp [Move.received?]

/-- An effect that counts for a key is a payout under it. -/
theorem Effect.pays_ne_zero_iff {key : TransferKey} {effect : Effect} :
    effect.pays key ≠ 0 ↔ ∃ payout, effect = .paid payout ∧ payout.key = key := by
  cases effect with
  | paid payout => simp [pays]
  | sent | announced | minted | funded => simp [pays]

/-- A key is paid by the payout that is made under it. -/
theorem Step.isPaid_iff {move : Move} (step : Step m move m') (key : TransferKey) :
    m'.isPaid key ↔ m.isPaid key ∨
      ∃ payout, move.effect? = some (.paid payout) ∧ payout.key = key := by
  have counted := step.isPaid key
  have paid (flag : Bool) : flag = true ↔ flag.toNat ≠ 0 := by cases flag <;> decide
  rw [paid, paid, counted]
  cases effect : move.effect? with
  | none => simp
  | some value =>
      have pays := @Effect.pays_ne_zero_iff key value
      simp only [Option.elim_some, Option.some.injEq]
      rw [← pays]
      omega

/-- **What is seen waiting** is what is in the inbox and was not paid. -/
theorem InboxSound.isSome_queued_iff (sound : m.InboxSound) (key : TransferKey) :
    ((m.inbox.find? key).bind InboxItem.queued).isSome ↔ m.inbox.contains key ∧ ¬ m.isPaid key := by
  unfold isPaid
  rw [Table.contains_iff]
  cases found : m.inbox.find? key with
  | none => simp
  | some item =>
      have approved := (sound key item found).approved
      cases status : item.status with
      | notApproved => exact absurd status approved
      | releaseAfter time => simp [InboxItem.queued, status]
      | released => simp [InboxItem.queued, status]

/-! ### Events -/

/-- **A key enters the inbox** exactly in an event that redeems an attestation of it, and stays. -/
theorem Event.contains_iff (e : Event) (balanced : e.before.ledger.Balanced) (key : TransferKey) :
    e.after.inbox.contains key ↔ e.before.inbox.contains key ∨
      (∃ reply, e.outcome = .ok reply) ∧
        ∃ attestation ∈ e.operation.attestations,
          attestation.Names e.before.settings.tags key := by
  rcases e.refused_or_explained balanced with
    ⟨fault, refused, same, -⟩ | ⟨reply, moves, replied, -, explains⟩
  · rw [same]
    simp [refused]
  · have received := exists_names_iff explains.received key
    simp only [List.mem_filterMap] at received
    rw [explains.trace.iff_exists fun step => step.contains_iff key, received]
    refine or_congr_right ⟨?_, ?_⟩
    · rintro ⟨move, mem, transfer, takes, keyed⟩
      exact ⟨⟨reply, replied⟩, transfer, ⟨move, mem, takes⟩, keyed⟩
    · rintro ⟨-, transfer, ⟨move, mem, takes⟩, keyed⟩
      exact ⟨move, mem, transfer, takes, keyed⟩

/-- Whatever was redeemed names a key. -/
theorem Event.exists_names (e : Event) (balanced : e.before.ledger.Balanced) {reply : Reply}
    (replied : e.outcome = .ok reply) {attestation : Attestation}
    (mem : attestation ∈ e.operation.attestations) :
    ∃ key, attestation.Names e.before.settings.tags key := by
  rcases e.refused_or_explained balanced with
    ⟨fault, refused, -, -⟩ | ⟨reply, moves, -, -, explains⟩
  · cases refused.symm.trans replied
  · exact exists_names_of_mem explains.received mem

/-- **A key is paid** exactly in an event that pays it, and stays so. -/
theorem Event.isPaid_iff (e : Event) (balanced : e.before.ledger.Balanced) (key : TransferKey) :
    e.after.isPaid key ↔ e.before.isPaid key ∨
      ∃ payout, .paid payout ∈ e.effects ∧ payout.key = key := by
  rcases e.refused_or_explained balanced with
    ⟨fault, refused, same, none⟩ | ⟨reply, moves, replied, effects, explains⟩
  · rw [same, none]
    simp
  · rw [explains.trace.iff_exists fun step => step.isPaid_iff key, effects, ← explains.effects]
    simp only [List.mem_filterMap]
    refine or_congr_right ⟨?_, ?_⟩
    · rintro ⟨move, mem, payout, paid, keyed⟩
      exact ⟨payout, ⟨move, mem, paid⟩, keyed⟩
    · rintro ⟨payout, ⟨move, mem, paid⟩, keyed⟩
      exact ⟨move, mem, payout, paid, keyed⟩

/-- **How a payout comes about**: a transfer is redeemed and paid at once, alone or in a batch, or it
has waited in the inbox. -/
inductive Event.Pays (e : Event) (payout : Payout) : Prop
  | redeemed {attestation : Attestation} {now : Timestamp}
      (redeems : e.operation = .redeem attestation now)
      (told : (redeem attestation now).outcome e.before = .ok (.released payout))
  | redeemedAll {attestations : List Attestation} {now : Timestamp}
      {redemptions : List Redemption} (redeems : e.operation = .redeemBatch attestations now)
      (told : (redeemBatch attestations now).outcome e.before = .ok redemptions)
      (paid : .released payout ∈ redemptions)
  | completed {key : TransferKey} {now : Timestamp} (pays : e.operation = .payOut key now)
      (told : (payOut key now).outcome e.before = .ok payout)

/-- **A payout comes about in no other way.** -/
theorem Event.pays_of_paid {e : Event} {payout : Payout} (paid : .paid payout ∈ e.effects) :
    e.Pays payout := by
  obtain ⟨m, operation⟩ := e
  unfold effects at paid
  generalize replies : outcome ⟨m, operation⟩ = result at paid
  cases result with
  | error fault => cases paid
  | ok reply =>
      cases operation
      all_goals
        rw [outcome, Operation.perform, Fallible.runOn_map] at replies
        dsimp only at replies
        obtain ⟨answer, told, rfl⟩ := Outcome.map_eq_ok_iff.mp replies
      case redeem attestation now =>
        cases answer with
        | released payout' =>
            cases List.mem_singleton.mp paid
            exact .redeemed rfl told
        | queued view => cases paid
      case redeemBatch attestations now =>
        obtain ⟨payout', mem, same⟩ := List.mem_map.mp paid
        cases same
        obtain ⟨redemption, mem, payouts⟩ := List.mem_flatMap.mp mem
        cases redemption with
        | released payout' =>
            cases List.mem_singleton.mp payouts
            exact .redeemedAll rfl told mem
        | queued view => cases payouts
      case payOut key now =>
        cases List.mem_singleton.mp paid
        exact .completed rfl told
      case transfer | publish | mint | fundCustody => cases List.mem_singleton.mp paid
      case setPeer | setTransceiverPeer | setOutboundLimit | setInboundLimit | setPaused => cases paid

/-- In each of these ways a payout is made. -/
theorem Event.Pays.paid {e : Event} {payout : Payout} (pays : e.Pays payout) :
    .paid payout ∈ e.effects := by
  obtain ⟨m, operation⟩ := e
  have replies {α : Type} {action : Action α} {reply : α → Reply} {a : α}
      (performs : operation.perform = reply <$> action) (told : action.outcome m = .ok a) :
      effects ⟨m, operation⟩ = operation.effects (reply a) := by
    have outcome : outcome ⟨m, operation⟩ = .ok (reply a) := by
      rw [outcome, performs, Fallible.runOn_map]
      exact Outcome.map_eq_ok_iff.mpr ⟨a, told, rfl⟩
    rw [effects, outcome]
  cases pays with
  | redeemed redeems told =>
      cases redeems
      rw [replies rfl told]
      exact List.mem_singleton_self _
  | redeemedAll redeems told mem =>
      cases redeems
      rw [replies rfl told]
      exact List.mem_map.mpr ⟨payout, List.mem_flatMap.mpr ⟨_, mem, List.mem_singleton_self _⟩, rfl⟩
  | completed pays told =>
      cases pays
      rw [replies rfl told]
      exact List.mem_singleton_self _

/-- A payout that is not refused is made. -/
theorem exists_of_event_payOut {key : TransferKey} {now : Timestamp} {reply : Reply}
    (replied : Event.outcome ⟨m, .payOut key now⟩ = .ok reply) :
    ∃ payout, (payOut key now).outcome m = .ok payout := by
  rw [Event.outcome, Operation.perform, Fallible.runOn_map] at replied
  obtain ⟨payout, told, -⟩ := Outcome.map_eq_ok_iff.mp replied
  exact ⟨payout, told⟩

/-- A payout that was asked for is one of the key. -/
theorem key_of_payOut {key : TransferKey} {now : Timestamp} {payout : Payout}
    (told : (payOut key now).outcome m = .ok payout) : payout.key = key := by
  obtain ⟨item, -, rfl, -⟩ := exists_of_payOut (Prod.ext told rfl)
  rfl

end Manager

end TokenTransfer
