import TokenTransfer.Proofs.Manager.ExactlyOnce
import TokenTransfer.Proofs.Manager.Numbering

/-!
# Where entries come from

Every entry of an inbox was attested, every item of an outbox was sent, and every announcement is
that of a released item.  These are the facts about one manager that a statement about two of them
needs.

## Main statements

* `exists_attested` - an entry of the inbox comes from an attestation that has passed the checks
* `exists_sent` - an item of the outbox was sent in some event
* `exists_released` - what was announced is a released item of the outbox
-/

namespace TokenTransfer

namespace Manager

variable {m m' : Manager}

/-! ### The inbox -/

/-- An entry that is new in the inbox was taken in. -/
theorem Step.exists_received {move : Move} (step : Step m move m') {key : TransferKey}
    {item : InboxItem} (absent : m.inbox.find? key = none)
    (found : m'.inbox.find? key = some item) :
    ∃ transfer time, move.received? = some transfer ∧ transfer.key = key ∧
      item = transfer.entry time := by
  cases step with
  | @receive transfer time _ _ absent' suits =>
      rcases Table.find?_insert_eq_some found with ⟨rfl, rfl⟩ | ⟨-, found⟩
      · exact ⟨transfer, time, rfl, rfl, rfl⟩
      · cases absent.symm.trans found
  | pay found' waits due pays =>
      rcases Table.find?_insert_eq_some found with ⟨rfl, -⟩ | ⟨-, found⟩
      · cases absent.symm.trans found'
      · cases absent.symm.trans found
  | send | announce | mint | fund | configure => cases absent.symm.trans found

/-- An entry that is new in the inbox was taken in, and only its status may have changed since. -/
theorem Trace.exists_received {moves : List Move} (trace : Trace m moves m') {key : TransferKey}
    {item : InboxItem} (absent : m.inbox.find? key = none)
    (found : m'.inbox.find? key = some item) :
    ∃ transfer time status, transfer ∈ moves.filterMap Move.received? ∧ transfer.key = key ∧
      item = { transfer.entry time with status } := by
  induction trace with
  | nil => cases absent.symm.trans found
  | @cons m m' m'' move moves step rest ih =>
      cases found' : m'.inbox.find? key with
      | none =>
          obtain ⟨transfer, time, status, mem, keyed, same⟩ := ih found' found
          obtain ⟨received, mem, takes⟩ := List.mem_filterMap.mp mem
          exact ⟨transfer, time, status,
            List.mem_filterMap.mpr ⟨received, List.mem_cons_of_mem _ mem, takes⟩, keyed, same⟩
      | some item' =>
          obtain ⟨transfer, time, takes, keyed, rfl⟩ := step.exists_received absent found'
          obtain ⟨status, found'', -⟩ := rest.inbox_kept found'
          exact ⟨transfer, time, status,
            List.mem_filterMap.mpr ⟨move, List.mem_cons_self, takes⟩, keyed,
            Option.some.inj (found.symm.trans found'')⟩

/-- **What is in the inbox was attested.** -/
theorem exists_attested (balanced : m.ledger.Balanced) (run : List Operation) {key : TransferKey}
    {item : InboxItem} (absent : m.inbox.find? key = none)
    (found : (m.after run).inbox.find? key = some item) :
    ∃ e ∈ m.events run, ∃ attestation ∈ e.operation.attestations, ∃ transfer time status,
      e.before.validate attestation = .ok transfer ∧ transfer.key = key ∧
      item = { transfer.entry time with status } := by
  induction run generalizing m with
  | nil => cases absent.symm.trans found
  | cons operation rest ih =>
      have balanced' := Event.balanced_after ⟨m, operation⟩ balanced
      cases found' : (Event.after ⟨m, operation⟩).inbox.find? key with
      | none =>
          obtain ⟨e, mem, attested⟩ := ih balanced' found' found
          exact ⟨e, List.mem_cons_of_mem _ mem, attested⟩
      | some item' =>
          rcases Event.refused_or_explained ⟨m, operation⟩ balanced with
            ⟨fault, -, same, -⟩ | ⟨reply, moves, -, -, explains⟩
          · rw [same] at found'
            cases absent.symm.trans found'
          · obtain ⟨transfer, time, status, mem, keyed, rfl⟩ :=
              explains.trace.exists_received absent found'
            obtain ⟨i, bound, rfl⟩ := List.mem_iff_getElem.mp mem
            have length := explains.received.length_eq
            obtain ⟨status', found'', -⟩ := inbox_kept balanced' rest found'
            exact ⟨⟨m, operation⟩, List.mem_cons_self, _, List.getElem_mem (by omega), _, time,
              status', explains.received.get (by omega) bound, keyed,
              Option.some.inj (found.symm.trans found'')⟩

/-! ### The outbox -/

/-- **A message announces an item** of the outbox under its number. -/
structure Announces (message : ManagerMessage Transfer) (sequence : UInt64) (item : OutboxItem) :
    Prop where
  id : message.id = .ofSequence sequence
  sender : message.sender = item.sender
  amount : message.payload.amount = item.amount
  recipient : message.payload.recipient = item.recipient.address
  recipientChain : message.payload.recipientChain = item.recipient.chain

/-- What was announced is an item of the outbox, now released. -/
theorem Step.announced_stored {move : Move} (step : Step m move m') {announcement : Announcement}
    (announced : move.effect? = some (.announced announcement)) :
    ∃ sequence item, m'.outbox.find? sequence = some item ∧ item.released = true ∧
      Announces announcement.managerPayload sequence item := by
  cases step with
  | @announce sequence item _ _ found unreleased due known =>
      cases announced
      exact ⟨sequence, { item with released := true }, Table.find?_insert_self _ _ _, rfl,
        ⟨rfl, rfl, rfl, rfl, rfl⟩⟩
  | receive | pay | send | mint | fund | configure => cases announced

/-- An item of the outbox was there before, or it was sent. -/
theorem Step.exists_sent {move : Move} (step : Step m move m') {sequence : UInt64}
    {item : OutboxItem} (found : m'.outbox.find? sequence = some item) :
    (∃ released, m.outbox.find? sequence = some { item with released }) ∨
      move.effect? = some (.sent { item with released := false }) := by
  cases step with
  | send number unreleased known decimals worth takes =>
      rcases Table.find?_insert_eq_some found with ⟨rfl, rfl⟩ | ⟨-, found⟩
      · right
        rw [← unreleased]
        rfl
      · exact .inl ⟨item.released, found⟩
  | @announce sequence' item' _ _ found' unreleased due known =>
      rcases Table.find?_insert_eq_some found with ⟨rfl, rfl⟩ | ⟨-, found⟩
      · exact .inl ⟨item'.released, found'⟩
      · exact .inl ⟨item.released, found⟩
  | receive | pay | mint | fund | configure => exact .inl ⟨item.released, found⟩

/-- **An item of the outbox was there before or was sent.** -/
theorem Trace.exists_sent {moves : List Move} (trace : Trace m moves m') {sequence : UInt64}
    {item : OutboxItem} (found : m'.outbox.find? sequence = some item) :
    (∃ released, m.outbox.find? sequence = some { item with released }) ∨
      .sent { item with released := false } ∈ moves.filterMap Move.effect? := by
  induction trace with
  | nil => exact .inl ⟨item.released, found⟩
  | @cons m m' m'' move moves step rest ih =>
      rcases ih found with ⟨released, found'⟩ | mem
      · rcases step.exists_sent found' with earlier | sent
        · exact .inl earlier
        · exact .inr (List.mem_filterMap.mpr ⟨move, List.mem_cons_self, sent⟩)
      · obtain ⟨later, mem, sent⟩ := List.mem_filterMap.mp mem
        exact .inr (List.mem_filterMap.mpr ⟨later, List.mem_cons_of_mem _ mem, sent⟩)

/-- **What is in the outbox was sent.** -/
theorem exists_sent (balanced : m.ledger.Balanced) (run : List Operation) {sequence : UInt64}
    {item : OutboxItem} (absent : m.outbox.find? sequence = none)
    (found : (m.after run).outbox.find? sequence = some item) :
    ∃ e ∈ m.events run, .sent { item with released := false } ∈ e.effects := by
  obtain ⟨moves, trace, effects⟩ := exists_trace balanced run
  rcases trace.exists_sent found with ⟨released, earlier⟩ | sent
  · cases absent.symm.trans earlier
  · rw [effects] at sent
    exact List.mem_flatMap.mp sent

/-- **What was announced is a released item of the outbox.** -/
theorem Lasting.announced_stored {moves : List Move} (lasting : Lasting m moves m')
    {announcement : Announcement}
    (announced : .announced announcement ∈ moves.filterMap Move.effect?) :
    ∃ sequence item, m'.outbox.find? sequence = some item ∧ item.released = true ∧
      Announces announcement.managerPayload sequence item := by
  induction lasting with
  | nil => cases announced
  | @cons m m' m'' move moves numbered step rest ih =>
      obtain ⟨move', mem, effect⟩ := List.mem_filterMap.mp announced
      rcases List.mem_cons.mp mem with rfl | mem
      · obtain ⟨sequence, item, found, released, announces⟩ := step.announced_stored effect
        obtain ⟨released', found', stays⟩ := rest.outbox_kept found
        exact ⟨sequence, { item with released := released' }, found', stays released,
          { announces with }⟩
      · exact ih (List.mem_filterMap.mpr ⟨move', mem, effect⟩)

/-- **What a run has announced is in the outbox**, released. -/
theorem exists_released (balanced : m.ledger.Balanced) (run : List Operation)
    (numbered : m.Numbered)
    (fits : m.nextSequence.toNat + ((m.effects run).map Effect.sends).sum < 2 ^ 64)
    {announcement : Announcement} (announced : .announced announcement ∈ m.effects run) :
    ∃ sequence item, (m.after run).outbox.find? sequence = some item ∧ item.released = true ∧
      Announces announcement.managerPayload sequence item := by
  obtain ⟨moves, lasting, effects, -⟩ := exists_lasting balanced run numbered fits
  rw [← effects] at announced
  exact lasting.announced_stored announced

end Manager

end TokenTransfer
