import TokenTransfer.Proofs.Manager.Provenance

/-!
# Exactly-once publication

A transfer takes a number that no other transfer has, its item stays in the outbox under that number,
and it is announced at most once, with all that the item says.  Ids of announcements are numbers of
items, so no two announcements have the same id: if they had, the other side would take the second
for a repetition of the first, and its recipient would never be paid.

Both halves are instances of one argument (`Lasting.nodup_told`): a number that was given out is
marked by the item that stands under it, and an id that was announced by the item that is released.

## Main definitions

* `Event.published?` - the number of the transfer that an event has announced
* `Carries` - an announcement says all that its item says
* `PublishedOnce` - the statement about a run, in parts
-/

namespace TokenTransfer

/-- Items that are not released are told apart by what else there is in them. -/
theorem OutboxItem.eq_of_unreleased {item item' : OutboxItem} {released released' : Bool}
    (same : { item with released := released } = { item' with released := released' })
    (unreleased : item.released = false) (unreleased' : item'.released = false) : item = item' := by
  obtain ⟨_, _, _, _, _, _, _⟩ := item
  obtain ⟨_, _, _, _, _, _, _⟩ := item'
  cases same
  cases unreleased
  cases unreleased'
  rfl

namespace Manager

variable {m m' : Manager}

/-! ### What is told of the outbox -/

/-- The number that a transfer was given. -/
def Effect.number? : Effect → Option UInt64
  | sent item => some item.sequence
  | _ => none

/-- The id of the message that was announced. -/
def Effect.id? : Effect → Option MessageId
  | announced announcement => some announcement.managerPayload.id
  | _ => none

/-- The number of the transfer that an operation is to publish. -/
def Operation.number? : Operation → Option UInt64
  | publish sequence _ => some sequence
  | _ => none

/-- The number of the transfer that an event has published; none if the operation was refused. -/
def Event.published? (e : Event) : Option UInt64 :=
  match e.outcome with
  | .ok _ => e.operation.number?
  | .error _ => none

/-- **An announcement says all that its item says**: besides what the manager announces, the
transceiver is given the hint. -/
structure Carries (announcement : Announcement) (sequence : UInt64) (item : OutboxItem) : Prop
    extends Announces announcement.managerPayload sequence item where
  hint : announcement.transceiverPayload = item.hint

/-- What a manager announces of an item is all that the item says. -/
theorem carries_announcement (m : Manager) (peer : Peer) (sequence : UInt64) (item : OutboxItem) :
    Carries (m.announcement peer sequence item) sequence item where
  id := rfl
  sender := rfl
  amount := rfl
  recipient := rfl
  recipientChain := rfl
  hint := rfl

/-! ### What events tell -/

namespace Event

variable (e : Event)

/-- A transfer that succeeds has one effect. -/
theorem effects_of_sent {request : TransferRequest} {now : Timestamp} {item : OutboxItem}
    (transfers : e.operation = .transfer request now) (sent : e.outcome = .ok (.sent item)) :
    e.effects = [.sent item] := by
  rw [effects, sent, transfers]
  rfl

variable {sequence : UInt64} {now : Timestamp} {announcement : Announcement}
  (publishes : e.operation = .publish sequence now)
  (announced : e.outcome = .ok (.announced announcement))

include publishes announced

/-- A publication that succeeds has one effect. -/
theorem effects_of_announced : e.effects = [.announced announcement] := by
  rw [effects, announced, publishes]
  rfl

/-- It has published the number it was given. -/
theorem published?_of_announced : e.published? = some sequence := by
  rw [published?, announced, publishes]
  rfl

end Event

/-! ### Sending and publishing -/

/-- A transfer gets a number that is not in use, and is stored under it. -/
theorem Step.sent {item : OutboxItem} {amount : UInt64} (step : Step m (.send item amount) m')
    (numbered : m.Numbered) :
    m.outbox.find? item.sequence = none ∧ m'.outbox.find? item.sequence = some item ∧
      item.released = false := by
  cases step with
  | send number unreleased known decimals worth takes =>
      rw [number]
      exact ⟨numbered.next_absent, Table.find?_insert_self _ _ _, unreleased⟩

/-- **A publication releases an item that is due**, and announces it to the peer on its
destination. -/
theorem Step.published {sequence : UInt64} {announcement : Announcement} {now : Timestamp}
    (step : Step m (.announce sequence announcement now) m') :
    ∃ item peer, m.outbox.find? sequence = some item ∧ item.released = false ∧
      item.releaseTime ≤ now ∧ m.peers.find? item.recipient.chain = some peer ∧
      announcement = m.announcement peer sequence item ∧
      m'.outbox.find? sequence = some { item with released := true } := by
  cases step with
  | @announce _ item peer _ found unreleased due known =>
      exact ⟨item, peer, found, unreleased, Int64.not_lt.mp due, known, rfl,
        Table.find?_insert_self _ _ _⟩

/-! ### Numbers and ids are told once -/

/-- **Numbers are given once.** -/
theorem Lasting.nodup_numbers {moves : List Move} (lasting : Lasting m moves m') :
    ((moves.filterMap Move.effect?).filterMap Effect.number?).Nodup := by
  refine (lasting.nodup_told (P := fun m sequence =>
    ∃ item, m.outbox.find? sequence = some item) ?_ ?_).1
  · intro m m' move sequence numbered step told
    cases move with
    | send item amount =>
        cases told
        obtain ⟨absent, stored, -⟩ := step.sent numbered
        refine ⟨?_, item, stored⟩
        rintro ⟨other, found⟩
        cases absent.symm.trans found
    | receive | pay | announce | mint | fund | configure => cases told
  · rintro m m' move sequence numbered step ⟨item, found⟩
    obtain ⟨released, found', -⟩ := step.outbox_kept numbered found
    exact ⟨_, found'⟩

/-- **Ids are announced once.**  An id is the number of an item in 32 bytes, and that item was not
released before. -/
theorem Lasting.nodup_ids {moves : List Move} (lasting : Lasting m moves m') :
    ((moves.filterMap Move.effect?).filterMap Effect.id?).Nodup := by
  refine (lasting.nodup_told (P := fun m id => ∃ sequence item, id = .ofSequence sequence ∧
    m.outbox.find? sequence = some item ∧ item.released = true) ?_ ?_).1
  · intro m m' move id numbered step told
    cases move with
    | announce sequence announcement now =>
        cases told
        obtain ⟨item, peer, found, unreleased, -, -, rfl, stored⟩ := step.published
        refine ⟨?_, sequence, _, rfl, stored, rfl⟩
        rintro ⟨other, item', same, found', released⟩
        rw [← MessageId.ofSequence_inj same, found] at found'
        cases found'
        cases unreleased.symm.trans released
    | receive | pay | send | mint | fund | configure => cases told
  · rintro m m' move id numbered step ⟨sequence, item, same, found, released⟩
    obtain ⟨released', found', stays⟩ := step.outbox_kept numbered found
    exact ⟨sequence, _, same, found', stays released⟩

/-! ### Publications -/

/-- **An event announces nothing, or it is a publication**, whose announcement is its only effect. -/
theorem Event.silent_or_publishes (e : Event) (balanced : e.before.ledger.Balanced) :
    (e.published? = none ∧ ∀ announcement, .announced announcement ∉ e.effects) ∨
      ∃ sequence announcement now, e.operation = .publish sequence now ∧
        e.published? = some sequence ∧ e.effects = [.announced announcement] ∧
        Step e.before (.announce sequence announcement now) e.after := by
  obtain ⟨before, operation⟩ := e
  rcases Event.refused_or_does ⟨before, operation⟩ balanced with
    ⟨fault, refused, -⟩ | ⟨reply, replied, does⟩
  · rw [Event.published?, Event.effects, refused]
    exact .inl ⟨rfl, fun announcement => List.not_mem_nil⟩
  · rw [Event.published?, Event.effects, replied]
    generalize Event.after ⟨before, operation⟩ = after at does
    have others {payouts : List Payout} (announcement : Announcement) :
        .announced announcement ∉ payouts.map Effect.paid := by
      rw [List.mem_map]
      rintro ⟨payout, -, same⟩
      cases same
    cases does with
    | publish step => exact .inr ⟨_, _, _, rfl, rfl, rfl, step⟩
    | redeem validates accepted => exact .inl ⟨rfl, others⟩
    | redeemBatch rehearsed accepted => exact .inl ⟨rfl, others⟩
    | _ => exact .inl ⟨rfl, fun announcement => by simp [Operation.effects]⟩

/-- The ids that a run has announced are the numbers that it has published, in 32 bytes. -/
theorem ids_eq (balanced : m.ledger.Balanced) (run : List Operation) :
    (m.effects run).filterMap Effect.id? =
      ((m.events run).filterMap Event.published?).map .ofSequence := by
  induction run generalizing m with
  | nil => rfl
  | cons operation rest ih =>
      have ih := ih (Event.balanced_after ⟨m, operation⟩ balanced)
      rw [effects_cons, List.filterMap_append, ih, events]
      rcases Event.silent_or_publishes ⟨m, operation⟩ balanced with
        ⟨published, silent⟩ | ⟨sequence, announcement, now, -, published, effects, step⟩
      · have none : (Event.effects ⟨m, operation⟩).filterMap Effect.id? = [] := by
          rw [List.filterMap_eq_nil_iff]
          intro effect mem
          cases effect with
          | announced announcement => exact absurd mem (silent announcement)
          | sent | paid | minted | funded => rfl
        rw [none, List.filterMap_cons_none published]
        rfl
      · have one : (Event.effects ⟨m, operation⟩).filterMap Effect.id? = [.ofSequence sequence] := by
          obtain ⟨item, peer, -, -, -, -, rfl, -⟩ := step.published
          rw [effects]
          rfl
        rw [one, List.filterMap_cons_some published]
        rfl

/-- What an event has announced was in the outbox under the number that it has published. -/
theorem Event.published_of_mem (e : Event) (balanced : e.before.ledger.Balanced)
    {announcement : Announcement} (announced : .announced announcement ∈ e.effects) :
    ∃ sequence item, e.published? = some sequence ∧
      e.before.outbox.find? sequence = some item ∧ item.released = false ∧
      e.after.outbox.find? sequence = some { item with released := true } ∧
      Carries announcement sequence item := by
  rcases e.silent_or_publishes balanced with
    ⟨-, silent⟩ | ⟨sequence, announcement', now, -, published, effects, step⟩
  · exact absurd announced (silent announcement)
  · rw [effects] at announced
    cases List.mem_singleton.mp announced
    obtain ⟨item, peer, found, unreleased, -, -, rfl, released⟩ := step.published
    exact ⟨sequence, item, published, found, unreleased, released,
      carries_announcement e.before peer sequence item⟩

/-! ### Runs -/

section Runs

variable {run : List Operation} (balanced : m.ledger.Balanced) (numbered : m.Numbered)
  (fits : m.nextSequence.toNat + ((m.effects run).map Effect.sends).sum < 2 ^ 64)

include balanced numbered fits

/-- Numbers last from every point of a run to its end. -/
theorem exists_lasting_of_eq_append {earlier later : List Operation}
    (split : run = earlier ++ later) :
    ∃ moves, Lasting (m.after earlier) moves (m.after run) := by
  subst split
  rw [effects_append, List.map_append, List.sum_append] at fits
  obtain ⟨_, before, -, issued⟩ := exists_lasting balanced earlier numbered (by omega)
  have balanced' := invariant balanced earlier (fun step => step.balanced) balanced
  obtain ⟨moves, lasting, -⟩ := exists_lasting balanced' later before.numbered (by omega)
  rw [after_append]
  exact ⟨moves, lasting⟩

variable {e : Event} (mem : e ∈ m.events run)

include mem

/-- What was sent is stored under a number that was not in use. -/
theorem stored_of_sent {item : OutboxItem} (sent : .sent item ∈ e.effects) :
    e.before.outbox.find? item.sequence = none ∧
      e.after.outbox.find? item.sequence = some item ∧ item.released = false := by
  obtain ⟨balanced', -⟩ := before_of_mem_events balanced mem
  obtain ⟨amount, step⟩ := e.sent_of_mem balanced' sent
  obtain ⟨earlier, later, split, before⟩ := exists_before_of_mem_events mem
  obtain ⟨_, lasting⟩ := exists_lasting_of_eq_append balanced numbered fits split
  exact step.sent (before ▸ lasting.numbered_before)

/-- What is in the outbox after an event is in it at the end of the run. -/
theorem outbox_kept_after {sequence : UInt64} {item : OutboxItem}
    (found : e.after.outbox.find? sequence = some item) :
    ∃ released, (m.after run).outbox.find? sequence = some { item with released } := by
  obtain ⟨earlier, later, split, before⟩ := exists_before_of_mem_events mem
  have upTo : m.after (earlier ++ [e.operation]) = e.after := by
    rw [after_append, ← before]
    rfl
  rw [List.append_cons] at split
  obtain ⟨_, lasting⟩ := exists_lasting_of_eq_append balanced numbered fits split
  rw [upTo] at lasting
  obtain ⟨released, found', -⟩ := lasting.outbox_kept found
  exact ⟨released, found'⟩

/-- **What is published under the number of a transfer is that transfer**, and it is due. -/
theorem published_of_sent {item : OutboxItem} (sent : .sent item ∈ e.effects) {e' : Event}
    (mem' : e' ∈ m.events run) (published : e'.published? = some item.sequence) :
    ∃ peer now, e'.operation = .publish item.sequence now ∧ item.releaseTime ≤ now ∧
      e'.before.peers.find? item.recipient.chain = some peer ∧
      e'.effects = [.announced (e'.before.announcement peer item.sequence item)] := by
  obtain ⟨balanced', -⟩ := before_of_mem_events balanced mem'
  rcases e'.silent_or_publishes balanced' with
    ⟨silent, -⟩ | ⟨sequence, announcement, now, operation, published', effects, step⟩
  · cases silent.symm.trans published
  · cases published'.symm.trans published
    obtain ⟨item', peer, -, unreleased', due, known, rfl, released⟩ := step.published
    obtain ⟨-, stored, unreleased⟩ := stored_of_sent balanced numbered fits mem sent
    -- Both items are the one that is in the outbox at the end of the run.
    obtain ⟨_, found⟩ := outbox_kept_after balanced numbered fits mem stored
    obtain ⟨_, found'⟩ := outbox_kept_after balanced numbered fits mem' released
    have same : item = item' :=
      OutboxItem.eq_of_unreleased (Option.some.inj (found.symm.trans found')) unreleased unreleased'
    subst same
    exact ⟨peer, now, operation, due, known, effects⟩

end Runs

/-- **Exactly-once publication** over a run. -/
structure PublishedOnce (m : Manager) (run : List Operation) : Prop where
  /-- A transfer gets a number that is not in use, and is stored under it. -/
  stored : ∀ e ∈ m.events run, ∀ item, .sent item ∈ e.effects →
    e.before.outbox.find? item.sequence = none ∧
      e.after.outbox.find? item.sequence = some item
  /-- No two transfers get the same number. -/
  numbers : ((m.effects run).filterMap Effect.number?).Nodup
  /-- An item stays for good, and nothing in it changes but that it is released. -/
  kept : ∀ earlier later, run = earlier ++ later → ∀ sequence item,
    (m.after earlier).outbox.find? sequence = some item →
    ∃ released, (m.after run).outbox.find? sequence = some { item with released } ∧
      (item.released = true → released = true)
  /-- No transfer is published twice. -/
  once : ((m.events run).filterMap Event.published?).Nodup
  /-- No two announcements have the same id. -/
  ids : ((m.effects run).filterMap Effect.id?).Nodup
  /-- A publication releases the item and says all of it. -/
  carries : ∀ e ∈ m.events run, ∀ announcement, .announced announcement ∈ e.effects →
    ∃ sequence item, e.published? = some sequence ∧
      e.before.outbox.find? sequence = some item ∧ item.released = false ∧
      e.after.outbox.find? sequence = some { item with released := true } ∧
      Carries announcement sequence item

section Start

variable (settings : Settings) (outboundLimit : UInt64) (now : Timestamp) (run : List Operation)

/-- **Exactly-once publication.**  It holds of every run of a new manager, whatever the operations
and their times.

A counter of numbers that runs over stops the program, so a run has sent fewer than `2 ^ 64`
transfers. -/
theorem published_once
    (fits : (((start settings outboundLimit now).effects run).map Effect.sends).sum < 2 ^ 64) :
    PublishedOnce (start settings outboundLimit now) run := by
  have balanced := balanced_start settings outboundLimit now
  have numbered := numbered_start settings outboundLimit now
  have fits := fits_start settings outboundLimit now fits
  obtain ⟨moves, lasting, effects, -⟩ := exists_lasting balanced run numbered fits
  have ids := lasting.nodup_ids
  rw [effects] at ids
  refine ⟨?_, effects ▸ lasting.nodup_numbers, ?_, ?_, ids, ?_⟩
  · intro e mem item sent
    obtain ⟨absent, stored, -⟩ := stored_of_sent balanced numbered fits mem sent
    exact ⟨absent, stored⟩
  · intro earlier later split sequence item found
    obtain ⟨moves, lasting⟩ := exists_lasting_of_eq_append balanced numbered fits split
    exact lasting.outbox_kept found
  · rw [ids_eq balanced run] at ids
    exact ids.of_map
  · intro e mem announcement announced
    obtain ⟨balanced', -⟩ := before_of_mem_events balanced mem
    exact e.published_of_mem balanced' announced

end Start

/-- The one transfer of the sample is announced once, and a second attempt is refused. -/
theorem published_once_of_sample :
    PublishedOnce (start sampleSource 5000000000 0) (sampleRun ++ [.publish 0 1]) ∧
      ((start sampleSource 5000000000 0).events (sampleRun ++ [.publish 0 1])).filterMap
        Event.published? = [0] :=
  ⟨published_once sampleSource 5000000000 0 _ (by decide +kernel), by decide +kernel⟩

end Manager

end TokenTransfer
