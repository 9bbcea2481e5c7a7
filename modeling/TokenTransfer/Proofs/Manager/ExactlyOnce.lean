import TokenTransfer.Proofs.Manager.Balances

/-!
# Exactly-once payout

Whatever a manager is asked, and at whatever times, a key is paid at most once.  Two things carry
this: a key that has entered the inbox never leaves it, so no redemption can take it in again, and
the status of its entry only moves forward, so no payout can follow another.

## Main definitions

* `InboxItem.Sound` - what holds of every entry of an inbox
* `ReleaseStatus.Leads` - how a status may change
* `Attestation.key?` - the key that an attestation names, which does not depend on the state
* `ExactlyOnce` - the statement about a run, in parts
-/

namespace TokenTransfer

/-- The status stays, or a payout has come in between. -/
def ReleaseStatus.Leads (before after : ReleaseStatus) : Prop :=
  after = before ∨ (∃ time, before = .releaseAfter time) ∧ after = .released

theorem ReleaseStatus.Leads.trans {a b c : ReleaseStatus} (first : a.Leads b) (second : b.Leads c) :
    a.Leads c := by
  rcases first with rfl | ⟨waited, rfl⟩
  · exact second
  · rcases second with rfl | ⟨⟨time, h⟩, -⟩
    · exact .inr ⟨waited, rfl⟩
    · cases h

/-- **What holds of every entry of an inbox**: it is approved, and its recipient and amount are
those of its message. -/
structure InboxItem.Sound (item : InboxItem) (key : TransferKey) (settings : Settings) : Prop where
  keyed : item.key = key
  approved : item.status ≠ .notApproved
  recipient : item.recipient = item.message.payload.recipient
  addressed : item.message.payload.recipientChain = settings.chain
  worth : item.message.payload.amount.untrim settings.tokenDecimals = .ok item.amount.toNat

/-- The key of the transfer that an attestation names, if it can be read under one of `tags`. -/
def Attestation.key? (attestation : Attestation) (tags : List Tag) : Option TransferKey :=
  match Envelope.decode .raw .raw attestation.payload tags with
  | .error _ => none
  | .ok (_, raw) =>
    match raw.parseManager (.manager .transfer) with
    | .error _ => none
    | .ok envelope => some ⟨attestation.emitterChain, envelope.managerPayload.id⟩

namespace Manager

variable {m m' : Manager}

/-! ### Entries of the inbox -/

/-- All entries of the inbox are sound. -/
def InboxSound (m : Manager) : Prop :=
  ∀ key item, m.inbox.find? key = some item → item.Sound key m.settings

/-- A transfer enters the inbox as its message says, and a payout changes its status alone. -/
theorem Step.inboxSound {move : Move} (step : Step m move m') (sound : m.InboxSound) :
    m'.InboxSound := by
  intro key item found
  cases step with
  | receive absent suits =>
      rcases Table.find?_insert_eq_some found with ⟨rfl, rfl⟩ | ⟨-, found⟩
      · exact ⟨rfl, ReleaseStatus.noConfusion, rfl, suits.addressed, suits.worth⟩
      · exact sound key item found
  | @pay key' item' _ _ _ found' waits due pays =>
      rcases Table.find?_insert_eq_some found with ⟨rfl, rfl⟩ | ⟨-, found⟩
      · exact { sound key item' found' with approved := ReleaseStatus.noConfusion }
      · exact sound key item found
  | configure =>
      exact { sound key item found with }
  | send | announce | mint | fund => exact sound key item found

/-- An entry stays in the inbox as it is, but for its status. -/
theorem Step.inbox_kept {move : Move} (step : Step m move m') {key : TransferKey} {item : InboxItem}
    (found : m.inbox.find? key = some item) :
    ∃ status, m'.inbox.find? key = some { item with status } ∧ item.status.Leads status := by
  cases step with
  | @receive transfer time _ _ absent suits =>
      have differs : key ≠ transfer.key := by
        rintro rfl
        cases absent.symm.trans found
      exact ⟨item.status, by rw [Table.find?_insert_of_ne _ _ differs, found], .inl rfl⟩
  | @pay key' item' time _ _ found' waits due pays =>
      by_cases same : key = key'
      · subst same
        cases found'.symm.trans found
        exact ⟨.released, Table.find?_insert_self _ _ _, .inr ⟨⟨time, waits⟩, rfl⟩⟩
      · exact ⟨item.status, by rw [Table.find?_insert_of_ne _ _ same, found], .inl rfl⟩
  | send | announce | mint | fund | configure => exact ⟨item.status, found, .inl rfl⟩

/-- An entry stays in the inbox over any moves, as it is but for a payout. -/
theorem Trace.inbox_kept {moves : List Move} (trace : Trace m moves m') {key : TransferKey}
    {item : InboxItem} (found : m.inbox.find? key = some item) :
    ∃ status, m'.inbox.find? key = some { item with status } ∧ item.status.Leads status := by
  induction trace generalizing item with
  | nil => exact ⟨item.status, found, .inl rfl⟩
  | cons step _ ih =>
      obtain ⟨status, found', leads⟩ := step.inbox_kept found
      obtain ⟨status', found'', leads'⟩ := ih found'
      exact ⟨status', found'', leads.trans leads'⟩

/-! ### Payouts -/

/-- Whether the transfer under a key was paid. -/
def isPaid (m : Manager) (key : TransferKey) : Bool :=
  (m.inbox.find? key).any fun item => item.status = .released

/-- One for a payout under the key, and zero for any other effect. -/
def Effect.pays (key : TransferKey) : Effect → Nat
  | paid payout => if payout.key = key then 1 else 0
  | _ => 0

/-- A payout is what makes a key paid, and it was not paid before. -/
theorem Step.isPaid {move : Move} (step : Step m move m') (key : TransferKey) :
    (m'.isPaid key).toNat = (m.isPaid key).toNat + move.effect?.elim 0 (Effect.pays key) := by
  cases step with
  | @receive transfer time _ _ absent suits =>
      by_cases same : key = transfer.key
      · subst same
        simp [Manager.isPaid, Move.effect?, absent, ValidTransfer.entry]
      · simp [Manager.isPaid, Move.effect?, Table.find?_insert_of_ne _ _ same]
  | @pay key' item _ _ _ found waits due pays =>
      by_cases same : key = key'
      · subst same
        simp [Manager.isPaid, Move.effect?, Effect.pays, item.key_payout, found, waits]
      · simp [Manager.isPaid, Move.effect?, Effect.pays, item.key_payout,
          Table.find?_insert_of_ne _ _ same, Ne.symm same]
  | send | announce | mint | fund | configure => rfl

/-- What is paid is what the entry under its key says. -/
theorem Step.paid_stored {move : Move} (step : Step m move m') {payout : Payout}
    (paid : move.effect? = some (.paid payout)) :
    ∃ item, m'.inbox.find? payout.key = some item ∧ item.status = .released ∧
      payout = item.payout payout.key := by
  cases step with
  | @pay key item _ _ _ found waits due pays =>
      cases paid
      exact ⟨{ item with status := .released }, Table.find?_insert_self _ _ _, rfl, rfl⟩
  | receive | send | announce | mint | fund | configure => cases paid

/-- What is paid in a trace is what the entry under its key says at the end. -/
theorem Trace.paid_stored {moves : List Move} (trace : Trace m moves m') {payout : Payout}
    (paid : .paid payout ∈ moves.filterMap Move.effect?) :
    ∃ item, m'.inbox.find? payout.key = some item ∧ item.status = .released ∧
      payout = item.payout payout.key := by
  induction trace with
  | nil => cases paid
  | cons step rest ih =>
      obtain ⟨move, mem, effect⟩ := List.mem_filterMap.mp paid
      rcases List.mem_cons.mp mem with rfl | mem
      · obtain ⟨item, found, released, same⟩ := step.paid_stored effect
        obtain ⟨status, found', leads⟩ := rest.inbox_kept found
        have final : status = .released := by
          rcases leads with h | ⟨-, h⟩
          · exact h.trans released
          · exact h
        exact ⟨{ item with status }, found', final, same⟩
      · exact ih (List.mem_filterMap.mpr ⟨move, mem, effect⟩)

/-! ### Redemptions -/

/-- What passes the checks is named by its attestation. -/
theorem key?_of_validate {attestation : Attestation} {transfer : ValidTransfer}
    (validates : m.validate attestation = .ok transfer) :
    attestation.key? m.settings.tags = some transfer.key := by
  have valid := validated_of_validate validates
  obtain ⟨tag, raw, envelope, peer, reads⟩ := messageOf_eq_ok_iff_reads.mp valid.message
  rw [Attestation.key?, reads.decodes]
  dsimp only
  rw [reads.parses]
  dsimp only
  rw [reads.message, ← valid.fromChain]
  rfl

/-- An operation that names a key of the inbox in one of its attestations is refused. -/
theorem Event.refused_of_named (e : Event) (balanced : e.before.ledger.Balanced)
    {key : TransferKey} {item : InboxItem} (found : e.before.inbox.find? key = some item)
    {attestation : Attestation} (mem : attestation ∈ e.operation.attestations)
    (named : attestation.key? e.before.settings.tags = some key) :
    ∃ fault, e.outcome = .error fault := by
  rcases e.refused_or_explained balanced with ⟨fault, refused, -⟩ | ⟨reply, moves, -, -, explains⟩
  · exact ⟨fault, refused⟩
  · -- Each attestation of an operation that succeeds has passed the checks, so its key was absent.
    obtain ⟨i, bound, rfl⟩ := List.mem_iff_getElem.mp mem
    have length := explains.received.length_eq
    have validates := explains.received.get bound (by omega)
    have absent := (validated_of_validate validates).absent
    have same := Option.some.inj (named.symm.trans (key?_of_validate validates))
    rw [← same] at absent
    cases absent.symm.trans found

/-! ### Runs -/

section Runs

variable {run : List Operation} {key : TransferKey} {item : InboxItem}

/-- **No entry is lost or altered** in a run. -/
theorem inbox_kept (balanced : m.ledger.Balanced) (run : List Operation)
    (found : m.inbox.find? key = some item) :
    ∃ status, (m.after run).inbox.find? key = some { item with status } ∧
      item.status.Leads status := by
  obtain ⟨moves, trace, -⟩ := exists_trace balanced run
  exact trace.inbox_kept found

/-- The payouts of a run under one key are as many as it takes to make the key paid. -/
theorem sum_pays_le_one (balanced : m.ledger.Balanced) (run : List Operation) (key : TransferKey) :
    ((m.effects run).map (Effect.pays key)).sum ≤ 1 := by
  have counted := sum_effects balanced run (fun m => (m.isPaid key).toNat) (Effect.pays key)
    (fun _ => 0) (fun {_ _ move} step _ => by
      rw [step.isPaid key]
      cases move.effect? with
      | none => rfl
      | some effect => rfl)
  have lost : ((m.effects run).map fun _ => 0).sum = 0 := by simp
  have bound := ((m.after run).isPaid key).toNat_le
  omega

/-- Later operations that name a key of the inbox are refused. -/
theorem refused_of_named (balanced : m.ledger.Balanced) (found : m.inbox.find? key = some item)
    {e : Event} (mem : e ∈ m.events run) {attestation : Attestation}
    (given : attestation ∈ e.operation.attestations)
    (named : attestation.key? m.settings.tags = some key) : ∃ fault, e.outcome = .error fault := by
  obtain ⟨balanced', same⟩ := before_of_mem_events balanced mem
  obtain ⟨earlier, _, -, before⟩ := exists_before_of_mem_events mem
  obtain ⟨status, found', -⟩ := inbox_kept balanced earlier found
  rw [← before] at found'
  rw [← tags_eq_of_fixed_eq same] at named
  exact e.refused_of_named balanced' found' given named

end Runs

/-- **Exactly-once payout** over a run. -/
structure ExactlyOnce (m : Manager) (run : List Operation) : Prop where
  /-- Accounts are credited for payouts and mints and for nothing else. -/
  credited : ∀ e ∈ m.events run, ∀ account,
    (e.after.ledger.balance account).toNat +
        (e.effects.map (Effect.debit m.settings.tokenDecimals account)).sum =
      (e.before.ledger.balance account).toNat + (e.effects.map (Effect.credit account)).sum
  /-- No key is paid twice. -/
  once : ∀ key, ((m.effects run).map (Effect.pays key)).sum ≤ 1
  /-- What is paid is what the inbox says. -/
  stored : ∀ payout, .paid payout ∈ m.effects run →
    ∃ item, (m.after run).inbox.find? payout.key = some item ∧ item.status = .released ∧
      payout = item.payout payout.key
  /-- What the inbox says is what was attested. -/
  sound : (m.after run).InboxSound
  /-- An entry stays for good, and nothing but its status changes. -/
  kept : ∀ earlier later, run = earlier ++ later → ∀ key item,
    (m.after earlier).inbox.find? key = some item →
    ∃ status, (m.after run).inbox.find? key = some { item with status } ∧ item.status.Leads status
  /-- What names the key of an entry is refused. -/
  refused : ∀ earlier later, run = earlier ++ later → ∀ key item,
    (m.after earlier).inbox.find? key = some item →
    ∀ e ∈ (m.after earlier).events later, ∀ attestation ∈ e.operation.attestations,
      attestation.key? m.settings.tags = some key → ∃ fault, e.outcome = .error fault

/-- **Exactly-once payout.**  It holds of every run of a new manager, whatever the operations, their
attestations and their times. -/
theorem exactly_once (settings : Settings) (outboundLimit : UInt64) (now : Timestamp)
    (run : List Operation) : ExactlyOnce (start settings outboundLimit now) run := by
  have balanced := balanced_start settings outboundLimit now
  have balanced_after (earlier : List Operation) :=
    invariant balanced earlier (fun step => step.balanced) balanced
  refine ⟨?_, sum_pays_le_one balanced run, ?_, ?_, ?_, ?_⟩
  · intro e mem account
    obtain ⟨balanced', same⟩ := before_of_mem_events balanced mem
    rw [← tokenDecimals_eq_of_fixed_eq same]
    exact e.balance balanced' account
  · intro payout paid
    obtain ⟨moves, trace, effects⟩ := exists_trace balanced run
    rw [← effects] at paid
    exact trace.paid_stored paid
  · refine invariant balanced run (fun step => step.inboxSound) ?_
    rintro key item ⟨⟩
  · rintro earlier later rfl key item found
    rw [after_append]
    exact inbox_kept (balanced_after earlier) later found
  · rintro earlier later rfl key item found e mem attestation given named
    obtain ⟨moves, trace, -⟩ := exists_trace balanced earlier
    rw [← tags_eq_of_fixed_eq trace.fixed_eq] at named
    exact refused_of_named (balanced_after earlier) found mem given named

end Manager

end TokenTransfer
