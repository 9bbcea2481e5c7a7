import TokenTransfer.Proofs.Manager.Numbering

/-!
# Custody and supply

What is in custody and what there is of the token follow from four totals: what was minted to
accounts, what custody was funded with, what the items of the outbox are worth and what was paid to
recipients of the inbox.  In locking mode tokens move through custody, in burning mode through the
supply, and the total that they do not move through is only changed from outside.

## Main definitions

* `Manager.sentOut` - the worth of all items of the outbox
* `Manager.released` - the amounts of all entries of the inbox that were paid
* `minted`, `funded` - the totals that came from outside
-/

namespace TokenTransfer

/-- What was paid for an entry: its amount, once it is released. -/
def InboxItem.paidAmount (item : InboxItem) : Nat :=
  if item.status = .released then item.amount.toNat else 0

/-- No more is paid for an entry than its amount. -/
theorem InboxItem.paidAmount_le (item : InboxItem) : item.paidAmount ≤ item.amount.toNat := by
  unfold paidAmount
  split
  · exact Nat.le_refl _
  · exact Nat.zero_le _

namespace Manager

variable {m m' : Manager}

/-! ### Totals -/

/-- The worth of all items of the outbox, in units of the local token. -/
def sentOut (m : Manager) : Nat := m.outbox.sum fun _ item => item.worth m.settings.tokenDecimals

/-- The amounts of all entries of the inbox that were paid. -/
def released (m : Manager) : Nat := m.inbox.sum fun _ item => item.paidAmount

/-- What was minted to accounts. -/
def minted (effects : List Effect) : Nat := (effects.map Effect.mintedAmount).sum

/-- What custody was funded with. -/
def funded (effects : List Effect) : Nat := (effects.map Effect.fundedAmount).sum

/-- The worth of a transfer that was sent. -/
def Effect.sentWorth (decimals : UInt8) : Effect → Nat := sentWeight (OutboxItem.worth · decimals)

/-- The amount of a payout. -/
def Effect.paidAmount : Effect → Nat := paidWeight fun payout => payout.amount.toNat

/-! ### Steps -/

section Step

attribute [local simp] Move.effect? Effect.paidAmount Effect.sentWorth Effect.mintedAmount
  Effect.fundedAmount Effect.sentWeight Effect.paidWeight InboxItem.payout

variable {move : Move} (step : Step m move m')

include step

/-- The paid entries under some keys grow by what is paid under these keys. -/
theorem Step.paid_sum (counts : TransferKey → Bool) :
    m'.inbox.sum (fun key item => bif counts key then item.paidAmount else 0) =
      m.inbox.sum (fun key item => bif counts key then item.paidAmount else 0) +
        move.effect?.elim 0 (Effect.paidWeight fun payout =>
          bif counts payout.key then payout.amount.toNat else 0) := by
  cases step with
  | @receive transfer time _ _ absent suits =>
      rw [Table.sum_insert_of_none _ _ absent]
      cases counts transfer.key with
      | true => rfl
      | false => rfl
  | @pay key item time _ _ found waits due pays =>
      have sum := Table.sum_insert_of_some
        (fun key item => bif counts key then item.paidAmount else 0)
        { item with status := .released } found
      have unpaid : item.paidAmount = 0 := by simp [InboxItem.paidAmount, waits]
      rw [unpaid, Bool.cond_self] at sum
      exact sum
  | send | announce | mint | fund | configure => rfl

/-- Custody grows by what it is funded with and what is locked, and shrinks by what is unlocked. -/
theorem Step.custody :
    m'.ledger.custody.toNat +
        move.effect?.elim 0 (fun effect => m.settings.mode.locked effect.paidAmount) =
      m.ledger.custody.toNat + move.effect?.elim 0 (fun effect =>
        effect.fundedAmount +
          m.settings.mode.locked (effect.sentWorth m.settings.tokenDecimals)) := by
  cases step with
  | pay found waits due pays => simpa using pays.custody
  | send numbered unreleased known decimals worth takes =>
      simpa [OutboxItem.worth_eq worth] using takes.custody
  | mint pays => simpa using pays.custody
  | fund funds => simpa using funds.custody
  | announce => simp
  | receive | configure => rfl

/-- The supply grows by what is minted or funded, and shrinks by what is burned. -/
theorem Step.supply :
    m'.ledger.supply.toNat + move.effect?.elim 0 (fun effect =>
        m.settings.mode.burned (effect.sentWorth m.settings.tokenDecimals)) =
      m.ledger.supply.toNat + move.effect?.elim 0 (fun effect =>
        effect.mintedAmount + effect.fundedAmount +
          m.settings.mode.burned effect.paidAmount) := by
  cases step with
  | pay found waits due pays => simpa using pays.supply
  | send numbered unreleased known decimals worth takes =>
      simpa [OutboxItem.worth_eq worth] using takes.supply
  | mint pays => simpa using pays.supply
  | fund funds => simpa using funds.supply
  | announce => simp
  | receive | configure => rfl

end Step

/-! ### The books -/

/-- Locking does not depend on the effect, so it may be applied to the sum. -/
private theorem sum_map_locked (mode : Mode) (weight : Effect → Nat) (effects : List Effect) :
    (effects.map fun effect => mode.locked (weight effect)).sum =
      mode.locked (effects.map weight).sum := by
  induction effects with
  | nil => simp
  | cons effect rest ih => simp [mode.locked_add, ih]

/-- Nor does burning. -/
private theorem sum_map_burned (mode : Mode) (weight : Effect → Nat) (effects : List Effect) :
    (effects.map fun effect => mode.burned (weight effect)).sum =
      mode.burned (effects.map weight).sum := by
  induction effects with
  | nil => simp
  | cons effect rest ih => simp [mode.burned_add, ih]

/-- **The books of a manager** to which so much was minted and funded from outside. -/
structure Accounts (m : Manager) (minted funded : Nat) : Prop where
  custody : m.ledger.custody.toNat + m.settings.mode.locked m.released =
    funded + m.settings.mode.locked m.sentOut
  supply : m.ledger.supply.toNat + m.settings.mode.burned m.sentOut =
    minted + funded + m.settings.mode.burned m.released

section Runs

variable (settings : Settings) (outboundLimit : UInt64) (now : Timestamp) (run : List Operation)

/-- The paid entries of the inbox are the payouts of the run, also if only some keys count. -/
theorem paid_sum_after (counts : TransferKey → Bool) :
    ((start settings outboundLimit now).after run).inbox.sum
        (fun key item => bif counts key then item.paidAmount else 0) =
      (((start settings outboundLimit now).effects run).map (Effect.paidWeight fun payout =>
        bif counts payout.key then payout.amount.toNat else 0)).sum := by
  have counted := sum_effects (balanced_start settings outboundLimit now) run
    (fun m => m.inbox.sum fun key item => bif counts key then item.paidAmount else 0)
    (Effect.paidWeight fun payout => bif counts payout.key then payout.amount.toNat else 0)
    (fun _ => 0) (fun {_ _ move} step _ => by
      rw [step.paid_sum counts]
      cases move.effect? with
      | none => rfl
      | some effect => rfl)
  have none : (start settings outboundLimit now).inbox.sum
    (fun key item => bif counts key then item.paidAmount else 0) = 0 := rfl
  have lost : (((start settings outboundLimit now).effects run).map fun _ => 0).sum = 0 := by simp
  omega

/-- The items of the outbox are the transfers that the run has sent, whatever they weigh. -/
theorem outbox_sum_after
    (fits : (((start settings outboundLimit now).effects run).map Effect.sends).sum < 2 ^ 64)
    (weight : OutboxItem → Nat)
    (steady : ∀ item : OutboxItem, weight { item with released := true } = weight item) :
    ((start settings outboundLimit now).after run).outbox.sum (fun _ => weight) =
      (((start settings outboundLimit now).effects run).map (Effect.sentWeight weight)).sum := by
  have none : (start settings outboundLimit now).outbox.sum (fun _ => weight) = 0 := rfl
  obtain ⟨moves, lasting, effects, -⟩ := exists_lasting (balanced_start settings outboundLimit now)
    run (numbered_start settings outboundLimit now) (fits_start _ _ _ fits)
  rw [← effects, lasting.outbox_sum weight steady, none, Nat.zero_add]

/-- **The books balance.** -/
theorem accounts_after
    (fits : (((start settings outboundLimit now).effects run).map Effect.sends).sum < 2 ^ 64) :
    Accounts ((start settings outboundLimit now).after run)
      (minted ((start settings outboundLimit now).effects run))
      (funded ((start settings outboundLimit now).effects run)) := by
  have balanced := balanced_start settings outboundLimit now
  obtain ⟨moves, trace, effects⟩ := exists_trace balanced run
  have mode := mode_eq_of_fixed_eq trace.fixed_eq
  have paid : ((start settings outboundLimit now).after run).released =
      (((start settings outboundLimit now).effects run).map Effect.paidAmount).sum :=
    paid_sum_after settings outboundLimit now run fun _ => true
  have sent : ((start settings outboundLimit now).after run).sentOut =
      (((start settings outboundLimit now).effects run).map
        (Effect.sentWorth settings.tokenDecimals)).sum := by
    rw [sentOut, tokenDecimals_eq_of_fixed_eq trace.fixed_eq]
    exact outbox_sum_after settings outboundLimit now run fits
      (OutboxItem.worth · settings.tokenDecimals) fun _ => rfl
  have custody := sum_effects balanced run (fun m => m.ledger.custody.toNat)
    (fun effect => effect.fundedAmount +
      settings.mode.locked (effect.sentWorth settings.tokenDecimals))
    (fun effect => settings.mode.locked effect.paidAmount) (fun step same => by
      have change := step.custody
      rw [mode_eq_of_fixed_eq same, tokenDecimals_eq_of_fixed_eq same] at change
      exact change)
  have supply := sum_effects balanced run (fun m => m.ledger.supply.toNat)
    (fun effect => effect.mintedAmount + effect.fundedAmount +
      settings.mode.burned effect.paidAmount)
    (fun effect => settings.mode.burned (effect.sentWorth settings.tokenDecimals))
    (fun step same => by
      have change := step.supply
      rw [mode_eq_of_fixed_eq same, tokenDecimals_eq_of_fixed_eq same] at change
      exact change)
  simp only [List.sum_map_add, sum_map_locked, sum_map_burned, ← paid, ← sent] at custody supply
  have noCustody : (start settings outboundLimit now).ledger.custody.toNat = 0 := rfl
  have noSupply : (start settings outboundLimit now).ledger.supply.toNat = 0 := rfl
  rw [noCustody, Nat.zero_add] at custody
  rw [noSupply, Nat.zero_add] at supply
  constructor
  · rw [mode]
    exact custody
  · rw [mode]
    exact supply

end Runs

/-- Every item of the outbox has a worth in units of the local token. -/
def OutboxWorth (m : Manager) : Prop :=
  ∀ sequence item, m.outbox.find? sequence = some item →
    item.amount.untrim m.settings.tokenDecimals = .ok (item.worth m.settings.tokenDecimals)

/-- An item enters the outbox with a worth, and its worth stays. -/
theorem Step.outboxWorth {move : Move} (step : Step m move m') (h : m.OutboxWorth) :
    m'.OutboxWorth := by
  intro sequence item found
  cases step with
  | send numbered unreleased known decimals worth takes =>
      rcases Table.find?_insert_eq_some found with ⟨rfl, rfl⟩ | ⟨-, found⟩
      · rw [OutboxItem.worth_eq worth]
        exact worth
      · exact h sequence item found
  | @announce sequence' item' _ _ found' unreleased due known =>
      rcases Table.find?_insert_eq_some found with ⟨rfl, rfl⟩ | ⟨-, found⟩
      · exact h sequence item' found'
      · exact h sequence item found
  | receive | pay | mint | fund | configure => exact h sequence item found

/-- **Custody and supply.**  After every run of a new manager, in units of the local token: in
locking mode custody holds what it was funded with and what was sent but for what was paid, and the
supply is what was minted or funded; in burning mode the supply is what was minted, funded and paid
but for what was sent, and custody holds what it was funded with.

A counter of numbers that runs over stops the program, so a run has sent fewer than `2 ^ 64`
transfers. -/
theorem custody_and_supply (settings : Settings) (outboundLimit : UInt64) (now : Timestamp)
    (run : List Operation)
    (fits : (((start settings outboundLimit now).effects run).map Effect.sends).sum < 2 ^ 64) :
    let m := (start settings outboundLimit now).after run
    let minted := minted ((start settings outboundLimit now).effects run)
    let funded := funded ((start settings outboundLimit now).effects run)
    m.OutboxWorth ∧
    (settings.mode = .locking →
      m.ledger.custody.toNat + m.released = funded + m.sentOut ∧
      m.ledger.supply.toNat = minted + funded) ∧
    (settings.mode = .burning →
      m.ledger.supply.toNat + m.sentOut = minted + funded + m.released ∧
      m.ledger.custody.toNat = funded) := by
  have balanced := balanced_start settings outboundLimit now
  obtain ⟨moves, trace, -⟩ := exists_trace balanced run
  have same := mode_eq_of_fixed_eq trace.fixed_eq
  obtain ⟨custody, supply⟩ := accounts_after settings outboundLimit now run fits
  rw [same] at custody supply
  refine ⟨?_, ?_, ?_⟩
  · refine invariant balanced run (fun step => step.outboxWorth) ?_
    rintro sequence item ⟨⟩
  · intro mode
    have mode : (start settings outboundLimit now).settings.mode = .locking := mode
    rw [mode] at custody supply
    exact ⟨custody, supply⟩
  · intro mode
    have mode : (start settings outboundLimit now).settings.mode = .burning := mode
    rw [mode] at custody supply
    exact ⟨supply, custody⟩

/-- What was sent is in custody, and its dust is not. -/
theorem custody_and_supply_of_sample :
    sampleManager.ledger.custody.toNat + sampleManager.released =
      funded ((start sampleSource 5000000000 0).effects sampleRun) + sampleManager.sentOut :=
  ((custody_and_supply sampleSource 5000000000 0 sampleRun (by decide +kernel)).2.1 rfl).1

end Manager

end TokenTransfer
