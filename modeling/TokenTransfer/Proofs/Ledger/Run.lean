import Mathlib.Algebra.Order.Group.Int
import Mathlib.Algebra.Ring.Int.Defs
import TokenTransfer.Proofs.Ledger

/-!
# Runs of a ledger

A run is any list of operations, with any accounts and amounts; an operation that is refused is part
of the run as well.  The books are kept twice: what an operation adds to its account and to custody is
what it adds to the supply (`Operation.toAccount_add_toCustody`), so a run conserves the tokens
whatever it does.

Conservation is what the checks of the operations leave out.  Burning subtracts from the supply
without a look at it, and of the sums that are checked, those on an account never fail on their own:
an operation is refused only for want of tokens or of room in the supply (`outcome_eq_ok_iff`).

## Main definitions

* `Ledger.Operation` - what can be asked of a ledger
* `Ledger.Operation.Does` - what an operation changes
* `Ledger.Operation.Covered` - the tokens or the room that an operation needs
* `Ledger.after` - where a run ends

## Main statements

* `Ledger.balanced_after` - a run conserves the tokens
* `Ledger.outcome_eq_ok_iff` - an operation is done exactly when it is covered
* `Ledger.conserves` - what holds on every ledger that a run ends with
-/

namespace TokenTransfer

namespace Ledger

open Fallible

/-- What can be asked of a ledger. -/
inductive Operation where
  | mint (account : Address) (amount : UInt64)
  | burn (account : Address) (amount : UInt64)
  | lock (account : Address) (amount : UInt64)
  | unlock (account : Address) (amount : UInt64)
  | fundCustody (amount : UInt64)

namespace Operation

/-- An operation as an action of a ledger. -/
def perform : Operation → Action
  | mint account amount => Ledger.mint account amount
  | burn account amount => Ledger.burn account amount
  | lock account amount => Ledger.lock account amount
  | unlock account amount => Ledger.unlock account amount
  | fundCustody amount => Ledger.fundCustody amount

/-- The account that an operation names. -/
def account? : Operation → Option Address
  | mint account _ | burn account _ | lock account _ | unlock account _ => some account
  | fundCustody _ => none

/-! ### The books -/

/-- What an operation adds to its account. -/
def toAccount : Operation → ℤ
  | mint _ amount | unlock _ amount => amount.toNat
  | burn _ amount | lock _ amount => -amount.toNat
  | fundCustody _ => 0

/-- What an operation adds to custody. -/
def toCustody : Operation → ℤ
  | lock _ amount | fundCustody amount => amount.toNat
  | unlock _ amount => -amount.toNat
  | mint _ _ | burn _ _ => 0

/-- What an operation adds to the supply. -/
def toSupply : Operation → ℤ
  | mint _ amount | fundCustody amount => amount.toNat
  | burn _ amount => -amount.toNat
  | lock _ _ | unlock _ _ => 0

/-- **Double entry.**  What goes to an account or into custody comes out of the supply. -/
theorem toAccount_add_toCustody (operation : Operation) :
    operation.toAccount + operation.toCustody = operation.toSupply := by
  cases operation with
  | mint account amount => exact add_zero _
  | burn account amount => exact add_zero _
  | lock account amount => exact neg_add_cancel _
  | unlock account amount => exact add_neg_cancel _
  | fundCustody amount => exact zero_add _

/-- **What an operation changes**: the balance of its account, custody and supply, by what the books
say, and nothing else. -/
structure Does (operation : Operation) (before after : Ledger) : Prop where
  account : ∀ account, operation.account? = some account →
    ((after.balance account).toNat : ℤ) = (before.balance account).toNat + operation.toAccount
  others : ∀ other, operation.account? ≠ some other → after.balance other = before.balance other
  held : (after.held : ℤ) = before.held + operation.toAccount
  custody : (after.custody.toNat : ℤ) = before.custody.toNat + operation.toCustody
  supply : (after.supply.toNat : ℤ) = before.supply.toNat + operation.toSupply

/-- **What an operation needs**: room in the supply for new tokens, and the tokens that it moves. -/
def Covered (ledger : Ledger) : Operation → Prop
  | mint _ amount | fundCustody amount => ledger.supply.toNat + amount.toNat < Word64.bound
  | burn account amount | lock account amount => amount ≤ ledger.balance account
  | unlock _ amount => amount ≤ ledger.custody

/-- **What an operation is refused for** when it is not covered.  Locking looks at custody before it
looks at the account. -/
def refusal (ledger : Ledger) : Operation → Fault
  | mint _ _ | fundCustody _ => .overflow
  | burn account amount => .insufficientFunds amount (ledger.balance account)
  | lock account amount =>
      if ledger.custody.toNat + amount.toNat < Word64.bound then
        .insufficientFunds amount (ledger.balance account)
      else .overflow
  | unlock _ amount => .insufficientFunds amount ledger.custody

end Operation

/-- The ledger that a run leaves behind. -/
def after (ledger : Ledger) (operations : List Operation) : Ledger :=
  operations.foldl (fun ledger operation => (operation.perform.runOn ledger).2) ledger

/-! ### One operation -/

variable {ledger before after : Ledger} {operation : Operation}

/-- An operation on one account does what its three amounts say. -/
private theorem does_of_named {account : Address} (names : operation.account? = some account)
    (balance : ((after.balance account).toNat : ℤ) =
      (before.balance account).toNat + operation.toAccount)
    (others : ∀ other, other ≠ account → after.balance other = before.balance other)
    (held : (after.held : ℤ) = before.held + operation.toAccount)
    (custody : (after.custody.toNat : ℤ) = before.custody.toNat + operation.toCustody)
    (supply : (after.supply.toNat : ℤ) = before.supply.toNat + operation.toSupply) :
    operation.Does before after := by
  refine ⟨?_, ?_, held, custody, supply⟩
  · intro named same
    cases names.symm.trans same
    exact balance
  · intro other differs
    refine others other fun same => differs ?_
    rw [names, same]

private theorem does_of_pays {mode : Mode} {account : Address} {amount : UInt64}
    (names : operation.account? = some account)
    (toAccount : operation.toAccount = amount.toNat)
    (toCustody : operation.toCustody = -mode.locked amount.toNat)
    (toSupply : operation.toSupply = mode.burned amount.toNat)
    (pays : Pays mode account amount before after) : operation.Does before after := by
  have balance := pays.balance
  have held := pays.held
  have custody := pays.custody
  have supply := pays.supply
  exact does_of_named names (by omega) pays.others (by omega) (by omega) (by omega)

private theorem does_of_takes {mode : Mode} {account : Address} {amount : UInt64}
    (names : operation.account? = some account)
    (toAccount : operation.toAccount = -amount.toNat)
    (toCustody : operation.toCustody = mode.locked amount.toNat)
    (toSupply : operation.toSupply = -mode.burned amount.toNat)
    (takes : Takes mode account amount before after) : operation.Does before after := by
  have balance := takes.balance
  have held := takes.held
  have custody := takes.custody
  have supply := takes.supply
  exact does_of_named names (by omega) takes.others (by omega) (by omega) (by omega)

private theorem does_of_funds {amount : UInt64} (funds : Funds amount before after) :
    (Operation.fundCustody amount).Does before after := by
  have custody := funds.custody
  have supply := funds.supply
  refine ⟨nofun, ?_, ?_, ?_, ?_⟩
  · intro other _
    rw [balance, balance, funds.balances]
  · rw [held, held, funds.balances]
    exact (add_zero _).symm
  · show (after.custody.toNat : ℤ) = before.custody.toNat + amount.toNat
    omega
  · show (after.supply.toNat : ℤ) = before.supply.toNat + amount.toNat
    omega

/-- **One operation** is refused and keeps the ledger, or changes what the books say. -/
theorem Operation.perform_transacts (balanced : ledger.Balanced) (operation : Operation) :
    operation.perform.Transacts ledger fun _ after => operation.Does ledger after := by
  cases operation with
  | mint account amount =>
      exact (mint_transacts account amount ledger).mono fun _ _ _ pays =>
        does_of_pays rfl rfl rfl rfl pays
  | burn account amount =>
      exact (burn_transacts balanced account amount).mono fun _ _ _ takes =>
        does_of_takes rfl rfl rfl rfl takes
  | lock account amount =>
      exact (lock_transacts account amount ledger).mono fun _ _ _ takes =>
        does_of_takes rfl rfl rfl rfl takes
  | unlock account amount =>
      exact (unlock_transacts account amount ledger).mono fun _ _ _ pays =>
        does_of_pays rfl rfl rfl rfl pays
  | fundCustody amount =>
      exact (fundCustody_transacts amount ledger).mono fun _ _ _ funds => does_of_funds funds

/-- What an operation adds to the accounts and to custody, it adds to the supply. -/
theorem Operation.Does.balanced (does : operation.Does before after) (h : before.Balanced) :
    after.Balanced := by
  have books := operation.toAccount_add_toCustody
  have held := does.held
  have custody := does.custody
  have supply := does.supply
  unfold Balanced at *
  omega

/-! ### A run -/

/-- **A run conserves the tokens**, whatever is done in it. -/
theorem balanced_after (balanced : ledger.Balanced) (operations : List Operation) :
    (ledger.after operations).Balanced := by
  induction operations generalizing ledger with
  | nil => exact balanced
  | cons operation rest ih =>
      refine ih ?_
      dsimp only
      cases operation.perform_transacts balanced with
      | refused fault runs =>
          rw [runs]
          exact balanced
      | done result after runs does =>
          rw [runs]
          exact does.balanced balanced

/-! ### What is refused -/

private theorem outcome_eq_of_yields {f : Action} {post : Unit → Ledger → Prop}
    (yields : f.Yields ledger post) : f.outcome ledger = .ok () := by
  obtain ⟨result, after, runs, -⟩ := yields
  exact congrArg Prod.fst runs

/-- **What is covered is done.**  Of the sums that are checked only those in the supply can fail on
their own: a balance and custody are no more than the supply is after the operation. -/
theorem outcome_of_covered (balanced : ledger.Balanced) (covered : operation.Covered ledger) :
    operation.perform.outcome ledger = .ok () := by
  cases operation with
  | mint account amount =>
      have room := Option.isSome_iff_exists.mpr (exists_add? covered)
      exact outcome_eq_of_yields (mint_yields balanced room account)
  | burn account amount => exact outcome_eq_of_yields (burn_yields balanced covered)
  | lock account amount => exact outcome_eq_of_yields (lock_yields balanced covered)
  | unlock account amount => exact outcome_eq_of_yields (unlock_yields balanced covered account)
  | fundCustody amount =>
      have room := Option.isSome_iff_exists.mpr (exists_add? covered)
      exact outcome_eq_of_yields (fundCustody_yields balanced room)

/-- **What is not covered is refused**, and the refusal says what is short. -/
theorem outcome_of_not_covered (short : ¬ operation.Covered ledger) :
    operation.perform.outcome ledger = .error (operation.refusal ledger) := by
  cases operation with
  | mint account amount =>
      have full : Word64.add? ledger.supply amount = none :=
        Word64.ofNat?_eq_none_iff.mpr (Nat.not_lt.mp short)
      simp [Operation.perform, Operation.refusal, mint, outcome, runOn_bind, runOn_sum, full]
  | burn account amount =>
      have short := UInt64.not_le.mp short
      simp [Operation.perform, Operation.refusal, burn, outcome, runOn_bind, runOn_debit, short]
  | lock account amount =>
      have short := UInt64.not_le.mp short
      by_cases fits : ledger.custody.toNat + amount.toNat < Word64.bound
      · obtain ⟨custody, sum⟩ := exists_add? fits
        simp [Operation.perform, Operation.refusal, lock, outcome, runOn_bind, runOn_sum,
          runOn_debit, sum, short, fits]
      · have full : Word64.add? ledger.custody amount = none :=
          Word64.ofNat?_eq_none_iff.mpr (Nat.not_lt.mp fits)
        simp [Operation.perform, Operation.refusal, lock, outcome, runOn_bind, runOn_sum, full,
          fits]
  | unlock account amount =>
      have short := UInt64.not_le.mp short
      simp [Operation.perform, Operation.refusal, unlock, outcome, runOn_bind, short]
  | fundCustody amount =>
      have full : Word64.add? ledger.supply amount = none :=
        Word64.ofNat?_eq_none_iff.mpr (Nat.not_lt.mp short)
      simp [Operation.perform, Operation.refusal, fundCustody, outcome, runOn_bind, runOn_sum,
        full]

/-- **An operation is done exactly when it is covered.** -/
theorem outcome_eq_ok_iff (balanced : ledger.Balanced) :
    operation.perform.outcome ledger = .ok () ↔ operation.Covered ledger := by
  refine ⟨fun done => ?_, outcome_of_covered balanced⟩
  by_contra short
  cases done.symm.trans (outcome_of_not_covered short)

/-- Where the account has what is burned, the supply has it too. -/
theorem le_supply_of_debit (balanced : ledger.Balanced) {account : Address} {amount : UInt64}
    {debited : Ledger} (runs : (debit account amount).runOn ledger = (.ok (), debited)) :
    amount ≤ debited.supply := by
  rw [runOn_debit] at runs
  split at runs
  · cases runs
  · rename_i enough
    cases runs
    have enough := UInt64.le_iff_toNat_le.mp (UInt64.not_lt.mp enough)
    have part := ledger.balance_le_held account
    unfold Balanced at balanced
    show amount ≤ ledger.supply
    rw [UInt64.le_iff_toNat_le]
    omega

/-! ### Any run -/

/-- **Conservation.**  On the ledger that any run leaves, balances and custody are the supply, so
together they fit a word.  What is burned is in the supply when it is taken out of it, and custody is
never paid to an account that has no room for it.  An operation is done exactly when it is covered;
one that is refused leaves the ledger as it was, and one that is done changes its own account, custody
and the supply by what the books say and nothing else. -/
theorem conserves (operations : List Operation) :
    let ledger := empty.after operations
    (ledger.held + ledger.custody.toNat = ledger.supply.toNat ∧
      ledger.held + ledger.custody.toNat < Word64.bound) ∧
    (∀ account amount debited, (debit account amount).runOn ledger = (.ok (), debited) →
      amount ≤ debited.supply) ∧
    (∀ account amount, (unlock account amount).outcome ledger ≠ .error .overflow) ∧
    ∀ operation : Operation,
      (operation.perform.outcome ledger = .ok () ↔ operation.Covered ledger) ∧
      (∀ fault after, operation.perform.runOn ledger = (.error fault, after) →
        after = ledger ∧ fault = operation.refusal ledger) ∧
      ∀ after, operation.perform.runOn ledger = (.ok (), after) → operation.Does ledger after := by
  intro ledger
  have balanced : ledger.Balanced := balanced_after balanced_empty operations
  have word : ledger.supply.toNat < Word64.bound := ledger.supply.toNat_lt
  refine ⟨⟨balanced, lt_of_eq_of_lt balanced word⟩, ?_, ?_, ?_⟩
  · intro account amount debited runs
    exact le_supply_of_debit balanced runs
  · intro account amount fails
    by_cases covered : (Operation.unlock account amount).Covered ledger
    · cases fails.symm.trans (outcome_of_covered balanced covered)
    · cases fails.symm.trans (outcome_of_not_covered covered)
  · intro operation
    have transacts := operation.perform_transacts balanced
    refine ⟨outcome_eq_ok_iff balanced, ?_, fun after runs => transacts.of_ok runs⟩
    intro fault after runs
    have fails : operation.perform.outcome ledger = .error fault := congrArg Prod.fst runs
    refine ⟨transacts.of_error runs, ?_⟩
    by_cases covered : operation.Covered ledger
    · cases fails.symm.trans (outcome_of_covered balanced covered)
    · cases fails.symm.trans (outcome_of_not_covered covered)
      rfl

/-- A run with two accounts in which the third operation is refused. -/
def sampleRun : List Operation :=
  [.mint (.ofNat 32 1) 1000, .lock (.ofNat 32 1) 400, .burn (.ofNat 32 1) 601,
    .unlock (.ofNat 32 2) 150, .burn (.ofNat 32 2) 50, .fundCustody 7]

/-- What is left of a thousand tokens and seven after fifty were burned, and what comes of paying out
custody and one token more. -/
theorem conserves_of_sampleRun :
    let ledger := empty.after sampleRun
    (ledger.custody = 257 ∧ ledger.held + 257 = 957) ∧
      (unlock (.ofNat 32 2) ledger.custody).outcome ledger = .ok () ∧
      (unlock (.ofNat 32 2) 258).outcome ledger ≠ .error .overflow := by
  intro ledger
  have custody : ledger.custody = 257 := by decide +kernel
  have supply : ledger.supply = 957 := by decide +kernel
  obtain ⟨⟨conserved, -⟩, -, pays, each⟩ := conserves sampleRun
  have paid := (each (.unlock (.ofNat 32 2) ledger.custody)).1.mpr (UInt64.le_refl ledger.custody)
  refine ⟨⟨custody, ?_⟩, paid, pays _ _⟩
  calc ledger.held + 257
      = ledger.held + ledger.custody.toNat := by rw [custody]; rfl
    _ = ledger.supply.toNat := conserved
    _ = 957 := by rw [supply]; rfl

end Ledger

end TokenTransfer
