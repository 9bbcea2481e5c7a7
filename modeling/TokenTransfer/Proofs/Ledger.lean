import TokenTransfer.Ledger
import TokenTransfer.Proofs.Fallible
import TokenTransfer.Proofs.Table

/-!
# Conservation on the ledger

Every token is on an account or in custody (`Ledger.Balanced`).  This is more than bookkeeping: the
words that hold balances and totals are checked for overflow one by one, and only conservation says
that a balance fits whenever the total it belongs to does.  That is why a manager may look at
custody and supply alone before it pays (`unlock_yields`, `mint_yields`).

## Main definitions

* `Ledger.Balanced` - balances and custody add up to the supply
* `Ledger.Pays`, `Ledger.Takes` - what paying an account and taking from it do to a ledger
* `Mode.locked`, `Mode.burned` - the part of an amount that moves through custody or the supply

Locking and burning differ only in which total an amount moves through, so both modes are described
by one pair of relations: in either mode `locked` and `burned` add up to the amount.
-/

namespace TokenTransfer

namespace Mode

/-- The part of an amount that goes into custody, or comes out of it. -/
def locked : Mode → Nat → Nat
  | locking, amount => amount
  | burning, _ => 0

/-- The part of an amount that leaves the supply, or is added to it. -/
def burned : Mode → Nat → Nat
  | locking, _ => 0
  | burning, amount => amount

@[simp] theorem locked_locking (amount : Nat) : locking.locked amount = amount := rfl

@[simp] theorem locked_burning (amount : Nat) : burning.locked amount = 0 := rfl

@[simp] theorem burned_locking (amount : Nat) : locking.burned amount = 0 := rfl

@[simp] theorem burned_burning (amount : Nat) : burning.burned amount = amount := rfl

@[simp] theorem locked_zero (mode : Mode) : mode.locked 0 = 0 := by
  cases mode with
  | locking => rfl
  | burning => rfl

@[simp] theorem burned_zero (mode : Mode) : mode.burned 0 = 0 := by
  cases mode with
  | locking => rfl
  | burning => rfl

/-- What is taken is locked or burned. -/
theorem locked_add_burned (mode : Mode) (amount : Nat) :
    mode.locked amount + mode.burned amount = amount := by
  cases mode with
  | locking => rfl
  | burning => exact Nat.zero_add amount

theorem locked_add (mode : Mode) (a b : Nat) :
    mode.locked (a + b) = mode.locked a + mode.locked b := by
  cases mode with
  | locking => rfl
  | burning => rfl

theorem burned_add (mode : Mode) (a b : Nat) :
    mode.burned (a + b) = mode.burned a + mode.burned b := by
  cases mode with
  | locking => rfl
  | burning => rfl

end Mode

namespace Ledger

open Fallible

/-- The tokens on all accounts together. -/
def held (ledger : Ledger) : Nat := ledger.balances.sum fun _ amount => amount.toNat

/-- **Conservation.**  Every token is on an account or in custody. -/
def Balanced (ledger : Ledger) : Prop :=
  ledger.held + ledger.custody.toNat = ledger.supply.toNat

theorem balanced_empty : empty.Balanced := rfl

/-! ### Changing a balance -/

/-- Setting a balance touches one account. -/
theorem balance_setBalance (ledger : Ledger) (account other : Address) (amount : UInt64) :
    (ledger.setBalance account amount).balance other =
      if other = account then amount else ledger.balance other := by
  by_cases same : other = account
  · simp [balance, setBalance, same]
  · simp [balance, setBalance, Table.find?_insert_of_ne _ _ same, same]

/-- What all accounts hold changes as the one balance does. -/
theorem held_setBalance (ledger : Ledger) (account : Address) (amount : UInt64) :
    (ledger.setBalance account amount).held + (ledger.balance account).toNat =
      ledger.held + amount.toNat := by
  have := ledger.balances.sum_insert (fun _ amount => amount.toNat) account amount
  unfold held balance setBalance
  cases found : ledger.balances.find? account with
  | none => simpa [found] using this
  | some available => simpa [found] using this

/-- No account holds more than all of them. -/
theorem balance_le_held (ledger : Ledger) (account : Address) :
    (ledger.balance account).toNat ≤ ledger.held := by
  unfold balance
  cases found : ledger.balances.find? account with
  | none => exact Nat.zero_le _
  | some available => exact Table.le_sum (fun _ amount => amount.toNat) found

/-! ### Paying and taking -/

/-- **Paying an account** out of custody, or on top of the supply. -/
structure Pays (mode : Mode) (account : Address) (amount : UInt64) (before after : Ledger) :
    Prop where
  balance : (after.balance account).toNat = (before.balance account).toNat + amount.toNat
  others : ∀ other, other ≠ account → after.balance other = before.balance other
  held : after.held = before.held + amount.toNat
  custody : after.custody.toNat + mode.locked amount.toNat = before.custody.toNat
  supply : after.supply.toNat = before.supply.toNat + mode.burned amount.toNat

/-- **Taking from an account** into custody, or out of the supply. -/
structure Takes (mode : Mode) (account : Address) (amount : UInt64) (before after : Ledger) :
    Prop where
  balance : (after.balance account).toNat + amount.toNat = (before.balance account).toNat
  others : ∀ other, other ≠ account → after.balance other = before.balance other
  held : after.held + amount.toNat = before.held
  custody : after.custody.toNat = before.custody.toNat + mode.locked amount.toNat
  supply : after.supply.toNat + mode.burned amount.toNat = before.supply.toNat

/-- **Funding custody** with new tokens. -/
structure Funds (amount : UInt64) (before after : Ledger) : Prop where
  balances : after.balances = before.balances
  custody : after.custody.toNat = before.custody.toNat + amount.toNat
  supply : after.supply.toNat = before.supply.toNat + amount.toNat

variable {mode : Mode} {account : Address} {amount : UInt64} {before after : Ledger}

/-- A payment takes out of custody, or adds to the supply, what it adds to the accounts. -/
theorem Pays.balanced (pays : Pays mode account amount before after) (h : before.Balanced) :
    after.Balanced := by
  have parts := mode.locked_add_burned amount.toNat
  have := pays.held
  have := pays.custody
  have := pays.supply
  unfold Balanced at *
  omega

/-- What is taken goes to custody or out of the supply. -/
theorem Takes.balanced (takes : Takes mode account amount before after) (h : before.Balanced) :
    after.Balanced := by
  have parts := mode.locked_add_burned amount.toNat
  have := takes.held
  have := takes.custody
  have := takes.supply
  unfold Balanced at *
  omega

/-- What custody is funded with is added to the supply. -/
theorem Funds.balanced (funds : Funds amount before after) (h : before.Balanced) :
    after.Balanced := by
  have := funds.custody
  have := funds.supply
  unfold Balanced held at *
  rw [funds.balances]
  omega

/-- The totals after a payment out of custody, as words. -/
theorem Pays.totals_of_locking (pays : Pays .locking account amount before after) :
    after.custody = before.custody - amount ∧ after.supply = before.supply := by
  have custody : after.custody.toNat + amount.toNat = before.custody.toNat := pays.custody
  have enough : amount ≤ before.custody := UInt64.le_iff_toNat_le.mpr (by omega)
  refine ⟨UInt64.toNat_inj.mp ?_, UInt64.toNat_inj.mp pays.supply⟩
  rw [UInt64.toNat_sub_of_le _ _ enough]
  omega

/-- The totals after a payment on top of the supply, as words. -/
theorem Pays.totals_of_burning (pays : Pays .burning account amount before after) :
    after.custody = before.custody ∧ after.supply = before.supply + amount := by
  have supply : after.supply.toNat = before.supply.toNat + amount.toNat := pays.supply
  have : after.supply.toNat < 2 ^ 64 := after.supply.toNat_lt
  refine ⟨UInt64.toNat_inj.mp pays.custody, UInt64.toNat_inj.mp ?_⟩
  rw [UInt64.toNat_add]
  omega

/-- What is seen of a ledger that differs from another at one account, and perhaps in its totals. -/
private theorem seen_of_setBalance {balance : UInt64}
    (balances : after.balances = (before.setBalance account balance).balances) :
    after.balance account = balance ∧
      (∀ other, other ≠ account → after.balance other = before.balance other) ∧
      after.held + (before.balance account).toNat = before.held + balance.toNat := by
  have seen : ∀ other, after.balance other = (before.setBalance account balance).balance other := by
    intro other
    exact congrArg (fun table : Table Address UInt64 => (table.find? other).getD 0) balances
  have total : after.held = (before.setBalance account balance).held :=
    congrArg (fun table : Table Address UInt64 => table.sum fun _ amount => amount.toNat) balances
  refine ⟨?_, ?_, ?_⟩
  · rw [seen, balance_setBalance, if_pos rfl]
  · intro other differs
    rw [seen, balance_setBalance, if_neg differs]
  · rw [total, held_setBalance]

/-- A payment by its totals and the one balance. -/
private theorem pays_of_totals {balance : UInt64}
    (sum : balance.toNat = (before.balance account).toNat + amount.toNat)
    (balances : after.balances = (before.setBalance account balance).balances)
    (custody : after.custody.toNat + mode.locked amount.toNat = before.custody.toNat)
    (supply : after.supply.toNat = before.supply.toNat + mode.burned amount.toNat) :
    Pays mode account amount before after := by
  obtain ⟨own, others, held⟩ := seen_of_setBalance balances
  refine ⟨?_, others, ?_, custody, supply⟩
  · rw [own, sum]
  · omega

/-- A withdrawal by its totals and the one balance. -/
private theorem takes_of_totals (enough : amount ≤ before.balance account)
    (balances : after.balances =
      (before.setBalance account (before.balance account - amount)).balances)
    (custody : after.custody.toNat = before.custody.toNat + mode.locked amount.toNat)
    (supply : after.supply.toNat + mode.burned amount.toNat = before.supply.toNat) :
    Takes mode account amount before after := by
  obtain ⟨own, others, held⟩ := seen_of_setBalance balances
  have rest : (before.balance account - amount).toNat + amount.toNat =
      (before.balance account).toNat := by
    rw [UInt64.toNat_sub_of_le _ _ enough]
    exact Nat.sub_add_cancel (UInt64.le_iff_toNat_le.mp enough)
  refine ⟨?_, others, ?_, custody, supply⟩
  · rw [own, rest]
  · omega

/-! ### The operations

Each one either keeps the ledger or does what `Pays`, `Takes` or `Funds` says. -/

theorem runOn_sum (a b : UInt64) (ledger : Ledger) :
    (sum a b).runOn ledger =
      match Word64.add? a b with
      | some total => (.ok total, ledger)
      | none => (.error .overflow, ledger) := by
  unfold sum
  cases Word64.add? a b with
  | none => rfl
  | some total => rfl

/-- A debit is refused beyond the balance. -/
theorem runOn_debit (account : Address) (amount : UInt64) (ledger : Ledger) :
    (debit account amount).runOn ledger =
      if ledger.balance account < amount then
        (.error (.insufficientFunds amount (ledger.balance account)), ledger)
      else (.ok (), ledger.setBalance account (ledger.balance account - amount)) := by
  unfold debit
  simp only [runOn_bind, runOn_get]
  split
  · rfl
  · rfl

/-- Minting pays out of nothing, or leaves the ledger as it was. -/
theorem mint_transacts (account : Address) (amount : UInt64) (ledger : Ledger) :
    (mint account amount).Transacts ledger fun _ after =>
      Pays .burning account amount ledger after := by
  unfold mint
  cases supply : Word64.add? ledger.supply amount with
  | none => exact .refused .overflow (by simp [runOn_bind, runOn_sum, supply])
  | some total =>
      cases sum : Word64.add? (ledger.balance account) amount with
      | none => exact .refused .overflow (by simp [runOn_bind, runOn_sum, supply, sum])
      | some balance =>
          refine .done () { ledger.setBalance account balance with supply := total }
            (by simp [runOn_bind, runOn_sum, supply, sum]) ?_
          exact pays_of_totals (Word64.add?_eq_some_iff.mp sum) rfl rfl
            (Word64.add?_eq_some_iff.mp supply)

/-- Unlocking pays out of custody, or leaves the ledger as it was. -/
theorem unlock_transacts (account : Address) (amount : UInt64) (ledger : Ledger) :
    (unlock account amount).Transacts ledger fun _ after =>
      Pays .locking account amount ledger after := by
  unfold unlock
  by_cases short : ledger.custody < amount
  · exact .refused (.insufficientFunds amount ledger.custody) (by simp [runOn_bind, short])
  · have enough : amount ≤ ledger.custody := UInt64.not_lt.mp short
    cases sum : Word64.add? (ledger.balance account) amount with
    | none => exact .refused .overflow (by simp [runOn_bind, runOn_sum, short, sum])
    | some balance =>
        refine .done ()
          { ledger.setBalance account balance with custody := ledger.custody - amount }
          (by simp [runOn_bind, runOn_sum, short, sum]) ?_
        refine pays_of_totals (Word64.add?_eq_some_iff.mp sum) rfl ?_ rfl
        show (ledger.custody - amount).toNat + amount.toNat = ledger.custody.toNat
        rw [UInt64.toNat_sub_of_le _ _ enough]
        exact Nat.sub_add_cancel (UInt64.le_iff_toNat_le.mp enough)

/-- Locking takes into custody, or leaves the ledger as it was. -/
theorem lock_transacts (account : Address) (amount : UInt64) (ledger : Ledger) :
    (lock account amount).Transacts ledger fun _ after =>
      Takes .locking account amount ledger after := by
  unfold lock
  cases custody : Word64.add? ledger.custody amount with
  | none => exact .refused .overflow (by simp [runOn_bind, runOn_sum, custody])
  | some total =>
      by_cases short : ledger.balance account < amount
      · exact .refused (.insufficientFunds amount (ledger.balance account))
          (by simp [runOn_bind, runOn_sum, runOn_debit, custody, short])
      · refine .done ()
          { ledger.setBalance account (ledger.balance account - amount) with custody := total }
          (by simp [runOn_bind, runOn_sum, runOn_debit, custody, short]) ?_
        exact takes_of_totals (UInt64.not_lt.mp short) rfl
          (Word64.add?_eq_some_iff.mp custody) rfl

/-- The supply is not checked when tokens are destroyed: that it is large enough is conservation. -/
theorem burn_transacts {ledger : Ledger} (balanced : ledger.Balanced) (account : Address)
    (amount : UInt64) :
    (burn account amount).Transacts ledger fun _ after =>
      Takes .burning account amount ledger after := by
  unfold burn
  by_cases short : ledger.balance account < amount
  · exact .refused (.insufficientFunds amount (ledger.balance account))
      (by simp [runOn_bind, runOn_debit, short])
  · have enough : amount ≤ ledger.balance account := UInt64.not_lt.mp short
    have covered : amount ≤ ledger.supply := by
      have := UInt64.le_iff_toNat_le.mp enough
      have := ledger.balance_le_held account
      unfold Balanced at balanced
      rw [UInt64.le_iff_toNat_le]
      omega
    refine .done ()
      { ledger.setBalance account (ledger.balance account - amount) with
        supply := ledger.supply - amount }
      (by simp [runOn_bind, runOn_debit, short, setBalance]) ?_
    refine takes_of_totals enough rfl rfl ?_
    show (ledger.supply - amount).toNat + amount.toNat = ledger.supply.toNat
    rw [UInt64.toNat_sub_of_le _ _ covered]
    exact Nat.sub_add_cancel (UInt64.le_iff_toNat_le.mp covered)

/-- Funding adds to custody, or leaves the ledger as it was. -/
theorem fundCustody_transacts (amount : UInt64) (ledger : Ledger) :
    (fundCustody amount).Transacts ledger fun _ after => Funds amount ledger after := by
  unfold fundCustody
  cases supply : Word64.add? ledger.supply amount with
  | none => exact .refused .overflow (by simp [runOn_bind, runOn_sum, supply])
  | some total =>
      cases custody : Word64.add? ledger.custody amount with
      | none => exact .refused .overflow (by simp [runOn_bind, runOn_sum, supply, custody])
      | some reserve =>
          refine .done () { ledger with supply := total, custody := reserve }
            (by simp [runOn_bind, runOn_sum, supply, custody]) ?_
          exact ⟨rfl, Word64.add?_eq_some_iff.mp custody, Word64.add?_eq_some_iff.mp supply⟩

/-! ### When a payment cannot fail -/

/-- A sum that stays below the bound is the value of a word. -/
theorem exists_add? {a b : UInt64} (fits : a.toNat + b.toNat < Word64.bound) :
    ∃ total, Word64.add? a b = some total := by
  cases sum : Word64.add? a b with
  | some total => exact ⟨total, rfl⟩
  | none =>
      have := Word64.ofNat?_eq_none_iff.mp sum
      omega

/-- What is in custody can be paid to any account: balance and custody together are no more than the
supply, which is a word. -/
theorem unlock_yields {ledger : Ledger} (balanced : ledger.Balanced) {amount : UInt64}
    (enough : amount ≤ ledger.custody) (account : Address) :
    (unlock account amount).Yields ledger fun _ after =>
      Pays .locking account amount ledger after := by
  have fits : (ledger.balance account).toNat + amount.toNat < Word64.bound := by
    have := UInt64.le_iff_toNat_le.mp enough
    have := ledger.balance_le_held account
    have : ledger.supply.toNat < Word64.bound := ledger.supply.toNat_lt
    unfold Balanced at balanced
    omega
  obtain ⟨balance, sum⟩ := exists_add? fits
  cases unlock_transacts account amount ledger with
  | done result after runs pays => exact ⟨result, after, runs, pays⟩
  | refused fault runs =>
      have short := UInt64.not_lt.mpr enough
      simp [unlock, runOn_bind, runOn_sum, short, sum] at runs

/-- What the supply has room for can be paid to any account. -/
theorem mint_yields {ledger : Ledger} (balanced : ledger.Balanced) {amount : UInt64}
    (room : (Word64.add? ledger.supply amount).isSome) (account : Address) :
    (mint account amount).Yields ledger fun _ after =>
      Pays .burning account amount ledger after := by
  obtain ⟨total, supply⟩ := Option.isSome_iff_exists.mp room
  have fits : (ledger.balance account).toNat + amount.toNat < Word64.bound := by
    have := Word64.add?_eq_some_iff.mp supply
    have := ledger.balance_le_held account
    have : total.toNat < Word64.bound := total.toNat_lt
    unfold Balanced at balanced
    omega
  obtain ⟨balance, sum⟩ := exists_add? fits
  cases mint_transacts account amount ledger with
  | done result after runs pays => exact ⟨result, after, runs, pays⟩
  | refused fault runs => simp [mint, runOn_bind, runOn_sum, supply, sum] at runs

/-- What an account has can be locked: balance and custody together are no more than the supply. -/
theorem lock_yields {ledger : Ledger} (balanced : ledger.Balanced) {account : Address}
    {amount : UInt64} (enough : amount ≤ ledger.balance account) :
    (lock account amount).Yields ledger fun _ after =>
      Takes .locking account amount ledger after := by
  have fits : ledger.custody.toNat + amount.toNat < Word64.bound := by
    have := UInt64.le_iff_toNat_le.mp enough
    have := ledger.balance_le_held account
    have : ledger.supply.toNat < Word64.bound := ledger.supply.toNat_lt
    unfold Balanced at balanced
    omega
  obtain ⟨custody, sum⟩ := exists_add? fits
  cases lock_transacts account amount ledger with
  | done result after runs takes => exact ⟨result, after, runs, takes⟩
  | refused fault runs =>
      have short := UInt64.not_lt.mpr enough
      simp [lock, runOn_bind, runOn_sum, runOn_debit, short, sum] at runs

/-- What an account has can be burned. -/
theorem burn_yields {ledger : Ledger} (balanced : ledger.Balanced) {account : Address}
    {amount : UInt64} (enough : amount ≤ ledger.balance account) :
    (burn account amount).Yields ledger fun _ after =>
      Takes .burning account amount ledger after := by
  cases burn_transacts balanced account amount with
  | done result after runs takes => exact ⟨result, after, runs, takes⟩
  | refused fault runs =>
      have short := UInt64.not_lt.mpr enough
      simp [burn, runOn_bind, runOn_debit, short] at runs

/-- What the supply has room for can be put into custody, which is a part of the supply. -/
theorem fundCustody_yields {ledger : Ledger} (balanced : ledger.Balanced) {amount : UInt64}
    (room : (Word64.add? ledger.supply amount).isSome) :
    (fundCustody amount).Yields ledger fun _ after => Funds amount ledger after := by
  obtain ⟨total, supply⟩ := Option.isSome_iff_exists.mp room
  have fits : ledger.custody.toNat + amount.toNat < Word64.bound := by
    have := Word64.add?_eq_some_iff.mp supply
    have : total.toNat < Word64.bound := total.toNat_lt
    unfold Balanced at balanced
    omega
  obtain ⟨custody, sum⟩ := exists_add? fits
  cases fundCustody_transacts amount ledger with
  | done result after runs funds => exact ⟨result, after, runs, funds⟩
  | refused fault runs => simp [fundCustody, runOn_bind, runOn_sum, supply, sum] at runs

/-! ### The ledger after a payment -/

/-- Adds to the balance of an account. -/
def credit (ledger : Ledger) (account : Address) (amount : UInt64) : Ledger :=
  ledger.setBalance account (ledger.balance account + amount)

/-- **The ledger after a payment**, word for word. -/
def paid (ledger : Ledger) (mode : Mode) (account : Address) (amount : UInt64) : Ledger :=
  match mode with
  | .locking => { ledger.credit account amount with custody := ledger.custody - amount }
  | .burning => { ledger.credit account amount with supply := ledger.supply + amount }

private theorem eq_add_of_add? {a b total : UInt64} (sum : Word64.add? a b = some total) :
    total = a + b := by
  have value := Word64.add?_eq_some_iff.mp sum
  have bound : total.toNat < 2 ^ 64 := total.toNat_lt
  apply UInt64.toNat.inj
  rw [UInt64.toNat_add]
  omega

theorem eq_paid_of_unlock {ledger : Ledger} {u : Unit}
    (runs : (unlock account amount).runOn ledger = (.ok u, after)) :
    after = ledger.paid .locking account amount := by
  unfold unlock at runs
  by_cases short : ledger.custody < amount
  · simp [runOn_bind, short] at runs
  · cases sum : Word64.add? (ledger.balance account) amount with
    | none => simp [runOn_bind, runOn_sum, short, sum] at runs
    | some balance =>
        rw [paid, credit, ← eq_add_of_add? sum]
        simpa [runOn_bind, runOn_sum, short, sum] using runs.symm

theorem eq_paid_of_mint {ledger : Ledger} {u : Unit}
    (runs : (mint account amount).runOn ledger = (.ok u, after)) :
    after = ledger.paid .burning account amount := by
  unfold mint at runs
  cases supply : Word64.add? ledger.supply amount with
  | none => simp [runOn_bind, runOn_sum, supply] at runs
  | some total =>
      cases sum : Word64.add? (ledger.balance account) amount with
      | none => simp [runOn_bind, runOn_sum, supply, sum] at runs
      | some balance =>
          rw [paid, credit, ← eq_add_of_add? sum, ← eq_add_of_add? supply]
          simpa [runOn_bind, runOn_sum, supply, sum] using runs.symm

/-- Credits may be made in either order. -/
theorem credit_comm (ledger : Ledger) (a b : Address) (x y : UInt64) :
    (ledger.credit a x).credit b y = (ledger.credit b y).credit a x := by
  have balance (a b : Address) (x : UInt64) : (ledger.credit a x).balance b =
      if b = a then ledger.balance a + x else ledger.balance b := balance_setBalance _ _ _ _
  show (ledger.credit a x).setBalance b ((ledger.credit a x).balance b + y) =
    (ledger.credit b y).setBalance a ((ledger.credit b y).balance a + x)
  rw [balance, balance]
  unfold credit setBalance
  by_cases same : a = b
  · subst same
    rw [if_pos rfl, if_pos rfl, Table.insert_insert, Table.insert_insert]
    congr 2
    grind
  · rw [if_neg (Ne.symm same), if_neg same, Table.insert_comm _ same]

/-- **Two payments leave the same ledger** in either order, also if they go to one account. -/
theorem paid_comm (ledger : Ledger) (mode : Mode) (a b : Address) (x y : UInt64) :
    (ledger.paid mode a x).paid mode b y = (ledger.paid mode b y).paid mode a x := by
  have credits := ledger.credit_comm a b x y
  cases mode with
  | locking =>
      have custody : ledger.custody - x - y = ledger.custody - y - x := by grind
      show { (ledger.credit a x).credit b y with custody := ledger.custody - x - y } =
        { (ledger.credit b y).credit a x with custody := ledger.custody - y - x }
      rw [credits, custody]
  | burning =>
      have supply : ledger.supply + x + y = ledger.supply + y + x := by grind
      show { (ledger.credit a x).credit b y with supply := ledger.supply + x + y } =
        { (ledger.credit b y).credit a x with supply := ledger.supply + y + x }
      rw [credits, supply]

end Ledger

end TokenTransfer
