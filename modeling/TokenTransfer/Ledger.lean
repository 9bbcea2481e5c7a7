import TokenTransfer.Fault
import TokenTransfer.Fallible

/-!
# The ledger

The token of one chain: the balances of its accounts, the amount in the manager's custody and the
total supply.  A manager that locks moves tokens in and out of custody; one that burns changes the
supply.

## Main definitions

* `Ledger` - balances, custody and supply
* `Ledger.mint`, `Ledger.burn` - create and destroy tokens of an account
* `Ledger.lock`, `Ledger.unlock` - move tokens of an account into custody and back
* `Ledger.fundCustody` - create tokens in custody
-/

namespace TokenTransfer

/-- The balances of all accounts, the custody and the total supply. -/
structure Ledger where
  balances : Table Address UInt64
  custody : UInt64
  supply : UInt64

namespace Ledger

/-- The ledger without tokens. -/
def empty : Ledger := { balances := .empty, custody := 0, supply := 0 }

/-- The balance of an account, zero if it never had any tokens. -/
def balance (ledger : Ledger) (account : Address) : UInt64 :=
  (ledger.balances.find? account).getD 0

/-- Sets the balance of an account. -/
def setBalance (ledger : Ledger) (account : Address) (amount : UInt64) : Ledger :=
  { ledger with balances := ledger.balances.insert account amount }

/-- A change of the ledger, which may be refused. -/
abbrev Action := Fallible Fault Ledger Unit

/-- The sum of two amounts, refused if it does not fit a word. -/
def sum (a b : UInt64) : Fallible Fault Ledger UInt64 :=
  match Word64.add? a b with
  | some total => pure total
  | none => throw .overflow

/-- Takes tokens off an account. -/
def debit (account : Address) (amount : UInt64) : Action := do
  let ledger ← get
  let available := ledger.balance account
  if available < amount then throw (.insufficientFunds amount available)
  set (ledger.setBalance account (available - amount))

/-- Creates tokens on an account. -/
def mint (account : Address) (amount : UInt64) : Action := do
  let ledger ← get
  let supply ← sum ledger.supply amount
  let balance ← sum (ledger.balance account) amount
  set { ledger.setBalance account balance with supply }

/-- Destroys tokens of an account. -/
def burn (account : Address) (amount : UInt64) : Action := do
  debit account amount
  modify fun ledger => { ledger with supply := ledger.supply - amount }

/-- Moves tokens of an account into custody. -/
def lock (account : Address) (amount : UInt64) : Action := do
  let ledger ← get
  let custody ← sum ledger.custody amount
  debit account amount
  modify fun ledger => { ledger with custody }

/-- Moves tokens out of custody to an account. -/
def unlock (account : Address) (amount : UInt64) : Action := do
  let ledger ← get
  if ledger.custody < amount then throw (.insufficientFunds amount ledger.custody)
  let balance ← sum (ledger.balance account) amount
  set { ledger.setBalance account balance with custody := ledger.custody - amount }

/-- Creates tokens in custody. -/
def fundCustody (amount : UInt64) : Action := do
  let ledger ← get
  let supply ← sum ledger.supply amount
  let custody ← sum ledger.custody amount
  set { ledger with supply, custody }

end Ledger

end TokenTransfer
