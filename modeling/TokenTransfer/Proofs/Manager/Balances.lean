import TokenTransfer.Proofs.Manager.Operations

/-!
# What effects do to balances

The effects of an event tell all that has happened to any account: its balance has grown by what was
minted and paid to it, and shrunk by what was sent from it.

## Main definitions

* `OutboxItem.worth` - the amount of an item in units of the local token
* `Effect.credit`, `Effect.debit` - what an effect adds to an account and takes from it
* `Effect.sentWeight`, `Effect.paidWeight` - for totals over what was sent, and over what was paid
-/

namespace TokenTransfer

/-- The amount of a transfer in units of a token with the given decimals.  Every item in an outbox
has one, as the step that sends it says. -/
def OutboxItem.worth (item : OutboxItem) (decimals : UInt8) : Nat :=
  match item.amount.untrim decimals with
  | .ok value => value
  | .error _ => 0

/-- The worth of an item is what its amount untrims to. -/
theorem OutboxItem.worth_eq {item : OutboxItem} {decimals : UInt8} {value : Nat}
    (h : item.amount.untrim decimals = .ok value) : item.worth decimals = value := by
  rw [worth, h]

namespace Manager

/-- An item is worth what its sender pays. -/
theorem Prepared.worth_eq {m : Manager} {request : TransferRequest} {now : Timestamp}
    {dispatch : Dispatch} (prepared : Prepared m request now dispatch) (sequence : UInt64)
    (time : Timestamp) :
    (request.item dispatch sequence time).worth m.settings.tokenDecimals =
      dispatch.amount.toNat := by
  obtain ⟨peer, known, scales⟩ := prepared.peer
  exact OutboxItem.worth_eq (Amount.dedust_eq_ok scales).2

/-- What an effect adds to an account. -/
def Effect.credit (account : Address) : Effect → Nat
  | paid payout => if payout.recipient = account then payout.amount.toNat else 0
  | minted receiver amount => if receiver = account then amount.toNat else 0
  | _ => 0

/-- What an effect takes from an account, in units of a token with the given decimals. -/
def Effect.debit (decimals : UInt8) (account : Address) : Effect → Nat
  | sent item => if item.sender = account then item.worth decimals else 0
  | _ => 0

/-- What a transfer that was sent weighs; other effects weigh nothing. -/
def Effect.sentWeight (weight : OutboxItem → Nat) : Effect → Nat
  | sent item => weight item
  | _ => 0

/-- What a payout weighs; other effects weigh nothing. -/
def Effect.paidWeight (weight : Payout → Nat) : Effect → Nat
  | paid payout => weight payout
  | _ => 0

/-- **A move changes the balance of every account** by what its effect adds and takes. -/
theorem Step.balance {m m' : Manager} {move : Move} (step : Step m move m') (account : Address) :
    (m'.ledger.balance account).toNat +
        move.effect?.elim 0 (Effect.debit m.settings.tokenDecimals account) =
      (m.ledger.balance account).toNat + move.effect?.elim 0 (Effect.credit account) := by
  cases step with
  | @pay _ item _ _ _ found waits due pays =>
      by_cases own : item.recipient = account
      · subst own
        simpa [Move.effect?, Effect.credit, Effect.debit, InboxItem.payout] using pays.balance
      · have same := pays.others account (Ne.symm own)
        simp [Move.effect?, Effect.credit, Effect.debit, InboxItem.payout, own, same]
  | @send item _ _ _ _ _ numbered unreleased known decimals worth takes =>
      by_cases own : item.sender = account
      · subst own
        simpa [Move.effect?, Effect.credit, Effect.debit, OutboxItem.worth_eq worth]
          using takes.balance
      · have same := takes.others account (Ne.symm own)
        simp [Move.effect?, Effect.credit, Effect.debit, own, same]
  | @mint receiver _ _ pays =>
      by_cases own : receiver = account
      · subst own
        simpa [Move.effect?, Effect.credit, Effect.debit] using pays.balance
      · have same := pays.others account (Ne.symm own)
        simp [Move.effect?, Effect.credit, Effect.debit, own, same]
  | fund funds =>
      simp [Move.effect?, Effect.credit, Effect.debit, Ledger.balance, funds.balances]
  | receive | announce | configure => rfl

/-- **An event changes the balance of every account** by what its effects add and take. -/
theorem Event.balance (e : Event) (balanced : e.before.ledger.Balanced) (account : Address) :
    (e.after.ledger.balance account).toNat +
        (e.effects.map (Effect.debit e.before.settings.tokenDecimals account)).sum =
      (e.before.ledger.balance account).toNat + (e.effects.map (Effect.credit account)).sum := by
  obtain ⟨moves, trace, effects⟩ := e.exists_trace balanced
  rw [← effects]
  refine trace.sum_eq (fun m => (m.ledger.balance account).toNat) _ _ ?_
  intro before after move step same
  rw [← tokenDecimals_eq_of_fixed_eq same]
  exact step.balance account

end Manager

end TokenTransfer
