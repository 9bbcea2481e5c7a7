import TokenTransfer.Proofs.Manager.Operations

/-!
# All or nothing

An operation that is refused leaves the whole manager as it was: balances, custody, supply, peers,
limits, inbox, outbox and the next number.  This is not for free, since operations change the
manager step by step and nothing is rolled back.  It holds because every operation has a point after
which nothing can fail any more:

* a batch is accepted to its end once it was rehearsed, and
* a transfer enters the outbox once its tokens were taken.

The rehearsal knows only the limits and two totals.  That no balance overflows in the middle of a
batch is a matter of conservation, so reachability is needed: on a ledger whose balances exceed its
supply a batch could fail halfway.  A counter of numbers that runs over stops the program, and is no
refusal in this sense.
-/

namespace TokenTransfer

namespace Manager

open Fallible

/-- **All or nothing.**  On a reachable manager a refused operation changes nothing, an acceptance
of a rehearsed batch does not fail, and nothing fails after the tokens of a transfer were taken. -/
theorem all_or_nothing {m : Manager} (reachable : m.Reachable) :
    (∀ (operation : Operation) (fault : Fault) (m' : Manager),
      operation.perform.runOn m = (.error fault, m') → m' = m) ∧
    (∀ (attestations : List Attestation) (now : Timestamp) (transfers : List ValidTransfer),
      m.rehearse attestations now = .ok transfers →
      ∃ redemptions m', (transfers.mapM (accept · now)).runOn m = (.ok redemptions, m')) ∧
    (∀ (request : TransferRequest) (now : Timestamp) (dispatch : Dispatch) (paid : Manager),
      m.prepare request now = .ok dispatch →
      (takeFrom request.sender dispatch.amount).runOn m = (.ok (), paid) →
      ∃ item m', (enqueue request dispatch now).runOn paid = (.ok item, m')) := by
  have balanced := reachable.balanced
  refine ⟨?_, ?_, ?_⟩
  · intro operation fault m' fails
    exact (Operation.perform_transacts balanced operation).of_error fails
  · intro attestations now transfers rehearses
    obtain ⟨redemptions, m', runs, -⟩ := (rehearsed_of_rehearse rehearses).yields balanced
    exact ⟨redemptions, m', runs⟩
  · intro request now dispatch paid prepares takes
    obtain ⟨limit, limited⟩ := (prepared_of_prepare prepares).limit
    obtain ⟨ledger, rfl, -⟩ :=
      (takeFrom_transacts balanced request.sender dispatch.amount).of_ok takes
    obtain ⟨item, m', runs, -⟩ := enqueue_yields (m := { m with ledger }) limited dispatch now
    exact ⟨item, m', runs⟩

/-- A sender cannot send more than is left, and nothing has changed when this is refused. -/
theorem all_or_nothing_of_overdraft :
    (Operation.transfer { sampleRequest with amount := 2000000000 } 0).perform.runOn sampleManager =
      (.error (.insufficientFunds 2000000000 1765433000), sampleManager) := by
  generalize same : (Operation.transfer { sampleRequest with amount := 2000000000 } 0).perform.runOn
    sampleManager = result
  obtain ⟨outcome, after⟩ := result
  have refused : outcome = .error (.insufficientFunds 2000000000 1765433000) := by
    rw [show outcome = _ from (congrArg Prod.fst same).symm]
    decide +kernel
  rw [refused] at same ⊢
  rw [(all_or_nothing reachable_sampleManager).1 _ _ _ same]

end Manager

end TokenTransfer
