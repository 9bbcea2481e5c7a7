import TokenTransfer.Proofs.Manager.Operations

/-!
# A batch is its redemptions, one after the other

A batch is checked against the manager as it was at the beginning, and the redemptions of its
attestations one after the other against what the earlier ones have left.  Both succeed on the same
attestations and come to the same: the first redemption of a batch leaves a manager on which the
batch of the rest is redeemed, so the batch and the list of redemptions are taken apart together.

## Main statements

* `runOn_redeemBatch_cons_eq_ok_iff` - a batch is its first redemption and then the rest
* `redeemBatch_iff_one_by_one` - a batch is what its redemptions are one after the other
-/

namespace TokenTransfer

namespace Manager

open Fallible

variable {m m' : Manager} {now : Timestamp}

/-! ### When redemptions succeed -/

/-- A batch succeeds when it was rehearsed and its transfers are accepted in order. -/
theorem runOn_redeemBatch_eq_ok_iff {attestations : List Attestation}
    {redemptions : List Redemption} :
    (redeemBatch attestations now).runOn m = (.ok redemptions, m') ↔
      ∃ transfers, Rehearsed m attestations now transfers ∧
        (transfers.mapM (accept · now)).runOn m = (.ok redemptions, m') := by
  unfold redeemBatch
  rw [runOn_ask_bind_eq_ok_iff]
  exact exists_congr fun transfers => and_congr_left' rehearse_eq_ok_iff

/-- A redemption forecasts its one transfer and accepts it. -/
theorem runOn_redeem_eq_ok_iff {attestation : Attestation} {redemption : Redemption} :
    (redeem attestation now).runOn m = (.ok redemption, m') ↔
      ∃ transfer, (m.validate attestation = .ok transfer ∧
          ∃ f, Forecast.step m.settings.mode now m.forecast transfer = .ok f) ∧
        (accept transfer now).runOn m = (.ok redemption, m') := by
  rw [runOn_redeem, runOn_ask_bind_eq_ok_iff]
  exact exists_congr fun transfer => and_congr_left' vet_eq_ok_iff

/-- **A batch is its first redemption and then the batch of the rest.** -/
theorem runOn_redeemBatch_cons_eq_ok_iff (balanced : m.ledger.Balanced)
    {attestation : Attestation} {attestations : List Attestation} {all : List Redemption}
    {m'' : Manager} :
    (redeemBatch (attestation :: attestations) now).runOn m = (.ok all, m'') ↔
      ∃ redemption m' redemptions, (redeem attestation now).runOn m = (.ok redemption, m') ∧
        (redeemBatch attestations now).runOn m' = (.ok redemptions, m'') ∧
        redemption :: redemptions = all := by
  -- On both sides the first transfer is accepted, and the rehearsals of the rest are the same.
  have accepts {transfer : ValidTransfer} {f : Forecast} {redemption : Redemption} {m' : Manager}
      (validates : m.validate attestation = .ok transfer)
      (foreseen : Forecast.step m.settings.mode now m.forecast transfer = .ok f)
      (runs : (accept transfer now).runOn m = (.ok redemption, m')) :
      Accepted m transfer now redemption m' :=
    (accept_yields balanced (validated_of_validate validates).active foreseen).transacts.of_ok runs
  rw [runOn_redeemBatch_eq_ok_iff]
  constructor
  · rintro ⟨transfers, rehearsed, runs⟩
    cases transfers with
    | nil => cases rehearsed.valid
    | cons transfer transfers =>
        obtain ⟨redemption, m', redemptions, first, rest, same⟩ :=
          runOn_mapM_cons_eq_ok_iff.mp runs
        obtain ⟨validates, f, foreseen⟩ := rehearsed.head
        have rehearsed' :=
          ((accepts validates foreseen first).rehearsed_iff validates foreseen).mp rehearsed
        exact ⟨redemption, m', redemptions,
          runOn_redeem_eq_ok_iff.mpr ⟨transfer, ⟨validates, f, foreseen⟩, first⟩,
          runOn_redeemBatch_eq_ok_iff.mpr ⟨transfers, rehearsed', rest⟩, same⟩
  · rintro ⟨redemption, m', redemptions, first, rest, same⟩
    obtain ⟨transfer, ⟨validates, f, foreseen⟩, first⟩ := runOn_redeem_eq_ok_iff.mp first
    obtain ⟨transfers, rehearsed', rest⟩ := runOn_redeemBatch_eq_ok_iff.mp rest
    have rehearsed :=
      ((accepts validates foreseen first).rehearsed_iff validates foreseen).mpr rehearsed'
    exact ⟨transfer :: transfers, rehearsed,
      runOn_mapM_cons_eq_ok_iff.mpr ⟨redemption, m', redemptions, first, rest, same⟩⟩

/-- A redemption that succeeds leaves a balanced ledger. -/
theorem balanced_of_runOn_redeem (balanced : m.ledger.Balanced) {attestation : Attestation}
    {redemption : Redemption} (runs : (redeem attestation now).runOn m = (.ok redemption, m')) :
    m'.ledger.Balanced := by
  obtain ⟨transfer, -, accepted⟩ := (redeem_transacts balanced attestation now).of_ok runs
  exact accepted.balanced balanced

/-- **A batch that succeeds is its redemptions one by one.** -/
theorem runOn_redeemBatch_eq_ok_iff_mapM (balanced : m.ledger.Balanced)
    {attestations : List Attestation} {redemptions : List Redemption} :
    (redeemBatch attestations now).runOn m = (.ok redemptions, m') ↔
      (attestations.mapM (redeem · now)).runOn m = (.ok redemptions, m') := by
  induction attestations generalizing m redemptions with
  | nil => exact Iff.rfl
  | cons attestation rest ih =>
      rw [runOn_redeemBatch_cons_eq_ok_iff balanced, runOn_mapM_cons_eq_ok_iff]
      constructor
      · rintro ⟨redemption, mid, redemptions, first, batch, same⟩
        have balanced' := balanced_of_runOn_redeem balanced first
        exact ⟨redemption, mid, redemptions, first, (ih balanced').mp batch, same⟩
      · rintro ⟨redemption, mid, redemptions, first, each, same⟩
        have balanced' := balanced_of_runOn_redeem balanced first
        exact ⟨redemption, mid, redemptions, first, (ih balanced').mpr each, same⟩

/-- **A batch is what its redemptions are one after the other.**  On a reachable manager both
succeed on the same attestations, with the same outcomes and the same manager at the end; and where
one of the redemptions would be refused, the batch is refused and changes nothing. -/
theorem redeemBatch_iff_one_by_one (reachable : m.Reachable) (attestations : List Attestation)
    (now : Timestamp) :
    (∀ redemptions m', (redeemBatch attestations now).runOn m = (.ok redemptions, m') ↔
      (attestations.mapM (redeem · now)).runOn m = (.ok redemptions, m')) ∧
    ((∀ redemptions m',
        (attestations.mapM (redeem · now)).runOn m ≠ (.ok redemptions, m')) →
      ∃ fault, (redeemBatch attestations now).runOn m = (.error fault, m)) := by
  have same (redemptions : List Redemption) (m' : Manager) :
      (redeemBatch attestations now).runOn m = (.ok redemptions, m') ↔
        (attestations.mapM (redeem · now)).runOn m = (.ok redemptions, m') :=
    runOn_redeemBatch_eq_ok_iff_mapM reachable.balanced
  refine ⟨same, ?_⟩
  intro fails
  cases redeemBatch_transacts reachable.balanced attestations now with
  | refused fault runs => exact ⟨fault, runs⟩
  | done redemptions m' runs accepted => exact absurd ((same _ _).mp runs) (fails redemptions m')

/-- Two transfers are redeemed, of which the second has to wait, and a repeated one is refused. -/
theorem redeemBatch_of_samples :
    (∃ redemptions m',
      (redeemBatch [sampleDelivery 1 1000, sampleDelivery 2 6000000000] 0).runOn sampleReceiver =
          (.ok redemptions, m') ∧
        ([sampleDelivery 1 1000, sampleDelivery 2 6000000000].mapM (redeem · 0)).runOn
          sampleReceiver = (.ok redemptions, m')) ∧
    ∃ fault, (redeemBatch [sampleDelivery 1 1000, sampleDelivery 1 1000] 0).runOn sampleReceiver =
      (.error fault, sampleReceiver) := by
  constructor
  · generalize batch :
      (redeemBatch [sampleDelivery 1 1000, sampleDelivery 2 6000000000] 0).runOn sampleReceiver =
        result
    have succeeds : result.1.isOk := by
      rw [← batch]
      decide +kernel
    obtain ⟨_ | redemptions, m'⟩ := result
    · cases succeeds
    · exact ⟨redemptions, m', rfl,
        ((redeemBatch_iff_one_by_one reachable_sampleReceiver _ 0).1 _ _).mp batch⟩
  · refine (redeemBatch_iff_one_by_one reachable_sampleReceiver _ 0).2 ?_
    intro redemptions m' runs
    have fails : ([sampleDelivery 1 1000, sampleDelivery 1 1000].mapM (redeem · 0)).runOn
        sampleReceiver |>.1.isOk = false := by decide +kernel
    rw [runs] at fails
    cases fails

end Manager

end TokenTransfer
