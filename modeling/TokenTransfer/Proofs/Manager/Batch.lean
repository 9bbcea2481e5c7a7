import TokenTransfer.Proofs.Manager.Receiving

/-!
# Redeeming a batch

A batch is rehearsed before anything is changed: its attestations are all checked against the same
state, and its payouts are made on a forecast of the limits and totals alone.  The rehearsal looks
neither at balances nor at the inbox, and the checks of a redemption that comes later would see what
the earlier ones have left.

It predicts them all the same.  Acceptance leaves the peers and the settings alone and uses up one
key, so a transfer that was valid before is valid after if its key is another one
(`Accepted.validate_eq_ok_iff`); the limits and totals that it leaves are those of the forecast
(`Accepted.forecast_eq`).  What is left of a rehearsal after the first acceptance is therefore the
rehearsal of the rest, and this is what the inductions on batches go by.

## Main definitions

* `Manager.Rehearsed` - what a rehearsal has found
* `Manager.AcceptedAll` - what accepting a batch does, transfer by transfer

## Main statements

* `Accepted.rehearsed_iff` - the rehearsal of the rest, after the first acceptance
* `Rehearsed.yields` - no acceptance of a rehearsed batch fails
* `redeemBatch_transacts` - a batch takes in all its transfers, or nothing
-/

namespace TokenTransfer

namespace Manager

open Fallible

variable {m m' : Manager} {now : Timestamp}

/-! ### Rehearsals -/

/-- Attestations pass the checks together when they pass them one by one and their keys differ. -/
theorem validateAll_eq_ok_iff {before transfers : List ValidTransfer}
    {attestations : List Attestation}
    (distinct : (before.reverse.map ValidTransfer.key).Nodup) :
    m.validateAll before attestations = .ok transfers ↔
      ∃ fresh, transfers = before.reverse ++ fresh ∧
        List.Forall₂ (fun attestation transfer => m.validate attestation = .ok transfer)
          attestations fresh ∧
        (transfers.map ValidTransfer.key).Nodup := by
  induction attestations generalizing before with
  | nil =>
      constructor
      · intro h
        cases h
        exact ⟨[], (List.append_nil _).symm, .nil, distinct⟩
      · rintro ⟨fresh, rfl, valid, -⟩
        cases valid
        rw [List.append_nil]
        rfl
  | cons attestation rest ih =>
      -- A transfer may come next exactly when its key is not among those before it.
      have next {transfer : ValidTransfer} :
          ((transfer :: before).reverse.map ValidTransfer.key).Nodup ↔
            transfer.key ∉ before.map ValidTransfer.key := by
        rw [List.map_reverse] at distinct ⊢
        rw [List.nodup_reverse] at distinct ⊢
        rw [List.map_cons, List.nodup_cons]
        exact and_iff_left distinct
      unfold validateAll
      constructor
      · intro h
        cases validates : m.validate attestation with
        | error fault =>
            rw [validates] at h
            cases h
        | ok transfer =>
            rw [validates] at h
            dsimp only at h
            split at h
            · cases h
            · rename_i unused
              obtain ⟨fresh, split, valid, distinct'⟩ := (ih (next.mpr unused)).mp h
              rw [List.reverse_cons, List.append_assoc] at split
              exact ⟨transfer :: fresh, split, .cons validates valid, distinct'⟩
      · rintro ⟨_, rfl, valid, distinct'⟩
        cases valid with
        | @cons _ transfer _ fresh validates valid =>
            have split : before.reverse ++ transfer :: fresh =
                (transfer :: before).reverse ++ fresh := by
              rw [List.reverse_cons, List.append_assoc]
              rfl
            have unused : transfer.key ∉ before.map ValidTransfer.key := by
              rw [split, List.map_append] at distinct'
              exact next.mp distinct'.of_append_left
            rw [validates]
            dsimp only
            rw [if_neg unused]
            exact (ih (next.mpr unused)).mpr ⟨fresh, split, valid, distinct'⟩

/-- The same of a whole list, with nothing before it. -/
theorem validateAll_nil_eq_ok_iff {attestations : List Attestation}
    {transfers : List ValidTransfer} :
    m.validateAll [] attestations = .ok transfers ↔
      List.Forall₂ (fun attestation transfer => m.validate attestation = .ok transfer)
          attestations transfers ∧
        (transfers.map ValidTransfer.key).Nodup := by
  rw [@validateAll_eq_ok_iff m [] transfers attestations List.nodup_nil]
  constructor
  · rintro ⟨_, rfl, found⟩
    exact found
  · intro found
    exact ⟨transfers, rfl, found⟩

/-- **What a rehearsal has found.** -/
structure Rehearsed (m : Manager) (attestations : List Attestation) (now : Timestamp)
    (transfers : List ValidTransfer) : Prop where
  valid : List.Forall₂ (fun attestation transfer => m.validate attestation = .ok transfer)
    attestations transfers
  distinct : (transfers.map ValidTransfer.key).Nodup
  foreseen : ∃ f, transfers.foldlM (Forecast.step m.settings.mode now) m.forecast = .ok f

/-- A rehearsal that succeeds has validated every attestation, met no key twice and forecast every
transfer. -/
theorem rehearsed_of_rehearse {attestations : List Attestation} {transfers : List ValidTransfer}
    (h : m.rehearse attestations now = .ok transfers) :
    Rehearsed m attestations now transfers := by
  unfold rehearse at h
  obtain ⟨transfers', validates, h⟩ := Outcome.bind_eq_ok_iff.mp h
  obtain ⟨f, foreseen, h⟩ := Outcome.bind_eq_ok_iff.mp h
  cases h
  obtain ⟨valid, distinct⟩ := validateAll_nil_eq_ok_iff.mp validates
  exact ⟨valid, distinct, f, foreseen⟩

/-- **A rehearsal succeeds** exactly when all this can be found. -/
theorem rehearse_eq_ok_iff {attestations : List Attestation} {transfers : List ValidTransfer} :
    m.rehearse attestations now = .ok transfers ↔ Rehearsed m attestations now transfers := by
  refine ⟨rehearsed_of_rehearse, ?_⟩
  rintro ⟨valid, distinct, f, foreseen⟩
  have validates := validateAll_nil_eq_ok_iff.mpr ⟨valid, distinct⟩
  exact Outcome.bind_eq_ok_iff.mpr
    ⟨transfers, validates, Outcome.bind_eq_ok_iff.mpr ⟨f, foreseen, rfl⟩⟩

/-! ### After the first acceptance -/

namespace Accepted

variable {transfer : ValidTransfer} {redemption : Redemption}

/-- Acceptance uses up the key of the transfer and no other. -/
theorem absent_iff (accepted : Accepted m transfer now redemption m') {key : TransferKey} :
    m'.inbox.find? key = none ↔ key ≠ transfer.key ∧ m.inbox.find? key = none := by
  by_cases same : key = transfer.key
  · obtain ⟨item, found⟩ := accepted.exists_entry
    rw [same, found]
    simp
  · rw [accepted.find?_eq same]
    exact (and_iff_right same).symm

/-- **Acceptance keeps the checks**, but for the key that is used up. -/
theorem validate_eq_ok_iff (accepted : Accepted m transfer now redemption m')
    {attestation : Attestation} {other : ValidTransfer} :
    m'.validate attestation = .ok other ↔
      other.key ≠ transfer.key ∧ m.validate attestation = .ok other := by
  have settings := accepted.settings_eq
  have kept : m'.transceivers = m.transceivers ∧
      m'.messageOf attestation = m.messageOf attestation := by
    cases accepted with
    | queued limited waits => exact ⟨rfl, rfl⟩
    | released limited fits pays => exact ⟨rfl, rfl⟩
  obtain ⟨transceivers, messages⟩ := kept
  rw [Manager.validate_eq_ok_iff, Manager.validate_eq_ok_iff]
  constructor
  · rintro ⟨fromChain, active, emitter, message, absent, suits⟩
    obtain ⟨differs, absent⟩ := accepted.absent_iff.mp absent
    rw [settings] at active suits
    rw [transceivers] at emitter
    rw [messages] at message
    exact ⟨differs, fromChain, active, emitter, message, absent, suits⟩
  · rintro ⟨differs, fromChain, active, emitter, message, absent, suits⟩
    rw [← settings] at active suits
    rw [← transceivers] at emitter
    rw [← messages] at message
    exact ⟨fromChain, active, emitter, message, accepted.absent_iff.mpr ⟨differs, absent⟩, suits⟩

/-- After a transfer was accepted, attestations are valid as before unless they are for its key. -/
theorem validateEach_iff (accepted : Accepted m transfer now redemption m')
    {attestations : List Attestation} {transfers : List ValidTransfer} :
    List.Forall₂ (fun attestation other => m'.validate attestation = .ok other)
        attestations transfers ↔
      transfer.key ∉ transfers.map ValidTransfer.key ∧
      List.Forall₂ (fun attestation other => m.validate attestation = .ok other)
        attestations transfers := by
  constructor
  · intro valid
    induction valid with
    | nil => exact ⟨List.not_mem_nil, .nil⟩
    | cons validates _ ih =>
        obtain ⟨differs, validates⟩ := accepted.validate_eq_ok_iff.mp validates
        obtain ⟨unused, valid⟩ := ih
        rw [List.map_cons, List.mem_cons, not_or]
        exact ⟨⟨differs.symm, unused⟩, .cons validates valid⟩
  · rintro ⟨unused, valid⟩
    induction valid with
    | nil => exact .nil
    | cons validates _ ih =>
        rw [List.map_cons, List.mem_cons, not_or] at unused
        exact .cons (accepted.validate_eq_ok_iff.mpr ⟨Ne.symm unused.1, validates⟩) (ih unused.2)

/-- **The rehearsal of the rest.**  What was foreseen after the first transfer of a batch is what is
foreseen once it is accepted. -/
theorem rehearsed_iff (accepted : Accepted m transfer now redemption m')
    {attestation : Attestation} (validates : m.validate attestation = .ok transfer) {f : Forecast}
    (foreseen : Forecast.step m.settings.mode now m.forecast transfer = .ok f)
    {attestations : List Attestation} {transfers : List ValidTransfer} :
    Rehearsed m (attestation :: attestations) now (transfer :: transfers) ↔
      Rehearsed m' attestations now transfers := by
  have settings := accepted.settings_eq
  have next (g : Forecast) :
      (transfer :: transfers).foldlM (Forecast.step m.settings.mode now) m.forecast = .ok g ↔
        transfers.foldlM (Forecast.step m'.settings.mode now) m'.forecast = .ok g := by
    rw [List.foldlM_cons, foreseen, accepted.forecast_eq foreseen, settings]
    rfl
  constructor
  · rintro ⟨_ | ⟨-, valid⟩, distinct, g, all⟩
    obtain ⟨unused, distinct⟩ := List.nodup_cons.mp distinct
    exact ⟨accepted.validateEach_iff.mpr ⟨unused, valid⟩, distinct, g, (next g).mp all⟩
  · rintro ⟨valid, distinct, g, all⟩
    obtain ⟨unused, valid⟩ := accepted.validateEach_iff.mp valid
    exact ⟨.cons validates valid, List.nodup_cons.mpr ⟨unused, distinct⟩, g, (next g).mpr all⟩

end Accepted

/-- A batch that was rehearsed starts with a transfer that is cleared. -/
theorem Rehearsed.head {attestation : Attestation} {attestations : List Attestation}
    {transfer : ValidTransfer} {transfers : List ValidTransfer}
    (rehearsed : Rehearsed m (attestation :: attestations) now (transfer :: transfers)) :
    m.validate attestation = .ok transfer ∧
      ∃ f, Forecast.step m.settings.mode now m.forecast transfer = .ok f := by
  obtain ⟨_ | ⟨validates, -⟩, -, g, all⟩ := rehearsed
  rw [List.foldlM_cons] at all
  obtain ⟨f, foreseen, -⟩ := Outcome.bind_eq_ok_iff.mp all
  exact ⟨validates, f, foreseen⟩

/-! ### Accepting a batch -/

/-- **What accepting a batch does**, transfer by transfer.  Each of them is new when its turn
comes. -/
inductive AcceptedAll (now : Timestamp) :
    Manager → List ValidTransfer → List Redemption → Manager → Prop
  | nil {m : Manager} : AcceptedAll now m [] [] m
  | cons {m m' m'' : Manager} {transfer : ValidTransfer} {transfers : List ValidTransfer}
      {redemption : Redemption} {redemptions : List Redemption}
      (absent : m.inbox.find? transfer.key = none) (suits : transfer.Suits m.settings)
      (accepted : Accepted m transfer now redemption m')
      (rest : AcceptedAll now m' transfers redemptions m'') :
      AcceptedAll now m (transfer :: transfers) (redemption :: redemptions) m''

/-- A batch that was accepted has taken in its transfers and made the payouts it tells of. -/
theorem AcceptedAll.accepts {transfers : List ValidTransfer} {redemptions : List Redemption}
    (accepted : AcceptedAll now m transfers redemptions m') :
    Accepts m transfers (redemptions.flatMap Redemption.payouts) m' := by
  induction accepted with
  | nil => exact .nil
  | cons absent suits accepted rest ih => exact (accepted.accepts absent suits).append ih

/-- **No acceptance of a rehearsed batch fails.** -/
theorem Rehearsed.yields {attestations : List Attestation} {transfers : List ValidTransfer}
    (rehearsed : Rehearsed m attestations now transfers) (balanced : m.ledger.Balanced) :
    (transfers.mapM (accept · now)).Yields m fun redemptions m' =>
      AcceptedAll now m transfers redemptions m' := by
  induction transfers generalizing m attestations with
  | nil => exact yields_pure .nil
  | cons transfer transfers ih =>
      cases attestations with
      | nil => cases rehearsed.valid
      | cons attestation attestations =>
          obtain ⟨validates, f, foreseen⟩ := rehearsed.head
          have valid := validated_of_validate validates
          rw [List.mapM_cons]
          refine Yields.bind ((accept_yields balanced valid.active foreseen).mono ?_)
          intro redemption m' accepted
          have rest := (accepted.rehearsed_iff validates foreseen).mp rehearsed
          refine Yields.bind ((ih rest (accepted.balanced balanced)).mono ?_)
          intro redemptions m'' acceptedRest
          exact yields_pure (.cons valid.absent valid.suits accepted acceptedRest)

/-- **A batch takes in all its transfers**, or nothing. -/
theorem redeemBatch_transacts (balanced : m.ledger.Balanced) (attestations : List Attestation)
    (now : Timestamp) :
    (redeemBatch attestations now).Transacts m fun redemptions m' =>
      ∃ transfers, Rehearsed m attestations now transfers ∧
        AcceptedAll now m transfers redemptions m' := by
  unfold redeemBatch
  apply transacts_ask_bind
  intro transfers rehearses
  have rehearsed := rehearsed_of_rehearse rehearses
  apply Yields.transacts
  refine (rehearsed.yields balanced).mono ?_
  intro redemptions m' accepted
  exact ⟨transfers, rehearsed, accepted⟩

end Manager

end TokenTransfer
