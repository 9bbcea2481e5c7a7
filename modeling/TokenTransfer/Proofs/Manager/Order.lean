import TokenTransfer.Proofs.Manager.Alike
import TokenTransfer.Proofs.Manager.Limits
import TokenTransfer.Proofs.Manager.OneByOne

/-!
# The order of a batch

A batch whose transfers are all paid at once may be redeemed in any order.  What one redemption asks
of the manager, it asks of a key, a limit and a total, and an earlier one only takes away from them:
so two redemptions that follow one another may be exchanged (`Clears.exchange`), and any order comes
from another by such exchanges.

What is left is the same in each order: balances and totals are sums, the inbox has an entry for
each transfer, and a limit is at what the transfers of its chain have left of it.  That is an
equality of managers where the capacity takes its time to come back.

Where it comes back in an instant, what a limit stores is what the last claim has left of the whole
capacity, so two orders may leave it different (`redeemBatch_order_stored`).  It is never looked at:
the managers are alike (`Manager.Alike`), and no operation tells them apart.

## Main definitions

* `Manager.Clears` - an attestation is redeemed and paid at once
* `Manager.paidOut` - the manager after the payment, word for word
* `Manager.Clearing` - a list of attestations is redeemed, each of them paid at once

## Main statements

* `runOn_redeem_eq_released_iff` - when a redemption is paid at once, and what it leaves
* `Clears.exchange` - two redemptions in either order
* `Clearing.find?_inbound` - what a batch leaves of the limit of each chain
* `redeemBatch_perm` - a batch that is paid at once, in any order
* `redeemBatch_order_stored` - two orders of a batch that leave different managers
-/

namespace TokenTransfer

namespace Manager

open Fallible

variable {m m' n : Manager} {now : Timestamp}

/-! ### After a redemption that is paid -/

/-- The manager after a transfer was redeemed and paid. -/
def paidOut (m : Manager) (transfer : ValidTransfer) (limit : RateLimit) (now : Timestamp) :
    Manager :=
  { m with
    ledger := m.ledger.paid m.settings.mode (transfer.entry now).recipient transfer.amount
    inbound := m.inbound.insert transfer.fromChain (limit.claim transfer.amount now).2
    outbound := m.outbound.refill transfer.amount now
    inbox := m.inbox.insert transfer.key { transfer.entry now with status := .released } }

/-- A transfer that fits the capacity is paid as soon as it is in the inbox. -/
theorem runOn_accept_of_fits {transfer : ValidTransfer} {limit : RateLimit}
    (limited : m.inbound.find? transfer.fromChain = some limit)
    (fits : transfer.amount ≤ limit.capacity now) :
    (accept transfer now).runOn m =
      (Redemption.released <$> payOut transfer.key now).runOn
        { m with
          inbound := m.inbound.insert transfer.fromChain (limit.claim transfer.amount now).2
          outbound := m.outbound.refill transfer.amount now
          inbox := m.inbox.insert transfer.key (transfer.entry now) } := by
  have claims : limit.claim transfer.amount now =
      (.consumed now, (limit.claim transfer.amount now).2) := by
    simp [RateLimit.claim, fits]
  have approves :
      (InboxItem.releaseAfter now).runOn
          (InboxItem.ofMessage transfer.fromChain transfer.message transfer.amount) =
        (.ok (), transfer.entry now) := runOn_releaseAfter rfl now
  have lookup : (ask (inboundLimit · transfer.fromChain)).runOn m = (.ok limit, m) :=
    congrArg (·, m) (inboundLimit_eq_ok_iff.mpr limited)
  unfold accept
  rw [runOn_bind_of_ok lookup]
  generalize (limit.claim transfer.amount now).2 = limit' at claims
  simp [runOn_bind, runOn_map, claims, approves, transfer.key_entry]

/-! ### Attestations that clear -/

/-- **An attestation clears**: it is valid, fits the capacity and can be paid. -/
structure Clears (m : Manager) (now : Timestamp) (attestation : Attestation)
    (transfer : ValidTransfer) (limit : RateLimit) : Prop where
  validates : m.validate attestation = .ok transfer
  limited : m.inbound.find? transfer.fromChain = some limit
  fits : transfer.amount ≤ limit.capacity now
  payable :
    ensurePayable m.settings.mode m.ledger.custody m.ledger.supply transfer.amount = .ok ()

section Clears

variable {attestation : Attestation} {transfer : ValidTransfer} {limit : RateLimit}
  {payout : Payout}

/-- What a redemption that was paid has cleared. -/
theorem exists_clears_of_runOn_redeem (balanced : m.ledger.Balanced)
    (runs : (redeem attestation now).runOn m = (.ok (.released payout), m')) :
    ∃ transfer limit, m.Clears now attestation transfer limit ∧
      payout = (transfer.entry now).payout transfer.key ∧ m' = m.paidOut transfer limit now := by
  obtain ⟨transfer, ⟨validates, f, foreseen⟩, runs⟩ := runOn_redeem_eq_ok_iff.mp runs
  have active := (validated_of_validate validates).active
  have accepted := (accept_yields balanced active foreseen).transacts.of_ok runs
  obtain ⟨limit, limited, ⟨waits, -⟩ | ⟨fits, payable, -⟩⟩ := forecast_step_eq_ok_iff.mp foreseen
  · cases accepted with
    | released limited' fits pays =>
        cases limited.symm.trans limited'
        exact absurd waits (UInt64.not_lt.mpr fits)
  · refine ⟨transfer, limit, ⟨validates, limited, fits, payable⟩, ?_⟩
    rw [runOn_accept_of_fits limited fits, runOn_map] at runs
    obtain ⟨released, left⟩ := Prod.mk.inj runs
    obtain ⟨payout', pays, same⟩ := Outcome.map_eq_ok_iff.mp released
    cases same
    obtain ⟨item, found, told, after⟩ := exists_of_payOut (Prod.ext pays left)
    cases (Table.find?_insert_self _ _ _).symm.trans found
    rw [Table.insert_insert] at after
    exact ⟨told, after⟩

/-- **An attestation is redeemed and paid at once** exactly when it clears. -/
theorem runOn_redeem_eq_released_iff (balanced : m.ledger.Balanced) :
    (redeem attestation now).runOn m = (.ok (.released payout), m') ↔
      ∃ transfer limit, m.Clears now attestation transfer limit ∧
        payout = (transfer.entry now).payout transfer.key ∧
        m' = m.paidOut transfer limit now := by
  refine ⟨exists_clears_of_runOn_redeem balanced, ?_⟩
  rintro ⟨transfer, limit, clears, rfl, rfl⟩
  obtain ⟨validates, limited, fits, payable⟩ := clears
  have active := (validated_of_validate validates).active
  obtain ⟨f, foreseen⟩ : ∃ f, Forecast.step m.settings.mode now m.forecast transfer = .ok f :=
    exists_forecast_step limited fun _ => payable
  obtain ⟨redemption, after, runs, accepted⟩ := accept_yields balanced active foreseen
  have redeems := runOn_redeem_eq_ok_iff.mpr ⟨transfer, ⟨validates, f, foreseen⟩, runs⟩
  cases accepted with
  | queued limited' waits =>
      cases limited.symm.trans limited'
      exact absurd waits (UInt64.not_lt.mpr fits)
  | released _ _ _ =>
      obtain ⟨transfer', limit', clears, -, same⟩ := exists_clears_of_runOn_redeem balanced redeems
      cases validates.symm.trans clears.validates
      cases limited.symm.trans clears.limited
      rw [redeems, same]

/-- What clears is accepted and paid at once. -/
theorem Clears.accepted (clears : m.Clears now attestation transfer limit)
    (balanced : m.ledger.Balanced) :
    Accepted m transfer now (.released ((transfer.entry now).payout transfer.key))
      (m.paidOut transfer limit now) := by
  have runs := (runOn_redeem_eq_released_iff balanced).mpr ⟨transfer, limit, clears, rfl, rfl⟩
  obtain ⟨transfer', validates, accepted⟩ := (redeem_transacts balanced _ _).of_ok runs
  cases clears.validates.symm.trans validates
  exact accepted

/-- What clears is paid to its recipient. -/
theorem Clears.pays (clears : m.Clears now attestation transfer limit)
    (balanced : m.ledger.Balanced) :
    Ledger.Pays m.settings.mode (transfer.entry now).recipient transfer.amount m.ledger
      (m.paidOut transfer limit now).ledger := by
  have accepted := clears.accepted balanced
  generalize same : m.paidOut transfer limit now = after at accepted
  cases accepted with
  | released limited fits pays => exact pays

end Clears

/-! ### Alike managers -/

namespace Alike

/-- What clears on a manager clears on an alike one, and leaves alike managers. -/
theorem clears (alike : m.Alike n) {attestation : Attestation} {transfer : ValidTransfer}
    {limit : RateLimit} (clears : m.Clears now attestation transfer limit) :
    ∃ limit', n.Clears now attestation transfer limit' ∧
      (m.paidOut transfer limit now).Alike (n.paidOut transfer limit' now) := by
  obtain ⟨validates, limited, fits, payable⟩ := clears
  obtain ⟨limit', limited', limits⟩ := alike.inbound.exists_find? limited
  obtain ⟨others, inbound⟩ := alike
  generalize n.inbound = table at *
  subst others
  refine ⟨limit', ⟨validates, limited', ?_, payable⟩, rfl, ?_⟩
  · rw [limits.capacity_eq]
    exact fits
  · exact inbound.insert _ (limits.claim transfer.amount now).2

end Alike

/-! ### Two redemptions in either order -/

/-- The limits of two transfers that fit, in either order. -/
theorem exists_limits_exchanged {inbound : Table ChainId RateLimit} {c d : ChainId}
    {r s : RateLimit} {x y : UInt64} (found : inbound.find? c = some r)
    (fits : x ≤ r.capacity now)
    (found' : (inbound.insert c (r.claim x now).2).find? d = some s)
    (fits' : y ≤ s.capacity now) :
    ∃ s' r', inbound.find? d = some s' ∧ y ≤ s'.capacity now ∧
      (inbound.insert d (s'.claim y now).2).find? c = some r' ∧ x ≤ r'.capacity now ∧
      LimitsAlike ((inbound.insert c (r.claim x now).2).insert d (s.claim y now).2)
        ((inbound.insert d (s'.claim y now).2).insert c (r'.claim x now).2) := by
  by_cases same : d = c
  · subst same
    rw [Table.find?_insert_self] at found'
    cases found'
    refine ⟨r, (r.claim y now).2, found, RateLimit.fits_of_fits_claim fits fits',
      Table.find?_insert_self _ _ _, RateLimit.fits_claim_of_fits fits fits', ?_⟩
    rw [Table.insert_insert, Table.insert_insert]
    exact (LimitsAlike.refl inbound).insert d (RateLimit.claim_comm fits fits')
  · rw [Table.find?_insert_of_ne _ _ same] at found'
    refine ⟨s, r, found', fits', ?_, fits, ?_⟩
    · rwa [Table.find?_insert_of_ne _ _ (Ne.symm same)]
    · rw [Table.insert_comm _ same]
      exact .refl _

/-- A payment is possible if custody has the amount, or the supply has room for it. -/
theorem ensurePayable_eq_ok_iff {mode : Mode} {custody supply amount : UInt64} {u : Unit} :
    ensurePayable mode custody supply amount = .ok u ↔
      mode.locked amount.toNat ≤ custody.toNat ∧
        supply.toNat + mode.burned amount.toNat < Word64.bound := by
  unfold ensurePayable
  cases mode with
  | locking =>
      have room : supply.toNat < Word64.bound := supply.toNat_lt
      simp [UInt64.lt_iff_toNat_lt, room]
  | burning =>
      cases sum : Word64.add? supply amount with
      | none =>
          have exceeds := Word64.ofNat?_eq_none_iff.mp sum
          simp [exceeds]
      | some total =>
          have fits := Word64.add?_eq_some_iff.mp sum
          have room : total.toNat < Word64.bound := total.toNat_lt
          simp [← fits, room]

/-- **Two redemptions that are paid one after the other** are paid in the other order too, and leave
alike managers. -/
theorem Clears.exchange {a b : Attestation} {t u : ValidTransfer} {r s : RateLimit}
    (balanced : m.ledger.Balanced) (first : m.Clears now a t r)
    (second : (m.paidOut t r now).Clears now b u s) :
    ∃ s' r', m.Clears now b u s' ∧ (m.paidOut u s' now).Clears now a t r' ∧
      ((m.paidOut t r now).paidOut u s now).Alike ((m.paidOut u s' now).paidOut t r' now) := by
  obtain ⟨differs, validates⟩ :=
    (first.accepted balanced).validate_eq_ok_iff.mp second.validates
  obtain ⟨s', r', limited', fits', limited, fits, alike⟩ :=
    exists_limits_exchanged first.limited first.fits second.limited second.fits
  have pays := first.pays balanced
  have payable := ensurePayable_eq_ok_iff.mp first.payable
  have payable' := ensurePayable_eq_ok_iff.mp second.payable
  have clears : m.Clears now b u s' := by
    refine ⟨validates, limited', fits', ensurePayable_eq_ok_iff.mpr ?_⟩
    have := pays.custody
    have := pays.supply
    change m.settings.mode.locked _ ≤ _ ∧ _ + m.settings.mode.burned _ < _ at payable'
    omega
  refine ⟨s', r', clears, ⟨?_, limited, fits, ensurePayable_eq_ok_iff.mpr ?_⟩, ?_, alike⟩
  · exact (clears.accepted balanced).validate_eq_ok_iff.mpr ⟨differs.symm, first.validates⟩
  · have := pays.custody
    have := pays.supply
    have := (clears.pays balanced).custody
    have := (clears.pays balanced).supply
    change m.settings.mode.locked _ ≤ _ ∧ _ + m.settings.mode.burned _ < _ at payable'
    change m.settings.mode.locked _ ≤ _ ∧ _ + m.settings.mode.burned _ < _
    omega
  · have ledger := m.ledger.paid_comm m.settings.mode (t.entry now).recipient
      (u.entry now).recipient t.amount u.amount
    have outbound := m.outbound.refill_comm t.amount u.amount now
    have inbox := m.inbox.insert_comm differs.symm
      { t.entry now with status := .released } { u.entry now with status := .released }
    simp only [paidOut]
    rw [ledger, outbound, inbox]

/-! ### Lists of redemptions -/

/-- **A list of attestations clears**, one after the other, each with the payout beside it. -/
inductive Clearing (now : Timestamp) : Manager → List (Attestation × Payout) → Manager → Prop
  | nil {m : Manager} : Clearing now m [] m
  | cons {m m' : Manager} {attestation : Attestation} {transfer : ValidTransfer}
      {limit : RateLimit} {rest : List (Attestation × Payout)}
      (clears : m.Clears now attestation transfer limit)
      (clearing : Clearing now (m.paidOut transfer limit now) rest m') :
      Clearing now m ((attestation, (transfer.entry now).payout transfer.key) :: rest) m'

/-- A batch whose transfers are all paid at once clears. -/
theorem exists_clearing (balanced : m.ledger.Balanced) {attestations : List Attestation}
    {redemptions : List Redemption}
    (runs : (redeemBatch attestations now).runOn m = (.ok redemptions, m'))
    (released : ∀ redemption ∈ redemptions, ∃ payout, redemption = .released payout) :
    ∃ cleared : List (Attestation × Payout), attestations = cleared.map (·.1) ∧
      redemptions = cleared.map (.released ·.2) ∧ Clearing now m cleared m' := by
  induction attestations generalizing m redemptions with
  | nil =>
      cases runs
      exact ⟨[], rfl, rfl, .nil⟩
  | cons attestation rest ih =>
      obtain ⟨redemption, mid, redemptions, first, batch, rfl⟩ :=
        (runOn_redeemBatch_cons_eq_ok_iff balanced).mp runs
      obtain ⟨payout, rfl⟩ := released _ List.mem_cons_self
      obtain ⟨transfer, limit, clears, rfl, rfl⟩ := exists_clears_of_runOn_redeem balanced first
      obtain ⟨cleared, rfl, rfl, clearing⟩ := ih ((clears.accepted balanced).balanced balanced)
        batch fun redemption mem => released redemption (List.mem_cons_of_mem _ mem)
      exact ⟨_ :: cleared, rfl, rfl, .cons clears clearing⟩

namespace Clearing

variable {cleared cleared' : List (Attestation × Payout)}

/-- A batch that clears is redeemed, with the payouts as its outcomes. -/
theorem runOn_redeemBatch (clearing : Clearing now m cleared m') (balanced : m.ledger.Balanced) :
    (redeemBatch (cleared.map (·.1)) now).runOn m = (.ok (cleared.map (.released ·.2)), m') := by
  induction clearing with
  | nil => rfl
  | @cons m m' attestation transfer limit rest clears clearing ih =>
      rw [List.map_cons, runOn_redeemBatch_cons_eq_ok_iff balanced]
      have first := (runOn_redeem_eq_released_iff balanced).mpr
        ⟨transfer, limit, clears, rfl, rfl⟩
      exact ⟨_, _, _, first, ih ((clears.accepted balanced).balanced balanced), rfl⟩

/-- A batch that clears leaves the settings alone. -/
theorem settings_eq (clearing : Clearing now m cleared m') : m'.settings = m.settings := by
  induction clearing with
  | nil => rfl
  | cons _ _ ih => exact ih

/-- **Every limit has the claims of its own chain**, in the order in which they clear. -/
theorem find?_inbound (clearing : Clearing now m cleared m') (chain : ChainId) :
    m'.inbound.find? chain = (m.inbound.find? chain).map fun limit =>
      (cleared.filter (·.1.emitterChain = chain)).foldl
        (fun limit pair => (limit.claim pair.2.amount now).2) limit := by
  induction clearing with
  | nil => simp
  | @cons m m' attestation transfer limit rest clears clearing ih =>
      have emitter := (validated_of_validate clears.validates).fromChain
      have amount : ((transfer.entry now).payout transfer.key).amount = transfer.amount := rfl
      rw [ih]
      change ((m.inbound.insert transfer.fromChain _).find? chain).map _ = _
      by_cases same : chain = transfer.fromChain
      · subst same
        rw [Table.find?_insert_self, clears.limited]
        simp [emitter, amount]
      · rw [Table.find?_insert_of_ne _ _ same]
        simp [← emitter, Ne.symm same]

/-- A limit with one claim at most is left the same in any order. -/
theorem find?_inbound_of_perm {m'' : Manager} (clearing : Clearing now m cleared m')
    (clearing' : Clearing now m cleared' m'') (perm : cleared'.Perm cleared) {chain : ChainId}
    (once : (cleared.map (·.1)).countP (·.emitterChain = chain) ≤ 1) :
    m''.inbound.find? chain = m'.inbound.find? chain := by
  rw [clearing.find?_inbound, clearing'.find?_inbound]
  have claims := perm.filter (·.1.emitterChain = chain)
  have once : (cleared.filter (·.1.emitterChain = chain)).length ≤ 1 := by
    rw [List.countP_map, List.countP_eq_length_filter] at once
    exact once
  generalize cleared.filter (·.1.emitterChain = chain) = pairs at claims once
  have same : cleared'.filter (·.1.emitterChain = chain) = pairs := by
    obtain _ | ⟨pair, _ | ⟨next, rest⟩⟩ := pairs
    · exact claims.eq_nil
    · exact claims.eq_singleton
    · simp at once
  rw [same]

/-- Alike managers clear the same lists and stay alike. -/
theorem congr (clearing : Clearing now m cleared m') (alike : m.Alike n) :
    ∃ n', Clearing now n cleared n' ∧ m'.Alike n' := by
  induction clearing generalizing n with
  | nil => exact ⟨n, .nil, alike⟩
  | cons clears _ ih =>
      obtain ⟨limit', clears', after⟩ := alike.clears clears
      obtain ⟨n', clearing', last⟩ := ih after
      exact ⟨n', .cons clears' clearing', last⟩

/-- **What clears, clears in any order.**  Neighbours are exchanged, and what comes after them goes
on from alike managers. -/
theorem perm (perm : cleared.Perm cleared') (balanced : m.ledger.Balanced)
    (clearing : Clearing now m cleared m') :
    ∃ m'', Clearing now m cleared' m'' ∧ m'.Alike m'' := by
  induction perm generalizing m m' with
  | nil => exact ⟨m', clearing, .refl m'⟩
  | cons pair _ ih =>
      cases clearing with
      | cons clears clearing =>
          obtain ⟨m'', clearing', alike⟩ :=
            ih ((clears.accepted balanced).balanced balanced) clearing
          exact ⟨m'', .cons clears clearing', alike⟩
  | swap second first rest =>
      cases clearing with
      | cons clears clearing =>
          cases clearing with
          | cons clears' clearing =>
              obtain ⟨limit', limit, first, second, alike⟩ := clears.exchange balanced clears'
              obtain ⟨m'', clearing', last⟩ := clearing.congr alike
              exact ⟨m'', .cons first (.cons second clearing'), last⟩
  | trans _ _ ih ih' =>
      obtain ⟨mid, clearing', alike⟩ := ih balanced clearing
      obtain ⟨m'', clearing'', alike'⟩ := ih' balanced clearing'
      exact ⟨m'', clearing'', alike.trans alike'⟩

end Clearing

/-- **A batch that is paid at once may be redeemed in any order.**  In each order the batch succeeds
with the same outcome for every attestation, and leaves the same balances, totals, inbox and outbound
limit, and inbound limits with the same capacity at all times.  Where the capacity takes its time to
come back, the managers are equal.  Where it comes back in an instant, all that may differ is what
the limit of a chain with two transfers or more in the batch stores, and no run that follows tells
the orders apart. -/
theorem redeemBatch_perm (reachable : m.Reachable) {attestations attestations' : List Attestation}
    {redemptions : List Redemption}
    (runs : (redeemBatch attestations now).runOn m = (.ok redemptions, m'))
    (released : ∀ redemption ∈ redemptions, ∃ payout, redemption = .released payout)
    (perm : attestations'.Perm attestations) :
    ∃ redemptions' m'',
      (redeemBatch attestations' now).runOn m = (.ok redemptions', m'') ∧
      redemptions'.length = attestations'.length ∧
      (attestations'.zip redemptions').Perm (attestations.zip redemptions) ∧
      m'.Alike m'' ∧
      (∀ chain, attestations.countP (·.emitterChain = chain) ≤ 1 →
        m''.inbound.find? chain = m'.inbound.find? chain) ∧
      (∀ run, (m''.events run).map Event.outcome = (m'.events run).map Event.outcome) ∧
      (0 < m.settings.duration → m'' = m') := by
  have balanced := reachable.balanced
  have same : m.after [.redeemBatch attestations now] = m' := by
    show ((Reply.redeemedAll <$> redeemBatch attestations now).runOn m).2 = m'
    rw [runOn_map, runs]
  have timed : m'.Timed := same ▸ (reachable.after [.redeemBatch attestations now]).timed
  obtain ⟨cleared, rfl, rfl, clearing⟩ := exists_clearing balanced runs released
  have reordered : ∃ cleared' : List (Attestation × Payout),
      attestations' = cleared'.map (·.1) ∧ cleared'.Perm cleared := by
    have same := congrFun (congrFun (List.eq_map_comp_perm fun pair : Attestation × Payout =>
      pair.1) attestations') cleared
    exact same.mpr perm
  obtain ⟨cleared', rfl, permutes⟩ := reordered
  obtain ⟨m'', clearing', alike⟩ := clearing.perm permutes.symm balanced
  refine ⟨_, m'', clearing'.runOn_redeemBatch balanced, ?_, ?_, alike, ?_, alike.outcomes_eq, ?_⟩
  · rw [List.length_map, List.length_map]
  · rw [List.zip_map', List.zip_map']
    exact permutes.map _
  · intro chain once
    exact clearing.find?_inbound_of_perm clearing' permutes once
  · intro positive
    have inbound : m''.inbound = m'.inbound := by
      refine alike.inbound.eq_of_positive fun chain limit found => ?_
      rw [timed (.inbound chain) limit found, clearing.settings_eq]
      exact positive
    rw [alike.others, inbound]

/-- A batch of which every redemption has paid something was paid at once. -/
theorem exists_released_of_payouts (result : Except Fault (List Redemption) × Manager)
    (pays : result.1.toOption.any (·.all (·.payouts ≠ []))) :
    ∃ redemptions, result = (.ok redemptions, result.2) ∧
      ∀ redemption ∈ redemptions, ∃ payout, redemption = .released payout := by
  obtain ⟨_ | redemptions, after⟩ := result
  · cases pays
  · refine ⟨redemptions, rfl, fun redemption mem => ?_⟩
    cases redemption with
    | released payout => exact ⟨payout, rfl⟩
    | queued view => cases List.all_eq_true.mp pays _ mem

/-- Two transfers of the same chain, the later one first. -/
theorem redeemBatch_perm_of_sample :
    ∃ redemptions m' redemptions' m'',
      (redeemBatch [sampleDelivery 1 1000, sampleDelivery 2 2000] 0).runOn sampleReceiver =
          (.ok redemptions, m') ∧
        (redeemBatch [sampleDelivery 2 2000, sampleDelivery 1 1000] 0).runOn sampleReceiver =
          (.ok redemptions', m'') ∧
        0 < sampleReceiver.settings.duration ∧ m'' = m' := by
  obtain ⟨redemptions, runs, released⟩ := exists_released_of_payouts
    ((redeemBatch [sampleDelivery 1 1000, sampleDelivery 2 2000] 0).runOn sampleReceiver)
    (by decide +kernel)
  have positive : 0 < sampleReceiver.settings.duration := by decide
  obtain ⟨redemptions', m'', runs', -, -, -, -, -, same⟩ :=
    redeemBatch_perm reachable_sampleReceiver runs released
      (List.Perm.swap (sampleDelivery 1 1000) (sampleDelivery 2 2000) [])
  exact ⟨redemptions, _, redemptions', m'', runs, runs', positive, same positive⟩

/-- A manager whose capacity comes back in an instant. -/
def sampleInstant : Manager :=
  (start { sampleTarget with duration := 0 } 5000000000 0).after (peering sampleSource)

/-- **Two orders of one batch may leave different managers** where the capacity comes back in an
instant: the inbound limit stores what the last of the two claims has left of the whole capacity. -/
theorem redeemBatch_order_stored :
    ∃ redemptions m' redemptions' m'',
      sampleInstant.Reachable ∧
        (redeemBatch [sampleDelivery 1 1000, sampleDelivery 2 2000] 0).runOn sampleInstant =
          (.ok redemptions, m') ∧
        (∀ redemption ∈ redemptions, ∃ payout, redemption = .released payout) ∧
        (redeemBatch [sampleDelivery 2 2000, sampleDelivery 1 1000] 0).runOn sampleInstant =
          (.ok redemptions', m'') ∧
        (m'.inbound.find? .ethereum).map (·.stored) = some 4999998000 ∧
        (m''.inbound.find? .ethereum).map (·.stored) = some 4999999000 ∧ m'' ≠ m' := by
  obtain ⟨redemptions, runs, released⟩ := exists_released_of_payouts
    ((redeemBatch [sampleDelivery 1 1000, sampleDelivery 2 2000] 0).runOn sampleInstant)
    (by decide +kernel)
  obtain ⟨redemptions', runs', -⟩ := exists_released_of_payouts
    ((redeemBatch [sampleDelivery 2 2000, sampleDelivery 1 1000] 0).runOn sampleInstant)
    (by decide +kernel)
  have stored : (((redeemBatch [sampleDelivery 1 1000, sampleDelivery 2 2000] 0).runOn
      sampleInstant).2.inbound.find? .ethereum).map (·.stored) = some 4999998000 := by
    decide +kernel
  have stored' : (((redeemBatch [sampleDelivery 2 2000, sampleDelivery 1 1000] 0).runOn
      sampleInstant).2.inbound.find? .ethereum).map (·.stored) = some 4999999000 := by
    decide +kernel
  refine ⟨redemptions, _, redemptions', _, ?_, runs, released, runs', stored, stored', ?_⟩
  · exact (reachable_start _ _ _).after _
  · intro same
    rw [same, stored] at stored'
    cases stored'

end Manager

end TokenTransfer
