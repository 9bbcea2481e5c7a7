import TokenTransfer.Proofs.RateLimit

/-!
# The order of claims and refills

What claims leave of a limit depends on how much is claimed and not on the order, provided that all
of them fit, and what refills leave does not depend on their order either.

A limit without a positive duration refills in an instant.  Its capacity is always the whole limit,
and what the last claim has stored is never looked at.  Two such limits that differ in what is
stored are alike (`RateLimit.Alike`): no operation tells them apart, now or later.

## Main definitions

* `RateLimit.Alike` - limits that no operation tells apart

## Main statements

* `RateLimit.Alike.capacity_eq`, `RateLimit.Alike.claim`, `RateLimit.Alike.refill`,
  `RateLimit.Alike.setLimit` - what alike limits answer and become
* `RateLimit.claim_comm`, `RateLimit.refill_comm` - claims and refills in either order
-/

namespace TokenTransfer

namespace RateLimit

variable {r r' : RateLimit} {now : Timestamp}

/-! ### Alike limits -/

/-- **Alike limits** are equal, or both refill in an instant and differ in what is stored. -/
inductive Alike (r : RateLimit) : RateLimit → Prop
  | same : Alike r r
  | instant (instant : r.duration ≤ 0) (stored : UInt64) : Alike r { r with stored }

namespace Alike

theorem trans {r'' : RateLimit} (first : Alike r r') (second : Alike r' r'') : Alike r r'' := by
  cases first with
  | same => exact second
  | instant instant stored =>
      cases second with
      | same => exact .instant instant stored
      | instant _ stored' => exact .instant instant stored'

/-- A limit that takes its time has none alike but itself. -/
theorem eq_of_positive (alike : Alike r r') (positive : 0 < r.duration) : r' = r := by
  cases alike with
  | same => rfl
  | instant instant stored => exact absurd positive (Int64.not_lt.mpr instant)

/-- **Alike limits have the same capacity** at every time. -/
theorem capacity_eq (alike : Alike r r') (now : Timestamp) : r'.capacity now = r.capacity now := by
  cases alike with
  | same => rfl
  | instant instant stored =>
      rw [capacity_of_instant instant]
      exact capacity_of_instant (r := { r with stored }) instant now

/-- A claim gets the same answer from alike limits and leaves them alike. -/
theorem claim (alike : Alike r r') (amount : UInt64) (now : Timestamp) :
    (r'.claim amount now).1 = (r.claim amount now).1 ∧
      Alike (r.claim amount now).2 (r'.claim amount now).2 := by
  have capacity := alike.capacity_eq now
  by_cases fits : amount ≤ r.capacity now
  · have fits' : amount ≤ r'.capacity now := capacity ▸ fits
    rw [claim_of_fits fits, claim_of_fits fits', capacity]
    refine ⟨rfl, ?_⟩
    cases alike with
    | same => exact .same
    | instant instant stored => exact .same
  · have waits' : ¬ amount ≤ r'.capacity now := capacity ▸ fits
    rw [claim_of_waits fits, claim_of_waits waits']
    refine ⟨?_, alike⟩
    cases alike with
    | same => rfl
    | instant instant stored => rfl

/-- A refill makes alike limits equal. -/
theorem refill (alike : Alike r r') (amount : UInt64) (now : Timestamp) :
    r'.refill amount now = r.refill amount now := by
  have capacity := alike.capacity_eq now
  unfold RateLimit.refill
  rw [capacity]
  cases alike with
  | same => rfl
  | instant instant stored => rfl

/-- So does a new limit. -/
theorem setLimit (alike : Alike r r') (limit : UInt64) (now : Timestamp) :
    r'.setLimit limit now = r.setLimit limit now := by
  have capacity := alike.capacity_eq now
  unfold RateLimit.setLimit
  rw [capacity]
  cases alike with
  | same => rfl
  | instant instant stored => rfl

end Alike

/-! ### In either order -/

section Claims

variable {a b : UInt64}

/-- A claim of a limit that refills in an instant takes nothing of its capacity. -/
theorem capacity_claim_of_instant (instant : r.duration ≤ 0) (amount : UInt64) :
    (r.claim amount now).2.capacity now = r.limit := by
  have instant' : (r.claim amount now).2.duration ≤ 0 := by
    rw [duration_claim]
    exact instant
  rw [capacity_of_instant instant', limit_claim]

/-- What fits after a claim fits before it. -/
theorem fits_of_fits_claim (fits : a ≤ r.capacity now)
    (next : b ≤ (r.claim a now).2.capacity now) : b ≤ r.capacity now := by
  by_cases positive : 0 < r.duration
  · have left := toNat_capacity_claim positive fits
    rw [UInt64.le_iff_toNat_le] at next ⊢
    omega
  · have instant := Int64.not_lt.mp positive
    rw [capacity_claim_of_instant instant] at next
    rwa [capacity_of_instant instant]

/-- Two claims that fit one after the other fit in the other order. -/
theorem fits_claim_of_fits (fits : a ≤ r.capacity now)
    (next : b ≤ (r.claim a now).2.capacity now) : a ≤ (r.claim b now).2.capacity now := by
  by_cases positive : 0 < r.duration
  · have left := toNat_capacity_claim positive fits
    have left' := toNat_capacity_claim positive (fits_of_fits_claim fits next)
    rw [UInt64.le_iff_toNat_le] at next ⊢
    omega
  · have instant := Int64.not_lt.mp positive
    rw [capacity_claim_of_instant instant]
    rwa [capacity_of_instant instant] at fits

/-- **Two claims that fit leave alike limits** in either order. -/
theorem claim_comm (fits : a ≤ r.capacity now) (next : b ≤ (r.claim a now).2.capacity now) :
    Alike ((r.claim a now).2.claim b now).2 ((r.claim b now).2.claim a now).2 := by
  have fits' := fits_of_fits_claim fits next
  have next' := fits_claim_of_fits fits next
  rw [claim_of_fits next, claim_of_fits next']
  by_cases positive : 0 < r.duration
  · have stored : (r.claim b now).2.capacity now - a = (r.claim a now).2.capacity now - b := by
      have left := toNat_capacity_claim positive fits
      have left' := toNat_capacity_claim positive fits'
      apply UInt64.toNat.inj
      rw [UInt64.toNat_sub_of_le _ _ next, UInt64.toNat_sub_of_le _ _ next']
      omega
    rw [stored, claim_of_fits fits, claim_of_fits fits']
    exact .same
  · rw [claim_of_fits fits, claim_of_fits fits']
    exact .instant (r := { r with stored := _, changed := now }) (Int64.not_lt.mp positive) _

end Claims

/-- Just after a refill the capacity is what the refill has stored. -/
theorem toNat_capacity_refill (r : RateLimit) (amount : UInt64) (now : Timestamp) :
    ((r.refill amount now).capacity now).toNat =
      min ((r.capacity now).toNat + amount.toNat) r.limit.toNat := by
  by_cases positive : 0 < r.duration
  · have stored : (r.refill amount now).capacity now = (r.refill amount now).stored :=
      capacity_of_changed positive rfl (r.stored_refill_le amount now)
    rw [stored, toNat_stored_refill]
  · have instant := Int64.not_lt.mp positive
    rw [capacity_of_instant (r := r.refill amount now) instant, capacity_of_instant instant]
    exact (min_eq_right (Nat.le_add_right _ _)).symm

/-- **Two refills leave the same limit** in either order. -/
theorem refill_comm (r : RateLimit) (a b : UInt64) (now : Timestamp) :
    (r.refill a now).refill b now = (r.refill b now).refill a now := by
  have stored : ((r.refill a now).refill b now).stored = ((r.refill b now).refill a now).stored := by
    have limit (c : UInt64) : (r.refill c now).limit = r.limit := rfl
    apply UInt64.toNat.inj
    rw [toNat_stored_refill, toNat_stored_refill, toNat_capacity_refill, toNat_capacity_refill,
      limit, limit]
    omega
  have rest (c d : UInt64) : (r.refill c now).refill d now =
      { r with stored := ((r.refill c now).refill d now).stored, changed := now } := rfl
  rw [rest, stored, ← rest]

end RateLimit

end TokenTransfer
