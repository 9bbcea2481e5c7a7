import Mathlib.Algebra.Order.Monoid.Unbundled.MinMax
import Mathlib.Algebra.Ring.Int.Defs
import Mathlib.Algebra.Ring.Nat
import Mathlib.Order.Lattice
import TokenTransfer.RateLimit

/-!
# The level of a rate limit

The capacity of a limit is rounded down every time it is looked at, and every change writes a
rounded capacity back.  What bounds the capacity that is handed out over time is its level: the same
quantity before the division, in units of capacity times seconds.  It rises by the limit with every
second (`level_le_level_add`), a claim lowers it by what is claimed (`level_claim_add_le`), and what
is given back or added to the limit raises it by no more than that.  All that rounding can do is
lower it.

No step that stops at the bounds of a word changes the capacity (`capacity_formula`): the seconds that
are counted have at most 63 bits and the limit has 64, so their product fits 128, and where the count
of seconds stops, the bucket is full.

## Main definitions

* `RateLimit.level` - the capacity before the division
* `RateLimit.fraction` - the part of the level that the capacity leaves out
* `RateLimit.carried` - the unit that this part makes up later
* `Timestamp.delayed` - when a delay is over

## Main statements

* `RateLimit.toNat_capacity` - the capacity is the level in whole units
* `RateLimit.capacity_formula` - the capacity is what unbounded integers give
* `RateLimit.toNat_capacity_eq_of_setLimit` - setting a limit again forgets the fraction
* `RateLimit.level_le_level_add`, `RateLimit.level_claim_add_le`, `RateLimit.level_refill_le`,
  `RateLimit.level_setLimit_le` - what time and each change do to the level
-/

namespace TokenTransfer

namespace Timestamp

theorem elapsed_eq (start finish : Timestamp) :
    elapsed start finish = min (finish.toInt - start.toInt).toNat (2 ^ 63 - 1) := by
  have lowest : Int64.minValue.toInt = -9223372036854775808 := rfl
  have highest : Int64.maxValue.toInt = 9223372036854775807 := rfl
  rw [elapsed, toInt_nearest, lowest, highest]
  omega

@[simp] theorem elapsed_self (time : Timestamp) : elapsed time time = 0 := by
  rw [elapsed_eq]
  omega

/-- Looking later, no more time has passed than has passed between the two looks. -/
theorem elapsed_le_elapsed_add (start : Timestamp) {s t : Timestamp} (le : s ≤ t) :
    elapsed start t ≤ elapsed start s + (t.toInt - s.toInt).toNat := by
  have le : s.toInt ≤ t.toInt := Int64.le_iff_toInt_le.mp le
  rw [elapsed_eq, elapsed_eq]
  omega

/-- **The second at which a delay is over** that starts at `now`.  A duration that is not positive
is no delay, and time stops at its last second. -/
def delayed (now duration : Timestamp) : Int :=
  min (now.toInt + max duration.toInt 0) Int64.maxValue.toInt

end Timestamp

namespace RateLimit

variable {r : RateLimit} {now : Timestamp}

/-- The seconds in which an empty bucket fills, as a number. -/
def period (r : RateLimit) : Nat := r.duration.toInt.toNat

/-- **The level**, in units of capacity times seconds: what was stored and what the time since then
has added, up to the limit. -/
def level (r : RateLimit) (now : Timestamp) : Nat :=
  min (r.limit.toNat * r.period)
    (r.stored.toNat * r.period + Timestamp.elapsed r.changed now * r.limit.toNat)

/-- A limit that takes its time has a period. -/
theorem period_pos (positive : 0 < r.duration) : 0 < r.period := by
  have positive : (0 : Int64).toInt < r.duration.toInt := Int64.lt_iff_toInt_lt.mp positive
  have zero : (0 : Int64).toInt = 0 := rfl
  unfold period
  omega

/-- A duration that is positive is counted in full. -/
theorem toInt_period (positive : 0 < r.duration) : (r.period : ℤ) = r.duration.toInt := by
  have := period_pos positive
  unfold period at *
  omega

theorem period_le (r : RateLimit) : r.period ≤ 2 ^ 63 - 1 := by
  have highest : Int64.maxValue.toInt = 9223372036854775807 := rfl
  have bound : r.duration.toInt ≤ Int64.maxValue.toInt := Int64.toInt_le r.duration
  unfold period
  omega

/-- **The level grows with all the time that has passed.**  The count of seconds stops at the bounds
of a word, but by then the bucket is full. -/
theorem level_eq (r : RateLimit) (now : Timestamp) :
    r.level now = min (r.limit.toNat * r.period)
      (r.stored.toNat * r.period + (now.toInt - r.changed.toInt).toNat * r.limit.toNat) := by
  rw [level, Timestamp.elapsed_eq]
  rcases Nat.le_total (now.toInt - r.changed.toInt).toNat (2 ^ 63 - 1) with counted | stopped
  · rw [min_eq_left counted]
  · rw [min_eq_right stopped]
    have full : r.limit.toNat * r.period ≤ (2 ^ 63 - 1) * r.limit.toNat := by
      rw [Nat.mul_comm]
      exact Nat.mul_le_mul_right _ r.period_le
    have fuller := Nat.mul_le_mul_right r.limit.toNat stopped
    omega

theorem min_mul_div {limit period amount : Nat} (positive : 0 < period) :
    min (limit * period) amount / period = min limit (amount / period) := by
  have divides : Monotone (· / period) := fun _ _ le => Nat.div_le_div_right le
  rw [divides.map_min, Nat.mul_div_cancel _ positive]

/-- **The capacity is the level** in whole units. -/
theorem toNat_capacity (positive : 0 < r.duration) :
    (r.capacity now).toNat = r.level now / r.period := by
  have passed : Timestamp.elapsed r.changed now < 2 ^ 63 := by
    rw [Timestamp.elapsed_eq]
    omega
  have gained : Timestamp.elapsed r.changed now * r.limit.toNat < 2 ^ 63 * 2 ^ 64 :=
    Nat.mul_lt_mul'' passed r.limit.toNat_lt
  have added := Nat.div_le_self (Timestamp.elapsed r.changed now * r.limit.toNat) r.period
  have stored : r.stored.toNat < 2 ^ 64 := r.stored.toNat_lt
  have limit : r.limit.toNat < 2 ^ 64 := r.limit.toNat_lt
  have split : r.level now / r.period =
      min r.limit.toNat
        (r.stored.toNat + Timestamp.elapsed r.changed now * r.limit.toNat / r.period) := by
    rw [level, min_mul_div (period_pos positive), Nat.add_comm,
      Nat.add_mul_div_right _ _ (period_pos positive), Nat.add_comm]
  rw [split, capacity, if_neg (Int64.not_le.mpr positive), Word64.toNat_capped]
  have uncapped : capped128 (Timestamp.elapsed r.changed now * r.limit.toNat) =
      Timestamp.elapsed r.changed now * r.limit.toNat := by
    unfold capped128 bound128 Word64.bound UInt64.size
    omega
  rw [uncapped]
  unfold capped128 bound128 Word64.bound UInt64.size period at *
  omega

/-- The capacity, from all the seconds that have passed. -/
theorem toNat_capacity_eq (positive : 0 < r.duration) :
    (r.capacity now).toNat = min r.limit.toNat
      (r.stored.toNat + (now.toInt - r.changed.toInt).toNat * r.limit.toNat / r.period) := by
  rw [toNat_capacity positive, level_eq, min_mul_div (period_pos positive), Nat.add_comm,
    Nat.add_mul_div_right _ _ (period_pos positive), Nat.add_comm]

/-- The capacity in whole units is no more than the level. -/
theorem capacity_mul_le (positive : 0 < r.duration) :
    (r.capacity now).toNat * r.period ≤ r.level now := by
  rw [toNat_capacity positive]
  exact Nat.div_mul_le_self _ _

/-- The capacity is less than the level by less than a unit. -/
theorem level_lt (positive : 0 < r.duration) :
    r.level now < ((r.capacity now).toNat + 1) * r.period := by
  rw [toNat_capacity positive]
  exact (Nat.div_lt_iff_lt_mul (period_pos positive)).mp (Nat.lt_succ_self _)

/-- A limit that refills in an instant is always full. -/
theorem capacity_of_instant (instant : r.duration ≤ 0) (now : Timestamp) :
    r.capacity now = r.limit := if_pos instant

/-- The capacity is within the limit. -/
theorem capacity_le_limit (r : RateLimit) (now : Timestamp) : r.capacity now ≤ r.limit := by
  unfold capacity
  split
  · exact UInt64.le_refl _
  · rw [UInt64.le_iff_toNat_le, Word64.toNat_capped]
    omega

/-- **The capacity never falls** while the clock goes on. -/
theorem capacity_le_capacity (r : RateLimit) {s t : Timestamp} (le : s ≤ t) :
    r.capacity s ≤ r.capacity t := by
  by_cases positive : 0 < r.duration
  · have le : s.toInt ≤ t.toInt := Int64.le_iff_toInt_le.mp le
    have passed : (s.toInt - r.changed.toInt).toNat ≤ (t.toInt - r.changed.toInt).toNat := by omega
    have gained := Nat.div_le_div_right (c := r.period) (Nat.mul_le_mul_right r.limit.toNat passed)
    rw [UInt64.le_iff_toNat_le, toNat_capacity_eq positive, toNat_capacity_eq positive]
    omega
  · have instant := Int64.not_lt.mp positive
    rw [capacity_of_instant instant, capacity_of_instant instant]
    exact UInt64.le_refl _

/-- **After its duration a limit is full**, whatever was stored. -/
theorem capacity_of_passed (positive : 0 < r.duration)
    (passed : r.duration.toInt ≤ now.toInt - r.changed.toInt) : r.capacity now = r.limit := by
  have seconds : r.period ≤ (now.toInt - r.changed.toInt).toNat := Int.toNat_le_toNat passed
  have gained : r.limit.toNat ≤
      (now.toInt - r.changed.toInt).toNat * r.limit.toNat / r.period := by
    rw [Nat.le_div_iff_mul_le (period_pos positive), Nat.mul_comm]
    exact Nat.mul_le_mul_right _ seconds
  apply UInt64.toNat.inj
  rw [toNat_capacity_eq positive]
  omega

/-- **The capacity is exact.**  It is what unbounded integers give, rounded down once: no step stops at
the bounds of a word where that would change the result, whatever is stored and wherever the clock
stands.  So it never falls while the clock goes on, it is within the limit, and it is the limit once
the duration has passed. -/
theorem capacity_formula (positive : 0 < r.duration) :
    (∀ now, ((r.capacity now).toNat : ℤ) = min (r.limit.toNat : ℤ) (r.stored.toNat +
      r.limit.toNat * max 0 (now.toInt - r.changed.toInt) / r.duration.toInt)) ∧
    (∀ s t, s ≤ t → r.capacity s ≤ r.capacity t) ∧
    (∀ now, r.capacity now ≤ r.limit) ∧
    ∀ now, r.duration.toInt ≤ now.toInt - r.changed.toInt → r.capacity now = r.limit := by
  refine ⟨?_, fun s t => r.capacity_le_capacity, r.capacity_le_limit,
    fun now => capacity_of_passed positive⟩
  intro now
  have passed : max 0 (now.toInt - r.changed.toInt) =
      ((now.toInt - r.changed.toInt).toNat : ℤ) := by omega
  have gained : r.limit.toNat * max 0 (now.toInt - r.changed.toInt) / r.duration.toInt =
      (((now.toInt - r.changed.toInt).toNat * r.limit.toNat / r.period : ℕ) : ℤ) := by
    rw [passed, ← toInt_period positive, Nat.mul_comm]
    push_cast
    rfl
  rw [toNat_capacity_eq positive, gained]
  omega

/-- The largest limit and the longest duration there are: a second before the bucket is full the
capacity is still exact, and the seconds from the first time to the last are more than fit a word. -/
theorem capacity_formula_of_extremes :
    let r : RateLimit :=
      { limit := UInt64.ofNat (2 ^ 64 - 1), stored := 1, changed := Int64.minValue,
        duration := Int64.maxValue }
    0 < r.duration ∧ ((r.capacity (-2)).toNat : ℤ) = 2 ^ 64 - 3 ∧
      r.capacity Int64.maxValue = r.limit := by
  intro r
  have positive : 0 < r.duration := by decide
  obtain ⟨formula, -, -, full⟩ := capacity_formula positive
  refine ⟨positive, ?_, full _ (by decide)⟩
  rw [formula]
  decide

/-! ### Claims -/

/-- A claim that fits is taken out of the capacity there is. -/
theorem claim_of_fits {amount : UInt64} (fits : amount ≤ r.capacity now) :
    r.claim amount now =
      (.consumed now, { r with stored := r.capacity now - amount, changed := now }) := by
  simp [claim, fits]

/-- A claim that does not fit waits, and the limit stays as it is. -/
theorem claim_of_waits {amount : UInt64} (waits : ¬ amount ≤ r.capacity now) :
    r.claim amount now = (.delayed (r.releaseTime now), r) := by
  simp [claim, waits]

/-- **A claim is accepted exactly when it fits.** -/
theorem claim_eq_consumed_iff {amount : UInt64} :
    (r.claim amount now).1 = .consumed now ↔ amount ≤ r.capacity now := by
  by_cases fits : amount ≤ r.capacity now
  · simp [claim_of_fits fits, fits]
  · simp [claim_of_waits fits, fits]

@[simp] theorem limit_claim (r : RateLimit) (amount : UInt64) (now : Timestamp) :
    (r.claim amount now).2.limit = r.limit := by
  by_cases fits : amount ≤ r.capacity now
  · rw [claim_of_fits fits]
  · rw [claim_of_waits fits]

@[simp] theorem duration_claim (r : RateLimit) (amount : UInt64) (now : Timestamp) :
    (r.claim amount now).2.duration = r.duration := by
  by_cases fits : amount ≤ r.capacity now
  · rw [claim_of_fits fits]
  · rw [claim_of_waits fits]

/-- What a claim that fits leaves. -/
theorem toNat_left_add {amount : UInt64} (fits : amount ≤ r.capacity now) :
    (r.capacity now - amount).toNat + amount.toNat = (r.capacity now).toNat := by
  rw [UInt64.toNat_sub_of_le _ _ fits]
  exact Nat.sub_add_cancel (UInt64.le_iff_toNat_le.mp fits)

/-! ### What does not fit -/

/-- What does not fit is delayed by the duration of the limit. -/
theorem toInt_releaseTime (r : RateLimit) (now : Timestamp) :
    (r.releaseTime now).toInt = Timestamp.delayed now r.duration := by
  have span : (max r.duration 0).toInt = max r.duration.toInt 0 := by
    show (if r.duration ≤ 0 then 0 else r.duration).toInt = max r.duration.toInt 0
    split
    · rename_i le
      have le : r.duration.toInt ≤ 0 := Int64.le_iff_toInt_le.mp le
      rw [max_eq_right le]
      rfl
    · rename_i lt
      have lt : 0 < r.duration.toInt := Int64.lt_iff_toInt_lt.mp (Int64.not_le.mp lt)
      rw [max_eq_left lt.le]
  have lowest : Int64.minValue.toInt ≤ now.toInt := Int64.minValue_le_toInt now
  have room : Int64.minValue.toInt ≤ Int64.maxValue.toInt := by decide
  rw [releaseTime, Timestamp.after, Timestamp.toInt_nearest, span, Timestamp.delayed]
  omega

/-! ### What changes store -/

/-- What a refill stores. -/
theorem toNat_stored_refill (r : RateLimit) (amount : UInt64) (now : Timestamp) :
    (r.refill amount now).stored.toNat =
      min ((r.capacity now).toNat + amount.toNat) r.limit.toNat := by
  have word : r.limit.toNat < 2 ^ 64 := r.limit.toNat_lt
  rw [refill, UInt64.toNat_min, Word64.toNat_capped]
  unfold Word64.bound UInt64.size
  omega

/-- What a change of the limit stores. -/
theorem toNat_stored_setLimit (r : RateLimit) (limit : UInt64) (now : Timestamp) :
    ((r.setLimit limit now).stored.toNat : ℤ) =
      max 0 (min ((r.capacity now).toNat + (limit.toNat - r.limit.toNat : ℤ)) limit.toNat) := by
  have word : limit.toNat < 2 ^ 64 := limit.toNat_lt
  rw [setLimit, UInt64.toNat_min]
  by_cases lowered : limit < r.limit
  · have lt := UInt64.lt_iff_toNat_lt.mp lowered
    rw [if_pos lowered, Word64.toNat_capped]
    unfold Word64.bound UInt64.size
    omega
  · have le := UInt64.le_iff_toNat_le.mp (UInt64.not_lt.mp lowered)
    rw [if_neg lowered, Word64.toNat_capped]
    unfold Word64.bound UInt64.size
    omega

/-- **No more than the limit is stored**, whatever is changed. -/
theorem stored_claim_le (within : r.stored ≤ r.limit) (amount : UInt64) :
    (r.claim amount now).2.stored ≤ r.limit := by
  by_cases fits : amount ≤ r.capacity now
  · have left := toNat_left_add fits
    have full := UInt64.le_iff_toNat_le.mp (r.capacity_le_limit now)
    rw [claim_of_fits fits, UInt64.le_iff_toNat_le]
    dsimp only
    omega
  · rw [claim_of_waits fits]
    exact within

theorem stored_refill_le (r : RateLimit) (amount : UInt64) (now : Timestamp) :
    (r.refill amount now).stored ≤ r.limit := Std.min_le_right

theorem stored_setLimit_le (r : RateLimit) (limit : UInt64) (now : Timestamp) :
    (r.setLimit limit now).stored ≤ limit := Std.min_le_right

/-- Just after a change the capacity is what is stored. -/
theorem capacity_of_changed (positive : 0 < r.duration) (changed : r.changed = now)
    (within : r.stored ≤ r.limit) : r.capacity now = r.stored := by
  have le := Nat.mul_le_mul_right r.period (UInt64.le_iff_toNat_le.mp within)
  apply UInt64.toNat.inj
  rw [toNat_capacity positive, level, changed, Timestamp.elapsed_self, Nat.zero_mul, Nat.add_zero,
    min_eq_right le, Nat.mul_div_cancel _ (period_pos positive)]

/-- **A claim that fits** lowers the capacity by just what is claimed. -/
theorem toNat_capacity_claim (positive : 0 < r.duration) {amount : UInt64}
    (fits : amount ≤ r.capacity now) :
    ((r.claim amount now).2.capacity now).toNat + amount.toNat = (r.capacity now).toNat := by
  have within : r.capacity now - amount ≤ r.limit := by
    have left := toNat_left_add fits
    have full := UInt64.le_iff_toNat_le.mp (r.capacity_le_limit now)
    rw [UInt64.le_iff_toNat_le]
    omega
  have stored := capacity_of_changed
    (r := { r with stored := r.capacity now - amount, changed := now }) positive rfl within
  rw [claim_of_fits fits]
  dsimp only
  rw [stored]
  exact toNat_left_add fits

/-! ### What time and changes do to the level -/

/-- **Time** raises the level by at most the limit with every second. -/
theorem level_le_level_add (r : RateLimit) {s t : Timestamp} (le : s ≤ t) :
    r.level t ≤ r.level s + r.limit.toNat * (t.toInt - s.toInt).toNat := by
  have passed := Nat.mul_le_mul_right r.limit.toNat (Timestamp.elapsed_le_elapsed_add r.changed le)
  rw [Nat.add_mul, Nat.mul_comm (t.toInt - s.toInt).toNat] at passed
  unfold level
  omega

/-- A limit that was just changed is at what is stored. -/
theorem level_le_stored (changed : r.changed = now) : r.level now ≤ r.stored.toNat * r.period := by
  rw [level, changed, Timestamp.elapsed_self, Nat.zero_mul, Nat.add_zero]
  exact Nat.min_le_right _ _

/-- **A claim** that fits lowers the level by what is claimed. -/
theorem level_claim_add_le (positive : 0 < r.duration) {amount : UInt64}
    (fits : amount ≤ r.capacity now) :
    (r.claim amount now).2.level now + amount.toNat * r.period ≤ r.level now := by
  calc (r.claim amount now).2.level now + amount.toNat * r.period
      ≤ (r.capacity now - amount).toNat * r.period + amount.toNat * r.period := by
        rw [claim_of_fits fits]
        exact Nat.add_le_add_right (level_le_stored rfl) _
    _ = (r.capacity now).toNat * r.period := by rw [← Nat.add_mul, toNat_left_add fits]
    _ ≤ r.level now := capacity_mul_le positive

/-- A change that stores at most `more` than the capacity raises the level by at most that. -/
private theorem level_le_of_stored_le (positive : 0 < r.duration) {r' : RateLimit} {more : Nat}
    (duration : r'.duration = r.duration) (changed : r'.changed = now)
    (stored : r'.stored.toNat ≤ (r.capacity now).toNat + more) :
    r'.level now ≤ r.level now + more * r.period := by
  have same : r'.period = r.period := congrArg (fun d => d.toInt.toNat) duration
  calc r'.level now
      ≤ r'.stored.toNat * r.period := same ▸ level_le_stored changed
    _ ≤ ((r.capacity now).toNat + more) * r.period := Nat.mul_le_mul_right _ stored
    _ = (r.capacity now).toNat * r.period + more * r.period := Nat.add_mul _ _ _
    _ ≤ r.level now + more * r.period := Nat.add_le_add_right (capacity_mul_le positive) _

/-- **What is given back** raises the level by at most as much. -/
theorem level_refill_le (positive : 0 < r.duration) (amount : UInt64) :
    (r.refill amount now).level now ≤ r.level now + amount.toNat * r.period := by
  refine level_le_of_stored_le positive rfl rfl ?_
  rw [toNat_stored_refill]
  exact Nat.min_le_left _ _

/-- **A change of the limit** raises the level by at most what the limit is raised by. -/
theorem level_setLimit_le (positive : 0 < r.duration) (limit : UInt64) :
    (r.setLimit limit now).level now ≤
      r.level now + (limit.toNat - r.limit.toNat) * r.period := by
  refine level_le_of_stored_le positive rfl rfl ?_
  have stored := toNat_stored_setLimit r limit now
  omega

/-! ### Setting a limit again -/

/-- The part of the level that is too small for a unit of capacity. -/
def fraction (r : RateLimit) (now : Timestamp) : Nat := r.level now % r.period

theorem fraction_lt (positive : 0 < r.duration) (now : Timestamp) : r.fraction now < r.period :=
  Nat.mod_lt _ (period_pos positive)

/-- The level is the capacity and the fraction. -/
theorem level_eq_capacity_mul_add (positive : 0 < r.duration) (now : Timestamp) :
    r.level now = (r.capacity now).toNat * r.period + r.fraction now := by
  rw [toNat_capacity positive, fraction, Nat.mul_comm, Nat.div_add_mod]

/-- The unit that the fraction of an earlier time makes up with what is gained until a later one, if
it does. -/
def carried (r : RateLimit) (now later : Timestamp) : Nat :=
  (r.fraction now + (later.toInt - now.toInt).toNat * r.limit.toNat % r.period) / r.period

theorem carried_le_one (positive : 0 < r.duration) (now later : Timestamp) :
    r.carried now later ≤ 1 := by
  have fraction := r.fraction_lt positive now
  have gained := Nat.mod_lt ((later.toInt - now.toInt).toNat * r.limit.toNat) (period_pos positive)
  apply Nat.lt_succ_iff.mp
  rw [carried, Nat.div_lt_iff_lt_mul (period_pos positive)]
  omega

/-- Setting the limit that is set writes back what the capacity shows, without the fraction. -/
theorem setLimit_limit (r : RateLimit) (now : Timestamp) :
    r.setLimit r.limit now = { r with stored := r.capacity now, changed := now } := by
  have stored : (r.setLimit r.limit now).stored = r.capacity now := by
    have full := UInt64.le_iff_toNat_le.mp (r.capacity_le_limit now)
    have stored := r.toNat_stored_setLimit r.limit now
    apply UInt64.toNat.inj
    omega
  rw [← stored]
  rfl

/-- The level at a later time, from that at an earlier one. -/
theorem level_later (r : RateLimit) {s t : Timestamp} (since : r.changed ≤ s) (le : s ≤ t) :
    r.level t = min (r.limit.toNat * r.period)
      (r.level s + (t.toInt - s.toInt).toNat * r.limit.toNat) := by
  have since : r.changed.toInt ≤ s.toInt := Int64.le_iff_toInt_le.mp since
  have le : s.toInt ≤ t.toInt := Int64.le_iff_toInt_le.mp le
  have passed : (t.toInt - r.changed.toInt).toNat =
      (s.toInt - r.changed.toInt).toNat + (t.toInt - s.toInt).toNat := by omega
  rw [level_eq, level_eq, passed, Nat.add_mul]
  omega

/-- **Setting a limit again forgets a fraction.**  Later the capacity is what it would have been, or
one unit less where the fraction and what was gained since make up a unit together. -/
theorem toNat_capacity_eq_of_setLimit (positive : 0 < r.duration) {t : Timestamp}
    (since : r.changed ≤ now) (le : now ≤ t) :
    (r.capacity t).toNat =
      min r.limit.toNat (((r.setLimit r.limit now).capacity t).toNat + r.carried now t) := by
  have period := period_pos positive
  have again : ((r.setLimit r.limit now).capacity t).toNat = min r.limit.toNat
      ((r.capacity now).toNat + (t.toInt - now.toInt).toNat * r.limit.toNat / r.period) := by
    rw [setLimit_limit]
    exact toNat_capacity_eq (r := { r with stored := r.capacity now, changed := now }) positive
  have level := r.level_eq_capacity_mul_add positive now
  -- What is gained is whole units and a fraction, and the two fractions are added up.
  have gained (e : Nat) : ((r.capacity now).toNat * r.period + r.fraction now + e) / r.period =
      (r.capacity now).toNat + e / r.period + (r.fraction now + e % r.period) / r.period := by
    have whole := Nat.div_add_mod e r.period
    calc ((r.capacity now).toNat * r.period + r.fraction now + e) / r.period
        = (r.fraction now + e % r.period +
            r.period * ((r.capacity now).toNat + e / r.period)) / r.period := by
          rw [Nat.mul_add, Nat.mul_comm r.period (r.capacity now).toNat]
          congr 1
          omega
      _ = _ := by
          rw [Nat.add_mul_div_left _ _ period, Nat.add_comm]
  rw [again, toNat_capacity positive, r.level_later since le, level, min_mul_div period, gained,
    ← carried]
  generalize _ * r.limit.toNat / r.period = units
  omega

end RateLimit

end TokenTransfer
