import Mathlib.Algebra.Order.Field.Rat
import Mathlib.Tactic.Linarith
import TokenTransfer.Proofs.RateLimit

/-!
# The ideal bucket

A rate limit counts whole units and rounds its capacity down at every change.  Beside it stands the
bucket that it is meant to be: one over the rationals, which gains the same share of its limit with
every second and never rounds.  The bucket is told of every change of the limit, and a claim is taken
out of it exactly when the limit accepts the claim.

The limit lags behind the bucket, never the other way round: so what it hands out, the bucket has.
Between two changes the lag of what is stored stays the same, and looking at the capacity rounds off
less than one unit; a change writes the rounded capacity back, so each change adds less than one unit
to the lag.  That both stop at zero and at the limit does not widen it.

## Main definitions

* `Bucket` - a bucket over the rationals
* `RateLimit.Call` - what a limit is called with
* `Shadowed` - a limit and the bucket beside it
* `Lags` - one number is at most another, and not by more than a lag

## Main statements

* `RateLimit.lags_exact` - the capacity lags less than one unit behind that of the bucket which holds
  just what is stored
* `Shadowed.Tracks.step` - a change adds one unit to the lag
* `Shadowed.refines_bucket` - a limit refines its bucket
-/

namespace TokenTransfer

/-! ### The bucket -/

/-- A bucket of capacity over the rationals. -/
structure Bucket where
  limit : ℚ
  /-- The capacity at the time of the last change. -/
  stored : ℚ
  changed : Timestamp
  duration : Timestamp

namespace Bucket

/-- A full bucket. -/
def full (limit : ℚ) (now duration : Timestamp) : Bucket :=
  { limit, stored := limit, changed := now, duration }

/-- The capacity at `now`: the bucket gains its limit within its duration, and nothing while the
clock stands before the last change. -/
def capacity (b : Bucket) (now : Timestamp) : ℚ :=
  min b.limit (b.stored +
    b.limit * (max 0 (now.toInt - b.changed.toInt) : ℤ) / (b.duration.toInt : ℚ))

/-- Takes an amount out. -/
def take (b : Bucket) (amount : ℚ) (now : Timestamp) : Bucket :=
  { b with stored := b.capacity now - amount, changed := now }

/-- Gives an amount back, up to the limit. -/
def refill (b : Bucket) (amount : ℚ) (now : Timestamp) : Bucket :=
  { b with stored := min (b.capacity now + amount) b.limit, changed := now }

/-- Changes the limit and shifts the capacity by as much, between zero and the new limit. -/
def setLimit (b : Bucket) (limit : ℚ) (now : Timestamp) : Bucket :=
  { b with
    limit
    stored := max 0 (min (b.capacity now + (limit - b.limit)) limit)
    changed := now }

end Bucket

/-! ### Calls -/

namespace RateLimit

/-- What a limit is called with. -/
inductive Call where
  | claim (amount : UInt64) (now : Timestamp)
  | refill (amount : UInt64) (now : Timestamp)
  | setLimit (limit : UInt64) (now : Timestamp)
deriving DecidableEq

/-- The limit after a call. -/
def call (r : RateLimit) : Call → RateLimit
  | .claim amount now => (r.claim amount now).2
  | .refill amount now => r.refill amount now
  | .setLimit limit now => r.setLimit limit now

/-- Whether a call is a change: all are but the claims that are delayed. -/
def accepts (r : RateLimit) : Call → Bool
  | .claim amount now => (r.claim amount now).1 = .consumed now
  | .refill _ _ | .setLimit _ _ => true

/-- A claim is accepted if it fits the capacity. -/
theorem accepts_claim_iff {r : RateLimit} {amount : UInt64} {now : Timestamp} :
    r.accepts (.claim amount now) = true ↔ amount ≤ r.capacity now := by
  rw [accepts, decide_eq_true_iff, claim_eq_consumed_iff]

end RateLimit

/-- What a change does to a bucket. -/
def Bucket.change (b : Bucket) : RateLimit.Call → Bucket
  | .claim amount now => b.take amount.toNat now
  | .refill amount now => b.refill amount.toNat now
  | .setLimit limit now => b.setLimit limit.toNat now

/-- A limit, the bucket beside it, and the number of changes so far. -/
structure Shadowed where
  limit : RateLimit
  bucket : Bucket
  changes : Nat

namespace Shadowed

/-- A full limit beside a full bucket. -/
def full (limit : UInt64) (now duration : Timestamp) : Shadowed where
  limit := .full limit now duration
  bucket := .full limit.toNat now duration
  changes := 0

/-- A call to the limit, which is a change of the bucket if the limit accepts it. -/
def step (s : Shadowed) (call : RateLimit.Call) : Shadowed where
  limit := s.limit.call call
  bucket := if s.limit.accepts call then s.bucket.change call else s.bucket
  changes := if s.limit.accepts call then s.changes + 1 else s.changes

/-- The limit and its bucket after some calls. -/
def after (s : Shadowed) (calls : List RateLimit.Call) : Shadowed := calls.foldl step s

end Shadowed

/-! ### Lags -/

/-- **`x` lags behind `y`**, by at most `lag`. -/
structure Lags (lag x y : ℚ) : Prop where
  le : x ≤ y
  le_add : y ≤ x + lag

namespace Lags

variable {lag x y : ℚ}

theorem lag_nonneg (h : Lags lag x y) : 0 ≤ lag := by
  have := h.le
  have := h.le_add
  linarith

theorem add_right (h : Lags lag x y) (z : ℚ) : Lags lag (x + z) (y + z) := by
  have := h.le
  have := h.le_add
  constructor
  · linarith
  · linarith

theorem min_right (h : Lags lag x y) (bound : ℚ) : Lags lag (min x bound) (min y bound) where
  le := min_le_min_right bound h.le
  le_add := by
    rw [← min_add_add_right]
    exact min_le_min h.le_add (le_add_of_nonneg_right h.lag_nonneg)

theorem max_left (h : Lags lag x y) (bound : ℚ) : Lags lag (max bound x) (max bound y) where
  le := max_le_max_left bound h.le
  le_add := by
    rw [← max_add_add_right]
    exact max_le_max (le_add_of_nonneg_right h.lag_nonneg) h.le_add

end Lags

/-! ### Looking at the capacity -/

namespace RateLimit

variable {r : RateLimit}

/-- The bucket that holds just what is stored. -/
def exact (r : RateLimit) : Bucket where
  limit := r.limit.toNat
  stored := r.stored.toNat
  changed := r.changed
  duration := r.duration

/-- The capacity of this bucket is the level, in units. -/
theorem capacity_exact (positive : 0 < r.duration) (now : Timestamp) :
    r.exact.capacity now = (r.level now : ℚ) / r.period := by
  have whole : (0 : ℚ) < r.period := Nat.cast_pos.mpr (period_pos positive)
  have seconds : (r.duration.toInt : ℚ) = r.period := by
    rw [← toInt_period positive]
    push_cast
    rfl
  have passed : ((max 0 (now.toInt - r.changed.toInt) : ℤ) : ℚ) =
      ((now.toInt - r.changed.toInt).toNat : ℚ) := by
    rw [← Int.cast_natCast, Int.toNat_eq_max, max_comm]
  have filled : r.exact.capacity now = min (r.limit.toNat : ℚ) (r.stored.toNat +
      r.limit.toNat * (max 0 (now.toInt - r.changed.toInt) : ℤ) / (r.duration.toInt : ℚ)) := rfl
  rw [filled, seconds, passed, level_eq, eq_div_iff whole.ne', min_mul_of_nonneg _ _ whole.le,
    add_mul, div_mul_cancel₀ _ whole.ne', Nat.mul_comm (now.toInt - r.changed.toInt).toNat]
  push_cast
  rfl

/-- **Looking at the capacity** rounds off less than one unit. -/
theorem lags_exact (positive : 0 < r.duration) (now : Timestamp) :
    ((r.capacity now).toNat : ℚ) ≤ r.exact.capacity now ∧
      r.exact.capacity now < (r.capacity now).toNat + 1 := by
  have whole : (0 : ℚ) < r.period := Nat.cast_pos.mpr (period_pos positive)
  rw [capacity_exact positive, le_div_iff₀ whole, div_lt_iff₀ whole]
  exact ⟨by exact_mod_cast capacity_mul_le positive, by exact_mod_cast level_lt positive⟩

end RateLimit

/-! ### Capacities of buckets -/

/-- A bucket that stores less lags behind, by no more than what it stores lags. -/
theorem Lags.capacity {lag x y : ℚ} (h : Lags lag x y) (b : Bucket) (now : Timestamp) :
    Lags lag ({ b with stored := x }.capacity now) ({ b with stored := y }.capacity now) := by
  unfold Bucket.capacity
  rw [min_comm, min_comm b.limit]
  exact (h.add_right _).min_right _

namespace Shadowed

/-- **The limit tracks its bucket**: they agree in all but what is stored, and there the limit lags
behind, by at most a unit for each change. -/
structure Tracks (s : Shadowed) : Prop where
  positive : 0 < s.limit.duration
  duration : s.bucket.duration = s.limit.duration
  limit : s.bucket.limit = s.limit.limit.toNat
  changed : s.bucket.changed = s.limit.changed
  lags : Lags s.changes s.limit.stored.toNat s.bucket.stored

/-- A full limit tracks a full bucket. -/
theorem tracks_full (limit : UInt64) {duration : Timestamp} (positive : 0 < duration)
    (now : Timestamp) : (full limit now duration).Tracks where
  positive := positive
  duration := rfl
  limit := rfl
  changed := rfl
  lags := ⟨le_refl _, by simp [full, Bucket.full, RateLimit.full]⟩

variable {s : Shadowed}

/-- **The capacity lags behind that of the bucket**, by less than a unit more than what is stored. -/
theorem Tracks.capacity (tracks : s.Tracks) (now : Timestamp) :
    ((s.limit.capacity now).toNat : ℚ) ≤ s.bucket.capacity now ∧
      s.bucket.capacity now < (s.limit.capacity now).toNat + (s.changes + 1) := by
  have same : { s.bucket with stored := (s.limit.stored.toNat : ℚ) } = s.limit.exact := by
    simp only [RateLimit.exact, tracks.duration, tracks.limit, tracks.changed]
  have rounded := RateLimit.lags_exact tracks.positive now
  have lags := tracks.lags.capacity s.bucket now
  rw [same] at lags
  exact ⟨rounded.1.trans lags.le, by linarith [rounded.2, lags.le_add]⟩

/-- So once the capacity is written back, what is stored lags by at most a unit more. -/
theorem Tracks.lags_capacity (tracks : s.Tracks) (now : Timestamp) :
    Lags (s.changes + 1 : ℕ) (s.limit.capacity now).toNat (s.bucket.capacity now) := by
  obtain ⟨le, lt⟩ := tracks.capacity now
  push_cast
  exact ⟨le, lt.le⟩

/-- What is accepted changes the limit and the bucket. -/
theorem step_of_accepts {call : RateLimit.Call} (accepts : s.limit.accepts call = true) :
    s.step call = ⟨s.limit.call call, s.bucket.change call, s.changes + 1⟩ := by
  simp [step, accepts]

/-- A claim that is delayed changes neither the limit nor the bucket. -/
theorem step_of_waits {amount : UInt64} {now : Timestamp}
    (waits : ¬ amount ≤ s.limit.capacity now) : s.step (.claim amount now) = s := by
  simp [step, RateLimit.accepts, RateLimit.call, RateLimit.claim_of_waits waits]

/-- **A call keeps track.**  Each change stores the capacity, shifted by the same amount on both sides
and cut off at the same bounds. -/
theorem Tracks.step (tracks : s.Tracks) (call : RateLimit.Call) : (s.step call).Tracks := by
  cases call with
  | claim amount now =>
    by_cases fits : amount ≤ s.limit.capacity now
    · have accepts := RateLimit.accepts_claim_iff.mpr fits
      have left : ((s.limit.capacity now - amount).toNat : ℚ) =
          (s.limit.capacity now).toNat - amount.toNat := by
        rw [UInt64.toNat_sub_of_le _ _ fits, Nat.cast_sub (UInt64.le_iff_toNat_le.mp fits)]
      have lags := (tracks.lags_capacity now).add_right (-amount.toNat)
      rw [← sub_eq_add_neg, ← sub_eq_add_neg, ← left] at lags
      rw [step_of_accepts accepts, RateLimit.call, RateLimit.claim_of_fits fits]
      exact ⟨tracks.positive, tracks.duration, tracks.limit, rfl, lags⟩
    · rw [step_of_waits fits]
      exact tracks
  | refill amount now =>
    have lags := ((tracks.lags_capacity now).add_right amount.toNat).min_right s.bucket.limit
    have stored : ((s.limit.refill amount now).stored.toNat : ℚ) =
        min ((s.limit.capacity now).toNat + amount.toNat : ℚ) s.bucket.limit := by
      rw [RateLimit.toNat_stored_refill, tracks.limit]
      push_cast
      rfl
    rw [← stored] at lags
    rw [step_of_accepts rfl]
    exact ⟨tracks.positive, tracks.duration, tracks.limit, rfl, lags⟩
  | setLimit limit now =>
    have lags := (((tracks.lags_capacity now).add_right (limit.toNat - s.bucket.limit)).min_right
      limit.toNat).max_left 0
    have stored : ((s.limit.setLimit limit now).stored.toNat : ℚ) =
        max 0 (min ((s.limit.capacity now).toNat + (limit.toNat - s.bucket.limit) : ℚ)
          limit.toNat) := by
      rw [tracks.limit]
      exact_mod_cast RateLimit.toNat_stored_setLimit s.limit limit now
    rw [← stored] at lags
    rw [step_of_accepts rfl]
    exact ⟨tracks.positive, tracks.duration, rfl, rfl, lags⟩

/-- **A limit tracks its bucket** through any calls, at any times. -/
theorem Tracks.after (tracks : s.Tracks) (calls : List RateLimit.Call) : (s.after calls).Tracks := by
  induction calls generalizing s with
  | nil => exact tracks
  | cons call rest ih => exact ih (tracks.step call)

/-- **A limit refines its bucket.**  Whatever a new limit is called with, and however the clock goes
back and forth, its capacity is at most that of the ideal bucket, and falls short of it by less than
one unit more than there were changes.  A claim is accepted exactly when it is within the capacity;
then the capacity is lower by just the claimed amount, and otherwise the limit is as it was. -/
theorem refines_bucket (limit : UInt64) {duration : Timestamp} (positive : 0 < duration)
    (start : Timestamp) (calls : List RateLimit.Call) :
    let s := (full limit start duration).after calls
    ∀ now : Timestamp,
      ((s.limit.capacity now).toNat : ℚ) ≤ s.bucket.capacity now ∧
      s.bucket.capacity now - (s.changes + 1) < (s.limit.capacity now).toNat ∧
      ∀ amount : UInt64,
        ((s.limit.claim amount now).1 = .consumed now ↔ amount ≤ s.limit.capacity now) ∧
        (amount ≤ s.limit.capacity now →
          ((s.limit.claim amount now).2.capacity now).toNat + amount.toNat =
            (s.limit.capacity now).toNat) ∧
        (¬ amount ≤ s.limit.capacity now → (s.limit.claim amount now).2 = s.limit) := by
  intro s now
  have tracks : s.Tracks := (tracks_full limit positive start).after calls
  obtain ⟨le, lt⟩ := tracks.capacity now
  refine ⟨le, sub_lt_iff_lt_add.mpr lt, fun amount => ⟨RateLimit.claim_eq_consumed_iff, ?_, ?_⟩⟩
  · exact RateLimit.toNat_capacity_claim tracks.positive
  · intro waits
    rw [RateLimit.claim_of_waits waits]

/-- A bucket that was emptied gains ten units in three seconds and is written to after each of two
seconds, so a third of a unit is lost twice.  The claim comes with a clock that went back, does not
fit and is no change. -/
def sample : Shadowed :=
  (full 10 0 3).after [.claim 10 0, .refill 0 1, .refill 0 2, .claim 7 1]

theorem refines_bucket_of_sample :
    sample.limit.capacity 2 = 6 ∧ 6 ≤ sample.bucket.capacity 2 ∧ sample.bucket.capacity 2 < 10 := by
  have capacity : sample.limit.capacity 2 = 6 := by decide
  have changes : sample.changes = 3 := by decide
  have positive : (0 : Timestamp) < 3 := by decide
  obtain ⟨le, lt, -⟩ :=
    refines_bucket 10 positive 0 [.claim 10 0, .refill 0 1, .refill 0 2, .claim 7 1] 2
  change ((sample.limit.capacity 2).toNat : ℚ) ≤ sample.bucket.capacity 2 at le
  change sample.bucket.capacity 2 - (sample.changes + 1) < (sample.limit.capacity 2).toNat at lt
  have units : (6 : UInt64).toNat = 6 := rfl
  rw [capacity, units] at le lt
  rw [changes] at lt
  push_cast at le lt
  exact ⟨capacity, le, by linarith⟩

end Shadowed

end TokenTransfer
