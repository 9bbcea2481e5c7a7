import TokenTransfer.Proofs.RateLimit.Ideal

/-!
# A clock that goes back

A look at the capacity counts a clock that went back as no time passed.  A change does so too, but it
stores the earlier time: from then on the seconds that the clock went back over count once more, so
that they refill the limit twice.

For one change this is exact (`RateLimit.capacity_call_moved`): the limit is the one that the same
change leaves at the time of the last change, with an earlier time in it.  Over a run, the seconds
that count are those from the beginning to the end and those that the clock went back over at the
changes, and beyond what was there no more is handed out than they refill
(`RateLimit.taken_mul_le`).  Claims that are delayed are no changes: the clock may go back at them.

## Main definitions

* `RateLimit.Call.moved` - the same call at another time
* `RateLimit.setBack` - the seconds that the clock goes back over at a call
* `RateLimit.counted` - the seconds that count over a run

## Main statements

* `RateLimit.capacity_call_moved` - what a change with a clock that went back leaves for later
* `RateLimit.counted_eq` - which seconds count over a run
* `RateLimit.level_after_le`, `RateLimit.taken_mul_le` - what a limit hands out over a run, however
  the clock goes
-/

namespace TokenTransfer

namespace RateLimit

namespace Call

/-- The time of a call. -/
def time : Call → Timestamp
  | .claim _ now | .refill _ now | .setLimit _ now => now

/-- The same call at another time. -/
def moved (time : Timestamp) : Call → Call
  | .claim amount _ => .claim amount time
  | .refill amount _ => .refill amount time
  | .setLimit limit _ => .setLimit limit time

@[simp] theorem time_moved (time : Timestamp) (call : Call) : (call.moved time).time = time := by
  cases call <;> rfl

end Call

variable {r : RateLimit} {call : Call} {s t : Timestamp}

/-! ### Calls -/

/-- A call that is no change leaves the limit as it was. -/
theorem call_of_not_accepts (waits : r.accepts call = false) : r.call call = r := by
  cases call with
  | claim amount now =>
      have waits : ¬ amount ≤ r.capacity now := fun fits =>
        absurd (accepts_claim_iff.mpr fits) (Bool.eq_false_iff.mp waits)
      rw [RateLimit.call, claim_of_waits waits]
  | refill amount now => cases waits
  | setLimit limit now => cases waits

/-- **A change stores its time.** -/
theorem changed_call (accepts : r.accepts call = true) : (r.call call).changed = call.time := by
  cases call with
  | claim amount now => rw [RateLimit.call, claim_of_fits (accepts_claim_iff.mp accepts), Call.time]
  | refill amount now => rfl
  | setLimit limit now => rfl

@[simp] theorem duration_call (r : RateLimit) (call : Call) :
    (r.call call).duration = r.duration := by
  cases call with
  | claim amount now => exact r.duration_claim amount now
  | refill amount now => rfl
  | setLimit limit now => rfl

@[simp] theorem period_call (r : RateLimit) (call : Call) : (r.call call).period = r.period :=
  congrArg (·.toInt.toNat) (r.duration_call call)

/-- Calls at times of the same capacity get the same answer. -/
theorem accepts_moved (same : r.capacity s = r.capacity t) (call : Call) :
    r.accepts (call.moved s) = r.accepts (call.moved t) := by
  cases call with
  | claim amount now =>
      rw [Bool.eq_iff_iff, Call.moved, Call.moved, accepts_claim_iff, accepts_claim_iff, same]
  | refill amount now => rfl
  | setLimit limit now => rfl

/-- **Changes at times of the same capacity** leave the same limit but for the time in it. -/
theorem call_moved (same : r.capacity s = r.capacity t)
    (accepts : r.accepts (call.moved s) = true) :
    r.call (call.moved s) = { r.call (call.moved t) with changed := s } := by
  have accepts' := (accepts_moved same call).symm.trans accepts
  cases call with
  | claim amount now =>
      simp only [Call.moved, RateLimit.call] at accepts accepts' ⊢
      rw [claim_of_fits (accepts_claim_iff.mp accepts),
        claim_of_fits (accepts_claim_iff.mp accepts'), same]
  | refill amount now =>
      simp only [Call.moved, RateLimit.call, refill, same]
  | setLimit limit now =>
      simp only [Call.moved, RateLimit.call, setLimit, same]

/-! ### One change -/

/-- **A look back counts as no time passed.** -/
theorem capacity_of_le_changed (back : s ≤ r.changed) : r.capacity s = r.capacity r.changed := by
  have back : s.toInt ≤ r.changed.toInt := Int64.le_iff_toInt_le.mp back
  have passed : Timestamp.elapsed r.changed s = Timestamp.elapsed r.changed r.changed := by
    rw [Timestamp.elapsed_eq, Timestamp.elapsed_eq]
    omega
  unfold capacity
  rw [passed]

/-- The level of a limit with an earlier time in it: the seconds in between count as well. -/
theorem level_earlier (back : s ≤ r.changed) (le : r.changed ≤ t) :
    { r with changed := s }.level t = min (r.limit.toNat * r.period)
      (r.level t + (r.changed.toInt - s.toInt).toNat * r.limit.toNat) := by
  have back : s.toInt ≤ r.changed.toInt := Int64.le_iff_toInt_le.mp back
  have le : r.changed.toInt ≤ t.toInt := Int64.le_iff_toInt_le.mp le
  have passed : (t.toInt - s.toInt).toNat =
      (t.toInt - r.changed.toInt).toNat + (r.changed.toInt - s.toInt).toNat := by omega
  have level : { r with changed := s }.level t = min (r.limit.toNat * r.period)
      (r.stored.toNat * r.period + (t.toInt - s.toInt).toNat * r.limit.toNat) := level_eq _ t
  rw [level, level_eq, passed, Nat.add_mul]
  omega

/-- Its capacity: those seconds refill it, and what they add to the fraction may make up a unit. -/
theorem toNat_capacity_earlier (positive : 0 < r.duration) (back : s ≤ r.changed)
    (le : r.changed ≤ t) :
    ({ r with changed := s }.capacity t).toNat = min r.limit.toNat ((r.capacity t).toNat +
      (r.fraction t + (r.changed.toInt - s.toInt).toNat * r.limit.toNat) / r.period) := by
  have period := period_pos positive
  have capacity : ({ r with changed := s }.capacity t).toNat =
      { r with changed := s }.level t / r.period :=
    toNat_capacity (r := { r with changed := s }) positive
  rw [capacity, level_earlier back le, min_mul_div period,
    level_eq_capacity_mul_add positive, Nat.add_assoc,
    Nat.add_comm (_ * r.period), Nat.add_mul_div_right _ _ period, Nat.add_comm (_ / r.period)]

/-- **A change with a clock that went back.**  Beside it stands the same call at the time of the last
change.  Both get the same answer, and where the claim is delayed nothing changes.  A change leaves
the same limit but for the time in it, and from the last change on the capacity is higher by what the
seconds in between refill, up to the limit, although they have refilled it before. -/
theorem capacity_call_moved (positive : 0 < r.duration) (back : s < r.changed) (call : Call)
    (le : r.changed ≤ t) :
    let early := r.call (call.moved s)
    let inTime := r.call (call.moved r.changed)
    r.capacity s = r.capacity r.changed ∧
    r.accepts (call.moved s) = r.accepts (call.moved r.changed) ∧
    (r.accepts (call.moved s) = false → early = r ∧ inTime = r) ∧
    (r.accepts (call.moved s) = true →
      early = { inTime with changed := s } ∧ inTime.changed = r.changed ∧
      (early.capacity t).toNat = min inTime.limit.toNat ((inTime.capacity t).toNat +
        (inTime.fraction t + (r.changed.toInt - s.toInt).toNat * inTime.limit.toNat) /
          inTime.period)) := by
  intro early inTime
  have back : s ≤ r.changed := Int64.le_of_lt back
  have same := capacity_of_le_changed back
  have answer := accepts_moved same call
  refine ⟨same, answer, fun waits => ?_, fun accepts => ?_⟩
  · exact ⟨call_of_not_accepts waits, call_of_not_accepts (answer.symm.trans waits)⟩
  · have moved : early = { inTime with changed := s } := call_moved same accepts
    have changed : inTime.changed = r.changed := by
      rw [changed_call (answer.symm.trans accepts), Call.time_moved]
    have positive' : 0 < inTime.duration := (r.duration_call _).symm ▸ positive
    have capacity := toNat_capacity_earlier positive' (changed ▸ back) (changed ▸ le)
    rw [← moved, changed] at capacity
    exact ⟨moved, changed, capacity⟩

/-- A limit of ten units that refills in ten seconds, emptied at the tenth second. -/
def emptied : RateLimit := (full 10 10 10).call (.claim 10 10)

theorem capacity_call_moved_of_emptied :
    0 < emptied.duration ∧ (0 : Timestamp) < emptied.changed ∧ emptied.changed ≤ 10 ∧
      emptied.accepts (.refill 1 0) = true ∧
      ((emptied.call (.refill 1 0)).capacity 10).toNat = min 10 (1 + (0 + 10 * 10) / 10) := by
  have positive : 0 < emptied.duration := by decide
  have back : (0 : Timestamp) < emptied.changed := by decide
  have le : emptied.changed ≤ 10 := by decide
  have accepts : emptied.accepts (.refill 1 0) = true := rfl
  obtain ⟨-, -, -, change⟩ := capacity_call_moved positive back (.refill 1 10) le
  exact ⟨positive, back, le, accepts, (change accepts).2.2⟩

/-- **The ten seconds count twice.**  One unit given back with a clock that went back ten seconds fills
the limit at the tenth second, where it would have been the only unit. -/
theorem capacity_refill_earlier_gt :
    0 < emptied.duration ∧ (0 : Timestamp) < emptied.changed ∧ emptied.changed ≤ 10 ∧
      ¬ (emptied.refill 1 0).capacity 10 ≤ (emptied.refill 1 emptied.changed).capacity 10 ∧
      (emptied.refill 1 0).capacity 10 = 10 ∧
      (emptied.refill 1 emptied.changed).capacity 10 = 1 := by
  decide

/-! ### Runs -/

/-- The limit after some calls. -/
def after (r : RateLimit) (calls : List Call) : RateLimit := calls.foldl RateLimit.call r

/-- What a call takes. -/
def taken (r : RateLimit) : Call → Nat
  | .claim amount now => if r.accepts (.claim amount now) then amount.toNat else 0
  | .refill _ _ | .setLimit _ _ => 0

/-- What a call adds: what is given back, or what the limit is raised by. -/
def added (r : RateLimit) : Call → Nat
  | .claim _ _ => 0
  | .refill amount _ => amount.toNat
  | .setLimit limit _ => limit.toNat - r.limit.toNat

/-- **The seconds that the clock goes back over** at a call; only a change stores its time. -/
def setBack (r : RateLimit) (call : Call) : Nat :=
  if r.accepts call then (r.changed.toInt - call.time.toInt).toNat else 0

/-- The sum of a count over the calls of a run. -/
def total (count : RateLimit → Call → Nat) (r : RateLimit) : List Call → Nat
  | [] => 0
  | call :: rest => count r call + total count (r.call call) rest

/-- The largest limit in force over a run. -/
def peak (r : RateLimit) : List Call → Nat
  | [] => r.limit.toNat
  | call :: rest => max r.limit.toNat ((r.call call).peak rest)

/-- **The seconds that count** over a run until `finish`: those from each change to the next one. -/
def counted (r : RateLimit) (finish : Timestamp) : List Call → Nat
  | [] => (finish.toInt - r.changed.toInt).toNat
  | call :: rest =>
    (if r.accepts call then (call.time.toInt - r.changed.toInt).toNat else 0) +
      (r.call call).counted finish rest

/-- **Which seconds count.**  Those from the beginning to the end, and once more those that the clock
went back over at the changes. -/
theorem counted_eq {calls : List Call} (le : (r.after calls).changed ≤ t) :
    (r.counted t calls : ℤ) = t.toInt - r.changed.toInt + r.total setBack calls := by
  induction calls generalizing r with
  | nil =>
      have le : r.changed.toInt ≤ t.toInt := Int64.le_iff_toInt_le.mp le
      rw [counted, total]
      omega
  | cons call rest ih =>
      have rest := ih (r := r.call call) le
      rw [counted, total, setBack]
      cases accepts : r.accepts call with
      | true =>
          rw [changed_call accepts] at rest
          rw [if_pos rfl, if_pos rfl]
          push_cast
          omega
      | false =>
          rw [call_of_not_accepts accepts] at rest ⊢
          rw [if_neg Bool.false_ne_true, if_neg Bool.false_ne_true]
          push_cast
          omega

/-- A change stores what the capacity leaves for it. -/
theorem stored_call_add_le (accepts : r.accepts call = true) :
    (r.call call).stored.toNat + r.taken call ≤
      (r.capacity call.time).toNat + r.added call := by
  cases call with
  | claim amount now =>
      have fits := accepts_claim_iff.mp accepts
      rw [taken, if_pos accepts, RateLimit.call, claim_of_fits fits]
      exact (toNat_left_add fits).le
  | refill amount now =>
      have stored := r.toNat_stored_refill amount now
      simp only [RateLimit.call, taken, added, Call.time]
      omega
  | setLimit limit now =>
      have stored := r.toNat_stored_setLimit limit now
      simp only [RateLimit.call, taken, added, Call.time]
      omega

/-- The level is what was stored and what has come back since. -/
theorem level_le_stored_add (r : RateLimit) (now : Timestamp) :
    r.level now ≤ r.stored.toNat * r.period +
      r.limit.toNat * (now.toInt - r.changed.toInt).toNat := by
  rw [level_eq, Nat.mul_comm r.limit.toNat (_ - _ : ℤ).toNat]
  exact Nat.min_le_right _ _

/-- **What one change stores** comes out of what was stored, what it adds, and what the seconds since
the last change refill. -/
theorem stored_call_mul_le (positive : 0 < r.duration) (accepts : r.accepts call = true) :
    ((r.call call).stored.toNat + r.taken call) * r.period ≤
      (r.stored.toNat + r.added call) * r.period +
        r.limit.toNat * (call.time.toInt - r.changed.toInt).toNat := by
  have level := r.level_le_stored_add call.time
  calc ((r.call call).stored.toNat + r.taken call) * r.period
      ≤ ((r.capacity call.time).toNat + r.added call) * r.period :=
        Nat.mul_le_mul_right _ (stored_call_add_le accepts)
    _ = (r.capacity call.time).toNat * r.period + r.added call * r.period := Nat.add_mul _ _ _
    _ ≤ r.level call.time + r.added call * r.period :=
        Nat.add_le_add_right (capacity_mul_le positive) _
    _ ≤ _ := by
        rw [Nat.add_mul]
        omega

/-- What is no change takes nothing. -/
theorem taken_of_not_accepts (waits : r.accepts call = false) : r.taken call = 0 := by
  cases call with
  | claim amount now => rw [taken, if_neg (Bool.eq_false_iff.mp waits)]
  | refill amount now => rfl
  | setLimit limit now => rfl

/-- **What a limit hands out over a run.**  However the clock goes, what is left at the end and what
was taken come out of what was stored at the beginning, what was added, and what the seconds that
count refill at the largest limit in force. -/
theorem level_after_le (positive : 0 < r.duration) (calls : List Call) (t : Timestamp) :
    (r.after calls).level t + r.total taken calls * r.period ≤
      (r.stored.toNat + r.total added calls) * r.period + r.peak calls * r.counted t calls := by
  induction calls generalizing r with
  | nil =>
      simp only [after, List.foldl_nil, total, peak, counted, Nat.zero_mul, Nat.add_zero]
      exact r.level_le_stored_add t
  | cons call rest ih =>
      have positive' : 0 < (r.call call).duration := (r.duration_call call).symm ▸ positive
      have left := ih positive'
      have lower := Nat.mul_le_mul_right ((r.call call).counted t rest)
        (le_max_right r.limit.toNat ((r.call call).peak rest))
      rw [period_call] at left
      simp only [after, List.foldl_cons, total, peak, counted, Nat.add_mul, Nat.mul_add] at left ⊢
      cases accepts : r.accepts call with
      | true =>
          have change := stored_call_mul_le positive accepts
          have lower' := Nat.mul_le_mul_right (call.time.toInt - r.changed.toInt).toNat
            (le_max_left r.limit.toNat ((r.call call).peak rest))
          rw [Nat.add_mul, Nat.add_mul] at change
          rw [if_pos rfl]
          omega
      | false =>
          have same := call_of_not_accepts accepts
          rw [same] at left lower ⊢
          rw [taken_of_not_accepts accepts, if_neg Bool.false_ne_true]
          omega

/-- **Each second refills once**, and once more whenever the clock goes back over it at a change.  So no
second refills twice while the clock does not go back at the changes. -/
theorem taken_mul_le (positive : 0 < r.duration) {calls : List Call}
    (le : (r.after calls).changed ≤ t) :
    (r.total taken calls : ℤ) * r.period ≤ (r.stored.toNat + r.total added calls) * r.period +
      r.peak calls * (t.toInt - r.changed.toInt + r.total setBack calls) := by
  rw [← counted_eq le]
  exact_mod_cast (Nat.le_add_left _ _).trans (level_after_le positive calls t)

/-- A clock that is set back between two claims lets a limit of ten units hand out twenty at the tenth
second. -/
example : let calls := [.claim 10 10, .refill 0 0, .claim 10 10]
    (full 10 10 10).total taken calls = 20 ∧ (full 10 10 10).total setBack calls = 10 := by
  decide

end RateLimit

end TokenTransfer
