import Mathlib.Algebra.Order.Floor.Div
import Mathlib.Order.Basic
import TokenTransfer.Proofs.Manager.Limits

/-!
# What a limit lets through

In any window of a run in which the clock does not go back, no gate lets through more at once than
its capacity at the beginning, what was given back to it, what its limit was raised by, and what the
time of the window refills at the largest limit in force.

The argument follows the level of the gate and not its capacity, since every look at the capacity
rounds it down.  A passage lowers the level of the gate that it claims by its amount; a passage that
gives back, a raise of the limit and the passing of time raise it by no more than what they are
counted for (`Spends`).  So what was taken in the window is at most what the level began with and
what was added.  The level began at less than one unit above the capacity, which is why one
rounding up is all that the bound needs.

## Main definitions

* `Gate.taken`, `Gate.given`, `Gate.raised` - what a run takes from a gate and adds to it
* `Gate.peak` - the largest limit in force at a gate
* `Timely` - the clock of a window does not go back

## Main statements

* `level_after_add_le` - the level of a gate over a window
* `throughput_le` - what a gate lets through in a window
-/

namespace TokenTransfer

namespace Manager

variable {m m' : Manager}

/-! ### What a window takes and adds -/

/-- The limit in force at a gate, or zero where there is none. -/
def Gate.limitOf (gate : Gate) (m : Manager) : Nat := (m.gates gate).elim 0 (·.limit.toNat)

/-- What a run has sent through a gate at once. -/
def Gate.taken (gate : Gate) (m : Manager) (run : List Operation) : Nat :=
  (((m.events run).flatMap Event.passages).map (Passage.taken gate)).sum

/-- What a run has given back to a gate. -/
def Gate.given (gate : Gate) (m : Manager) (run : List Operation) : Nat :=
  (((m.events run).flatMap Event.passages).map (Passage.given gate)).sum

/-- What the limit at a gate was raised by in a run; what it was lowered by does not count. -/
def Gate.raised (gate : Gate) (m : Manager) (run : List Operation) : Nat :=
  ((m.events run).map fun e => gate.limitOf e.after - gate.limitOf e.before).sum

/-- The largest limit in force at a gate from the beginning of a run to its end. -/
def Gate.peak (gate : Gate) (m : Manager) (run : List Operation) : Nat :=
  ((m :: (m.events run).map Event.after).map gate.limitOf).foldr max 0

/-- **The clock does not go back** from `s` over the operations of a run to `t`. -/
def Timely (s : Timestamp) (run : List Operation) (t : Timestamp) : Prop :=
  List.IsChain (· ≤ ·) (s :: (run.filterMap Operation.time? ++ [t]))

instance (s : Timestamp) (run : List Operation) (t : Timestamp) : Decidable (Timely s run t) :=
  inferInstanceAs (Decidable (List.IsChain (· ≤ ·) (s :: (run.filterMap Operation.time? ++ [t]))))

/-- An operation takes place at its time, or if it has none, at the time before it. -/
theorem Timely.cons {s t : Timestamp} {operation : Operation} {rest : List Operation}
    (timely : Timely s (operation :: rest) t) :
    s ≤ operation.time?.getD s ∧ Timely (operation.time?.getD s) rest t := by
  unfold Timely at timely
  cases time : operation.time? with
  | none =>
      rw [List.filterMap_cons_none time] at timely
      exact ⟨Int64.le_refl s, timely⟩
  | some now =>
      rw [List.filterMap_cons_some time, List.cons_append, List.isChain_cons_cons] at timely
      exact timely

/-- A clock that does not go back ends no earlier than it begins. -/
theorem Timely.le {s t : Timestamp} {run : List Operation} (timely : Timely s run t) : s ≤ t := by
  induction run generalizing s with
  | nil => exact (List.isChain_cons_cons.mp timely).1
  | cons operation rest ih =>
      obtain ⟨le, timely'⟩ := timely.cons
      exact Int64.le_trans le (ih timely')

section Cons

variable (gate : Gate) (m : Manager) (operation : Operation) (rest : List Operation)

/-- What a run takes is what its first event takes and what the rest takes. -/
theorem Gate.taken_cons : gate.taken m (operation :: rest) =
    ((Event.passages ⟨m, operation⟩).map (Passage.taken gate)).sum +
      gate.taken (Event.after ⟨m, operation⟩) rest := by
  simp [Gate.taken, events]

theorem Gate.given_cons : gate.given m (operation :: rest) =
    ((Event.passages ⟨m, operation⟩).map (Passage.given gate)).sum +
      gate.given (Event.after ⟨m, operation⟩) rest := by
  simp [Gate.given, events]

theorem Gate.raised_cons : gate.raised m (operation :: rest) =
    (gate.limitOf (Event.after ⟨m, operation⟩) - gate.limitOf m) +
      gate.raised (Event.after ⟨m, operation⟩) rest := by
  simp [Gate.raised, events]

theorem Gate.peak_cons : gate.peak m (operation :: rest) =
    max (gate.limitOf m) (gate.peak (Event.after ⟨m, operation⟩) rest) := rfl

end Cons

/-- Where there is a limit, it is in force. -/
theorem Gate.limitOf_eq {gate : Gate} {r : RateLimit} (found : m.gates gate = some r) :
    gate.limitOf m = r.limit.toNat := by
  rw [Gate.limitOf, found, Option.elim_some]

/-! ### What one event does to the level of a gate -/

/-- **What a limit has left.**  Its level has gone down by what was taken, and up by no more than
what was given, each in units of the capacity. -/
structure Spends (now : Timestamp) (taken given : Nat) (r r' : RateLimit) : Prop where
  duration : r'.duration = r.duration
  level : r'.level now + taken * r.period ≤ r.level now + given * r.period

theorem Spends.period {now : Timestamp} {taken given : Nat} {r r' : RateLimit}
    (spends : Spends now taken given r r') : r'.period = r.period :=
  congrArg (·.toInt.toNat) spends.duration

theorem Spends.refl (now : Timestamp) (r : RateLimit) : Spends now 0 0 r r := ⟨rfl, le_rfl⟩

/-- What is spent in two parts adds up. -/
theorem Spends.trans {now : Timestamp} {taken given taken' given' : Nat} {r r' r'' : RateLimit}
    (first : Spends now taken given r r') (second : Spends now taken' given' r' r'') :
    Spends now (taken + taken') (given + given') r r'' := by
  refine ⟨second.duration.trans first.duration, ?_⟩
  have level := first.level
  have level' := second.level
  rw [first.period] at level'
  rw [Nat.add_mul, Nat.add_mul]
  omega

/-- A passage spends its amount at the gate it goes through, gives no more than that back to the
other one, and leaves the rest alone. -/
theorem Passes.spends {now : Timestamp} {claimed refilled : Gate} {amount : UInt64}
    {before after : Gate → Option RateLimit}
    (passes : Passes now claimed refilled amount before after) {gate : Gate} {r : RateLimit}
    (found : before gate = some r) (positive : 0 < r.duration) :
    ∃ r', after gate = some r' ∧ r'.limit = r.limit ∧
      Spends now (Passage.taken gate ⟨claimed, refilled, amount.toNat⟩)
        (Passage.given gate ⟨claimed, refilled, amount.toNat⟩) r r' := by
  unfold Passage.taken Passage.given
  by_cases isClaimed : claimed = gate
  · subst isClaimed
    obtain ⟨_, known, fits, found'⟩ := passes.claims
    cases found.symm.trans known
    refine ⟨_, found', r.limit_claim amount now, r.duration_claim amount now, ?_⟩
    have level := RateLimit.level_claim_add_le positive fits
    rw [if_pos rfl]
    dsimp only
    omega
  · rw [if_neg isClaimed]
    by_cases isRefilled : refilled = gate
    · subst isRefilled
      obtain ⟨_, known, found'⟩ := passes.refills
      cases found.symm.trans known
      refine ⟨_, found', rfl, rfl, ?_⟩
      rw [if_pos rfl, Nat.zero_mul, Nat.add_zero]
      exact RateLimit.level_refill_le positive amount
    · rw [if_neg isRefilled]
      have found' := passes.others gate (Ne.symm isClaimed) (Ne.symm isRefilled)
      exact ⟨r, found'.trans found, rfl, .refl now r⟩

/-- Passages one after the other spend at each gate what they take there, all together. -/
theorem PassesAll.spends {now : Timestamp} {passages : List Passage}
    {before after : Gate → Option RateLimit} (passes : PassesAll now before passages after)
    {gate : Gate} {r : RateLimit} (found : before gate = some r) (positive : 0 < r.duration) :
    ∃ r', after gate = some r' ∧ r'.limit = r.limit ∧
      Spends now (passages.map (Passage.taken gate)).sum (passages.map (Passage.given gate)).sum
        r r' := by
  induction passes generalizing r with
  | nil => exact ⟨r, found, rfl, .refl now r⟩
  | cons passes _ ih =>
      obtain ⟨r', found', limit, spends⟩ := passes.spends found positive
      obtain ⟨r'', found'', limit', spends'⟩ := ih found' (spends.duration ▸ positive)
      refine ⟨r'', found'', limit'.trans limit, ?_⟩
      simp only [List.map_cons, List.sum_cons]
      exact spends.trans spends'

/-- A new limit takes nothing, and gives no more than it was raised by. -/
theorem Sets.spends {now duration : Timestamp} {changed : Gate} {limit : UInt64}
    {before after : Gate → Option RateLimit} (sets : Sets now duration changed limit before after)
    {gate : Gate} {r : RateLimit} (found : before gate = some r) (positive : 0 < r.duration) :
    ∃ r', after gate = some r' ∧ Spends now 0 (r'.limit.toNat - r.limit.toNat) r r' := by
  by_cases same : gate = changed
  · subst same
    have become := sets.changed
    rw [found] at become
    refine ⟨_, become, rfl, ?_⟩
    rw [Nat.zero_mul, Nat.add_zero]
    exact RateLimit.level_setLimit_le positive limit
  · have kept := (sets.others gate same).trans found
    refine ⟨r, kept, ?_⟩
    rw [Nat.sub_self]
    exact .refl now r

/-- **What an event leaves of a gate**: its passages take and give back, and a raise of the limit
gives too. -/
theorem Event.spends (e : Event) (balanced : e.before.ledger.Balanced) {gate : Gate}
    {r : RateLimit} (found : e.before.gates gate = some r) (positive : 0 < r.duration)
    (s : Timestamp) :
    ∃ r', e.after.gates gate = some r' ∧
      Spends (e.operation.time?.getD s) (e.passages.map (Passage.taken gate)).sum
        ((e.passages.map (Passage.given gate)).sum +
          (gate.limitOf e.after - gate.limitOf e.before)) r r' := by
  cases e.regulated balanced with
  | passes time passes =>
      obtain ⟨r', found', limit, spends⟩ := passes.spends found positive
      refine ⟨r', found', ?_⟩
      rw [time, Option.getD_some, Gate.limitOf_eq found, Gate.limitOf_eq found', limit,
        Nat.sub_self]
      exact spends
  | sets time none sets =>
      obtain ⟨r', found', spends⟩ := sets.spends found positive
      refine ⟨r', found', ?_⟩
      rw [time, Option.getD_some, Gate.limitOf_eq found, Gate.limitOf_eq found', none]
      simpa using spends
  | keeps none same =>
      have found' : e.after.gates gate = some r := same ▸ found
      refine ⟨r, found', ?_⟩
      rw [none, Gate.limitOf_eq found, Gate.limitOf_eq found', Nat.sub_self]
      exact .refl _ r

/-! ### The level of a gate over a window -/

/-- **The level over a window.**  What is left at the end and what was taken come out of what there
was at the beginning, what was added, and what the time refills at the largest limit. -/
theorem level_after_add_le (balanced : m.ledger.Balanced) {gate : Gate} {r : RateLimit}
    (found : m.gates gate = some r) (positive : 0 < r.duration) {run : List Operation}
    {s t : Timestamp} (timely : Timely s run t) :
    ∃ r', (m.after run).gates gate = some r' ∧
      r'.level t + gate.taken m run * r.period ≤
        r.level s + (gate.given m run + gate.raised m run) * r.period +
          gate.peak m run * (t.toInt - s.toInt).toNat := by
  induction run generalizing m r s with
  | nil =>
      refine ⟨r, found, ?_⟩
      have rises := r.level_le_level_add timely.le
      have peak : gate.peak m [] = r.limit.toNat := by
        rw [← Gate.limitOf_eq found]
        exact Nat.max_zero _
      have taken : gate.taken m [] = 0 := rfl
      have given : gate.given m [] = 0 := rfl
      have raised : gate.raised m [] = 0 := rfl
      rw [peak, taken, given, raised]
      omega
  | cons operation rest ih =>
      obtain ⟨le, timely'⟩ := timely.cons
      have le' := timely'.le
      obtain ⟨r', found', spends⟩ := Event.spends ⟨m, operation⟩ balanced found positive s
      obtain ⟨r'', found'', left⟩ := ih (Event.balanced_after ⟨m, operation⟩ balanced) found'
        (spends.duration ▸ positive) timely'
      refine ⟨r'', found'', ?_⟩
      generalize operation.time?.getD s = now at *
      rw [Gate.taken_cons, Gate.given_cons, Gate.raised_cons, Gate.peak_cons,
        Gate.limitOf_eq found]
      have waits := r.level_le_level_add le
      have level := spends.level
      rw [spends.period] at left
      -- The window is the time up to the event and the time after it.
      have span : (t.toInt - s.toInt).toNat =
          (now.toInt - s.toInt).toNat + (t.toInt - now.toInt).toNat := by
        have := Int64.le_iff_toInt_le.mp le
        have := Int64.le_iff_toInt_le.mp le'
        omega
      have before := Nat.mul_le_mul_right (now.toInt - s.toInt).toNat
        (Nat.le_max_left r.limit.toNat (gate.peak (Event.after ⟨m, operation⟩) rest))
      have after := Nat.mul_le_mul_right (t.toInt - now.toInt).toNat
        (Nat.le_max_right r.limit.toNat (gate.peak (Event.after ⟨m, operation⟩) rest))
      rw [Gate.limitOf_eq found] at level
      rw [span, Nat.mul_add]
      simp only [Nat.add_mul] at level left ⊢
      omega

/-- **What a gate lets through.**  In a window of a run of a reachable manager, from `s` to `t` on a
clock that does not go back, a gate lets through at once at most its capacity at `s`, what was given
back to it, what its limit was raised by, and what the largest limit in force refills in the time of
the window, rounded up. -/
theorem throughput_le (reachable : m.Reachable) (positive : 0 < m.settings.duration) {gate : Gate}
    {limit : RateLimit} (limited : m.gates gate = some limit) {window : List Operation}
    {s t : Timestamp} (timely : Timely s window t) :
    gate.taken m window ≤
      (limit.capacity s).toNat + gate.given m window + gate.raised m window +
        (gate.peak m window * (t.toInt - s.toInt).toNat) ⌈/⌉ m.settings.duration.toInt.toNat := by
  have duration := reachable.timed gate limit limited
  rw [← duration] at positive ⊢
  obtain ⟨_, -, level⟩ := level_after_add_le reachable.balanced limited positive timely
  have start : limit.level s < ((limit.capacity s).toNat + 1) * limit.period :=
    RateLimit.level_lt positive
  have period := RateLimit.period_pos positive
  change _ ≤ _ + (_ ⌈/⌉ limit.period)
  generalize refilled : gate.peak m window * (t.toInt - s.toInt).toNat = units at level ⊢
  have rounded : units ≤ limit.period * (units ⌈/⌉ limit.period) := le_smul_ceilDiv period
  -- In units of the capacity: what is taken is less than one more than the bound.
  have total : gate.taken m window * limit.period <
      ((limit.capacity s).toNat + 1 + gate.given m window + gate.raised m window +
        units ⌈/⌉ limit.period) * limit.period := by
    rw [Nat.mul_comm limit.period] at rounded
    simp only [Nat.add_mul] at level start ⊢
    omega
  have := Nat.lt_of_mul_lt_mul_right total
  omega

/-- A transfer from the receiver back to the source. -/
def sampleReturn (amount : UInt64) : TransferRequest :=
  { sampleRequest with amount, recipient := ⟨sampleSource.chain, .ofNat 32 2⟩ }

/-- Tokens are sent twice, and before the second time some come in and the limit is raised. -/
def sampleWindow : List Operation :=
  [.mint sampleRequest.sender 9000000000, .transfer (sampleReturn 4000000000) 100,
    .redeem (sampleDelivery 1 2000000000) 200, .setOutboundLimit 6000000000 300,
    .transfer (sampleReturn 3500000000) 43500]

/-- More goes out than the limit of five billions, for what has come in, the raise and the time. -/
theorem throughput_of_sample :
    Gate.outbound.taken sampleReceiver sampleWindow = 7500000000 ∧
      Gate.outbound.taken sampleReceiver sampleWindow ≤
        (sampleReceiver.outbound.capacity 0).toNat +
          Gate.outbound.given sampleReceiver sampleWindow +
          Gate.outbound.raised sampleReceiver sampleWindow +
          (Gate.outbound.peak sampleReceiver sampleWindow *
            ((43500 : Timestamp).toInt - (0 : Timestamp).toInt).toNat) ⌈/⌉
              sampleReceiver.settings.duration.toInt.toNat := by
  have timely : Timely 0 sampleWindow 43500 := by decide
  refine ⟨by decide +kernel, ?_⟩
  exact @throughput_le sampleReceiver reachable_sampleReceiver (by decide) .outbound _ rfl _ _ _
    timely

end Manager

end TokenTransfer
