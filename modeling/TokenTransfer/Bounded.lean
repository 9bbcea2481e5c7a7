/-!
# Arithmetic at the bounds of a word

Sums and products are formed in unbounded numbers and then fitted to a word, either by refusing what
does not fit or by stopping at the largest value that does.

## Main definitions

* `Word64.ofNat?` - the 64-bit word of a number, if it fits
* `Word64.capped` - the 64-bit word of a number, or the largest word
* `capped128` - a number, or the largest one of 128 bits
* `Timestamp` - seconds since the epoch, with steps that stop at the bounds
-/

namespace TokenTransfer

namespace Word64

/-- The number of 64-bit words. -/
def bound : Nat := UInt64.size

/-- The word of `n`, if it fits. -/
def ofNat? (n : Nat) : Option UInt64 :=
  if n < bound then some (UInt64.ofNat n) else none

/-- The word of `n`, or the largest word if `n` does not fit. -/
def capped (n : Nat) : UInt64 := UInt64.ofNat (min n (bound - 1))

/-- The sum of two words, if it fits. -/
def add? (a b : UInt64) : Option UInt64 := ofNat? (a.toNat + b.toNat)

theorem ofNat?_eq_some_iff {n : Nat} {w : UInt64} : ofNat? n = some w ↔ w.toNat = n := by
  unfold ofNat?
  constructor
  · intro h
    split at h
    · rename_i lt
      cases h
      exact UInt64.toNat_ofNat_of_lt lt
    · cases h
  · rintro rfl
    rw [if_pos (show w.toNat < bound from w.toNat_lt), UInt64.ofNat_toNat]

@[simp] theorem ofNat?_eq_none_iff {n : Nat} : ofNat? n = none ↔ bound ≤ n := by
  unfold ofNat?
  split <;> simp <;> omega

/-- A sum fits exactly when it is the value of a word. -/
theorem add?_eq_some_iff {a b w : UInt64} : add? a b = some w ↔ w.toNat = a.toNat + b.toNat :=
  ofNat?_eq_some_iff

@[simp] theorem toNat_capped (n : Nat) : (capped n).toNat = min n (bound - 1) := by
  unfold capped
  apply UInt64.toNat_ofNat_of_lt
  unfold bound UInt64.size
  omega

end Word64

/-- The number of 128-bit words. -/
def bound128 : Nat := Word64.bound * Word64.bound

/-- `n`, or the largest number of 128 bits if `n` has more. -/
def capped128 (n : Nat) : Nat := min n (bound128 - 1)

/-! ### Time -/

/-- Seconds since the epoch. -/
abbrev Timestamp := Int64

namespace Timestamp

/-- The time nearest to `seconds`. -/
def nearest (seconds : Int) : Timestamp :=
  Int64.ofInt (max Int64.minValue.toInt (min seconds Int64.maxValue.toInt))

/-- `span` seconds after `start`, or the last time there is. -/
def after (start span : Timestamp) : Timestamp := nearest (start.toInt + span.toInt)

/-- The seconds from `start` to `finish`; none have passed if `finish` is the earlier one. -/
def elapsed (start finish : Timestamp) : Nat := (nearest (finish.toInt - start.toInt)).toInt.toNat

theorem toInt_nearest (seconds : Int) :
    (nearest seconds).toInt = max Int64.minValue.toInt (min seconds Int64.maxValue.toInt) := by
  have lowest : Int64.minValue.toInt = -9223372036854775808 := rfl
  have highest : Int64.maxValue.toInt = 9223372036854775807 := rfl
  unfold nearest
  apply Int64.toInt_ofInt_of_le <;> omega

end Timestamp

end TokenTransfer
