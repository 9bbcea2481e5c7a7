import Mathlib.Algebra.Ring.Nat
import Mathlib.Order.Lattice
import TokenTransfer.Amount
import TokenTransfer.Proofs.Fallible

/-!
# Amounts between two tokens

An amount is announced in decimals that both tokens have, so on either side it is worth a whole
number of units: `units * 10 ^ (d - kept)` in a token with `d` decimals.  This is what makes the
value of a transfer the same on both chains, whatever their decimals are
(`Amount.unitsIn_mul_pow_eq`).

Rescaling is defined in 128 bits, with a case for each thing that may not fit.  Of a value that fits,
fewer decimals always divide (`Amount.rescale_eq_div`): a power of ten that does not fit is larger
than the value, and leaves nothing of it.  More decimals multiply, where the power of ten and the
product fit (`Amount.rescale_eq_mul`).  Everything else is derived from these two.

## Main definitions

* `Amount.grain` - what a unit of a trimmed amount is worth
* `Amount.unitsIn` - what an amount comes to in a token

## Main statements

* `Amount.trimTo_eq_ok_iff`, `Amount.untrim_eq_ok_iff` - when the two ways succeed, and with what
* `Amount.unitsIn_mul_pow_eq` - an amount has the same value on both sides
-/

namespace TokenTransfer

namespace Amount

variable {value : Nat} {source target : UInt8}

/-! ### Kept decimals -/

/-- An amount keeps no more decimals than are announced at all, nor than its token has. -/
theorem keptDecimals_le (source target : UInt8) :
    keptDecimals source target ≤ min maxDecimals source := Std.min_le_left

theorem keptDecimals_le_source (source target : UInt8) : keptDecimals source target ≤ source :=
  Std.le_trans (keptDecimals_le source target) Std.min_le_right

theorem keptDecimals_le_target (source target : UInt8) : keptDecimals source target ≤ target :=
  Std.min_le_right

/-- The decimals that are kept are the fewest of the three. -/
theorem toNat_keptDecimals (source target : UInt8) :
    (keptDecimals source target).toNat = min (min maxDecimals.toNat source.toNat) target.toNat := by
  rw [keptDecimals, UInt8.toNat_min, UInt8.toNat_min]

/-- **The grain**: what a unit of an amount that is trimmed between two tokens is worth in the
first one's own units. -/
def grain (source target : UInt8) : Nat := 10 ^ (source.toNat - (keptDecimals source target).toNat)

theorem grain_pos (source target : UInt8) : 0 < grain source target := Nat.pow_pos (by decide)

/-! ### Rescaling -/

theorem toNat_lt_bound128 (word : UInt64) : word.toNat < bound128 :=
  word.toNat_lt.trans (by decide)

/-- A power of ten with too many zeros is larger than all values of 128 bits. -/
theorem bound128_le_pow {exponent : Nat} (large : maxExponent < exponent) :
    bound128 ≤ 10 ^ exponent :=
  calc bound128 ≤ 10 ^ (maxExponent + 1) := by decide
    _ ≤ 10 ^ exponent := Nat.pow_le_pow_right (by decide) large

/-- **Fewer decimals** divide, whatever the power of ten: past the largest one that fits, nothing is
left of a value that does. -/
theorem rescale_eq_div (fits : value < bound128) (ge : target ≤ source) :
    rescale value source target = .ok (value / 10 ^ (source.toNat - target.toNat)) := by
  unfold rescale
  by_cases same : source = target
  · simp [same]
  · have below : target < source := Std.lt_of_le_of_ne ge (Ne.symm same)
    rw [if_neg same, if_pos below]
    by_cases small : source.toNat - target.toNat ≤ maxExponent
    · simp only [if_pos small]
      rfl
    · have none := fits.trans_le (bound128_le_pow (Nat.not_le.mp small))
      simp only [if_neg small, Nat.div_eq_of_lt none]

/-- **More decimals** multiply, where the power of ten and the product fit. -/
theorem rescale_eq_mul (fits : value < bound128) (le : source ≤ target) :
    rescale value source target =
      if maxExponent < target.toNat - source.toNat then .error .exponentOverflow
      else if value * 10 ^ (target.toNat - source.toNat) < bound128 then
        .ok (value * 10 ^ (target.toNat - source.toNat))
      else .error .scaledOverflow := by
  unfold rescale
  by_cases same : source = target
  · simp [same, fits]
  · have above : ¬ target < source := fun lt =>
      absurd (Std.lt_of_lt_of_le lt le) Std.lt_irrefl
    rw [if_neg same, if_neg above]
    rfl

/-! ### Trimming -/

/-- **Trimming in one equation**: the units are what the grain goes into, and they must fit a word.
-/
theorem trimTo_eq (fits : value < bound128) :
    trimTo value source target =
      if value / grain source target < Word64.bound then
        .ok ⟨.ofNat (value / grain source target), keptDecimals source target⟩
      else .error .trimmedOverflow := by
  have scales : rescale value source (keptDecimals source target) =
      .ok (value / grain source target) :=
    rescale_eq_div fits (keptDecimals_le_source source target)
  unfold trimTo
  dsimp only
  rw [scales, Outcome.ok_bind, Word64.ofNat?]
  by_cases small : value / grain source target < Word64.bound
  · rw [if_pos small, if_pos small]
    rfl
  · rw [if_neg small, if_neg small]
    rfl

/-- **When trimming succeeds**: with the value in whole grains, if that fits a word. -/
theorem trimTo_eq_ok_iff (fits : value < bound128) {trimmed : Amount} :
    trimTo value source target = .ok trimmed ↔
      trimmed.decimals = keptDecimals source target ∧
        trimmed.units.toNat = value / grain source target := by
  obtain ⟨units, decimals⟩ := trimmed
  rw [trimTo_eq fits]
  by_cases small : value / grain source target < Word64.bound
  · have units' := UInt64.toNat_ofNat_of_lt' small
    rw [if_pos small]
    constructor
    · rintro ⟨⟩
      exact ⟨rfl, units'⟩
    · rintro ⟨rfl, whole⟩
      have same : units = .ofNat (value / grain source target) :=
        UInt64.toNat_inj.mp (whole.trans units'.symm)
      rw [same]
  · rw [if_neg small]
    refine iff_of_false nofun ?_
    rintro ⟨-, whole⟩
    exact small (whole ▸ units.toNat_lt)

/-- Trimming fails only for a value of more grains than a word can say. -/
theorem trimTo_eq_error_iff (fits : value < bound128) {e : ScalingError} :
    trimTo value source target = .error e ↔
      e = .trimmedOverflow ∧ Word64.bound ≤ value / grain source target := by
  rw [trimTo_eq fits]
  by_cases small : value / grain source target < Word64.bound
  · rw [if_pos small]
    exact iff_of_false nofun fun ⟨_, large⟩ => absurd small (Nat.not_lt.mpr large)
  · rw [if_neg small]
    constructor
    · rintro ⟨⟩
      exact ⟨rfl, Nat.not_lt.mp small⟩
    · rintro ⟨rfl, -⟩
      rfl

/-! ### The way back -/

/-- What an amount comes to in a token with at least as many decimals. -/
def unitsIn (amount : Amount) (target : UInt8) : Nat :=
  amount.units.toNat * 10 ^ (target.toNat - amount.decimals.toNat)

/-- **Untrimming in one equation**, where no decimals are lost. -/
theorem untrim_eq (amount : Amount) (le : amount.decimals ≤ target) :
    amount.untrim target =
      if maxExponent < target.toNat - amount.decimals.toNat then .error .exponentOverflow
      else if amount.unitsIn target < bound128 then .ok (amount.unitsIn target)
      else .error .scaledOverflow :=
  rescale_eq_mul (toNat_lt_bound128 amount.units) le

/-- **When the way back succeeds**: with what the amount comes to, if that and the power of ten
fit. -/
theorem untrim_eq_ok_iff {amount : Amount} (le : amount.decimals ≤ target) {worth : Nat} :
    amount.untrim target = .ok worth ↔
      target.toNat - amount.decimals.toNat ≤ maxExponent ∧ worth < bound128 ∧
        worth = amount.unitsIn target := by
  rw [untrim_eq amount le]
  by_cases large : maxExponent < target.toNat - amount.decimals.toNat
  · rw [if_pos large]
    exact iff_of_false nofun fun ⟨small, _⟩ => absurd large (Nat.not_lt.mpr small)
  · rw [if_neg large]
    by_cases small : amount.unitsIn target < bound128
    · rw [if_pos small]
      constructor
      · rintro ⟨⟩
        exact ⟨Nat.not_lt.mp large, small, rfl⟩
      · rintro ⟨-, -, rfl⟩
        rfl
    · rw [if_neg small]
      refine iff_of_false nofun ?_
      rintro ⟨-, fits, rfl⟩
      exact small fits

/-- **What an amount comes to, or that it is too much.**  More decimals are refused only for an
amount that no word has room for. -/
theorem untrim_eq_ok_or_error {amount : Amount} (le : amount.decimals ≤ target)
    (positive : amount.units ≠ 0) :
    amount.untrim target = .ok (amount.unitsIn target) ∨
      (∃ cause, amount.untrim target = .error cause) ∧ Word64.bound ≤ amount.unitsIn target := by
  have words : Word64.bound ≤ bound128 := by decide
  rw [untrim_eq amount le]
  by_cases large : maxExponent < target.toNat - amount.decimals.toNat
  · have some : 0 < amount.units.toNat :=
      Nat.pos_of_ne_zero fun zero => positive (UInt64.toNat_inj.mp zero)
    rw [if_pos large]
    refine .inr ⟨⟨_, rfl⟩, ?_⟩
    calc Word64.bound ≤ bound128 := words
      _ ≤ 10 ^ (target.toNat - amount.decimals.toNat) := bound128_le_pow large
      _ ≤ amount.unitsIn target := Nat.le_mul_of_pos_left _ some
  · rw [if_neg large]
    by_cases small : amount.unitsIn target < bound128
    · rw [if_pos small]
      exact .inl rfl
    · rw [if_neg small]
      exact .inr ⟨⟨_, rfl⟩, words.trans (Nat.not_lt.mp small)⟩

/-! ### Both ways -/

/-- What is left without dust is what trimming and untrimming leave. -/
theorem dedust_trims {value clean : UInt64} {trimmed : Amount}
    (h : dedust value source target = .ok (trimmed, clean)) :
    trimTo value.toNat source target = .ok trimmed ∧ trimmed.untrim source = .ok clean.toNat := by
  unfold dedust at h
  obtain ⟨amount, trims, h⟩ := Outcome.bind_eq_ok_iff.mp h
  obtain ⟨back, untrims, h⟩ := Outcome.bind_eq_ok_iff.mp h
  cases word : Word64.ofNat? back with
  | none => simp [word] at h
  | some result =>
      rw [word] at h
      cases h
      exact ⟨trims, by rw [untrims, Word64.ofNat?_eq_some_iff.mp word]⟩

/-- **What trimming leaves.**  The amount is in the kept decimals, and the value without its dust is
what the amount is worth in the token it came from. -/
theorem dedust_eq_ok {value clean : UInt64} {trimmed : Amount}
    (h : dedust value source target = .ok (trimmed, clean)) :
    trimmed.decimals = keptDecimals source target ∧ trimmed.untrim source = .ok clean.toNat := by
  obtain ⟨trims, untrims⟩ := dedust_trims h
  exact ⟨((trimTo_eq_ok_iff (toNat_lt_bound128 value)).mp trims).1, untrims⟩

/-! ### The value in either token -/

/-- **The same value on both sides.**  What an amount in the kept decimals comes to in the one token
and is worth in the other is the same value, counted in that token's decimals. -/
theorem unitsIn_mul_pow_eq {amount : Amount} {a : Nat}
    (decimals : amount.decimals = keptDecimals source target)
    (here : amount.untrim source = .ok a) :
    amount.unitsIn target * 10 ^ source.toNat = a * 10 ^ target.toNat := by
  have leSource : amount.decimals ≤ source := decimals ▸ keptDecimals_le_source source target
  have leTarget : amount.decimals ≤ target := decimals ▸ keptDecimals_le_target source target
  obtain ⟨-, -, worth⟩ := (untrim_eq_ok_iff leSource).mp here
  rw [UInt8.le_iff_toNat_le] at leSource leTarget
  -- Both products are the units times ten to the sum of the decimals, less the kept ones.
  calc amount.unitsIn target * 10 ^ source.toNat
      = amount.units.toNat * 10 ^ (target.toNat - amount.decimals.toNat + source.toNat) := by
        rw [unitsIn, Nat.mul_assoc, ← Nat.pow_add]
    _ = amount.units.toNat * 10 ^ (source.toNat - amount.decimals.toNat + target.toNat) := by
        congr 2
        omega
    _ = a * 10 ^ target.toNat := by
        rw [worth, unitsIn, Nat.mul_assoc, ← Nat.pow_add]

/-- The same of what the amount is worth in both tokens. -/
theorem worth_mul_pow_eq {amount : Amount} {a b : Nat}
    (decimals : amount.decimals = keptDecimals source target)
    (here : amount.untrim source = .ok a) (there : amount.untrim target = .ok b) :
    b * 10 ^ source.toNat = a * 10 ^ target.toNat := by
  have leTarget : amount.decimals ≤ target := decimals ▸ keptDecimals_le_target source target
  obtain ⟨-, -, worth⟩ := (untrim_eq_ok_iff leTarget).mp there
  rw [worth]
  exact unitsIn_mul_pow_eq decimals here

end Amount

end TokenTransfer
