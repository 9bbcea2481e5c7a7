import TokenTransfer.Proofs.Amount

/-!
# What trimming loses

Trimming divides by the grain and rounds down, so it loses the dust, which is less than a grain, and
nothing else.  The way back multiplies by the grain: what comes out is the value without its dust, and
trimming that again changes nothing.

The two ways are not equally wide.  A grain of more than 38 zeros is larger than every value of 128
bits, so any value is trimmed to no units at all; but the way back needs the grain itself, and that
is refused, also for no units (`Amount.untrim_refused_of_no_units`).

## Main statements

* `Amount.dedust_eq_ok_iff`, `Amount.dedust_eq_error_iff` - when dust can be removed, and what is left
* `Amount.trim_loses_low_digits` - trimming to what is announced
* `Amount.dedust_exact` - trimming for another token, and what the sender is charged
-/

namespace TokenTransfer

namespace Amount

variable {value : Nat} {source target : UInt8}

/-! ### What has no dust -/

/-- In the token that it came from a trimmed amount comes to the value without its dust. -/
theorem unitsIn_source {trimmed : Amount} (decimals : trimmed.decimals = keptDecimals source target)
    (whole : trimmed.units.toNat = value / grain source target) :
    trimmed.unitsIn source = value - value % grain source target := by
  have split := Nat.div_add_mod' value (grain source target)
  rw [unitsIn, decimals, whole]
  exact Nat.eq_sub_of_add_eq split

/-- What has no dust is trimmed to the same amount. -/
theorem sub_mod_div (value : Nat) (source target : UInt8) :
    (value - value % grain source target) / grain source target = value / grain source target := by
  rw [← Nat.div_mul_self_eq_mod_sub_self, Nat.mul_div_cancel _ (grain_pos source target)]

/-! ### Removing dust -/

/-- Whatever is trimmed of a word fits a word again, and so does what that is worth.  Only the grain may
not fit. -/
theorem dedust_eq (value : UInt64) (source target : UInt8) :
    dedust value source target =
      if maxExponent < source.toNat - (keptDecimals source target).toNat then
        .error .exponentOverflow
      else .ok (⟨.ofNat (value.toNat / grain source target), keptDecimals source target⟩,
        .ofNat (value.toNat / grain source target * grain source target)) := by
  have whole : value.toNat / grain source target < Word64.bound :=
    (Nat.div_le_self _ _).trans_lt value.toNat_lt
  have worth : value.toNat / grain source target * grain source target < Word64.bound :=
    (Nat.div_mul_le_self _ _).trans_lt value.toNat_lt
  have comes : unitsIn ⟨.ofNat (value.toNat / grain source target), keptDecimals source target⟩
      source = value.toNat / grain source target * grain source target :=
    congrArg (· * grain source target) (UInt64.toNat_ofNat_of_lt' whole)
  unfold dedust
  rw [trimTo_eq (toNat_lt_bound128 value), if_pos whole, Outcome.ok_bind,
    untrim_eq _ (keptDecimals_le_source source target)]
  by_cases large : maxExponent < source.toNat - (keptDecimals source target).toNat
  · rw [if_pos large, if_pos large]
    rfl
  · rw [if_neg large, if_neg large, comes, if_pos (worth.trans (by decide)), Outcome.ok_bind,
      Word64.ofNat?, if_pos worth]
    rfl

/-- **When dust can be removed**: with the value in whole grains, and as many of them taken out of
it, where the grain fits. -/
theorem dedust_eq_ok_iff {value clean : UInt64} {trimmed : Amount} :
    dedust value source target = .ok (trimmed, clean) ↔
      source.toNat - (keptDecimals source target).toNat ≤ maxExponent ∧
        trimmed.decimals = keptDecimals source target ∧
        trimmed.units.toNat = value.toNat / grain source target ∧
        clean.toNat = trimmed.units.toNat * grain source target := by
  obtain ⟨units, decimals⟩ := trimmed
  rw [dedust_eq]
  by_cases large : maxExponent < source.toNat - (keptDecimals source target).toNat
  · rw [if_pos large]
    exact iff_of_false nofun fun ⟨small, _⟩ => absurd large (Nat.not_lt.mpr small)
  · have units' := UInt64.toNat_ofNat_of_lt' ((Nat.div_le_self _ (grain source target)).trans_lt
      value.toNat_lt)
    have clean' := UInt64.toNat_ofNat_of_lt' ((Nat.div_mul_le_self _ (grain source target)).trans_lt
      value.toNat_lt)
    rw [if_neg large]
    constructor
    · rintro ⟨⟩
      exact ⟨Nat.not_lt.mp large, rfl, units', by rw [clean', units']⟩
    · rintro ⟨-, rfl, whole, worth⟩
      dsimp only at whole worth
      rw [whole] at worth
      have same : units = .ofNat (value.toNat / grain source target) :=
        UInt64.toNat_inj.mp (whole.trans units'.symm)
      have same' : clean = .ofNat (value.toNat / grain source target * grain source target) :=
        UInt64.toNat_inj.mp (worth.trans clean'.symm)
      rw [same, same']

theorem dedust_eq_error_iff {value : UInt64} {e : ScalingError} :
    dedust value source target = .error e ↔
      e = .exponentOverflow ∧
        maxExponent < source.toNat - (keptDecimals source target).toNat := by
  rw [dedust_eq]
  by_cases large : maxExponent < source.toNat - (keptDecimals source target).toNat
  · rw [if_pos large]
    constructor
    · rintro ⟨⟩
      exact ⟨rfl, large⟩
    · rintro ⟨rfl, -⟩
      rfl
  · rw [if_neg large]
    exact iff_of_false nofun fun ⟨_, large'⟩ => large large'

/-- **Dust is less than a grain.** -/
theorem dust_bounds {value clean : UInt64} {trimmed : Amount}
    (whole : trimmed.units.toNat = value.toNat / grain source target)
    (worth : clean.toNat = trimmed.units.toNat * grain source target) :
    clean ≤ value ∧ value.toNat - clean.toNat < grain source target := by
  have split := Nat.div_add_mod' value.toNat (grain source target)
  have dust := Nat.mod_lt value.toNat (grain_pos source target)
  rw [← whole, ← worth] at split
  rw [UInt64.le_iff_toNat_le]
  omega

/-- So it is less than a unit of the trimmed amount, and something is left unless all is dust. -/
theorem dedust_bounds {value clean : UInt64} {trimmed : Amount}
    (h : dedust value source target = .ok (trimmed, clean)) (positive : trimmed.units ≠ 0) :
    0 < clean ∧ clean ≤ value ∧
      value.toNat - clean.toNat < 10 ^ (source.toNat - trimmed.decimals.toNat) := by
  obtain ⟨-, decimals, whole, worth⟩ := dedust_eq_ok_iff.mp h
  obtain ⟨within, dust⟩ := dust_bounds whole worth
  have some : 0 < trimmed.units.toNat :=
    Nat.pos_of_ne_zero fun zero => positive (UInt64.toNat_inj.mp zero)
  refine ⟨?_, within, decimals ▸ dust⟩
  rw [UInt64.lt_iff_toNat_lt, worth]
  exact Nat.mul_pos some (grain_pos source target)

/-! ### The statements -/

/-- **Trimming loses the low digits**, and nothing else.  A trimmed value is in at most eight
decimals, and the value without its low digits is trimmed to the same amount.  The way back gives this
value, unless the power of ten that was divided by does not fit 128 bits: then nothing was left of the
value, and the way back is refused.  A value is not trimmed only if too much is left of it for a
word. -/
theorem trim_loses_low_digits {value : Nat} (fits : value < bound128) (decimals : UInt8) :
    let kept := min maxDecimals.toNat decimals.toNat
    let unit := 10 ^ (decimals.toNat - kept)
    (∀ trimmed, trim value decimals = .ok trimmed →
      trimmed.decimals.toNat = kept ∧
      trim (value - value % unit) decimals = .ok trimmed ∧
      (decimals.toNat - kept ≤ maxExponent →
        trimmed.untrim decimals = .ok (value - value % unit)) ∧
      (maxExponent < decimals.toNat - kept →
        trimmed.units = 0 ∧ value - value % unit = 0 ∧
          trimmed.untrim decimals = .error .exponentOverflow)) ∧
    ∀ e, trim value decimals = .error e ↔ e = .trimmedOverflow ∧ Word64.bound ≤ value / unit := by
  intro kept unit
  have keeps : (keptDecimals decimals maxDecimals).toNat = kept := by
    rw [toNat_keptDecimals]
    exact min_eq_left (min_le_left _ _)
  have same : unit = grain decimals maxDecimals := by rw [grain, keeps]
  rw [same, ← keeps]
  refine ⟨?_, fun e => trimTo_eq_error_iff fits⟩
  intro trimmed trims
  obtain ⟨digits, whole⟩ := (trimTo_eq_ok_iff fits).mp trims
  have le : trimmed.decimals ≤ decimals := digits ▸ keptDecimals_le_source decimals maxDecimals
  have worth := unitsIn_source digits whole
  have clean : value - value % grain decimals maxDecimals < bound128 :=
    (Nat.sub_le _ _).trans_lt fits
  refine ⟨congrArg UInt8.toNat digits, ?_, ?_, ?_⟩
  · exact (trimTo_eq_ok_iff clean).mpr ⟨digits, by rw [whole, sub_mod_div]⟩
  · intro small
    exact (untrim_eq_ok_iff le).mpr ⟨digits ▸ small, clean, worth.symm⟩
  · intro large
    have none : trimmed.units.toNat = 0 := by
      rw [whole]
      exact Nat.div_eq_of_lt (fits.trans_le (bound128_le_pow large))
    refine ⟨UInt64.toNat_inj.mp none, ?_, ?_⟩
    · rw [← worth, unitsIn, none, Nat.zero_mul]
    · rw [untrim_eq trimmed le, digits, if_pos large]

/-- The four lowest of twelve digits are lost; of 47 digits there is no way back. -/
theorem trim_loses_low_digits_of_samples :
    (1234567891234 < bound128 ∧ trim 1234567891234 12 = .ok ⟨123456789, 8⟩ ∧
        (Amount.mk 123456789 8).untrim 12 = .ok 1234567890000) ∧
      123 < bound128 ∧ trim 123 47 = .ok ⟨0, 8⟩ ∧
        (Amount.mk 0 8).untrim 47 = .error .exponentOverflow := by
  have fits : 1234567891234 < bound128 := by decide
  have fits' : 123 < bound128 := by decide
  have trims : trim 1234567891234 12 = .ok ⟨123456789, 8⟩ := rfl
  have trims' : trim 123 47 = .ok ⟨0, 8⟩ := rfl
  obtain ⟨-, -, back, -⟩ := (trim_loses_low_digits fits 12).1 ⟨123456789, 8⟩ trims
  obtain ⟨-, -, -, refused⟩ := (trim_loses_low_digits fits' 47).1 ⟨0, 8⟩ trims'
  exact ⟨⟨fits, trims, back (by decide)⟩, fits', trims', (refused (by decide)).2.2⟩

/-- **No units, and no way back.**  Of 123 units nothing is left in eight decimals when 47 were given,
and nothing is what they are without their low digits; but this amount is refused in 47 decimals. -/
theorem untrim_refused_of_no_units :
    123 < bound128 ∧ trim 123 47 = .ok ⟨0, 8⟩ ∧
      (Amount.mk 0 8).untrim 47 = .error .exponentOverflow ∧
      ¬ (Amount.mk 0 8).untrim 47 = .ok (123 - 123 % 10 ^ (47 - 8)) :=
  ⟨by decide, rfl, rfl, nofun⟩

/-- **Removing dust is exact.**  It fails only where the power of ten does not fit 128 bits.  The
trimmed amount is in the decimals that are kept, rounded down to them; without its dust the value is
what the amount is worth, at most the value and less than a unit of the amount below it.  That is what
comes back in the token that it came from, and in the other token it is the same value, whenever it
fits there.  The value without its dust has no more dust to remove. -/
theorem dedust_exact (value : UInt64) (source target : UInt8) :
    let kept := min (min maxDecimals.toNat source.toNat) target.toNat
    let unit := 10 ^ (source.toNat - kept)
    (∀ e, dedust value source target = .error e ↔
      e = .exponentOverflow ∧ maxExponent < source.toNat - kept) ∧
    ∀ trimmed clean, dedust value source target = .ok (trimmed, clean) →
      trimmed.decimals.toNat = kept ∧
      trimmed.units.toNat = value.toNat / unit ∧
      clean.toNat = trimmed.units.toNat * unit ∧
      clean ≤ value ∧ value.toNat - clean.toNat < unit ∧
      trimmed.untrim source = .ok clean.toNat ∧
      (∀ worth, trimmed.untrim target = .ok worth ↔
        target.toNat - kept ≤ maxExponent ∧ worth < bound128 ∧
          worth * unit = clean.toNat * 10 ^ (target.toNat - kept)) ∧
      dedust clean source target = .ok (trimmed, clean) := by
  intro kept unit
  have keeps : (keptDecimals source target).toNat = kept := toNat_keptDecimals source target
  have same : unit = grain source target := by rw [grain, keeps]
  rw [same, ← keeps]
  refine ⟨fun e => dedust_eq_error_iff, ?_⟩
  intro trimmed clean removes
  obtain ⟨small, decimals, whole, worth⟩ := dedust_eq_ok_iff.mp removes
  have le : trimmed.decimals ≤ target := decimals ▸ keptDecimals_le_target source target
  have positive := grain_pos source target
  obtain ⟨within, dust⟩ := dust_bounds whole worth
  refine ⟨congrArg UInt8.toNat decimals, whole, worth, within, dust, (dedust_eq_ok removes).2,
    ?_, ?_⟩
  · intro there
    -- Both sides are the units of the amount times both powers of ten.
    have cross : there = trimmed.unitsIn target ↔ there * grain source target =
        clean.toNat * 10 ^ (target.toNat - (keptDecimals source target).toNat) := by
      rw [worth, Nat.mul_right_comm, unitsIn, decimals]
      exact (Nat.mul_left_inj positive.ne').symm
    rw [untrim_eq_ok_iff le, cross, decimals]
  · refine dedust_eq_ok_iff.mpr ⟨small, decimals, ?_, worth⟩
    rw [worth, Nat.mul_div_cancel _ positive]

/-- What a sender with twelve decimals is charged for a peer with eighteen. -/
theorem dedust_exact_of_sample :
    dedust 1234567891234 12 18 = .ok (⟨123456789, 8⟩, 1234567890000) ∧
      (Amount.mk 123456789 8).untrim 12 = .ok 1234567890000 ∧
      (Amount.mk 123456789 8).untrim 18 = .ok 1234567890000000000 ∧
      dedust 1234567890000 12 18 = .ok (⟨123456789, 8⟩, 1234567890000) := by
  have removes : dedust 1234567891234 12 18 = .ok (⟨123456789, 8⟩, 1234567890000) := rfl
  obtain ⟨-, -, -, -, -, back, there, again⟩ :=
    (dedust_exact 1234567891234 12 18).2 ⟨123456789, 8⟩ 1234567890000 removes
  exact ⟨removes, back, (there 1234567890000000000).mpr (by decide), again⟩

end Amount

end TokenTransfer
