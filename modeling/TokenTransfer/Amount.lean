import TokenTransfer.Bounded

/-!
# Amounts on the wire

An amount travels with its number of decimals, at most eight.  Trimming an amount of a token with more
decimals drops its lowest digits; the dropped part is called dust.  Both ways go through `rescale`,
which computes in 128 bits and refuses what does not fit.

## Main definitions

* `Amount` - a number of units and their decimals
* `Amount.rescale` - the same value in other decimals, rounded down
* `Amount.trim`, `Amount.trimTo` - from a token's decimals to those of the wire
* `Amount.untrim` - from the wire to a token's decimals
* `Amount.dedust` - a trimmed amount together with what it is worth in the token's own units
-/

namespace TokenTransfer

/-- Why an amount has no form in other decimals. -/
inductive ScalingError where
  | exponentOverflow
  | scaledOverflow
  | trimmedOverflow
deriving DecidableEq

namespace ScalingError

/-- The text of a refusal. -/
def message : ScalingError → String
  | exponentOverflow => "Overflow: scaling factor exponent exceeds the max value of u128"
  | scaledOverflow => "Overflow: scaled amount exceeds the max value of u128"
  | trimmedOverflow => "Overflow: trimmed amount exceeds the max value of u64"

end ScalingError

/-- A number of units and the decimals they are counted in. -/
structure Amount where
  units : UInt64
  decimals : UInt8
deriving DecidableEq

namespace Amount

/-- The most decimals that an amount is trimmed to. -/
def maxDecimals : UInt8 := 8

/-- The largest power of ten that fits 128 bits is `10 ^ 38`. -/
def maxExponent : Nat := 38

/-- `value`, counted with `source` decimals, in units of `target` decimals.  Fewer decimals round
down, to zero past the largest power of ten; more decimals may overflow. -/
def rescale (value : Nat) (source target : UInt8) : Except ScalingError Nat :=
  if source = target then .ok value
  else if target < source then
    let exponent := source.toNat - target.toNat
    .ok (if exponent ≤ maxExponent then value / Nat.pow 10 exponent else 0)
  else
    let exponent := target.toNat - source.toNat
    if maxExponent < exponent then .error .exponentOverflow
    else if value * Nat.pow 10 exponent < bound128 then .ok (value * Nat.pow 10 exponent)
    else .error .scaledOverflow

/-- The decimals an amount keeps between a token with `source` and one with `target` decimals. -/
def keptDecimals (source target : UInt8) : UInt8 := min (min maxDecimals source) target

/-- Trims `value`, counted with `source` decimals, so that a token with `target` decimals can
represent it. -/
def trimTo (value : Nat) (source target : UInt8) : Except ScalingError Amount := do
  let kept := keptDecimals source target
  let scaled ← rescale value source kept
  match Word64.ofNat? scaled with
  | some units => return ⟨units, kept⟩
  | none => throw .trimmedOverflow

/-- Trims `value`, counted with `source` decimals, to at most eight. -/
def trim (value : Nat) (source : UInt8) : Except ScalingError Amount :=
  trimTo value source maxDecimals

/-- The amount in units of `target` decimals. -/
def untrim (amount : Amount) (target : UInt8) : Except ScalingError Nat :=
  rescale amount.units.toNat amount.decimals target

/-- Trims `value` and gives with it what the trimmed amount is worth in `source` decimals: `value`
without its dust. -/
def dedust (value : UInt64) (source target : UInt8) : Except ScalingError (Amount × UInt64) := do
  let trimmed ← trimTo value.toNat source target
  let back ← trimmed.untrim source
  match Word64.ofNat? back with
  | some clean => return (trimmed, clean)
  | none => throw .scaledOverflow

end Amount

end TokenTransfer
