import TokenTransfer.Bounded

/-!
# Clocks

## Main definitions

* `Clock` - a clock that is set by hand
-/

namespace TokenTransfer

/-- A clock that is set by hand. -/
structure Clock where
  now : Timestamp
deriving DecidableEq

namespace Clock

/-- Moves the clock by some seconds.  Past its last time the clock starts over from its first. -/
def advance (clock : Clock) (seconds : Timestamp) : Clock := ⟨clock.now + seconds⟩

end Clock

end TokenTransfer
