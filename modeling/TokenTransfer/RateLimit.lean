import TokenTransfer.Bounded

/-!
# Rate limits

A rate limit is a bucket of capacity that fills linearly, from empty to its limit within its duration.
Every operation is given the time, so one limit can follow any clock.  A clock that goes back counts as
no time passed, and a duration that is not positive as an instant refill.

## Main definitions

* `RateLimit` - the limit and the capacity at its last change
* `RateLimit.capacity` - the capacity at a time
* `RateLimit.claim` - takes an amount out of the capacity, or says when to come back
* `RateLimit.refill`, `RateLimit.setLimit` - give capacity back, change the limit
-/

namespace TokenTransfer

/-- A bucket of capacity that fills linearly over time. -/
structure RateLimit where
  /-- The most capacity there can be. -/
  limit : UInt64
  /-- The capacity at the time of the last change. -/
  stored : UInt64
  /-- The time of the last change. -/
  changed : Timestamp
  /-- The seconds in which an empty bucket fills. -/
  duration : Timestamp
deriving DecidableEq

/-- What comes of claiming an amount at some time. -/
inductive Claim where
  | consumed (time : Timestamp)
  | delayed (release : Timestamp)
deriving DecidableEq

namespace RateLimit

/-- A day, in seconds. -/
def defaultDuration : Timestamp := 86400

/-- A full bucket. -/
def full (limit : UInt64) (now duration : Timestamp) : RateLimit :=
  { limit, stored := limit, changed := now, duration }

/-- The capacity at `now`: what was stored and what the time since then has added, up to the limit. -/
def capacity (r : RateLimit) (now : Timestamp) : UInt64 :=
  if r.duration ≤ 0 then r.limit
  else
    -- The product comes before the quotient, so only one rounding is made.
    let gained := capped128 (Timestamp.elapsed r.changed now * r.limit.toNat)
    let total := capped128 (r.stored.toNat + gained / r.duration.toInt.toNat)
    Word64.capped (min total r.limit.toNat)

/-- The time at which an amount that does not fit `now` may be released. -/
def releaseTime (r : RateLimit) (now : Timestamp) : Timestamp :=
  Timestamp.after now (max r.duration 0)

/-- Takes `amount` out of the capacity if it fits, and leaves the bucket alone otherwise. -/
def claim (r : RateLimit) (amount : UInt64) (now : Timestamp) : Claim × RateLimit :=
  let available := r.capacity now
  if amount ≤ available then
    (.consumed now, { r with stored := available - amount, changed := now })
  else (.delayed (r.releaseTime now), r)

/-- Gives `amount` back, up to the limit. -/
def refill (r : RateLimit) (amount : UInt64) (now : Timestamp) : RateLimit :=
  let total := Word64.capped ((r.capacity now).toNat + amount.toNat)
  { r with stored := min total r.limit, changed := now }

/-- Changes the limit and shifts the capacity by as much, between zero and the new limit. -/
def setLimit (r : RateLimit) (limit : UInt64) (now : Timestamp) : RateLimit :=
  let current := r.capacity now
  let shifted :=
    if limit < r.limit then
      Word64.capped (current.toNat - (r.limit.toNat - limit.toNat))
    else Word64.capped (current.toNat + (limit.toNat - r.limit.toNat))
  { r with limit, stored := min shifted limit, changed := now }

end RateLimit

end TokenTransfer
