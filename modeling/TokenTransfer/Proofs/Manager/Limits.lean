import TokenTransfer.Proofs.Manager.Balances
import TokenTransfer.Proofs.RateLimit

/-!
# What operations do to the limits

A manager limits all that goes out, and what comes in from each chain.  These are its gates.  Value
that goes through at once claims capacity of one gate and gives as much back to another: a transfer
that is sent goes out and makes room for what comes in from its destination, and one that is
redeemed comes in and makes room for what goes out.  That is a passage.

Whatever an operation does to the limits, it is one of three things (`Regulated`): passages at its
time, a new value for the limit of one gate, or nothing.  A release of value that had to wait is
nothing to the limits, nor is a transfer or a redemption that is made to wait.

## Main definitions

* `Gate`, `gates` - the limits of a manager
* `Passage`, `Event.passages` - the value that an event has sent through the gates
* `Passes`, `Sets` - what a passage and a new limit do to the gates
* `Regulated` - what an operation may do to them
* `LimitInvariant` - what holds of a limit whatever becomes of it

## Main statements

* `Event.regulated` - what an event does to the gates is its passages, a new limit, or nothing
* `LimitInvariant.regulated` - what every change of a limit keeps, all limits of a manager keep
* `Reachable.timed` - every limit of a reachable manager fills in the time that was set up
-/

namespace TokenTransfer

namespace Manager

/-! ### Gates and passages -/

/-- A limit of a manager: on all that goes out, or on what comes in from a chain. -/
inductive Gate where
  | outbound
  | inbound (chain : ChainId)
deriving DecidableEq

/-- The limits of a manager by their gates, where there are any. -/
def gates (m : Manager) : Gate → Option RateLimit
  | .outbound => some m.outbound
  | .inbound chain => m.inbound.find? chain

/-- Value that goes through one gate at once and gives as much capacity back to another. -/
structure Passage where
  claimed : Gate
  refilled : Gate
  /-- The amount in units of the local token. -/
  amount : Nat
deriving DecidableEq

namespace Passage

/-- What a passage takes out of the capacity of a gate. -/
def taken (gate : Gate) (passage : Passage) : Nat :=
  if passage.claimed = gate then passage.amount else 0

/-- What a passage gives back to the capacity of a gate. -/
def given (gate : Gate) (passage : Passage) : Nat :=
  if passage.refilled = gate then passage.amount else 0

/-- A transfer goes out, and what comes in from its destination may be more. -/
def out (destination : ChainId) (amount : Nat) : Passage :=
  { claimed := .outbound, refilled := .inbound destination, amount }

/-- A payout comes in, and what goes out may be more. -/
def ofPayout (payout : Payout) : Passage :=
  { claimed := .inbound payout.fromChain, refilled := .outbound, amount := payout.amount.toNat }

end Passage

namespace Operation

/-- The time at which an operation is performed, if it asks for one. -/
def time? : Operation → Option Timestamp
  | transfer _ now | publish _ now | redeem _ now | redeemBatch _ now | payOut _ now
  | setPeer _ _ _ now | setOutboundLimit _ now | setInboundLimit _ _ now => some now
  | setTransceiverPeer _ | setPaused _ | mint _ _ | fundCustody _ => none

/-- The value that an operation has sent through the gates if this is its reply: a transfer that
fits the outbound capacity, and the redemptions that were paid. -/
def passages (m : Manager) : Operation → Reply → List Passage
  | transfer _ now, .sent item =>
    if item.worth m.settings.tokenDecimals ≤ (m.outbound.capacity now).toNat then
      [.out item.recipient.chain (item.worth m.settings.tokenDecimals)]
    else []
  | redeem _ _, .redeemed redemption => redemption.payouts.map .ofPayout
  | redeemBatch _ _, .redeemedAll redemptions =>
    (redemptions.flatMap Redemption.payouts).map .ofPayout
  | _, _ => []

end Operation

/-- The value that an event has sent through the gates; none if the operation was refused. -/
def Event.passages (e : Event) : List Passage :=
  match e.outcome with
  | .ok reply => e.operation.passages e.before reply
  | .error _ => []

/-! ### What happens at the gates -/

/-- **A passage**: an amount that fits is claimed of one gate and given back to another. -/
structure Passes (now : Timestamp) (claimed refilled : Gate) (amount : UInt64)
    (before after : Gate → Option RateLimit) : Prop where
  claims : ∃ r, before claimed = some r ∧ amount ≤ r.capacity now ∧
    after claimed = some (r.claim amount now).2
  refills : ∃ r, before refilled = some r ∧ after refilled = some (r.refill amount now)
  others : ∀ gate, gate ≠ claimed → gate ≠ refilled → after gate = before gate

/-- **Passages**, one after the other at the same time. -/
inductive PassesAll (now : Timestamp) :
    (Gate → Option RateLimit) → List Passage → (Gate → Option RateLimit) → Prop
  | nil {gates : Gate → Option RateLimit} : PassesAll now gates [] gates
  | cons {before mid after : Gate → Option RateLimit} {claimed refilled : Gate} {amount : UInt64}
      {passages : List Passage} (passes : Passes now claimed refilled amount before mid)
      (rest : PassesAll now mid passages after) :
      PassesAll now before (⟨claimed, refilled, amount.toNat⟩ :: passages) after

/-- **A new limit** at one gate.  Where there was none, it is full. -/
structure Sets (now duration : Timestamp) (gate : Gate) (limit : UInt64)
    (before after : Gate → Option RateLimit) : Prop where
  changed : after gate =
    some ((before gate).elim (.full limit now duration) (·.setLimit limit now))
  others : ∀ other, other ≠ gate → after other = before other

/-- **What an operation does to the gates**, with what it asks of its time. -/
inductive Regulated (time? : Option Timestamp) (passages : List Passage) (m m' : Manager) : Prop
  | passes {now : Timestamp} (time : time? = some now)
      (passes : PassesAll now m.gates passages m'.gates)
  | sets {now : Timestamp} {gate : Gate} {limit : UInt64} (time : time? = some now)
      (none : passages = []) (sets : Sets now m.settings.duration gate limit m.gates m'.gates)
  | keeps (none : passages = []) (same : m'.gates = m.gates)

/-- Passages at the same time may follow one another. -/
theorem PassesAll.append {now : Timestamp} {before mid after : Gate → Option RateLimit}
    {passages passages' : List Passage} (first : PassesAll now before passages mid)
    (second : PassesAll now mid passages' after) :
    PassesAll now before (passages ++ passages') after := by
  induction first with
  | nil => exact second
  | cons passes _ ih => exact .cons passes (ih second)

/-! ### What operations do to the gates -/

variable {m m' : Manager} {now : Timestamp}

section Inbound

variable {chain : ChainId} {limit : RateLimit}

theorem gates_inbound_self (inbound : m'.inbound = m.inbound.insert chain limit) :
    m'.gates (.inbound chain) = some limit := by
  show m'.inbound.find? chain = some limit
  rw [inbound, Table.find?_insert_self]

/-- A change of one inbound limit is no change at the other gates. -/
theorem gates_of_ne (inbound : m'.inbound = m.inbound.insert chain limit) {gate : Gate}
    (leaves : gate ≠ .outbound) (differs : gate ≠ .inbound chain) :
    m'.gates gate = m.gates gate := by
  cases gate with
  | outbound => exact absurd rfl leaves
  | inbound other =>
      show m'.inbound.find? other = m.inbound.find? other
      rw [inbound]
      exact Table.find?_insert_of_ne _ _ fun same => differs (congrArg Gate.inbound same)

variable {amount : UInt64} (limited : m.inbound.find? chain = some limit)

include limited

/-- Value goes out to a chain. -/
theorem passes_out (fits : amount ≤ m.outbound.capacity now)
    (outbound : m'.outbound = (m.outbound.claim amount now).2)
    (inbound : m'.inbound = m.inbound.insert chain (limit.refill amount now)) :
    Passes now .outbound (.inbound chain) amount m.gates m'.gates where
  claims := ⟨m.outbound, rfl, fits, congrArg some outbound⟩
  refills := ⟨limit, limited, gates_inbound_self inbound⟩
  others _ leaves differs := gates_of_ne inbound leaves differs

/-- Value comes in from a chain. -/
theorem passes_in (fits : amount ≤ limit.capacity now)
    (outbound : m'.outbound = m.outbound.refill amount now)
    (inbound : m'.inbound = m.inbound.insert chain (limit.claim amount now).2) :
    Passes now (.inbound chain) .outbound amount m.gates m'.gates where
  claims := ⟨limit, limited, fits, gates_inbound_self inbound⟩
  refills := ⟨m.outbound, rfl, congrArg some outbound⟩
  others _ differs leaves := gates_of_ne inbound leaves differs

end Inbound

/-- A transfer that fits goes out. -/
theorem Transferred.passesAll {request : TransferRequest} {item : OutboxItem}
    (transferred : Transferred m request now item m') :
    PassesAll now m.gates (Operation.passages m (.transfer request now) (.sent item)) m'.gates := by
  obtain @⟨dispatch, ledger, prepared, takes, enqueued⟩ := transferred
  have enters : item.recipient = request.recipient ∧
      item.worth m.settings.tokenDecimals = dispatch.amount.toNat := by
    obtain ⟨time, same⟩ := enqueued.exists_item_eq
    rw [same]
    exact ⟨rfl, prepared.worth_eq _ time⟩
  have passages : Operation.passages m (.transfer request now) (.sent item) =
      if dispatch.amount.toNat ≤ (m.outbound.capacity now).toNat then
        [.out request.recipient.chain dispatch.amount.toNat]
      else [] := by
    unfold Operation.passages
    dsimp only
    rw [enters.1, enters.2]
  rw [passages]
  cases enqueued with
  | admitted limited fits =>
      rw [if_pos (UInt64.le_iff_toNat_le.mp fits)]
      exact .cons (passes_out limited fits rfl rfl) .nil
  | delayed waits =>
      rw [if_neg (Nat.not_le.mpr (UInt64.lt_iff_toNat_lt.mp waits))]
      exact .nil

/-- A transfer that is paid comes in. -/
theorem Accepted.passesAll {transfer : ValidTransfer} {redemption : Redemption}
    (accepted : Accepted m transfer now redemption m') :
    PassesAll now m.gates (redemption.payouts.map .ofPayout) m'.gates := by
  cases accepted with
  | queued limited waits => exact .nil
  | released limited fits pays => exact .cons (passes_in limited fits rfl rfl) .nil

/-- The transfers of a batch pass the gates one after the other, but for those that wait. -/
theorem AcceptedAll.passesAll {transfers : List ValidTransfer} {redemptions : List Redemption}
    (accepted : AcceptedAll now m transfers redemptions m') :
    PassesAll now m.gates ((redemptions.flatMap Redemption.payouts).map .ofPayout) m'.gates := by
  induction accepted with
  | nil => exact .nil
  | cons absent suits accepted rest ih =>
      rw [List.flatMap_cons, List.map_append]
      exact accepted.passesAll.append ih

/-- What comes in from a chain is limited anew. -/
theorem sets_inbound {chain : ChainId} {limit : UInt64} (outbound : m'.outbound = m.outbound)
    (inbound : m'.inbound = m.inbound.insert chain (m.limitFor chain limit now)) :
    Sets now m.settings.duration (.inbound chain) limit m.gates m'.gates where
  changed := by
    rw [gates_inbound_self inbound]
    show some (m.limitFor chain limit now) = some ((m.inbound.find? chain).elim _ _)
    unfold limitFor
    cases m.inbound.find? chain with
    | none => rfl
    | some existing => rfl
  others gate differs := by
    cases gate with
    | outbound => exact congrArg some outbound
    | inbound other => exact gates_of_ne inbound (fun same => nomatch same) differs

/-- **What an operation does to the gates.** -/
theorem Operation.Does.regulated {operation : Operation} {reply : Reply}
    (does : operation.Does m reply m') :
    Regulated operation.time? (operation.passages m reply) m m' := by
  cases does with
  | transfer transferred => exact .passes rfl transferred.passesAll
  | publish step =>
      cases step with
      | announce found unreleased due known => exact .keeps rfl rfl
  | redeem validates accepted => exact .passes rfl accepted.passesAll
  | redeemBatch rehearsed accepted => exact .passes rfl accepted.passesAll
  | payOut step =>
      cases step with
      | pay found waits due pays => exact .keeps rfl rfl
  | setPeer foreign => exact .sets rfl rfl (sets_inbound rfl rfl)
  | setTransceiverPeer foreign => exact .keeps rfl rfl
  | @setOutboundLimit limit now =>
      have sets : Sets now m.settings.duration .outbound limit m.gates
          { m with outbound := m.outbound.setLimit limit now }.gates :=
        { changed := rfl
          others := fun gate differs => by
            cases gate with
            | outbound => exact absurd rfl differs
            | inbound other => rfl }
      exact .sets rfl rfl sets
  | @setInboundLimit chain limit now existing found =>
      have same : m.limitFor chain limit now = existing.setLimit limit now := by
        rw [limitFor, found]
      exact .sets rfl rfl (sets_inbound rfl (by rw [same]))
  | setPaused => exact .keeps rfl rfl
  | mint pays => exact .keeps rfl rfl
  | fundCustody funds => exact .keeps rfl rfl

/-- **What an event does to the gates.** -/
theorem Event.regulated (e : Event) (balanced : e.before.ledger.Balanced) :
    Regulated e.operation.time? e.passages e.before e.after := by
  rcases e.refused_or_does balanced with ⟨fault, refused, same⟩ | ⟨reply, replied, does⟩
  · have none : e.passages = [] := by rw [Event.passages, refused]
    exact .keeps none (congrArg gates same)
  · have passages : e.passages = e.operation.passages e.before reply := by
      rw [Event.passages, replied]
    exact passages ▸ does.regulated

/-! ### What every limit keeps -/

/-- **What holds of a limit whatever becomes of it**: it holds of a full one, and every change keeps
it. -/
structure LimitInvariant (duration : Timestamp) (P : RateLimit → Prop) : Prop where
  full : ∀ limit now, P (.full limit now duration)
  claim : ∀ r amount now, P r → P (r.claim amount now).2
  refill : ∀ r amount now, P r → P (r.refill amount now)
  setLimit : ∀ r limit now, P r → P (r.setLimit limit now)

section LimitInvariant

variable {P : RateLimit → Prop} (kept : LimitInvariant m.settings.duration P)

include kept

/-- An invariant of limits is kept at both gates of a passage. -/
theorem LimitInvariant.passes {claimed refilled : Gate} {amount : UInt64}
    {before after : Gate → Option RateLimit}
    (passes : Passes now claimed refilled amount before after)
    (holds : ∀ gate r, before gate = some r → P r) : ∀ gate r, after gate = some r → P r := by
  intro gate r' found'
  by_cases isClaimed : gate = claimed
  · obtain ⟨r, found, -, become⟩ := passes.claims
    rw [isClaimed, become] at found'
    cases found'
    exact kept.claim r amount now (holds claimed r found)
  · by_cases isRefilled : gate = refilled
    · obtain ⟨r, found, become⟩ := passes.refills
      rw [isRefilled, become] at found'
      cases found'
      exact kept.refill r amount now (holds refilled r found)
    · rw [passes.others gate isClaimed isRefilled] at found'
      exact holds gate r' found'

/-- It is kept by passages one after the other. -/
theorem LimitInvariant.passesAll {passages : List Passage} {before after : Gate → Option RateLimit}
    (passes : PassesAll now before passages after)
    (holds : ∀ gate r, before gate = some r → P r) : ∀ gate r, after gate = some r → P r := by
  induction passes with
  | nil => exact holds
  | cons passes _ ih => exact ih (kept.passes passes holds)

/-- **What every limit keeps, all limits of a manager keep**, whatever an operation does to them. -/
theorem LimitInvariant.regulated {time? : Option Timestamp} {passages : List Passage}
    (regulated : Regulated time? passages m m') (holds : ∀ gate r, m.gates gate = some r → P r) :
    ∀ gate r, m'.gates gate = some r → P r := by
  cases regulated with
  | passes time passes => exact kept.passesAll passes holds
  | @sets now changed limit time none sets =>
      intro gate r' found'
      by_cases same : gate = changed
      · have become := sets.changed
        rw [← same, found'] at become
        cases found : m.gates gate with
        | none =>
            rw [found] at become
            cases become
            exact kept.full limit now
        | some r =>
            rw [found] at become
            cases become
            exact kept.setLimit r limit now (holds gate r found)
      · rw [sets.others gate same] at found'
        exact holds gate r' found'
  | keeps none same =>
      rw [same]
      exact holds

end LimitInvariant

/-- The only limit of a new manager is full. -/
theorem LimitInvariant.start {settings : Settings} {P : RateLimit → Prop}
    (kept : LimitInvariant settings.duration P) (outboundLimit : UInt64) (now : Timestamp) :
    ∀ gate r, (start settings outboundLimit now).gates gate = some r → P r := by
  intro gate r found
  cases gate with
  | outbound =>
      cases found
      exact kept.full outboundLimit now
  | inbound chain => cases found

/-- **All limits fill in the time that was set up.** -/
def Timed (m : Manager) : Prop :=
  ∀ gate r, m.gates gate = some r → r.duration = m.settings.duration

/-- No change of a limit touches the time in which it fills. -/
theorem limitInvariant_duration (duration : Timestamp) :
    LimitInvariant duration fun r => r.duration = duration where
  full _ _ := rfl
  claim r amount now same := (r.duration_claim amount now).trans same
  refill _ _ _ same := same
  setLimit _ _ _ same := same

theorem timed_start (settings : Settings) (outboundLimit : UInt64) (now : Timestamp) :
    (start settings outboundLimit now).Timed :=
  (limitInvariant_duration settings.duration).start outboundLimit now

/-- What an operation does to the gates leaves their times alone. -/
theorem Regulated.timed {time? : Option Timestamp} {passages : List Passage}
    (regulated : Regulated time? passages m m')
    (settled : m'.settings.duration = m.settings.duration) (timed : m.Timed) : m'.Timed := by
  unfold Timed
  rw [settled]
  exact (limitInvariant_duration m.settings.duration).regulated regulated timed

/-- The time is set up once. -/
theorem duration_eq_of_fixed_eq (same : m'.fixed = m.fixed) :
    m'.settings.duration = m.settings.duration := by
  show m'.fixed.duration = m.fixed.duration
  rw [same]

/-- **After any run every limit fills in the time that was set up.** -/
theorem Reachable.timed (reachable : m.Reachable) : m.Timed := by
  obtain ⟨settings, outboundLimit, now, run, rfl⟩ := reachable
  have balanced := balanced_start settings outboundLimit now
  have timed := timed_start settings outboundLimit now
  refine invariant_of_events balanced run ?_ timed
  intro e balanced' timed'
  exact (e.regulated balanced').timed (duration_eq_of_fixed_eq (e.fixed_eq balanced')) timed'

/-- What does not fit at a gate is delayed by the time that was set up. -/
theorem Timed.toInt_releaseTime (timed : m.Timed) {gate : Gate} {r : RateLimit}
    (found : m.gates gate = some r) (now : Timestamp) :
    (r.releaseTime now).toInt = now.delayed m.settings.duration := by
  rw [r.toInt_releaseTime, timed gate r found]

/-- All limits take their time to fill if that was set up. -/
theorem Timed.positive (timed : m.Timed) (positive : 0 < m.settings.duration) :
    ∀ gate r, m.gates gate = some r → 0 < r.duration := by
  intro gate r found
  rw [timed gate r found]
  exact positive

end Manager

end TokenTransfer
