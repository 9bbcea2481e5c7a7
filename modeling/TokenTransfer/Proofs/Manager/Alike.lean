import TokenTransfer.Proofs.Fallible
import TokenTransfer.Proofs.Manager.Run
import TokenTransfer.Proofs.RateLimit.Alike
import TokenTransfer.Proofs.Table

/-!
# Managers that nothing tells apart

Where the capacity of a limit comes back in an instant, what the limit stores is never looked at
(`RateLimit.Alike`).  Managers that differ in nothing else are alike: whatever they are told to do,
they give the same answers, and they stay alike.  So to the end of any run there is no telling which
of the two it was made on.

This is shown of each operation as it is composed.  Two computations match when they fail with
the same fault or give results that are related, and leave alike managers either way; what is
related after a first part is what a second part may use.

## Main definitions

* `Manager.Alike` - managers that differ in nothing but what is never looked at
* `Outcome.Rel` - the same fault, or related results
* `Manager.Matches` - related results, and alike managers

## Main statements

* `Alike.outcome_eq`, `Alike.after` - an operation on alike managers
* `Alike.outcomes_eq` - a run on alike managers
-/

namespace TokenTransfer

/-! ### Outcomes -/

namespace Outcome

variable {ε α β α' β' : Type}

/-- **Related outcomes**: the same fault, or results that are related. -/
inductive Rel (R : α → β → Prop) : Except ε α → Except ε β → Prop
  | error (e : ε) : Rel R (.error e) (.error e)
  | ok {a : α} {b : β} (related : R a b) : Rel R (.ok a) (.ok b)

theorem Rel.refl (x : Except ε α) : Rel Eq x x := by
  cases x with
  | error e => exact .error e
  | ok a => exact .ok rfl

theorem Rel.eq {x y : Except ε α} (related : Rel Eq x y) : y = x := by
  cases related with
  | error e => rfl
  | ok same => rw [same]

/-- What follows related results is related, if it takes related results to related outcomes. -/
theorem Rel.bind {R : α → β → Prop} {R' : α' → β' → Prop} {x : Except ε α} {y : Except ε β}
    {next : α → Except ε α'} {next' : β → Except ε β'} (first : Rel R x y)
    (rest : ∀ a b, R a b → Rel R' (next a) (next' b)) : Rel R' (x >>= next) (y >>= next') := by
  cases first with
  | error e => exact .error e
  | ok related => exact rest _ _ related

/-- Where the first results are equal, there is one to go on with. -/
theorem Rel.bind_eq {R' : α' → β' → Prop} {x y : Except ε α} {next : α → Except ε α'}
    {next' : α → Except ε β'} (first : Rel Eq x y) (rest : ∀ a, Rel R' (next a) (next' a)) :
    Rel R' (x >>= next) (y >>= next') := by
  refine first.bind ?_
  rintro a _ rfl
  exact rest a

theorem Rel.ite {R : α → β → Prop} {c : Prop} [Decidable c] {x x' : Except ε α} {y y' : Except ε β}
    (first : Rel R x y) (second : Rel R x' y') :
    Rel R (if c then x else x') (if c then y else y') := by
  split
  · exact first
  · exact second

end Outcome

namespace Manager

open Fallible

variable {m n : Manager} {α β α' β' : Type}

/-! ### Alike managers -/

/-- Limits that are alike chain by chain. -/
def LimitsAlike (s t : Table ChainId RateLimit) : Prop :=
  ∀ chain, Option.Rel RateLimit.Alike (s.find? chain) (t.find? chain)

namespace LimitsAlike

variable {s t u : Table ChainId RateLimit}

theorem refl (s : Table ChainId RateLimit) : LimitsAlike s s := by
  intro chain
  cases s.find? chain with
  | none => exact .none
  | some limit => exact .some .same

theorem trans (first : LimitsAlike s t) (second : LimitsAlike t u) : LimitsAlike s u := by
  intro chain
  have first := first chain
  have second := second chain
  generalize s.find? chain = a at first
  generalize t.find? chain = b at first second
  generalize u.find? chain = c at second
  cases first with
  | none => exact second
  | some alike =>
      cases second with
      | some alike' => exact .some (alike.trans alike')

/-- A chain with a limit in one table has an alike limit in the other. -/
theorem exists_find? (alike : LimitsAlike s t) {chain : ChainId} {limit : RateLimit}
    (found : s.find? chain = some limit) :
    ∃ limit', t.find? chain = some limit' ∧ limit.Alike limit' := by
  have alike := alike chain
  rw [found] at alike
  generalize t.find? chain = other at alike
  cases alike with
  | some alike => exact ⟨_, rfl, alike⟩

/-- Alike limits may be filed in alike tables. -/
theorem insert (alike : LimitsAlike s t) (chain : ChainId) {limit limit' : RateLimit}
    (new : limit.Alike limit') : LimitsAlike (s.insert chain limit) (t.insert chain limit') := by
  intro other
  by_cases same : other = chain
  · rw [same, Table.find?_insert_self, Table.find?_insert_self]
    exact .some new
  · rw [Table.find?_insert_of_ne _ _ same, Table.find?_insert_of_ne _ _ same]
    exact alike other

/-- Where every limit takes its time, alike limits are equal. -/
theorem eq_of_positive (alike : LimitsAlike s t)
    (positive : ∀ chain limit, s.find? chain = some limit → 0 < limit.duration) : t = s := by
  apply Table.ext
  intro chain
  have alike := alike chain
  have positive := positive chain
  generalize s.find? chain = a at alike positive
  generalize t.find? chain = b at alike
  cases alike with
  | none => rfl
  | some alike => rw [alike.eq_of_positive (positive _ rfl)]

end LimitsAlike

/-- **Alike managers** differ at most in what inbound limits store and never look at. -/
structure Alike (m n : Manager) : Prop where
  others : n = { m with inbound := n.inbound }
  inbound : LimitsAlike m.inbound n.inbound

namespace Alike

theorem refl (m : Manager) : m.Alike m := ⟨rfl, .refl _⟩

theorem trans {k : Manager} (first : m.Alike n) (second : n.Alike k) : m.Alike k := by
  refine ⟨?_, first.inbound.trans second.inbound⟩
  rw [second.others, first.others]

end Alike

/-! ### Matching computations -/

/-- **Two computations match** on two managers: they fail with the same fault or give related results,
and leave alike managers. -/
def Matches (R : α → β → Prop) (f : Action α) (g : Action β) (m n : Manager) : Prop :=
  Outcome.Rel R (f.runOn m).1 (g.runOn n).1 ∧ (f.runOn m).2.Alike (g.runOn n).2

namespace Matches

variable {R : α → β → Prop} {f : Action α} {g : Action β}

/-- **What is composed of matching parts matches.**  The second parts go on from related results, on
alike managers. -/
theorem bind {R' : α' → β' → Prop} {next : α → Action α'} {next' : β → Action β'}
    (first : Matches R f g m n)
    (rest : ∀ a b, R a b → ∀ m' n', m'.Alike n' → Matches R' (next a) (next' b) m' n') :
    Matches R' (f >>= next) (g >>= next') m n := by
  obtain ⟨outcomes, alike⟩ := first
  unfold Matches
  rw [runOn_bind, runOn_bind]
  generalize f.runOn m = x at outcomes alike
  generalize g.runOn n = y at outcomes alike
  obtain ⟨x, m'⟩ := x
  obtain ⟨y, n'⟩ := y
  cases outcomes with
  | error e => exact ⟨.error e, alike⟩
  | ok related => exact rest _ _ related m' n' alike

/-- Where the first results are equal, there is one to go on with. -/
theorem bind_eq {R' : α' → β' → Prop} {f g : Action α} {next : α → Action α'} {next' : α → Action β'}
    (first : Matches Eq f g m n)
    (rest : ∀ a m' n', m'.Alike n' → Matches R' (next a) (next' a) m' n') :
    Matches R' (f >>= next) (g >>= next') m n := by
  refine first.bind ?_
  rintro a _ rfl
  exact rest a

/-- What is made of equal results is equal. -/
theorem map_eq {f g : Action α} (h : Matches Eq f g m n) (k : α → β) :
    Matches Eq (k <$> f) (k <$> g) m n := by
  obtain ⟨outcomes, alike⟩ := h
  unfold Matches
  rw [runOn_map, runOn_map, outcomes.eq]
  exact ⟨.refl _, alike⟩

/-- A condition that is the same for both managers chooses the same part. -/
theorem ite {c : Prop} [Decidable c] {f' : Action α} {g' : Action β} (first : Matches R f g m n)
    (second : Matches R f' g' m n) :
    Matches R (if c then f else f') (if c then g else g') m n := by
  split
  · exact first
  · exact second

end Matches

section Matches

variable (alike : m.Alike n)

include alike

theorem matches_pure {R : α → β → Prop} {a : α} {b : β} (related : R a b) :
    Matches R (pure a) (pure b) m n := ⟨.ok related, alike⟩

theorem matches_throw (R : α → β → Prop) (fault : Fault) :
    Matches R (throw fault) (throw fault) m n := ⟨.error fault, alike⟩

theorem matches_ofExcept (x : Except Fault α) :
    Matches Eq (Fallible.ofExcept x) (Fallible.ofExcept x) m n := ⟨.refl x, alike⟩

theorem matches_get : Matches Alike get get m n := ⟨.ok alike, alike⟩

/-- Questions match by their answers. -/
theorem matches_ask {R : α → β → Prop} {question : Manager → Except Fault α}
    {question' : Manager → Except Fault β}
    (related : Outcome.Rel R (question m) (question' n)) :
    Matches R (ask question) (ask question') m n := ⟨related, alike⟩

end Matches

/-- What is written back must be alike. -/
theorem matches_set {m' n' : Manager} (alike : m'.Alike n') :
    Matches Eq (set m') (set n') m n := ⟨.ok rfl, alike⟩

theorem matches_modify {change change' : Manager → Manager} (alike : (change m).Alike (change' n)) :
    Matches Eq (modify change) (modify change') m n := ⟨.ok rfl, alike⟩

/-- A list of computations is matched one by one. -/
theorem matches_mapM {ι : Type} {f : ι → Action α}
    (each : ∀ i m n, Alike m n → Matches Eq (f i) (f i) m n) (alike : m.Alike n) (is : List ι) :
    Matches Eq (is.mapM f) (is.mapM f) m n := by
  induction is generalizing m n with
  | nil => exact matches_pure alike rfl
  | cons i rest ih =>
      rw [List.mapM_cons]
      refine (each i m n alike).bind_eq fun a m' n' alike => ?_
      refine (ih alike).bind_eq fun as m'' n'' alike => ?_
      exact matches_pure alike rfl

/-! ### What managers are asked -/

namespace Alike

variable (alike : m.Alike n)

include alike

/-- What differs is the table of limits alone. -/
theorem exists_inbound : ∃ table, LimitsAlike m.inbound table ∧ n = { m with inbound := table } :=
  ⟨n.inbound, alike.inbound, alike.others⟩

/-- A limit is missing on both sides, or there are two that are alike. -/
theorem inboundLimit (chain : ChainId) :
    Outcome.Rel RateLimit.Alike (m.inboundLimit chain) (n.inboundLimit chain) := by
  have limits := alike.inbound chain
  unfold Manager.inboundLimit
  generalize m.inbound.find? chain = x at limits
  generalize n.inbound.find? chain = y at limits
  cases limits with
  | none => exact .error _
  | some limits => exact .ok limits

/-- A limit that is set up for a peer is the same for both. -/
theorem limitFor (chain : ChainId) (limit : UInt64) (now : Timestamp) :
    n.limitFor chain limit now = m.limitFor chain limit now := by
  have limits := alike.inbound chain
  have settings : n.settings = m.settings := by rw [alike.others]
  unfold Manager.limitFor
  rw [settings]
  generalize m.inbound.find? chain = x at limits
  generalize n.inbound.find? chain = y at limits
  cases limits with
  | none => rfl
  | some limits => exact limits.setLimit limit now

/-- What makes an attestation valid has nothing to do with limits. -/
theorem validate_eq (attestation : Attestation) :
    n.validate attestation = m.validate attestation := by
  obtain ⟨table, -, rfl⟩ := alike.exists_inbound
  rfl

theorem validateAll_eq (before : List ValidTransfer) (attestations : List Attestation) :
    n.validateAll before attestations = m.validateAll before attestations := by
  induction attestations generalizing before with
  | nil => rfl
  | cons attestation rest ih =>
      unfold validateAll
      rw [alike.validate_eq]
      cases m.validate attestation with
      | error fault => rfl
      | ok transfer => simp only [ih]

/-- A transfer is prepared if its destination has a limit, whatever that limit has left. -/
theorem prepare_eq (request : TransferRequest) (now : Timestamp) :
    n.prepare request now = m.prepare request now := by
  have limited := alike.inboundLimit request.recipient.chain
  obtain ⟨table, -, rfl⟩ := alike.exists_inbound
  apply Outcome.Rel.eq
  unfold prepare
  refine (Outcome.Rel.refl _).bind_eq fun _ => .ite (.error _) ?_
  refine (Outcome.Rel.refl _).bind_eq fun peer => ?_
  -- The limit is looked up, but what it is does not matter.
  exact limited.bind fun _ _ _ => .refl _

end Alike

/-- A question that does not look at the limits is answered alike. -/
theorem matches_ask_eq (alike : m.Alike n) (question : Manager → Except Fault α)
    (same : ∀ m table, question { m with inbound := table } = question m) :
    Matches Eq (ask question) (ask question) m n := by
  refine matches_ask alike ?_
  obtain ⟨table, -, rfl⟩ := alike.exists_inbound
  rw [same m table]
  exact .refl _

/-- A change that leaves the limits alone is made alike. -/
theorem matches_modify_eq (alike : m.Alike n) (change : Manager → Manager)
    (keeps : ∀ m table, change { m with inbound := table } = { change m with inbound := table }) :
    Matches Eq (modify change) (modify change) m n := by
  obtain ⟨table, limits, rfl⟩ := alike.exists_inbound
  have same : (change m).inbound = m.inbound := by rw [show change m = _ from keeps m m.inbound]
  refine matches_modify ⟨?_, ?_⟩
  · rw [keeps m table]
  · rw [keeps m table, same]
    exact limits

/-! ### Sending -/

/-- The ledger is the same for both, and so is what becomes of it. -/
theorem matches_onLedger (alike : m.Alike n) (change : Ledger.Action) :
    Matches Eq (onLedger change) (onLedger change) m n := by
  obtain ⟨table, limits, rfl⟩ := alike.exists_inbound
  exact ⟨.refl _, rfl, limits⟩

theorem matches_takeFrom (alike : m.Alike n) (account : Address) (amount : UInt64) :
    Matches Eq (takeFrom account amount) (takeFrom account amount) m n := by
  unfold takeFrom
  refine (matches_get alike).bind fun m n alike _ _ alike' => ?_
  obtain ⟨table, -, rfl⟩ := alike.exists_inbound
  dsimp only
  split
  · exact matches_onLedger alike' _
  · exact matches_onLedger alike' _

/-- What is claimed of the outbound limit is given back to an inbound one, and a refill makes alike
limits equal. -/
theorem matches_claimOutbound (alike : m.Alike n) (destination : ChainId) (amount : UInt64)
    (now : Timestamp) :
    Matches Eq (claimOutbound destination amount now) (claimOutbound destination amount now) m n := by
  unfold claimOutbound
  refine (matches_get alike).bind fun m n alike _ _ _ => ?_
  obtain ⟨table, limits, rfl⟩ := alike.exists_inbound
  dsimp only
  generalize m.outbound.claim amount now = claimed
  obtain ⟨claim, outbound⟩ := claimed
  refine (matches_set ⟨rfl, limits⟩).bind_eq fun _ m n alike => ?_
  cases claim with
  | consumed time =>
      refine (matches_ask alike (alike.inboundLimit destination)).bind fun r r' alike' m n alike => ?_
      obtain ⟨table, limits, rfl⟩ := alike.exists_inbound
      have after : LimitsAlike (m.inbound.insert destination (r.refill amount time))
          (table.insert destination (r'.refill amount time)) := by
        rw [alike'.refill]
        exact limits.insert destination .same
      exact (matches_modify ⟨rfl, after⟩).bind_eq fun _ m n alike => matches_pure alike rfl
  | delayed release => exact matches_pure alike rfl

theorem matches_enqueue (alike : m.Alike n) (request : TransferRequest) (dispatch : Dispatch)
    (now : Timestamp) :
    Matches Eq (enqueue request dispatch now) (enqueue request dispatch now) m n := by
  unfold enqueue takeSequence
  refine (matches_claimOutbound alike _ _ _).bind_eq fun time m n alike => ?_
  refine Matches.bind_eq ?_ fun sequence m n alike => ?_
  · refine (matches_get alike).bind fun m n alike _ _ _ => ?_
    obtain ⟨table, limits, rfl⟩ := alike.exists_inbound
    exact (matches_set ⟨rfl, limits⟩).bind_eq fun _ m n alike => matches_pure alike rfl
  · exact (matches_modify_eq alike _ fun _ _ => rfl).bind_eq fun _ m n alike =>
      matches_pure alike rfl

theorem matches_transfer (alike : m.Alike n) (request : TransferRequest) (now : Timestamp) :
    Matches Eq (transfer request now) (transfer request now) m n := by
  unfold transfer
  have prepared : Outcome.Rel Eq (m.prepare request now) (n.prepare request now) := by
    rw [alike.prepare_eq]
    exact .refl _
  refine (matches_ask alike prepared).bind_eq fun dispatch m n alike => ?_
  refine (matches_takeFrom alike _ _).bind_eq fun _ m n alike => ?_
  exact matches_enqueue alike request dispatch now

theorem matches_publish (alike : m.Alike n) (sequence : UInt64) (now : Timestamp) :
    Matches Eq (publish sequence now) (publish sequence now) m n := by
  unfold publish
  refine (matches_ask_eq alike ensureActive fun _ _ => rfl).bind_eq fun _ m n alike => ?_
  refine (matches_ask_eq alike (outboxItem · sequence) fun _ _ => rfl).bind_eq fun item m n alike => ?_
  refine (matches_ask_eq alike (peer · item.recipient.chain) fun _ _ => rfl).bind_eq
    fun peer m n alike => ?_
  generalize (OutboxItem.release now).runOn item = released
  obtain ⟨outcome, item⟩ := released
  refine (matches_modify_eq alike _ fun _ _ => rfl).bind_eq fun _ m n alike => ?_
  refine (matches_ofExcept alike outcome).bind_eq fun _ m n alike => ?_
  refine (matches_get alike).bind fun m n alike _ _ alike' => ?_
  obtain ⟨table, -, rfl⟩ := alike.exists_inbound
  exact matches_pure alike' rfl

/-! ### Receiving -/

theorem matches_payTo (alike : m.Alike n) (account : Address) (amount : UInt64) :
    Matches Eq (payTo account amount) (payTo account amount) m n := by
  unfold payTo
  refine (matches_get alike).bind fun m n alike _ _ alike' => ?_
  obtain ⟨table, -, rfl⟩ := alike.exists_inbound
  dsimp only
  split
  · exact matches_onLedger alike' _
  · exact matches_onLedger alike' _

theorem matches_settle (alike : m.Alike n) (key : TransferKey) (item : InboxItem)
    (now : Timestamp) : Matches Eq (settle key item now) (settle key item now) m n := by
  unfold settle
  generalize (InboxItem.tryRelease now).runOn item = released
  obtain ⟨outcome, item⟩ := released
  refine (matches_modify_eq alike _ fun _ _ => rfl).bind_eq fun _ m n alike => ?_
  exact (matches_ofExcept alike outcome).bind_eq fun _ m n alike => matches_pure alike rfl

theorem matches_payOut (alike : m.Alike n) (key : TransferKey) (now : Timestamp) :
    Matches Eq (payOut key now) (payOut key now) m n := by
  unfold payOut
  refine (matches_ask_eq alike ensureActive fun _ _ => rfl).bind_eq fun _ m n alike => ?_
  refine (matches_ask_eq alike (inboxItem · key) fun _ _ => rfl).bind_eq fun item m n alike => ?_
  refine (matches_ofExcept alike _).bind_eq fun _ m n alike => ?_
  refine (matches_payTo alike _ _).bind_eq fun _ m n alike => ?_
  exact matches_settle alike key item now

/-- A claim is answered alike, so a transfer is paid on both sides or waits on both. -/
theorem matches_accept (alike : m.Alike n) (transfer : ValidTransfer) (now : Timestamp) :
    Matches Eq (accept transfer now) (accept transfer now) m n := by
  unfold accept
  refine (matches_ask alike (alike.inboundLimit _)).bind fun r r' limits m n alike => ?_
  -- Both limits give the same answer to the claim, and what is left of them is alike.
  obtain ⟨same, after⟩ := limits.claim transfer.amount now
  generalize r.claim transfer.amount now = claimed at same after
  generalize r'.claim transfer.amount now = claimed' at same after
  obtain ⟨claim, r⟩ := claimed
  obtain ⟨claim', r'⟩ := claimed'
  cases same
  obtain ⟨table, inbound, rfl⟩ := alike.exists_inbound
  refine (matches_modify ⟨rfl, inbound.insert _ after⟩).bind_eq fun _ m n alike => ?_
  cases claim with
  | consumed time =>
      refine (matches_modify_eq alike _ fun _ _ => rfl).bind_eq fun _ m n alike => ?_
      refine (matches_ofExcept alike _).bind_eq fun _ m n alike => ?_
      refine (matches_modify_eq alike _ fun _ _ => rfl).bind_eq fun _ m n alike => ?_
      exact (matches_payOut alike _ _).bind_eq fun payout m n alike => matches_pure alike rfl
  | delayed release =>
      refine (matches_ofExcept alike _).bind_eq fun _ m n alike => ?_
      exact (matches_modify_eq alike _ fun _ _ => rfl).bind_eq fun _ m n alike =>
        matches_pure alike rfl

/-- A redemption asks its limit for the capacity and for nothing else. -/
theorem matches_redeem (alike : m.Alike n) (attestation : Attestation) (now : Timestamp) :
    Matches Eq (redeem attestation now) (redeem attestation now) m n := by
  unfold redeem
  refine (matches_ask_eq alike (validate · attestation) fun _ _ => rfl).bind_eq
    fun transfer m n alike => ?_
  refine (matches_ask alike (alike.inboundLimit _)).bind fun r r' limits m n alike => ?_
  refine (matches_get alike).bind fun m n same m' n' alike => ?_
  obtain ⟨table, -, rfl⟩ := same.exists_inbound
  rw [limits.capacity_eq]
  refine .ite ?_ (matches_accept alike transfer now)
  exact (matches_ofExcept alike _).bind_eq fun _ m n alike => matches_accept alike transfer now

/-- Forecasts that differ in nothing but in limits that are alike. -/
structure Forecast.Alike (f g : Forecast) : Prop where
  others : g = { f with inbound := g.inbound }
  inbound : LimitsAlike f.inbound g.inbound

/-- Alike limits are forecast alike. -/
theorem Forecast.Alike.step {f g : Forecast} (alike : f.Alike g) (mode : Mode) (now : Timestamp)
    (transfer : ValidTransfer) :
    Outcome.Rel Forecast.Alike (f.step mode now transfer) (g.step mode now transfer) := by
  obtain ⟨others, inbound⟩ := alike
  generalize g.inbound = table at *
  subst others
  have limits := inbound transfer.fromChain
  unfold Forecast.step
  dsimp only
  generalize f.inbound.find? transfer.fromChain = x at limits
  generalize table.find? transfer.fromChain = y at limits
  cases limits with
  | none => exact .error _
  | some limits =>
      dsimp only
      rw [limits.capacity_eq]
      refine .ite (.ok ⟨rfl, inbound⟩) ((Outcome.Rel.refl _).bind_eq fun _ => ?_)
      have after := inbound.insert transfer.fromChain (limits.claim transfer.amount now).2
      cases mode with
      | locking => exact .ok ⟨rfl, after⟩
      | burning => exact .ok ⟨rfl, after⟩

/-- The rehearsal of a batch finds the same transfers, or the same fault. -/
theorem Alike.rehearse_eq (alike : m.Alike n) (attestations : List Attestation) (now : Timestamp) :
    n.rehearse attestations now = m.rehearse attestations now := by
  -- By induction on what is left of the batch, with forecasts that may differ in what limits store.
  have all (transfers : List ValidTransfer) {f g : Forecast} (alike : f.Alike g) :
      Outcome.Rel Forecast.Alike (transfers.foldlM (Forecast.step m.settings.mode now) f)
        (transfers.foldlM (Forecast.step m.settings.mode now) g) := by
    induction transfers generalizing f g with
    | nil => exact .ok alike
    | cons transfer rest ih =>
        rw [List.foldlM_cons, List.foldlM_cons]
        exact (alike.step m.settings.mode now transfer).bind fun _ _ alike => ih alike
  have valid := alike.validateAll_eq [] attestations
  obtain ⟨table, inbound, rfl⟩ := alike.exists_inbound
  apply Outcome.Rel.eq
  unfold rehearse
  rw [valid]
  refine (Outcome.Rel.refl _).bind_eq fun transfers => ?_
  exact (all transfers ⟨rfl, inbound⟩).bind fun _ _ _ => .ok rfl

theorem matches_redeemBatch (alike : m.Alike n) (attestations : List Attestation)
    (now : Timestamp) :
    Matches Eq (redeemBatch attestations now) (redeemBatch attestations now) m n := by
  unfold redeemBatch
  have rehearsed : Outcome.Rel Eq (m.rehearse attestations now) (n.rehearse attestations now) := by
    rw [alike.rehearse_eq]
    exact .refl _
  refine (matches_ask alike rehearsed).bind_eq fun transfers m n alike => ?_
  exact matches_mapM (fun transfer _ _ alike => matches_accept alike transfer now) alike transfers

/-! ### Setting up -/

/-- A limit that is set up for a peer depends on the capacity there was, and not on what was stored.
-/
theorem matches_setPeer (alike : m.Alike n) (peer : ChainAddress) (tokenDecimals : UInt8)
    (limit : UInt64) (now : Timestamp) :
    Matches Eq (setPeer peer tokenDecimals limit now) (setPeer peer tokenDecimals limit now) m n := by
  unfold setPeer
  refine (matches_get alike).bind fun m n same m' n' alike => ?_
  have limitFor := same.limitFor peer.chain limit now
  obtain ⟨table, inbound, rfl⟩ := same.exists_inbound
  refine .ite (matches_throw alike _ _) ?_
  rw [limitFor]
  exact (matches_set ⟨rfl, inbound.insert _ .same⟩).bind_eq fun _ m n alike => matches_pure alike rfl

theorem matches_setTransceiverPeer (alike : m.Alike n) (peer : ChainAddress) :
    Matches Eq (setTransceiverPeer peer) (setTransceiverPeer peer) m n := by
  unfold setTransceiverPeer
  refine (matches_get alike).bind fun m n same m' n' alike => ?_
  obtain ⟨table, inbound, rfl⟩ := same.exists_inbound
  refine .ite (matches_throw alike _ _) ?_
  exact (matches_set ⟨rfl, inbound⟩).bind_eq fun _ m n alike => matches_pure alike rfl

/-- So does a limit that is changed on its own. -/
theorem matches_setInboundLimit (alike : m.Alike n) (chain : ChainId) (limit : UInt64)
    (now : Timestamp) :
    Matches Eq (setInboundLimit chain limit now) (setInboundLimit chain limit now) m n := by
  unfold setInboundLimit
  refine (matches_ask alike (alike.inboundLimit chain)).bind fun r r' limits m n alike => ?_
  obtain ⟨table, inbound, rfl⟩ := alike.exists_inbound
  refine matches_modify ⟨rfl, ?_⟩
  rw [limits.setLimit]
  exact inbound.insert chain .same

/-! ### Operations and runs -/

/-- **Every operation matches itself** on alike managers. -/
theorem matches_perform (alike : m.Alike n) (operation : Operation) :
    Matches Eq operation.perform operation.perform m n := by
  cases operation with
  | transfer request now => exact (matches_transfer alike request now).map_eq _
  | publish sequence now => exact (matches_publish alike sequence now).map_eq _
  | redeem attestation now => exact (matches_redeem alike attestation now).map_eq _
  | redeemBatch attestations now => exact (matches_redeemBatch alike attestations now).map_eq _
  | payOut key now => exact (matches_payOut alike key now).map_eq _
  | setPeer peer tokenDecimals limit now =>
      exact (matches_setPeer alike peer tokenDecimals limit now).map_eq _
  | setTransceiverPeer peer => exact (matches_setTransceiverPeer alike peer).map_eq _
  | setInboundLimit chain limit now =>
      exact (matches_setInboundLimit alike chain limit now).map_eq _
  | setOutboundLimit | setPaused =>
      exact (matches_modify_eq alike _ fun _ _ => rfl).map_eq _
  | mint | fundCustody => exact (matches_onLedger alike _).map_eq _

/-- **Alike managers give the same answers.** -/
theorem Alike.outcome_eq (alike : m.Alike n) (operation : Operation) :
    Event.outcome ⟨n, operation⟩ = Event.outcome ⟨m, operation⟩ :=
  (matches_perform alike operation).1.eq

/-- **They stay alike**, whatever they are told to do. -/
theorem Alike.after (alike : m.Alike n) (operation : Operation) :
    (Event.after ⟨m, operation⟩).Alike (Event.after ⟨n, operation⟩) :=
  (matches_perform alike operation).2

/-- **No run tells alike managers apart.** -/
theorem Alike.outcomes_eq (alike : m.Alike n) (run : List Operation) :
    (n.events run).map Event.outcome = (m.events run).map Event.outcome := by
  induction run generalizing m n with
  | nil => rfl
  | cons operation rest ih =>
      simp only [events, List.map_cons]
      rw [alike.outcome_eq, ih (alike.after operation)]

end Manager

end TokenTransfer
