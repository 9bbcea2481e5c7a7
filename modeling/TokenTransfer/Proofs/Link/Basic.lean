import TokenTransfer.Proofs.Manager.Provenance
import TokenTransfer.Proofs.Wire.RoundTrip

/-!
# Two managers

Two managers that know each other, and the attestations that go from one to the other.  Each of the
two is used in any way, and their operations come in any order.  Attestations may be lost, repeated,
reordered and batched, and may be forged in every way but one: what names the chain and the
transceiver of the source carries bytes that the source has published.

## Main definitions

* `Manager.Knows` - what a manager has recorded of another is right
* `Link` - the two managers, and what has happened to each
* `Link.Published`, `Link.Authentic` - what may be attested in the name of the source
* `Link.Step`, `Link.Reachable` - any operation of either manager, and what comes of any number of
  them

A link starts with two new managers, so that their peers are recorded in the course of it.  From
then on the records stay as they are, since a step must leave them right.
-/

namespace TokenTransfer

/-- **What a manager has recorded of another is right**, if it has recorded anything. -/
structure Manager.Knows (m other : Manager) : Prop where
  peer : ∀ peer ∈ m.peers.find? other.settings.chain,
    peer = { manager := other.settings.manager, tokenDecimals := other.settings.tokenDecimals }
  transceiver : ∀ address ∈ m.transceivers.find? other.settings.chain,
    address = other.settings.transceiver

instance (m other : Manager) : Decidable (m.Knows other) :=
  decidable_of_iff
    ((∀ peer ∈ m.peers.find? other.settings.chain,
        peer = { manager := other.settings.manager
                 tokenDecimals := other.settings.tokenDecimals }) ∧
      ∀ address ∈ m.transceivers.find? other.settings.chain, address = other.settings.transceiver)
    ⟨fun h => ⟨h.1, h.2⟩, fun h => ⟨h.peer, h.transceiver⟩⟩

/-- A manager's records depend on nothing but what is set up once. -/
theorem Manager.Knows.congr {m other other' : Manager} (knows : m.Knows other)
    (same : other'.fixed = other.fixed) : m.Knows other' := by
  have chain := chain_eq_of_fixed_eq same
  have manager := manager_eq_of_fixed_eq same
  have decimals := tokenDecimals_eq_of_fixed_eq same
  have transceiver := transceiver_eq_of_fixed_eq same
  constructor
  · rw [chain, manager, decimals]
    exact knows.peer
  · rw [chain, transceiver]
    exact knows.transceiver

/-- A new manager knows nobody, so nobody wrongly. -/
theorem Manager.knows_start (settings : Settings) (outboundLimit : UInt64) (now : Timestamp)
    (other : Manager) : (start settings outboundLimit now).Knows other := by
  constructor
  · rintro peer ⟨⟩
  · rintro address ⟨⟩

/-- Two managers, and what has happened to each. -/
structure Link where
  source : Manager
  target : Manager
  /-- The events of the source. -/
  sent : List Manager.Event
  /-- The events of the target. -/
  received : List Manager.Event

namespace Link

open Manager

/-- The source has announced a transfer with these bytes. -/
def Published (l : Link) (payload : Bytes) : Prop :=
  ∃ e ∈ l.sent, ∃ announcement, .announced announcement ∈ e.effects ∧
    announcement.toBytes = .ok payload

/-- What is attested in the name of the source was published by it. -/
def Authentic (l : Link) (attestation : Attestation) : Prop :=
  attestation.emitterChain = l.source.settings.chain →
    attestation.emitter = l.source.settings.transceiver → l.Published attestation.payload

/-- **One operation** of either manager. -/
inductive Step : Link → Link → Prop
  /-- The source may be asked anything that leaves its records of the target right. -/
  | source {l : Link} (operation : Operation)
      (knows : (Event.after ⟨l.source, operation⟩).Knows l.target) :
      Step l
        { l with
          source := Event.after ⟨l.source, operation⟩
          sent := l.sent ++ [⟨l.source, operation⟩] }
  /-- The target, too, and its attestations in the name of the source are authentic. -/
  | target {l : Link} (operation : Operation)
      (knows : (Event.after ⟨l.target, operation⟩).Knows l.source)
      (authentic : ∀ attestation ∈ operation.attestations, l.Authentic attestation) :
      Step l
        { l with
          target := Event.after ⟨l.target, operation⟩
          received := l.received ++ [⟨l.target, operation⟩] }

/-- **What comes of two new managers** by any operations in any order. -/
inductive Reachable : Link → Prop
  | start (settings settings' : Settings) (outboundLimit outboundLimit' : UInt64)
      (now now' : Timestamp) :
      Reachable
        { source := Manager.start settings outboundLimit now
          target := Manager.start settings' outboundLimit' now'
          sent := []
          received := [] }
  | step {l l' : Link} (reachable : Reachable l) (step : Step l l') : Reachable l'

/-! ### Runs of one side -/

/-- The source may go on with a run. -/
theorem Reachable.sourceRun {l : Link} (reachable : l.Reachable) (run : List Operation)
    (knows : ∀ e ∈ l.source.events run, e.after.Knows l.target) :
    Reachable
      { l with
        source := l.source.after run
        sent := l.sent ++ l.source.events run } := by
  induction run generalizing l with
  | nil => simpa [events] using reachable
  | cons operation rest ih =>
      have first := knows _ List.mem_cons_self
      have := ih (reachable.step (.source operation first))
        fun e mem => knows e (List.mem_cons_of_mem _ mem)
      simpa [events] using this

/-- The target may go on with a run, if nothing is forged in the name of the source. -/
theorem Reachable.targetRun {l : Link} (reachable : l.Reachable) (run : List Operation)
    (knows : ∀ e ∈ l.target.events run, e.after.Knows l.source)
    (authentic : ∀ operation ∈ run, ∀ attestation ∈ operation.attestations,
      l.Authentic attestation) :
    Reachable
      { l with
        target := l.target.after run
        received := l.received ++ l.target.events run } := by
  induction run generalizing l with
  | nil => simpa [events] using reachable
  | cons operation rest ih =>
      have first := knows _ List.mem_cons_self
      have := ih (reachable.step (.target operation first (authentic _ List.mem_cons_self)))
        (fun e mem => knows e (List.mem_cons_of_mem _ mem))
        (fun later mem => authentic later (List.mem_cons_of_mem _ mem))
      simpa [events] using this

/-! ### The history of a link -/

/-- The events are those of a run of a new manager, which leads to `m`. -/
def IsHistory (m : Manager) (events : List Manager.Event) : Prop :=
  ∃ (settings : Settings) (outboundLimit : UInt64) (now : Timestamp) (run : List Operation),
    m = (start settings outboundLimit now).after run ∧
      events = (start settings outboundLimit now).events run

theorem IsHistory.append {m : Manager} {events : List Manager.Event} (h : IsHistory m events)
    (operation : Operation) :
    IsHistory (Event.after ⟨m, operation⟩) (events ++ [⟨m, operation⟩]) := by
  obtain ⟨settings, outboundLimit, now, run, rfl, rfl⟩ := h
  refine ⟨settings, outboundLimit, now, run ++ [operation], ?_, ?_⟩
  · rw [after_append]
    rfl
  · rw [events_append]
    rfl

/-- A manager with a history has its accounts within the totals. -/
theorem IsHistory.balanced {m : Manager} {events : List Manager.Event} (h : IsHistory m events) :
    m.ledger.Balanced := by
  obtain ⟨settings, outboundLimit, now, run, same, -⟩ := h
  exact Manager.Reachable.balanced ⟨settings, outboundLimit, now, run, same⟩

/-- **What is known of the past of a reachable link.** -/
structure Past (l : Link) : Prop where
  source : IsHistory l.source l.sent
  target : IsHistory l.target l.received
  sourceKnows : l.source.Knows l.target
  targetKnows : l.target.Knows l.source
  sourceKnew : ∀ e ∈ l.sent, e.before.Knows l.target
  targetKnew : ∀ e ∈ l.received, e.before.Knows l.source
  authentic : ∀ e ∈ l.received, ∀ attestation ∈ e.operation.attestations, l.Authentic attestation

/-- Every step of a link adds to its past what it has done. -/
theorem Step.past {l l' : Link} (step : Step l l') (past : l.Past) : l'.Past := by
  cases step with
  | source operation knows =>
      have same := Event.fixed_eq ⟨l.source, operation⟩ past.source.balanced
      refine ⟨past.source.append operation, past.target, knows, past.targetKnows.congr same, ?_,
        fun e mem => (past.targetKnew e mem).congr same, ?_⟩
      · intro e mem
        rcases List.mem_append.mp mem with earlier | now
        · exact past.sourceKnew e earlier
        · cases List.mem_singleton.mp now
          exact past.sourceKnows
      · intro e mem attestation given chain emitter
        -- What was published before stays published.
        obtain ⟨e', mem', announced⟩ := past.authentic e mem attestation given
          (chain.trans (chain_eq_of_fixed_eq same))
          (emitter.trans (transceiver_eq_of_fixed_eq same))
        exact ⟨e', List.mem_append_left _ mem', announced⟩
  | target operation knows authentic =>
      have same := Event.fixed_eq ⟨l.target, operation⟩ past.target.balanced
      refine ⟨past.source, past.target.append operation, past.sourceKnows.congr same, knows,
        fun e mem => (past.sourceKnew e mem).congr same, ?_, ?_⟩
      · intro e mem
        rcases List.mem_append.mp mem with earlier | now
        · exact past.targetKnew e earlier
        · cases List.mem_singleton.mp now
          exact past.targetKnows
      · intro e mem
        rcases List.mem_append.mp mem with earlier | now
        · exact past.authentic e earlier
        · cases List.mem_singleton.mp now
          exact authentic

/-- **A link that is reachable has a past.** -/
theorem Reachable.past {l : Link} (reachable : l.Reachable) : l.Past := by
  induction reachable with
  | start settings settings' outboundLimit outboundLimit' now now' =>
      refine ⟨⟨settings, outboundLimit, now, [], rfl, rfl⟩,
        ⟨settings', outboundLimit', now', [], rfl, rfl⟩, knows_start _ _ _ _, knows_start _ _ _ _,
        ?_, ?_, ?_⟩
      · rintro e ⟨⟩
      · rintro e ⟨⟩
      · rintro e ⟨⟩
  | step _ step ih => exact step.past ih

end Link

end TokenTransfer
