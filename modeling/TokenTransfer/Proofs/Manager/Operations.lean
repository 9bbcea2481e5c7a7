import TokenTransfer.Proofs.Manager.Batch

/-!
# What operations do

The operations of a manager are taken apart here for the last time: one that is refused leaves the
manager alone, and of one that is not it is said exactly what it leaves behind (`Operation.Does`).

Whatever is to be proved about value is proved of moves.  An operation that succeeds is a trace
whose moves are the effects in its reply, so a run is a trace too.

## Main definitions

* `Operation.Does` - what an operation does, operation by operation
* `Operation.Explains` - how moves explain a reply

## Main statements

* `Operation.perform_transacts` - an operation does what it is said to do, or it is refused
* `Event.refused_or_explained` - an event is refused without a trace, or it is a trace
* `exists_trace` - a run is a trace with the effects of the run
* `Reachable.balanced` - the ledger of a reachable manager is balanced
-/

namespace TokenTransfer

namespace Manager

open Fallible

variable {m m' : Manager}

/-! ### What operations do -/

/-- **What an operation does** when it succeeds: its reply, and the manager it leaves behind. -/
inductive Operation.Does (m : Manager) : Operation → Reply → Manager → Prop
  | transfer {request : TransferRequest} {now : Timestamp} {item : OutboxItem} {m' : Manager}
      (transferred : Transferred m request now item m') :
      Does m (.transfer request now) (.sent item) m'
  | publish {sequence : UInt64} {now : Timestamp} {announcement : Announcement} {m' : Manager}
      (step : Step m (.announce sequence announcement now) m') :
      Does m (.publish sequence now) (.announced announcement) m'
  | redeem {attestation : Attestation} {now : Timestamp} {transfer : ValidTransfer}
      {redemption : Redemption} {m' : Manager} (validates : m.validate attestation = .ok transfer)
      (accepted : Accepted m transfer now redemption m') :
      Does m (.redeem attestation now) (.redeemed redemption) m'
  | redeemBatch {attestations : List Attestation} {now : Timestamp}
      {transfers : List ValidTransfer} {redemptions : List Redemption} {m' : Manager}
      (rehearsed : Rehearsed m attestations now transfers)
      (accepted : AcceptedAll now m transfers redemptions m') :
      Does m (.redeemBatch attestations now) (.redeemedAll redemptions) m'
  | payOut {key : TransferKey} {now : Timestamp} {payout : Payout} {m' : Manager}
      (step : Step m (.pay payout now) m') : Does m (.payOut key now) (.paid payout) m'
  | setPeer {peer : ChainAddress} {tokenDecimals : UInt8} {inboundLimit : UInt64}
      {now : Timestamp} (foreign : peer.chain ≠ m.settings.chain) :
      Does m (.setPeer peer tokenDecimals inboundLimit now)
        (.peerSet { chain := peer.chain, manager := peer.address, tokenDecimals, inboundLimit })
        { m with
          peers := m.peers.insert peer.chain { manager := peer.address, tokenDecimals }
          inbound := m.inbound.insert peer.chain (m.limitFor peer.chain inboundLimit now) }
  | setTransceiverPeer {peer : ChainAddress} (foreign : peer.chain ≠ m.settings.chain) :
      Does m (.setTransceiverPeer peer)
        (.transceiverSet { chain := peer.chain, transceiver := peer.address })
        { m with transceivers := m.transceivers.insert peer.chain peer.address }
  | setOutboundLimit {limit : UInt64} {now : Timestamp} :
      Does m (.setOutboundLimit limit now) .done
        { m with outbound := m.outbound.setLimit limit now }
  | setInboundLimit {chain : ChainId} {limit : UInt64} {now : Timestamp} {existing : RateLimit}
      (found : m.inbound.find? chain = some existing) :
      Does m (.setInboundLimit chain limit now) .done
        { m with inbound := m.inbound.insert chain (existing.setLimit limit now) }
  | setPaused {paused : Bool} :
      Does m (.setPaused paused) .done { m with settings.paused := paused }
  | mint {account : Address} {amount : UInt64} {ledger : Ledger}
      (pays : Ledger.Pays .burning account amount m.ledger ledger) :
      Does m (.mint account amount) .done { m with ledger }
  | fundCustody {amount : UInt64} {ledger : Ledger}
      (funds : Ledger.Funds amount m.ledger ledger) :
      Does m (.fundCustody amount) .done { m with ledger }

/-- A peer that is refused leaves the manager as it was. -/
theorem setPeer_transacts (peer : ChainAddress) (tokenDecimals : UInt8) (inboundLimit : UInt64)
    (now : Timestamp) :
    (setPeer peer tokenDecimals inboundLimit now).Transacts m fun config m' =>
      Operation.Does m (.setPeer peer tokenDecimals inboundLimit now) (.peerSet config) m' := by
  unfold setPeer
  by_cases own : peer.chain = m.settings.chain
  · exact .refused (.ownPeer peer.chain) (by simp [runOn_bind, own])
  · exact .done _ _ (by simp [runOn_bind, own]; rfl) (.setPeer own)

/-- So does a transceiver that is refused. -/
theorem setTransceiverPeer_transacts (peer : ChainAddress) :
    (setTransceiverPeer peer).Transacts m fun registration m' =>
      Operation.Does m (.setTransceiverPeer peer) (.transceiverSet registration) m' := by
  unfold setTransceiverPeer
  by_cases own : peer.chain = m.settings.chain
  · exact .refused (.ownPeer peer.chain) (by simp [runOn_bind, own])
  · exact .done _ _ (by simp [runOn_bind, own]; rfl) (.setTransceiverPeer own)

/-- A limit is changed only where there is one. -/
theorem setInboundLimit_transacts (chain : ChainId) (limit : UInt64) (now : Timestamp) :
    (setInboundLimit chain limit now).Transacts m fun _ m' =>
      Operation.Does m (.setInboundLimit chain limit now) .done m' := by
  unfold setInboundLimit
  refine transacts_ask_bind fun existing lookup => .done () _ rfl ?_
  exact .setInboundLimit (inboundLimit_eq_ok_iff.mp lookup)

/-- **Every operation does what it is said to do**, or it is refused and changes nothing. -/
theorem Operation.perform_transacts (balanced : m.ledger.Balanced) (operation : Operation) :
    operation.perform.Transacts m (operation.Does m) := by
  cases operation with
  | transfer request now =>
      refine ((transfer_transacts balanced request now).mono ?_).map
      intro item m' _ transferred
      exact .transfer transferred
  | publish sequence now =>
      refine ((publish_transacts sequence now).mono ?_).map
      intro announcement m' _ step
      exact .publish step
  | redeem attestation now =>
      refine ((redeem_transacts balanced attestation now).mono ?_).map
      rintro redemption m' - ⟨transfer, validates, accepted⟩
      exact .redeem validates accepted
  | redeemBatch attestations now =>
      refine ((redeemBatch_transacts balanced attestations now).mono ?_).map
      rintro redemptions m' - ⟨transfers, rehearsed, accepted⟩
      exact .redeemBatch rehearsed accepted
  | payOut key now =>
      refine ((payOut_transacts key now).mono ?_).map
      intro payout m' _ step
      exact .payOut step
  | setPeer peer tokenDecimals inboundLimit now =>
      exact (setPeer_transacts peer tokenDecimals inboundLimit now).map
  | setTransceiverPeer peer => exact (setTransceiverPeer_transacts peer).map
  | setOutboundLimit limit now => exact .done .done _ rfl .setOutboundLimit
  | setInboundLimit chain limit now => exact (setInboundLimit_transacts chain limit now).map
  | setPaused paused => exact .done .done _ rfl .setPaused
  | mint account amount =>
      refine ((onLedger_transacts (Ledger.mint_transacts account amount m.ledger)).mono ?_).map
      rintro - m' - ⟨ledger, rfl, pays⟩
      exact .mint pays
  | fundCustody amount =>
      refine ((onLedger_transacts (Ledger.fundCustody_transacts amount m.ledger)).mono ?_).map
      rintro - m' - ⟨ledger, rfl, funds⟩
      exact .fundCustody funds

/-- **An event is refused without a trace**, or its operation has done what it is said to do. -/
theorem Event.refused_or_does (e : Event) (balanced : e.before.ledger.Balanced) :
    (∃ fault, e.outcome = .error fault ∧ e.after = e.before) ∨
      ∃ reply, e.outcome = .ok reply ∧ e.operation.Does e.before reply e.after := by
  cases Operation.perform_transacts balanced e.operation with
  | refused fault runs => exact .inl ⟨fault, congrArg Prod.fst runs, congrArg Prod.snd runs⟩
  | done reply m' runs does =>
      have after : e.after = m' := congrArg Prod.snd runs
      exact .inr ⟨reply, congrArg Prod.fst runs, after ▸ does⟩

/-! ### Operations as traces -/

/-- **How moves explain a reply.**  They lead from one manager to the other, they are the effects
that the reply tells of, what they take in is what the attestations were found to say, and a
transfer that was sent is the only move. -/
structure Operation.Explains (operation : Operation) (reply : Reply) (moves : List Move)
    (m m' : Manager) : Prop where
  trace : Trace m moves m'
  effects : moves.filterMap Move.effect? = operation.effects reply
  received : List.Forall₂ (fun attestation transfer => m.validate attestation = .ok transfer)
    operation.attestations (moves.filterMap Move.received?)
  sends : ∀ item, .sent item ∈ operation.effects reply → ∃ amount, Step m (.send item amount) m'

/-- A move that takes nothing in explains the reply it is the effect of. -/
private theorem explains_of_step {operation : Operation} {reply : Reply} {move : Move}
    (step : Step m move m') (effects : move.effect?.toList = operation.effects reply)
    (unattested : operation.attestations = []) (received : move.received? = none) :
    operation.Explains reply [move] m m' := by
  refine ⟨.single step, ?_, ?_, ?_⟩
  · rw [← effects]
    cases effect : move.effect? with
    | none => exact List.filterMap_cons_none effect
    | some _ => exact List.filterMap_cons_some effect
  · rw [unattested, List.filterMap_cons_none received]
    exact .nil
  · intro item mem
    rw [← effects] at mem
    cases move with
    | send sent amount =>
        cases List.mem_singleton.mp mem
        exact ⟨amount, step⟩
    | pay | announce | mint | fund => cases List.mem_singleton.mp mem
    | receive | configure => cases mem

/-- What accepts transfers explains the reply that lists its payouts. -/
private theorem Accepts.explains {operation : Operation} {reply : Reply}
    {transfers : List ValidTransfer} {payouts : List Payout}
    (accepts : Accepts m transfers payouts m')
    (effects : operation.effects reply = payouts.map .paid)
    (valid : List.Forall₂ (fun attestation transfer => m.validate attestation = .ok transfer)
      operation.attestations transfers) :
    ∃ moves, operation.Explains reply moves m m' := by
  obtain ⟨moves, trace, received, paid⟩ := accepts.moves
  refine ⟨moves, trace, paid.trans effects.symm, received ▸ valid, ?_⟩
  intro item mem
  rw [effects] at mem
  obtain ⟨_, -, absurd⟩ := List.mem_map.mp mem
  cases absurd

/-- Whatever is set up, it is one move: what keeps the value of a manager and all that is set up
once. -/
private theorem step_setUp (fixed : m'.fixed = m.fixed) (ledger : m'.ledger = m.ledger)
    (inbox : m'.inbox = m.inbox) (outbox : m'.outbox = m.outbox)
    (nextSequence : m'.nextSequence = m.nextSequence) : Step m .configure m' := by
  have settings : m'.settings = { m.settings with paused := m'.settings.paused } := by
    show { m'.fixed with paused := m'.settings.paused } =
      { m.fixed with paused := m'.settings.paused }
    rw [fixed]
  obtain ⟨_, _, peers, transceivers, outbound, inbound, _, _, _⟩ := m'
  dsimp only at settings ledger inbox outbox nextSequence
  subst ledger inbox outbox nextSequence
  rw [settings]
  exact .configure

/-- **What an operation does is a trace** that explains its reply. -/
theorem Operation.Does.exists_explains {operation : Operation} {reply : Reply}
    (does : operation.Does m reply m') : ∃ moves, operation.Explains reply moves m m' := by
  cases does with
  | transfer transferred =>
      obtain ⟨amount, step⟩ := transferred.step
      exact ⟨_, explains_of_step step rfl rfl rfl⟩
  | publish step => exact ⟨_, explains_of_step step rfl rfl rfl⟩
  | redeem validates accepted =>
      have valid := validated_of_validate validates
      exact (accepted.accepts valid.absent valid.suits).explains rfl (.cons validates .nil)
  | redeemBatch rehearsed accepted => exact accepted.accepts.explains rfl rehearsed.valid
  | payOut step => exact ⟨_, explains_of_step step rfl rfl rfl⟩
  | setPeer foreign =>
      exact ⟨_, explains_of_step (step_setUp rfl rfl rfl rfl rfl) rfl rfl rfl⟩
  | setTransceiverPeer foreign =>
      exact ⟨_, explains_of_step (step_setUp rfl rfl rfl rfl rfl) rfl rfl rfl⟩
  | setOutboundLimit =>
      exact ⟨_, explains_of_step (step_setUp rfl rfl rfl rfl rfl) rfl rfl rfl⟩
  | setInboundLimit found =>
      exact ⟨_, explains_of_step (step_setUp rfl rfl rfl rfl rfl) rfl rfl rfl⟩
  | setPaused =>
      exact ⟨_, explains_of_step (step_setUp rfl rfl rfl rfl rfl) rfl rfl rfl⟩
  | mint pays => exact ⟨_, explains_of_step (.mint pays) rfl rfl rfl⟩
  | fundCustody funds => exact ⟨_, explains_of_step (.fund funds) rfl rfl rfl⟩

/-! ### Events and runs -/

/-- **An event is refused without a trace, or its reply is explained.** -/
theorem Event.refused_or_explained (e : Event) (balanced : e.before.ledger.Balanced) :
    (∃ fault, e.outcome = .error fault ∧ e.after = e.before ∧ e.effects = []) ∨
      ∃ reply moves, e.outcome = .ok reply ∧ e.effects = e.operation.effects reply ∧
        e.operation.Explains reply moves e.before e.after := by
  rcases e.refused_or_does balanced with ⟨fault, refused, same⟩ | ⟨reply, replied, does⟩
  · exact .inl ⟨fault, refused, same, by rw [Event.effects, refused]⟩
  · obtain ⟨moves, explains⟩ := does.exists_explains
    exact .inr ⟨reply, moves, replied, by rw [Event.effects, replied], explains⟩

/-- A transfer that was sent is the only move of its event. -/
theorem Event.sent_of_mem (e : Event) (balanced : e.before.ledger.Balanced) {item : OutboxItem}
    (mem : .sent item ∈ e.effects) : ∃ amount, Step e.before (.send item amount) e.after := by
  rcases e.refused_or_explained balanced with
    ⟨fault, -, -, none⟩ | ⟨reply, moves, -, effects, explains⟩
  · rw [none] at mem
    cases mem
  · rw [effects] at mem
    exact explains.sends item mem

/-- What a transfer was sent for is what it has done. -/
theorem Event.transferred_of_sent (e : Event) (balanced : e.before.ledger.Balanced)
    {request : TransferRequest} {now : Timestamp} {item : OutboxItem}
    (operation : e.operation = .transfer request now) (sent : .sent item ∈ e.effects) :
    Transferred e.before request now item e.after := by
  rcases e.refused_or_does balanced with ⟨fault, refused, -⟩ | ⟨reply, replied, does⟩
  · rw [Event.effects, refused] at sent
    cases sent
  · rw [Event.effects, replied, operation] at sent
    rw [operation] at does
    generalize e.after = after at does ⊢
    cases does with
    | transfer transferred =>
        cases List.mem_singleton.mp sent
        exact transferred

/-- The moves of an event, and the effects they are. -/
theorem Event.exists_trace (e : Event) (balanced : e.before.ledger.Balanced) :
    ∃ moves, Trace e.before moves e.after ∧ moves.filterMap Move.effect? = e.effects := by
  rcases e.refused_or_explained balanced with
    ⟨fault, -, same, none⟩ | ⟨reply, moves, -, effects, explains⟩
  · exact ⟨[], by rw [same]; exact .nil, none.symm⟩
  · exact ⟨moves, explains.trace, explains.effects.trans effects.symm⟩

/-- No event takes the accounts beyond the totals, whether it was refused or not. -/
theorem Event.balanced_after (e : Event) (balanced : e.before.ledger.Balanced) :
    e.after.ledger.Balanced := by
  obtain ⟨moves, trace, -⟩ := e.exists_trace balanced
  exact trace.balanced balanced

/-- No event changes what is set up once. -/
theorem Event.fixed_eq (e : Event) (balanced : e.before.ledger.Balanced) :
    e.after.fixed = e.before.fixed := by
  obtain ⟨moves, trace, -⟩ := e.exists_trace balanced
  exact trace.fixed_eq

/-- **A run is a trace**, and the effects of the run are the effects of its moves. -/
theorem exists_trace (balanced : m.ledger.Balanced) (run : List Operation) :
    ∃ moves, Trace m moves (m.after run) ∧ moves.filterMap Move.effect? = m.effects run := by
  induction run generalizing m with
  | nil => exact ⟨[], .nil, rfl⟩
  | cons operation rest ih =>
      obtain ⟨moves, trace, effects⟩ := Event.exists_trace ⟨m, operation⟩ balanced
      obtain ⟨moves', trace', effects'⟩ := ih (trace.balanced balanced)
      refine ⟨moves ++ moves', trace.append trace', ?_⟩
      rw [List.filterMap_append, effects, effects', effects_cons]

/-- **Totals over a run.**  If every step changes a quantity by what its effect weighs, a run
changes it by the weight of its effects. -/
theorem sum_effects (balanced : m.ledger.Balanced) (run : List Operation)
    (quantity : Manager → Nat) (gained lost : Effect → Nat)
    (counted : ∀ {before after : Manager} {move : Move}, Step before move after →
      before.fixed = m.fixed →
      quantity after + move.effect?.elim 0 lost = quantity before + move.effect?.elim 0 gained) :
    quantity (m.after run) + ((m.effects run).map lost).sum =
      quantity m + ((m.effects run).map gained).sum := by
  obtain ⟨moves, trace, effects⟩ := exists_trace balanced run
  rw [← effects]
  exact trace.sum_eq quantity gained lost counted

/-- **Invariants of runs.**  What every step keeps, a run keeps. -/
theorem invariant {P : Manager → Prop} (balanced : m.ledger.Balanced) (run : List Operation)
    (kept : ∀ {m m' : Manager} {move : Move}, Step m move m' → P m → P m') (holds : P m) :
    P (m.after run) := by
  obtain ⟨moves, trace, -⟩ := exists_trace balanced run
  exact trace.invariant kept holds

/-- The same of what every event keeps.  Events also tell what becomes of the limits, which steps
leave open. -/
theorem invariant_of_events {P : Manager → Prop} (balanced : m.ledger.Balanced)
    (run : List Operation)
    (kept : ∀ e : Event, e.before.ledger.Balanced → P e.before → P e.after) (holds : P m) :
    P (m.after run) := by
  induction run generalizing m with
  | nil => exact holds
  | cons operation rest ih =>
      exact ih (Event.balanced_after ⟨m, operation⟩ balanced)
        (kept ⟨m, operation⟩ balanced holds)

/-- What holds before each event of a run. -/
theorem before_of_mem_events (balanced : m.ledger.Balanced) {run : List Operation} {e : Event}
    (mem : e ∈ m.events run) : e.before.ledger.Balanced ∧ e.before.fixed = m.fixed := by
  obtain ⟨earlier, _, -, before⟩ := exists_before_of_mem_events mem
  obtain ⟨moves, trace, -⟩ := exists_trace balanced earlier
  rw [before]
  exact ⟨trace.balanced balanced, trace.fixed_eq⟩

theorem balanced_start (settings : Settings) (outboundLimit : UInt64) (now : Timestamp) :
    (start settings outboundLimit now).ledger.Balanced := Ledger.balanced_empty

/-- **The accounts are within the totals** after any run. -/
theorem Reachable.balanced (h : m.Reachable) : m.ledger.Balanced := by
  obtain ⟨settings, outboundLimit, now, run, rfl⟩ := h
  have balanced := balanced_start settings outboundLimit now
  exact invariant balanced run (fun step => step.balanced) balanced

end Manager

end TokenTransfer
