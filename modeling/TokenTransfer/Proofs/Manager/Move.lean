import TokenTransfer.Proofs.Ledger
import TokenTransfer.Proofs.Manager.Run

/-!
# Moves of value

Whatever operation it comes from, value moves in a manager in few ways: a transfer enters the inbox,
a transfer in the inbox is paid, a sender's tokens go into the outbox, a transfer in the outbox is
announced, and tokens are minted or funded from outside.  `Step` says of each of these moves what it
asks of the manager and what it leaves behind, and a `Trace` is a sequence of them.

The invariants of a manager are proved of steps and carried to runs by the induction on traces that
this module packages (`Trace.invariant`, `Trace.sum_eq`).  That every operation is a trace, which is
where the operations themselves are taken apart, is proved once, in the modules on sending and
receiving.

A step leaves open what becomes of the rate limits, the peers and the pause switch.  None of the
invariants on value depends on them: limits decide when a move may happen and not what it does.
-/

namespace TokenTransfer

/-- The transfer is bound for this chain, and its amount is what its message says, in units of the
local token. -/
structure ValidTransfer.Suits (transfer : ValidTransfer) (settings : Settings) : Prop where
  addressed : transfer.message.payload.recipientChain = settings.chain
  worth : transfer.message.payload.amount.untrim settings.tokenDecimals = .ok transfer.amount.toNat

/-- The inbox entry of a checked transfer that is approved for release at `time`. -/
def ValidTransfer.entry (transfer : ValidTransfer) (time : Timestamp) : InboxItem :=
  { InboxItem.ofMessage transfer.fromChain transfer.message transfer.amount with
    status := .releaseAfter time }

/-- The entry of a transfer is filed under the key that the transfer was checked for. -/
theorem ValidTransfer.key_entry (transfer : ValidTransfer) (time : Timestamp) :
    (transfer.entry time).key = transfer.key := rfl

/-- The key of the transfer that was paid. -/
def Payout.key (payout : Payout) : TransferKey := ⟨payout.fromChain, payout.id⟩

/-- The payout of an inbox entry under a key. -/
def InboxItem.payout (item : InboxItem) (key : TransferKey) : Payout :=
  { fromChain := key.chain, id := key.id, recipient := item.recipient, amount := item.amount }

/-- A payout names the key of the entry that it pays. -/
theorem InboxItem.key_payout (item : InboxItem) (key : TransferKey) :
    (item.payout key).key = key := rfl

namespace Manager

/-- The ways in which value moves. -/
inductive Move where
  | receive (transfer : ValidTransfer) (time : Timestamp)
  | pay (payout : Payout) (now : Timestamp)
  | send (item : OutboxItem) (amount : UInt64)
  | announce (sequence : UInt64) (announcement : Announcement) (now : Timestamp)
  | mint (account : Address) (amount : UInt64)
  | fund (amount : UInt64)
  | configure

/-- What callers are told of a move.  That a transfer has entered the inbox is not an effect: what
is paid for it is. -/
def Move.effect? : Move → Option Effect
  | .receive _ _ | .configure => none
  | .pay payout _ => some (.paid payout)
  | .send item _ => some (.sent item)
  | .announce _ announcement _ => some (.announced announcement)
  | .mint account amount => some (.minted account amount)
  | .fund amount => some (.funded amount)

/-- The weight of the effects of some moves is that of the first and those of the rest. -/
theorem sum_effects_cons (weight : Effect → Nat) (move : Move) (moves : List Move) :
    (((move :: moves).filterMap Move.effect?).map weight).sum =
      move.effect?.elim 0 weight + ((moves.filterMap Move.effect?).map weight).sum := by
  cases effect : move.effect? with
  | none => rw [List.filterMap_cons_none effect, Option.elim_none, Nat.zero_add]
  | some value =>
      rw [List.filterMap_cons_some effect, List.map_cons, List.sum_cons, Option.elim_some]

/-- The transfer that a move takes in. -/
def Move.received? : Move → Option ValidTransfer
  | .receive transfer _ => some transfer
  | _ => none

/-- **One move**, with what it asks of the manager and what it leaves behind. -/
inductive Step : Manager → Move → Manager → Prop
  /-- A transfer enters the inbox under a key that is not in use. -/
  | receive {m : Manager} {transfer : ValidTransfer} {time : Timestamp}
      {inbound : Table ChainId RateLimit} {outbound : RateLimit}
      (absent : m.inbox.find? transfer.key = none) (suits : transfer.Suits m.settings) :
      Step m (.receive transfer time)
        { m with
          inbound, outbound
          inbox := m.inbox.insert transfer.key (transfer.entry time) }
  /-- A transfer that waits in the inbox and is due is paid to its recipient. -/
  | pay {m : Manager} {key : TransferKey} {item : InboxItem} {time now : Timestamp}
      {ledger : Ledger} (found : m.inbox.find? key = some item)
      (waits : item.status = .releaseAfter time) (due : ¬ now < time)
      (pays : Ledger.Pays m.settings.mode item.recipient item.amount m.ledger ledger) :
      Step m (.pay (item.payout key) now)
        { m with ledger, inbox := m.inbox.insert key { item with status := .released } }
  /-- A sender's tokens are taken, and the transfer enters the outbox under the next number.  Its
  amount is kept in the decimals that this token and the peer's both have. -/
  | send {m : Manager} {item : OutboxItem} {amount : UInt64} {peer : Peer} {ledger : Ledger}
      {inbound : Table ChainId RateLimit} {outbound : RateLimit}
      (numbered : item.sequence = m.nextSequence) (unreleased : item.released = false)
      (known : m.peers.find? item.recipient.chain = some peer)
      (decimals : item.amount.decimals =
        Amount.keptDecimals m.settings.tokenDecimals peer.tokenDecimals)
      (worth : item.amount.untrim m.settings.tokenDecimals = .ok amount.toNat)
      (takes : Ledger.Takes m.settings.mode item.sender amount m.ledger ledger) :
      Step m (.send item amount)
        { m with
          ledger, inbound, outbound
          outbox := m.outbox.insert m.nextSequence item
          nextSequence := m.nextSequence + 1 }
  /-- A transfer in the outbox that is due is announced to the peer on its destination. -/
  | announce {m : Manager} {sequence : UInt64} {item : OutboxItem} {peer : Peer} {now : Timestamp}
      (found : m.outbox.find? sequence = some item) (unreleased : item.released = false)
      (due : ¬ now < item.releaseTime)
      (known : m.peers.find? item.recipient.chain = some peer) :
      Step m (.announce sequence (m.announcement peer sequence item) now)
        { m with outbox := m.outbox.insert sequence { item with released := true } }
  /-- Tokens are minted to an account. -/
  | mint {m : Manager} {account : Address} {amount : UInt64} {ledger : Ledger}
      (pays : Ledger.Pays .burning account amount m.ledger ledger) :
      Step m (.mint account amount) { m with ledger }
  /-- Tokens are minted into custody. -/
  | fund {m : Manager} {amount : UInt64} {ledger : Ledger}
      (funds : Ledger.Funds amount m.ledger ledger) :
      Step m (.fund amount) { m with ledger }
  /-- Peers, limits or the pause switch are set. -/
  | configure {m : Manager} {peers : Table ChainId Peer} {transceivers : Table ChainId Address}
      {inbound : Table ChainId RateLimit} {outbound : RateLimit} {paused : Bool} :
      Step m .configure
        { m with settings.paused := paused, peers, transceivers, inbound, outbound }

/-- All that is set up once: the settings without the pause switch. -/
def fixed (m : Manager) : Settings := { m.settings with paused := false }

section Fixed

variable {m m' : Manager} (same : m'.fixed = m.fixed)

include same

theorem chain_eq_of_fixed_eq : m'.settings.chain = m.settings.chain := by
  show m'.fixed.chain = m.fixed.chain
  rw [same]

theorem mode_eq_of_fixed_eq : m'.settings.mode = m.settings.mode := by
  show m'.fixed.mode = m.fixed.mode
  rw [same]

theorem tokenDecimals_eq_of_fixed_eq : m'.settings.tokenDecimals = m.settings.tokenDecimals := by
  show m'.fixed.tokenDecimals = m.fixed.tokenDecimals
  rw [same]

theorem manager_eq_of_fixed_eq : m'.settings.manager = m.settings.manager := by
  show m'.fixed.manager = m.fixed.manager
  rw [same]

theorem transceiver_eq_of_fixed_eq : m'.settings.transceiver = m.settings.transceiver := by
  show m'.fixed.transceiver = m.fixed.transceiver
  rw [same]

theorem tags_eq_of_fixed_eq : m'.settings.tags = m.settings.tags := by
  show m'.fixed.tags = m.fixed.tags
  rw [same]

end Fixed

/-- No move changes what is set up once. -/
theorem Step.fixed_eq {m m' : Manager} {move : Move} (step : Step m move m') :
    m'.fixed = m.fixed := by
  cases step with
  | _ => rfl

/-- **A sequence of moves.** -/
inductive Trace : Manager → List Move → Manager → Prop
  | nil {m : Manager} : Trace m [] m
  | cons {m m' m'' : Manager} {move : Move} {moves : List Move}
      (step : Step m move m') (rest : Trace m' moves m'') : Trace m (move :: moves) m''

namespace Trace

variable {m m' m'' : Manager} {move : Move} {moves moves' : List Move}

theorem single (step : Step m move m') : Trace m [move] m' := .cons step .nil

theorem append (first : Trace m moves m') (second : Trace m' moves' m'') :
    Trace m (moves ++ moves') m'' := by
  induction first with
  | nil => exact second
  | cons step _ ih => exact .cons step (ih second)

/-- **Invariants.**  What every step keeps, a trace keeps. -/
theorem invariant {P : Manager → Prop}
    (kept : ∀ {m m' : Manager} {move : Move}, Step m move m' → P m → P m')
    (trace : Trace m moves m') (holds : P m) : P m' := by
  induction trace with
  | nil => exact holds
  | cons step _ ih => exact ih (kept step holds)

/-- So what is set up once is the same after any moves. -/
theorem fixed_eq (trace : Trace m moves m') : m'.fixed = m.fixed :=
  trace.invariant (P := fun after => after.fixed = m.fixed)
    (fun step same => step.fixed_eq.trans same) rfl

/-- **Totals.**  If every step changes a quantity by what its effect weighs, a trace changes it by
the weight of all its effects. -/
theorem sum_eq (quantity : Manager → Nat) (gained lost : Effect → Nat)
    (counted : ∀ {before after : Manager} {move : Move}, Step before move after →
      before.fixed = m.fixed →
      quantity after + move.effect?.elim 0 lost = quantity before + move.effect?.elim 0 gained)
    (trace : Trace m moves m') :
    quantity m' + ((moves.filterMap Move.effect?).map lost).sum =
      quantity m + ((moves.filterMap Move.effect?).map gained).sum := by
  induction trace with
  | nil => rfl
  | @cons m m' m'' move moves step rest ih =>
      have change := counted step rfl
      have ih := ih fun next same => counted next (same.trans step.fixed_eq)
      rw [sum_effects_cons, sum_effects_cons]
      omega

end Trace

/-! ### Conservation -/

/-- **Conservation** is kept by every move. -/
theorem Step.balanced {m m' : Manager} {move : Move} (step : Step m move m')
    (h : m.ledger.Balanced) : m'.ledger.Balanced := by
  cases step with
  | pay found waits due pays => exact pays.balanced h
  | send numbered unreleased known decimals worth takes => exact takes.balanced h
  | mint pays => exact pays.balanced h
  | fund funds => exact funds.balanced h
  | receive | announce | configure => exact h

/-- Every move keeps the accounts within the totals. -/
theorem Trace.balanced {m m' : Manager} {moves : List Move} (trace : Trace m moves m')
    (h : m.ledger.Balanced) : m'.ledger.Balanced :=
  trace.invariant (fun step => step.balanced) h

end Manager

end TokenTransfer
