import TokenTransfer.Manager.Administration
import TokenTransfer.Manager.Receiving
import TokenTransfer.Manager.Sending

/-!
# Runs of a manager

A manager is used through its operations, and its ledger is also filled from outside: tokens are
minted to accounts and custody is funded.  A run is any list of these, each with any arguments and
any time, so a run also covers forged attestations, replays and clocks that go back.

## Main definitions

* `Manager.Operation`, `Manager.Reply` - what can be asked of a manager, and what it answers
* `Manager.Operation.perform` - an operation as an action of a manager
* `Manager.after`, `Manager.events` - where a run ends, and what happened in it
* `Manager.Effect`, `Manager.Event.effects` - the value that an event has moved, as its reply tells
* `Manager.Reachable` - what comes of a new manager by some run

An operation that fails is an event of the run too.  It has no effects, and that it has moved no
value all the same is a theorem and not part of the definitions.
-/

namespace TokenTransfer

/-- The payouts that a redemption has made, of which there is at most one. -/
def Redemption.payouts : Redemption → List Payout
  | released payout => [payout]
  | queued _ => []

namespace Manager

/-! ### Operations -/

/-- What can be asked of a manager. -/
inductive Operation where
  | transfer (request : TransferRequest) (now : Timestamp)
  | publish (sequence : UInt64) (now : Timestamp)
  | redeem (attestation : Attestation) (now : Timestamp)
  | redeemBatch (attestations : List Attestation) (now : Timestamp)
  | payOut (key : TransferKey) (now : Timestamp)
  | setPeer (peer : ChainAddress) (tokenDecimals : UInt8) (inboundLimit : UInt64) (now : Timestamp)
  | setTransceiverPeer (peer : ChainAddress)
  | setOutboundLimit (limit : UInt64) (now : Timestamp)
  | setInboundLimit (chain : ChainId) (limit : UInt64) (now : Timestamp)
  | setPaused (paused : Bool)
  | mint (account : Address) (amount : UInt64)
  | fundCustody (amount : UInt64)
deriving DecidableEq

/-- What a manager answers. -/
inductive Reply where
  | sent (item : OutboxItem)
  | announced (announcement : Announcement)
  | redeemed (redemption : Redemption)
  | redeemedAll (redemptions : List Redemption)
  | paid (payout : Payout)
  | peerSet (config : PeerConfig)
  | transceiverSet (registration : Registration)
  | done
deriving DecidableEq

/-- The value that one event has moved. -/
inductive Effect where
  | sent (item : OutboxItem)
  | announced (announcement : Announcement)
  | paid (payout : Payout)
  | minted (account : Address) (amount : UInt64)
  | funded (amount : UInt64)
deriving DecidableEq

namespace Operation

/-- An operation as an action of a manager. -/
def perform : Operation → Action Reply
  | transfer request now => Reply.sent <$> Manager.transfer request now
  | publish sequence now => Reply.announced <$> Manager.publish sequence now
  | redeem attestation now => Reply.redeemed <$> Manager.redeem attestation now
  | redeemBatch attestations now => Reply.redeemedAll <$> Manager.redeemBatch attestations now
  | payOut key now => Reply.paid <$> Manager.payOut key now
  | setPeer peer tokenDecimals inboundLimit now =>
      Reply.peerSet <$> Manager.setPeer peer tokenDecimals inboundLimit now
  | setTransceiverPeer peer => Reply.transceiverSet <$> Manager.setTransceiverPeer peer
  | setOutboundLimit limit now => (fun _ => Reply.done) <$> Manager.setOutboundLimit limit now
  | setInboundLimit chain limit now =>
      (fun _ => Reply.done) <$> Manager.setInboundLimit chain limit now
  | setPaused paused => (fun _ => Reply.done) <$> Manager.setPaused paused
  | mint account amount => (fun _ => Reply.done) <$> onLedger (Ledger.mint account amount)
  | fundCustody amount => (fun _ => Reply.done) <$> onLedger (Ledger.fundCustody amount)

/-- The attestations that an operation is given. -/
def attestations : Operation → List Attestation
  | redeem attestation _ => [attestation]
  | redeemBatch attestations _ => attestations
  | _ => []

/-- The value that an operation has moved if this is its reply. -/
def effects : Operation → Reply → List Effect
  | mint account amount, _ => [.minted account amount]
  | fundCustody amount, _ => [.funded amount]
  | _, .sent item => [.sent item]
  | _, .announced announcement => [.announced announcement]
  | _, .redeemed redemption => redemption.payouts.map .paid
  | _, .redeemedAll redemptions => (redemptions.flatMap Redemption.payouts).map .paid
  | _, .paid payout => [.paid payout]
  | _, _ => []

end Operation

/-! ### Events -/

/-- An operation and the manager on which it was performed. -/
structure Event where
  before : Manager
  operation : Operation

namespace Event

/-- What came of the operation. -/
def outcome (e : Event) : Except Fault Reply := (e.operation.perform.runOn e.before).1

/-- The manager that the operation left behind. -/
def after (e : Event) : Manager := (e.operation.perform.runOn e.before).2

/-- The value that the event has moved; none if the operation was refused. -/
def effects (e : Event) : List Effect :=
  match e.outcome with
  | .ok reply => e.operation.effects reply
  | .error _ => []

end Event

namespace Effect

/-- What was minted to accounts. -/
def mintedAmount : Effect → Nat
  | minted _ amount => amount.toNat
  | _ => 0

/-- What custody was funded with. -/
def fundedAmount : Effect → Nat
  | funded amount => amount.toNat
  | _ => 0

end Effect

/-! ### Runs -/

/-- The manager after a run. -/
def after (m : Manager) (run : List Operation) : Manager :=
  run.foldl (fun m operation => Event.after ⟨m, operation⟩) m

/-- What happened in a run, in order. -/
def events : Manager → List Operation → List Event
  | _, [] => []
  | m, operation :: rest => ⟨m, operation⟩ :: events (Event.after ⟨m, operation⟩) rest

/-- The value that a run has moved, in order. -/
def effects (m : Manager) (run : List Operation) : List Effect :=
  (m.events run).flatMap Event.effects

/-- The manager is what comes of a new one by some run. -/
def Reachable (m : Manager) : Prop :=
  ∃ (settings : Settings) (outboundLimit : UInt64) (now : Timestamp) (run : List Operation),
    m = (start settings outboundLimit now).after run

@[simp] theorem after_nil (m : Manager) : m.after [] = m := rfl

@[simp] theorem after_cons (m : Manager) (operation : Operation) (rest : List Operation) :
    m.after (operation :: rest) = (Event.after ⟨m, operation⟩).after rest := rfl

/-- A run may be made in two parts. -/
theorem after_append (m : Manager) (earlier later : List Operation) :
    m.after (earlier ++ later) = (m.after earlier).after later := by
  simp [after]

/-- What happens in two parts of a run happens in the run. -/
theorem events_append (m : Manager) (earlier later : List Operation) :
    m.events (earlier ++ later) = m.events earlier ++ (m.after earlier).events later := by
  induction earlier generalizing m with
  | nil => rfl
  | cons operation rest ih => exact congrArg _ (ih _)

@[simp] theorem effects_cons (m : Manager) (operation : Operation) (rest : List Operation) :
    m.effects (operation :: rest) =
      Event.effects ⟨m, operation⟩ ++ (Event.after ⟨m, operation⟩).effects rest := rfl

/-- A run moves what its two parts move. -/
theorem effects_append (m : Manager) (earlier later : List Operation) :
    m.effects (earlier ++ later) = m.effects earlier ++ (m.after earlier).effects later := by
  unfold effects
  rw [events_append, List.flatMap_append]

/-- Each event of a run starts where the part of the run before it ends. -/
theorem exists_before_of_mem_events {m : Manager} {run : List Operation} {e : Event}
    (mem : e ∈ m.events run) :
    ∃ earlier later, run = earlier ++ e.operation :: later ∧ e.before = m.after earlier := by
  induction run generalizing m with
  | nil => cases mem
  | cons operation rest ih =>
      rcases List.mem_cons.mp mem with rfl | mem
      · exact ⟨[], rest, rfl, rfl⟩
      · obtain ⟨earlier, later, split, before⟩ := ih mem
        exact ⟨operation :: earlier, later, by rw [split]; rfl, before⟩

/-- A run goes up to an event, and from what it has left behind. -/
theorem exists_split_of_mem_events {m : Manager} {run : List Operation} {e : Event}
    (mem : e ∈ m.events run) :
    ∃ earlier later, e.before = m.after earlier ∧ m.after run = e.after.after later ∧
      m.events run = m.events earlier ++ e :: e.after.events later := by
  obtain ⟨earlier, later, rfl, before⟩ := exists_before_of_mem_events mem
  have same : e = ⟨m.after earlier, e.operation⟩ := by rw [← before]
  have after : e.after = Event.after ⟨m.after earlier, e.operation⟩ := congrArg Event.after same
  refine ⟨earlier, later, before, ?_, ?_⟩
  · rw [after_append, after_cons, after]
  · rw [events_append, events, ← after, ← same]

theorem reachable_start (settings : Settings) (outboundLimit : UInt64) (now : Timestamp) :
    (start settings outboundLimit now).Reachable :=
  ⟨settings, outboundLimit, now, [], rfl⟩

/-- A run leads from reachable managers to reachable managers. -/
theorem Reachable.after {m : Manager} (h : m.Reachable) (run : List Operation) :
    (m.after run).Reachable := by
  obtain ⟨settings, outboundLimit, now, earlier, rfl⟩ := h
  exact ⟨settings, outboundLimit, now, earlier ++ run, (after_append _ _ _).symm⟩

/-- Every event of a run finds a reachable manager. -/
theorem Reachable.of_mem_events {m : Manager} (h : m.Reachable) {run : List Operation} {e : Event}
    (mem : e ∈ m.events run) : e.before.Reachable := by
  obtain ⟨earlier, later, -, before⟩ := exists_before_of_mem_events mem
  rw [before]
  exact h.after earlier

/-! ### A manager to look at -/

/-- Settings that differ in what matters to the other side.  The addresses are `seed` and the two
numbers after it. -/
def sampleSettings (chain : ChainId) (mode : Mode) (tokenDecimals : UInt8) (seed : Nat) :
    Settings where
  chain := chain
  mode := mode
  tokenDecimals := tokenDecimals
  manager := .ofNat 32 seed
  token := .ofNat 32 (seed + 1)
  transceiver := .ofNat 32 (seed + 2)
  duration := RateLimit.defaultDuration
  tags := [Tag.wormhole]
  paused := false

/-- Sets up another manager as the peer on its chain. -/
def peering (other : Settings) : List Operation :=
  [.setPeer ⟨other.chain, other.manager⟩ other.tokenDecimals 5000000000 0,
    .setTransceiverPeer ⟨other.chain, other.transceiver⟩]

/-- A locked token with nine decimals. -/
def sampleSource : Settings := sampleSettings .ethereum .locking 9 16

/-- Its counterpart with six decimals, which is minted and burned. -/
def sampleTarget : Settings := sampleSettings .solana .burning 6 32

/-- A transfer whose last three digits are dust on the other side. -/
def sampleRequest : TransferRequest where
  sender := .ofNat 32 1
  amount := 1234567891
  recipient := ⟨.solana, .ofNat 32 2⟩
  mayQueue := false
  hint := none

/-- The tokens are minted, sent and announced. -/
def sampleRun : List Operation :=
  peering sampleTarget ++
    [.mint sampleRequest.sender 3000000000, .transfer sampleRequest 0, .publish 0 0]

/-- The manager that has sent and announced a transfer. -/
def sampleManager : Manager := (start sampleSource 5000000000 0).after sampleRun

theorem reachable_sampleManager : sampleManager.Reachable :=
  (reachable_start sampleSource 5000000000 0).after sampleRun

/-- The manager that waits for transfers from it. -/
def sampleReceiver : Manager := (start sampleTarget 5000000000 0).after (peering sampleSource)

theorem reachable_sampleReceiver : sampleReceiver.Reachable :=
  (reachable_start sampleTarget 5000000000 0).after (peering sampleSource)

/-- The attestation of a transfer to the receiver, under the id that `id` denotes. -/
def sampleDelivery (id : Nat) (units : UInt64) : Attestation where
  emitterChain := sampleSource.chain
  emitter := sampleSource.transceiver
  sequence := 0
  payload := Except.toOption (Announcement.toBytes
    { source := sampleSource.manager
      recipient := sampleTarget.manager
      managerPayload :=
        { id := .ofNat 32 id
          sender := .ofNat 32 1
          payload :=
            { amount := ⟨units, 6⟩
              sourceToken := sampleSource.token
              recipient := .ofNat 32 2
              recipientChain := sampleTarget.chain } }
      transceiverPayload := none }) |>.getD []

end Manager

end TokenTransfer
