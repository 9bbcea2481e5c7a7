import TokenTransfer.Proofs.Manager.Pause
import TokenTransfer.Proofs.Node.Operations

/-!
# Nothing moves while a node is paused

A pause begins with a turn that pauses the node and ends with one that resumes it.  In between the
node may be asked anything and told anything but to bring in tokens from outside, in any order and at
any time.  A step of such a run keeps what has to be kept (`Turn.rests`), so the run does
(`rests_of_mem_turns`), and neither the turn before nor the turn after it moves anything either.

## Main definitions

* `Rests` - nothing has moved on a node
* `Operation.moves` - whether an operation is to move value or to announce it
* `Operation.duringPause` - whether an operation leaves a pause as it is
* `PauseHolds` - what a pause keeps

## Main statements

* `pauseHolds` - every pause keeps it, on every node
-/

namespace TokenTransfer

namespace Node

variable {node node' node'' : Node}

/-! ### Nodes at rest -/

/-- **Nothing has moved on a node**, and it offers what it has offered. -/
structure Rests (node node' : Node) : Prop where
  idle : Manager.Idle node.manager node'.manager
  capabilities : node'.capabilities = node.capabilities

theorem Rests.refl (node : Node) : Rests node node := ⟨.refl node.manager, rfl⟩

theorem Rests.trans (first : Rests node node') (second : Rests node' node'') : Rests node node'' :=
  ⟨first.idle.trans second.idle, second.capabilities.trans first.capabilities⟩

/-- What waits is seen as before. -/
theorem Rests.inboundQueued_eq (rests : Rests node node') (fromChain : ChainId)
    (message : ManagerMessage Transfer) :
    node'.inboundQueued fromChain message = node.inboundQueued fromChain message := by
  unfold inboundQueued require
  rw [rests.capabilities, rests.idle.inbox]

/-- And so is what waits to go out. -/
theorem Rests.outboundQueued_eq (rests : Rests node node') (sequence : UInt64) :
    node'.outboundQueued sequence = node.outboundQueued sequence := by
  unfold outboundQueued require
  rw [rests.capabilities, rests.idle.outbox]

/-! ### Operations during a pause -/

/-- Whether an operation is to move value or to announce it.  To redeem nothing does neither. -/
def Operation.moves : Operation → Bool
  | transfer .. | completeInbound .. | completeOutbound .. => true
  | redeem attestations _ => !attestations.isEmpty
  | _ => false

/-- Whether an operation leaves a pause as it is: it neither resumes the node nor brings in tokens
from outside, which a pause does not prevent. -/
def Operation.duringPause : Operation → Bool
  | setPaused paused => paused
  | mint .. | fundCustody .. => false
  | _ => true

/-- What a node hands on is told apart by the manager in the same way. -/
theorem Operation.told_eq {operation : Operation} {told : Manager.Operation}
    (hands : operation.manager? = some told) :
    told.moves = operation.moves ∧ told.duringPause = operation.duringPause := by
  cases operation with
  | transfer | inquire => cases hands
  | _ =>
      cases hands
      exact ⟨rfl, rfl⟩

section Paused

variable {events : List Event} (paused : node.manager.settings.paused = true)

include paused

/-- **Nothing moves on a paused node**, and what it does is not to move anything. -/
theorem Operation.perform_rests {operation : Operation} (during : operation.duringPause = true) :
    Settles operation.perform node events fun _ node' =>
      Rests node node' ∧ node'.manager.settings.paused = true ∧ operation.moves = false := by
  cases hands : operation.manager? with
  | some told =>
      obtain ⟨moves, leaves⟩ := told_eq hands
      have idle := Manager.Operation.perform_idle paused (leaves.trans during)
      refine (perform_hands hands idle).mono ?_
      rintro _ _ ⟨m, rfl, idle, paused', still⟩
      exact ⟨⟨idle, rfl⟩, paused', moves.symm.trans still⟩
  | none =>
      cases operation with
      | transfer sender amount recipient options now =>
          refine Settles.map (settles_of_transacts (transacts_ask_bind fun hint _ =>
            transacts_ask_bind fun request _ => ?_))
          -- The manager refuses, so there is nothing to go on with.
          have idle := @Manager.Operation.perform_idle node.manager
            (.transfer { sender, amount, recipient, mayQueue := options.queue, hint } now) paused rfl
          refine Fallible.Transacts.bind ((transacts_onManager idle.of_map).mono ?_)
          rintro _ _ - ⟨_, -, -, -, still⟩
          cases still
      | inquire question =>
          refine (inquire_settles question).mono ?_
          rintro _ _ ⟨_, _, _, rfl⟩
          exact ⟨.refl _, paused, rfl⟩
      | _ => cases hands

end Paused

/-! ### Turns and runs -/

/-- **A turn during a pause** leaves the node at rest and paused, and what is to move is refused. -/
theorem Turn.rests (t : Turn) (paused : t.before.manager.settings.paused = true)
    (during : t.operation.duringPause = true) :
    Rests t.before t.after ∧ t.after.manager.settings.paused = true ∧
      (t.operation.moves = true → ∃ fault, t.outcome = .error fault) := by
  rcases t.refused_or_done (Operation.perform_rests paused during) with
    ⟨fault, refused, same⟩ | ⟨reply, replied, rests, paused', still⟩
  · rw [same]
    exact ⟨.refl t.before, paused, fun _ => ⟨fault, refused⟩⟩
  · exact ⟨rests, paused', fun moves => Bool.noConfusion (still.symm.trans moves)⟩

/-- **Every turn of a run during a pause** leaves the node at rest, and so does the run. -/
theorem rests_of_mem_turns {run : List Operation} (paused : node.manager.settings.paused = true)
    (during : ∀ operation ∈ run, operation.duringPause = true) :
    Rests node (node.after run) ∧ ∀ t ∈ node.turns run, Rests node t.after ∧
      (t.operation.moves = true → ∃ fault, t.outcome = .error fault) := by
  induction run generalizing node with
  | nil => exact ⟨.refl node, fun t mem => absurd mem List.not_mem_nil⟩
  | cons operation rest ih =>
      -- Later turns are at rest from what this one has left, and so from the start.
      obtain ⟨first, during⟩ := List.forall_mem_cons.mp during
      obtain ⟨rests, paused', refused⟩ := Turn.rests ⟨node, operation⟩ paused first
      obtain ⟨rests', later⟩ := ih paused' during
      refine ⟨rests.trans rests', List.forall_mem_cons.mpr ⟨⟨rests, refused⟩, ?_⟩⟩
      intro t mem
      obtain ⟨rests'', refused'⟩ := later t mem
      exact ⟨rests.trans rests'', refused'⟩

/-- The pause switch leaves a node at rest. -/
theorem rests_setPaused (node : Node) (on : Bool) :
    Rests node (Turn.after ⟨node, .setPaused on⟩) := ⟨⟨rfl, rfl, rfl, rfl⟩, rfl⟩

/-! ### Pauses -/

/-- The node after a pause: paused, told what is in the run, and resumed. -/
def afterPause (node : Node) (run : List Operation) : Node :=
  node.after (.setPaused true :: run ++ [.setPaused false])

/-- **What a pause keeps.** -/
structure PauseHolds (node : Node) (run : List Operation) : Prop where
  /-- No balance, custody, supply, entry of a queue or number changes at any turn. -/
  rests : ∀ t ∈ (Turn.after ⟨node, .setPaused true⟩).turns run, Rests node t.after
  /-- Whatever is to move value or to announce it is refused. -/
  refused : ∀ t ∈ (Turn.after ⟨node, .setPaused true⟩).turns run,
    t.operation.moves = true → ∃ fault, t.outcome = .error fault
  /-- Nothing has changed either when the pause is over. -/
  resumes : Rests node (node.afterPause run)
  /-- What has waited to be paid waits for the same time. -/
  inbound : ∀ fromChain message,
    (node.afterPause run).inboundQueued fromChain message = node.inboundQueued fromChain message
  /-- What has waited to be announced waits for the same time. -/
  outbound : ∀ sequence,
    (node.afterPause run).outboundQueued sequence = node.outboundQueued sequence

/-- **Nothing moves while a node is paused**, whatever it is told. -/
theorem pauseHolds (node : Node) {run : List Operation}
    (during : ∀ operation ∈ run, operation.duringPause = true) : node.PauseHolds run := by
  have pauses := rests_setPaused node true
  obtain ⟨rests, turns⟩ :=
    @rests_of_mem_turns (Turn.after ⟨node, .setPaused true⟩) run rfl during
  have resumes : Rests node (node.afterPause run) := by
    rw [afterPause, after_append, after_cons]
    exact (pauses.trans rests).trans (rests_setPaused _ false)
  refine ⟨?_, ?_, resumes, resumes.inboundQueued_eq, resumes.outboundQueued_eq⟩
  · intro t mem
    exact pauses.trans (turns t mem).1
  · intro t mem
    exact (turns t mem).2

/-- What is tried during a pause, when the transfer that waits is due. -/
def samplePause : List Operation :=
  [.completeOutbound 0 86400, .setOutboundLimit 0 86400, .setTransceiverPeer ⟨.solana, .ofNat 32 3⟩,
    .transfer (.ofNat 32 1) 1000000000 sampleRecipient sampleOptions 86400, .setPaused true,
    .inquire (.outboundQueued 0)]

/-- A transfer that waits for a day waits for it also after the pause. -/
theorem pauseHolds_of_sample :
    sampleNode.PauseHolds samplePause ∧
      ((sampleNode.afterPause samplePause).outboundQueued 0).toOption.join.map
        OutboundQueued.releaseAfter = some 86400 := by
  have holds := @pauseHolds sampleNode samplePause (by decide)
  refine ⟨holds, ?_⟩
  rw [holds.outbound]
  decide +kernel

end Node

end TokenTransfer
