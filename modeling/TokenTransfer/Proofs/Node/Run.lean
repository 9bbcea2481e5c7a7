import TokenTransfer.Node.Queries

/-!
# Runs of a node

A node is used through its operations, and asked questions in between.  A run is any list of these,
each with any arguments and any time.  What a node records of its work is kept outside of it, so every
turn starts with an empty record.

## Main definitions

* `Node.Question`, `Node.Answer` - what a node can be asked, and what it answers
* `Node.Operation`, `Node.Reply` - what a node can be told to do, and what it replies
* `Node.Turn` - an operation and the node on which it is performed
* `Node.after`, `Node.turns` - where a run ends, and what happened in it
* `Node.Reachable` - what comes of a deployment by narrowing and use
-/

namespace TokenTransfer

namespace Node

/-! ### Questions -/

/-- What a node can be asked. -/
inductive Question where
  | isRelayingAvailable (destination : ChainId)
  | quote (destination : ChainId) (options : TransferOptions)
  | version
  | custodyAddress
  | tokenDecimals
  | outboundCapacity (now : Timestamp)
  | inboundCapacity (fromChain : ChainId) (now : Timestamp)
  | isApproved (attestation : Attestation)
  | isExecuted (attestation : Attestation)
  | inboundQueued (fromChain : ChainId) (message : ManagerMessage Transfer)
  | outboundQueued (sequence : UInt64)
deriving DecidableEq

/-- What a node answers. -/
inductive Answer where
  | flag (value : Bool)
  | amount (value : UInt64)
  | text (value : String)
  | address (value : Address)
  | decimals (value : UInt8)
  | inbound (view : Option InboundQueued)
  | outbound (view : Option OutboundQueued)
deriving DecidableEq

/-- The answer to a question. -/
def answer (node : Node) : Question → Except Fault Answer
  | .isRelayingAvailable destination => .ok (.flag (node.isRelayingAvailable destination))
  | .quote destination options => Answer.amount <$> node.quote destination options
  | .version => Answer.text <$> node.version
  | .custodyAddress => Answer.address <$> node.custodyAddress
  | .tokenDecimals => Answer.decimals <$> node.tokenDecimals
  | .outboundCapacity now => Answer.amount <$> node.outboundCapacity now
  | .inboundCapacity fromChain now => Answer.amount <$> node.inboundCapacity fromChain now
  | .isApproved attestation => Answer.flag <$> node.isApproved attestation
  | .isExecuted attestation => Answer.flag <$> node.isExecuted attestation
  | .inboundQueued fromChain message => Answer.inbound <$> node.inboundQueued fromChain message
  | .outboundQueued sequence => Answer.outbound <$> node.outboundQueued sequence

/-! ### Operations -/

/-- What a node can be told to do. -/
inductive Operation where
  | transfer (sender : Address) (amount : UInt64) (recipient : ChainAddress)
      (options : TransferOptions) (now : Timestamp)
  | redeem (attestations : List Attestation) (now : Timestamp)
  | completeInbound (fromChain : ChainId) (message : ManagerMessage Transfer) (now : Timestamp)
  | completeOutbound (sequence : UInt64) (now : Timestamp)
  | setPeer (peer : ChainAddress) (tokenDecimals : UInt8) (inboundLimit : UInt64) (now : Timestamp)
  | setTransceiverPeer (peer : ChainAddress)
  | setPaused (paused : Bool)
  | setOutboundLimit (limit : UInt64) (now : Timestamp)
  | setInboundLimit (fromChain : ChainId) (limit : UInt64) (now : Timestamp)
  | mint (account : Address) (amount : UInt64)
  | fundCustody (amount : UInt64)
  | inquire (question : Question)
deriving DecidableEq

/-- What a node replies. -/
inductive Reply where
  | transactions (steps : List UnsignedTransaction)
  | answered (answer : Answer)
  | done
deriving DecidableEq

/-- An operation as an action of a node. -/
def Operation.perform : Operation → Action Reply
  | transfer sender amount recipient options now =>
      Reply.transactions <$> Node.transfer sender amount recipient options now
  | redeem attestations now => Reply.transactions <$> Node.redeem attestations now
  | completeInbound fromChain message now =>
      Reply.transactions <$> Node.completeInbound fromChain message now
  | completeOutbound sequence now => Reply.transactions <$> Node.completeOutbound sequence now
  | setPeer peer tokenDecimals inboundLimit now =>
      Reply.transactions <$> Node.setPeer peer tokenDecimals inboundLimit now
  | setTransceiverPeer peer => Reply.transactions <$> Node.setTransceiverPeer peer
  | setPaused paused => (fun _ => Reply.done) <$> Node.setPaused paused
  | setOutboundLimit limit now => (fun _ => Reply.done) <$> Node.setOutboundLimit limit now
  | setInboundLimit fromChain limit now =>
      (fun _ => Reply.done) <$> Node.setInboundLimit fromChain limit now
  | mint account amount => (fun _ => Reply.done) <$> Node.mint account amount
  | fundCustody amount => (fun _ => Reply.done) <$> Node.fundCustody amount
  | inquire question => Reply.answered <$> Node.ask (Node.answer · question)

/-! ### Turns and runs -/

/-- An operation and the node on which it is performed. -/
structure Turn where
  before : Node
  operation : Operation

namespace Turn

/-- What comes of the operation, and the node that it leaves behind with what was recorded. -/
def performed (t : Turn) : Except Fault Reply × Logged Node :=
  t.operation.perform.runOn ⟨t.before, []⟩

/-- What comes of the operation. -/
def outcome (t : Turn) : Except Fault Reply := t.performed.1

/-- The node that the operation leaves behind. -/
def after (t : Turn) : Node := t.performed.2.state

end Turn

/-- The node after a run. -/
def after (node : Node) (run : List Operation) : Node :=
  run.foldl (fun node operation => Turn.after ⟨node, operation⟩) node

/-- What happened in a run, in order. -/
def turns : Node → List Operation → List Turn
  | _, [] => []
  | node, operation :: rest => ⟨node, operation⟩ :: turns (Turn.after ⟨node, operation⟩) rest

@[simp] theorem after_cons (node : Node) (operation : Operation) (rest : List Operation) :
    node.after (operation :: rest) = (Turn.after ⟨node, operation⟩).after rest := rfl

/-- A run may be made in two parts. -/
theorem after_append (node : Node) (earlier later : List Operation) :
    node.after (earlier ++ later) = (node.after earlier).after later := by
  simp [after]

/-- **What comes of a deployment** by narrowing and use.  A counter of numbers that runs over stops
the program, so no turn leads to a lower number than there was before it. -/
inductive Reachable : Node → Prop
  | created {d : Deployment} {now : Timestamp} {logged : Logged Node}
      (creates : create d now = .ok logged) : Reachable logged.state
  | narrowed {node : Node} (reachable : Reachable node) (set : Capabilities) :
      Reachable (node.narrow set)
  | used {node : Node} (reachable : Reachable node) (operation : Operation)
      (counts : node.manager.nextSequence ≤
        (Turn.after ⟨node, operation⟩).manager.nextSequence) :
      Reachable (Turn.after ⟨node, operation⟩)

/-- A run leads from reachable nodes to reachable nodes, as long as its numbers last. -/
theorem Reachable.after {node : Node} (reachable : node.Reachable) {run : List Operation}
    (counts : ∀ t ∈ node.turns run,
      t.before.manager.nextSequence ≤ t.after.manager.nextSequence) :
    (node.after run).Reachable := by
  induction run generalizing node with
  | nil => exact reachable
  | cons operation rest ih =>
      obtain ⟨first, later⟩ := List.forall_mem_cons.mp counts
      exact ih (reachable.used operation first) later

/-! ### A node to look at -/

/-- Contracts with a quoter, which is to be paid for deliveries. -/
def sampleContracts : TokenContracts where
  manager := .ofNat 32 16
  token := .ofNat 32 17
  transceiver := { wormhole := .ofNat 32 18 }
  quoter := some (.ofNat 32 19)

/-- The deployment of a locked token with nine decimals, whose transfers a relayer delivers. -/
def sampleDeployment : Deployment where
  network := .testnet
  chain := .ethereum
  mode := .locking
  tokenDecimals := 9
  outboundLimit := 5000000000
  duration := RateLimit.defaultDuration
  tags := Deployment.defaultTags
  relayer := some { baseFee := 100, specialized := true }
  contracts := { ntt := some sampleContracts }

/-- An account on another chain. -/
def sampleRecipient : ChainAddress := ⟨.solana, .ofNat 32 2⟩

/-- To wait if need be, and to be delivered by the relayer. -/
def sampleOptions : TransferOptions := { queue := true, automatic := true, gasDropoff := 5 }

/-- A peer is set up, and an account is given tokens and sends more of them than the limit lets
through at once. -/
def sampleRun : List Operation :=
  [.setPeer ⟨.solana, .ofNat 32 32⟩ 6 5000000000 0, .setTransceiverPeer ⟨.solana, .ofNat 32 34⟩,
    .mint (.ofNat 32 1) 9000000000,
    .transfer (.ofNat 32 1) 6000000000 sampleRecipient sampleOptions 0]

/-- The node that has a transfer waiting in its outbox. -/
def sampleNode : Node :=
  after
    { manager := .start (settingsOf sampleDeployment sampleContracts) sampleDeployment.outboundLimit 0
      capabilities := capabilitiesOf sampleDeployment
      relayer := sampleDeployment.relayer
      quoter := sampleContracts.quoter }
    sampleRun

theorem reachable_sampleNode : sampleNode.Reachable := by
  have creates : create sampleDeployment 0 = .ok _ := rfl
  exact (Reachable.created creates).after (by decide +kernel)

end Node

end TokenTransfer
