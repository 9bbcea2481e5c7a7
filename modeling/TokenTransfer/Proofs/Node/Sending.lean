import TokenTransfer.Proofs.Manager.Numbering
import TokenTransfer.Proofs.Node.Capabilities
import TokenTransfer.Proofs.Node.Operations

/-!
# What a node sends

A transfer takes tokens, is described, and is published if it is due; descriptions and publications
come after the tokens were taken.  Whatever is refused is refused before that (`Turn.refused_or_does`),
so a refusal leaves the node as it was.  A transfer that is not refused has made one item, and its
steps tell of that item what the relayer and the other side have to know (`Sent`).

That the number of the item is a new one, and that there is a hint whenever one is asked for, holds
of nodes that come of a deployment: numbers are issued one by one, and only a node that knows its
relayer offers deliveries (`Sound`).

## Main definitions

* `Sound` - what holds of every reachable node
* `Sent` - what is left of a transfer, and what its steps tell

## Main statements

* `Reachable.sound` - reachable nodes are sound
* `Dispatched.exists_sent` - what a transfer does is what it tells
* `atomic_and_faithful` - both for reachable nodes
-/

namespace TokenTransfer

namespace Node

variable {node node' : Node} {sender : Address} {amount : UInt64} {recipient : ChainAddress}
  {options : TransferOptions} {now : Timestamp}

/-! ### Reachable nodes -/

/-- **What holds of every reachable node**: tokens are accounted for, items stand under numbers that
were issued, and where deliveries are offered there is a relayer. -/
structure Sound (node : Node) : Prop where
  balanced : node.manager.ledger.Balanced
  numbered : node.manager.Numbered
  relayed : node.capabilities.supports .automaticRelay = true → node.relayer.isSome = true

/-- A new node has no accounts and no items, and a relayer if it is to offer deliveries. -/
theorem sound_of_create {d : Deployment} {logged : Logged Node}
    (creates : create d now = .ok logged) : logged.state.Sound := by
  have relayed := (equipped_of_create creates).relayed
  obtain ⟨contracts, -, h⟩ := Outcome.bind_eq_ok_iff.mp creates
  cases h
  exact ⟨Manager.balanced_start _ _ _, Manager.numbered_start _ _ _, relayed⟩

/-- The publication that may follow a transfer takes no number. -/
theorem Follows.keeps {m m' : Manager} {item : OutboxItem} {publications : List Bytes}
    (follows : Follows m item now publications m') :
    (m.ledger.Balanced → m'.ledger.Balanced) ∧ (m.Numbered → m'.Numbered) ∧
      m'.nextSequence = m.nextSequence := by
  cases follows with
  | waits waits => exact ⟨id, id, rfl⟩
  | published due step bytes =>
      have same : m'.nextSequence = m.nextSequence := by
        cases step with
        | announce found unreleased due known => rfl
      exact ⟨step.balanced, step.numbered (step.fits_of_le (UInt64.le_of_eq same.symm)), same⟩

/-- **What an operation does keeps a node sound**, unless a number runs over. -/
theorem Operation.Does.sound {operation : Operation} {reply : Reply}
    (does : operation.Does node reply node')
    (counts : node.manager.nextSequence ≤ node'.manager.nextSequence) (sound : node.Sound) :
    node'.Sound := by
  obtain ⟨balanced, numbered, relayed⟩ := sound
  cases does with
  | transfer dispatched =>
      obtain @⟨_, _, _, _, m', _, _, _, _, transferred, follows⟩ := dispatched
      obtain ⟨keepsBalance, keepsNumbers, same⟩ := follows.keeps
      obtain ⟨taken, step⟩ := transferred.step
      have counts : node.manager.nextSequence ≤ m'.nextSequence := counts
      rw [same] at counts
      exact ⟨keepsBalance (step.balanced balanced),
        keepsNumbers (step.numbered (step.fits_of_le counts) numbered), relayed⟩
  | manages hands does =>
      obtain ⟨moves, explains⟩ := does.exists_explains
      exact ⟨explains.trace.balanced balanced, does.numbered counts numbered, relayed⟩
  | inquires answers => exact ⟨balanced, numbered, relayed⟩

/-- **Reachable nodes are sound.** -/
theorem Reachable.sound (reachable : node.Reachable) : node.Sound := by
  induction reachable with
  | created creates => exact sound_of_create creates
  | narrowed _ set ih =>
      exact ⟨ih.balanced, ih.numbered, fun offered =>
        ih.relayed (Capabilities.supports_of_inter offered)⟩
  | @used node _ operation counts ih =>
      rcases Turn.refused_or_does ⟨node, operation⟩ ih.balanced with
        ⟨fault, refused, same⟩ | ⟨reply, replied, does⟩
      · rw [same]
        exact ih
      · exact does.sound counts ih

/-! ### What the options ask for -/

/-- A relay is asked for when the sender wants one and the node has a quoter. -/
theorem isSome_of_relayRequest {request : Option (Address × UInt64)}
    (quoted : node.relayRequest options = .ok request) :
    request.isSome = (node.quoter.isSome && options.automatic) := by
  unfold relayRequest at quoted
  cases quoter : node.quoter with
  | none =>
      rw [quoter] at quoted
      cases quoted
      rfl
  | some address =>
      rw [quoter] at quoted
      cases automatic : options.automatic with
      | false =>
          rw [automatic] at quoted
          cases quoted
          rfl
      | true =>
          rw [automatic] at quoted
          obtain ⟨price, -, h⟩ := Outcome.bind_eq_ok_iff.mp quoted
          cases h
          rfl

/-- There is a hint if one is asked for, as only a node with a relayer takes that. -/
theorem hint_of_hintFor (sound : node.Sound) {hint : Option RelayHint}
    (hinted : node.hintFor options = .ok hint) :
    hint = (if options.automatic then node.relayHint else none) ∧
      hint.isSome = options.automatic := by
  unfold hintFor at hinted
  cases automatic : options.automatic with
  | false =>
      rw [automatic] at hinted
      cases hinted
      exact ⟨rfl, rfl⟩
  | true =>
      rw [automatic] at hinted
      obtain ⟨_, required, h⟩ := Outcome.bind_eq_ok_iff.mp hinted
      cases h
      refine ⟨rfl, ?_⟩
      rw [relayHint, Option.isSome_map]
      exact sound.relayed (require_eq_ok_iff.mp required)

/-! ### What is left of a transfer -/

/-- What the steps of a transfer are, in order. -/
def descriptions (relayed published : Bool) : List String :=
  "Ntt.Transfer" :: (if relayed then ["NttQuoter.RequestRelay"] else []) ++
    if published then ["WormholeTransceiver.Publish"] else []

/-- The steps of a transfer are described in order. -/
theorem map_description_transferSteps (chain : ChainId) (instruction : Bytes)
    (request : Option (Address × UInt64)) (sequence gasDropoff : UInt64) (payload : Option Bytes) :
    (transferSteps chain instruction request sequence gasDropoff payload.toList).map
      UnsignedTransaction.description = descriptions request.isSome payload.isSome := by
  cases request with
  | none =>
      cases payload with
      | none => rfl
      | some payload => rfl
  | some request =>
      cases payload with
      | none => rfl
      | some payload => rfl

/-- The publications among the steps of a transfer. -/
theorem payload_mem_of_mem_transferSteps {chain : ChainId} {instruction : Bytes}
    {request : Option (Address × UInt64)} {sequence gasDropoff : UInt64}
    {publications : List Bytes} {step : UnsignedTransaction}
    (mem : step ∈ transferSteps chain instruction request sequence gasDropoff publications)
    (publishes : step.description = "WormholeTransceiver.Publish") :
    step.payload ∈ publications := by
  have notTransfer : "Ntt.Transfer" ≠ "WormholeTransceiver.Publish" := by decide
  have notRequest : "NttQuoter.RequestRelay" ≠ "WormholeTransceiver.Publish" := by decide
  rcases List.mem_append.mp mem with described | published
  · rcases List.mem_cons.mp described with rfl | requested
    · exact absurd publishes notTransfer
    · obtain ⟨request, -, rfl⟩ := List.mem_map.mp requested
      exact absurd publishes notRequest
  · obtain ⟨payload, listed, rfl⟩ := List.mem_map.mp published
    exact listed

/-- **What is left of a transfer**: the node has one more item, and the steps are the ones of that
item. -/
structure Sent (node : Node) (sender : Address) (recipient : ChainAddress)
    (options : TransferOptions) (now : Timestamp) (steps : List UnsignedTransaction)
    (node' : Node) (item : OutboxItem) : Prop where
  /-- The number of the item was not in use. -/
  fresh : node.manager.outbox.find? item.sequence = none
  /-- The item is the only one that is new. -/
  outbox : node'.manager.outbox = node.manager.outbox.insert item.sequence item
  sentBy : item.sender = sender
  sentTo : item.recipient = recipient
  /-- It has a hint for the relayer if one is asked for. -/
  hint : item.hint = (if options.automatic then node.relayHint else none)
  hinted : item.hint.isSome = options.automatic
  /-- It is released at once if it is due. -/
  released : item.released = true ↔ item.releaseTime ≤ now
  /-- A relay is requested if there is somebody to ask and one is wanted, and what is released is
  published. -/
  described : steps.map UnsignedTransaction.description =
    descriptions (node.quoter.isSome && options.automatic) item.released
  /-- What is published says all there is to say about the item. -/
  published : ∀ step ∈ steps, step.description = "WormholeTransceiver.Publish" →
    ∃ peer, node.manager.peers.find? recipient.chain = some peer ∧
      Envelope.decodeAs (.manager .transfer) .optionalHint Tag.wormhole step.payload =
        .ok
          { source := node.manager.settings.manager
            recipient := peer.manager
            managerPayload :=
              { id := .ofSequence item.sequence
                sender
                payload :=
                  { amount := item.amount
                    sourceToken := node.manager.settings.token
                    recipient := recipient.address
                    recipientChain := recipient.chain } }
            transceiverPayload := item.hint }

/-- An item that is in the outbox is released if it is due, and its announcement has the bytes that
are published. -/
theorem Follows.exists_payload {m m' : Manager} {item : OutboxItem} {publications : List Bytes}
    (follows : Follows m item now publications m')
    (stored : m.outbox.find? item.sequence = some item) (unreleased : item.released = false) :
    ∃ payload : Option Bytes, publications = payload.toList ∧
      (payload.isSome = true ↔ item.releaseTime ≤ now) ∧
      m'.outbox = m.outbox.insert item.sequence { item with released := payload.isSome } ∧
      ∀ bytes ∈ payload, ∃ peer, m.peers.find? item.recipient.chain = some peer ∧
        (m.announcement peer item.sequence item).toBytes = .ok bytes := by
  cases follows with
  | waits waits =>
      have same : { item with released := false } = item := by rw [← unreleased]
      refine ⟨none, rfl, ⟨Bool.noConfusion, fun due => absurd waits (Int64.not_lt.mpr due)⟩, ?_, ?_⟩
      · rw [Option.isSome_none, same, Table.insert_of_find? stored]
      · rintro bytes ⟨⟩
  | @published announcement payload _ due step encodes =>
      cases step with
      | @announce _ item' peer _ found unreleased' due' known =>
          cases stored.symm.trans found
          refine ⟨some payload, rfl, ⟨fun _ => Int64.not_lt.mp due, fun _ => rfl⟩, rfl, ?_⟩
          rintro bytes ⟨⟩
          exact ⟨peer, known, encodes⟩

/-- **What a transfer does is what its steps tell.** -/
theorem Dispatched.exists_sent {steps : List UnsignedTransaction}
    (dispatched : Dispatched node sender amount recipient options now steps node')
    (sound : node.Sound) : ∃ item, Sent node sender recipient options now steps node' item := by
  obtain @⟨hint, request, item, m, m', publications, instruction, hinted, quoted, transferred,
    follows⟩ := dispatched
  obtain ⟨rfl, rfl, rfl⟩ := transferred.asked
  obtain ⟨asked, given⟩ := hint_of_hintFor sound hinted
  obtain ⟨taken, step⟩ := transferred.step
  cases step with
  | send numbered unreleased known decimals worth takes =>
      rw [← numbered] at follows
      obtain ⟨payload, rfl, due, outbox, told⟩ :=
        follows.exists_payload (Table.find?_insert_self _ _ _) unreleased
      -- What stays is the item that was put in, released if it was due.
      refine ⟨{ item with released := payload.isSome }, ?_, ?_, rfl, rfl, asked, given, due, ?_, ?_⟩
      · show node.manager.outbox.find? item.sequence = none
        rw [numbered]
        exact sound.numbered.next_absent
      · exact outbox.trans (Table.insert_insert _ _ _ _)
      · rw [← isSome_of_relayRequest quoted]
        exact map_description_transferSteps _ _ _ _ _ payload
      · intro step mem publishes
        have listed := payload_mem_of_mem_transferSteps mem publishes
        obtain ⟨peer, known', encodes⟩ := told _ (Option.mem_toList.mp listed)
        exact ⟨peer, known', Envelope.decodeAs_of_encode encodes⟩

/-- **Operations of a reachable node are atomic, and its transfers are told faithfully.**  An operation
that is refused leaves the node as it was, although a transfer is described and published after the
tokens were taken.  One that is not refused has made one item, whose steps say what they have to. -/
theorem atomic_and_faithful (reachable : node.Reachable) :
    (∀ operation fault, Turn.outcome ⟨node, operation⟩ = .error fault →
      Turn.after ⟨node, operation⟩ = node) ∧
    ∀ sender amount recipient options now reply,
      Turn.outcome ⟨node, .transfer sender amount recipient options now⟩ = .ok reply →
      ∃ steps item, reply = .transactions steps ∧
        Sent node sender recipient options now steps
          (Turn.after ⟨node, .transfer sender amount recipient options now⟩) item := by
  have sound := reachable.sound
  constructor
  · intro operation fault failed
    rcases Turn.refused_or_does ⟨node, operation⟩ sound.balanced with
      ⟨fault', refused, same⟩ | ⟨reply, replied, does⟩
    · exact same
    · cases failed.symm.trans replied
  · intro sender amount recipient options now reply succeeded
    rcases Turn.refused_or_does ⟨node, .transfer sender amount recipient options now⟩
      sound.balanced with ⟨fault, refused, same⟩ | ⟨reply', replied, does⟩
    · cases succeeded.symm.trans refused
    · cases succeeded.symm.trans replied
      generalize Turn.after _ = node' at does ⊢
      cases does with
      | transfer dispatched =>
          obtain ⟨item, sent⟩ := dispatched.exists_sent sound
          exact ⟨_, item, rfl, sent⟩
      | manages hands does => cases hands

/-- A transfer that fits the limit. -/
def sampleTransfer : Operation :=
  .transfer (.ofNat 32 1) 2000000000 sampleRecipient sampleOptions 0

/-- The transfer that waits cannot be published yet, and another one is sent. -/
theorem atomic_and_faithful_of_sample :
    Turn.outcome ⟨sampleNode, .completeOutbound 0 0⟩ = .error (.tooEarly 86400 0) ∧
      Turn.after ⟨sampleNode, .completeOutbound 0 0⟩ = sampleNode ∧
      ∃ steps item, Turn.outcome ⟨sampleNode, sampleTransfer⟩ = .ok (.transactions steps) ∧
        Sent sampleNode (.ofNat 32 1) sampleRecipient sampleOptions 0 steps
          (Turn.after ⟨sampleNode, sampleTransfer⟩) item := by
  obtain ⟨atomic, faithful⟩ := atomic_and_faithful reachable_sampleNode
  have refused : Turn.outcome ⟨sampleNode, .completeOutbound 0 0⟩ = .error (.tooEarly 86400 0) := by
    decide +kernel
  refine ⟨refused, atomic _ _ refused, ?_⟩
  have succeeds : (Turn.outcome ⟨sampleNode, sampleTransfer⟩).isOk = true := by decide +kernel
  cases outcome : Turn.outcome ⟨sampleNode, sampleTransfer⟩ with
  | error fault =>
      rw [outcome] at succeeds
      cases succeeds
  | ok reply =>
      obtain ⟨steps, item, rfl, sent⟩ := faithful _ _ _ _ _ _ outcome
      exact ⟨steps, item, rfl, sent⟩

end Node

end TokenTransfer
