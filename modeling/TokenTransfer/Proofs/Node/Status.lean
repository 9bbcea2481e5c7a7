import TokenTransfer.Proofs.Manager.History
import TokenTransfer.Proofs.Manager.Waiting
import TokenTransfer.Proofs.Node.Capabilities
import TokenTransfer.Proofs.Node.Operations

/-!
# What a node tells of attestations

A node that is asked about an attestation looks into the inbox of its manager, under the key that it
reads from the payload.  What it tells is the history of the node: a transfer is approved when some
redemption has accepted an attestation of its key, and executed when it was paid, by that redemption
or later.

The question reads a payload in another way than a redemption does: nothing has to be known of the
message but its id, and no peer is looked up.  Both come to the same key
(`Attestation.Names`), so whatever was redeemed can be asked about, and whoever asks may do so before
the attestation is valid.

## Main definitions

* `Lives` - the turns of a node between two moments
* `Kept` - what a life keeps
* `Turn.Approves`, `Turn.Pays` - a turn approves the transfer of a key, or pays it
* `TellsHistory` - what a node tells of attestations, in parts

## Main statements

* `Lives.contains_iff`, `Lives.isPaid_iff` - the inbox is what was approved and paid
* `tellsHistory` - a node that comes of a deployment tells its history
-/

namespace TokenTransfer

namespace Node

variable {node node' node'' : Node} {past later : List Turn} {tags : List Tag} {key : TransferKey}

/-! ### Turns that redeem and pay -/

/-- **A turn approves the transfer of a key**: it redeems attestations, one of which names the key,
and succeeds. -/
structure Turn.Approves (t : Turn) (tags : List Tag) (key : TransferKey) : Prop where
  succeeds : ∃ reply, t.outcome = .ok reply
  redeems : ∃ attestations now, t.operation = .redeem attestations now ∧
    ∃ attestation ∈ attestations, attestation.Names tags key

/-- **A turn pays the transfer of a key**, as one that it redeems or as one that has waited. -/
inductive Turn.Pays (t : Turn) (key : TransferKey) : Prop
  | atOnce {attestations : List Attestation} {now : Timestamp} {redemptions : List Redemption}
      {payout : Payout} (succeeds : ∃ reply, t.outcome = .ok reply)
      (redeems : t.operation = .redeem attestations now)
      (told : (Manager.redeemBatch attestations now).outcome t.before.manager = .ok redemptions)
      (released : .released payout ∈ redemptions) (keyed : payout.key = key)
  | completed {message : ManagerMessage Transfer} {now : Timestamp}
      (succeeds : ∃ reply, t.outcome = .ok reply)
      (completes : t.operation = .completeInbound key.chain message now)
      (id : message.id = key.id)

/-- What approves is handed on as a redemption of the same attestations, and nothing else is. -/
theorem Operation.exists_attestations_iff {operation : Operation} {told : Manager.Operation}
    (hands : operation.manager? = some told) {holds : Attestation → Prop} :
    (∃ attestation ∈ told.attestations, holds attestation) ↔
      ∃ attestations now, operation = .redeem attestations now ∧
        ∃ attestation ∈ attestations, holds attestation := by
  cases operation with
  | transfer | inquire => cases hands
  | redeem attestations now =>
      cases hands
      constructor
      · intro given
        exact ⟨attestations, now, rfl, given⟩
      · rintro ⟨_, _, ⟨⟩, given⟩
        exact given
  | _ =>
      cases hands
      simp [Manager.Operation.attestations]

/-- What is not handed on leaves the inbox alone. -/
theorem Operation.Does.inbox_eq {operation : Operation} {reply : Reply}
    (does : operation.Does node reply node') (keeps : operation.manager? = none) :
    node'.manager.inbox = node.manager.inbox := by
  cases does with
  | transfer dispatched =>
      obtain ⟨_, _, _, transferred, follows⟩ := dispatched
      rw [← transferred.inbox_eq]
      cases follows with
      | waits waits => rfl
      | published due step bytes =>
          cases step with
          | announce found unreleased due known => rfl
  | manages hands does => cases keeps.symm.trans hands
  | inquires answers => rfl

/-- A turn that hands nothing to the manager leaves the inbox alone. -/
theorem Turn.inbox_eq (t : Turn) (balanced : t.before.manager.ledger.Balanced)
    (keeps : t.operation.manager? = none) : t.after.manager.inbox = t.before.manager.inbox := by
  rcases t.refused_or_does balanced with ⟨fault, -, same⟩ | ⟨reply, -, does⟩
  · rw [same]
  · exact does.inbox_eq keeps

/-- **A key enters the inbox** exactly in a turn that approves it, and stays there. -/
theorem Turn.contains_iff (t : Turn) (balanced : t.before.manager.ledger.Balanced)
    (key : TransferKey) :
    t.after.manager.inbox.contains key ↔ t.before.manager.inbox.contains key ∨
      t.Approves t.before.manager.settings.tags key := by
  cases hands : t.operation.manager? with
  | some told =>
      rcases t.refused_or_hands balanced hands with
        ⟨fault, refused, same⟩ | ⟨reply, answer, replied, answered, after⟩
      · rw [same]
        refine (or_iff_left ?_).symm
        rintro ⟨⟨reply, replied⟩, -⟩
        cases refused.symm.trans replied
      · rw [after]
        refine (Manager.Event.contains_iff ⟨t.before.manager, told⟩ balanced key).trans
          (or_congr_right ?_)
        rw [Operation.exists_attestations_iff hands]
        constructor
        · rintro ⟨-, redeems⟩
          exact ⟨⟨reply, replied⟩, redeems⟩
        · rintro ⟨-, redeems⟩
          exact ⟨⟨answer, answered⟩, redeems⟩
  | none =>
      -- A transfer or a question, neither of which touches the inbox.
      rw [t.inbox_eq balanced hands]
      refine (or_iff_left ?_).symm
      rintro ⟨-, attestations, now, redeems, -⟩
      rw [redeems] at hands
      cases hands

/-- Where the manager is told to redeem a batch, the node was. -/
theorem Operation.eq_redeem {operation : Operation} {attestations : List Attestation}
    {now : Timestamp} (hands : operation.manager? = some (.redeemBatch attestations now)) :
    operation = .redeem attestations now := by
  cases operation with
  | redeem =>
      cases hands
      rfl
  | _ => cases hands

/-- Where the manager is told to pay a transfer that has waited, the node was told to complete it. -/
theorem Operation.exists_completeInbound {operation : Operation} {now : Timestamp}
    (hands : operation.manager? = some (.payOut key now)) :
    ∃ message, operation = .completeInbound key.chain message now ∧ message.id = key.id := by
  cases operation with
  | completeInbound fromChain message =>
      cases hands
      exact ⟨message, rfl, rfl⟩
  | _ => cases hands

/-- A turn that is handed on pays what the event of the manager pays. -/
theorem Turn.exists_paid_iff {t : Turn} {told : Manager.Operation}
    (hands : t.operation.manager? = some told) {reply : Reply} {answer : Manager.Reply}
    (replied : t.outcome = .ok reply)
    (answered : Manager.Event.outcome ⟨t.before.manager, told⟩ = .ok answer) :
    (∃ payout, .paid payout ∈ Manager.Event.effects ⟨t.before.manager, told⟩ ∧ payout.key = key) ↔
      t.Pays key := by
  constructor
  · rintro ⟨payout, paid, keyed⟩
    cases Manager.Event.pays_of_paid paid with
    | redeemed redeems =>
        -- A node redeems in batches only.
        cases redeems
        generalize t.operation = operation at hands
        cases operation with
        | _ => cases hands
    | redeemedAll redeems told released =>
        cases redeems
        exact .atOnce ⟨reply, replied⟩ (Operation.eq_redeem hands) told released keyed
    | completed pays told =>
        cases pays
        cases keyed.symm.trans (Manager.key_of_payOut told)
        obtain ⟨message, completes, id⟩ := Operation.exists_completeInbound hands
        exact .completed ⟨reply, replied⟩ completes id
  · intro pays
    cases pays with
    | @atOnce attestations now redemptions payout _ redeems told released keyed =>
        rw [redeems] at hands
        cases hands
        exact ⟨payout, (Manager.Event.Pays.redeemedAll rfl told released).paid, keyed⟩
    | @completed message now _ completes id =>
        rw [completes] at hands
        cases hands
        obtain ⟨payout, told⟩ := Manager.exists_of_event_payOut answered
        refine ⟨payout, (Manager.Event.Pays.completed rfl told).paid, ?_⟩
        rw [Manager.key_of_payOut told, id]

/-- **A key is paid** exactly in a turn that pays it, and stays so. -/
theorem Turn.isPaid_iff (t : Turn) (balanced : t.before.manager.ledger.Balanced)
    (key : TransferKey) :
    t.after.manager.isPaid key ↔ t.before.manager.isPaid key ∨ t.Pays key := by
  cases hands : t.operation.manager? with
  | some told =>
      rcases t.refused_or_hands balanced hands with
        ⟨fault, refused, same⟩ | ⟨reply, answer, replied, answered, after⟩
      · rw [same]
        refine (or_iff_left ?_).symm
        intro pays
        cases pays with
        | atOnce succeeds | completed succeeds =>
            obtain ⟨reply, replied⟩ := succeeds
            cases refused.symm.trans replied
      · rw [after]
        exact (Manager.Event.isPaid_iff ⟨t.before.manager, told⟩ balanced key).trans
          (or_congr_right (exists_paid_iff hands replied answered))
  | none =>
      unfold Manager.isPaid
      rw [t.inbox_eq balanced hands]
      refine (or_iff_left ?_).symm
      intro pays
      cases pays with
      | atOnce _ does | completed _ does =>
          rw [does] at hands
          cases hands

/-! ### Lives -/

/-- **The life of a node** between two moments: the turns it takes, in order.  What it offers may be
narrowed in between. -/
inductive Lives : Node → List Turn → Node → Prop
  | nil {node : Node} : Lives node [] node
  | narrowed {node node' : Node} {past : List Turn} (lives : Lives node past node')
      (set : Capabilities) : Lives node past (node'.narrow set)
  | used {node node' : Node} {past : List Turn} (lives : Lives node past node')
      (operation : Operation) :
      Lives node (past ++ [⟨node', operation⟩]) (Turn.after ⟨node', operation⟩)

/-- A life may go on. -/
theorem Lives.trans (first : Lives node past node') (second : Lives node' later node'') :
    Lives node (past ++ later) node'' := by
  induction second with
  | nil => rwa [List.append_nil]
  | narrowed _ set ih => exact ih.narrowed set
  | used _ operation ih =>
      rw [← List.append_assoc]
      exact ih.used operation

/-- A run is a life. -/
theorem lives_after (node : Node) (run : List Operation) :
    Lives node (node.turns run) (node.after run) := by
  induction run generalizing node with
  | nil => exact .nil
  | cons operation rest ih => exact (Lives.nil.used operation).trans (ih _)

/-- **What a life keeps**: tokens are accounted for, entries of the inbox are sound, and the same tags
are accepted. -/
structure Kept (node : Node) (tags : List Tag) : Prop where
  balanced : node.manager.ledger.Balanced
  inbox : node.manager.InboxSound
  tags : node.manager.settings.tags = tags

/-- A new node has an empty inbox and the tags of its deployment. -/
theorem kept_of_create {d : Deployment} {now : Timestamp} {logged : Logged Node}
    (creates : create d now = .ok logged) : logged.state.Kept d.tags := by
  obtain ⟨contracts, -, h⟩ := Outcome.bind_eq_ok_iff.mp creates
  cases h
  refine ⟨Manager.balanced_start _ _ _, ?_, rfl⟩
  rintro key item ⟨⟩

section Lives

variable (lives : Lives node past node') (start : node.Kept tags)

include lives start

/-- **A life keeps all this**, whatever the node is told to do. -/
theorem Lives.kept : node'.Kept tags := by
  induction lives with
  | nil => exact start
  | narrowed _ set ih => exact ⟨ih.balanced, ih.inbox, ih.tags⟩
  | @used node' _ _ operation ih =>
      obtain ⟨moves, trace⟩ := Turn.exists_trace ⟨node', operation⟩ ih.balanced
      exact ⟨trace.balanced ih.balanced, trace.invariant (fun step => step.inboxSound) ih.inbox,
        (Manager.tags_eq_of_fixed_eq trace.fixed_eq).trans ih.tags⟩

/-- **What is in the inbox was approved**, or was there at the beginning. -/
theorem Lives.contains_iff (key : TransferKey) :
    node'.manager.inbox.contains key ↔ node.manager.inbox.contains key ∨
      ∃ t ∈ past, t.Approves tags key := by
  induction lives with
  | nil => simp
  | narrowed _ set ih => exact ih
  | @used node' past lives operation ih =>
      have kept' := lives.kept start
      rw [Turn.contains_iff ⟨node', operation⟩ kept'.balanced, ih, kept'.tags, or_assoc]
      simp [or_and_right, exists_or]

/-- **What is paid was paid in some turn**, or was at the beginning. -/
theorem Lives.isPaid_iff (key : TransferKey) :
    node'.manager.isPaid key ↔ node.manager.isPaid key ∨ ∃ t ∈ past, t.Pays key := by
  induction lives with
  | nil => simp
  | narrowed _ set ih => exact ih
  | @used node' past lives operation ih =>
      rw [Turn.isPaid_iff ⟨node', operation⟩ (lives.kept start).balanced, ih, or_assoc]
      simp [or_and_right, exists_or]

end Lives

/-! ### Answers -/

/-- The key under which an attestation is looked up is the one that it names. -/
theorem keyOf_eq_ok_iff {attestation : Attestation} :
    node.keyOf attestation = .ok key ↔
      attestation.Names node.manager.settings.tags key := by
  rw [Attestation.names_iff_reads]
  unfold keyOf
  constructor
  · intro h
    obtain ⟨⟨tag, raw⟩, decodes, h⟩ := Outcome.bind_eq_ok_iff.mp h
    obtain ⟨envelope, parses, h⟩ := Outcome.bind_eq_ok_iff.mp h
    exact ⟨tag, raw, envelope, (Outcome.mapError_eq_ok_iff _).mp decodes,
      (Outcome.mapError_eq_ok_iff _).mp parses, (Except.ok.inj h).symm⟩
  · rintro ⟨tag, raw, envelope, decodes, parses, rfl⟩
    exact Outcome.bind_eq_ok_iff.mpr ⟨_, (Outcome.mapError_eq_ok_iff _).mpr decodes,
      Outcome.bind_eq_ok_iff.mpr ⟨_, (Outcome.mapError_eq_ok_iff _).mpr parses, rfl⟩⟩

/-- What is looked up under the key of an attestation is told where it is offered. -/
theorem lookup_eq_ok_iff {α : Type} {attestation : Attestation} (look : TransferKey → α) {told : α} :
    (do
      node.require .attestationStatus
      let key ← node.keyOf attestation
      return look key) = .ok told ↔
      node.capabilities.supports .attestationStatus = true ∧
        ∃ key, attestation.Names node.manager.settings.tags key ∧ look key = told := by
  constructor
  · intro h
    obtain ⟨_, offered, h⟩ := Outcome.bind_eq_ok_iff.mp h
    obtain ⟨key, names, h⟩ := Outcome.bind_eq_ok_iff.mp h
    exact ⟨require_eq_ok_iff.mp offered, key, keyOf_eq_ok_iff.mp names, Except.ok.inj h⟩
  · rintro ⟨offered, key, names, rfl⟩
    exact Outcome.bind_eq_ok_iff.mpr ⟨(), require_eq_ok_iff.mpr offered,
      Outcome.bind_eq_ok_iff.mpr ⟨key, keyOf_eq_ok_iff.mpr names, rfl⟩⟩

/-- A node tells of an attestation whether there is an entry under the key that it names. -/
theorem isApproved_eq_ok_iff {attestation : Attestation} {told : Bool} :
    node.isApproved attestation = .ok told ↔
      node.capabilities.supports .attestationStatus = true ∧
        ∃ key, attestation.Names node.manager.settings.tags key ∧
          node.manager.inbox.contains key = told :=
  lookup_eq_ok_iff node.manager.inbox.contains

/-- A node tells of an attestation whether the key that it names was paid. -/
theorem isExecuted_eq_ok_iff {attestation : Attestation} {told : Bool} :
    node.isExecuted attestation = .ok told ↔
      node.capabilities.supports .attestationStatus = true ∧
        ∃ key, attestation.Names node.manager.settings.tags key ∧
          node.manager.isPaid key = told :=
  lookup_eq_ok_iff node.manager.isPaid

/-- A node that offers the inbound queue shows what waits in the inbox. -/
theorem inboundQueued_of_supports (offered : node.capabilities.supports .inboundQueue = true)
    (fromChain : ChainId) (message : ManagerMessage Transfer) :
    node.inboundQueued fromChain message =
      .ok ((node.manager.inbox.find? ⟨fromChain, message.id⟩).bind InboxItem.queued) := by
  unfold inboundQueued
  rw [require_eq_ok_iff (u := ()) |>.mpr offered]
  rfl

/-! ### History -/

/-- What an operation offers it goes on to offer. -/
theorem Operation.Does.capabilities_eq {operation : Operation} {reply : Reply}
    (does : operation.Does node reply node') : node'.capabilities = node.capabilities := by
  cases does with
  | transfer dispatched =>
      cases dispatched
      rfl
  | manages hands does => rfl
  | inquires answers => rfl

/-- No turn changes what a node offers. -/
theorem Turn.capabilities_eq (t : Turn) (balanced : t.before.manager.ledger.Balanced) :
    t.after.capabilities = t.before.capabilities := by
  rcases t.refused_or_does balanced with ⟨fault, -, same⟩ | ⟨reply, -, does⟩
  · rw [same]
  · exact does.capabilities_eq

/-- **What a redemption accepts is approved right after it.** -/
theorem isApproved_of_redeem (balanced : node.manager.ledger.Balanced)
    (status : node.capabilities.supports .attestationStatus = true)
    {attestations : List Attestation} {now : Timestamp} {reply : Reply}
    (replied : Turn.outcome ⟨node, .redeem attestations now⟩ = .ok reply)
    {attestation : Attestation} (mem : attestation ∈ attestations) :
    (Turn.after ⟨node, .redeem attestations now⟩).isApproved attestation = .ok true := by
  let t : Turn := ⟨node, .redeem attestations now⟩
  have offered : t.after.capabilities.supports .attestationStatus = true := by
    rwa [t.capabilities_eq balanced]
  rcases t.refused_or_hands balanced rfl with
    ⟨fault, refused, -⟩ | ⟨reply, answer, replied, answered, after⟩
  · cases refused.symm.trans replied
  · obtain ⟨key, names⟩ := Manager.Event.exists_names _ balanced answered mem
    have approves : t.Approves node.manager.settings.tags key :=
      ⟨⟨reply, replied⟩, attestations, now, rfl, attestation, mem, names⟩
    have tags : t.after.manager.settings.tags = node.manager.settings.tags := by
      obtain ⟨moves, trace⟩ := t.exists_trace balanced
      exact Manager.tags_eq_of_fixed_eq trace.fixed_eq
    have names : attestation.Names t.after.manager.settings.tags key := tags ▸ names
    exact isApproved_eq_ok_iff.mpr
      ⟨offered, key, names, (t.contains_iff balanced key).mpr (.inr approves)⟩

/-- **What a node tells of attestations** after the turns `past`. -/
structure TellsHistory (node : Node) (tags : List Tag) (past : List Turn) : Prop where
  /-- Approved is what was redeemed, in some turn that was not refused. -/
  approved : ∀ attestation key, attestation.Names tags key → ∃ told,
    node.isApproved attestation = .ok told ∧ (told = true ↔ ∃ t ∈ past, t.Approves tags key)
  /-- Executed is what was paid, when it was redeemed or later. -/
  executed : ∀ attestation key, attestation.Names tags key → ∃ told,
    node.isExecuted attestation = .ok told ∧ (told = true ↔ ∃ t ∈ past, t.Pays key)
  /-- A transfer is seen waiting as long as it is approved and not executed. -/
  waiting : ∀ (key : TransferKey) (message : ManagerMessage Transfer), message.id = key.id →
    ∃ view, node.inboundQueued key.chain message = .ok view ∧
      (view.isSome ↔ (∃ t ∈ past, t.Approves tags key) ∧ ¬ ∃ t ∈ past, t.Pays key)
  /-- What was approved or executed once remains so. -/
  lasting : ∀ later node', Lives node later node' →
    node'.capabilities.supports .attestationStatus = true → ∀ attestation,
      (node.isApproved attestation = .ok true → node'.isApproved attestation = .ok true) ∧
      (node.isExecuted attestation = .ok true → node'.isExecuted attestation = .ok true)
  /-- What a redemption accepts is approved right after it. -/
  accepted : ∀ attestations now reply,
    Turn.outcome ⟨node, .redeem attestations now⟩ = .ok reply → ∀ attestation ∈ attestations,
      (Turn.after ⟨node, .redeem attestations now⟩).isApproved attestation = .ok true

section TellsHistory

variable {d : Deployment} {start : Timestamp} {logged : Logged Node}

/-- **A node of a deployment tells its history**, whatever was done with it since. -/
theorem tellsHistory (creates : create d start = .ok logged) (lives : Lives logged.state past node)
    (status : node.capabilities.supports .attestationStatus = true)
    (queue : node.capabilities.supports .inboundQueue = true) :
    node.TellsHistory d.tags past := by
  have kept := lives.kept (kept_of_create creates)
  have empty (key : TransferKey) : logged.state.manager.inbox.find? key = none := by
    obtain ⟨contracts, -, h⟩ := Outcome.bind_eq_ok_iff.mp creates
    cases h
    rfl
  have contains (key : TransferKey) :
      node.manager.inbox.contains key = true ↔ ∃ t ∈ past, t.Approves d.tags key := by
    rw [lives.contains_iff (kept_of_create creates) key, Table.contains_iff]
    simp [empty]
  have isPaid (key : TransferKey) :
      node.manager.isPaid key = true ↔ ∃ t ∈ past, t.Pays key := by
    rw [lives.isPaid_iff (kept_of_create creates) key, Manager.isPaid]
    simp [empty]
  refine ⟨?approved, ?executed, ?waiting, ?lasting, ?accepted⟩
  case approved =>
    intro attestation key names
    rw [← kept.tags] at names
    exact ⟨_, isApproved_eq_ok_iff.mpr ⟨status, key, names, rfl⟩, contains key⟩
  case executed =>
    intro attestation key names
    rw [← kept.tags] at names
    exact ⟨_, isExecuted_eq_ok_iff.mpr ⟨status, key, names, rfl⟩, isPaid key⟩
  case waiting =>
    -- An entry is never left unapproved, so one that was not paid waits.
    intro key message id
    refine ⟨_, inboundQueued_of_supports queue key.chain message, ?_⟩
    rw [id, kept.inbox.isSome_queued_iff key, contains, isPaid]
  case lasting =>
    -- The tags are the same to the end, so the attestation is read as before.
    intro later node' lives' status' attestation
    have kept' := lives'.kept kept
    constructor
    · intro approved
      obtain ⟨-, key, names, known⟩ := isApproved_eq_ok_iff.mp approved
      rw [kept.tags, ← kept'.tags] at names
      exact isApproved_eq_ok_iff.mpr
        ⟨status', key, names, (lives'.contains_iff kept key).mpr (.inl known)⟩
    · intro executed
      obtain ⟨-, key, names, paid⟩ := isExecuted_eq_ok_iff.mp executed
      rw [kept.tags, ← kept'.tags] at names
      exact isExecuted_eq_ok_iff.mpr
        ⟨status', key, names, (lives'.isPaid_iff kept key).mpr (.inl paid)⟩
  case accepted =>
    intro attestations now reply replied attestation mem
    exact isApproved_of_redeem kept.balanced status replied mem

end TellsHistory

/-- The contracts that the sample deliveries are for. -/
def sampleTargetContracts : TokenContracts where
  manager := .ofNat 32 32
  token := .ofNat 32 33
  transceiver := { wormhole := .ofNat 32 34 }
  quoter := none

/-- Their deployment. -/
def sampleReceiving : Deployment :=
  { sampleDeployment with
    chain := .solana
    mode := .burning
    tokenDecimals := 6
    contracts := { ntt := some sampleTargetContracts } }

/-- Two transfers are redeemed, one of which exceeds the limit and has to wait. -/
def sampleReceipts : List Operation :=
  [.setPeer ⟨.ethereum, .ofNat 32 16⟩ 9 5000000000 0, .setTransceiverPeer ⟨.ethereum, .ofNat 32 18⟩,
    .redeem [Manager.sampleDelivery 1 1000, Manager.sampleDelivery 2 6000000000] 0]

theorem tellsHistory_of_sample : ∃ logged, create sampleReceiving 0 = .ok logged ∧
    (logged.state.after sampleReceipts).TellsHistory sampleReceiving.tags
      (logged.state.turns sampleReceipts) ∧
    (logged.state.after sampleReceipts).isApproved (Manager.sampleDelivery 2 6000000000) = .ok true ∧
    (logged.state.after sampleReceipts).isExecuted (Manager.sampleDelivery 2 6000000000) = .ok false ∧
    (logged.state.after sampleReceipts).isExecuted (Manager.sampleDelivery 1 1000) = .ok true ∧
    (logged.state.after sampleReceipts).isApproved (Manager.sampleDelivery 3 1000) = .ok false := by
  have creates : create sampleReceiving 0 = .ok _ := rfl
  refine ⟨_, creates, ?tells, ?approved, ?waits, ?executed, ?unknown⟩
  case tells =>
    exact tellsHistory creates (lives_after _ sampleReceipts) (by decide +kernel) (by decide +kernel)
  case approved => decide +kernel
  case waits => decide +kernel
  case executed => decide +kernel
  case unknown => decide +kernel

end Node

end TokenTransfer
