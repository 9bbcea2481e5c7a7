import TokenTransfer.Proofs.Manager.Operations
import TokenTransfer.Proofs.Node.Run

/-!
# What a node does

A node leaves the work to its manager and describes it afterwards.  Descriptions are bytes, and bytes
can be refused; but all that a node has to write fits (`Announcement.exists_toBytes`), so nothing
fails after the manager has done its part.  An operation that is refused leaves the node as it was,
though a refused redemption is recorded.

## Main definitions

* `Settles` - an action is refused and the node stays as it was, or does what is said of it
* `Operation.manager?` - what a node hands to its manager as it is
* `Follows` - what comes after the tokens of a transfer were taken
* `Operation.Does` - what an operation of a node does

## Main statements

* `Operation.perform_settles` - an operation does what it is said to do, or it is refused
* `Turn.refused_or_does`, `Turn.refused_or_hands` - the same of a turn
-/

namespace TokenTransfer

namespace Node

open Fallible

variable {node : Node} {events : List Event} {α β : Type}

/-! ### Actions of a node -/

/-- **A node settles an action**: it is refused and the node stays as it was, or it succeeds as `post`
says.  Either way something may be recorded. -/
inductive Settles (action : Action α) (node : Node) (events : List Event) (post : α → Node → Prop) :
    Prop
  | refused (fault : Fault) (events' : List Event)
      (runs : action.runOn ⟨node, events⟩ = (.error fault, ⟨node, events'⟩))
  | done (a : α) (node' : Node) (events' : List Event)
      (runs : action.runOn ⟨node, events⟩ = (.ok a, ⟨node', events'⟩)) (holds : post a node')

/-- What leaves no trace when it fails is settled. -/
theorem settles_of_transacts {action : Action α} {post : α → Node → Prop}
    (h : action.Transacts ⟨node, events⟩ fun a logged => post a logged.state) :
    Settles action node events post := by
  cases h with
  | refused fault runs => exact .refused fault events runs
  | done a logged runs holds => exact .done a logged.state logged.events runs holds

/-- An action that goes on after a first part that succeeds, and then cannot fail. -/
theorem settles_bind_of_ok {action : Action β} {next : β → Action α} {post : α → Node → Prop} {b : β}
    {logged : Logged Node} (runs : action.runOn ⟨node, events⟩ = (.ok b, logged))
    (rest : (next b).Yields logged fun a logged' => post a logged'.state) :
    Settles (action >>= next) node events post := by
  obtain ⟨a, logged', finishes, holds⟩ := rest
  exact .done a logged'.state logged'.events ((runOn_bind_of_ok runs).trans finishes) holds

/-- What is said of the result may be weakened. -/
theorem Settles.mono {action : Action α} {post post' : α → Node → Prop}
    (h : Settles action node events post) (weaken : ∀ a node', post a node' → post' a node') :
    Settles action node events post' := by
  cases h with
  | refused fault events' runs => exact .refused fault events' runs
  | done a node' events' runs holds => exact .done a node' events' runs (weaken a node' holds)

/-- What is made of the result may be said of the result. -/
theorem Settles.map {action : Action α} {g : α → β} {post : β → Node → Prop}
    (h : Settles action node events fun a node' => post (g a) node') :
    Settles (g <$> action) node events post := by
  cases h with
  | refused fault events' runs =>
      exact .refused fault events' (by rw [runOn_map, runs]; rfl)
  | done a node' events' runs holds =>
      exact .done (g a) node' events' (by rw [runOn_map, runs]; rfl) holds

/-- Asking changes nothing, so it is what comes after the answer that counts. -/
theorem transacts_ask_bind {question : Node → Except Fault α} {next : α → Action β}
    {post : β → Logged Node → Prop}
    (h : ∀ a, question node = .ok a → (next a).Transacts ⟨node, events⟩ post) :
    (ask question >>= next).Transacts ⟨node, events⟩ post := by
  refine Transacts.bind_of_keeps rfl ?_
  intro a runs
  exact h a (congrArg Prod.fst runs)

/-- An operation of the manager that is all or nothing is so for the node. -/
theorem transacts_onManager {action : Manager.Action α} {post : α → Manager → Prop}
    (h : action.Transacts node.manager post) :
    (onManager action).Transacts ⟨node, events⟩ fun a logged =>
      ∃ manager, logged = ⟨{ node with manager }, events⟩ ∧ post a manager := by
  unfold onManager
  exact Transacts.focus h rfl

/-! ### Descriptions -/

/-- **An action only records**: it succeeds on every node and leaves it as it is. -/
def Records (action : Action α) : Prop :=
  ∀ (node : Node) (events : List Event),
    action.Yields ⟨node, events⟩ fun _ logged => logged.state = node

/-- What is composed of recordings only records. -/
theorem Records.bind {action : Action α} {next : α → Action β} (first : Records action)
    (second : ∀ a, Records (next a)) : Records (action >>= next) := by
  intro node events
  refine Yields.bind ((first node events).mono ?_)
  rintro a ⟨node', events'⟩ rfl
  exact second a node' events'

theorem records_pure (a : α) : Records (pure a) := fun _ _ => yields_pure rfl

theorem records_chain : Records (ask fun node => .ok node.chain) := fun _ _ => ⟨_, _, rfl, rfl⟩

theorem records_record (event : Event) : Records (record event) := fun _ _ => ⟨_, _, rfl, rfl⟩

theorem records_transaction (description : String) (payload : Bytes) :
    Records (transaction description payload) := fun _ _ => ⟨_, _, rfl, rfl⟩

/-- Bytes that could be written are passed on. -/
theorem runOn_written {bytes : Except WireError Bytes} {payload : Bytes} (h : bytes = .ok payload)
    (logged : Logged Node) : (written bytes).runOn logged = (.ok payload, logged) := by
  rw [h]
  rfl

theorem records_written {bytes : Except WireError Bytes} {payload : Bytes}
    (h : bytes = .ok payload) : Records (written bytes) :=
  fun _ _ => ⟨_, _, runOn_written h _, rfl⟩

/-- A list of recordings only records. -/
theorem records_mapM {ι : Type} {f : ι → Action α} (each : ∀ i, Records (f i)) (is : List ι) :
    Records (is.mapM f) := by
  induction is with
  | nil => exact records_pure []
  | cons i rest ih =>
      rw [List.mapM_cons]
      exact (each i).bind fun _ => ih.bind fun _ => records_pure _

/-! ### Sending -/

/-- **What comes after the tokens of a transfer were taken**: one that has to wait stays as it is, any
other is published, and its announcement has bytes. -/
inductive Follows (m : Manager) (item : OutboxItem) (now : Timestamp) :
    List Bytes → Manager → Prop
  | waits (waits : now < item.releaseTime) : Follows m item now [] m
  | published {announcement : Announcement} {payload : Bytes} {m' : Manager}
      (due : ¬ now < item.releaseTime)
      (step : Manager.Step m (.announce item.sequence announcement now) m')
      (bytes : announcement.toBytes = .ok payload) : Follows m item now [payload] m'

/-- The step that asks a quoter to relay a transfer. -/
def relayStep (chain : ChainId) (sequence gasDropoff : UInt64) (request : Address × UInt64) :
    UnsignedTransaction where
  chain := chain
  description := "NttQuoter.RequestRelay"
  parallelizable := false
  payload :=
    Layout.encode request.1 ++ Layout.encode sequence ++ Layout.encode gasDropoff ++
      Layout.encode request.2

/-- The step that publishes an announcement. -/
def publicationStep (chain : ChainId) (relayed : Bool) (payload : Bytes) :
    UnsignedTransaction where
  chain := chain
  description := "WormholeTransceiver.Publish"
  parallelizable := relayed
  payload := payload

/-- **The steps of a transfer**: the transfer itself, a relay request if a quoter is to be paid, and
the publications that follow. -/
def transferSteps (chain : ChainId) (instruction : Bytes) (request : Option (Address × UInt64))
    (sequence gasDropoff : UInt64) (publications : List Bytes) : List UnsignedTransaction :=
  { chain
    description := "Ntt.Transfer"
    parallelizable := false
    payload := instruction } ::
  request.toList.map (relayStep chain sequence gasDropoff) ++
  publications.map (publicationStep chain request.isSome)

/-- **What a transfer does** on a node: what the manager does, and the steps that describe it. -/
inductive Dispatched (node : Node) (sender : Address) (amount : UInt64) (recipient : ChainAddress)
    (options : TransferOptions) (now : Timestamp) : List UnsignedTransaction → Node → Prop
  | intro {hint : Option RelayHint} {request : Option (Address × UInt64)} {item : OutboxItem}
      {m m' : Manager} {publications : List Bytes} (instruction : Bytes)
      (hinted : node.hintFor options = .ok hint) (quoted : node.relayRequest options = .ok request)
      (transferred : Manager.Transferred node.manager
        { sender, amount, recipient, mayQueue := options.queue, hint } now item m)
      (follows : Follows m item now publications m') :
      Dispatched node sender amount recipient options now
        (transferSteps node.chain instruction request item.sequence options.gasDropoff publications)
        { node with manager := m' }

/-- An instruction that carries a hint or none has bytes. -/
theorem exists_encode_instruction (hint : Option RelayHint) :
    ∃ bytes, (Shape.instruction .optionalHint).encode { index := 0, payload := hint } =
      .ok bytes := by
  refine Shape.exists_encode _ (not_or.mpr ⟨not_false, ?_⟩)
  rintro ⟨bytes, encodes, long⟩
  obtain ⟨bytes', encodes', short⟩ := Shape.exists_encode_optionalHint hint
  cases encodes.symm.trans encodes'
  omega

/-- There is one step for a relay that was asked for, and none otherwise. -/
theorem runOn_relaySteps (request : Option (Address × UInt64)) (sequence gasDropoff : UInt64)
    (logged : Logged Node) :
    (relaySteps request sequence gasDropoff).runOn logged =
      (.ok (request.toList.map (relayStep logged.state.chain sequence gasDropoff)), logged) := by
  cases request with
  | none => rfl
  | some request => rfl

/-- Handing over an announcement cannot fail. -/
theorem runOn_announce {announcement : Announcement} {payload : Bytes}
    (bytes : announcement.toBytes = .ok payload) (logged : Logged Node) :
    (announce announcement).runOn logged =
      (.ok (publicationStep logged.state.chain false payload), logged) :=
  runOn_bind_of_ok (runOn_written bytes logged)

/-- **A transfer whose tokens were taken** is published, or has to wait. -/
theorem dispatch_yields {request : TransferRequest} {now : Timestamp} {item : OutboxItem}
    {m : Manager} (transferred : Manager.Transferred node.manager request now item m)
    (relayed : Bool) :
    (dispatch item relayed now).Yields ⟨{ node with manager := m }, events⟩ fun steps logged =>
      ∃ publications m', Follows m item now publications m' ∧
        steps = publications.map (publicationStep m.settings.chain relayed) ∧
        logged.state = { node with manager := m' } := by
  unfold dispatch
  refine yields_bind_of_ok rfl ?_
  by_cases waits : now < item.releaseTime
  · rw [if_pos waits]
    exact ⟨[], _, rfl, [], m, .waits waits, rfl, rfl⟩
  · obtain ⟨announcement, m', publishes, step⟩ := transferred.publish_yields waits
    obtain ⟨payload, bytes⟩ := announcement.exists_toBytes
    have published : (onManager (Manager.publish item.sequence now)).runOn
        ⟨{ node with manager := m }, events⟩ =
        (.ok announcement, ⟨{ node with manager := m' }, events⟩) := by
      simp [onManager, publishes]
    rw [if_neg waits]
    refine yields_bind_of_ok published (yields_bind_of_ok (runOn_announce bytes _) ?_)
    have same : m'.settings.chain = m.settings.chain := Manager.chain_eq_of_fixed_eq step.fixed_eq
    refine ⟨_, _, rfl, [payload], m', .published waits step bytes, ?_, rfl⟩
    rw [← same]
    rfl

/-- **A transfer is dispatched, or the node and its record are as they were.** -/
theorem transfer_transacts (balanced : node.manager.ledger.Balanced) (sender : Address)
    (amount : UInt64) (recipient : ChainAddress) (options : TransferOptions) (now : Timestamp) :
    (transfer sender amount recipient options now).Transacts ⟨node, events⟩ fun steps logged =>
      Dispatched node sender amount recipient options now steps logged.state := by
  unfold transfer
  refine transacts_ask_bind fun hint hinted => transacts_ask_bind fun request quoted => ?_
  refine Transacts.bind ((transacts_onManager (Manager.transfer_transacts balanced _ now)).mono ?_)
  rintro item _ - ⟨m, rfl, transferred⟩
  obtain ⟨instruction, encodes⟩ := exists_encode_instruction item.hint
  have same : m.settings.chain = node.chain := by
    obtain ⟨amount, step⟩ := transferred.step
    exact Manager.chain_eq_of_fixed_eq step.fixed_eq
  refine yields_bind_of_ok (runOn_written encodes _) (yields_bind_of_ok rfl
    (yields_bind_of_ok (runOn_relaySteps request item.sequence options.gasDropoff _)
      (Yields.bind ((dispatch_yields transferred request.isSome).mono ?_))))
  rintro _ ⟨_, events'⟩ ⟨publications, m', follows, rfl, rfl⟩
  have dispatched := Dispatched.intro instruction hinted quoted transferred follows
  rw [← same] at dispatched
  exact yields_pure dispatched

/-! ### What the manager does as it is told -/

/-- **What a node hands to its manager as it is.**  A transfer is more than one operation of the
manager, and a question is none. -/
def Operation.manager? : Operation → Option Manager.Operation
  | redeem attestations now => some (.redeemBatch attestations now)
  | completeInbound fromChain message now => some (.payOut ⟨fromChain, message.id⟩ now)
  | completeOutbound sequence now => some (.publish sequence now)
  | setPeer peer tokenDecimals inboundLimit now =>
      some (.setPeer peer tokenDecimals inboundLimit now)
  | setTransceiverPeer peer => some (.setTransceiverPeer peer)
  | setPaused paused => some (.setPaused paused)
  | setOutboundLimit limit now => some (.setOutboundLimit limit now)
  | setInboundLimit fromChain limit now => some (.setInboundLimit fromChain limit now)
  | mint account amount => some (.mint account amount)
  | fundCustody amount => some (.fundCustody amount)
  | transfer .. | inquire _ => none

section Hands

variable {told : Manager.Operation} {action : Manager.Action β} {answer : β → Manager.Reply}
  {post : Manager → Prop} (h : told.perform.Transacts node.manager fun _ m => post m)
  (performs : told.perform = answer <$> action)

include h performs

/-- What the manager does when it is told, the node does. -/
theorem transacts_of_hands : (onManager action).Transacts ⟨node, events⟩ fun _ logged =>
    ∃ m, logged.state = { node with manager := m } ∧ post m := by
  rw [performs] at h
  refine (transacts_onManager h.of_map).mono ?_
  rintro b _ - ⟨m, rfl, holds⟩
  exact ⟨m, rfl, holds⟩

/-- And it may record what was done. -/
theorem transacts_of_hands_bind {next : β → Action α} (rest : ∀ b, Records (next b)) :
    (onManager action >>= next).Transacts ⟨node, events⟩ fun _ logged =>
      ∃ m, logged.state = { node with manager := m } ∧ post m := by
  refine Transacts.bind ((transacts_of_hands h performs).mono ?_)
  rintro b ⟨node', events'⟩ - holds
  refine (rest b node' events').mono ?_
  intro a logged same
  rw [same]
  exact holds

end Hands

/-- Recording a redemption leaves the node as it is. -/
theorem records_recordRedemption (attestation : Attestation) (redemption : Redemption) :
    Records (recordRedemption attestation redemption) := by
  refine records_chain.bind fun chain => ?_
  cases redemption with
  | released payout => exact records_record _
  | queued view => exact records_record _

/-- So does recording an announcement. -/
theorem records_announce (announcement : Announcement) : Records (announce announcement) := by
  obtain ⟨payload, bytes⟩ := announcement.exists_toBytes
  exact fun _ _ => ⟨_, _, runOn_announce bytes _, rfl⟩

/-- **A redemption that is refused is recorded**, and changes nothing but the record. -/
theorem redeem_settles {attestations : List Attestation} {now : Timestamp} {post : Manager → Prop}
    (h : (Manager.Operation.redeemBatch attestations now).perform.Transacts node.manager
      fun _ m => post m) :
    Settles (redeem attestations now) node events fun _ node' =>
      ∃ m, node' = { node with manager := m } ∧ post m := by
  have redeems : (onManager (Manager.redeemBatch attestations now)).Transacts ⟨node, events⟩
      fun _ logged => ∃ m, logged.state = { node with manager := m } ∧ post m :=
    transacts_of_hands h rfl
  unfold redeem
  by_cases empty : attestations.isEmpty
  · rw [if_pos empty]
    exact .refused .noAttestations events rfl
  · rw [if_neg empty]
    cases redeems with
    | refused fault runs =>
        exact .refused fault _ (runOn_bind_of_error (runOn_tryCatch_of_error runs _))
    | done redemptions logged runs holds =>
        refine settles_bind_of_ok (runOn_tryCatch_of_ok runs _)
          ((records_mapM (fun pair => ?_) _ _ _).mono ?_)
        · obtain ⟨attestation, redemption⟩ := pair
          exact (records_recordRedemption attestation redemption).bind fun _ =>
            (records_transaction _ _).bind fun _ => records_pure _
        · intro steps logged' same
          rw [same]
          exact holds

/-- **A node does what its manager does** when it is told, and describes it. -/
theorem Operation.perform_hands {operation : Operation} {told : Manager.Operation}
    {post : Manager → Prop} (hands : operation.manager? = some told)
    (h : told.perform.Transacts node.manager fun _ m => post m) :
    Settles operation.perform node events fun _ node' =>
      ∃ m, node' = { node with manager := m } ∧ post m := by
  cases operation with
  | transfer | inquire => cases hands
  | redeem attestations now =>
      cases hands
      exact (redeem_settles h).map
  | completeInbound fromChain message now =>
      cases hands
      refine (settles_of_transacts (transacts_ask_bind fun _ _ =>
        transacts_of_hands_bind h rfl fun payout => ?_)).map
      exact records_chain.bind fun _ => (records_record _).bind fun _ =>
        (records_transaction _ _).bind fun _ => records_pure _
  | completeOutbound sequence now =>
      cases hands
      refine (settles_of_transacts (transacts_ask_bind fun _ _ =>
        transacts_of_hands_bind h rfl fun announcement => ?_)).map
      exact records_chain.bind fun _ => (records_record _).bind fun _ =>
        (records_transaction _ _).bind fun _ => (records_announce _).bind fun _ => records_pure _
  | setPeer peer tokenDecimals inboundLimit now =>
      cases hands
      refine (settles_of_transacts (transacts_of_hands_bind h rfl fun config => ?_)).map
      obtain ⟨payload, bytes⟩ := config.exists_toBytes
      exact records_chain.bind fun _ => (records_record _).bind fun _ =>
        (records_written bytes).bind fun _ => (records_transaction _ _).bind fun _ => records_pure _
  | setTransceiverPeer peer =>
      cases hands
      refine (settles_of_transacts (transacts_of_hands_bind h rfl fun registration => ?_)).map
      exact records_chain.bind fun _ => (records_record _).bind fun _ =>
        (records_transaction _ _).bind fun _ => records_pure _
  | setPaused paused =>
      cases hands
      exact (settles_of_transacts (transacts_of_hands_bind h rfl fun _ =>
        records_chain.bind fun _ => records_record _)).map
  | setOutboundLimit limit now =>
      cases hands
      exact (settles_of_transacts (transacts_of_hands_bind h rfl fun _ =>
        records_chain.bind fun _ => records_record _)).map
  | setInboundLimit fromChain limit now =>
      cases hands
      exact (settles_of_transacts (transacts_of_hands_bind h rfl fun _ =>
        records_chain.bind fun _ => records_record _)).map
  | mint account amount =>
      cases hands
      exact (settles_of_transacts (transacts_of_hands h rfl)).map
  | fundCustody amount =>
      cases hands
      exact (settles_of_transacts (transacts_of_hands h rfl)).map

/-! ### All operations -/

/-- **What an operation of a node does** when it succeeds. -/
inductive Operation.Does (node : Node) : Operation → Reply → Node → Prop
  | transfer {sender : Address} {amount : UInt64} {recipient : ChainAddress}
      {options : TransferOptions} {now : Timestamp} {steps : List UnsignedTransaction}
      {node' : Node} (dispatched : Dispatched node sender amount recipient options now steps node') :
      Does node (.transfer sender amount recipient options now) (.transactions steps) node'
  | manages {operation : Operation} {reply : Reply} {told : Manager.Operation}
      {answer : Manager.Reply} {m : Manager} (hands : operation.manager? = some told)
      (does : told.Does node.manager answer m) :
      Does node operation reply { node with manager := m }
  | inquires {question : Question} {answer : Answer} (answers : node.answer question = .ok answer) :
      Does node (.inquire question) (.answered answer) node

/-- A question leaves the node as it is, answered or not. -/
theorem inquire_settles (question : Question) :
    Settles (Operation.inquire question).perform node events fun reply node' =>
      ∃ answer, node.answer question = .ok answer ∧ reply = .answered answer ∧ node' = node := by
  apply Settles.map
  cases answers : node.answer question with
  | error fault => exact .refused fault events (congrArg (·, _) answers)
  | ok answer => exact .done answer node events (congrArg (·, _) answers) ⟨answer, rfl, rfl, rfl⟩

/-- **Every operation does what it is said to do**, or it is refused and the node stays as it was. -/
theorem Operation.perform_settles (balanced : node.manager.ledger.Balanced)
    (operation : Operation) : Settles operation.perform node events (operation.Does node) := by
  cases hands : operation.manager? with
  | some told =>
      have does : told.perform.Transacts node.manager fun _ m =>
          ∃ answer, told.Does node.manager answer m :=
        (told.perform_transacts balanced).mono fun answer _ _ does => ⟨answer, does⟩
      refine (perform_hands hands does).mono ?_
      rintro reply _ ⟨m, rfl, answer, does⟩
      exact .manages hands does
  | none =>
      cases operation with
      | transfer sender amount recipient options now =>
          refine Settles.map (settles_of_transacts ((transfer_transacts balanced sender amount
            recipient options now).mono ?_))
          intro steps logged _ dispatched
          exact .transfer dispatched
      | inquire question =>
          refine (inquire_settles question).mono ?_
          rintro _ _ ⟨answer, answers, rfl, rfl⟩
          exact .inquires answers
      | _ => cases hands

/-! ### Turns -/

/-- What an operation settles, a turn does: it is refused and leaves the node as it was, or not. -/
theorem Turn.refused_or_done (t : Turn) {post : Reply → Node → Prop}
    (settles : Settles t.operation.perform t.before [] post) :
    (∃ fault, t.outcome = .error fault ∧ t.after = t.before) ∨
      ∃ reply, t.outcome = .ok reply ∧ post reply t.after := by
  cases settles with
  | refused fault events' runs =>
      exact .inl ⟨fault, congrArg Prod.fst runs, congrArg (·.2.state) runs⟩
  | done reply node' events' runs holds =>
      have after : t.after = node' := congrArg (·.2.state) runs
      exact .inr ⟨reply, congrArg Prod.fst runs, after ▸ holds⟩

/-- **A turn is refused** and leaves the node as it was, or its operation has done what it is said to
do. -/
theorem Turn.refused_or_does (t : Turn) (balanced : t.before.manager.ledger.Balanced) :
    (∃ fault, t.outcome = .error fault ∧ t.after = t.before) ∨
      ∃ reply, t.outcome = .ok reply ∧ t.operation.Does t.before reply t.after :=
  t.refused_or_done (t.operation.perform_settles balanced)

/-- **A turn whose operation is handed on** is refused, or it is the event of the manager. -/
theorem Turn.refused_or_hands (t : Turn) (balanced : t.before.manager.ledger.Balanced)
    {told : Manager.Operation} (hands : t.operation.manager? = some told) :
    (∃ fault, t.outcome = .error fault ∧ t.after = t.before) ∨
      ∃ reply answer, t.outcome = .ok reply ∧
        Manager.Event.outcome ⟨t.before.manager, told⟩ = .ok answer ∧
        t.after = { t.before with manager := Manager.Event.after ⟨t.before.manager, told⟩ } := by
  have does : told.perform.Transacts t.before.manager fun _ m => ∃ answer,
      Manager.Event.outcome ⟨t.before.manager, told⟩ = .ok answer ∧
        m = Manager.Event.after ⟨t.before.manager, told⟩ := by
    refine (told.perform_transacts balanced).mono ?_
    intro answer m runs _
    exact ⟨answer, congrArg Prod.fst runs, (congrArg Prod.snd runs).symm⟩
  rcases t.refused_or_done (Operation.perform_hands hands does) with
    refused | ⟨reply, replied, _, after, answer, answered, rfl⟩
  · exact .inl refused
  · exact .inr ⟨reply, answer, replied, answered, after⟩

/-- **Whatever an operation does**, value moves in the manager. -/
theorem Operation.Does.exists_trace {operation : Operation} {reply : Reply} {node' : Node}
    (does : operation.Does node reply node') :
    ∃ moves, Manager.Trace node.manager moves node'.manager := by
  cases does with
  | transfer dispatched =>
      obtain ⟨_, _, _, transferred, follows⟩ := dispatched
      obtain ⟨amount, step⟩ := transferred.step
      cases follows with
      | waits waits => exact ⟨_, .single step⟩
      | published due step' bytes => exact ⟨_, .cons step (.single step')⟩
  | manages hands does =>
      obtain ⟨moves, explains⟩ := does.exists_explains
      exact ⟨moves, explains.trace⟩
  | inquires answers => exact ⟨[], .nil⟩

/-- Every turn of a node is a sequence of moves of its manager. -/
theorem Turn.exists_trace (t : Turn) (balanced : t.before.manager.ledger.Balanced) :
    ∃ moves, Manager.Trace t.before.manager moves t.after.manager := by
  rcases t.refused_or_does balanced with ⟨fault, -, same⟩ | ⟨reply, -, does⟩
  · rw [same]
    exact ⟨[], .nil⟩
  · exact does.exists_trace

end Node

end TokenTransfer
