import TokenTransfer.Proofs.Manager.Operations

/-!
# While a manager is paused

Every way of moving value asks first whether the manager is paused: a transfer, a publication and a
payout before they look anything up, a redemption before it checks its attestation.  What is set up
during a pause touches peers, limits and the pause switch and nothing else.

## Main definitions

* `Manager.Idle` - nothing has moved
* `Operation.moves` - whether an operation moves value or announces it
* `Operation.duringPause` - whether an operation leaves a pause as it is

## Main statements

* `refused_of_paused` - a paused manager refuses to move value
* `Operation.perform_idle` - nothing moves on a paused manager
-/

namespace TokenTransfer

namespace Manager

open Fallible

variable {m m' m'' : Manager} {operation : Operation}

/-! ### Nothing has moved -/

/-- **Nothing has moved**: who owns what, what has come in and what is to go out are as they were. -/
structure Idle (m m' : Manager) : Prop where
  ledger : m'.ledger = m.ledger
  inbox : m'.inbox = m.inbox
  outbox : m'.outbox = m.outbox
  nextSequence : m'.nextSequence = m.nextSequence

theorem Idle.refl (m : Manager) : Idle m m := ⟨rfl, rfl, rfl, rfl⟩

theorem Idle.trans (first : Idle m m') (second : Idle m' m'') : Idle m m'' where
  ledger := second.ledger.trans first.ledger
  inbox := second.inbox.trans first.inbox
  outbox := second.outbox.trans first.outbox
  nextSequence := second.nextSequence.trans first.nextSequence

/-! ### Refusals -/

/-- Whether an operation moves value or announces it.  An empty batch does neither. -/
def Operation.moves : Operation → Bool
  | transfer .. | publish .. | redeem .. | payOut .. => true
  | redeemBatch attestations _ => !attestations.isEmpty
  | _ => false

/-- Whether an operation leaves a pause as it is: it neither resumes the manager nor brings in tokens
from outside, which a pause does not prevent. -/
def Operation.duringPause : Operation → Bool
  | setPaused paused => paused
  | mint .. | fundCustody .. => false
  | _ => true

/-- An operation that begins with a question is refused with it, and nothing has happened yet. -/
theorem runOn_map_ask_bind_of_error {α β γ : Type} {question : Manager → Except Fault α}
    {fault : Fault} (refuses : question m = .error fault) (next : α → Action β) (reply : β → γ) :
    (reply <$> (ask question >>= next)).runOn m = (.error fault, m) := by
  have refused : (ask question >>= next).runOn m = (.error fault, m) :=
    runOn_bind_of_error (congrArg (·, m) refuses)
  rw [runOn_map, refused]
  rfl

section Paused

variable (paused : m.settings.paused = true)

include paused

theorem ensureActive_of_paused : m.ensureActive = .error .paused := by
  unfold ensureActive
  rw [if_pos paused]

/-- No transfer is prepared during a pause. -/
theorem prepare_of_paused (request : TransferRequest) (now : Timestamp) :
    m.prepare request now = .error .paused := by
  unfold prepare
  rw [ensureActive_of_paused paused, Outcome.error_bind]

/-- No attestation is valid during a pause. -/
theorem validate_of_paused (attestation : Attestation) :
    m.validate attestation = .error .paused := by
  unfold validate
  rw [ensureActive_of_paused paused, Outcome.error_bind]

/-- The first attestation of a batch is enough to refuse it. -/
theorem rehearse_of_paused (attestation : Attestation) (rest : List Attestation)
    (now : Timestamp) : m.rehearse (attestation :: rest) now = .error .paused := by
  unfold rehearse validateAll
  rw [validate_of_paused paused]
  rfl

/-- **A paused manager refuses to move value.** -/
theorem refused_of_paused (moves : operation.moves = true) :
    operation.perform.runOn m = (.error .paused, m) := by
  cases operation with
  | transfer request now =>
      exact runOn_map_ask_bind_of_error (prepare_of_paused paused request now) _ _
  | publish sequence now =>
      exact runOn_map_ask_bind_of_error (ensureActive_of_paused paused) _ _
  | redeem attestation now =>
      exact runOn_map_ask_bind_of_error (validate_of_paused paused attestation) _ _
  | redeemBatch attestations now =>
      cases attestations with
      | nil => cases moves
      | cons attestation rest =>
          exact runOn_map_ask_bind_of_error (rehearse_of_paused paused attestation rest now) _ _
  | payOut key now => exact runOn_map_ask_bind_of_error (ensureActive_of_paused paused) _ _
  | _ => cases moves

/-- **Nothing moves on a paused manager**, and what it does is not to move value: it is set up, or
redeems an empty batch. -/
theorem Operation.perform_idle (during : operation.duringPause = true) :
    operation.perform.Transacts m fun _ m' =>
      Idle m m' ∧ m'.settings.paused = true ∧ operation.moves = false := by
  cases moves : operation.moves with
  | true => exact .refused .paused (refused_of_paused paused moves)
  | false =>
      cases operation with
      | transfer | publish | redeem | payOut => cases moves
      | mint | fundCustody => cases during
      | redeemBatch attestations now =>
          cases attestations with
          | nil => exact .done (.redeemedAll []) m rfl ⟨.refl m, paused, rfl⟩
          | cons => cases moves
      | setPeer peer tokenDecimals inboundLimit now =>
          refine ((setPeer_transacts peer tokenDecimals inboundLimit now).mono ?_).map
          rintro _ _ - ⟨foreign⟩
          exact ⟨⟨rfl, rfl, rfl, rfl⟩, paused, rfl⟩
      | setTransceiverPeer peer =>
          refine ((setTransceiverPeer_transacts peer).mono ?_).map
          rintro _ _ - ⟨foreign⟩
          exact ⟨⟨rfl, rfl, rfl, rfl⟩, paused, rfl⟩
      | setOutboundLimit limit now => exact .done .done _ rfl ⟨⟨rfl, rfl, rfl, rfl⟩, paused, rfl⟩
      | setInboundLimit chain limit now =>
          refine ((setInboundLimit_transacts chain limit now).mono ?_).map
          rintro _ _ - ⟨found⟩
          exact ⟨⟨rfl, rfl, rfl, rfl⟩, paused, rfl⟩
      | setPaused on => exact .done .done _ rfl ⟨⟨rfl, rfl, rfl, rfl⟩, during, rfl⟩

end Paused

end Manager

end TokenTransfer
