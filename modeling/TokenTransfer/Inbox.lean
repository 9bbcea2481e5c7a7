import TokenTransfer.Fallible
import TokenTransfer.Fault

/-!
# The inbox

A transfer that was redeemed is kept in the inbox for good: its entry marks the message as used.  An
entry's status only moves forward, from not approved over waiting to released.

## Main definitions

* `TransferKey` - the source chain and the message id of a transfer
* `ReleaseStatus` - how far a transfer has come
* `InboxItem` - a transfer that was redeemed
* `InboxItem.releaseAfter`, `InboxItem.tryRelease` - move the status forward
* `InboxItem.queued` - the view of a transfer that waits for its release
-/

namespace TokenTransfer

/-- The source chain and the message id of a transfer, which tell it apart. -/
structure TransferKey where
  chain : ChainId
  id : MessageId
deriving DecidableEq

/-- Keys are ordered by chain and then by id. -/
instance : Ranked TransferKey where
  rank key := rank key.chain * Bytes.count 32 + rank key.id
  rank_inj {a b} h := by
    have ha : rank a.id < Bytes.count 32 := a.id.toNat_lt
    have hb : rank b.id < Bytes.count 32 := b.id.toNat_lt
    obtain ⟨chainA, idA⟩ := a
    obtain ⟨chainB, idB⟩ := b
    dsimp only at h ha hb
    have chain (c : ChainId) (id : MessageId) (lt : rank id < Bytes.count 32) :
        (rank c * Bytes.count 32 + rank id) / Bytes.count 32 = rank c := by
      rw [Nat.mul_comm, Nat.mul_add_div (Bytes.count_pos 32), Nat.div_eq_of_lt lt, Nat.add_zero]
    have chains : chainA = chainB := by
      apply rank_inj
      rw [← chain chainA idA ha, h, chain chainB idB hb]
    subst chains
    have ids : idA = idB := rank_inj (Nat.add_left_cancel h)
    rw [ids]

/-- How far a transfer has come on its way to its recipient. -/
inductive ReleaseStatus where
  | notApproved
  | releaseAfter (time : Timestamp)
  | released
deriving DecidableEq

/-- A transfer that was redeemed. -/
structure InboxItem where
  fromChain : ChainId
  message : ManagerMessage Transfer
  /-- The amount in units of the local token. -/
  amount : UInt64
  recipient : Address
  status : ReleaseStatus
deriving DecidableEq

/-- A transfer that waits for its release. -/
structure InboundQueued where
  message : ManagerMessage Transfer
  releaseAfter : Timestamp
  recipient : Address
  amount : Amount
deriving DecidableEq

namespace InboxItem

/-- The entry of a message that has just come in. -/
def ofMessage (fromChain : ChainId) (message : ManagerMessage Transfer) (amount : UInt64) :
    InboxItem :=
  { fromChain, message, amount, recipient := message.payload.recipient, status := .notApproved }

/-- The key of an entry. -/
def key (item : InboxItem) : TransferKey := ⟨item.fromChain, item.message.id⟩

/-- The refusal to redeem a transfer again. -/
def alreadyRedeemed (item : InboxItem) : Fault := .alreadyRedeemed item.fromChain item.message.id

/-- Releases the transfer if its time has come, and says whether it did. -/
def tryRelease (now : Timestamp) : Fallible Fault InboxItem Bool := do
  let item ← get
  match item.status with
  | .notApproved => return false
  | .releaseAfter time =>
    if now < time then return false
    set { item with status := .released }
    return true
  | .released => throw item.alreadyRedeemed

/-- Approves the transfer for release at `time`. -/
def releaseAfter (time : Timestamp) : Fallible Fault InboxItem Unit := do
  let item ← get
  if item.status ≠ .notApproved then throw item.alreadyRedeemed
  set { item with status := .releaseAfter time }

/-- The view of an entry that waits for release at `time`. -/
def waiting (item : InboxItem) (time : Timestamp) : InboundQueued :=
  { message := item.message
    releaseAfter := time
    recipient := item.recipient
    amount := item.message.payload.amount }

/-- The view of an entry while it waits for its release. -/
def queued (item : InboxItem) : Option InboundQueued :=
  match item.status with
  | .releaseAfter time => some (item.waiting time)
  | .notApproved | .released => none

end InboxItem

end TokenTransfer
