import TokenTransfer.Proofs.Manager.Limits
import TokenTransfer.Proofs.Manager.Publication

/-!
# Value that has to wait

Value that exceeds a limit has to wait for as long as the limit takes to fill, and nothing that
happens in the meantime makes the wait shorter: neither other transfers nor redemptions, nor new
limits, peers or a pause.  This holds in both directions, of transfers in the inbox and in the
outbox.

All limits of a manager take the same time to fill (`Reachable.timed`), so the time at which a wait
is over depends on nothing but when it has begun.  It is written into the entry when value comes in,
where only a payout changes it, and into the item when value goes out, where nothing does.  Payouts
and publications look at what is written there, and at no limit.

## Main definitions

* `Handled` - what an event does to the inbox
* `Event.Queues` - an event makes a transfer wait in the inbox
* `InboundWaits`, `OutboundWaits` - the statements about a run, in parts
-/

namespace TokenTransfer

namespace Manager

variable {m m' : Manager} {now : Timestamp}

/-! ### What accepting transfers does to the inbox -/

namespace Accepted

variable {transfer : ValidTransfer} {redemption : Redemption}
  (accepted : Accepted m transfer now redemption m') {key : TransferKey}

include accepted

/-- Accepting a transfer leaves the times of the limits alone. -/
theorem timed (timed : m.Timed) : m'.Timed := by
  have regulated : Regulated (some now) (redemption.payouts.map .ofPayout) m m' :=
    .passes rfl accepted.passesAll
  exact regulated.timed (congrArg Settings.duration accepted.settings_eq) timed

/-- An entry that waits has waited before, or waits as long as limits take to fill. -/
theorem waiting (timed : m.Timed) {item : InboxItem} (found : m'.inbox.find? key = some item)
    {time : Timestamp} (waits : item.status = .releaseAfter time) :
    m.inbox.find? key = some item ∨ time.toInt = now.delayed m.settings.duration := by
  cases accepted with
  | @queued limit limited exceeds =>
      rcases Table.find?_insert_eq_some found with ⟨rfl, rfl⟩ | ⟨-, found⟩
      · have due : limit.releaseTime now = time := ReleaseStatus.releaseAfter.inj waits
        have found : m.gates (.inbound transfer.fromChain) = some limit := limited
        exact .inr (due ▸ timed.toInt_releaseTime found now)
      · exact .inl found
  | released limited fits pays =>
      rcases Table.find?_insert_eq_some found with ⟨rfl, rfl⟩ | ⟨-, found⟩
      · cases waits
      · exact .inl found

end Accepted

namespace AcceptedAll

variable {transfers : List ValidTransfer} {redemptions : List Redemption}
  (accepted : AcceptedAll now m transfers redemptions m') {key : TransferKey} {item : InboxItem}

include accepted

/-- A batch leaves the entries alone that were there. -/
theorem find?_eq_some (found : m.inbox.find? key = some item) :
    m'.inbox.find? key = some item := by
  induction accepted with
  | nil => exact found
  | @cons _ _ _ transfer _ _ _ absent suits accepted _ ih =>
      apply ih
      have other : key ≠ transfer.key := by
        rintro rfl
        cases absent.symm.trans found
      rw [accepted.find?_eq other, found]

/-- **What waits after transfers were accepted** has waited before, or waits as long as limits take
to fill. -/
theorem waiting (timed : m.Timed) (found : m'.inbox.find? key = some item) {time : Timestamp}
    (waits : item.status = .releaseAfter time) :
    m.inbox.find? key = some item ∨ time.toInt = now.delayed m.settings.duration := by
  induction accepted with
  | nil => exact .inl found
  | cons absent suits accepted _ ih =>
      rcases ih (accepted.timed timed) found with found | due
      · exact accepted.waiting timed found waits
      · rw [accepted.settings_eq] at due
        exact .inr due

/-- What callers are told to wait for has entered the inbox, and waits there. -/
theorem exists_entry {view : InboundQueued} (told : .queued view ∈ redemptions) :
    ∃ key item, m.inbox.find? key = none ∧ m'.inbox.find? key = some item ∧
      item.status = .releaseAfter view.releaseAfter ∧ item.queued = some view := by
  induction accepted with
  | nil => cases told
  | @cons _ _ _ transfer _ redemption _ absent suits accepted rest ih =>
      rcases List.mem_cons.mp told with rfl | told
      · cases accepted with
        | queued limited waits =>
            exact ⟨transfer.key, _, absent, rest.find?_eq_some (Table.find?_insert_self _ _ _),
              rfl, rfl⟩
      · obtain ⟨key, item, absent', entered⟩ := ih told
        exact ⟨key, item, (accepted.absent_iff.mp absent').2, entered⟩

/-- What is paid to accept a transfer was not in the inbox. -/
theorem absent_of_paid {payout : Payout}
    (paid : payout ∈ redemptions.flatMap Redemption.payouts) :
    m.inbox.find? payout.key = none := by
  induction accepted with
  | nil => cases paid
  | cons absent suits accepted _ ih =>
      rw [List.flatMap_cons, List.mem_append] at paid
      rcases paid with paid | paid
      · cases accepted with
        | queued limited waits => cases paid
        | released limited fits pays =>
            cases List.mem_singleton.mp paid
            exact absent
      · exact (accepted.absent_iff.mp (ih paid)).2

end AcceptedAll

/-! ### What events do to the inbox -/

/-- The time at which an operation redeems, if it is a redemption. -/
def Operation.redeemTime? : Operation → Option Timestamp
  | redeem _ now | redeemBatch _ now => some now
  | _ => none

/-- What a reply tells of the redemptions that were made. -/
def Reply.redemptions : Reply → List Redemption
  | redeemed redemption => [redemption]
  | redeemedAll redemptions => redemptions
  | _ => []

/-- The redemptions that an event has made; none if the operation was refused. -/
def Event.redemptions (e : Event) : List Redemption :=
  match e.outcome with
  | .ok reply => reply.redemptions
  | .error _ => []

/-- **What an event does to the inbox**: it redeems transfers, it pays one that waits, or it leaves
the inbox alone. -/
inductive Handled (operation : Operation) (redemptions : List Redemption) (effects : List Effect)
    (m m' : Manager) : Prop
  | redeems {now : Timestamp} {transfers : List ValidTransfer}
      (time : operation.redeemTime? = some now)
      (paid : effects = (redemptions.flatMap Redemption.payouts).map .paid)
      (accepted : AcceptedAll now m transfers redemptions m')
  | pays {payout : Payout} {now : Timestamp} (time : operation.time? = some now)
      (none : redemptions = []) (paid : effects = [.paid payout])
      (step : Step m (.pay payout now) m')
  | leaves (none : redemptions = []) (unpaid : ∀ payout, .paid payout ∉ effects)
      (same : m'.inbox = m.inbox)

/-- What goes out leaves the inbox alone. -/
theorem Transferred.inbox_eq {request : TransferRequest} {item : OutboxItem}
    (transferred : Transferred m request now item m') : m'.inbox = m.inbox := by
  obtain ⟨prepared, takes, enqueued⟩ := transferred
  cases enqueued with
  | admitted limited fits => rfl
  | delayed waits => rfl

/-- What each operation does to the inbox. -/
theorem Operation.Does.handled {operation : Operation} {reply : Reply}
    (does : operation.Does m reply m') :
    Handled operation reply.redemptions (operation.effects reply) m m' := by
  cases does with
  | transfer transferred => exact .leaves rfl (by simp [effects]) transferred.inbox_eq
  | publish step =>
      cases step with
      | announce found unreleased due known => exact .leaves rfl (by simp [effects]) rfl
  | redeem validates accepted =>
      have valid := validated_of_validate validates
      exact .redeems rfl (by simp [effects, Reply.redemptions])
        (.cons valid.absent valid.suits accepted .nil)
  | redeemBatch rehearsed accepted => exact .redeems rfl rfl accepted
  | payOut step => exact .pays rfl rfl rfl step
  | _ => exact .leaves rfl (by simp [effects]) rfl

/-- What an event does to the inbox, which is nothing if it was refused. -/
theorem Event.handled (e : Event) (balanced : e.before.ledger.Balanced) :
    Handled e.operation e.redemptions e.effects e.before e.after := by
  rcases e.refused_or_does balanced with ⟨fault, refused, same⟩ | ⟨reply, replied, does⟩
  · rw [Event.redemptions, Event.effects, refused, same]
    exact .leaves rfl (fun payout => List.not_mem_nil) rfl
  · rw [Event.redemptions, Event.effects, replied]
    exact does.handled

namespace Handled

variable {operation : Operation} {redemptions : List Redemption} {effects : List Effect}
  (handled : Handled operation redemptions effects m m')

include handled

/-- **An entry that is new and waits was queued by a redemption**, and waits as long as limits take
to fill. -/
theorem queued (timed : m.Timed) {key : TransferKey} {item : InboxItem} {time : Timestamp}
    (absent : m.inbox.find? key = none) (found : m'.inbox.find? key = some item)
    (waits : item.status = .releaseAfter time) :
    ∃ now, operation.redeemTime? = some now ∧ time.toInt = now.delayed m.settings.duration := by
  cases handled with
  | @redeems now transfers redeems paid accepted =>
      rcases accepted.waiting timed found waits with before | due
      · cases absent.symm.trans before
      · exact ⟨now, redeems, due⟩
  | pays time none paid step =>
      obtain ⟨_, _, received, -⟩ := step.exists_received absent found
      cases received
  | leaves none unpaid same =>
      rw [same] at found
      cases absent.symm.trans found

/-- What callers are told to wait for has entered the inbox, and waits there. -/
theorem exists_entry {view : InboundQueued} (told : .queued view ∈ redemptions) :
    ∃ key item, m.inbox.find? key = none ∧ m'.inbox.find? key = some item ∧
      item.status = .releaseAfter view.releaseAfter ∧ item.queued = some view := by
  cases handled with
  | redeems time paid accepted => exact accepted.exists_entry told
  | pays time none paid step =>
      rw [none] at told
      cases told
  | leaves none unpaid same =>
      rw [none] at told
      cases told

/-- **What is paid was not in the inbox before, or it has waited there and is due.** -/
theorem absent_or_due {payout : Payout} (paid : .paid payout ∈ effects) :
    m.inbox.find? payout.key = none ∨
      ∃ item time now, m.inbox.find? payout.key = some item ∧ item.status = .releaseAfter time ∧
        operation.time? = some now ∧ time ≤ now := by
  cases handled with
  | redeems redeems all accepted =>
      rw [all] at paid
      obtain ⟨payout', mem, same⟩ := List.mem_map.mp paid
      cases same
      exact .inl (accepted.absent_of_paid mem)
  | @pays payout' now time none one step =>
      rw [one] at paid
      cases List.mem_singleton.mp paid
      cases step with
      | pay found waits due pays =>
          exact .inr ⟨_, _, now, found, waits, time, Int64.not_lt.mp due⟩
  | leaves none unpaid same => exact absurd paid (unpaid payout)

end Handled

/-! ### Runs -/

/-- **An event makes a transfer wait** in the inbox until `time`. -/
structure Event.Queues (e : Event) (key : TransferKey) (item : InboxItem) (time : Timestamp) :
    Prop where
  absent : e.before.inbox.find? key = none
  found : e.after.inbox.find? key = some item
  waits : item.status = .releaseAfter time

section Queues

variable {run : List Operation} (balanced : m.ledger.Balanced) {e : Event} (mem : e ∈ m.events run)
  {key : TransferKey} {item : InboxItem} {time : Timestamp} (queues : e.Queues key item time)

include balanced mem queues

/-- What waits in the inbox waits for the same time until it is paid. -/
theorem waits_after :
    ∃ status, (m.after run).inbox.find? key = some { item with status } ∧
      (status = .releaseAfter time ∨ status = .released) := by
  obtain ⟨balanced', -⟩ := before_of_mem_events balanced mem
  obtain ⟨earlier, later, -, after, -⟩ := exists_split_of_mem_events mem
  obtain ⟨status, found, leads⟩ := inbox_kept (e.balanced_after balanced') later queues.found
  rw [after]
  refine ⟨status, found, ?_⟩
  rcases leads with same | ⟨-, released⟩
  · exact .inl (same.trans queues.waits)
  · exact .inr released

/-- **What waits in the inbox is not paid before its time**, by no event of the run. -/
theorem due_of_paid {e' : Event} (mem' : e' ∈ m.events run) {payout : Payout}
    (paid : .paid payout ∈ e'.effects) (same : payout.key = key) :
    ∃ now, e'.operation.time? = some now ∧ time ≤ now := by
  subst same
  obtain ⟨balanced', -⟩ := before_of_mem_events balanced mem
  have balanced'' := e.balanced_after balanced'
  obtain ⟨earlier, later, before, -, split⟩ := exists_split_of_mem_events mem
  rw [split, List.mem_append, List.mem_cons] at mem'
  rcases mem' with mem' | rfl | mem'
  · -- What is paid in an earlier event is in the inbox when this one begins.
    have paid : .paid payout ∈ m.effects earlier := List.mem_flatMap.mpr ⟨e', mem', paid⟩
    obtain ⟨moves, trace, effects⟩ := exists_trace balanced earlier
    obtain ⟨other, found, -⟩ := trace.paid_stored (effects ▸ paid)
    have absent := queues.absent
    rw [before] at absent
    cases absent.symm.trans found
  · -- What is paid in this event does not wait when it ends.
    obtain ⟨moves, trace, effects⟩ := e'.exists_trace balanced'
    obtain ⟨other, found, released, -⟩ := trace.paid_stored (effects ▸ paid)
    cases queues.found.symm.trans found
    cases queues.waits.symm.trans released
  · -- A later event finds what this one has left behind.
    obtain ⟨between, _, -, before'⟩ := exists_before_of_mem_events mem'
    obtain ⟨status, found, leads⟩ := inbox_kept balanced'' between queues.found
    obtain ⟨balanced₂, -⟩ := before_of_mem_events balanced'' mem'
    rw [← before'] at found
    rcases (e'.handled balanced₂).absent_or_due paid with
      absent | ⟨other, time', now, found', waits, performed, due⟩
    · cases absent.symm.trans found
    · cases found.symm.trans found'
      rcases leads with same | ⟨-, released⟩
      · have same : time' = time :=
          ReleaseStatus.releaseAfter.inj (waits.symm.trans (same.trans queues.waits))
        exact ⟨now, performed, same ▸ due⟩
      · cases waits.symm.trans released

end Queues

/-- A transfer that exceeds the outbound capacity may be released when its delay is over. -/
theorem Transferred.toInt_releaseTime {request : TransferRequest} {item : OutboxItem}
    (transferred : Transferred m request now item m') (timed : m.Timed)
    (exceeds : (m.outbound.capacity now).toNat < item.worth m.settings.tokenDecimals) :
    item.releaseTime.toInt = now.delayed m.settings.duration := by
  obtain @⟨dispatch, ledger, prepared, takes, enqueued⟩ := transferred
  have worth : item.worth m.settings.tokenDecimals = dispatch.amount.toNat := by
    obtain ⟨time, same⟩ := enqueued.exists_item_eq
    rw [same]
    exact prepared.worth_eq _ time
  rw [worth] at exceeds
  cases enqueued with
  | admitted limited fits => exact absurd exceeds (Nat.not_lt.mpr (UInt64.le_iff_toNat_le.mp fits))
  | delayed waits =>
      have found : m.gates .outbound = some m.outbound := rfl
      exact timed.toInt_releaseTime found now

/-- **Value that comes in does not move early**, over a run. -/
structure InboundWaits (m : Manager) (run : List Operation) : Prop where
  /-- Accounts are credited for payouts and mints and for nothing else. -/
  credited : ∀ e ∈ m.events run, ∀ account,
    (e.after.ledger.balance account).toNat +
        (e.effects.map (Effect.debit m.settings.tokenDecimals account)).sum =
      (e.before.ledger.balance account).toNat + (e.effects.map (Effect.credit account)).sum
  /-- What a redemption tells its caller to wait for waits in the inbox. -/
  told : ∀ e ∈ m.events run, ∀ view, .queued view ∈ e.redemptions →
    ∃ key item, e.Queues key item view.releaseAfter ∧ item.queued = some view
  /-- What waits in the inbox was redeemed, and waits as long as limits take to fill. -/
  queued : ∀ e ∈ m.events run, ∀ key item time, e.Queues key item time →
    ∃ now, e.operation.redeemTime? = some now ∧ time.toInt = now.delayed m.settings.duration
  /-- It waits for the same time until it is paid. -/
  waits : ∀ e ∈ m.events run, ∀ key item time, e.Queues key item time →
    ∃ status, (m.after run).inbox.find? key = some { item with status } ∧
      (status = .releaseAfter time ∨ status = .released)
  /-- It is not paid before that time. -/
  due : ∀ e ∈ m.events run, ∀ key item time, e.Queues key item time →
    ∀ e' ∈ m.events run, ∀ payout, .paid payout ∈ e'.effects → payout.key = key →
      ∃ now, e'.operation.time? = some now ∧ time ≤ now

/-- **Value that goes out does not move early**, over a run. -/
structure OutboundWaits (m : Manager) (run : List Operation) : Prop where
  /-- What exceeds the outbound capacity waits as long as limits take to fill. -/
  delayed : ∀ e ∈ m.events run, ∀ request now item, e.operation = .transfer request now →
    .sent item ∈ e.effects →
    (e.before.outbound.capacity now).toNat < item.worth m.settings.tokenDecimals →
    item.releaseTime.toInt = now.delayed m.settings.duration
  /-- What was sent waits for the same time until it is published. -/
  waits : ∀ e ∈ m.events run, ∀ item, .sent item ∈ e.effects →
    ∃ released, (m.after run).outbox.find? item.sequence = some { item with released }
  /-- It is not published before that time. -/
  due : ∀ e ∈ m.events run, ∀ item, .sent item ∈ e.effects →
    ∀ e' ∈ m.events run, e'.published? = some item.sequence →
      ∃ now, e'.operation.time? = some now ∧ item.releaseTime ≤ now

section Start

variable (settings : Settings) (outboundLimit : UInt64) (now : Timestamp) (run : List Operation)

/-- **Nothing comes in early** over a run of a new manager. -/
theorem inboundWaits_start : InboundWaits (start settings outboundLimit now) run := by
  have reachable := reachable_start settings outboundLimit now
  refine ⟨?_, ?_, ?_, ?_, ?_⟩
  · intro e mem account
    obtain ⟨balanced, same⟩ := before_of_mem_events reachable.balanced mem
    rw [← tokenDecimals_eq_of_fixed_eq same]
    exact e.balance balanced account
  · intro e mem view told
    obtain ⟨balanced, -⟩ := before_of_mem_events reachable.balanced mem
    obtain ⟨key, item, absent, found, waits, viewed⟩ := (e.handled balanced).exists_entry told
    exact ⟨key, item, ⟨absent, found, waits⟩, viewed⟩
  · intro e mem key item time queues
    obtain ⟨balanced, same⟩ := before_of_mem_events reachable.balanced mem
    rw [← duration_eq_of_fixed_eq same]
    exact (e.handled balanced).queued (reachable.of_mem_events mem).timed queues.absent queues.found
      queues.waits
  · intro e mem key item time queues
    exact waits_after reachable.balanced mem queues
  · intro e mem key item time queues e' mem' payout paid same
    exact due_of_paid reachable.balanced mem queues mem' paid same

/-- **Nothing goes out early** over a run of a new manager, while numbers last. -/
theorem outboundWaits_start
    (fits : (((start settings outboundLimit now).effects run).map Effect.sends).sum < 2 ^ 64) :
    OutboundWaits (start settings outboundLimit now) run := by
  have reachable := reachable_start settings outboundLimit now
  have balanced := reachable.balanced
  have numbered := numbered_start settings outboundLimit now
  have fits := fits_start settings outboundLimit now fits
  refine ⟨?_, ?_, ?_⟩
  · intro e mem request now item operation sent exceeds
    obtain ⟨balanced', same⟩ := before_of_mem_events balanced mem
    rw [← tokenDecimals_eq_of_fixed_eq same] at exceeds
    rw [← duration_eq_of_fixed_eq same]
    have transferred := e.transferred_of_sent balanced' operation sent
    exact transferred.toInt_releaseTime (reachable.of_mem_events mem).timed exceeds
  · intro e mem item sent
    obtain ⟨-, stored, -⟩ := stored_of_sent balanced numbered fits mem sent
    exact outbox_kept_after balanced numbered fits mem stored
  · intro e mem item sent e' mem' published
    obtain ⟨peer, now, operation, due, -, -⟩ :=
      published_of_sent balanced numbered fits mem sent mem' published
    exact ⟨now, by rw [operation]; rfl, due⟩

/-- **Value that has to wait does not move early.**  It holds of every run of a new manager,
whatever the operations and their times.

A counter of numbers that runs over stops the program, so a run has sent fewer than `2 ^ 64`
transfers; this matters to those that wait in the outbox, which stand under their numbers. -/
theorem no_early_release :
    InboundWaits (start settings outboundLimit now) run ∧
      ((((start settings outboundLimit now).effects run).map Effect.sends).sum < 2 ^ 64 →
        OutboundWaits (start settings outboundLimit now) run) :=
  ⟨inboundWaits_start settings outboundLimit now run,
    outboundWaits_start settings outboundLimit now run⟩

end Start

/-- The key of a transfer that exceeds what may come in. -/
def sampleKey : TransferKey := ⟨sampleSource.chain, .ofNat 32 7⟩

/-- A transfer exceeds what may go out, and another one what may come in.  They are published and
paid a second before a day is over, and again when it is. -/
def sampleWait : List Operation :=
  peering sampleSource ++
    [.mint (.ofNat 32 1) 9000000000,
      .transfer
        { sender := .ofNat 32 1
          amount := 8000000000
          recipient := ⟨sampleSource.chain, .ofNat 32 2⟩
          mayQueue := true
          hint := none } 0,
      .redeem (sampleDelivery 7 6000000000) 0,
      .publish 0 86399, .payOut sampleKey 86399,
      .publish 0 86400, .payOut sampleKey 86400]

/-- Value is minted, sent, published and paid; the redemption and the two early attempts move
none. -/
theorem no_early_release_of_sample :
    ((start sampleTarget 5000000000 0).events sampleWait).map (fun e => e.effects.length) =
        [0, 0, 1, 1, 0, 0, 0, 1, 1] ∧
      InboundWaits (start sampleTarget 5000000000 0) sampleWait ∧
      OutboundWaits (start sampleTarget 5000000000 0) sampleWait := by
  obtain ⟨inbound, outbound⟩ := no_early_release sampleTarget 5000000000 0 sampleWait
  exact ⟨by decide +kernel, inbound, outbound (by decide +kernel)⟩

end Manager

end TokenTransfer
