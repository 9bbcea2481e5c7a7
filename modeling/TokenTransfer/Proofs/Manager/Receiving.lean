import TokenTransfer.Proofs.Manager.Validation

/-!
# Receiving, move by move

A transfer that is redeemed enters the inbox (`receive`), and one that fits the capacity is paid at
once (`pay`).  A redemption decides everything before it changes anything: it checks that what is
due can be paid, and on a balanced ledger whatever custody or supply allow can be paid to any
account.

The check is stated as a forecast of the limits and totals.  A batch makes such a forecast for each
of its transfers, and a single redemption is a batch of one.

## Main definitions

* `Manager.Accepted` - what accepting a transfer does to the manager
* `Manager.Accepts` - the trace that accepting transfers leaves
* `Manager.vet` - what a redemption checks before it changes anything

## Main statements

* `payOut_transacts`, `redeem_transacts` - each operation is a trace or nothing
* `accept_yields` - a transfer for which a forecast is made is accepted
* `runOn_redeem` - a redemption that passes its checks accepts the transfer, and one that fails them
  changes nothing
* `vet_eq_ok_iff` - which transfers pass the checks
-/

namespace TokenTransfer

namespace Manager

open Fallible

variable {m m' : Manager}

/-! ### Paying -/

/-- What a ledger yields, a manager yields by its ledger. -/
theorem onLedger_yields {change : Ledger.Action} {post : Unit → Ledger → Prop}
    (h : change.Yields m.ledger post) :
    (onLedger change).Yields m fun u m' => ∃ ledger, m' = { m with ledger } ∧ post u ledger :=
  h.focus

/-- Locked tokens are unlocked, and burned ones are minted again. -/
theorem runOn_payTo (account : Address) (amount : UInt64) :
    (payTo account amount).runOn m =
      match m.settings.mode with
      | .locking => (onLedger (Ledger.unlock account amount)).runOn m
      | .burning => (onLedger (Ledger.mint account amount)).runOn m := by
  unfold payTo
  simp only [runOn_bind, runOn_get]
  cases m.settings.mode with
  | locking => rfl
  | burning => rfl

/-- A payment credits the account, or leaves the manager as it was. -/
theorem payTo_transacts (account : Address) (amount : UInt64) :
    (payTo account amount).Transacts m fun _ m' =>
      ∃ ledger, m' = { m with ledger } ∧
        Ledger.Pays m.settings.mode account amount m.ledger ledger := by
  have runs := runOn_payTo (m := m) account amount
  cases mode : m.settings.mode with
  | locking =>
      rw [mode] at runs
      exact (onLedger_transacts (Ledger.unlock_transacts account amount m.ledger)).of_runOn_eq runs
  | burning =>
      rw [mode] at runs
      exact (onLedger_transacts (Ledger.mint_transacts account amount m.ledger)).of_runOn_eq runs

/-- **What custody or supply allow can be paid**, whatever the balance of the account. -/
theorem payTo_yields (balanced : m.ledger.Balanced) {amount : UInt64}
    (payable : ensurePayable m.settings.mode m.ledger.custody m.ledger.supply amount = .ok ())
    (account : Address) :
    (payTo account amount).Yields m fun _ m' =>
      ∃ ledger, m' = { m with ledger } ∧
        Ledger.Pays m.settings.mode account amount m.ledger ledger := by
  have runs := runOn_payTo (m := m) account amount
  unfold ensurePayable at payable
  cases mode : m.settings.mode with
  | locking =>
      rw [mode] at runs payable
      have enough : ¬ m.ledger.custody < amount := by
        intro short
        simp [short] at payable
      obtain ⟨u, m', runs', holds⟩ :=
        onLedger_yields (Ledger.unlock_yields balanced (UInt64.not_lt.mp enough) account)
      exact ⟨u, m', runs.trans runs', holds⟩
  | burning =>
      rw [mode] at runs payable
      have room : (Word64.add? m.ledger.supply amount).isSome := by
        cases sum : Word64.add? m.ledger.supply amount with
        | none => simp [sum] at payable
        | some total => rfl
      obtain ⟨u, m', runs', holds⟩ := onLedger_yields (Ledger.mint_yields balanced room account)
      exact ⟨u, m', runs.trans runs', holds⟩

theorem inboxItem_eq_ok_iff {key : TransferKey} {item : InboxItem} :
    m.inboxItem key = .ok item ↔ m.inbox.find? key = some item := by
  unfold inboxItem
  cases m.inbox.find? key with
  | none => simp
  | some found => simp

/-- An entry is due when it waits and its time has come. -/
theorem ensureDue_eq_ok_iff {key : TransferKey} {status : ReleaseStatus} {now : Timestamp}
    {u : Unit} :
    ensureDue key status now = .ok u ↔ ∃ time, status = .releaseAfter time ∧ ¬ now < time := by
  unfold ensureDue
  cases status with
  | notApproved => simp
  | releaseAfter time => simp
  | released => simp

/-- An entry that is due is released. -/
theorem runOn_tryRelease {item : InboxItem} {time now : Timestamp}
    (waits : item.status = .releaseAfter time) (due : ¬ now < time) :
    (InboxItem.tryRelease now).runOn item = (.ok true, { item with status := .released }) := by
  unfold InboxItem.tryRelease
  simp [runOn_bind, runOn_map, Except.map, waits, due]

/-- The status is changed only after the tokens were moved, but by then it is known that the change
will be made. -/
theorem runOn_settle {item : InboxItem} {time now : Timestamp}
    (waits : item.status = .releaseAfter time) (due : ¬ now < time) (key : TransferKey) :
    (settle key item now).runOn m =
      (.ok (item.payout key),
        { m with inbox := m.inbox.insert key { item with status := .released } }) := by
  unfold settle
  simp [runOn_bind, runOn_map, Except.map, runOn_tryRelease waits due, InboxItem.payout]

/-- **A payout is one move**, or nothing. -/
theorem payOut_transacts (key : TransferKey) (now : Timestamp) :
    (payOut key now).Transacts m fun payout m' => Step m (.pay payout now) m' := by
  unfold payOut
  refine transacts_ask_bind fun _ _ => transacts_ask_bind fun item lookup =>
    transacts_ofExcept_bind fun _ isDue => ?_
  have found := inboxItem_eq_ok_iff.mp lookup
  obtain ⟨time, waits, due⟩ := ensureDue_eq_ok_iff.mp isDue
  refine Transacts.bind ((payTo_transacts item.recipient item.amount).mono ?_)
  rintro - m' - ⟨ledger, rfl, pays⟩
  exact ⟨_, _, runOn_settle waits due key, .pay found waits due pays⟩

/-- A transfer that is due is paid wherever custody or supply allow it. -/
theorem payOut_yields {key : TransferKey} {item : InboxItem} {time now : Timestamp}
    (balanced : m.ledger.Balanced) (active : m.settings.paused = false)
    (found : m.inbox.find? key = some item) (waits : item.status = .releaseAfter time)
    (due : ¬ now < time)
    (payable :
      ensurePayable m.settings.mode m.ledger.custody m.ledger.supply item.amount = .ok ()) :
    (payOut key now).Yields m fun payout m' =>
      payout = item.payout key ∧ ∃ ledger,
        Ledger.Pays m.settings.mode item.recipient item.amount m.ledger ledger ∧
        m' = { m with ledger, inbox := m.inbox.insert key { item with status := .released } } := by
  have isActive : m.ensureActive = .ok () := ensureActive_eq_ok_iff.mpr active
  have isFound : m.inboxItem key = .ok item := inboxItem_eq_ok_iff.mpr found
  have isDue : ensureDue key item.status now = .ok () := ensureDue_eq_ok_iff.mpr ⟨time, waits, due⟩
  unfold payOut
  refine yields_bind_of_ok (congrArg (·, m) isActive) (yields_bind_of_ok (congrArg (·, m) isFound)
    (yields_bind_of_ok (congrArg (·, m) isDue) (Yields.bind ?_)))
  refine (payTo_yields balanced payable item.recipient).mono ?_
  rintro - m' ⟨ledger, rfl, pays⟩
  exact ⟨_, _, runOn_settle waits due key, rfl, ledger, pays, rfl⟩

/-! ### What a payout leaves, word for word -/

theorem exists_of_onLedger {change : Ledger.Action} {u : Unit}
    (runs : (onLedger change).runOn m = (.ok u, m')) :
    ∃ ledger, change.runOn m.ledger = (.ok u, ledger) ∧ m' = { m with ledger } := by
  unfold onLedger at runs
  rw [runOn_focus] at runs
  obtain ⟨outcome, left⟩ := Prod.mk.inj runs
  exact ⟨_, Prod.ext outcome rfl, left.symm⟩

/-- The ledger after a payment, word for word. -/
theorem eq_of_payTo {account : Address} {amount : UInt64} {u : Unit}
    (runs : (payTo account amount).runOn m = (.ok u, m')) :
    m' = { m with ledger := m.ledger.paid m.settings.mode account amount } := by
  rw [runOn_payTo] at runs
  cases mode : m.settings.mode with
  | locking =>
      rw [mode] at runs
      obtain ⟨ledger, unlocks, rfl⟩ := exists_of_onLedger runs
      rw [Ledger.eq_paid_of_unlock unlocks]
  | burning =>
      rw [mode] at runs
      obtain ⟨ledger, mints, rfl⟩ := exists_of_onLedger runs
      rw [Ledger.eq_paid_of_mint mints]

/-- The manager after a payout, word for word. -/
theorem exists_of_payOut {key : TransferKey} {now : Timestamp} {payout : Payout}
    (runs : (payOut key now).runOn m = (.ok payout, m')) :
    ∃ item, m.inbox.find? key = some item ∧ payout = item.payout key ∧
      m' =
        { m with
          ledger := m.ledger.paid m.settings.mode item.recipient item.amount
          inbox := m.inbox.insert key { item with status := .released } } := by
  unfold payOut at runs
  obtain ⟨_, -, runs⟩ := runOn_ask_bind_eq_ok_iff.mp runs
  obtain ⟨item, lookup, runs⟩ := runOn_ask_bind_eq_ok_iff.mp runs
  obtain ⟨_, _, ensures, runs⟩ := runOn_bind_eq_ok_iff.mp runs
  rw [runOn_ofExcept] at ensures
  obtain ⟨isDue, rfl⟩ := Prod.mk.inj ensures
  obtain ⟨time, waits, due⟩ := ensureDue_eq_ok_iff.mp isDue
  obtain ⟨_, _, pays, runs⟩ := runOn_bind_eq_ok_iff.mp runs
  cases eq_of_payTo pays
  rw [runOn_settle waits due] at runs
  obtain ⟨same, rfl⟩ := Prod.mk.inj runs
  exact ⟨item, inboxItem_eq_ok_iff.mp lookup, (Except.ok.inj same).symm, rfl⟩

/-! ### What comes of accepting transfers -/

/-- **What accepting transfers does.**  They enter the inbox one after the other, each followed by
its payout if it is paid at once, and no other entry changes. -/
structure Accepts (m : Manager) (transfers : List ValidTransfer) (payouts : List Payout)
    (m' : Manager) : Prop where
  settings : m'.settings = m.settings
  others : ∀ key, key ∉ transfers.map ValidTransfer.key → m'.inbox.find? key = m.inbox.find? key
  moves : ∃ moves, Trace m moves m' ∧ moves.filterMap Move.received? = transfers ∧
    moves.filterMap Move.effect? = payouts.map .paid

theorem Accepts.nil : Accepts m [] [] m := ⟨rfl, fun _ _ => rfl, [], .nil, rfl, rfl⟩

/-- What was accepted in two parts was accepted. -/
theorem Accepts.append {transfers transfers' : List ValidTransfer} {payouts payouts' : List Payout}
    {m' m'' : Manager} (first : Accepts m transfers payouts m')
    (second : Accepts m' transfers' payouts' m'') :
    Accepts m (transfers ++ transfers') (payouts ++ payouts') m'' := by
  obtain ⟨moves, trace, received, effects⟩ := first.moves
  obtain ⟨moves', trace', received', effects'⟩ := second.moves
  refine ⟨second.settings.trans first.settings, ?_, moves ++ moves', trace.append trace', ?_, ?_⟩
  · intro key fresh
    rw [List.map_append, List.mem_append, not_or] at fresh
    rw [second.others key fresh.2, first.others key fresh.1]
  · rw [List.filterMap_append, received, received']
  · rw [List.filterMap_append, effects, effects', List.map_append]

/-- A transfer enters the inbox. -/
theorem Accepts.received {transfer : ValidTransfer} (absent : m.inbox.find? transfer.key = none)
    (suits : transfer.Suits m.settings)
    (time : Timestamp) (inbound : Table ChainId RateLimit) (outbound : RateLimit) :
    Accepts m [transfer] []
      { m with
        inbound, outbound
        inbox := m.inbox.insert transfer.key (transfer.entry time) } := by
  refine ⟨rfl, ?_, [.receive transfer time], .single (.receive absent suits), rfl, rfl⟩
  intro key fresh
  exact Table.find?_insert_of_ne _ _ (by simpa using fresh)

/-- A transfer that has entered the inbox is paid. -/
theorem Accepts.paid {transfer : ValidTransfer} {time now : Timestamp} {mid : Manager}
    {ledger : Ledger} (received : Accepts m [transfer] [] mid)
    (found : mid.inbox.find? transfer.key = some (transfer.entry time)) (due : ¬ now < time)
    (pays : Ledger.Pays mid.settings.mode (transfer.entry time).recipient transfer.amount
      mid.ledger ledger) :
    Accepts m [transfer] [(transfer.entry time).payout transfer.key]
      { mid with
        ledger
        inbox :=
          mid.inbox.insert transfer.key { transfer.entry time with status := .released } } := by
  obtain ⟨moves, trace, transfers, effects⟩ := received.moves
  refine ⟨received.settings, ?_, moves ++ [.pay _ now],
    trace.append (.single (.pay found rfl due pays)), ?_, ?_⟩
  · intro key fresh
    rw [← received.others key fresh]
    exact Table.find?_insert_of_ne _ _ (by simpa using fresh)
  · rw [List.filterMap_append, transfers]
    rfl
  · rw [List.filterMap_append, effects]
    rfl

/-! ### Forecasts -/

/-- The limits and totals after a payment. -/
def Forecast.paid (f : Forecast) (mode : Mode) (amount : UInt64) : Forecast :=
  match mode with
  | .locking => { f with custody := f.custody - amount }
  | .burning => { f with supply := f.supply + amount }

/-- **A forecast** looks at the limit of the chain, and where the limit lets a transfer through, at
what can be paid. -/
theorem forecast_step_eq_ok_iff {mode : Mode} {now : Timestamp} {f f' : Forecast}
    {transfer : ValidTransfer} :
    Forecast.step mode now f transfer = .ok f' ↔
      ∃ limit, f.inbound.find? transfer.fromChain = some limit ∧
        (limit.capacity now < transfer.amount ∧ f' = f ∨
          transfer.amount ≤ limit.capacity now ∧
          ensurePayable mode f.custody f.supply transfer.amount = .ok () ∧
          f' = Forecast.paid
            { f with
              inbound :=
                f.inbound.insert transfer.fromChain (limit.claim transfer.amount now).2 }
            mode transfer.amount) := by
  unfold Forecast.step
  cases found : f.inbound.find? transfer.fromChain with
  | none =>
      constructor
      · intro h
        cases h
      · rintro ⟨limit, absurd, -⟩
        cases absurd
  | some limit =>
      dsimp only
      by_cases waits : limit.capacity now < transfer.amount
      · rw [if_pos waits]
        constructor
        · intro h
          cases h
          exact ⟨limit, rfl, .inl ⟨waits, rfl⟩⟩
        · rintro ⟨_, ⟨⟩, ⟨-, rfl⟩ | ⟨fits, -⟩⟩
          · rfl
          · exact absurd waits (UInt64.not_lt.mpr fits)
      · rw [if_neg waits, Outcome.bind_eq_ok_iff]
        constructor
        · rintro ⟨_, payable, h⟩
          refine ⟨limit, rfl, .inr ⟨UInt64.not_lt.mp waits, payable, ?_⟩⟩
          cases mode with
          | locking =>
              cases h
              rfl
          | burning =>
              cases h
              rfl
        · rintro ⟨_, ⟨⟩, ⟨waits', -⟩ | ⟨-, payable, rfl⟩⟩
          · exact absurd waits' waits
          · refine ⟨(), payable, ?_⟩
            cases mode with
            | locking => rfl
            | burning => rfl

/-- What the limit lets through must be payable, and then a forecast is made. -/
theorem exists_forecast_step {mode : Mode} {now : Timestamp} {f : Forecast}
    {transfer : ValidTransfer} {limit : RateLimit}
    (limited : f.inbound.find? transfer.fromChain = some limit)
    (payable : transfer.amount ≤ limit.capacity now →
      ensurePayable mode f.custody f.supply transfer.amount = .ok ()) :
    ∃ f', Forecast.step mode now f transfer = .ok f' := by
  by_cases fits : transfer.amount ≤ limit.capacity now
  · exact ⟨_, forecast_step_eq_ok_iff.mpr ⟨limit, limited, .inr ⟨fits, payable fits, rfl⟩⟩⟩
  · exact ⟨_, forecast_step_eq_ok_iff.mpr
      ⟨limit, limited, .inl ⟨UInt64.not_le.mp fits, rfl⟩⟩⟩

/-- A forecast of the totals stays right after a payment. -/
theorem Forecast.paid_of_pays {f : Forecast} {mode : Mode} {account : Address} {amount : UInt64}
    {before after : Ledger} (pays : Ledger.Pays mode account amount before after)
    (custody : f.custody = before.custody) (supply : f.supply = before.supply) :
    f.paid mode amount = { f with custody := after.custody, supply := after.supply } := by
  cases mode with
  | locking => rw [pays.totals_of_locking.1, pays.totals_of_locking.2, ← custody, ← supply]; rfl
  | burning => rw [pays.totals_of_burning.1, pays.totals_of_burning.2, ← custody, ← supply]; rfl

/-! ### Accepting a transfer -/

/-- A fresh entry is approved for the time it is given. -/
theorem runOn_releaseAfter {item : InboxItem} (fresh : item.status = .notApproved)
    (time : Timestamp) :
    (InboxItem.releaseAfter time).runOn item =
      (.ok (), { item with status := .releaseAfter time }) := by
  unfold InboxItem.releaseAfter
  simp [runOn_bind, fresh]

/-- **What accepting a transfer does.**  One that exceeds the capacity waits in the inbox, and
nothing else changes.  One that fits is paid: it claims capacity of its chain and gives as much back
to what may go out. -/
inductive Accepted (m : Manager) (transfer : ValidTransfer) (now : Timestamp) :
    Redemption → Manager → Prop
  | queued {limit : RateLimit} (limited : m.inbound.find? transfer.fromChain = some limit)
      (waits : limit.capacity now < transfer.amount) :
      Accepted m transfer now
        (.queued ((transfer.entry (limit.releaseTime now)).waiting (limit.releaseTime now)))
        { m with inbox := m.inbox.insert transfer.key (transfer.entry (limit.releaseTime now)) }
  | released {limit : RateLimit} {ledger : Ledger}
      (limited : m.inbound.find? transfer.fromChain = some limit)
      (fits : transfer.amount ≤ limit.capacity now)
      (pays : Ledger.Pays m.settings.mode (transfer.entry now).recipient transfer.amount
        m.ledger ledger) :
      Accepted m transfer now (.released ((transfer.entry now).payout transfer.key))
        { m with
          ledger
          inbound := m.inbound.insert transfer.fromChain (limit.claim transfer.amount now).2
          outbound := m.outbound.refill transfer.amount now
          inbox := m.inbox.insert transfer.key { transfer.entry now with status := .released } }

namespace Accepted

variable {transfer : ValidTransfer} {now : Timestamp} {redemption : Redemption} {m' : Manager}

/-- Accepting a transfer leaves the settings alone. -/
theorem settings_eq (accepted : Accepted m transfer now redemption m') :
    m'.settings = m.settings := by
  cases accepted with
  | queued limited waits => rfl
  | released limited fits pays => rfl

/-- Other entries of the inbox stay as they are. -/
theorem find?_eq (accepted : Accepted m transfer now redemption m') {key : TransferKey}
    (other : key ≠ transfer.key) : m'.inbox.find? key = m.inbox.find? key := by
  cases accepted with
  | queued limited waits => exact Table.find?_insert_of_ne _ _ other
  | released limited fits pays => exact Table.find?_insert_of_ne _ _ other

/-- The transfer is in the inbox. -/
theorem exists_entry (accepted : Accepted m transfer now redemption m') :
    ∃ item, m'.inbox.find? transfer.key = some item := by
  cases accepted with
  | queued limited waits => exact ⟨_, Table.find?_insert_self _ _ _⟩
  | released limited fits pays => exact ⟨_, Table.find?_insert_self _ _ _⟩

/-- A transfer that was accepted enters the inbox, and if it was paid, that is the move after. -/
theorem accepts (accepted : Accepted m transfer now redemption m')
    (absent : m.inbox.find? transfer.key = none) (suits : transfer.Suits m.settings) :
    Accepts m [transfer] redemption.payouts m' := by
  cases accepted with
  | @queued limit limited waits =>
      exact Accepts.received absent suits (limit.releaseTime now) m.inbound m.outbound
  | @released limit ledger limited fits pays =>
      have received := Accepts.received absent suits now
        (m.inbound.insert transfer.fromChain (limit.claim transfer.amount now).2)
        (m.outbound.refill transfer.amount now)
      have paid := received.paid (Table.find?_insert_self _ _ _) Int64.lt_irrefl pays
      rwa [Table.insert_insert] at paid

/-- Accepting a transfer keeps the accounts within the totals. -/
theorem balanced (accepted : Accepted m transfer now redemption m') (h : m.ledger.Balanced) :
    m'.ledger.Balanced := by
  cases accepted with
  | queued limited waits => exact h
  | released limited fits pays => exact pays.balanced h

/-- **What is accepted was to be foreseen**: it leaves the limits and totals of the forecast. -/
theorem forecast_eq (accepted : Accepted m transfer now redemption m') {f : Forecast}
    (foreseen : Forecast.step m.settings.mode now m.forecast transfer = .ok f) :
    m'.forecast = f := by
  obtain ⟨limit, limited, cases⟩ := forecast_step_eq_ok_iff.mp foreseen
  cases accepted with
  | queued limited' waits' =>
      cases limited.symm.trans limited'
      rcases cases with ⟨-, rfl⟩ | ⟨fits, -⟩
      · rfl
      · exact absurd waits' (UInt64.not_lt.mpr fits)
  | released limited' fits' pays =>
      cases limited.symm.trans limited'
      rcases cases with ⟨waits, -⟩ | ⟨-, -, rfl⟩
      · exact absurd waits (UInt64.not_lt.mpr fits')
      · symm
        exact Forecast.paid_of_pays pays rfl rfl

end Accepted

/-- **What was forecast happens.**  No acceptance of a transfer fails for which a forecast is made,
whatever the balance of its recipient. -/
theorem accept_yields {transfer : ValidTransfer} {now : Timestamp} {f : Forecast}
    (balanced : m.ledger.Balanced) (active : m.settings.paused = false)
    (foreseen : Forecast.step m.settings.mode now m.forecast transfer = .ok f) :
    (accept transfer now).Yields m (Accepted m transfer now) := by
  obtain ⟨limit, limited, cases⟩ := forecast_step_eq_ok_iff.mp foreseen
  have limited : m.inbound.find? transfer.fromChain = some limit := limited
  have approves (time : Timestamp) :
      (InboxItem.releaseAfter time).runOn
          (InboxItem.ofMessage transfer.fromChain transfer.message transfer.amount) =
        (.ok (), transfer.entry time) := runOn_releaseAfter rfl time
  unfold accept
  refine yields_bind_of_ok (congrArg (·, m) (inboundLimit_eq_ok_iff.mpr limited)) ?_
  rcases cases with ⟨waits, -⟩ | ⟨fits, payable, -⟩
  · have claims : limit.claim transfer.amount now = (.delayed (limit.releaseTime now), limit) :=
      if_neg (UInt64.not_le.mpr waits)
    refine ⟨_, _, ?_, .queued limited waits⟩
    -- The limit is written back as it was.
    simp [runOn_bind, runOn_map, Except.map, claims, approves, Table.insert_of_find? limited,
      transfer.key_entry]
  · have claims : limit.claim transfer.amount now =
        (.consumed now, (limit.claim transfer.amount now).2) := by
      simp [RateLimit.claim, fits]
    generalize (limit.claim transfer.amount now).2 = limit' at claims
    let mid : Manager :=
      { m with
        inbound := m.inbound.insert transfer.fromChain limit'
        outbound := m.outbound.refill transfer.amount now
        inbox := m.inbox.insert transfer.key (transfer.entry now) }
    obtain ⟨_, _, runs, rfl, ledger, pays, rfl⟩ :=
      payOut_yields (m := mid) balanced active
        (Table.find?_insert_self m.inbox transfer.key (transfer.entry now)) rfl Int64.lt_irrefl
        payable
    refine ⟨_, _, ?_, .released limited fits pays⟩
    simp [runOn_bind, runOn_map, Except.map, claims, approves, runs, mid, Table.insert_insert,
      transfer.key_entry]

/-! ### Redeeming -/

/-- **All that a redemption decides** before it changes anything: that the attestation is valid, and
that what is due at once can be paid. -/
def vet (m : Manager) (attestation : Attestation) (now : Timestamp) :
    Except Fault ValidTransfer := do
  let transfer ← m.validate attestation
  let limit ← m.inboundLimit transfer.fromChain
  if transfer.amount ≤ limit.capacity now then
    ensurePayable m.settings.mode m.ledger.custody m.ledger.supply transfer.amount
  return transfer

/-- A redemption decides first and accepts then. -/
theorem runOn_redeem (attestation : Attestation) (now : Timestamp) :
    (redeem attestation now).runOn m =
      (ask (vet · attestation now) >>= (accept · now)).runOn m := by
  unfold redeem vet
  simp only [ask, runOn_bind, runOn_ofFunction]
  cases validates : m.validate attestation with
  | error fault => rfl
  | ok transfer =>
      cases lookup : m.inboundLimit transfer.fromChain with
      | error fault => simp [lookup]
      | ok limit =>
          by_cases fits : transfer.amount ≤ limit.capacity now
          · cases check : ensurePayable m.settings.mode m.ledger.custody m.ledger.supply
                transfer.amount with
            | error fault => simp [lookup, fits, check, runOn_bind]
            | ok _ => simp [lookup, fits, check, runOn_bind]
          · simp [lookup, fits, pure, Except.pure]

/-- A transfer is cleared exactly when its attestation is valid and a forecast is made for it. -/
theorem vet_eq_ok_iff {attestation : Attestation} {now : Timestamp} {transfer : ValidTransfer} :
    m.vet attestation now = .ok transfer ↔
      m.validate attestation = .ok transfer ∧
        ∃ f, Forecast.step m.settings.mode now m.forecast transfer = .ok f := by
  unfold vet
  constructor
  · intro h
    obtain ⟨transfer', validates, h⟩ := Outcome.bind_eq_ok_iff.mp h
    obtain ⟨limit, lookup, h⟩ := Outcome.bind_eq_ok_iff.mp h
    have limited : m.forecast.inbound.find? transfer'.fromChain = some limit :=
      inboundLimit_eq_ok_iff.mp lookup
    by_cases fits : transfer'.amount ≤ limit.capacity now
    · rw [if_pos fits] at h
      obtain ⟨_, payable, h⟩ := Outcome.bind_eq_ok_iff.mp h
      cases h
      exact ⟨validates, exists_forecast_step limited fun _ => payable⟩
    · rw [if_neg fits] at h
      cases h
      exact ⟨validates, exists_forecast_step limited fun fits' => absurd fits' fits⟩
  · rintro ⟨validates, f, foreseen⟩
    obtain ⟨limit, limited, cases⟩ := forecast_step_eq_ok_iff.mp foreseen
    refine Outcome.bind_eq_ok_iff.mpr ⟨transfer, validates, Outcome.bind_eq_ok_iff.mpr
      ⟨limit, inboundLimit_eq_ok_iff.mpr limited, ?_⟩⟩
    rcases cases with ⟨waits, -⟩ | ⟨fits, payable, -⟩
    · rw [if_neg (UInt64.not_le.mpr waits)]
      rfl
    · rw [if_pos fits]
      exact Outcome.bind_eq_ok_iff.mpr ⟨(), payable, rfl⟩

/-- **A redemption takes in the attested transfer**, or nothing. -/
theorem redeem_transacts (balanced : m.ledger.Balanced) (attestation : Attestation)
    (now : Timestamp) :
    (redeem attestation now).Transacts m fun redemption m' =>
      ∃ transfer, m.validate attestation = .ok transfer ∧
        Accepted m transfer now redemption m' := by
  refine Transacts.of_runOn_eq (transacts_ask_bind fun transfer vets => ?_)
    (runOn_redeem attestation now)
  obtain ⟨validates, f, foreseen⟩ := vet_eq_ok_iff.mp vets
  apply Yields.transacts
  refine (accept_yields balanced (validated_of_validate validates).active foreseen).mono ?_
  intro redemption m' accepted
  exact ⟨transfer, validates, accepted⟩

end Manager

end TokenTransfer
