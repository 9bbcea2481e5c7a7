import TokenTransfer.Proofs.Manager.Balances

/-!
# Sequence numbers

A transfer enters the outbox under the next number, so as long as numbers last, no transfer takes
the place of an earlier one: an item stays in the outbox for good, and nothing changes in it but
that it is released.  Numbers are words, and a program whose counter would run over stops; so the
statements here are about runs that send fewer than `2 ^ 64` transfers.

## Main definitions

* `Manager.Numbered` - items stand under their numbers, all of which were issued
* `Effect.sends` - counts the transfers that were sent
* `Manager.Lasting` - a trace during which numbers last

## Main statements

* `Trace.issues`, `exists_lasting` - numbers last as long as fewer than `2 ^ 64` are issued
* `Lasting.outbox_kept`, `Lasting.outbox_sum` - what happens to the outbox while they last
* `Lasting.nodup_told` - what leaves a mark is told once
* `Operation.Does.numbered` - an operation keeps items under their numbers
-/

namespace TokenTransfer

namespace MessageId

/-- A number is read back from its id. -/
theorem ofNat_ofSequence (sequence : UInt64) :
    UInt64.ofNat (ofSequence sequence).toNat = sequence := by
  have bounded : sequence.toNat < Bytes.count 32 := Nat.lt_trans sequence.toNat_lt (by decide)
  rw [ofSequence, FixedBytes.toNat_ofNat, Nat.mod_eq_of_lt bounded, UInt64.ofNat_toNat]

/-- Numbers are told apart by their ids. -/
theorem ofSequence_inj {a b : UInt64} (h : ofSequence a = ofSequence b) : a = b := by
  rw [← ofNat_ofSequence a, h, ofNat_ofSequence]

end MessageId

namespace Manager

variable {m m' : Manager}

/-- Items stand in the outbox under their numbers, and their numbers were issued. -/
def Numbered (m : Manager) : Prop :=
  ∀ sequence item, m.outbox.find? sequence = some item →
    item.sequence = sequence ∧ sequence.toNat < m.nextSequence.toNat

/-- A new manager has no items. -/
theorem numbered_start (settings : Settings) (outboundLimit : UInt64) (now : Timestamp) :
    (start settings outboundLimit now).Numbered := by
  rintro sequence item ⟨⟩

/-- One for a transfer that was sent, and zero for any other effect. -/
def Effect.sends : Effect → Nat := sentWeight fun _ => 1

/-- The next number is in no use yet. -/
theorem Numbered.next_absent (numbered : m.Numbered) : m.outbox.find? m.nextSequence = none := by
  cases found : m.outbox.find? m.nextSequence with
  | none => rfl
  | some item => exact absurd (numbered _ item found).2 (lt_irrefl _)

section Step

variable {move : Move} (step : Step m move m')

include step

/-- A transfer takes a number, and nothing else does. -/
theorem Step.nextSequence
    (fits : m.nextSequence.toNat + move.effect?.elim 0 Effect.sends < 2 ^ 64) :
    m'.nextSequence.toNat = m.nextSequence.toNat + move.effect?.elim 0 Effect.sends := by
  cases step with
  | send numbered unreleased known decimals worth takes =>
      have fits : m.nextSequence.toNat + 1 < 2 ^ 64 := fits
      show (m.nextSequence + 1).toNat = m.nextSequence.toNat + 1
      rw [UInt64.toNat_add, UInt64.toNat_one]
      exact Nat.mod_eq_of_lt fits
  | receive | pay | announce | mint | fund | configure => rfl

/-- A number that is not below the one before it has not run over. -/
theorem Step.fits_of_le (counts : m.nextSequence ≤ m'.nextSequence) :
    m.nextSequence.toNat + move.effect?.elim 0 Effect.sends < 2 ^ 64 := by
  cases step with
  | send numbered unreleased known decimals worth takes =>
      have counts : m.nextSequence ≤ m.nextSequence + 1 := counts
      rw [UInt64.le_iff_toNat_le, UInt64.toNat_add, UInt64.toNat_one] at counts
      have bounded := m.nextSequence.toNat_lt
      show m.nextSequence.toNat + 1 < 2 ^ 64
      omega
  | receive | pay | announce | mint | fund | configure => exact m.nextSequence.toNat_lt

/-- A transfer is sent under the next number, and a release keeps the number of its item. -/
theorem Step.numbered (fits : m.nextSequence.toNat + move.effect?.elim 0 Effect.sends < 2 ^ 64)
    (numbered : m.Numbered) : m'.Numbered := by
  have next := step.nextSequence fits
  intro sequence item found
  cases step with
  | send number unreleased known decimals worth takes =>
      have next : (m.nextSequence + 1).toNat = m.nextSequence.toNat + 1 := next
      show _ ∧ sequence.toNat < (m.nextSequence + 1).toNat
      rcases Table.find?_insert_eq_some found with ⟨rfl, rfl⟩ | ⟨-, found⟩
      · exact ⟨number, by omega⟩
      · obtain ⟨h, bound⟩ := numbered sequence item found
        exact ⟨h, by omega⟩
  | @announce sequence' item' _ _ found' unreleased due known =>
      rcases Table.find?_insert_eq_some found with ⟨rfl, rfl⟩ | ⟨-, found⟩
      · exact numbered sequence item' found'
      · exact numbered sequence item found
  | receive | pay | mint | fund | configure => exact numbered sequence item found

/-- An item stays in the outbox as it is, but that it may be released. -/
theorem Step.outbox_kept (numbered : m.Numbered) {sequence : UInt64} {item : OutboxItem}
    (found : m.outbox.find? sequence = some item) :
    ∃ released, m'.outbox.find? sequence = some { item with released } ∧
      (item.released = true → released = true) := by
  cases step with
  | send number unreleased known decimals worth takes =>
      have differs : sequence ≠ m.nextSequence := by
        rintro rfl
        cases numbered.next_absent.symm.trans found
      exact ⟨item.released, by rw [Table.find?_insert_of_ne _ _ differs, found], id⟩
  | @announce sequence' item' _ _ found' unreleased due known =>
      by_cases same : sequence = sequence'
      · subst same
        cases found'.symm.trans found
        exact ⟨true, Table.find?_insert_self _ _ _, fun _ => rfl⟩
      · exact ⟨item.released, by rw [Table.find?_insert_of_ne _ _ same, found], id⟩
  | receive | pay | mint | fund | configure => exact ⟨item.released, found, id⟩

/-- What the items of the outbox weigh together grows by what is sent, if a release does not change
what an item weighs. -/
theorem Step.outbox_sum (numbered : m.Numbered) (weight : OutboxItem → Nat)
    (steady : ∀ item : OutboxItem, weight { item with released := true } = weight item) :
    m'.outbox.sum (fun _ => weight) =
      m.outbox.sum (fun _ => weight) + move.effect?.elim 0 (Effect.sentWeight weight) := by
  cases step with
  | @send item _ _ _ _ _ number unreleased known decimals worth takes =>
      exact Table.sum_insert_of_none _ _ numbered.next_absent
  | @announce sequence item _ _ found unreleased due known =>
      have sum := Table.sum_insert_of_some (fun _ => weight) { item with released := true } found
      simp only [steady] at sum
      exact Nat.add_right_cancel sum
  | receive | pay | mint | fund | configure => rfl

end Step

/-! ### While numbers last -/

/-- **A sequence of moves during which numbers last**: whenever a move is made, items stand under
numbers that were issued, and the next number is a new one. -/
inductive Lasting : Manager → List Move → Manager → Prop
  | nil {m : Manager} (numbered : m.Numbered) : Lasting m [] m
  | cons {m m' m'' : Manager} {move : Move} {moves : List Move} (numbered : m.Numbered)
      (step : Step m move m') (rest : Lasting m' moves m'') : Lasting m (move :: moves) m''

/-- **Numbers are issued one by one**, so they last if there are as many as transfers are sent. -/
theorem Trace.issues {moves : List Move} (trace : Trace m moves m') (numbered : m.Numbered)
    (fits : m.nextSequence.toNat +
      ((moves.filterMap Move.effect?).map Effect.sends).sum < 2 ^ 64) :
    Lasting m moves m' ∧ m'.nextSequence.toNat =
      m.nextSequence.toNat + ((moves.filterMap Move.effect?).map Effect.sends).sum := by
  induction trace with
  | nil => exact ⟨.nil numbered, rfl⟩
  | cons step _ ih =>
      rw [sum_effects_cons] at fits ⊢
      have next := step.nextSequence (by omega)
      obtain ⟨lasting, next'⟩ := ih (step.numbered (by omega) numbered) (by omega)
      exact ⟨.cons numbered step lasting, by omega⟩

section Lasting

variable {moves : List Move} (lasting : Lasting m moves m')

include lasting

/-- Items stand under their numbers before such moves. -/
theorem Lasting.numbered_before : m.Numbered := by
  cases lasting with
  | nil numbered => exact numbered
  | cons numbered step rest => exact numbered

/-- Items stand under their numbers after such moves. -/
theorem Lasting.numbered : m'.Numbered := by
  induction lasting with
  | nil numbered => exact numbered
  | cons _ _ _ ih => exact ih

/-- **An item stays in the outbox** as it is, but that it may be released. -/
theorem Lasting.outbox_kept {sequence : UInt64} {item : OutboxItem}
    (found : m.outbox.find? sequence = some item) :
    ∃ released, m'.outbox.find? sequence = some { item with released } ∧
      (item.released = true → released = true) := by
  induction lasting generalizing item with
  | nil => exact ⟨item.released, found, id⟩
  | cons numbered step _ ih =>
      obtain ⟨released, found', stays⟩ := step.outbox_kept numbered found
      obtain ⟨released', found'', stays'⟩ := ih found'
      exact ⟨released', found'', fun h => stays' (stays h)⟩

/-- **The outbox grows by what is sent.** -/
theorem Lasting.outbox_sum (weight : OutboxItem → Nat)
    (steady : ∀ item : OutboxItem, weight { item with released := true } = weight item) :
    m'.outbox.sum (fun _ => weight) =
      m.outbox.sum (fun _ => weight) +
        ((moves.filterMap Move.effect?).map (Effect.sentWeight weight)).sum := by
  induction lasting with
  | nil => rfl
  | cons numbered step _ ih =>
      have sum := step.outbox_sum numbered weight steady
      rw [sum_effects_cons]
      omega

/-- **Nothing is told twice.**  If `P` does not hold before a step of what the effect of the step
tells, but does after it, and from then on holds for good, then the effects of a sequence of moves
tell different things, of none of which `P` held before. -/
theorem Lasting.nodup_told {α : Type} {tells : Effect → Option α} {P : Manager → α → Prop}
    (marks : ∀ {m m' : Manager} {move : Move} {a : α}, m.Numbered → Step m move m' →
      move.effect?.bind tells = some a → ¬ P m a ∧ P m' a)
    (stays : ∀ {m m' : Manager} {move : Move} {a : α}, m.Numbered → Step m move m' →
      P m a → P m' a) :
    ((moves.filterMap Move.effect?).filterMap tells).Nodup ∧
      ∀ a ∈ (moves.filterMap Move.effect?).filterMap tells, ¬ P m a := by
  rw [List.filterMap_filterMap]
  generalize what : (fun move : Move => move.effect?.bind tells) = tells'
  induction lasting with
  | nil => exact ⟨List.nodup_nil, fun a mem => absurd mem List.not_mem_nil⟩
  | @cons _ _ _ move moves numbered step _ ih =>
      obtain ⟨distinct, unmarked⟩ := ih
      cases told : tells' move with
      | none =>
          rw [List.filterMap_cons_none told]
          exact ⟨distinct, fun a mem before => unmarked a mem (stays numbered step before)⟩
      | some a =>
          rw [List.filterMap_cons_some told]
          rw [← what] at told
          obtain ⟨before, after⟩ := marks numbered step told
          refine ⟨List.nodup_cons.mpr ⟨fun again => unmarked a again after, distinct⟩, ?_⟩
          intro b mem
          rcases List.mem_cons.mp mem with rfl | mem
          · exact before
          · exact fun before => unmarked b mem (stays numbered step before)

end Lasting

/-- What is taken in takes no number. -/
theorem Accepts.numbered {transfers : List ValidTransfer} {payouts : List Payout}
    (accepts : Accepts m transfers payouts m') (numbered : m.Numbered) : m'.Numbered := by
  obtain ⟨moves, trace, -, paid⟩ := accepts.moves
  have silent : ((payouts.map Effect.paid).map Effect.sends).sum = 0 := by
    simp [Effect.sends, Effect.sentWeight, Function.comp_def]
  have fits : m.nextSequence.toNat + ((moves.filterMap Move.effect?).map Effect.sends).sum <
      2 ^ 64 := by
    rw [paid, silent]
    exact m.nextSequence.toNat_lt
  exact (trace.issues numbered fits).1.numbered

/-- **An operation keeps items under their numbers**, unless a number runs over. -/
theorem Operation.Does.numbered {operation : Operation} {reply : Reply}
    (does : operation.Does m reply m') (counts : m.nextSequence ≤ m'.nextSequence)
    (numbered : m.Numbered) : m'.Numbered := by
  cases does with
  | transfer transferred =>
      obtain ⟨amount, step⟩ := transferred.step
      exact step.numbered (step.fits_of_le counts) numbered
  | publish step => exact step.numbered (step.fits_of_le counts) numbered
  | redeem validates accepted =>
      have valid := validated_of_validate validates
      exact (accepted.accepts valid.absent valid.suits).numbered numbered
  | redeemBatch rehearsed accepted => exact accepted.accepts.numbered numbered
  | payOut step => exact step.numbered (step.fits_of_le counts) numbered
  | _ => exact numbered

/-- A new manager has issued no number. -/
theorem fits_start (settings : Settings) (outboundLimit : UInt64) (now : Timestamp) {sends : Nat}
    (fits : sends < 2 ^ 64) :
    (start settings outboundLimit now).nextSequence.toNat + sends < 2 ^ 64 := by
  have first : (start settings outboundLimit now).nextSequence.toNat = 0 := rfl
  rw [first, Nat.zero_add]
  exact fits

/-- **A run during which numbers last.** -/
theorem exists_lasting (balanced : m.ledger.Balanced) (run : List Operation)
    (numbered : m.Numbered)
    (fits : m.nextSequence.toNat + ((m.effects run).map Effect.sends).sum < 2 ^ 64) :
    ∃ moves, Lasting m moves (m.after run) ∧ moves.filterMap Move.effect? = m.effects run ∧
      (m.after run).nextSequence.toNat =
        m.nextSequence.toNat + ((m.effects run).map Effect.sends).sum := by
  obtain ⟨moves, trace, effects⟩ := exists_trace balanced run
  rw [← effects] at fits
  obtain ⟨lasting, issued⟩ := trace.issues numbered fits
  exact ⟨moves, lasting, effects, by rw [issued, effects]⟩

end Manager

end TokenTransfer
