import Mathlib.Algebra.BigOperators.Ring.List
import Mathlib.Algebra.Order.BigOperators.Group.List
import Mathlib.Algebra.Order.Group.Nat
import Mathlib.Algebra.Ring.Nat
import Mathlib.Data.List.Nodup
import Mathlib.Data.List.Perm.Subperm
import TokenTransfer.Table

/-!
# Sums over tables

What a ledger owes, what an outbox holds and what an inbox has paid are sums over the entries of a
table.  A table is only ever changed at one key, and `Table.sum_insert` says what that does to a
sum: the new value is counted and the one it replaces is not.

`Table.sum_le_sum_of_injOn` compares the sums over two tables whose keys are of different types.  It
is what turns "every payment has a deposit of its own that covers it" into an inequality of totals.
-/

namespace TokenTransfer

namespace Table

variable {κ ι α β : Type} [Ranked κ] [Ranked ι]

/-! ### Changing one key -/

/-- Writing what is there changes nothing. -/
theorem insert_of_find? {t : Table κ α} {k : κ} {v : α} (found : t.find? k = some v) :
    t.insert k v = t := by
  apply Table.ext
  intro k'
  rw [find?_insert]
  split
  · rename_i same
    rw [rank_inj same, found]
  · rfl

/-- What is written last counts. -/
theorem insert_insert (t : Table κ α) (k : κ) (v w : α) :
    (t.insert k v).insert k w = t.insert k w := by
  apply Table.ext
  intro k'
  rw [find?_insert, find?_insert, find?_insert]
  split
  · rfl
  · rfl

/-- Entries of different keys may be written in either order. -/
theorem insert_comm (t : Table κ α) {k k' : κ} (differs : k ≠ k') (v w : α) :
    (t.insert k v).insert k' w = (t.insert k' w).insert k v := by
  apply Table.ext
  intro i
  by_cases first : i = k
  · subst first
    rw [find?_insert_self, find?_insert_of_ne _ _ differs, find?_insert_self]
  · by_cases second : i = k'
    · subst second
      rw [find?_insert_self, find?_insert_of_ne _ _ first, find?_insert_self]
    · rw [find?_insert_of_ne _ _ second, find?_insert_of_ne _ _ first,
        find?_insert_of_ne _ _ first, find?_insert_of_ne _ _ second]

/-- What is found after a change is the new value, or it was there before under another key. -/
theorem find?_insert_eq_some {t : Table κ α} {k k' : κ} {v w : α}
    (found : (t.insert k v).find? k' = some w) :
    k' = k ∧ w = v ∨ k' ≠ k ∧ t.find? k' = some w := by
  by_cases same : k' = k
  · subst same
    rw [find?_insert_self] at found
    exact .inl ⟨rfl, (Option.some.inj found).symm⟩
  · rw [find?_insert_of_ne _ _ same] at found
    exact .inr ⟨same, found⟩

theorem contains_eq_false_iff {t : Table κ α} {k : κ} :
    t.contains k = false ↔ t.find? k = none := by
  simp [contains]

/-- After a change there is a value at its key, and elsewhere where there was one. -/
theorem contains_insert_iff {t : Table κ α} {k k' : κ} {v : α} :
    (t.insert k v).contains k' ↔ k' = k ∨ t.contains k' := by
  by_cases same : k' = k
  · subst same
    simp [contains]
  · simp [contains, find?_insert_of_ne _ _ same, same]

theorem contains_iff {t : Table κ α} {k : κ} : t.contains k ↔ ∃ v, t.find? k = some v :=
  Option.isSome_iff_exists

/-! ### Sums -/

/-- **The sum over a table** of what `weight` says of each entry. -/
def sum (t : Table κ α) (weight : κ → α → Nat) : Nat :=
  (t.entries.map fun e => weight e.1 e.2).sum

/-- The sum after an entry was put among ascending ones.  The order matters: past the place of the
new key no entry can have it. -/
private theorem sum_insertEntry (weight : κ → α → Nat) (k : κ) (v : α) {l : List (κ × α)}
    (ascending : l.Pairwise fun a b => rank a.1 < rank b.1) :
    ((insertEntry k v l).map fun e => weight e.1 e.2).sum +
        ((l.find? fun e => rank e.1 == rank k).map (·.2)).elim 0 (weight k) =
      (l.map fun e => weight e.1 e.2).sum + weight k v := by
  induction l with
  | nil => simp [insertEntry]
  | cons head rest ih =>
      obtain ⟨below, tail⟩ := List.pairwise_cons.mp ascending
      unfold insertEntry
      split
      · rename_i lt
        have absent : (head :: rest).find? (fun e => rank e.1 == rank k) = none := by
          apply List.find?_eq_none.mpr
          intro e mem
          rcases List.mem_cons.mp mem with rfl | mem
          · simp
            omega
          · have := below e mem
            simp
            omega
        rw [absent]
        simp
        omega
      · split
        · rename_i same
          have key : head.1 = k := (rank_inj same).symm
          simp [key]
          omega
        · rename_i notLt notSame
          rw [List.find?_cons_of_neg (by simp; omega)]
          have := ih tail
          simp only [List.map_cons, List.sum_cons]
          omega

/-- **Changing one key.**  The new value is counted, and the one it replaces is not. -/
theorem sum_insert (t : Table κ α) (weight : κ → α → Nat) (k : κ) (v : α) :
    (t.insert k v).sum weight + (t.find? k).elim 0 (weight k) = t.sum weight + weight k v :=
  sum_insertEntry weight k v t.ascending

/-- A new entry adds its weight to the sum. -/
theorem sum_insert_of_none {t : Table κ α} {k : κ} (weight : κ → α → Nat) (v : α)
    (absent : t.find? k = none) : (t.insert k v).sum weight = t.sum weight + weight k v := by
  have := t.sum_insert weight k v
  rwa [absent] at this

/-- An entry that is replaced changes the sum by the difference. -/
theorem sum_insert_of_some {t : Table κ α} {k : κ} {v : α} (weight : κ → α → Nat) (w : α)
    (found : t.find? k = some v) :
    (t.insert k w).sum weight + weight k v = t.sum weight + weight k w := by
  have := t.sum_insert weight k w
  rwa [found] at this

/-- One entry counts for at most the sum. -/
theorem le_sum {t : Table κ α} {k : κ} {v : α} (weight : κ → α → Nat)
    (found : t.find? k = some v) : weight k v ≤ t.sum weight :=
  List.le_sum_of_mem (List.mem_map.mpr ⟨(k, v), mem_entries_iff.mpr found, rfl⟩)

theorem sum_mul (t : Table κ α) (weight : κ → α → Nat) (n : Nat) :
    t.sum weight * n = t.sum fun k v => weight k v * n :=
  (List.sum_map_mul_right ..).symm

theorem nodup_keys (t : Table κ α) : t.keys.Nodup := by
  refine List.pairwise_map.mpr (t.ascending.imp fun {a b} lt same => ?_)
  rw [same] at lt
  exact Nat.lt_irrefl _ lt

/-- A sum is one over the keys, each of which is looked up. -/
private theorem sum_eq_sum_keys (t : Table κ α) (weight : κ → α → Nat) :
    t.sum weight = (t.keys.map fun k => (t.find? k).elim 0 (weight k)).sum := by
  unfold sum keys
  rw [List.map_map]
  congr 1
  apply List.map_congr_left
  intro e mem
  simp [mem_entries_iff.mp mem]

/-- **Comparing totals.**  If each entry that counts has an entry of its own in another table that
counts for at least as much, the other table's sum is the larger one. -/
theorem sum_le_sum_of_injOn {s : Table κ α} {t : Table ι β} {weight : κ → α → Nat}
    {weight' : ι → β → Nat} (image : κ → ι)
    (covered : ∀ k v, s.find? k = some v → weight k v ≠ 0 →
      ∃ u, t.find? (image k) = some u ∧ weight k v ≤ weight' (image k) u)
    (injOn : ∀ k v k' v', s.find? k = some v → weight k v ≠ 0 → s.find? k' = some v' →
      weight k' v' ≠ 0 → image k = image k' → k = k') :
    s.sum weight ≤ t.sum weight' := by
  let value : κ → Nat := fun k => (s.find? k).elim 0 (weight k)
  -- Only the entries that count are sent over; the others need not have an image.
  let counted := s.keys.filter ((· != 0) ∘ value)
  have held : ∀ k ∈ counted, ∃ v, s.find? k = some v ∧ weight k v ≠ 0 := by
    intro k mem
    have nonzero : value k ≠ 0 := by simpa using (List.mem_filter.mp mem).2
    cases found : s.find? k with
    | none => simp [value, found] at nonzero
    | some v =>
        refine ⟨v, rfl, ?_⟩
        simpa [value, found] using nonzero
  have distinct : (counted.map image).Nodup := by
    refine List.Nodup.map_on ?_ (s.nodup_keys.filter _)
    intro k mem k' mem' same
    obtain ⟨v, found, nonzero⟩ := held k mem
    obtain ⟨v', found', nonzero'⟩ := held k' mem'
    exact injOn k v k' v' found nonzero found' nonzero' same
  have inside : counted.map image ⊆ t.keys := by
    intro i mem
    obtain ⟨k, memCounted, rfl⟩ := List.mem_map.mp mem
    obtain ⟨v, found, nonzero⟩ := held k memCounted
    obtain ⟨u, found', -⟩ := covered k v found nonzero
    exact List.mem_map.mpr ⟨(image k, u), mem_entries_iff.mpr found', rfl⟩
  obtain ⟨kept, perm, sublist⟩ := distinct.subperm inside
  calc s.sum weight
      = (s.keys.map value).sum := s.sum_eq_sum_keys weight
    _ = (counted.map value).sum := by rw [← List.filter_map, List.sum_filter_bne_zero]
    _ ≤ (counted.map fun k => (t.find? (image k)).elim 0 (weight' (image k))).sum := by
        apply List.sum_le_sum
        intro k mem
        obtain ⟨v, found, nonzero⟩ := held k mem
        obtain ⟨u, found', le⟩ := covered k v found nonzero
        simpa [value, found, found'] using le
    _ = ((counted.map image).map fun i => (t.find? i).elim 0 (weight' i)).sum := by
        rw [List.map_map]
        rfl
    _ = (kept.map fun i => (t.find? i).elim 0 (weight' i)).sum := (perm.map _).sum_eq.symm
    _ ≤ (t.keys.map fun i => (t.find? i).elim 0 (weight' i)).sum :=
        (sublist.map _).sum_le_sum fun n _ => Nat.zero_le n
    _ = t.sum weight' := (t.sum_eq_sum_keys weight').symm

end Table

end TokenTransfer
