/-!
# Tables in key order

A finite map from keys to values.  Keys are ordered by a rank, a number that no two keys share, and a
table lists its entries by ascending rank.  So a table is determined by what it holds: `Table.ext`
makes two tables with the same values at every key equal, and listings come out in key order.

## Main definitions

* `Ranked κ` - keys with a rank
* `Table κ α` - the finite maps from `κ` to `α`
* `Table.find?`, `Table.insert`, `Table.erase` - lookup and change at one key
-/

namespace TokenTransfer

/-- Keys that are told apart, and ordered, by a number. -/
class Ranked (κ : Type) where
  /-- The number of a key. -/
  rank : κ → Nat
  /-- No two keys share a number. -/
  rank_inj : ∀ {a b : κ}, rank a = rank b → a = b

export Ranked (rank rank_inj)

/-- The order of two keys. -/
def Ranked.order {κ : Type} [Ranked κ] (a b : κ) : Ordering := compare (rank a) (rank b)

instance : Ranked UInt64 := ⟨UInt64.toNat, UInt64.toNat.inj⟩

/-- A finite map, listed by ascending rank of its keys. -/
structure Table (κ : Type) [Ranked κ] (α : Type) where
  entries : List (κ × α)
  ascending : entries.Pairwise fun a b => rank a.1 < rank b.1

namespace Table

variable {κ α : Type} [Ranked κ]

/-- The table without entries. -/
def empty : Table κ α := ⟨[], .nil⟩

/-- The value at a key. -/
def find? (t : Table κ α) (k : κ) : Option α :=
  (t.entries.find? fun e => rank e.1 == rank k).map (·.2)

/-- Whether there is a value at a key. -/
def contains (t : Table κ α) (k : κ) : Bool := (t.find? k).isSome

/-- The keys in order. -/
def keys (t : Table κ α) : List κ := t.entries.map (·.1)

/-- The number of entries. -/
def size (t : Table κ α) : Nat := t.entries.length

/-- Puts an entry in its place among ascending ones, in the stead of one with the same key. -/
def insertEntry (k : κ) (v : α) : List (κ × α) → List (κ × α)
  | [] => [(k, v)]
  | e :: rest =>
    if rank k < rank e.1 then (k, v) :: e :: rest
    else if rank k = rank e.1 then (k, v) :: rest
    else e :: insertEntry k v rest

theorem mem_insertEntry {k : κ} {v : α} {e : κ × α} {l : List (κ × α)}
    (h : e ∈ insertEntry k v l) : e = (k, v) ∨ e ∈ l := by
  induction l with
  | nil => simpa [insertEntry] using h
  | cons head rest ih =>
    unfold insertEntry at h
    split at h
    · simpa using h
    · split at h
      · rcases List.mem_cons.mp h with h | h
        · exact .inl h
        · exact .inr (List.mem_cons_of_mem _ h)
      · rcases List.mem_cons.mp h with h | h
        · exact .inr (h ▸ List.mem_cons_self)
        · rcases ih h with h | h
          · exact .inl h
          · exact .inr (List.mem_cons_of_mem _ h)

theorem ascending_insertEntry {k : κ} {v : α} {l : List (κ × α)}
    (h : l.Pairwise fun a b => rank a.1 < rank b.1) :
    (insertEntry k v l).Pairwise fun a b => rank a.1 < rank b.1 := by
  induction l with
  | nil => simp [insertEntry]
  | cons head rest ih =>
    obtain ⟨below, tail⟩ := List.pairwise_cons.mp h
    unfold insertEntry
    split
    · rename_i lt
      refine List.pairwise_cons.mpr ⟨fun e mem => ?_, h⟩
      rcases List.mem_cons.mp mem with rfl | mem
      · exact lt
      · exact Nat.lt_trans lt (below e mem)
    · split
      · rename_i eq
        exact List.pairwise_cons.mpr ⟨fun e mem => eq ▸ below e mem, tail⟩
      · refine List.pairwise_cons.mpr ⟨fun e mem => ?_, ih tail⟩
        rcases mem_insertEntry mem with rfl | mem
        · show rank head.1 < rank k
          omega
        · exact below e mem

/-- Sets the value at a key. -/
def insert (t : Table κ α) (k : κ) (v : α) : Table κ α :=
  ⟨insertEntry k v t.entries, ascending_insertEntry t.ascending⟩

/-- Drops the value at a key. -/
def erase (t : Table κ α) (k : κ) : Table κ α :=
  ⟨t.entries.filter fun e => rank e.1 != rank k, t.ascending.filter _⟩

/-! ### What the operations do to the values -/

/-- An entry is listed exactly when it is what its key holds. -/
theorem mem_entries_iff {t : Table κ α} {k : κ} {v : α} :
    (k, v) ∈ t.entries ↔ t.find? k = some v := by
  unfold find?
  constructor
  · intro mem
    suffices aux : ∀ l : List (κ × α), l.Pairwise (fun a b => rank a.1 < rank b.1) →
        (k, v) ∈ l → l.find? (fun e => rank e.1 == rank k) = some (k, v) by
      rw [aux t.entries t.ascending mem]
      rfl
    intro l ascending mem
    induction l with
    | nil => cases mem
    | cons head rest ih =>
      obtain ⟨below, tail⟩ := List.pairwise_cons.mp ascending
      rcases List.mem_cons.mp mem with rfl | mem
      · simp
      · have later : rank head.1 < rank k := below _ mem
        rw [List.find?_cons_of_neg (by simp; omega)]
        exact ih tail mem
  · intro h
    obtain ⟨e, found, rfl⟩ := Option.map_eq_some_iff.mp h
    have same : rank e.1 = rank k := by simpa using List.find?_some found
    rw [← rank_inj same]
    exact List.mem_of_find?_eq_some found

theorem find?_insert (t : Table κ α) (k : κ) (v : α) (k' : κ) :
    (t.insert k v).find? k' = if rank k' = rank k then some v else t.find? k' := by
  unfold find? insert
  dsimp only
  generalize t.entries = l
  induction l with
  | nil =>
    by_cases h : rank k' = rank k
    · simp [insertEntry, h]
    · simp [insertEntry, h, Ne.symm h]
  | cons head rest ih =>
    unfold insertEntry
    by_cases h : rank k' = rank k
    · split
      · simp [h]
      · split
        · simp [h]
        · rw [List.find?_cons_of_neg (by simp [h]; omega), ih, if_pos h]
    · simp only [h, if_false] at ih ⊢
      split
      · rw [List.find?_cons_of_neg (by simp; omega)]
      · split
        · rw [List.find?_cons_of_neg (by simp; omega), List.find?_cons_of_neg (by simp; omega)]
        · simp only [List.find?_cons]
          split
          · rfl
          · exact ih

@[simp] theorem find?_insert_self (t : Table κ α) (k : κ) (v : α) :
    (t.insert k v).find? k = some v := by
  simp [find?_insert]

theorem find?_insert_of_ne (t : Table κ α) {k k' : κ} (v : α) (h : k' ≠ k) :
    (t.insert k v).find? k' = t.find? k' := by
  rw [find?_insert, if_neg fun same => h (rank_inj same)]

theorem find?_erase (t : Table κ α) (k k' : κ) :
    (t.erase k).find? k' = if rank k' = rank k then none else t.find? k' := by
  unfold find? erase
  rw [List.find?_filter]
  split
  · rename_i h
    rw [List.find?_eq_none.mpr]
    · rfl
    · intro e _
      simp [h]
  · rename_i h
    congr 2
    funext e
    by_cases same : rank e.1 = rank k'
    · simp [same, h]
    · simp [same]

/-- Tables that hold the same value at every key are equal. -/
theorem ext {s t : Table κ α} (h : ∀ k, s.find? k = t.find? k) : s = t := by
  suffices entries : s.entries = t.entries by
    cases s
    cases t
    simpa using entries
  have mem : ∀ e, e ∈ s.entries ↔ e ∈ t.entries := fun (k, v) => by
    rw [mem_entries_iff, mem_entries_iff, h]
  obtain ⟨ls, sorted⟩ := s
  obtain ⟨lt, sorted'⟩ := t
  dsimp only at mem ⊢
  clear h
  induction ls generalizing lt with
  | nil =>
    cases lt with
    | nil => rfl
    | cons e _ => exact absurd ((mem e).mpr List.mem_cons_self) List.not_mem_nil
  | cons a rest ih =>
    cases lt with
    | nil => exact absurd ((mem a).mp List.mem_cons_self) List.not_mem_nil
    | cons b rest' =>
      obtain ⟨below, tail⟩ := List.pairwise_cons.mp sorted
      obtain ⟨below', tail'⟩ := List.pairwise_cons.mp sorted'
      have heads : a = b := by
        rcases List.mem_cons.mp ((mem a).mp List.mem_cons_self) with h | h
        · exact h
        · rcases List.mem_cons.mp ((mem b).mpr List.mem_cons_self) with h' | h'
          · exact h'.symm
          · have := below b h'
            have := below' a h
            omega
      subst heads
      congr 1
      refine ih tail rest' tail' fun e => ?_
      constructor
      · intro h
        rcases List.mem_cons.mp ((mem e).mp (List.mem_cons_of_mem _ h)) with rfl | h'
        · exact absurd (below _ h) (Nat.lt_irrefl _)
        · exact h'
      · intro h
        rcases List.mem_cons.mp ((mem e).mpr (List.mem_cons_of_mem _ h)) with rfl | h'
        · exact absurd (below' _ h) (Nat.lt_irrefl _)
        · exact h'

end Table

end TokenTransfer
