/-!
# Computations that may fail and keep their state

A computation on a state that either answers or fails, and leaves a state in both cases.  That a
failure leaves the state alone is therefore something to prove of a computation, not something its type
says.

## Main definitions

* `Fallible ε σ α` - computes an `α` from a state of type `σ`, or fails with an `ε`
* `Fallible.runOn` - the outcome on a state and the state left behind
* `Fallible.focus` - a computation on a part of a state
-/

namespace TokenTransfer

/-- Computes an `α` from a state of type `σ`, or fails with an `ε`, and leaves a state. -/
abbrev Fallible (ε σ α : Type) := ExceptT ε (StateM σ) α

namespace Fallible

variable {ε σ τ α β : Type}

/-- The outcome of a computation on a state, and the state left behind. -/
def runOn (f : Fallible ε σ α) (s : σ) : Except ε α × σ := StateT.run (ExceptT.run f) s

/-- The outcome of a computation on a state. -/
def outcome (f : Fallible ε σ α) (s : σ) : Except ε α := (f.runOn s).1

/-- A computation given by what it does to each state. -/
def ofFunction (f : σ → Except ε α × σ) : Fallible ε σ α := ExceptT.mk (StateT.mk f)

/-- An outcome that is known without the state. -/
def ofExcept (x : Except ε α) : Fallible ε σ α := ofFunction fun s => (x, s)

/-- A computation on the part of a state that `part` shows and `replace` puts back. -/
def focus (part : σ → τ) (replace : τ → σ → σ) (f : Fallible ε τ α) : Fallible ε σ α :=
  ofFunction fun s =>
    let (outcome, t) := f.runOn (part s)
    (outcome, replace t s)

/-! ### What computations do to a state -/

@[simp] theorem runOn_ofFunction (f : σ → Except ε α × σ) (s : σ) :
    runOn (ofFunction f) s = f s := rfl

@[simp] theorem runOn_pure (a : α) (s : σ) : runOn (pure a : Fallible ε σ α) s = (.ok a, s) := rfl

@[simp] theorem runOn_throw (e : ε) (s : σ) :
    runOn (throw e : Fallible ε σ α) s = (.error e, s) := rfl

@[simp] theorem runOn_ofExcept (x : Except ε α) (s : σ) :
    runOn (ofExcept x : Fallible ε σ α) s = (x, s) := rfl

@[simp] theorem runOn_get (s : σ) : runOn (get : Fallible ε σ σ) s = (.ok s, s) := rfl

@[simp] theorem runOn_set (t s : σ) : runOn (set t : Fallible ε σ PUnit) s = (.ok ⟨⟩, t) := rfl

@[simp] theorem runOn_modify (f : σ → σ) (s : σ) :
    runOn (modify f : Fallible ε σ PUnit) s = (.ok ⟨⟩, f s) := rfl

@[simp] theorem runOn_focus (part : σ → τ) (replace : τ → σ → σ) (f : Fallible ε τ α) (s : σ) :
    runOn (focus part replace f) s =
      ((f.runOn (part s)).1, replace (f.runOn (part s)).2 s) := rfl

/-- A computation continues on the state that the one before has left, and ends where it fails. -/
theorem runOn_bind (f : Fallible ε σ α) (next : α → Fallible ε σ β) (s : σ) :
    runOn (f >>= next) s =
      match f.runOn s with
      | (.ok a, t) => (next a).runOn t
      | (.error e, t) => (.error e, t) := by
  show (match StateT.run (ExceptT.run f) s with
    | (a, t) => StateT.run (ExceptT.bindCont next a) t) = _
  unfold runOn
  rcases StateT.run (ExceptT.run f) s with ⟨_ | _, t⟩ <;> rfl

theorem runOn_bind_of_ok {f : Fallible ε σ α} {next : α → Fallible ε σ β} {s t : σ} {a : α}
    (h : f.runOn s = (.ok a, t)) : runOn (f >>= next) s = (next a).runOn t := by
  rw [runOn_bind, h]

theorem runOn_bind_of_error {f : Fallible ε σ α} {next : α → Fallible ε σ β} {s t : σ} {e : ε}
    (h : f.runOn s = (.error e, t)) : runOn (f >>= next) s = (.error e, t) := by
  rw [runOn_bind, h]

@[simp] theorem runOn_ite (c : Prop) [Decidable c] (f g : Fallible ε σ α) (s : σ) :
    runOn (if c then f else g) s = if c then f.runOn s else g.runOn s := by
  split <;> rfl

end Fallible

end TokenTransfer
