import TokenTransfer.Fallible

/-!
# Computations that fail without a trace

A computation that may fail leaves a state behind also when it fails.  The operations of a manager
are built so that a failure leaves the state they were given, and this module says what that means
of a single run and how it is carried through a composition.

## Main definitions

* `Fallible.Transacts f s post` - on `s`, `f` fails and keeps `s`, or succeeds as `post` says
* `Fallible.Yields f s post` - on `s`, `f` succeeds as `post` says
* `Fallible.FailsWithin f s kind` - if `f` fails on `s`, then as `kind` says

`Transacts` is about one state and not about all of them: most operations of a manager keep the
state on failure only because an earlier step has ruled out that a later one fails, and that depends
on the state.  `Transacts.bind` is the rule that uses it: after a computation that changes the
state, only computations that succeed may follow.
-/

namespace TokenTransfer

/-! ### Outcomes -/

namespace Outcome

variable {ε α β : Type}

theorem bind_eq_ok_iff {x : Except ε α} {next : α → Except ε β} {b : β} :
    (x >>= next) = .ok b ↔ ∃ a, x = .ok a ∧ next a = .ok b := by
  cases x with
  | error e =>
      constructor
      · intro h
        cases h
      · rintro ⟨a, h, -⟩
        cases h
  | ok a =>
      constructor
      · intro h
        exact ⟨a, rfl, h⟩
      · rintro ⟨a', h, h'⟩
        cases h
        exact h'

/-- What is put together from a result is there when the result is. -/
theorem bind_pure_eq_ok_iff {x : Except ε α} {f : α → β} {b : β} :
    (x >>= fun a => pure (f a)) = .ok b ↔ ∃ a, x = .ok a ∧ b = f a := by
  rw [bind_eq_ok_iff]
  constructor
  · rintro ⟨a, done, same⟩
    exact ⟨a, done, (Except.ok.inj same).symm⟩
  · rintro ⟨a, done, rfl⟩
    exact ⟨a, done, rfl⟩

@[simp] theorem ok_bind (a : α) (next : α → Except ε β) : (Except.ok a >>= next) = next a := rfl

@[simp] theorem error_bind (e : ε) (next : α → Except ε β) :
    (Except.error e >>= next) = .error e := rfl

@[simp] theorem throw_bind (e : ε) (next : α → Except ε β) :
    ((throw e : Except ε α) >>= next) = .error e := rfl

@[simp] theorem ite_error_eq_ok_iff (c : Prop) [Decidable c] (e : ε) (x : Except ε α) (a : α) :
    (if c then .error e else x) = .ok a ↔ ¬ c ∧ x = .ok a := by
  by_cases h : c
  · simp [h]
  · simp [h]

/-- Another name for a fault does not make a success. -/
theorem mapError_eq_ok_iff {ε' : Type} (f : ε → ε') {x : Except ε α} {a : α} :
    x.mapError f = .ok a ↔ x = .ok a := by
  cases x with
  | error e =>
      constructor
      · intro h
        cases h
      · intro h
        cases h
  | ok a' =>
      constructor
      · intro h
        cases h
        rfl
      · intro h
        cases h
        rfl

theorem map_eq_ok_iff {f : α → β} {x : Except ε α} {b : β} :
    x.map f = .ok b ↔ ∃ a, x = .ok a ∧ f a = b := by
  cases x with
  | error e => simp [Except.map]
  | ok a => simp [Except.map]

/-- **Failures are of a kind**: where there is no result, what is wrong is as `kind` says. -/
def FailsWithin (x : Except ε α) (kind : ε → Prop) : Prop := ∀ e, x = .error e → kind e

section FailsWithin

variable {kind : ε → Prop}

theorem failsWithin_ok (a : α) : FailsWithin (Except.ok a : Except ε α) kind := nofun

theorem failsWithin_error {e : ε} (is : kind e) :
    FailsWithin (Except.error e : Except ε α) kind := by
  rintro _ ⟨⟩
  exact is

/-- What is composed of parts that fail in one way fails in that way. -/
theorem FailsWithin.bind {x : Except ε α} {next : α → Except ε β} (first : FailsWithin x kind)
    (rest : ∀ a, FailsWithin (next a) kind) : FailsWithin (x >>= next) kind := by
  cases x with
  | error e => exact failsWithin_error (first e rfl)
  | ok a => exact rest a

theorem FailsWithin.map {x : Except ε α} (fails : FailsWithin x kind) (f : α → β) :
    FailsWithin (x.map f) kind := by
  cases x with
  | error e => exact failsWithin_error (fails e rfl)
  | ok a => exact failsWithin_ok (f a)

theorem FailsWithin.ite {c : Prop} [Decidable c] {x y : Except ε α} (first : FailsWithin x kind)
    (second : FailsWithin y kind) : FailsWithin (if c then x else y) kind := by
  split
  · exact first
  · exact second

/-- A fold over a list fails in the way in which its steps fail. -/
theorem failsWithin_foldlM {ι : Type} {step : α → ι → Except ε α}
    (each : ∀ a i, FailsWithin (step a i) kind) (is : List ι) (a : α) :
    FailsWithin (is.foldlM step a) kind := by
  induction is generalizing a with
  | nil => exact failsWithin_ok a
  | cons i rest ih =>
      rw [List.foldlM_cons]
      exact (each a i).bind ih

end FailsWithin

end Outcome

namespace Fallible

variable {ε σ τ α β : Type} {f : Fallible ε σ α} {next : α → Fallible ε σ β} {s t : σ}

/-! ### What a single run does -/

/-- **All or nothing.**  On `s` the computation fails and keeps `s`, or it succeeds with a result
and a state as `post` says. -/
inductive Transacts (f : Fallible ε σ α) (s : σ) (post : α → σ → Prop) : Prop
  | refused (fault : ε) (runs : f.runOn s = (.error fault, s))
  | done (a : α) (t : σ) (runs : f.runOn s = (.ok a, t)) (holds : post a t)

/-- **Success.**  On `s` the computation succeeds with a result and a state as `post` says. -/
def Yields (f : Fallible ε σ α) (s : σ) (post : α → σ → Prop) : Prop :=
  ∃ a t, f.runOn s = (.ok a, t) ∧ post a t

/-- What cannot fail cannot fail halfway. -/
theorem Yields.transacts {post : α → σ → Prop} (h : f.Yields s post) : f.Transacts s post := by
  obtain ⟨a, t, runs, holds⟩ := h
  exact .done a t runs holds

/-- What is said of the result may be weakened, knowing that there is one. -/
theorem Transacts.mono {post post' : α → σ → Prop} (h : f.Transacts s post)
    (weaken : ∀ a t, f.runOn s = (.ok a, t) → post a t → post' a t) : f.Transacts s post' := by
  cases h with
  | refused fault runs => exact .refused fault runs
  | done a t runs holds => exact .done a t runs (weaken a t runs holds)

/-- Only what a computation does on this state counts. -/
theorem Transacts.of_runOn_eq {g : Fallible ε σ α} {post : α → σ → Prop} (h : f.Transacts s post)
    (same : g.runOn s = f.runOn s) : g.Transacts s post := by
  cases h with
  | refused fault runs => exact .refused fault (same.trans runs)
  | done a t runs holds => exact .done a t (same.trans runs) holds

/-- What is known of a computation that has succeeded. -/
theorem Transacts.of_ok {post : α → σ → Prop} {a : α} (h : f.Transacts s post)
    (runs : f.runOn s = (.ok a, t)) : post a t := by
  cases h with
  | refused fault fails => cases runs.symm.trans fails
  | done a' t' runs' holds =>
      cases runs.symm.trans runs'
      exact holds

/-- A computation that has failed left the state as it was. -/
theorem Transacts.of_error {post : α → σ → Prop} {fault : ε} (h : f.Transacts s post)
    (fails : f.runOn s = (.error fault, t)) : t = s := by
  cases h with
  | refused fault' fails' =>
      cases fails.symm.trans fails'
      rfl
  | done a t' runs holds => cases fails.symm.trans runs

/-- Where an outcome is known to have a result, there is one. -/
theorem exists_runOn_eq_ok {g : α → β} {b : β} (known : (f.outcome s).toOption.map g = some b) :
    ∃ a t, f.runOn s = (.ok a, t) ∧ g a = b := by
  unfold outcome at known
  rcases runs : f.runOn s with ⟨fault | a, t⟩
  · rw [runs] at known
    cases known
  · rw [runs] at known
    exact ⟨a, t, rfl, Option.some.inj known⟩

/-! ### Composition -/

/-- **A part that transacts may be followed by one that cannot fail**, and nothing is left halfway.
-/
theorem Transacts.bind {post : β → σ → Prop}
    (h : f.Transacts s fun a t => (next a).Yields t post) : (f >>= next).Transacts s post := by
  cases h with
  | refused fault runs => exact .refused fault (runOn_bind_of_error runs)
  | done a t runs holds =>
      obtain ⟨b, u, runs', holds'⟩ := holds
      exact .done b u ((runOn_bind_of_ok runs).trans runs') holds'

/-- What has succeeded is followed by what cannot fail. -/
theorem yields_bind_of_ok {post : β → σ → Prop} {a : α} (runs : f.runOn s = (.ok a, t))
    (h : (next a).Yields t post) : (f >>= next).Yields s post := by
  obtain ⟨b, u, runs', holds⟩ := h
  exact ⟨b, u, (runOn_bind_of_ok runs).trans runs', holds⟩

/-- Neither of two parts fails that cannot fail. -/
theorem Yields.bind {post : β → σ → Prop}
    (h : f.Yields s fun a t => (next a).Yields t post) : (f >>= next).Yields s post := by
  obtain ⟨a, t, runs, h⟩ := h
  exact yields_bind_of_ok runs h

/-- What is said of the result may be weakened. -/
theorem Yields.mono {post post' : α → σ → Prop} (h : f.Yields s post)
    (weaken : ∀ a t, post a t → post' a t) : f.Yields s post' := by
  obtain ⟨a, t, runs, holds⟩ := h
  exact ⟨a, t, runs, weaken a t holds⟩

/-- A question that is answered from the state alone may come before anything. -/
theorem Transacts.bind_of_keeps {post : β → σ → Prop} (keeps : (f.runOn s).2 = s)
    (h : ∀ a, f.runOn s = (.ok a, s) → (next a).Transacts s post) :
    (f >>= next).Transacts s post := by
  rcases runs : f.runOn s with ⟨fault | a, t⟩
  · rw [runs] at keeps
    cases keeps
    exact .refused fault (runOn_bind_of_error runs)
  · rw [runs] at keeps
    cases keeps
    cases h a runs with
    | refused fault runs' => exact .refused fault ((runOn_bind_of_ok runs).trans runs')
    | done b u runs' holds => exact .done b u ((runOn_bind_of_ok runs).trans runs') holds

/-- A question that is refused leaves the state as it was. -/
theorem transacts_ofExcept_bind {x : Except ε α} {post : β → σ → Prop}
    (h : ∀ a, x = .ok a → (next a).Transacts s post) :
    (ofExcept x >>= next).Transacts s post := by
  refine Transacts.bind_of_keeps rfl ?_
  intro a runs
  exact h a (congrArg Prod.fst runs)

theorem yields_pure {post : α → σ → Prop} {a : α} (h : post a s) :
    (pure a : Fallible ε σ α).Yields s post :=
  ⟨a, s, rfl, h⟩

/-- A composition succeeds when both parts do, one after the other. -/
theorem runOn_bind_eq_ok_iff {b : β} {u : σ} :
    (f >>= next).runOn s = (.ok b, u) ↔
      ∃ a t, f.runOn s = (.ok a, t) ∧ (next a).runOn t = (.ok b, u) := by
  constructor
  · intro runs
    rcases first : f.runOn s with ⟨fault | a, t⟩
    · rw [runOn_bind_of_error first] at runs
      cases runs
    · rw [runOn_bind_of_ok first] at runs
      exact ⟨a, t, rfl, runs⟩
  · rintro ⟨a, t, first, second⟩
    rw [runOn_bind_of_ok first, second]

/-- A computation for each element of a list succeeds when the first does and then those of the
rest. -/
theorem runOn_mapM_cons_eq_ok_iff {ι : Type} {g : ι → Fallible ε σ α} {i : ι} {rest : List ι}
    {as : List α} {u : σ} :
    ((i :: rest).mapM g).runOn s = (.ok as, u) ↔
      ∃ a t as', (g i).runOn s = (.ok a, t) ∧ (rest.mapM g).runOn t = (.ok as', u) ∧
        a :: as' = as := by
  rw [List.mapM_cons, runOn_bind_eq_ok_iff]
  refine exists_congr fun a => exists_congr fun t => ?_
  rw [runOn_bind_eq_ok_iff]
  constructor
  · rintro ⟨first, as', t', second, last⟩
    cases last
    exact ⟨as', first, second, rfl⟩
  · rintro ⟨as', first, second, rfl⟩
    exact ⟨first, as', u, second, rfl⟩

/-- Applying a function to the result changes neither the state nor whether there is a result. -/
theorem runOn_map (g : α → β) (f : Fallible ε σ α) (s : σ) :
    (g <$> f).runOn s = ((f.runOn s).1.map g, (f.runOn s).2) := by
  rw [map_eq_pure_bind, runOn_bind]
  rcases f.runOn s with ⟨_ | a, t⟩
  · rfl
  · rfl

/-- What is made of the result does not touch the state. -/
theorem Transacts.map {g : α → β} {post : β → σ → Prop}
    (h : f.Transacts s fun a t => post (g a) t) : (g <$> f).Transacts s post := by
  cases h with
  | refused fault runs => exact .refused fault (by simp [runOn_map, runs, Except.map])
  | done a t runs holds => exact .done (g a) t (by simp [runOn_map, runs, Except.map]) holds

theorem Transacts.of_map {g : α → β} {post : β → σ → Prop} (h : (g <$> f).Transacts s post) :
    f.Transacts s fun a t => post (g a) t := by
  rcases runs : f.runOn s with ⟨fault | a, t⟩
  · have failed : (g <$> f).runOn s = (.error fault, t) := by rw [runOn_map, runs]; rfl
    cases h.of_error failed
    exact .refused fault runs
  · have mapped : (g <$> f).runOn s = (.ok (g a), t) := by rw [runOn_map, runs]; rfl
    exact .done a t runs (h.of_ok mapped)

/-! ### Why a computation fails -/

/-- A check refuses what it is for, and what comes after it refuses the rest. -/
theorem outcome_guard_eq_error_iff {c : Prop} [Decidable c] {e e' : ε} :
    (if c then f else throw e').outcome s = .error e ↔
      (¬ c ∧ e = e') ∨ (c ∧ f.outcome s = .error e) := by
  by_cases holds : c
  · simp only [holds, if_true, not_true_eq_false, false_and, true_and, false_or]
  · simp only [holds, if_false, not_false_eq_true, true_and, false_and, or_false]
    constructor
    · rintro ⟨⟩
      rfl
    · rintro rfl
      rfl

/-- **Failures are of a kind**: where `f` fails on `s`, what is wrong is as `kind` says. -/
def FailsWithin (f : Fallible ε σ α) (s : σ) (kind : ε → Prop) : Prop :=
  Outcome.FailsWithin (f.outcome s) kind

section FailsWithin

variable {kind : ε → Prop}

/-- After a part that has succeeded, only the rest can fail. -/
theorem failsWithin_bind_of_ok {a : α} (runs : f.runOn s = (.ok a, t))
    (rest : (next a).FailsWithin t kind) : (f >>= next).FailsWithin s kind := by
  unfold FailsWithin outcome at *
  rwa [runOn_bind_of_ok runs]

/-- What is composed of parts that fail in one way fails in that way, on every state in between. -/
theorem FailsWithin.bind (first : f.FailsWithin s kind)
    (rest : ∀ a t, (next a).FailsWithin t kind) : (f >>= next).FailsWithin s kind := by
  rcases runs : f.runOn s with ⟨e | a, t⟩
  · unfold FailsWithin outcome at *
    rw [runOn_bind_of_error runs]
    exact Outcome.failsWithin_error (first e (congrArg Prod.fst runs))
  · exact failsWithin_bind_of_ok runs (rest a t)

theorem FailsWithin.ite {c : Prop} [Decidable c] {g : Fallible ε σ α}
    (first : f.FailsWithin s kind) (second : g.FailsWithin s kind) :
    (if c then f else g).FailsWithin s kind := by
  split
  · exact first
  · exact second

theorem failsWithin_pure (a : α) : (pure a : Fallible ε σ α).FailsWithin s kind := nofun

theorem failsWithin_throw {e : ε} (is : kind e) :
    (throw e : Fallible ε σ α).FailsWithin s kind :=
  Outcome.failsWithin_error is

theorem failsWithin_get : (get : Fallible ε σ σ).FailsWithin s kind := nofun

theorem failsWithin_modify (g : σ → σ) :
    (modify g : Fallible ε σ PUnit).FailsWithin s kind := nofun

theorem failsWithin_set (t : σ) : (set t : Fallible ε σ PUnit).FailsWithin s kind := nofun

/-- A list of computations fails in the way in which each of them fails. -/
theorem failsWithin_mapM {ι : Type} {g : ι → Fallible ε σ α}
    (each : ∀ i t, (g i).FailsWithin t kind) (is : List ι) : (is.mapM g).FailsWithin s kind := by
  induction is generalizing s with
  | nil => exact failsWithin_pure []
  | cons i rest ih =>
      rw [List.mapM_cons]
      exact (each i s).bind fun _ _ => ih.bind fun _ _ => failsWithin_pure _

end FailsWithin

/-! ### Parts of a state -/

section Focus

variable {part : σ → τ} {replace : τ → σ → σ} {g : Fallible ε τ α} {post : α → τ → Prop}

/-- What is all or nothing on a part of a state is so on the state. -/
theorem Transacts.focus (h : g.Transacts (part s) post) (same : replace (part s) s = s) :
    (Fallible.focus part replace g).Transacts s fun a t => ∃ u, t = replace u s ∧ post a u := by
  cases h with
  | refused fault runs => exact .refused fault (by rw [runOn_focus, runs, same])
  | done a u runs holds => exact .done a (replace u s) (by rw [runOn_focus, runs]) ⟨u, rfl, holds⟩

/-- What cannot fail on a part cannot fail on the whole. -/
theorem Yields.focus (h : g.Yields (part s) post) :
    (Fallible.focus part replace g).Yields s fun a t => ∃ u, t = replace u s ∧ post a u := by
  obtain ⟨a, u, runs, holds⟩ := h
  exact ⟨a, replace u s, by rw [runOn_focus, runs], u, rfl, holds⟩

/-- What fails on a part of a state fails on the state in the same way. -/
theorem FailsWithin.focus {kind : ε → Prop} (h : g.FailsWithin (part s) kind) :
    (Fallible.focus part replace g).FailsWithin s kind := h

end Focus

/-! ### Recovery -/

/-- A handler is left out where nothing fails. -/
theorem runOn_tryCatch_of_ok {a : α} (runs : f.runOn s = (.ok a, t))
    (handler : ε → Fallible ε σ α) : (tryCatch f handler).runOn s = (.ok a, t) := by
  have runs : f s = (.ok a, t) := runs
  show ExceptT.tryCatch f handler s = _
  simp [ExceptT.tryCatch, ExceptT.mk, bind, StateT.bind, runs]
  rfl

/-- A handler goes on from the state in which its fault was met. -/
theorem runOn_tryCatch_of_error {fault : ε} (fails : f.runOn s = (.error fault, t))
    (handler : ε → Fallible ε σ α) : (tryCatch f handler).runOn s = (handler fault).runOn t := by
  have fails : f s = (.error fault, t) := fails
  show ExceptT.tryCatch f handler s = _
  simp [ExceptT.tryCatch, ExceptT.mk, bind, StateT.bind, fails]
  rfl

theorem FailsWithin.tryCatch {kind : ε → Prop} {handler : ε → Fallible ε σ α}
    (h : f.FailsWithin s kind) (handles : ∀ e, kind e → ∀ t, (handler e).FailsWithin t kind) :
    (tryCatch f handler).FailsWithin s kind := by
  unfold FailsWithin outcome at *
  rcases runs : f.runOn s with ⟨e | a, t⟩
  · rw [runOn_tryCatch_of_error runs]
    exact handles e (h e (congrArg Prod.fst runs)) t
  · rw [runOn_tryCatch_of_ok runs]
    exact Outcome.failsWithin_ok a

end Fallible

end TokenTransfer
