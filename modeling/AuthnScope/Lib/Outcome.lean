import Mathlib.Tactic.Common

/-!
# Rules for fallible stateful code

Code that returns a `Result` and changes a state on the way is `EStateM ε σ`: a failing step keeps
the state it was left in, as Rust's `?` does. These rules take such computations apart at their
binds and lift a property of the state over a whole computation.

## Main results

* `bind_eq_ok_iff`, `bind_eq_error_iff`: the two outcomes of a sequence;
* `forM_eq_ok_iff`: a list of checks passes when each of them does;
* `Preserves.bind`: an invariant of every step is one of the whole computation, whether it succeeds
  or fails;
* `Keeps.bind`: the same of a value that every step keeps;
* `exists_attemptAll`: a simulation of computations is one of lists of them.
-/

namespace Outcome

variable {ε σ α β : Type}

/-- `Result` of a step that does not touch the state, followed by `?`. -/
def liftResult : Except ε α → EStateM ε σ α
  | .ok a => pure a
  | .error e => throw e

/-- `map_err` on a stateful computation. -/
def mapError {δ : Type} (f : ε → δ) (x : EStateM ε σ α) : EStateM δ σ α := fun s =>
  match x s with
  | .ok a s' => .ok a s'
  | .error e s' => .error (f e) s'

/-- `let _ = x`: run a computation for its effects and drop its result. -/
def ignoreResult {δ : Type} (x : EStateM ε σ α) : EStateM δ σ Unit := fun s =>
  match x s with
  | .ok _ s' => .ok () s'
  | .error _ s' => .ok () s'

/-- The `Result` of a step as a value, to go on in both cases. -/
def resultOf {δ : Type} (x : EStateM ε σ α) : EStateM δ σ (Except ε α) := fun s =>
  match x s with
  | .ok a s' => .ok (.ok a) s'
  | .error e s' => .ok (.error e) s'

@[simp]
theorem except_ok_bind (a : α) (f : α → Except ε β) : (Except.ok a >>= f) = f a := rfl

/-- A sequence of `Result`s succeeds when both parts do. -/
theorem except_bind_eq_ok_iff {x : Except ε α} {f : α → Except ε β} {b : β} :
    (x >>= f) = .ok b ↔ ∃ a, x = .ok a ∧ f a = .ok b := by
  cases x with
  | ok a => simp [bind, Except.bind]
  | error e => simp [bind, Except.bind]

/-- The value of a `Result` that is kept is the one it succeeds with. -/
theorem toOption_eq_some_iff (x : Except ε α) (a : α) : x.toOption = some a ↔ x = .ok a := by
  cases x with
  | ok b => simp [Except.toOption]
  | error e => simp [Except.toOption]

/-- A list of checks passes when every check passes. -/
theorem forM_eq_ok_iff (l : List α) (check : α → Except ε PUnit) :
    l.forM check = .ok ⟨⟩ ↔ ∀ a ∈ l, check a = .ok ⟨⟩ := by
  -- the first check that fails ends the list
  induction l with
  | nil => simp [pure, Except.pure]
  | cons a l ih =>
    rw [List.forM_eq_forM, List.forM_cons, ← List.forM_eq_forM]
    cases h : check a with
    | ok u => simpa [bind, Except.bind, h] using ih
    | error e => simp [bind, Except.bind, h]

/-- The state a computation leaves behind, on success and on failure. -/
def finalState : EStateM.Result ε σ α → σ
  | .ok _ s => s
  | .error _ s => s

@[simp]
theorem finalState_ok (a : α) (s : σ) : finalState (.ok a s : EStateM.Result ε σ α) = s := rfl

@[simp]
theorem finalState_error (e : ε) (s : σ) :
    finalState (.error e s : EStateM.Result ε σ α) = s := rfl

/-- The `Result` of a computation, without the state. -/
def outcome : EStateM.Result ε σ α → Except ε α
  | .ok a _ => .ok a
  | .error e _ => .error e

@[simp]
theorem outcome_ok (a : α) (s : σ) : outcome (.ok a s : EStateM.Result ε σ α) = .ok a := rfl

@[simp]
theorem outcome_error (e : ε) (s : σ) :
    outcome (.error e s : EStateM.Result ε σ α) = .error e := rfl

theorem ignoreResult_run {δ : Type} (x : EStateM ε σ α) (s : σ) :
    (ignoreResult x : EStateM δ σ Unit) s = .ok () (finalState (x s)) := by
  unfold ignoreResult
  cases x s <;> rfl

@[simp]
theorem liftResult_ok (a : α) (s : σ) :
    (liftResult (.ok a) : EStateM ε σ α) s = .ok a s := rfl

@[simp]
theorem liftResult_error (e : ε) (s : σ) :
    (liftResult (.error e) : EStateM ε σ α) s = .error e s := rfl

@[simp]
theorem liftResult_ok_bind (a : α) (f : α → EStateM ε σ β) :
    (liftResult (.ok a) >>= f) = f a := rfl

@[simp]
theorem liftResult_error_bind (e : ε) (f : α → EStateM ε σ β) :
    (liftResult (.error e) >>= f) = throw e := rfl

theorem resultOf_of_ok {δ : Type} {x : EStateM ε σ α} {s s₁ : σ} {a : α} (h : x s = .ok a s₁) :
    (resultOf x : EStateM δ σ (Except ε α)) s = .ok (.ok a) s₁ := by
  unfold resultOf
  rw [h]

theorem resultOf_of_error {δ : Type} {x : EStateM ε σ α} {s s₁ : σ} {e : ε}
    (h : x s = .error e s₁) :
    (resultOf x : EStateM δ σ (Except ε α)) s = .ok (.error e) s₁ := by
  unfold resultOf
  rw [h]

theorem liftResult_eq_ok_iff (r : Except ε α) (s s' : σ) (a : α) :
    (liftResult r : EStateM ε σ α) s = .ok a s' ↔ r = .ok a ∧ s' = s := by
  cases r <;> simp [eq_comm]

/-- Renaming errors changes no success. -/
theorem mapError_eq_ok_iff {δ : Type} (f : ε → δ) (x : EStateM ε σ α) (a : α) (s s' : σ) :
    mapError f x s = .ok a s' ↔ x s = .ok a s' := by
  unfold mapError
  cases x s <;> simp

theorem mapError_eq_error_iff {δ : Type} (f : ε → δ) (x : EStateM ε σ α) (e : δ) (s s' : σ) :
    mapError f x s = .error e s' ↔ ∃ e', x s = .error e' s' ∧ f e' = e := by
  unfold mapError
  cases x s with
  | ok a s₁ => simp
  | error e' s₁ => simp [and_comm]

theorem except_mapError_eq_ok_iff {δ : Type} (f : ε → δ) (r : Except ε α) (a : α) :
    r.mapError f = .ok a ↔ r = .ok a := by
  cases r <;> simp [Except.mapError]

@[simp]
theorem pure_run (a : α) (s : σ) : (pure a : EStateM ε σ α) s = .ok a s := rfl

@[simp]
theorem throw_run (e : ε) (s : σ) : (throw e : EStateM ε σ α) s = .error e s := rfl

@[simp]
theorem modify_run (f : σ → σ) (s : σ) :
    (modify f : EStateM ε σ PUnit) s = .ok ⟨⟩ (f s) := rfl

@[simp]
theorem get_run (s : σ) : (get : EStateM ε σ σ) s = .ok s s := rfl

/-- After a successful step, the rest runs from its result. -/
theorem bind_of_ok {x : EStateM ε σ α} {s s₁ : σ} {a : α} (h : x s = .ok a s₁)
    (f : α → EStateM ε σ β) : (x >>= f) s = f a s₁ := by
  simp only [bind, EStateM.bind, h]

/-- After a failing step, the rest does not run. -/
theorem bind_of_error {x : EStateM ε σ α} {s s₁ : σ} {e : ε} (h : x s = .error e s₁)
    (f : α → EStateM ε σ β) : (x >>= f) s = .error e s₁ := by
  simp only [bind, EStateM.bind, h]

/-- A sequence succeeds when both parts do. -/
theorem bind_eq_ok_iff {x : EStateM ε σ α} {f : α → EStateM ε σ β} {s s' : σ} {b : β} :
    (x >>= f) s = .ok b s' ↔ ∃ a s₁, x s = .ok a s₁ ∧ f a s₁ = .ok b s' := by
  cases hx : x s with
  | ok a s₁ => simp [bind_of_ok hx]
  | error e s₁ => simp [bind_of_error hx]

/-- A sequence fails when its first part fails, or its second after the first succeeded. -/
theorem bind_eq_error_iff {x : EStateM ε σ α} {f : α → EStateM ε σ β} {s s' : σ} {e : ε} :
    (x >>= f) s = .error e s' ↔
      x s = .error e s' ∨ ∃ a s₁, x s = .ok a s₁ ∧ f a s₁ = .error e s' := by
  cases hx : x s with
  | ok a s₁ => simp [bind_of_ok hx]
  | error e₁ s₁ => simp [bind_of_error hx]

/-- Returning something else leaves the same state. -/
theorem finalState_bind_pure (x : EStateM ε σ α) (b : β) (s : σ) :
    finalState ((x >>= fun _ => pure b) s) = finalState (x s) := by
  cases hx : x s with
  | ok a s₁ => rw [bind_of_ok hx, pure_run, finalState_ok, finalState_ok]
  | error e s₁ => rw [bind_of_error hx, finalState_error, finalState_error]

/-- Returning what is made of the result leaves the same state. -/
theorem finalState_bind_map (x : EStateM ε σ α) (f : α → β) (s : σ) :
    finalState ((x >>= fun a => pure (f a)) s) = finalState (x s) := by
  cases hx : x s with
  | ok a s₁ => rw [bind_of_ok hx, pure_run, finalState_ok, finalState_ok]
  | error e s₁ => rw [bind_of_error hx, finalState_error, finalState_error]

/-- Renaming errors leaves the same state. -/
theorem finalState_mapError {δ : Type} (f : ε → δ) (x : EStateM ε σ α) (s : σ) :
    finalState (mapError f x s) = finalState (x s) := by
  unfold mapError
  cases x s <;> rfl

/-- Errors of a sequence are renamed where they occur. -/
theorem mapError_bind {δ : Type} (f : ε → δ) (x : EStateM ε σ α) (g : α → EStateM ε σ β) :
    mapError f (x >>= g) = mapError f x >>= fun a => mapError f (g a) := by
  funext s
  cases hx : x s with
  | ok a s₁ =>
    rw [bind_of_ok ((mapError_eq_ok_iff f x a s s₁).mpr hx), mapError, mapError, bind_of_ok hx]
  | error e s₁ =>
    have hmap : mapError f x s = .error (f e) s₁ := by rw [mapError, hx]
    rw [bind_of_error hmap, mapError, bind_of_error hx]

/-- The computation preserves an invariant of the state, however it ends. -/
def Preserves (I : σ → Prop) (x : EStateM ε σ α) : Prop := ∀ s, I s → I (finalState (x s))

namespace Preserves

variable {I : σ → Prop}

theorem pure (a : α) : Preserves (ε := ε) I (Pure.pure a : EStateM ε σ α) := fun _ hs => hs

theorem liftResult (r : Except ε α) : Preserves I (liftResult r : EStateM ε σ α) := by
  intro s hs
  cases r <;> exact hs

theorem bind {x : EStateM ε σ α} {f : α → EStateM ε σ β} (hx : Preserves I x)
    (hf : ∀ a, Preserves I (f a)) : Preserves I (x >>= f) := by
  intro s hs
  have hxs := hx s hs
  cases h : x s with
  | ok a s₁ =>
    rw [h] at hxs
    rw [bind_of_ok h]
    exact hf a s₁ hxs
  | error e s₁ =>
    rw [h] at hxs
    rw [bind_of_error h]
    exact hxs

theorem mapError {δ : Type} {f : ε → δ} {x : EStateM ε σ α} (hx : Preserves I x) :
    Preserves I (mapError f x) := by
  intro s hs
  rw [finalState_mapError]
  exact hx s hs

theorem ignoreResult {δ : Type} {x : EStateM ε σ α} (hx : Preserves I x) :
    Preserves I (ignoreResult x : EStateM δ σ Unit) := by
  intro s hs
  rw [ignoreResult_run]
  exact hx s hs

theorem ite {p : Prop} [Decidable p] {x y : EStateM ε σ α} (hx : Preserves I x)
    (hy : Preserves I y) : Preserves I (if p then x else y) := by
  split
  · exact hx
  · exact hy

end Preserves

/-- The computation keeps the value of `view`, however it ends. -/
def Keeps {γ : Type} (view : σ → γ) (x : EStateM ε σ α) : Prop :=
  ∀ s, view (finalState (x s)) = view s

/-- A value is kept when each equation for it is an invariant. -/
theorem keeps_iff_preserves {γ : Type} {view : σ → γ} {x : EStateM ε σ α} :
    Keeps view x ↔ ∀ c, Preserves (fun s => view s = c) x := by
  constructor
  · intro h c s hs
    exact (h s).trans hs
  · intro h s
    exact h (view s) s rfl

namespace Keeps

variable {γ : Type} {view : σ → γ}

theorem pure (a : α) : Keeps (ε := ε) view (Pure.pure a : EStateM ε σ α) := fun _ => rfl

theorem throw (e : ε) : Keeps view (MonadExcept.throw e : EStateM ε σ α) := fun _ => rfl

theorem modify {f : σ → σ} (h : ∀ s, view (f s) = view s) :
    Keeps view (modify f : EStateM ε σ PUnit) := h

theorem liftResult (r : Except ε α) : Keeps view (liftResult r : EStateM ε σ α) :=
  keeps_iff_preserves.mpr fun _ => .liftResult r

theorem bind {x : EStateM ε σ α} {f : α → EStateM ε σ β} (hx : Keeps view x)
    (hf : ∀ a, Keeps view (f a)) : Keeps view (x >>= f) :=
  keeps_iff_preserves.mpr fun c =>
    (keeps_iff_preserves.mp hx c).bind fun a => keeps_iff_preserves.mp (hf a) c

theorem mapError {δ : Type} {f : ε → δ} {x : EStateM ε σ α} (hx : Keeps view x) :
    Keeps view (mapError f x) :=
  keeps_iff_preserves.mpr fun c => (keeps_iff_preserves.mp hx c).mapError

theorem ite {p : Prop} [Decidable p] {x y : EStateM ε σ α} (hx : Keeps view x)
    (hy : Keeps view y) : Keeps view (if p then x else y) :=
  keeps_iff_preserves.mpr fun c =>
    .ite (keeps_iff_preserves.mp hx c) (keeps_iff_preserves.mp hy c)

end Keeps

/-! ## One computation after the other -/

section

variable {ι κ τ : Type}

/-- Run a computation for each of the items, one after the other, whether those before it have
failed or not. -/
def attemptAll (f : ι → EStateM ε σ α) : List ι → σ → List (Except ε α) × σ
  | [], s => ([], s)
  | i :: is, s =>
    let rest := attemptAll f is (finalState (f i s))
    (outcome (f i s) :: rest.1, rest.2)

/-- Where each computation is answered by one with the same result, from related states to related
states, a list of them is answered by a list. -/
theorem exists_attemptAll {R : σ → τ → Prop} {P : ι → κ → Prop} {f : ι → EStateM ε σ α}
    {g : κ → EStateM ε τ α}
    (hstep : ∀ i s t, R s t → ∃ k, P i k ∧ outcome (g k t) = outcome (f i s) ∧
      R (finalState (f i s)) (finalState (g k t)))
    (is : List ι) {s : σ} {t : τ} (hst : R s t) :
    ∃ ks, List.Forall₂ P is ks ∧ (attemptAll g ks t).1 = (attemptAll f is s).1 ∧
      R (attemptAll f is s).2 (attemptAll g ks t).2 := by
  induction is generalizing s t with
  | nil => exact ⟨[], .nil, rfl, hst⟩
  | cons i is ih =>
    obtain ⟨k, hk, hsame, hnext⟩ := hstep i s t hst
    obtain ⟨ks, hks, hrest, hend⟩ := ih hnext
    refine ⟨k :: ks, .cons hk hks, ?_, hend⟩
    rw [attemptAll, attemptAll, hsame, hrest]

end

end Outcome
