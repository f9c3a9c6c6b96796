import AuthnScope.Lib.Outcome
import Mathlib.Data.List.Count
import Mathlib.Logic.Function.Basic

/-!
# Open descriptors

A process as its descriptor table shows it: what each open descriptor refers to. Every system call
is recorded with the table it leaves, so a property can speak of each moment of a run and of how
often a call is made. Which descriptor is given and what a call answers is up to the environment.

## Main definitions

* `State`: the table and the calls so far;
* `acquire`, `perform`, `close`: a call that opens a descriptor, uses one, and gives it back;
* `Adds`, `AtMostOneMore`: a table with one more descriptor than another, and with one at most;
* `Balanced`: a run with at most one more descriptor at any time, and a bound on a kind of calls;
* `Ends`: a computation that is balanced, with a property on success and the old table on failure.

## Main results

* `acquire_cases`, `perform_cases`, `close_of_adds`: what a call does to the one more descriptor;
* `Balanced.trans`: runs are balanced one after the other;
* `Ends.bind` and its like: the rules for computations.
-/

namespace Descriptors

open Outcome

variable {C R ε δ α : Type}

/-- What each open descriptor refers to. -/
abbrev Table (R : Type) := ℕ → Option R

/-- The descriptors of a process, and its system calls so far with the table each of them left. -/
structure State (C R : Type) where
  table : Table R
  trace : List (C × Table R)

/-- The process after a call that leaves the given table. -/
def State.record (s : State C R) (call : C) (table : Table R) : State C R :=
  ⟨table, s.trace ++ [(call, table)]⟩

/-- A call that opens a descriptor for a resource, unless the answer is an error. -/
def acquire (call : C) (r : R) (answer : ℕ → Table R → Except ε ℕ) :
    EStateM δ (State C R) (Except ε ℕ) := fun s =>
  match answer s.trace.length s.table with
  -- the answer may depend on the open descriptors, so that it can be a free one
  | .ok fd => .ok (.ok fd) (s.record call (Function.update s.table fd (some r)))
  | .error e => .ok (.error e) (s.record call s.table)

/-- A call on a descriptor that changes what it refers to, unless the answer is an error. -/
def perform (call : C) (fd : ℕ) (f : R → R) (answer : ℕ → Except ε α) :
    EStateM δ (State C R) (Except ε α) := fun s =>
  match answer s.trace.length with
  | .ok a => .ok (.ok a) (s.record call (Function.update s.table fd ((s.table fd).map f)))
  | .error e => .ok (.error e) (s.record call s.table)

/-- Closing frees the descriptor, whatever the call answers. -/
def close (call : C) (fd : ℕ) : EStateM δ (State C R) Unit := fun s =>
  .ok () (s.record call (Function.update s.table fd none))

/-- One more descriptor is open, and it refers to the resource. -/
def Adds (table : Table R) (fd : ℕ) (r : R) (table' : Table R) : Prop :=
  table fd = none ∧ table' = Function.update table fd (some r)

/-- At most one more descriptor is open, and the others are as they were. -/
def AtMostOneMore (table table' : Table R) : Prop :=
  table' = table ∨ ∃ fd r, Adds table fd r table'

/-- From one state to the other the call is made at most `n` times, and at no time more than one
descriptor is open besides those of the table. -/
def Balanced [DecidableEq C] (table : Table R) (call : C) (n : ℕ) (s s' : State C R) : Prop :=
  ∃ calls, s'.trace = s.trace ++ calls ∧ (calls.map Prod.fst).count call ≤ n ∧
    ∀ c ∈ calls, AtMostOneMore table c.2

variable {table table' : Table R} {fd : ℕ} {r : R}

@[simp]
theorem State.record_table (s : State C R) (call : C) (table : Table R) :
    (s.record call table).table = table := rfl

@[simp]
theorem State.record_trace_length (s : State C R) (call : C) (table : Table R) :
    (s.record call table).trace.length = s.trace.length + 1 := List.length_append

theorem acquire_of_ok (call : C) (s : State C R) {answer : ℕ → Table R → Except ε ℕ}
    (h : answer s.trace.length s.table = .ok fd) : (acquire call r answer : EStateM δ _ _) s =
      .ok (.ok fd) (s.record call (Function.update s.table fd (some r))) := by
  unfold acquire
  rw [h]

theorem acquire_of_error (call : C) (s : State C R) {answer : ℕ → Table R → Except ε ℕ} {e : ε}
    (h : answer s.trace.length s.table = .error e) : (acquire call r answer : EStateM δ _ _) s =
      .ok (.error e) (s.record call s.table) := by
  unfold acquire
  rw [h]

theorem AtMostOneMore.refl (table : Table R) : AtMostOneMore table table := Or.inl rfl

theorem Adds.atMostOneMore (h : Adds table fd r table') : AtMostOneMore table table' :=
  Or.inr ⟨fd, r, h⟩

/-- The one more descriptor refers to something else. -/
theorem Adds.map (h : Adds table fd r table') (f : R → R) :
    Adds table fd (f r) (Function.update table' fd ((table' fd).map f)) := by
  obtain ⟨hfree, rfl⟩ := h
  refine ⟨hfree, ?_⟩
  rw [Function.update_self, Option.map_some, Function.update_idem]

/-- Without the one more descriptor the table is as it was. -/
theorem Adds.update_none (h : Adds table fd r table') : Function.update table' fd none = table := by
  obtain ⟨hfree, rfl⟩ := h
  -- the descriptor was free before
  rw [Function.update_idem, ← hfree, Function.update_eq_self]

namespace Balanced

variable [DecidableEq C] {call : C} {m n : ℕ} {s s₁ s₂ : State C R}

theorem refl (table : Table R) (call : C) (s : State C R) : Balanced table call 0 s s :=
  ⟨[], (List.append_nil _).symm, Nat.le_refl 0, by simp⟩

theorem mono (h : Balanced table call m s s₁) (hle : m ≤ n) : Balanced table call n s s₁ := by
  obtain ⟨calls, htrace, hcount, htables⟩ := h
  exact ⟨calls, htrace, Nat.le_trans hcount hle, htables⟩

/-- Runs are balanced one after the other. -/
theorem trans (h : Balanced table call m s s₁) (h' : Balanced table call n s₁ s₂) :
    Balanced table call (m + n) s s₂ := by
  obtain ⟨calls, htrace, hcount, htables⟩ := h
  obtain ⟨calls', htrace', hcount', htables'⟩ := h'
  -- the calls of the first run, then those of the second
  refine ⟨calls ++ calls', by rw [htrace', htrace, List.append_assoc], ?_, fun c hc => ?_⟩
  · rw [List.map_append, List.count_append]
    exact Nat.add_le_add hcount hcount'
  · exact (List.mem_append.mp hc).elim (htables c) (htables' c)

/-- One call is balanced that leaves at most one more descriptor. -/
theorem record (h : AtMostOneMore table table') (call call' : C) (s : State C R) :
    Balanced table call ([call'].count call) s (s.record call' table') := by
  refine ⟨[(call', table')], rfl, Nat.le_refl _, fun c hc => ?_⟩
  rw [List.mem_singleton.mp hc]
  exact h

end Balanced

section

variable [DecidableEq C] (counted call : C) (s : State C R)

/-- Where a free descriptor is given, opening adds it or leaves the table. -/
theorem acquire_cases (r : R) {answer : ℕ → Table R → Except ε ℕ}
    (hfree : ∀ n table fd, answer n table = .ok fd → table fd = none) :
    ∃ result s', (acquire call r answer : EStateM δ _ _) s = .ok result s' ∧
      Balanced s.table counted ([call].count counted) s s' ∧
      ((∃ fd, result = .ok fd ∧ Adds s.table fd r s'.table) ∨
        ∃ e, result = .error e ∧ s'.table = s.table) := by
  cases hanswer : answer s.trace.length s.table with
  | ok fd =>
    have hadds : Adds s.table fd r (Function.update s.table fd (some r)) :=
      ⟨hfree _ _ _ hanswer, rfl⟩
    exact ⟨_, _, acquire_of_ok call s hanswer, .record hadds.atMostOneMore _ _ _,
      Or.inl ⟨fd, rfl, hadds⟩⟩
  | error e =>
    exact ⟨_, _, acquire_of_error call s hanswer, .record (.refl _) _ _ _, Or.inr ⟨e, rfl, rfl⟩⟩

/-- Using the one more descriptor changes what it refers to, or nothing. -/
theorem perform_cases (h : Adds table fd r s.table) (f : R → R) (answer : ℕ → Except ε α) :
    ∃ result s', (perform call fd f answer : EStateM δ _ _) s = .ok result s' ∧
      Balanced table counted ([call].count counted) s s' ∧
      ((∃ a, result = .ok a ∧ Adds table fd (f r) s'.table) ∨
        ∃ e, result = .error e ∧ Adds table fd r s'.table) := by
  unfold perform
  cases answer s.trace.length with
  | ok a => exact ⟨_, _, rfl, .record (h.map f).atMostOneMore _ _ _, Or.inl ⟨a, rfl, h.map f⟩⟩
  | error e => exact ⟨_, _, rfl, .record h.atMostOneMore _ _ _, Or.inr ⟨e, rfl, h⟩⟩

/-- Closing the one more descriptor leaves the table that was there before it. -/
theorem close_of_adds (h : Adds table fd r s.table) :
    ∃ s', (close call fd : EStateM δ _ _) s = .ok () s' ∧
      Balanced table counted ([call].count counted) s s' ∧ s'.table = table := by
  refine ⟨s.record call (Function.update s.table fd none), rfl, ?_, h.update_none⟩
  rw [h.update_none]
  -- the table after the call is the one without the descriptor
  exact .record (.refl table) _ _ _

end

/-! ## Computations -/

/-- From the state the computation is balanced, on success the result and the table have the
property, and on failure the table is the one given. -/
structure Ends [DecidableEq C] (table : Table R) (call : C) (n : ℕ) (Q : α → Table R → Prop)
    (s : State C R) (result : EStateM.Result ε (State C R) α) : Prop where
  balanced : Balanced table call n s (finalState result)
  ok : ∀ a s', result = .ok a s' → Q a s'.table
  error : ∀ e s', result = .error e s' → s'.table = table

namespace Ends

variable {β : Type} [DecidableEq C] {call : C} {m n : ℕ} {Q : α → Table R → Prop}
  {Q' : β → Table R → Prop} {s : State C R}

theorem mono {result : EStateM.Result ε (State C R) α} (h : Ends table call m Q s result)
    (hle : m ≤ n) : Ends table call n Q s result :=
  ⟨h.balanced.mono hle, h.ok, h.error⟩

/-- Calls before a computation count as well. -/
theorem after {s₁ : State C R} {result : EStateM.Result ε (State C R) α}
    (h : Ends table call n Q s₁ result) (hbefore : Balanced table call m s s₁) :
    Ends table call (m + n) Q s result :=
  ⟨hbefore.trans h.balanced, h.ok, h.error⟩

theorem pure {a : α} (h : Q a s.table) :
    Ends table call 0 Q s ((Pure.pure a : EStateM ε (State C R) α) s) := by
  refine ⟨.refl table call s, fun a' s' hrun => ?_, fun e s' hrun => ?_⟩
  · cases hrun
    exact h
  · cases hrun

theorem throw (h : s.table = table) (e : ε) :
    Ends table call 0 Q s ((MonadExcept.throw e : EStateM ε (State C R) α) s) := by
  refine ⟨.refl table call s, fun a s' hrun => ?_, fun e' s' hrun => ?_⟩
  · cases hrun
  · cases hrun
    exact h

theorem mapError {f : ε → δ} {x : EStateM ε (State C R) α} (h : Ends table call n Q s (x s)) :
    Ends table call n Q s (mapError f x s) := by
  refine ⟨?_, fun a s' hok => ?_, fun e s' herror => ?_⟩
  · rw [finalState_mapError]
    exact h.balanced
  · exact h.ok a s' ((mapError_eq_ok_iff f x a s s').mp hok)
  · obtain ⟨e', herror', -⟩ := (mapError_eq_error_iff f x e s s').mp herror
    exact h.error e' s' herror'

theorem bind {x : EStateM ε (State C R) α} {f : α → EStateM ε (State C R) β}
    (hx : Ends table call m Q s (x s))
    (hf : ∀ a s₁, Q a s₁.table → Ends table call n Q' s₁ (f a s₁)) :
    Ends table call (m + n) Q' s ((x >>= f) s) := by
  cases hrun : x s with
  | ok a s₁ =>
    rw [hrun] at hx
    rw [bind_of_ok hrun]
    exact (hf a s₁ (hx.ok a s₁ rfl)).after hx.balanced
  | error e s₁ =>
    rw [hrun] at hx
    rw [bind_of_error hrun]
    refine ⟨hx.balanced.mono (Nat.le_add_right m n), fun b s' h => ?_, fun e' s' h => ?_⟩
    · cases h
    · cases h
      exact hx.error e s₁ rfl

end Ends

end Descriptors
