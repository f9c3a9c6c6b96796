import AuthnScope.Lib.Run
import Mathlib.Data.Set.Defs

/-!
# Refinement of one system by another

A step shows a list of events, and a run the events of its steps. A system refines another one when
each of its steps is matched by a run of the other that shows the same: then whatever it shows, the
other one can show as well.

## Main definitions

* `trace`: the events of a run;
* `Simulates`: a relation of states that the steps of a system keep, with the same events.

## Main results

* `Simulates.exists_run`: the runs of a system that is simulated.
-/

namespace Transition

variable {σ τ α β ε : Type} {step : σ → α → Option σ} {events : σ → α → σ → List ε}
  {step' : τ → β → Option τ} {events' : τ → β → τ → List ε} {A : Set α} {B : Set β}
  {R : σ → τ → Prop}

/-- The events of a run, as far as its actions are possible. -/
def trace (step : σ → α → Option σ) (events : σ → α → σ → List ε) : σ → List α → List ε
  | _, [] => []
  | s, a :: as =>
    match step s a with
    | some s' => events s a s' ++ trace step events s' as
    | none => []

/-- A step from related states is matched by a run that shows the same and ends in related states.
The actions are of the given kinds. -/
def Simulates (step : σ → α → Option σ) (events : σ → α → σ → List ε) (step' : τ → β → Option τ)
    (events' : τ → β → τ → List ε) (A : Set α) (B : Set β) (R : σ → τ → Prop) : Prop :=
  ∀ s a s' t, a ∈ A → R s t → step s a = some s' →
    ∃ bs t', (∀ b ∈ bs, b ∈ B) ∧ run step' t bs = some t' ∧
      trace step' events' t bs = events s a s' ∧ R s' t'

/-! ## Runs one after the other -/

theorem run_cons (s : σ) (a : α) (as : List α) :
    run step s (a :: as) = (step s a).bind fun s' => run step s' as := rfl

theorem run_append (s : σ) (as bs : List α) :
    run step s (as ++ bs) = (run step s as).bind fun s' => run step s' bs :=
  List.foldlM_append

theorem trace_cons {s s' : σ} {a : α} (h : step s a = some s') (as : List α) :
    trace step events s (a :: as) = events s a s' ++ trace step events s' as := by
  rw [trace, h]

/-- A run that goes on shows more. -/
theorem trace_append {s s' : σ} {as : List α} (h : run step s as = some s') (bs : List α) :
    trace step events s (as ++ bs) = trace step events s as ++ trace step events s' bs := by
  induction as generalizing s with
  | nil =>
    cases h
    rfl
  | cons a as ih =>
    rw [run_cons] at h
    obtain ⟨t, hstep, hrun⟩ := Option.bind_eq_some_iff.mp h
    rw [List.cons_append, trace_cons hstep, trace_cons hstep, ih hrun, List.append_assoc]

theorem trace_singleton {s s' : σ} {a : α} (h : step s a = some s') :
    trace step events s [a] = events s a s' := by
  rw [trace_cons h, trace, List.append_nil]

/-! ## Simulation -/

/-- A run of a system is matched by one of the system that simulates it. -/
theorem Simulates.exists_run (h : Simulates step events step' events' A B R) {s : σ} {t : τ}
    (hR : R s t) : ∀ as s', run step s as = some s' → (∀ a ∈ as, a ∈ A) →
      ∃ bs t', (∀ b ∈ bs, b ∈ B) ∧ run step' t bs = some t' ∧
        trace step' events' t bs = trace step events s as ∧ R s' t' := by
  refine run_induction ?_ ?_
  · exact fun _ => ⟨[], t, by simp, rfl, rfl, hR⟩
  · intro as s₁ a s₂ hrun hstep ih hA
    obtain ⟨bs, t₁, hB, hrun', htrace, hR₁⟩ := ih fun b hb => hA b (by simp [hb])
    -- the run that matches the last step comes after the one that matches the others
    obtain ⟨cs, t₂, hC, hrun'', htrace', hR₂⟩ := h s₁ a s₂ t₁ (hA a (by simp)) hR₁ hstep
    refine ⟨bs ++ cs, t₂, fun b hb => ?_, ?_, ?_, hR₂⟩
    · exact (List.mem_append.mp hb).elim (hB b) (hC b)
    · rw [run_append, hrun', Option.bind_some, hrun'']
    · rw [trace_append hrun', trace_append hrun, trace_singleton hstep, htrace, htrace']

end Transition
