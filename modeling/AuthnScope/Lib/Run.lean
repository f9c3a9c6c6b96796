import Mathlib.Data.List.Induction

/-!
# Runs of a guarded step function

A system is a function `step : σ → α → Option σ` that gives the next state of a state and an
action, or `none` where the action is not possible. A run is a list of actions; these rules speak
of the states a run visits and of the steps it takes, so that a property of every state can be
shown from a property of every step.

## Main definitions

* `run`: the state after a list of actions;
* `Visits`, `Takes`: the states and the steps along a run.

## Main results

* `visits_induction`: what holds at the start and survives every step of a run holds in every
  state it visits;
* `run_induction`: the same for what is said of a state and the actions that led to it.
-/

namespace Transition

variable {σ α : Type} {step : σ → α → Option σ} {s t t' : σ} {as : List α} {a : α}

/-- The state after a list of actions, if each of them is possible in turn. -/
def run (step : σ → α → Option σ) (s : σ) (as : List α) : Option σ := as.foldlM step s

/-- The run comes through the state `t`. -/
def Visits (step : σ → α → Option σ) (s : σ) (as : List α) (t : σ) : Prop :=
  ∃ bs, bs <+: as ∧ run step s bs = some t

/-- The run takes the action `a` from the state `t` to the state `t'`. -/
def Takes (step : σ → α → Option σ) (s : σ) (as : List α) (t : σ) (a : α) (t' : σ) : Prop :=
  ∃ bs, bs ++ [a] <+: as ∧ run step s bs = some t ∧ step t a = some t'

/-- A run ends with its last action. -/
theorem run_concat_eq_some_iff (s : σ) (bs : List α) (a : α) (t' : σ) :
    run step s (bs ++ [a]) = some t' ↔ ∃ t, run step s bs = some t ∧ step t a = some t' := by
  rw [run, List.foldlM_append]
  simp [run, Option.bind_eq_some_iff]

theorem visits_end {as : List α} (h : run step s as = some t) : Visits step s as t :=
  ⟨as, List.prefix_refl as, h⟩

theorem Takes.visits (h : Takes step s as t a t') : Visits step s as t := by
  obtain ⟨bs, hpre, hrun, -⟩ := h
  exact ⟨bs, (List.prefix_append bs [a]).trans hpre, hrun⟩

theorem Takes.visits_next (h : Takes step s as t a t') : Visits step s as t' := by
  obtain ⟨bs, hpre, hrun, hstep⟩ := h
  exact ⟨bs ++ [a], hpre, (run_concat_eq_some_iff _ _ _ _).mpr ⟨t, hrun, hstep⟩⟩

theorem Takes.step_eq (h : Takes step s as t a t') : step t a = some t' := h.choose_spec.2.2

/-- The actions a run takes are its own. -/
theorem Takes.mem (h : Takes step s as t a t') : a ∈ as := by
  obtain ⟨bs, hpre, -⟩ := h
  exact hpre.subset (by simp)

/-- What holds at the start and survives every step of the run holds in every state it visits. -/
theorem visits_induction {P : σ → Prop} (hstart : P s)
    (hstep : ∀ t a t', Takes step s as t a t' → P t → P t') : ∀ t, Visits step s as t → P t := by
  rintro t ⟨bs, hpre, hrun⟩
  -- induction on the actions taken so far, the last one last
  induction bs using List.reverseRecOn generalizing t with
  | nil =>
    cases hrun
    exact hstart
  | append_singleton bs a ih =>
    obtain ⟨t', hrun', ht⟩ := (run_concat_eq_some_iff _ _ _ _).mp hrun
    have hprev : bs <+: as := (List.prefix_append bs [a]).trans hpre
    exact hstep t' a t ⟨bs, hpre, hrun', ht⟩ (ih t' hprev hrun')

/-- What holds at the start and survives every further action holds of every run and its end. -/
theorem run_induction {P : List α → σ → Prop} (hstart : P [] s)
    (hstep : ∀ as t a t', run step s as = some t → step t a = some t' → P as t →
      P (as ++ [a]) t') : ∀ as t, run step s as = some t → P as t := by
  intro as
  induction as using List.reverseRecOn with
  | nil =>
    intro t hrun
    cases hrun
    exact hstart
  | append_singleton as a ih =>
    intro t' hrun
    obtain ⟨t, hrun, ht⟩ := (run_concat_eq_some_iff _ _ _ _).mp hrun
    exact hstep as t a t' hrun ht (ih t hrun)

/-- The step after a run is a step of the longer run. -/
theorem takes_concat (hrun : run step s as = some t) (hstep : step t a = some t') :
    Takes step s (as ++ [a]) t a t' := ⟨as, List.prefix_refl _, hrun, hstep⟩

/-- A longer run takes the steps of a shorter one. -/
theorem Takes.mono {bs : List α} (h : Takes step s as t a t') (hpre : as <+: bs) :
    Takes step s bs t a t' := by
  obtain ⟨cs, hcs, hrun, hstep⟩ := h
  exact ⟨cs, hcs.trans hpre, hrun, hstep⟩

end Transition
