import AuthnScope.Agent.WorkloadApi

/-!
# The locks of the Workload API

The locks are held by the tasks that have their guards in scope, whatever the interleaving. Every
lock is taken under the lock of the workloads, so there is no deadlock: a task that holds a lock
goes on unless it waits for its client. A task takes at most 21 steps.

## Main results

* `Task.Goes.guards`: a step takes no lock but the one the task waited for;
* `Task.Goes.remaining_lt`, `Task.exists_goes`: a task comes closer to its return with each step,
  and takes one unless it waits;
* `System.Consistent.step`: the lock table agrees with the scopes;
* `System.Consistent.holder_eq_none_of_awaits`: a task that holds a lock never waits for one.
-/

namespace AuthnScope

open Locks

/-! ## Scopes -/

namespace Pc

/-- Whoever holds a lock holds the workloads. -/
theorem workloads_mem_guards {pc : Pc} {l : Lock} (h : l ∈ pc.guards) : .workloads ∈ pc.guards := by
  cases pc <;> simp_all [guards]

/-- A task does not wait for a lock it holds. -/
theorem not_mem_guards_of_awaits {pc : Pc} {l : Lock} (h : pc.awaits = some l) :
    l ∉ pc.guards := by
  cases pc <;> simp_all [guards, awaits] <;> subst h <;> simp

section

variable {KeyPair PublicKey : Type} {api : WorkloadApi KeyPair PublicKey} {env : StepEnv KeyPair}
  {now : Instant} {st : AgentState} {pc pc' : Pc}

/-- A step takes no lock but the one it waited for. -/
theorem Leads.guards (h : Leads api env now st pc pc') {l : Lock} (hl : l ∈ pc'.guards) :
    l ∈ pc.guards ∨ pc.awaits = some l := by
  cases h with
  | fails | ended | written => cases hl
  | matched | unmatched =>
    rw [List.mem_singleton.mp hl]
    exact Or.inr rfl
  | generated | dials =>
    revert hl
    cases l <;> simp [Pc.guards, Pc.awaits]
  | stored =>
    rw [List.mem_singleton.mp hl]
    exact Or.inl List.mem_cons_self
  | _ => exact Or.inl hl

/-- A step brings a task closer to its return. -/
theorem Leads.remaining_lt (h : Leads api env now st pc pc') : pc'.remaining < pc.remaining := by
  cases h with
  | fails hpc =>
    cases pc with
    | returned result => exact absurd rfl (hpc result)
    | bindListener name generated resp attempts =>
      show 0 < 3 + _
      omega
    | _ => simp [remaining]
  | bound =>
    show 2 < 3 + _
    omega
  | bindAgain hattempts =>
    show 3 + (10 - _) < 3 + (10 - _)
    omega
  | _ => simp [remaining]

end

end Pc

section

variable {KeyPair PublicKey : Type} {api : WorkloadApi KeyPair PublicKey} {env : StepEnv KeyPair}
  {now : Instant} {st st' : AgentState} {task task' : Task}

namespace Task

/-- A step takes no lock but the one it waited for. -/
theorem Goes.guards (h : task.Goes api env now st st' task') {l : Lock}
    (hl : l ∈ task'.pc.guards) : l ∈ task.pc.guards ∨ task.pc.awaits = some l := h.leads.guards hl

/-- A step brings a task closer to its return. -/
theorem Goes.remaining_lt (h : task.Goes api env now st st' task') :
    task'.pc.remaining < task.pc.remaining := h.leads.remaining_lt

end Task

namespace System

variable {sys sys' : System}

/-- The guards in scope of each task. -/
def guards (sys : System) (id : ℕ) : List Lock := ((sys.tasks id).map fun t => t.pc.guards).getD []

/-- The locks are held by the tasks that have their guards in scope. -/
def Consistent (sys : System) : Prop := sys.holder.Agrees sys.guards

/-! ### The locks -/

theorem guards_of_tasks {id : ℕ} (h : sys.tasks id = some task) :
    sys.guards id = task.pc.guards := by
  rw [guards, h]
  rfl

theorem exists_of_mem_guards {id : ℕ} {l : Lock} (h : l ∈ sys.guards id) :
    ∃ task, sys.tasks id = some task ∧ l ∈ task.pc.guards := by
  unfold guards at h
  cases htask : sys.tasks id with
  | none =>
    rw [htask] at h
    cases h
  | some task =>
    rw [htask] at h
    exact ⟨task, rfl, h⟩

theorem guards_advance (sys : System) (id : ℕ) (st : AgentState) (task : Task) :
    (sys.advance id st task).guards = Function.update sys.guards id task.pc.guards := by
  ext other : 1
  by_cases hother : other = id
  · subst hother
    simp [guards, advance]
  · simp [guards, advance, Function.update_of_ne hother]

theorem Outside.guards (h : sys.Outside sys') : sys'.guards = sys.guards := by
  ext id : 1
  rcases h.task id with ⟨hnone, hnone'⟩ | ⟨peer, room, hnone, htask'⟩ |
    ⟨task, task', htask, htask', hhears⟩
  · rw [System.guards, System.guards, hnone, hnone']
  · -- a new task holds nothing
    rw [guards_of_tasks htask', System.guards, hnone]
    cases peer <;> rfl
  · rw [guards_of_tasks htask', guards_of_tasks htask, hhears.pc]

theorem consistent_start (now : Instant) (state : AgentState) : (start now state).Consistent :=
  Table.agrees_free

/-- A task that holds a lock finds the next one free. -/
theorem Consistent.holder_eq_none_of_awaits (hsys : sys.Consistent) {id : ℕ} {l l' : Lock}
    (htask : sys.tasks id = some task) (hl : l ∈ task.pc.guards) (hl' : task.pc.awaits = some l') :
    sys.holder l' = none := by
  refine (hsys.eq_none_iff l').mpr fun other hother => ?_
  -- the holder of that lock would hold the workloads as well
  obtain ⟨task', htask', hguards⟩ := exists_of_mem_guards hother
  have hother' : .workloads ∈ sys.guards other := by
    rw [guards_of_tasks htask']
    exact Pc.workloads_mem_guards hguards
  have hid : .workloads ∈ sys.guards id := by
    rw [guards_of_tasks htask]
    exact Pc.workloads_mem_guards hl
  obtain rfl := hsys.unique hother' hid
  rw [guards_of_tasks htask] at hother
  exact Pc.not_mem_guards_of_awaits hl' hother

/-- The locks stay held by the tasks that have their guards in scope. -/
theorem Consistent.step {a : Action KeyPair} (hsys : sys.Consistent)
    (h : sys.step api a = some sys') : sys'.Consistent := by
  rcases step_cases h with ⟨id, env, rfl⟩ | hout
  · obtain ⟨task, st', task', htask, hfree, hgoes, rfl⟩ := (step_run_eq_some_iff id).mp h
    rw [Consistent, guards_advance]
    refine hsys.retain fun l hl => ?_
    rw [guards_of_tasks htask]
    exact (hgoes.guards hl).imp_right (hfree l)
  · rw [Consistent, hout.guards, hout.holder]
    exact hsys

/-- The locks are held by the tasks that have their guards in scope in every state of a run. -/
theorem consistent_of_visits {state : AgentState} {as : List (Action KeyPair)}
    (h : Transition.Visits (System.step api) (start now state) as sys) : sys.Consistent :=
  Transition.visits_induction (consistent_start now state)
    (fun _ _ _ htakes hsys => hsys.step htakes.step_eq) sys h

end System

end

end AuthnScope
