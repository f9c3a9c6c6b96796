import AuthnScope.Agent.Integrity
import AuthnScope.Agent.Serial
import AuthnScope.Lib.Refinement

/-!
# The agent as one caller after the other

The tasks of the Workload API interleave, and what their clients are answered is what a service
would answer that makes one call of `get_or_fetch_credentials` after the other, in the order in
which the tasks come out of theirs.

## Main definitions

* `Service`: the sequential service;
* `Answer`: what a task shows of a call;
* `System.answers`, `Service.answers`: the answers of a step.

## Main results

* `simulates_service`: the service simulates the tasks;
* `tasks_linearizable`: their answers are those of the service.
-/

namespace AuthnScope

open Locks Outcome Transition

/-- What a task shows of a call: the identity it asked for, when the call was over, and where the
task goes on. -/
structure Answer where
  id : ℕ
  identityName : String
  time : Instant
  pc : Pc

/-- The shared state behind a list of calls, and the end of the last of them. -/
structure Service where
  state : AgentState
  last : Option Instant

instance (task : Task) : Decidable task.AtCall := inferInstanceAs (Decidable (_ ∨ _))

section

variable {KeyPair PublicKey : Type} (api : WorkloadApi KeyPair PublicKey)

/-- Where the task of a call goes on: it responds with the credentials, or returns the error. -/
def Call.pc (call : Call KeyPair) (st : AgentState) : Pc :=
  match call.run api st with
  | .ok creds _ => api.respond (.success creds.certPem creds.keyPem creds.caCertPem)
  | .error e _ => .returned (.error e)

/-- A task makes a call, which begins after the last one has ended. -/
def Service.step (s : Service) (call : ℕ × Call KeyPair) : Option Service :=
  if call.2.env.now.nanos ≤ call.2.env.finished.nanos ∧
      s.last.all fun t => t.nanos ≤ call.2.env.now.nanos then
    some ⟨finalState (call.2.run api s.state), some call.2.env.finished⟩
  else none

/-- The answer to a call. -/
def Service.answers (s : Service) (call : ℕ × Call KeyPair) (_ : Service) : List Answer :=
  [⟨call.1, call.2.identityName, call.2.env.finished, call.2.pc api s.state⟩]

/-- The answer of a step in which a task comes out of its call. -/
def System.answers (sys : System) (a : Action KeyPair) (sys' : System) : List Answer :=
  match a with
  | .run id _ =>
    match sys.tasks id, sys'.tasks id with
    | some task, some task' =>
      if task.AtCall ∧ .cache ∉ task'.pc.guards then
        (task.pc.identityName.map fun name => ⟨id, name, sys.now, task'.pc⟩).toList
      else []
    | _, _ => []
  | _ => []

end

section

variable {KeyPair PublicKey : Type} {api : WorkloadApi KeyPair PublicKey}
  {stepEnv : StepEnv KeyPair} {st st' : AgentState} {task task' : Task} {sys sys' : System}
  {calls : List (Call KeyPair)} {steps : ℕ → Set (StepEnv KeyPair)}

theorem Pc.Answers.pc_eq {pc : Pc} {call : Call KeyPair} {origin : AgentState}
    (h : pc.Answers api (call.run api origin) st) : call.pc api origin = pc := by
  unfold Call.pc
  rcases h with ⟨creds, hrun, rfl⟩ | ⟨e, hrun, rfl⟩ <;> rw [hrun]

/-- The service makes a call that begins after the last one. -/
theorem Service.step_eq_some {s : Service} {call : ℕ × Call KeyPair}
    (hpast : call.2.env.now.nanos ≤ call.2.env.finished.nanos)
    (hlast : ∀ t, s.last = some t → t.nanos ≤ call.2.env.now.nanos) :
    s.step api call =
      some ⟨finalState (call.2.run api s.state), some call.2.env.finished⟩ := by
  refine if_pos ⟨hpast, ?_⟩
  cases hs : s.last with
  | none => rfl
  | some t => simpa using hlast t hs

namespace System

/-! ## The answers of a step -/

theorem answers_advance {id : ℕ} (htask : sys.tasks id = some task) :
    sys.answers (.run id stepEnv) (sys.advance id st' task') =
      if task.AtCall ∧ .cache ∉ task'.pc.guards then
        (task.pc.identityName.map fun name => ⟨id, name, sys.now, task'.pc⟩).toList
      else [] := by
  unfold answers
  simp only [htask, advance_tasks_self]

/-- What happens outside the tasks shows nothing. -/
theorem answers_of_not_run {a : Action KeyPair} (h : ¬∃ id stepEnv, a = .run id stepEnv) :
    sys.answers a sys' = [] := by
  cases a with
  | run id stepEnv => exact absurd ⟨id, stepEnv, rfl⟩ h
  | _ => rfl

/-! ## The simulation -/

/-- At the start no call has been completed and no task is there. -/
theorem serial_start (now : Instant) : (start now st).Serial api steps st [] where
  completed := ⟨List.Pairwise.nil, by simp, by simp⟩
  idle _ := rfl
  underWay := by
    rintro id task ⟨⟩

/-- The service is behind the calls that the tasks have completed. -/
structure ServedBy (api : WorkloadApi KeyPair PublicKey) (steps : ℕ → Set (StepEnv KeyPair))
    (st : AgentState) (sys : System) (s : Service) : Prop where
  consistent : sys.Consistent
  behind : ∃ calls, sys.Serial api steps st calls ∧ s.state = serial api st calls ∧
    s.last = calls.getLast?.map fun call => call.env.finished

/-- A call that the tasks complete is one that the service can make. -/
theorem ServedBy.completes {s : Service} (hserved : sys.ServedBy api steps st s) {id : ℕ}
    (htask : sys.tasks id = some task)
    (hfree : ∀ l, task.pc.awaits = some l → sys.holder l = none)
    (hgoes : task.Goes api stepEnv sys.now sys.state st' task') (hcall : task.AtCall)
    (hmem : stepEnv ∈ steps id) (hover : .cache ∉ task'.pc.guards)
    (hconsistent : (sys.advance id st' task').Consistent) :
    ∃ call s', call.env.FromSteps (steps id) ∧ s.step api (id, call) = some s' ∧
      s.answers api (id, call) s' =
        sys.answers (.run id stepEnv) (sys.advance id st' task') ∧
      (sys.advance id st' task').ServedBy api steps st s' := by
  obtain ⟨calls, hserial, hstate, hlast⟩ := hserved.behind
  obtain ⟨call, hname, hfrom, hfinished, hanswers, hserial'⟩ :=
    hserial.completes hserved.consistent htask hfree hgoes hcall hmem hover
  have hdone := hserial'.completed
  have hstep : s.step api (id, call) = _ := Service.step_eq_some
    (hdone.past call (by simp)).1 fun t ht => ?_
  · refine ⟨call, _, hfrom, hstep, ?_, hconsistent, calls ++ [call], hserial', ?_, ?_⟩
    · rw [answers_advance htask, if_pos ⟨hcall, hover⟩, hname]
      simp only [Service.answers, hfinished, hstate, hanswers.pc_eq, Option.map_some,
        Option.toList_some]
    · rw [serial_concat, ← hstate]
    · rw [List.getLast?_concat, Option.map_some]
  -- the last call is among those before this one
  · rw [hlast] at ht
    obtain ⟨c, hc, rfl⟩ := Option.map_eq_some_iff.mp ht
    have horder := List.pairwise_append.mp hdone.inOrder
    exact horder.2.2 c (List.mem_of_getLast? hc) call (by simp)

/-- The sequential service simulates the tasks: it makes a call when a task comes out of it. -/
theorem simulates_service (st : AgentState) :
    Simulates (System.step api) System.answers (Service.step api) (Service.answers api)
      {a | ∀ id stepEnv, a = .run id stepEnv → stepEnv ∈ steps id}
      {call | call.2.env.FromSteps (steps call.1)} (ServedBy api steps st) := by
  intro sys a sys' s hmem hserved hstep
  have hconsistent := hserved.consistent.step hstep
  obtain ⟨calls, hserial, hbehind⟩ := hserved.behind
  -- a step that completes no call shows nothing
  have hstutter : sys.answers a sys' = [] → sys'.Serial api steps st calls →
      ∃ bs s', (∀ b ∈ bs, b ∈ {call : ℕ × Call KeyPair | call.2.env.FromSteps (steps call.1)}) ∧
        run (Service.step api) s bs = some s' ∧
        trace (Service.step api) (Service.answers api) s bs = sys.answers a sys' ∧
        sys'.ServedBy api steps st s' := fun hnone hserial' =>
    ⟨[], s, by simp, rfl, by rw [hnone]; rfl, hconsistent, calls, hserial', hbehind⟩
  by_cases hrun : ∃ id stepEnv, a = .run id stepEnv
  · obtain ⟨id, stepEnv, rfl⟩ := hrun
    obtain ⟨task, st', task', htask, hfree, hgoes, rfl⟩ := (step_run_eq_some_iff id).mp hstep
    have hsteps : stepEnv ∈ steps id := hmem id stepEnv rfl
    by_cases hcall : task.AtCall
    · by_cases hnext : .cache ∈ task'.pc.guards
      · refine hstutter ?_ (hserial.goesOn hserved.consistent htask hfree hgoes hcall hsteps hnext)
        rw [answers_advance htask, if_neg fun h => h.2 hnext]
      · obtain ⟨call, s', hfrom, hs, hanswers, hserved'⟩ :=
          hserved.completes htask hfree hgoes hcall hsteps hnext hconsistent
        refine ⟨[(id, call)], s', by simpa using hfrom, ?_, ?_, hserved'⟩
        · rw [run_cons, hs]
          rfl
        · rw [trace_singleton hs, hanswers]
    · refine hstutter ?_ (hserial.frame htask hgoes hcall)
      rw [answers_advance htask, if_neg fun h => hcall h.1]
  · have hout := (step_cases hstep).resolve_left hrun
    exact hstutter (answers_of_not_run hrun) (hserial.of_outside hout (now_le_of_step hstep))

/-! ## Runs -/

/-- However the connections of the Workload API interleave, what their tasks answer when they come
out of `get_or_fetch_credentials`, and in which order, is what a service answers that makes one call
after the other; each call gets its answers from the steps of its task, and with no call under way
the shared state is that of the service. -/
theorem tasks_linearizable (api : WorkloadApi KeyPair PublicKey) (st : AgentState) (now : Instant)
    (as : List (Action KeyPair)) (sys : System)
    (hrun : run (System.step api) (start now st) as = some sys) :
    ∃ calls s, (∀ call ∈ calls, call.2.env.FromSteps (stepsOf as call.1)) ∧
      run (Service.step api) ⟨st, none⟩ calls = some s ∧
      trace (Service.step api) (Service.answers api) ⟨st, none⟩ calls =
        trace (System.step api) System.answers (start now st) as ∧
      ((∀ id, .cache ∉ sys.guards id) → sys.state = s.state) := by
  have hstart : (start now st).ServedBy api (stepsOf as) st ⟨st, none⟩ :=
    ⟨consistent_start now st, [], serial_start now, rfl, rfl⟩
  obtain ⟨calls, s, hfrom, hcalls, htrace, -, calls', hserial, hstate, -⟩ :=
    (simulates_service st).exists_run hstart as sys hrun fun a ha id stepEnv h => by
      subst h
      exact ha
  exact ⟨calls, s, hfrom, hcalls, htrace, fun hidle => (hserial.idle hidle).trans hstate.symm⟩

end System

end

/-- A connection that is granted a certificate, and one that has not asked for it yet. -/
theorem tasks_linearizable_granted :
    let st := AgentState.boot ⟨901⟩ Symbolic.webWorkloads
    ∃ calls s, run (Service.step Symbolic.fetchApi) ⟨st, none⟩ calls = some s ∧
      trace (Service.step Symbolic.fetchApi) (Service.answers Symbolic.fetchApi) ⟨st, none⟩ calls =
        [⟨0, "web", ⟨0⟩, Symbolic.fetchApi.respond
          (.success "cert" (Symbolic.lib.serializePem 7) "ca")⟩] := by
  obtain ⟨calls, s, -, hcalls, htrace, -⟩ := System.tasks_linearizable Symbolic.fetchApi
    (.boot ⟨901⟩ Symbolic.webWorkloads) ⟨0⟩ (Symbolic.connects 0 ++
      List.replicate 9 (.run 0 Symbolic.granted) ++ Symbolic.connects 1) _ rfl
  exact ⟨calls, s, hcalls, htrace⟩

end AuthnScope
