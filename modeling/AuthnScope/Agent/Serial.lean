import AuthnScope.Agent.Call

/-!
# Calls one after the other

The tasks of the Workload API take the cache lock for the whole of `get_or_fetch_credentials`, so
their calls do not overlap: the shared state is the one that the calls completed so far leave when
they run one after the other, and a call under way goes on as it would alone.

## Main definitions

* `Call`, `serial`: a call with the answers it gets, and the state after a list of calls;
* `System.Serial`: the shared state of the tasks is that of completed calls.

## Main results

* `System.serial_of_visits`: every interleaving of the tasks is a sequence of calls;
* `System.answers_of_takes`: a task answers with the result of its call in that sequence.
-/

namespace AuthnScope

open Locks Outcome Transition

/-- A call and the answers it gets. -/
structure Call (KeyPair : Type) where
  identityName : String
  env : FetchEnv KeyPair

section

variable {KeyPair PublicKey : Type} (api : WorkloadApi KeyPair PublicKey)

/-- The call, on its own. -/
def Call.run (call : Call KeyPair) : AgentM X509Credentials :=
  getOrFetchCredentials api.lib call.env api.config call.identityName

/-- The state after a list of calls, one after the other. -/
def serial (st : AgentState) (calls : List (Call KeyPair)) : AgentState :=
  calls.foldl (fun st call => finalState (call.run api st)) st

/-- The task takes the cache with its next step, or is inside a call. -/
def Task.AtCall (task : Task) : Prop := .cache ∈ task.pc.guards ∨ task.pc.awaits = some .cache

/-- The answers that the steps of a task get in a run. -/
def stepsOf (as : List (Action KeyPair)) (id : ℕ) : Set (StepEnv KeyPair) :=
  {stepEnv | .run id stepEnv ∈ as}

/-- A call that was begun for `name` at the time `since`, ends when `env` does and gets answers of
the steps. -/
structure Call.Begun (steps : Set (StepEnv KeyPair)) (name : String) (since : Instant)
    (env : FetchEnv KeyPair) (call : Call KeyPair) : Prop where
  identityName : call.identityName = name
  now : call.env.now = since
  finished : call.env.finished = env.finished
  fromSteps : call.env.FromSteps steps

namespace System

/-- The calls were completed one after the other, each with answers to the steps of one task. -/
structure Completed (steps : ℕ → Set (StepEnv KeyPair)) (calls : List (Call KeyPair))
    (now : Instant) : Prop where
  inOrder : calls.Pairwise fun c d => c.env.finished.nanos ≤ d.env.now.nanos
  past : ∀ c ∈ calls, c.env.now.nanos ≤ c.env.finished.nanos ∧ c.env.finished.nanos ≤ now.nanos
  fromSteps : ∀ c ∈ calls, ∃ id, c.env.FromSteps (steps id)

/-- The shared state is that of completed calls, and a call that is under way since the last of
them goes on as it would alone, whatever it is answered. -/
structure Serial (steps : ℕ → Set (StepEnv KeyPair)) (st : AgentState)
    (calls : List (Call KeyPair)) (sys : System) : Prop where
  completed : Completed steps calls sys.now
  idle : (∀ id, .cache ∉ sys.guards id) → sys.state = serial api st calls
  underWay : ∀ id task, sys.tasks id = some task → .cache ∈ task.pc.guards →
    ∃ name since, task.pc.identityName = some name ∧
      (∀ c ∈ calls, c.env.finished.nanos ≤ since.nanos) ∧ since.nanos ≤ sys.now.nanos ∧
      ∀ env, env.FromSteps (steps id) → ∃ call : Call KeyPair,
        call.Begun (steps id) name since env ∧
        task.pc.Follows api env (call.run api (serial api st calls)) sys.state

end System

end

section

variable {KeyPair PublicKey : Type} {api : WorkloadApi KeyPair PublicKey}
  {stepEnv : StepEnv KeyPair} {st st' : AgentState} {task task' : Task} {sys sys' : System}
  {calls : List (Call KeyPair)} {steps : ℕ → Set (StepEnv KeyPair)}

theorem serial_concat (api : WorkloadApi KeyPair PublicKey) (st : AgentState)
    (calls : List (Call KeyPair)) (call : Call KeyPair) :
    serial api st (calls ++ [call]) = finalState (call.run api (serial api st calls)) :=
  List.foldl_concat _ _ _ _

/-- The answer of a task leaves the state of its call. -/
theorem Pc.Answers.finalState_eq {result : EStateM.Result String AgentState X509Credentials}
    {pc : Pc} (h : pc.Answers api result st) : finalState result = st := by
  rcases h with ⟨creds, rfl, -⟩ | ⟨e, rfl, -⟩ <;> rfl

namespace System

/-- Completed calls stay completed as time passes. -/
theorem Completed.later {now now' : Instant} (h : Completed steps calls now)
    (hnow : now.nanos ≤ now'.nanos) : Completed steps calls now' :=
  { h with past := fun c hc => ⟨(h.past c hc).1, (h.past c hc).2.trans hnow⟩ }

/-- A call that began after the others ends now. -/
theorem Completed.concat {now : Instant} (h : Completed steps calls now) {call : Call KeyPair}
    (hlater : ∀ c ∈ calls, c.env.finished.nanos ≤ call.env.now.nanos)
    (hsince : call.env.now.nanos ≤ now.nanos) (hfinished : call.env.finished = now) {id : ℕ}
    (hfrom : call.env.FromSteps (steps id)) : Completed steps (calls ++ [call]) now where
  inOrder := by
    refine List.pairwise_append.mpr ⟨h.inOrder, List.pairwise_singleton _ _, ?_⟩
    simpa using hlater
  past c hc := by
    rcases List.mem_append.mp hc with hc | hc
    · exact h.past c hc
    · rw [List.mem_singleton.mp hc, hfinished]
      exact ⟨hsince, le_refl _⟩
  fromSteps c hc := by
    rcases List.mem_append.mp hc with hc | hc
    · exact h.fromSteps c hc
    · rw [List.mem_singleton.mp hc]
      exact ⟨id, hfrom⟩

/-- Time does not go back. -/
theorem now_le_of_step {a : Action KeyPair} (h : sys.step api a = some sys') :
    sys.now.nanos ≤ sys'.now.nanos := by
  cases a with
  | tick nanos =>
    cases h
    show sys.now.nanos ≤ sys.now.nanos + nanos
    omega
  | run id stepEnv =>
    obtain ⟨task, st', task', -, -, -, rfl⟩ := (step_run_eq_some_iff id).mp h
    exact le_refl _
  | accept id peer room =>
    obtain ⟨-, rfl⟩ := (step_accept_eq_some_iff id peer room).mp h
    exact le_refl _
  | clientReads id count =>
    obtain ⟨task, -, rfl⟩ := (step_clientReads_eq_some_iff id count).mp h
    exact le_refl _
  | clientSends id bytes =>
    obtain ⟨task, -, -, rfl⟩ := (step_clientSends_eq_some_iff id bytes).mp h
    exact le_refl _
  | clientEnds id result =>
    obtain ⟨task, -, -, rfl⟩ := (step_clientEnds_eq_some_iff id result).mp h
    exact le_refl _

/-- While a task is inside a call or takes the cache, no other task is inside a call. -/
theorem Consistent.not_mem_guards_of_ne (hsys : sys.Consistent) {id other : ℕ}
    (htask : sys.tasks id = some task)
    (hfree : ∀ l, task.pc.awaits = some l → sys.holder l = none) (hcall : task.AtCall)
    (hne : other ≠ id) : .cache ∉ sys.guards other := by
  intro hother
  -- the task holds the cache, or takes it while it is free
  rcases hcall with hcall | hawaits
  · rw [← guards_of_tasks htask] at hcall
    exact hne (hsys.unique hother hcall)
  · exact (hsys.eq_none_iff _).mp (hfree _ hawaits) other hother

/-- A task that takes the cache or is inside a call comes, with its next step, further in a call
that starts in the state of the completed ones. -/
theorem Serial.follows (hserial : sys.Serial api steps st calls) (hsys : sys.Consistent) {id : ℕ}
    (htask : sys.tasks id = some task)
    (hfree : ∀ l, task.pc.awaits = some l → sys.holder l = none)
    (hgoes : task.Goes api stepEnv sys.now sys.state st' task') (hcall : task.AtCall)
    (hmem : stepEnv ∈ steps id) :
    ∃ name since, task.pc.identityName = some name ∧
      (∀ c ∈ calls, c.env.finished.nanos ≤ since.nanos) ∧ since.nanos ≤ sys.now.nanos ∧
      ∀ env, env.FromSteps (steps id) → ∃ call : Call KeyPair,
        call.Begun (steps id) name since (env.answered stepEnv sys.now task.pc) ∧
        task'.pc.Follows api env (call.run api (serial api st calls)) st' := by
  rcases hcall with hcall | hawaits
  · -- the answer of this step is added to those of the steps to come
    obtain ⟨name, since, hname, hlater, hsince, hbegun⟩ := hserial.underWay id task htask hcall
    refine ⟨name, since, hname, hlater, hsince, fun env henv => ?_⟩
    obtain ⟨call, hcall', hrun⟩ := hbegun _ (henv.answered hmem sys.now task.pc)
    exact ⟨call, hcall', hgoes.follows hcall hrun⟩
  · -- the call starts here
    obtain ⟨name, hpc⟩ := (Pc.awaits_cache_iff _).mp hawaits
    have hstate := hserial.idle ((hsys.eq_none_iff _).mp (hfree _ hawaits))
    have hstep := Task.step_eq_some_iff.mpr hgoes
    simp only [Task.step, hpc, Option.some.injEq, Prod.mk.injEq] at hstep
    obtain ⟨rfl, rfl⟩ := hstep
    refine ⟨name, sys.now, by rw [hpc]; rfl, fun c hc => (hserial.completed.past c hc).2, le_refl _,
      fun env henv => ⟨⟨name, env.answered stepEnv sys.now task.pc⟩, ?_, ?_⟩⟩
    · exact ⟨rfl, by rw [hpc]; rfl, rfl, henv.answered hmem sys.now task.pc⟩
    · rw [hpc, ← hstate]
      exact Pc.follows_lookUp env stepEnv sys.now name sys.state

/-- What happens outside the tasks belongs to no call. -/
theorem Serial.of_outside (hserial : sys.Serial api steps st calls) (hout : sys.Outside sys')
    (hnow : sys.now.nanos ≤ sys'.now.nanos) : sys'.Serial api steps st calls where
  completed := hserial.completed.later hnow
  idle h := by
    rw [hout.guards] at h
    rw [hout.state]
    exact hserial.idle h
  -- a task that is new or has heard from its client is where it was in its call
  underWay id task' htask' hcall := by
    rcases hout.task id with ⟨-, hnone⟩ | ⟨peer, room, -, hnew⟩ |
      ⟨task, task₁, htask, hheard, hhears⟩
    · rw [hnone] at htask'
      cases htask'
    · rw [hnew] at htask'
      cases htask'
      cases peer <;> cases hcall
    · rw [hheard] at htask'
      cases htask'
      rw [hhears.pc] at hcall ⊢
      obtain ⟨name, since, hname, hlater, hsince, hbegun⟩ := hserial.underWay id task htask hcall
      rw [hout.state]
      exact ⟨name, since, hname, hlater, hsince.trans hnow, hbegun⟩

/-- The task of a step and the others, after the step. -/
theorem tasks_advance {id other : ℕ} {task₁ : Task}
    (h : (sys.advance id st' task').tasks other = some task₁) :
    other = id ∧ task₁ = task' ∨ other ≠ id ∧ sys.tasks other = some task₁ := by
  by_cases hother : other = id
  · subst hother
    rw [advance_tasks_self] at h
    exact Or.inl ⟨rfl, (Option.some.inj h).symm⟩
  · rw [advance_tasks_of_ne sys hother] at h
    exact Or.inr ⟨hother, h⟩

/-- A step that neither belongs to a call nor starts one. -/
theorem Serial.frame (hserial : sys.Serial api steps st calls) {id : ℕ}
    (htask : sys.tasks id = some task)
    (hgoes : task.Goes api stepEnv sys.now sys.state st' task')
    (hcall : ¬task.AtCall) : (sys.advance id st' task').Serial api steps st calls := by
  rw [Task.AtCall, not_or] at hcall
  -- the task does not have the cache before the step, and it does not take it
  have hnext : .cache ∉ task'.pc.guards := fun hl => (hgoes.guards hl).elim hcall.1 hcall.2
  obtain rfl := hgoes.state_eq hcall.1
  refine ⟨hserial.completed, fun hidle => hserial.idle fun other => ?_, ?_⟩
  · by_cases hother : other = id
    · rw [hother, guards_of_tasks htask]
      exact hcall.1
    · have hnot := hidle other
      rw [guards_advance, Function.update_of_ne hother] at hnot
      exact hnot
  · intro other task₁ htask₁ hcall₁
    rcases tasks_advance htask₁ with ⟨rfl, rfl⟩ | ⟨-, hother⟩
    · exact absurd hcall₁ hnext
    · exact hserial.underWay other task₁ hother hcall₁

/-- A step after which the call is under way. -/
theorem Serial.goesOn (hserial : sys.Serial api steps st calls) (hsys : sys.Consistent) {id : ℕ}
    (htask : sys.tasks id = some task)
    (hfree : ∀ l, task.pc.awaits = some l → sys.holder l = none)
    (hgoes : task.Goes api stepEnv sys.now sys.state st' task') (hcall : task.AtCall)
    (hmem : stepEnv ∈ steps id) (hnext : .cache ∈ task'.pc.guards) :
    (sys.advance id st' task').Serial api steps st calls := by
  obtain ⟨name, since, hname, hlater, hsince, hfollows⟩ :=
    hserial.follows hsys htask hfree hgoes hcall hmem
  refine ⟨hserial.completed, fun hidle => ?_, fun other task₁ htask₁ hcall₁ => ?_⟩
  · -- the task has the cache
    refine absurd ?_ (hidle id)
    rw [guards_advance, Function.update_self]
    exact hnext
  · rcases tasks_advance htask₁ with ⟨rfl, rfl⟩ | ⟨hne, hother⟩
    -- the call goes on in this task, and in no other
    · refine ⟨name, since, (hgoes.identityName_eq hnext).trans hname, hlater, hsince,
        fun env henv => ?_⟩
      obtain ⟨call, hbegun, hrun⟩ := hfollows env henv
      refine ⟨call, { hbegun with finished := ?_ }, hrun⟩
      rw [hbegun.finished, hgoes.finished_answered env (Or.inl hnext)]
    · rw [← guards_of_tasks hother] at hcall₁
      exact absurd hcall₁ (hsys.not_mem_guards_of_ne htask hfree hcall hne)

/-- A step after which the call is over: it ends now, and the task answers with its result. -/
theorem Serial.completes (hserial : sys.Serial api steps st calls) (hsys : sys.Consistent) {id : ℕ}
    (htask : sys.tasks id = some task)
    (hfree : ∀ l, task.pc.awaits = some l → sys.holder l = none)
    (hgoes : task.Goes api stepEnv sys.now sys.state st' task') (hcall : task.AtCall)
    (hmem : stepEnv ∈ steps id) (hover : .cache ∉ task'.pc.guards) :
    ∃ call : Call KeyPair, task.pc.identityName = some call.identityName ∧
      call.env.FromSteps (steps id) ∧ call.env.finished = sys.now ∧
      task'.pc.Answers api (call.run api (serial api st calls)) st' ∧
      (sys.advance id st' task').Serial api steps st (calls ++ [call]) := by
  obtain ⟨name, since, hname, hlater, hsince, hfollows⟩ :=
    hserial.follows hsys htask hfree hgoes hcall hmem
  -- the call is over, so what is answered to later steps does not matter
  obtain ⟨call, hbegun, hrun⟩ := hfollows _ (FetchEnv.fromSteps_ofStep hmem sys.now)
  have hfinished : call.env.finished = sys.now := by
    rw [hbegun.finished, hgoes.finished_answered _ (Or.inr rfl)]
    rfl
  have hanswers := hrun.answers hover
  refine ⟨call, hbegun.identityName ▸ hname, hbegun.fromSteps, hfinished, hanswers,
    hserial.completed.concat (hbegun.now ▸ hlater) (hbegun.now ▸ hsince) hfinished
      hbegun.fromSteps, fun _ => ?_, ?_⟩
  -- with the call appended the shared state is again that of the completed ones
  · rw [serial_concat, hanswers.finalState_eq]
    rfl
  · intro other task₁ htask₁ hcall₁
    rcases tasks_advance htask₁ with ⟨rfl, rfl⟩ | ⟨hne, hother⟩
    · exact absurd hcall₁ hover
    · rw [← guards_of_tasks hother] at hcall₁
      exact absurd hcall₁ (hsys.not_mem_guards_of_ne htask hfree hcall hne)

/-- A step completes at most one call. -/
theorem Serial.step {a : Action KeyPair} (hserial : sys.Serial api steps st calls)
    (hsys : sys.Consistent) (h : sys.step api a = some sys')
    (hmem : ∀ id stepEnv, a = .run id stepEnv → stepEnv ∈ steps id) :
    sys'.Serial api steps st calls ∨ ∃ call, sys'.Serial api steps st (calls ++ [call]) := by
  rcases step_cases h with ⟨id, stepEnv, rfl⟩ | hout
  · obtain ⟨task, st', task', htask, hfree, hgoes, rfl⟩ := (step_run_eq_some_iff id).mp h
    by_cases hcall : task.AtCall
    · by_cases hnext : .cache ∈ task'.pc.guards
      · exact Or.inl (hserial.goesOn hsys htask hfree hgoes hcall (hmem _ _ rfl) hnext)
      · obtain ⟨call, -, -, -, -, hcall⟩ :=
          hserial.completes hsys htask hfree hgoes hcall (hmem _ _ rfl) hnext
        exact Or.inr ⟨call, hcall⟩
    · exact Or.inl (hserial.frame htask hgoes hcall)
  · exact Or.inl (hserial.of_outside hout (now_le_of_step h))

/-! ### Runs -/

/-- However the tasks interleave, the shared state is that of calls one after the other. -/
theorem serial_of_visits {now : Instant} {as : List (Action KeyPair)}
    (h : Visits (System.step api) (start now st) as sys) :
    ∃ calls, sys.Serial api (stepsOf as) st calls := by
  refine visits_induction (P := fun sys => ∃ calls, sys.Serial api (stepsOf as) st calls)
    ?_ ?_ sys h
  -- at the start no call has been completed and no task is there
  · refine ⟨[], ⟨List.Pairwise.nil, ?_, ?_⟩, fun _ => rfl, ?_⟩
    · rintro c ⟨⟩
    · rintro c ⟨⟩
    · rintro id task ⟨⟩
  · rintro sys a sys' htakes ⟨calls, hserial⟩
    have hmem : ∀ id stepEnv, a = .run id stepEnv → stepEnv ∈ stepsOf as id := by
      rintro id stepEnv rfl
      exact htakes.mem
    rcases hserial.step (consistent_of_visits htakes.visits) htakes.step_eq hmem with
      hsame | ⟨call, hcall⟩
    · exact ⟨calls, hsame⟩
    · exact ⟨calls ++ [call], hcall⟩

/-- Whenever a task comes out of `get_or_fetch_credentials`, it has the result of a call that runs
on its own after the completed ones, with the answers that the steps of the task got. -/
theorem answers_of_takes {now : Instant} {as : List (Action KeyPair)} {id : ℕ}
    (h : Takes (System.step api) (start now st) as sys (.run id stepEnv) sys')
    (htask : sys.tasks id = some task) (hcall : task.AtCall)
    (htask' : sys'.tasks id = some task') (hover : .cache ∉ task'.pc.guards) :
    ∃ calls, sys.Serial api (stepsOf as) st calls ∧ ∃ call : Call KeyPair,
      task.pc.identityName = some call.identityName ∧ call.env.FromSteps (stepsOf as id) ∧
      call.env.finished = sys.now ∧
      task'.pc.Answers api (call.run api (serial api st calls)) sys'.state := by
  obtain ⟨calls, hserial⟩ := serial_of_visits h.visits
  -- the step completes the call that the invariant has under way for the task
  obtain ⟨hfree, st', task₁', hgoes, rfl⟩ := goes_of_step_run h.step_eq htask
  rw [advance_tasks_self] at htask'
  cases htask'
  obtain ⟨call, hidentity, hfrom, hfinished, hanswers, -⟩ :=
    hserial.completes (consistent_of_visits h.visits) htask hfree hgoes hcall h.mem hover
  exact ⟨calls, hserial, call, hidentity, hfrom, hfinished, hanswers⟩

end System

end

end AuthnScope
