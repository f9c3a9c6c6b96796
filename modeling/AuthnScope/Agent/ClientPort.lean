import AuthnScope.Agent.Locking
import AuthnScope.Agent.Symbolic

/-!
# The client port

A request for a certificate empties the listener slot to get the client port, and fills it again
when the response has come. An exchange with the host that fails in between ends the request, and
nothing fills the slot until another request comes as far as binding.

## Main definitions

* `Task.Exchanges`, `Task.Binds`: the answer a dialling task gets is a success;
* `System.Protected`: the slot is empty only while a task dials.

## Main results

* `Task.Goes.port`: what a step does to the slot;
* `client_port_protected_iff`: a call fills the slot again, and the slot is empty only during a
  dial, exactly when the exchanges with the host go through.
-/

namespace AuthnScope

open Outcome Transition

variable {KeyPair PublicKey : Type} {api : WorkloadApi KeyPair PublicKey} {env : StepEnv KeyPair}
  {now : Instant} {st st' : AgentState} {task task' : Task}

/-! ## One step -/

namespace Task

variable (api) (env) in
/-- Where a task talks to the host, the host answers: the connection is made, the request is sent,
a response is received. -/
def Exchanges (task : Task) : Prop :=
  match task.pc with
  | .connect _ _ =>
    env.connect env.hostCid api.config.serverPort api.config.clientPort = .ok ()
  | .sendRequest name generated =>
    env.send (certRequest api.config name generated.csrPem) = .ok ()
  | .receiveResponse name generated =>
    ∃ resp, env.recv (certRequest api.config name generated.csrPem) = .ok resp
  | _ => True

variable (env) in
/-- Where a task binds a listener, it gets one. -/
def Binds (task : Task) : Prop :=
  match task.pc with
  | .bindListener _ _ _ _ => env.bind = .ok ()
  | _ => True

/-- A task that dials holds the lock of the dials. -/
theorem dialMutex_mem_guards (h : task.pc.dialling) : .dialMutex ∈ task.pc.guards := by
  cases hpc : task.pc <;> simp_all [Pc.dialling, Pc.guards]

end Task

theorem WorkloadApi.dialling_respond (resp : WorkloadResponse) :
    (api.respond resp).dialling = false := by
  unfold respond
  cases api.respSerde.toVec resp <;> rfl

theorem WorkloadApi.dialling_finish (now : Instant) (name : String) (generated : GeneratedCsr)
    (resp : AgentResponse) (st : AgentState) :
    (api.finish now name generated resp st).2.dialling = false := by
  unfold finish
  split
  · exact dialling_respond _
  · rfl

/-- The end of a request leaves the slot alone. -/
theorem WorkloadApi.listener_finish (now : Instant) (name : String) (generated : GeneratedCsr)
    (resp : AgentResponse) (st : AgentState) :
    (api.finish now name generated resp st).1.listener = st.listener := by
  unfold finish
  split <;> rfl

namespace Task

/-- A task that holds no lock of the dials does not dial. -/
theorem dialling_eq_false (h : .dialMutex ∉ task.pc.guards) : task.pc.dialling = false :=
  Bool.eq_false_iff.mpr fun hdials => h (dialMutex_mem_guards hdials)

/-- A failed exchange ends the dial and leaves the slot as it is. -/
theorem Goes.port_of_not_exchanges (h : task.Goes api env now st st' task')
    (hfail : ¬task.Exchanges api env) :
    task'.pc.dialling = false ∧ task.pc.dialling = true ∧ st'.listener = st.listener := by
  have hstep := step_eq_some_iff.mpr h
  unfold Exchanges at hfail
  -- only three points talk to the host, and a failure there leads to the answer
  cases hpc : task.pc with
  | connect name generated =>
    simp only [hpc] at hfail
    rcases hconnect : env.connect env.hostCid api.config.serverPort api.config.clientPort
      with e | ⟨⟨⟩⟩
    · simp only [step, hpc, hconnect] at hstep
      cases hstep
      exact ⟨rfl, rfl, rfl⟩
    · exact absurd hconnect hfail
  | sendRequest name generated =>
    simp only [hpc] at hfail
    rcases hsend : env.send (certRequest api.config name generated.csrPem) with e | ⟨⟨⟩⟩
    · simp only [step, hpc, hsend] at hstep
      cases hstep
      exact ⟨rfl, rfl, rfl⟩
    · exact absurd hsend hfail
  | receiveResponse name generated =>
    simp only [hpc] at hfail
    rcases hrecv : env.recv (certRequest api.config name generated.csrPem) with e | resp
    · simp only [step, hpc, hrecv] at hstep
      cases hstep
      exact ⟨rfl, rfl, rfl⟩
    · exact absurd ⟨resp, hrecv⟩ hfail
  | _ => simp [hpc] at hfail

/-- What a step does to the client port when the host answers and binding succeeds: nothing; it
releases the port and the task dials; or it ends the dial and the slot is filled. -/
theorem Goes.port (h : task.Goes api env now st st' task') (hexchanges : task.Exchanges api env)
    (hbinds : task.Binds env) :
    (task'.pc.dialling = task.pc.dialling ∧ st'.listener = st.listener) ∨
      (task'.pc.dialling = true ∧ task.pc.dialling = false ∧ st'.listener = none) ∨
      (task'.pc.dialling = false ∧ task.pc.dialling = true ∧ st'.listener.isSome) := by
  -- before the lock of the dials is awaited no step leads to a dial
  have hearly : task.pc.dialling = false → .dialMutex ∉ task.pc.guards →
      task.pc.awaits ≠ some .dialMutex → task'.pc.dialling = task.pc.dialling := by
    intro hdialling hguards hawaits
    rw [hdialling]
    exact dialling_eq_false fun hl => (h.guards hl).elim hguards hawaits
  cases h with
  | lockWorkloads hpc => exact Or.inl ⟨hearly (by simp [hpc, Pc.dialling])
      (by simp [hpc, Pc.guards]) (by simp [hpc, Pc.awaits]), rfl⟩
  | readLine hpc => exact Or.inl ⟨hearly (by simp [hpc, Pc.dialling])
      (by simp [hpc, Pc.guards]) (by simp [hpc, Pc.awaits]), rfl⟩
  | lockCache hpc => exact Or.inl ⟨hearly (by simp [hpc, Pc.dialling])
      (by simp [hpc, Pc.guards]) (by simp [hpc, Pc.awaits]), rfl⟩
  | lockDialMutex hpc =>
    rw [hpc]
    exact Or.inl ⟨rfl, rfl⟩
  -- the slot is emptied, and the dial begins
  | releaseListener hpc =>
    rw [hpc]
    exact Or.inr (Or.inl ⟨rfl, rfl, rfl⟩)
  | connect hpc =>
    rw [Exchanges, hpc] at hexchanges
    rw [hpc, hexchanges]
    exact Or.inl ⟨rfl, rfl⟩
  | sendRequest hpc =>
    rw [Exchanges, hpc] at hexchanges
    rw [hpc, hexchanges]
    exact Or.inl ⟨rfl, rfl⟩
  | receiveResponse hpc =>
    rw [Exchanges, hpc] at hexchanges
    obtain ⟨resp, hrecv⟩ := hexchanges
    rw [hpc, hrecv]
    exact Or.inl ⟨rfl, rfl⟩
  | bound hpc =>
    rw [hpc]
    exact Or.inl ⟨rfl, rfl⟩
  | bindAgain hpc =>
    rw [hpc]
    exact Or.inl ⟨rfl, rfl⟩
  -- excluded: binding succeeds
  | bindFailed hpc hbind =>
    rw [Binds, hpc] at hbinds
    rw [hbinds] at hbind
    cases hbind
  -- the slot is filled, and the dial ends
  | restoreListener hpc =>
    rw [hpc, WorkloadApi.listener_finish]
    exact Or.inr (Or.inr ⟨WorkloadApi.dialling_finish _ _ _ _ _, rfl, rfl⟩)
  | writeResponse hpc =>
    rw [hpc]
    exact Or.inl ⟨rfl, rfl⟩
  | writeFailed hpc =>
    rw [hpc]
    exact Or.inl ⟨rfl, rfl⟩

end Task

/-! ## Runs -/

namespace System

variable {sys sys' : System}

variable (api) in
/-- A step in which a task talks to the host is answered. -/
def Exchanges (sys : System) : Action KeyPair → Prop
  | .run id env => ∀ task, sys.tasks id = some task → task.Exchanges api env
  | _ => True

/-- A step that binds a listener gets one. -/
def Binds (sys : System) : Action KeyPair → Prop
  | .run id env => ∀ task, sys.tasks id = some task → task.Binds env
  | _ => True

/-- The task of a connection is between the release of the client port and its protection. -/
def Dials (sys : System) (id : ℕ) : Prop := ∃ task, sys.tasks id = some task ∧ task.pc.dialling

/-- The slot is empty only while a task dials. -/
def Protected (sys : System) : Prop := sys.state.listener = none → ∃ id, sys.Dials id

/-- A task dials only with an empty slot. -/
def DialsOnEmptySlot (sys : System) : Prop := ∀ id, sys.Dials id → sys.state.listener = none

/-- One task dials at a time. -/
theorem Consistent.dials_unique (hsys : sys.Consistent) {i j : ℕ} (hi : sys.Dials i)
    (hj : sys.Dials j) : i = j := by
  have hheld : ∀ id, sys.Dials id → .dialMutex ∈ sys.guards id := by
    rintro id ⟨task, htask, hdials⟩
    rw [guards_of_tasks htask]
    exact Task.dialMutex_mem_guards hdials
  exact hsys.unique (hheld i hi) (hheld j hj)

theorem dials_advance_self (sys : System) (id : ℕ) (st : AgentState) (task : Task) :
    (sys.advance id st task).Dials id ↔ task.pc.dialling := by
  simp [Dials]

theorem dials_advance_of_ne (sys : System) {id other : ℕ} (h : other ≠ id) (st : AgentState)
    (task : Task) : (sys.advance id st task).Dials other ↔ sys.Dials other := by
  rw [Dials, advance_tasks_of_ne sys h, ← Dials]

/-- What happens outside the tasks starts and ends no dial. -/
theorem Outside.dials_iff (h : sys.Outside sys') (id : ℕ) : sys'.Dials id ↔ sys.Dials id := by
  rcases h.task id with ⟨hnone, hnone'⟩ | ⟨peer, room, hnone, hnew⟩ |
    ⟨task, task', htask, htask', hhears⟩
  · simp [Dials, hnone, hnone']
  · cases peer <;> simp [Dials, hnone, hnew, Task.accepted, Pc.andThen, Pc.dialling]
  · simp [Dials, htask, htask', hhears.pc]

/-- A step keeps dials to an empty slot, if binding succeeds. -/
theorem DialsOnEmptySlot.step {a : Action KeyPair} (hslot : sys.DialsOnEmptySlot)
    (hsys : sys.Consistent) (hstep : sys.step api a = some sys') (hbinds : sys.Binds a) :
    sys'.DialsOnEmptySlot := by
  rcases step_cases hstep with ⟨id, env, rfl⟩ | hout
  · obtain ⟨task, st', task', htask, -, hgoes, rfl⟩ := (step_run_eq_some_iff id).mp hstep
    have hdials : task.pc.dialling → sys.Dials id := fun h => ⟨task, htask, h⟩
    intro other hother
    show st'.listener = none
    by_cases hexchanges : task.Exchanges api env
    · rcases hgoes.port hexchanges (hbinds task htask) with ⟨hsame, hlistener⟩ |
        ⟨-, -, hlistener⟩ | ⟨hends, hdialled, -⟩
      -- nothing has changed for any task
      · rw [hlistener]
        by_cases hid : other = id
        · rw [hid, dials_advance_self, hsame] at hother
          exact hslot id (hdials hother)
        · exact hslot other ((dials_advance_of_ne sys hid _ _).mp hother)
      · exact hlistener
      · -- the dial that ends was the only one
        by_cases hid : other = id
        · rw [hid, dials_advance_self, hends] at hother
          cases hother
        · exact absurd (hsys.dials_unique ((dials_advance_of_ne sys hid _ _).mp hother)
            (hdials hdialled)) hid
    -- a failed exchange does not touch the slot, which was empty
    · obtain ⟨-, hdialled, hlistener⟩ := hgoes.port_of_not_exchanges hexchanges
      rw [hlistener]
      exact hslot id (hdials hdialled)
  · intro id hid
    rw [hout.state]
    exact hslot id ((hout.dials_iff id).mp hid)

/-- A step keeps the port protected, if the host answers and binding succeeds. -/
theorem Protected.step {a : Action KeyPair} (hsys : sys.Protected)
    (hstep : sys.step api a = some sys') (hexchanges : sys.Exchanges api a)
    (hbinds : sys.Binds a) : sys'.Protected := by
  rcases step_cases hstep with ⟨id, env, rfl⟩ | hout
  · obtain ⟨task, st', task', htask, -, hgoes, rfl⟩ := (step_run_eq_some_iff id).mp hstep
    intro hnone
    change st'.listener = none at hnone
    rcases hgoes.port (hexchanges task htask) (hbinds task htask) with ⟨hsame, hlistener⟩ |
      ⟨hdials, -, -⟩ | ⟨-, -, hfilled⟩
    -- the slot was empty before, and the task that dialled still does
    · obtain ⟨other, hother⟩ := hsys (hlistener ▸ hnone)
      refine ⟨other, ?_⟩
      by_cases hid : other = id
      · obtain ⟨task₀, htask₀, hdials⟩ := hid ▸ hother
        rw [htask] at htask₀
        cases htask₀
        rw [hid, dials_advance_self, hsame]
        exact hdials
      · exact (dials_advance_of_ne sys hid _ _).mpr hother
    · exact ⟨id, (dials_advance_self _ _ _ _).mpr hdials⟩
    · rw [hnone] at hfilled
      cases hfilled
  · intro hnone
    rw [hout.state] at hnone
    obtain ⟨id, hid⟩ := hsys hnone
    exact ⟨id, (hout.dials_iff id).mpr hid⟩

/-- After a failed exchange the slot is empty and no task dials. -/
theorem not_protected_of_not_exchanges {a : Action KeyPair} (hslot : sys.DialsOnEmptySlot)
    (hsys : sys.Consistent) (hstep : sys.step api a = some sys')
    (hfail : ¬sys.Exchanges api a) : ¬sys'.Protected := by
  cases a with
  | run id env =>
    simp only [Exchanges, not_forall] at hfail
    obtain ⟨task, htask, hfail⟩ := hfail
    obtain ⟨-, st', task', hgoes, rfl⟩ := goes_of_step_run hstep htask
    obtain ⟨hends, hdialled, hlistener⟩ := hgoes.port_of_not_exchanges hfail
    intro hprotected
    have hdials : sys.Dials id := ⟨task, htask, hdialled⟩
    obtain ⟨other, hother⟩ := hprotected (hlistener.trans (hslot id hdials))
    -- no other task could dial at the same time
    by_cases hid : other = id
    · rw [hid, dials_advance_self, hends] at hother
      cases hother
    · exact hid (hsys.dials_unique ((dials_advance_of_ne sys hid _ _).mp hother) hdials)
  | _ => exact absurd trivial hfail

end System

/-- If binding succeeds whenever it is tried: a call fills the slot again exactly when its exchange
with the host goes through, or it does not get as far as emptying the slot; and in a run the slot
is empty only while a task dials, exactly when every exchange goes through. -/
theorem client_port_protected_iff (api : WorkloadApi KeyPair PublicKey) :
    (∀ (env : FetchEnv KeyPair) (identityName : String) (st : AgentState),
      (∀ n, env.bind n = .ok ()) → st.listener.isSome →
        ((finalState (requestCertOnDemand api.lib env api.config identityName st)).listener.isSome ↔
          ∀ generated, generateCsr api.lib env.generated env.csrSeed identityName = .ok generated →
            ∃ resp, Exchanges env api.config identityName generated.csrPem resp)) ∧
    ∀ (now : Instant) (st : AgentState) (as : List (Action KeyPair)),
      (∀ sys a sys', Takes (System.step api) (.start now st) as sys a sys' → sys.Binds a) →
      st.listener.isSome →
        ((∀ sys, Visits (System.step api) (.start now st) as sys → sys.Protected) ↔
          ∀ sys a sys', Takes (System.step api) (.start now st) as sys a sys' →
            sys.Exchanges api a) := by
  constructor
  · intro env identityName st hbind hst
    exact listener_requestCertOnDemand_isSome_iff hbind hst
  · intro now st as hbinds hst
    have hslot : ∀ sys, Visits (System.step api) (.start now st) as sys → sys.DialsOnEmptySlot ∧
        sys.Consistent := by
      refine visits_induction ⟨?_, System.consistent_start now st⟩ ?_
      · rintro id ⟨task, htask, -⟩
        cases htask
      · rintro sys a sys' htakes ⟨hslot, hsys⟩
        exact ⟨hslot.step hsys htakes.step_eq (hbinds sys a sys' htakes), hsys.step htakes.step_eq⟩
    constructor
    -- the state after the first failed exchange is not protected
    · intro hprotected sys a sys' htakes
      by_contra hfail
      obtain ⟨hslot, hsys⟩ := hslot sys htakes.visits
      exact System.not_protected_of_not_exchanges hslot hsys htakes.step_eq hfail
        (hprotected sys' htakes.visits_next)
    · intro hexchanges
      refine visits_induction ?_ fun sys a sys' htakes hsys =>
        hsys.step htakes.step_eq (hexchanges sys a sys' htakes) (hbinds sys a sys' htakes)
      intro hnone
      change st.listener = none at hnone
      rw [hnone] at hst
      cases hst

/-- When the host cannot be reached, the request leaves the port unprotected. -/
theorem client_port_left_open :
    ¬∀ (env : FetchEnv ℕ) (identityName : String) (st : AgentState),
      (∀ n, env.bind n = .ok ()) → st.listener.isSome →
        (finalState (requestCertOnDemand Symbolic.lib env Symbolic.agentConfig identityName
          st)).listener.isSome := by
  intro h
  let env : FetchEnv ℕ :=
    { generated := .ok 7
      csrSeed := []
      hostCid := 2
      connect := fun _ _ _ => .error "vsock connect failed: Connection refused (os error 111)"
      send := fun _ => .ok ()
      recv := fun _ => .error "early eof"
      bind := fun _ => .ok ()
      now := ⟨0⟩
      finished := ⟨0⟩ }
  -- the slot stays empty after the connection is refused
  have hfilled := h env "web" (Symbolic.agentState ∅) (fun _ => rfl) rfl
  rw [listener_requestCertOnDemand_isSome_iff (fun _ => rfl) rfl] at hfilled
  obtain ⟨resp, hconnect, -⟩ := hfilled _ rfl
  cases hconnect

end AuthnScope
