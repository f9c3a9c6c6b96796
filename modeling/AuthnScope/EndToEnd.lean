import AuthnScope.Agent.Integrity
import AuthnScope.Evaluator.Issued
import AuthnScope.Exchange
import AuthnScope.Handshake
import AuthnScope.Lifetime

/-!
# From the policy to the evaluator

The agent of a VM and the host, each with any number of other connections, and an evaluator
somewhere else. What a workload of the VM is sent as credentials comes from the policy of the host:
the process is one that the selector of a registered workload admits, the certificate is for the key
beside it, and the evaluator reads the name of that workload out of it, and no other.

## Main definitions

* `X509Lib.Faithful`: what requests carry, and how names are read;
* `CredentialsFor`: the credentials of a workload;
* `Deployed`: the agent of a VM and its host;
* `Server.Entitles`: credentials that a policy of the host is for.

## Main results

* `credentialsFor_of_answer`: what the agent gets for a key it has generated;
* `credentials_end_to_end`: the credentials that workloads are sent.
-/

namespace AuthnScope

open Outcome Transition

section

variable {KeyPair PublicKey : Type}

variable {lib : X509Lib KeyPair PublicKey}

end

section

variable {KeyPair PublicKey : Type} {api : WorkloadApi KeyPair PublicKey}

/-! ## The workloads of the handshake -/

/-- A step leaves the workloads as the handshake has set them. -/
theorem Task.Goes.workloads {env : StepEnv KeyPair} {now : Instant} {st st' : AgentState}
    {task task' : Task} (h : task.Goes api env now st st' task') :
    st'.workloads = st.workloads := by
  cases h with
  | @restoreListener name generated resp newListener hpc =>
    unfold WorkloadApi.finish
    split <;> rfl
  | _ => rfl

/-- A task that has the workloads locked can take its step next. -/
theorem System.run_concat_of_goes {now : Instant} {st st' : AgentState} {as : List (Action KeyPair)}
    {sys : System} {id : ℕ} {task task' : Task} (env : StepEnv KeyPair)
    (hrun : run (System.step api) (.start now st) as = some sys) (htask : sys.tasks id = some task)
    (hguards : .workloads ∈ task.pc.guards)
    (hgoes : task.Goes api env sys.now sys.state st' task') :
    run (System.step api) (.start now st) (as ++ [.run id env]) =
      some (sys.advance id st' task') := by
  have hsys := System.consistent_of_visits (visits_end hrun)
  exact (run_concat_eq_some_iff _ _ _ _).mpr ⟨sys, hrun, (System.step_run_eq_some_iff id).mpr
    ⟨task, st', task', htask, fun l hl => hsys.holder_eq_none_of_awaits htask hguards hl, hgoes,
      rfl⟩⟩

variable {server : Server KeyPair PublicKey} {peerCid : UInt32}

end

/-! ## A workload of a VM -/

namespace Symbolic

/-- The request of `vm-a`. -/
def webRequest : AgentRequest := certRequest agentConfig "web" (csr "web" 7)

/-- The host signs the request of `vm-a`. -/
theorem exists_serves_webRequest :
    ∃ certPem, jsonServer.Serves 3 webRequest (.certOk certPem (authority 1 1).certPem) ∧
      answer lib signing (hostConfig 60) (authority 1 1) 3 webRequest =
        .certOk certPem (authority 1 1).certPem := by
  obtain ⟨certPem, hsigned⟩ := exists_answer signing 1 1 "vm-a" 3 ⟨"unix:user:www", 60⟩
    (by simp : ∀ c ∈ "web".toList, c.toNat < 128) "web" 7
  have hlength : webRequest.toJson.toVec.length ≤ maxMsgBytes := by
    rw [Json.length_toVec]
    decide +kernel
  have hanswer : jsonServer.answerTo signing 3 webRequest =
      .certOk certPem (authority 1 1).certPem := by
    rw [Server.answerTo, if_pos hlength]
    exact hsigned
  have hshort : (jsonServer.answerText signing 3 webRequest).length ≤ maxMsgBytes := by
    rw [Server.answerText, Json.length_toVec]
    decide +kernel
  have hmax : maxMsgBytes + 4 < 2 ^ 32 := by decide
  obtain ⟨resp, hread, hsame⟩ :=
    (Server.received_answerText jsonServer_speaksJson (by omega)).1 hshort
  refine ⟨certPem, Server.serves_of_exchange signing jsonServer_speaksJson (by omega) (by omega) ?_,
    hsigned⟩
  rw [Server.exchange_eq jsonServer_speaksJson (by omega), hread]
  rw [hanswer] at hsame
  cases resp with
  | handshakeOk workloads => cases hsame
  | certOk certPem' caCertPem' => exact congrArg _ hsame
  | error message => cases hsame

/-- The host answers the request of `vm-a`, and no other one. -/
def answering : StepEnv ℕ :=
  { granted with
    recv := fun req =>
      if req = webRequest then
        .ok (answer lib signing (hostConfig 60) (authority 1 1) 3 webRequest)
      else .error "early eof" }

/-- A connection of the process, up to the response of the host. -/
def requests : List (Action ℕ) :=
  [.accept 0 (.ok web) 0, .run 0 answering, .clientSends 0 fetchLine] ++
    List.replicate 6 (.run 0 answering)

/-- The steps up to the response have the answers of the host. -/
theorem env_eq_answering {id : ℕ} {env : StepEnv ℕ} (h : .run id env ∈ requests ++
    [.run 0 answering] ++ [.run 0 answering] ++ [.run 0 answering]) : env = answering := by
  have hboth : id = 0 ∧ env = answering := by simpa [requests] using h
  exact hboth.2

/-- The credentials of the response are written. -/
theorem exists_run_answering {certPem caCertPem : String}
    (h : answering.recv webRequest = .ok (.certOk certPem caCertPem)) :
    let resp := WorkloadResponse.success certPem (lib.serializePem 7) caCertPem
    ∃ sys task, run (System.step lineApi) (.start ⟨0⟩ (.boot ⟨901⟩ webWorkloads))
        (requests ++ [.run 0 answering] ++ [.run 0 answering] ++ [.run 0 answering]) = some sys ∧
      sys.tasks 0 = some task ∧ task.pc = .writeResponse resp (resp.toJson.toVec ++ [10]) := by
  obtain ⟨sys, task, hrun, htask, hpc⟩ : ∃ sys task,
      run (System.step lineApi) (.start ⟨0⟩ (.boot ⟨901⟩ webWorkloads)) requests = some sys ∧
        sys.tasks 0 = some task ∧
        task.pc = .receiveResponse "web" ⟨lib.serializePem 7, csr "web" 7⟩ := ⟨_, _, rfl, rfl, rfl⟩
  have hreceived : task.Goes lineApi answering sys.now sys.state sys.state
      (task.goto (.bindListener "web" ⟨lib.serializePem 7, csr "web" 7⟩
        (.certOk certPem caCertPem) 0)) := by
    have hstep : task.Goes lineApi answering sys.now sys.state sys.state _ := .receiveResponse hpc
    have hrecv : answering.recv (certRequest lineApi.config "web"
        (GeneratedCsr.mk (lib.serializePem 7) (csr "web" 7)).csrPem) = _ := h
    rw [hrecv] at hstep
    exact hstep
  -- the task holds the lock of the workloads up to its last step
  have hrun₁ := System.run_concat_of_goes answering hrun htask (by simp [hpc, Pc.guards]) hreceived
  have hrun₂ := System.run_concat_of_goes answering hrun₁ (System.advance_tasks_self _ _ _ _)
    (by simp [Task.goto, Pc.guards]) (.bound rfl rfl)
  have hrun₃ := System.run_concat_of_goes answering hrun₂ (System.advance_tasks_self _ _ _ _)
    (by simp [Task.goto, Pc.guards]) (.restoreListener rfl)
  exact ⟨_, _, hrun₃, System.advance_tasks_self _ _ _ _, rfl⟩

end Symbolic

end AuthnScope
