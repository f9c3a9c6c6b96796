import AuthnScope.Agent.WorkloadApi
import AuthnScope.Pki.Symbolic

/-!
# An agent on the symbolic library

## Main definitions

* `Symbolic.agentConfig`, `Symbolic.agentState`: the agent of a VM;
* `Symbolic.api`: its Workload API;
* `Symbolic.lineApi`: the same, with requests that end in a newline;
* `Symbolic.fetchApi`: a Workload API on which every line asks for credentials;
* `Symbolic.granted`, `Symbolic.web`: answers that let a call succeed, and the process it is for;
* `Symbolic.hourPem`, `Symbolic.grantedHour`: a certificate for an hour, and answers with it.
-/

namespace AuthnScope

namespace Symbolic

/-- The agent of `vm-a`. -/
def agentConfig : AgentConfig := ⟨"vm-a", 900, 901, none⟩

/-- The agent after its handshake, with its port protected. -/
def agentState (workloads : HashMap WorkloadConfig) : AgentState := ⟨∅, some ⟨901⟩, workloads⟩

/-- The Workload API, whose clients ask for credentials. -/
def api : WorkloadApi ℕ ℕ where
  lib := lib
  config := agentConfig
  reqSerde := jsonSerde WorkloadRequest.toJson [⟨"fetch"⟩]
  respSerde := jsonSerde WorkloadResponse.toJson []
  debug s := (s.map fun text => s!"Some({Json.quote text})").getD "None"

/-- The Workload API, whose clients end their requests with a newline. -/
def lineApi : WorkloadApi ℕ ℕ :=
  { api with
    reqSerde := ⟨api.reqSerde.toVec, fun line => api.reqSerde.fromSlice (line.takeWhile (· ≠ 10))⟩ }

/-- The line of a request for credentials. -/
def fetchLine : List UInt8 := (WorkloadRequest.mk "fetch").toJson.toVec ++ [10]

/-- A Workload API on which every line asks for credentials, and every response has an empty
text. -/
def fetchApi : WorkloadApi ℕ ℕ :=
  { api with
    reqSerde := ⟨fun _ => .ok [], fun _ => .ok ⟨"fetch"⟩⟩
    respSerde := ⟨fun _ => .ok [], fun _ => .error "EOF while parsing a value"⟩ }

/-- Every operation succeeds, and the host grants a certificate. -/
def granted : StepEnv ℕ where
  db := ⟨fun user => if user = "www" then some 33 else none, fun _ => none⟩
  generated := .ok 7
  csrSeed := []
  hostCid := 2
  connect := fun _ _ _ => .ok ()
  send := fun _ => .ok ()
  recv := fun _ => .ok (.certOk "cert" "ca")
  bind := .ok ()
  writeFault := none

/-- The same, on a host that does not accept the connection. -/
def unreachable : StepEnv ℕ :=
  { granted with connect := fun _ _ _ => .error "Connection timed out (os error 110)" }

/-- A certificate for an hour. -/
def hourPem : String :=
  (issue { CertificateParams.default with
    notBefore := ⟨0⟩
    notAfter := ⟨3600 * 1000000000⟩ } 7 1 []).pem

theorem certLifetime_hourPem : certLifetime lib hourPem = 3600 := by
  rw [hourPem, certLifetime_of_parseX509 (parseX509_issue _ _ _ _)]
  rfl

/-- Every operation succeeds, and the host grants that certificate. -/
def grantedHour : StepEnv ℕ :=
  { granted with recv := fun _ => .ok (.certOk hourPem "ca") }

/-- A process of the user `www`. -/
def web : Process := ⟨33, 33, none, none, none⟩

/-- The workload `web` of the user `www`. -/
def webWorkloads : HashMap WorkloadConfig :=
  AList.singleton "web" ⟨⟨some ⟨some "www", none, none⟩, none⟩, 3600⟩

/-- A connection of the process, up to the request for a line, and the line. -/
def connects (id : ℕ) : List (Action ℕ) :=
  [.accept id (.ok web) 100, .run id granted, .clientSends id [10], .run id granted]

end Symbolic

end AuthnScope
