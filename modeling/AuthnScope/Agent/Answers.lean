import AuthnScope.Agent.Origin
import AuthnScope.Agent.Symbolic

/-!
# The answer to a request

`handle_workload_conn` as the code of one connection: what the operating system says of the peer,
the result of the attestation, the line that is read and the result of `get_or_fetch_credentials`
decide the bytes that are written before the connection is closed. In every run of the Workload API
the tasks whose clients send a line and wait do what this code does.

An attestation that fails and a request of another type are answered with an error. All other
failures leave the function through a `?`, and the client is sent nothing.

## Main definitions

* `WorkloadApi.handleWorkloadConn`: the code;
* `WorkloadApi.AnswersOnce`: the client is sent one response, a success where it should be one;
* `System.Attested`, `System.Fetched`: what attestation and a call gave in a run.

## Main results

* `WorkloadApi.answersOnce_iff`: when the client is sent a response;
* `System.serves_of_run`: the tasks of a run do what the code of one connection does;
* `workloadRequests_answered_iff`: both together.
-/

namespace AuthnScope

open Locks Outcome Transition

section

variable {KeyPair PublicKey : Type} (api : WorkloadApi KeyPair PublicKey)

namespace WorkloadApi

/-- The line is text and a request for credentials. -/
def AsksFor (line : List UInt8) : Prop :=
  (String.fromUTF8? ⟨line.toArray⟩).isSome ∧
    ∃ req, api.reqSerde.fromSlice line = .ok req ∧ req.reqType = "fetch"

/-- Write a response and its newline. -/
def reply (resp : WorkloadResponse) : EStateM String (List UInt8) Unit := do
  let json ← liftResult (api.respSerde.toVec resp)
  modify (· ++ (json ++ [10]))

/-- Process a single connection, given the peer, the workload it is matched to, the line that is
read and the result of `get_or_fetch_credentials`. The state is what has been written. -/
def handleWorkloadConn (peer : Except String Process) (matched : Option String) (line : List UInt8)
    (fetched : Except String X509Credentials) : EStateM String (List UInt8) Unit := do
  let proc ← liftResult peer
  match matched with
  | none => api.reply (.error (api.attestationFailed proc))
  | some _ =>
    if (String.fromUTF8? ⟨line.toArray⟩).isNone then
      throw "stream did not contain valid UTF-8"
    else if line.isEmpty then return ()
    else do
      let req ← liftResult (api.reqSerde.fromSlice line)
      if req.reqType ≠ "fetch" then
        api.reply (.error s!"Unsupported request type: {req.reqType}")
      else do
        let creds ← liftResult fetched
        api.reply (.success creds.certPem creds.keyPem creds.caCertPem)

/-- What is written to the client is one response with its newline. It is a success exactly when
the peer is matched, the line asks for credentials and there are some. -/
def AnswersOnce (peer : Except String Process) (matched : Option String) (line : List UInt8)
    (fetched : Except String X509Credentials) : Prop :=
  ∃ resp json, api.respSerde.toVec resp = .ok json ∧
    finalState (api.handleWorkloadConn peer matched line fetched []) = json ++ [10] ∧
    ((∃ certPem keyPem caCertPem, resp = .success certPem keyPem caCertPem) ↔
      matched.isSome ∧ api.AsksFor line ∧ ∃ creds, fetched = .ok creds)

end WorkloadApi

/-- The line that `read_line` reads first. -/
def firstLine (inbox : List UInt8) : List UInt8 := inbox.takeWhile (· ≠ 10) ++ [10]

namespace System

variable (origin : System) (as : List (Action KeyPair))

/-- In the run, the attestation of the task's process gives the identity, or none. -/
def Attested (id : ℕ) (proc : Process) (matched : Option String) : Prop :=
  ∃ env sys sys', Takes (System.step api) origin as sys (.run id env) sys' ∧
    (∃ task, sys.tasks id = some task ∧ task.peer = .ok proc ∧ task.pc = .lockWorkloads proc) ∧
    matchWorkload env.db proc sys.state.workloads = matched

/-- In the run, `get_or_fetch_credentials` gives the task the result: that of a call on the state
that completed calls leave, with the answers that the steps of the tasks got. -/
def Fetched (id : ℕ) (name : String) (fetched : Except String X509Credentials) : Prop :=
  ∃ (calls : List (Call KeyPair)) (call : Call KeyPair) (st : AgentState),
    (∀ c ∈ calls, ∃ other, c.env.FromSteps (stepsOf as other)) ∧
    call.identityName = name ∧ call.env.FromSteps (stepsOf as id) ∧
    call.run api (serial api origin.state calls) = liftResult fetched st

/-- The task has the result and the output of `handle_workload_conn`, for what its attestation and
its call gave and whatever line its client is going to send if it has not sent one yet. -/
def Handled (id : ℕ) (task : Task) (result : Except String Unit) (output : List UInt8) : Prop :=
  ∃ matched fetched, (∀ proc, task.peer = .ok proc → Attested api origin as id proc matched) ∧
    ∀ line, (10 ∈ task.inbox → line = firstLine task.inbox) →
      (∀ name, matched = some name → api.AsksFor line → Fetched api origin as id name fetched) ∧
      api.handleWorkloadConn task.peer matched line fetched [] = liftResult result output

/-- What the await point of a task whose client has not ended says of its answer. -/
structure Serves (id : ℕ) (task : Task) : Prop where
  silent : (∀ result, task.pc ≠ .returned result) → task.output = []
  asks : task.AtCall → 10 ∈ task.inbox ∧ api.AsksFor (firstLine task.inbox)
  writes : ∀ resp bytes, task.pc = .writeResponse resp bytes →
    Handled api origin as id task (.ok ()) bytes
  returned : ∀ result, task.pc = .returned result →
    Handled api origin as id task result task.output

end System

end

section

variable {KeyPair PublicKey : Type} {api : WorkloadApi KeyPair PublicKey}

namespace WorkloadApi

/-! ## One connection -/

variable {proc : Process} {name : String} {line : List UInt8} {req : WorkloadRequest}
  {fetched : Except String X509Credentials} {bytes : List UInt8}

theorem reply_run {resp : WorkloadResponse} {json : List UInt8}
    (hjson : api.respSerde.toVec resp = .ok json) (bytes : List UInt8) :
    api.reply resp bytes = .ok () (bytes ++ (json ++ [10])) := by
  rw [reply, hjson, liftResult_ok_bind]
  rfl

theorem handleWorkloadConn_unmatched :
    api.handleWorkloadConn (.ok proc) none line fetched =
      api.reply (.error (api.attestationFailed proc)) := by
  rw [handleWorkloadConn, liftResult_ok_bind]

theorem handleWorkloadConn_notText (h : (String.fromUTF8? ⟨line.toArray⟩).isNone) :
    api.handleWorkloadConn (.ok proc) (some name) line fetched =
      throw "stream did not contain valid UTF-8" := by
  rw [handleWorkloadConn, liftResult_ok_bind]
  exact if_pos h

/-- A line of text is parsed. -/
theorem handleWorkloadConn_text (htext : (String.fromUTF8? ⟨line.toArray⟩).isSome)
    (hline : line ≠ []) :
    api.handleWorkloadConn (.ok proc) (some name) line fetched =
      (liftResult (api.reqSerde.fromSlice line) >>= fun req =>
        if req.reqType ≠ "fetch" then
          api.reply (.error s!"Unsupported request type: {req.reqType}")
        else liftResult fetched >>= fun creds =>
          api.reply (.success creds.certPem creds.keyPem creds.caCertPem)) := by
  have hsome : (String.fromUTF8? ⟨line.toArray⟩).isNone = false := by
    rw [Option.isNone_eq_false_iff]
    exact htext
  have hnonempty : line.isEmpty = false := by
    rw [List.isEmpty_eq_false_iff]
    exact hline
  rw [handleWorkloadConn, liftResult_ok_bind]
  simp only [hsome, hnonempty, Bool.false_eq_true, if_false]

theorem handleWorkloadConn_notRequest (htext : (String.fromUTF8? ⟨line.toArray⟩).isSome)
    (hline : line ≠ []) {e : String} (hreq : api.reqSerde.fromSlice line = .error e) :
    api.handleWorkloadConn (.ok proc) (some name) line fetched = throw e := by
  rw [handleWorkloadConn_text htext hline, hreq, liftResult_error_bind]

theorem handleWorkloadConn_unsupported (htext : (String.fromUTF8? ⟨line.toArray⟩).isSome)
    (hline : line ≠ []) (hreq : api.reqSerde.fromSlice line = .ok req)
    (htype : req.reqType ≠ "fetch") :
    api.handleWorkloadConn (.ok proc) (some name) line fetched =
      api.reply (.error s!"Unsupported request type: {req.reqType}") := by
  rw [handleWorkloadConn_text htext hline, hreq, liftResult_ok_bind, if_pos htype]

theorem handleWorkloadConn_fetch (h : api.AsksFor line) (hline : line ≠ []) :
    api.handleWorkloadConn (.ok proc) (some name) line fetched =
      liftResult fetched >>= fun creds =>
        api.reply (.success creds.certPem creds.keyPem creds.caCertPem) := by
  obtain ⟨htext, req, hreq, htype⟩ := h
  rw [handleWorkloadConn_text htext hline, hreq, liftResult_ok_bind, if_neg (not_not.mpr htype)]

/-- A connection that is closed without a byte is not answered. -/
theorem not_answersOnce_of_nil {peer : Except String Process} {matched : Option String}
    (h : finalState (api.handleWorkloadConn peer matched line fetched []) = []) :
    ¬api.AnswersOnce peer matched line fetched := by
  rintro ⟨resp, json, -, hout, -⟩
  rw [h] at hout
  exact List.cons_ne_nil _ _ (List.append_eq_nil_iff.mp hout.symm).2

/-- The client is answered exactly when its peer is known and it is not matched to a workload, or
it sends a request which, if it asks for credentials, gets some. -/
theorem answersOnce_iff (hjson : ∀ resp, ∃ json, api.respSerde.toVec resp = .ok json)
    (peer : Except String Process) (matched : Option String) (hline : line ≠ []) :
    api.AnswersOnce peer matched line fetched ↔
      (∃ proc, peer = .ok proc) ∧ (matched = none ∨
        (String.fromUTF8? ⟨line.toArray⟩).isSome ∧ ∃ req,
          api.reqSerde.fromSlice line = .ok req ∧
          (req.reqType = "fetch" → ∃ creds, fetched = .ok creds)) := by
  -- one case for each way out of the function
  rcases peer with e | proc
  · apply iff_of_false (not_answersOnce_of_nil rfl)
    rintro ⟨⟨proc, ⟨⟩⟩, -⟩
  rcases matched with _ | name
  · -- the error is written without a look at the line
    obtain ⟨json, hresp⟩ := hjson (.error (api.attestationFailed proc))
    refine iff_of_true ⟨_, json, hresp, ?_, by simp⟩ ⟨⟨proc, rfl⟩, Or.inl rfl⟩
    rw [handleWorkloadConn_unmatched, reply_run hresp]
    rfl
  rcases htext : (String.fromUTF8? ⟨line.toArray⟩).isSome with _ | _
  · refine iff_of_false (not_answersOnce_of_nil ?_) (by simp)
    rw [handleWorkloadConn_notText (by simpa using htext)]
    rfl
  rcases hreq : api.reqSerde.fromSlice line with e | req
  · refine iff_of_false (not_answersOnce_of_nil ?_) (by simp)
    rw [handleWorkloadConn_notRequest htext hline hreq]
    rfl
  by_cases htype : req.reqType = "fetch"
  · have hasks : api.AsksFor line := ⟨htext, req, hreq, htype⟩
    rcases fetched with e | creds
    · -- a call that fails leaves through the `?`, as bad text and bad JSON do
      refine iff_of_false (not_answersOnce_of_nil ?_) (by simp [htype])
      rw [handleWorkloadConn_fetch hasks hline]
      rfl
    · obtain ⟨json, hresp⟩ := hjson (.success creds.certPem creds.keyPem creds.caCertPem)
      refine iff_of_true ⟨_, json, hresp, ?_, by simp [hasks]⟩ (by simp)
      rw [handleWorkloadConn_fetch hasks hline, liftResult_ok_bind, reply_run hresp]
      rfl
  · obtain ⟨json, hresp⟩ := hjson (.error s!"Unsupported request type: {req.reqType}")
    refine iff_of_true ⟨_, json, hresp, ?_, ?_⟩ (by simp [htype])
    · rw [handleWorkloadConn_unsupported htext hline hreq htype, reply_run hresp]
      rfl
    · simp [AsksFor, hreq, htype]

end WorkloadApi

/-! ## Lines -/

theorem mem_of_readLine {inbox : List UInt8} {line : Except String (List UInt8)}
    (h : readLine inbox none = some line) : 10 ∈ inbox ∧ line = .ok (firstLine inbox) := by
  unfold readLine at h
  split at h
  · rename_i hmem
    cases h
    exact ⟨hmem, rfl⟩
  · cases h

theorem firstLine_ne_nil (inbox : List UInt8) : firstLine inbox ≠ [] :=
  List.append_ne_nil_of_right_ne_nil _ (List.cons_ne_nil _ _)

/-- What comes after a line leaves it as it is. -/
theorem firstLine_eq_of_mem {inbox inbox' : List UInt8} (h : inbox <+: inbox')
    (hmem : 10 ∈ inbox) : firstLine inbox' = firstLine inbox := by
  obtain ⟨rest, rfl⟩ := h
  -- the newline ends the line within what was there
  have hlength : (inbox.takeWhile (· ≠ 10)).length ≠ inbox.length := by
    intro hlength
    have hself := (List.takeWhile_prefix (p := fun b : UInt8 => b ≠ 10)).eq_of_length hlength
    simpa using List.takeWhile_eq_self_iff.mp hself 10 hmem
  rw [firstLine, firstLine, List.takeWhile_append, if_neg hlength]

/-! ## Runs -/

namespace System

variable {origin sys : System} {as bs : List (Action KeyPair)} {id : ℕ} {task task' : Task}
  {env : StepEnv KeyPair} {st' : AgentState} {result : Except String Unit} {output : List UInt8}

theorem Attested.mono {proc : Process} {matched : Option String}
    (h : Attested api origin as id proc matched) (hpre : as <+: bs) :
    Attested api origin bs id proc matched := by
  obtain ⟨env, sys, sys', htakes, hattested⟩ := h
  exact ⟨env, sys, sys', htakes.mono hpre, hattested⟩

theorem Fetched.mono {name : String} {fetched : Except String X509Credentials}
    (h : Fetched api origin as id name fetched) (hpre : as <+: bs) :
    Fetched api origin bs id name fetched := by
  obtain ⟨calls, call, st, hcalls, hname, hfrom, hrun⟩ := h
  have hsteps : ∀ id, stepsOf as id ⊆ stepsOf bs id := fun _ _ hmem => hpre.subset hmem
  exact ⟨calls, call, st, fun c hc => (hcalls c hc).imp fun other h => h.mono (hsteps other),
    hname, hfrom.mono (hsteps id), hrun⟩

theorem Handled.mono (h : Handled api origin as id task result output) (hpre : as <+: bs) :
    Handled api origin bs id task result output := by
  obtain ⟨matched, fetched, hattested, hline⟩ := h
  refine ⟨matched, fetched, fun proc hpeer => (hattested proc hpeer).mono hpre,
    fun line hmem => ?_⟩
  obtain ⟨hfetched, hrun⟩ := hline line hmem
  exact ⟨fun name hname hasks => (hfetched name hname hasks).mono hpre, hrun⟩

/-- What the client sends after its line changes nothing. -/
theorem Handled.of_receives (h : Handled api origin as id task result output)
    (hpeer : task'.peer = task.peer) (hinbox : task.inbox <+: task'.inbox) :
    Handled api origin as id task' result output := by
  obtain ⟨matched, fetched, hattested, hline⟩ := h
  rw [← hpeer] at hattested hline
  refine ⟨matched, fetched, hattested, fun line hmem => hline line fun hmem' => ?_⟩
  rw [hmem (hinbox.subset hmem'), firstLine_eq_of_mem hinbox hmem']

theorem Serves.mono (h : Serves api origin as id task) (hpre : as <+: bs) :
    Serves api origin bs id task where
  silent := h.silent
  asks := h.asks
  writes resp bytes hpc := (h.writes resp bytes hpc).mono hpre
  returned result hpc := (h.returned result hpc).mono hpre

theorem Serves.of_hears (h : Serves api origin as id task) (hhears : task.Hears task')
    (hreceives : task.Receives task') : Serves api origin as id task' where
  silent hpc := hhears.output.trans (h.silent (hhears.pc ▸ hpc))
  asks hcall := by
    rw [Task.AtCall, hhears.pc] at hcall
    obtain ⟨hmem, hasks⟩ := h.asks hcall
    rw [firstLine_eq_of_mem hreceives.inbox hmem]
    exact ⟨hreceives.inbox.subset hmem, hasks⟩
  writes resp bytes hpc :=
    (h.writes resp bytes (hhears.pc ▸ hpc)).of_receives hhears.peer hreceives.inbox
  returned result hpc := by
    rw [hhears.output]
    exact (h.returned result (hhears.pc ▸ hpc)).of_receives hhears.peer hreceives.inbox

/-! ### One step -/

theorem serves_writing {resp : WorkloadResponse} (hpc : task.pc = .writeResponse resp output)
    (hout : task.output = []) (h : Handled api origin as id task (.ok ()) output) :
    Serves api origin as id task where
  silent _ := hout
  asks hcall := by
    rw [Task.AtCall, hpc] at hcall
    simp [Pc.guards, Pc.awaits] at hcall
  writes resp' bytes hpc' := by
    rw [hpc] at hpc'
    cases hpc'
    exact h
  returned result hpc' := by
    rw [hpc] at hpc'
    cases hpc'

theorem serves_returned (hpc : task.pc = .returned result)
    (h : Handled api origin as id task result task.output) : Serves api origin as id task where
  silent hnot := absurd hpc (hnot result)
  asks hcall := by
    rw [Task.AtCall, hpc] at hcall
    simp [Pc.guards, Pc.awaits] at hcall
  writes resp bytes hpc' := by
    rw [hpc] at hpc'
    cases hpc'
  returned result' hpc' := by
    rw [hpc] at hpc'
    cases hpc'
    exact h

/-- A task that gives up has written nothing. -/
theorem serves_goto_error {e : String} (hout : task.output = [])
    (h : Handled api origin as id task (.error e) []) :
    Serves api origin as id (task.goto (.returned (.error e))) := by
  rw [← hout] at h
  exact serves_returned rfl h

/-- A task that responds goes on to write the response. -/
theorem serves_goto_respond {resp : WorkloadResponse} {json : List UInt8} (hout : task.output = [])
    (hresp : api.respSerde.toVec resp = .ok json)
    (h : Handled api origin as id task (.ok ()) (json ++ [10])) :
    Serves api origin as id (task.goto (api.respond resp)) := by
  rw [WorkloadApi.respond, hresp]
  exact serves_writing rfl hout h

/-- At an await point before the answer there is only what a call needs to be shown. -/
theorem serves_silent (hout : task.output = [])
    (hwrites : ∀ resp bytes, task.pc ≠ .writeResponse resp bytes)
    (hreturned : ∀ result, task.pc ≠ .returned result)
    (hasks : task.AtCall → 10 ∈ task.inbox ∧ api.AsksFor (firstLine task.inbox)) :
    Serves api origin as id task where
  silent _ := hout
  asks := hasks
  writes resp bytes hpc := absurd hpc (hwrites resp bytes)
  returned result hpc := absurd hpc (hreturned result)

/-- The attestation of the process: it is matched, or its client is written an error. -/
theorem serves_of_lockWorkloads (hjson : ∀ resp, ∃ json, api.respSerde.toVec resp = .ok json)
    {proc : Process} (hpeer : task.peer = .ok proc) (hout : task.output = [])
    (hattested : ∀ matched, matchWorkload env.db proc sys.state.workloads = matched →
      Attested api origin as id proc matched) :
    Serves api origin as id (task.goto (api.attest env.db proc sys.state.workloads)) := by
  unfold WorkloadApi.attest
  rcases hmatch : matchWorkload env.db proc sys.state.workloads with _ | name
  · -- the error is written before a line is read
    obtain ⟨json, hresp⟩ := hjson (.error (api.attestationFailed proc))
    refine serves_goto_respond hout hresp
      ⟨none, .error "", fun proc' hpeer' => ?_, fun line _ => ⟨?_, ?_⟩⟩
    · obtain rfl : proc = proc' := Except.ok.inj (hpeer.symm.trans hpeer')
      exact hattested none hmatch
    · rintro name ⟨⟩
    · rw [hpeer, WorkloadApi.handleWorkloadConn_unmatched, WorkloadApi.reply_run hresp]
      rfl
  · refine serves_silent hout (by simp [Task.goto]) (by simp [Task.goto]) fun hcall => ?_
    simp [Task.AtCall, Task.goto, Pc.guards, Pc.awaits] at hcall

/-- The line of a matched process that is not a request for credentials: it is handled as the code
says whatever a call would give. -/
theorem handled_of_not_asksFor {proc : Process} {name : String} (hpeer : task.peer = .ok proc)
    (hattested : Attested api origin as id proc (some name)) (hmem : 10 ∈ task.inbox)
    (hasks : ¬api.AsksFor (firstLine task.inbox))
    (hrun : api.handleWorkloadConn (.ok proc) (some name) (firstLine task.inbox) (.error "") [] =
      liftResult result output) : Handled api origin as id task result output := by
  refine ⟨some name, .error "", fun proc' hpeer' => ?_, fun line hline => ?_⟩
  · obtain rfl : proc = proc' := Except.ok.inj (hpeer.symm.trans hpeer')
    exact hattested
  · obtain rfl := hline hmem
    exact ⟨fun _ _ h => absurd h hasks, by rw [hpeer, hrun]⟩

/-- The line of a matched process. -/
theorem serves_of_handleLine (hjson : ∀ resp, ∃ json, api.respSerde.toVec resp = .ok json)
    {proc : Process} {name : String} (hpeer : task.peer = .ok proc) (hout : task.output = [])
    (hattested : Attested api origin as id proc (some name)) (hmem : 10 ∈ task.inbox) :
    Serves api origin as id (task.goto (api.handleLine name (firstLine task.inbox))) := by
  have hline := firstLine_ne_nil task.inbox
  unfold WorkloadApi.handleLine
  -- one case for each way out of the code that handles the line
  split
  · rename_i htext
    have hasks : ¬api.AsksFor (firstLine task.inbox) := by
      rintro ⟨hsome, -⟩
      simp [Option.isNone_iff_eq_none.mp htext] at hsome
    refine serves_goto_error hout (handled_of_not_asksFor hpeer hattested hmem hasks ?_)
    rw [WorkloadApi.handleWorkloadConn_notText htext]
    rfl
  rename_i htext
  replace htext : (String.fromUTF8? ⟨(firstLine task.inbox).toArray⟩).isSome := by
    simpa [Option.isSome_iff_ne_none] using htext
  split
  · -- a line has its newline
    rename_i hempty
    exact absurd (List.isEmpty_iff.mp hempty) hline
  rcases hreq : api.reqSerde.fromSlice (firstLine task.inbox) with e | req
  · have hasks : ¬api.AsksFor (firstLine task.inbox) := by
      rintro ⟨-, req, hreq', -⟩
      rw [hreq] at hreq'
      cases hreq'
    refine serves_goto_error hout (handled_of_not_asksFor hpeer hattested hmem hasks ?_)
    rw [WorkloadApi.handleWorkloadConn_notRequest htext hline hreq]
    rfl
  simp only [Pc.andThen]
  split
  · rename_i htype
    have hasks : ¬api.AsksFor (firstLine task.inbox) := by
      rintro ⟨-, req', hreq', htype'⟩
      rw [hreq] at hreq'
      cases hreq'
      exact htype htype'
    obtain ⟨json, hresp⟩ := hjson (.error s!"Unsupported request type: {req.reqType}")
    refine serves_goto_respond hout hresp (handled_of_not_asksFor hpeer hattested hmem hasks ?_)
    rw [WorkloadApi.handleWorkloadConn_unsupported htext hline hreq htype,
      WorkloadApi.reply_run hresp]
    rfl
  · -- the line asks for credentials, and stays there during the call
    rename_i htype
    exact serves_silent hout (by simp [Task.goto]) (by simp [Task.goto])
      fun _ => ⟨hmem, htext, req, hreq, not_not.mp htype⟩

/-- The line of a matched process that asks for credentials: it is handled as the code says for
what its call gives. -/
theorem handled_of_fetched {proc : Process} {name : String}
    {fetched : Except String X509Credentials} (hpeer : task.peer = .ok proc)
    (hattested : Attested api origin as id proc (some name)) (hmem : 10 ∈ task.inbox)
    (hasks : api.AsksFor (firstLine task.inbox))
    (hfetched : Fetched api origin as id name fetched)
    (hrun : (liftResult fetched >>= fun creds : X509Credentials =>
      api.reply (.success creds.certPem creds.keyPem creds.caCertPem)) [] =
        liftResult result output) : Handled api origin as id task result output := by
  refine ⟨some name, fetched, fun proc' hpeer' => ?_, fun line hline => ?_⟩
  · obtain rfl : proc = proc' := Except.ok.inj (hpeer.symm.trans hpeer')
    exact hattested
  · obtain rfl := hline hmem
    refine ⟨fun name' hname' _ => ?_, ?_⟩
    · cases hname'
      exact hfetched
    · rw [hpeer, WorkloadApi.handleWorkloadConn_fetch hasks (firstLine_ne_nil _), hrun]

/-- A step of a call, or its last one. -/
theorem serves_of_atCall (hjson : ∀ resp, ∃ json, api.respSerde.toVec resp = .ok json)
    {now : Instant} {st : AgentState}
    (hrun : run (System.step api) (start now st) as = some sys)
    (hstep : sys.step api (.run id env) = some (sys.advance id st' task'))
    (htask : sys.tasks id = some task) (hgoes : task.Goes api env sys.now sys.state st' task')
    (hcall : task.AtCall) (h : Serves api (start now st) as id task) :
    Serves api (start now st) (as ++ [.run id env]) id task' := by
  have hpre : as <+: as ++ [.run id env] := List.prefix_append _ _
  obtain ⟨hmem, hasks⟩ := h.asks hcall
  rw [← hgoes.stream_eq.1] at hmem hasks
  -- neither before the call nor in it anything is written
  have hout : task.output = [] := by
    refine h.silent fun result hpc => ?_
    rw [Task.AtCall, hpc] at hcall
    simp [Pc.guards, Pc.awaits] at hcall
  have hout' : task'.output = [] := by
    rcases hgoes.output with hsame | ⟨resp, bytes, hpc, -⟩
    · rw [hsame, hout]
    · rw [Task.AtCall, hpc] at hcall
      simp [Pc.guards, Pc.awaits] at hcall
  by_cases hnext : .cache ∈ task'.pc.guards
  · refine serves_silent hout' (fun resp bytes hpc => ?_) (fun result hpc => ?_)
      fun _ => ⟨hmem, hasks⟩
    · simp [hpc, Pc.guards] at hnext
    · simp [hpc, Pc.guards] at hnext
  · -- the call is over, and the task has its result
    have htakes := takes_concat hrun hstep
    obtain ⟨calls, hserial, call, hname, hfrom, -, hanswers⟩ :=
      answers_of_takes htakes htask hcall (advance_tasks_self _ _ _ _) hnext
    obtain ⟨proc, hpeer, hmatched⟩ :=
      (identified_of_run (fun _ => rfl) hrun htask).2 call.identityName hname
    rw [← hgoes.peer_eq] at hpeer
    have hattested := Attested.mono hmatched hpre
    have hfetched : ∀ fetched, call.run api (serial api st calls) = liftResult fetched st' →
        Fetched api (start now st) (as ++ [.run id env]) id call.identityName fetched :=
      fun fetched hresult =>
        ⟨calls, call, st', hserial.completed.fromSteps, rfl, hfrom, hresult⟩
    -- it goes on to write the credentials, or it returns the error
    rcases hanswers with ⟨creds, hresult, hpc⟩ | ⟨e, hresult, hpc⟩
    · obtain ⟨json, hresp⟩ := hjson (.success creds.certPem creds.keyPem creds.caCertPem)
      rw [WorkloadApi.respond, hresp] at hpc
      refine serves_writing hpc hout' (handled_of_fetched hpeer hattested hmem hasks
        (hfetched (.ok creds) hresult) ?_)
      rw [liftResult_ok_bind, WorkloadApi.reply_run hresp]
      rfl
    · apply serves_returned hpc
      rw [hout']
      exact handled_of_fetched hpeer hattested hmem hasks (hfetched (.error e) hresult) rfl

/-- A step of a task whose client waits. -/
theorem serves_of_step (hjson : ∀ resp, ∃ json, api.respSerde.toVec resp = .ok json)
    {now : Instant} {st : AgentState}
    (hrun : run (System.step api) (start now st) as = some sys)
    (hstep : sys.step api (.run id env) = some (sys.advance id st' task'))
    (htask : sys.tasks id = some task) (hgoes : task.Goes api env sys.now sys.state st' task')
    (hending : task.ending = none) (h : Serves api (start now st) as id task) :
    Serves api (start now st) (as ++ [.run id env]) id task' := by
  have hpre : as <+: as ++ [.run id env] := List.prefix_append _ _
  have hidentified := identified_of_run (fun _ => rfl) hrun htask
  by_cases hcall : task.AtCall
  · exact serves_of_atCall hjson hrun hstep htask hgoes hcall h
  -- outside a call a task attests its process, reads a line or writes its answer
  cases hgoes with
  | @lockWorkloads proc hpc =>
    have hpeer := hidentified.1 proc hpc
    exact serves_of_lockWorkloads hjson hpeer (h.silent (by simp [hpc])) fun matched hmatch =>
      ⟨env, sys, _, takes_concat hrun hstep, ⟨task, htask, hpeer, hpc⟩, hmatch⟩
  | @readLine name line hpc hline =>
    rw [hending] at hline
    obtain ⟨hmem, rfl⟩ := mem_of_readLine hline
    obtain ⟨proc, hpeer, hmatched⟩ := hidentified.2 name (by rw [hpc]; rfl)
    exact serves_of_handleLine hjson hpeer (h.silent (by simp [hpc]))
      (Attested.mono hmatched hpre) hmem
  | @writeResponse resp bytes hpc hroom hwrite =>
    have hout : task.output = [] := h.silent (by simp [hpc])
    apply serves_returned rfl
    show Handled _ _ _ _ _ _ (task.output ++ bytes)
    rw [hout, List.nil_append]
    exact ((h.writes resp bytes hpc).mono hpre).of_receives rfl (List.prefix_refl _)
  | writeFailed hpc hended hwrite =>
    -- writing fails only when the client has ended its side
    rw [hending] at hended
    cases hended
  | _ hpc =>
    refine absurd ?_ hcall
    simp [Task.AtCall, hpc, Pc.guards, Pc.awaits]

/-- A task whose client waits serves it as the code of one connection does. -/
theorem serves_of_run (hjson : ∀ resp, ∃ json, api.respSerde.toVec resp = .ok json)
    {now : Instant} {st : AgentState}
    (hrun : run (System.step api) (start now st) as = some sys) (htask : sys.tasks id = some task)
    (hending : task.ending = none) : Serves api (start now st) as id task := by
  refine tasks_induction
    (P := fun as id task => task.ending = none → Serves api (start now st) as id task)
    ?_ ?_ ?_ ?_ ?_ hrun htask hending
  · rintro id task ⟨⟩
  · intro as id peer room _
    cases peer with
    | error e =>
      refine serves_returned rfl ⟨none, .error "", ?_, fun line _ => ⟨?_, rfl⟩⟩
      · rintro proc ⟨⟩
      · rintro name ⟨⟩
    | ok proc =>
      refine serves_silent rfl ?_ ?_ ?_ <;>
        simp [Task.accepted, Pc.andThen, Task.AtCall, Pc.guards, Pc.awaits]
  · exact fun as a id task h hending => (h hending).mono (List.prefix_append _ _)
  · exact fun as id task task' hhears hreceives h hending =>
      (h (hreceives.ending hending)).of_hears hhears hreceives
  · intro as sys id env task st' task' hrun hstep htask hgoes h hending
    rw [hgoes.stream_eq.2] at hending
    exact serves_of_step hjson hrun hstep htask hgoes hending (h hending)

end System

/-- The answers of the Workload API. A line is answered exactly when the peer is known and either
it is not matched to a workload or the line is a request which, if it asks for credentials, gets
some. And in every run a task that has returned, with a line of its client and without the end of
it, has done what the code does with that line, for what its own attestation and call gave. -/
theorem workloadRequests_answered_iff (api : WorkloadApi KeyPair PublicKey)
    (hjson : ∀ resp, ∃ json, api.respSerde.toVec resp = .ok json) :
    (∀ peer matched line fetched, line ≠ [] →
      (api.AnswersOnce peer matched line fetched ↔
        (∃ proc, peer = .ok proc) ∧ (matched = none ∨
          (String.fromUTF8? ⟨line.toArray⟩).isSome ∧ ∃ req,
            api.reqSerde.fromSlice line = .ok req ∧
            (req.reqType = "fetch" → ∃ creds, fetched = .ok creds)))) ∧
    ∀ now st as sys id task result,
      run (System.step api) (System.start now st) as = some sys → sys.tasks id = some task →
      task.pc = .returned result → task.ending = none → 10 ∈ task.inbox →
      ∃ matched fetched,
        (∀ proc, task.peer = .ok proc →
          System.Attested api (System.start now st) as id proc matched) ∧
        (∀ name, matched = some name → api.AsksFor (firstLine task.inbox) →
          System.Fetched api (System.start now st) as id name fetched) ∧
        api.handleWorkloadConn task.peer matched (firstLine task.inbox) fetched [] =
          liftResult result task.output := by
  refine ⟨fun peer matched line fetched hline =>
    WorkloadApi.answersOnce_iff hjson peer matched hline, ?_⟩
  intro now st as sys id task result hrun htask hpc hending hmem
  obtain ⟨matched, fetched, hattested, hline⟩ :=
    (System.serves_of_run hjson hrun htask hending).returned result hpc
  obtain ⟨hfetched, hhandled⟩ := hline _ fun _ => rfl
  exact ⟨matched, fetched, hattested, hfetched, hhandled⟩

/-- Credentials that are there are handed out. -/
theorem workloadRequests_answered_fetchLine :
    Symbolic.lineApi.AnswersOnce (.ok Symbolic.web) (some "web") Symbolic.fetchLine
      (.ok ⟨"cert", "key", "ca"⟩) :=
  ((workloadRequests_answered_iff Symbolic.lineApi fun resp => ⟨_, rfl⟩).1 _ _ _ _
    (by decide +kernel)).mpr
      ⟨⟨_, rfl⟩, Or.inr ⟨by decide +kernel, ⟨"fetch"⟩, by rfl, fun _ => ⟨_, rfl⟩⟩⟩

/-- A matched process that asks for credentials while the host does not accept connections is sent
nothing before its connection is closed. -/
theorem not_answersOnce_unreachable :
    ¬Symbolic.lineApi.AnswersOnce (.ok Symbolic.web) (some "web") Symbolic.fetchLine
        (.error "vsock connect on demand failed") ∧
      ∃ sys task, run (System.step Symbolic.lineApi)
          (.start ⟨0⟩ (.boot ⟨901⟩ Symbolic.webWorkloads))
          ([.accept 0 (.ok Symbolic.web) 100, .run 0 Symbolic.granted,
            .clientSends 0 Symbolic.fetchLine] ++
            List.replicate 5 (.run 0 Symbolic.unreachable)) = some sys ∧
        sys.tasks 0 = some task ∧ task.inbox = Symbolic.fetchLine ∧ task.ending = none ∧
        task.output = [] ∧
        task.pc = .returned (.error "vsock connect on demand failed") := by
  constructor
  · exact WorkloadApi.not_answersOnce_of_nil (by decide +kernel)
  · exact ⟨_, _, rfl, rfl, rfl, rfl, rfl, rfl⟩

end

end AuthnScope
