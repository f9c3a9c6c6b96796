import AuthnScope.EndToEnd
import AuthnScope.Workload.Go
import AuthnScope.Workload.RoundTrip

/-!
# Credentials at the workload

The client libraries on connections to the agent, in any run of it. What a client reads is what the
task of its connection writes: one response, when the task has come to it. So the credentials that a
fetch returns, in Rust or in Go, are those of a call for the workload that the client's process was
matched to, and with the host behind the agent they come from a policy that admits the process.

## Main definitions

* `System.Wrote`: what the output of a task says of its history;
* `System.Delivers`: a connection on which a client reads what a task writes.

## Main results

* `System.wrote_of_run`: the tasks of a run write their responses, and nothing else;
* `fetches_of_run`: what the clients make of a connection that has been handled;
* `loops_hold_entitled`: what the rotation loops of the clients hold.
-/

namespace AuthnScope

open Outcome Transition

section

variable {KeyPair PublicKey : Type} {api : WorkloadApi KeyPair PublicKey} {origin sys : System}
  {as bs : List (Action KeyPair)} {id : ℕ} {task task' : Task}

/-! ## What a task has written -/

namespace System

variable (api) (origin) (as) (id) (task) in
/-- Until it returns the task has written nothing. What it has written is a beginning of a response
that it had come to. -/
structure Wrote : Prop where
  silent : (∀ result, task.pc ≠ .returned result) → task.output = []
  written : task.output = [] ∨ ∃ bs sys' task' resp bytes, bs <+: as ∧
    run (System.step api) origin bs = some sys' ∧ sys'.tasks id = some task' ∧
    task'.peer = task.peer ∧ task'.pc = .writeResponse resp bytes ∧ task.output <+: bytes

theorem Wrote.mono (h : Wrote api origin as id task) (hpre : as <+: bs) :
    Wrote api origin bs id task := by
  refine ⟨h.silent, h.written.imp_right ?_⟩
  rintro ⟨cs, sys', task', resp, bytes, hcs, hrest⟩
  exact ⟨cs, sys', task', resp, bytes, hcs.trans hpre, hrest⟩

theorem Wrote.of_hears (h : Wrote api origin as id task) (hhears : task.Hears task') :
    Wrote api origin as id task' := by
  obtain ⟨hsilent, hwritten⟩ := h
  rw [← hhears.output, ← hhears.peer] at hwritten
  refine ⟨fun hpc => ?_, hwritten⟩
  rw [hhears.output]
  exact hsilent (hhears.pc ▸ hpc)

/-- The step of a task that has come to its response writes it, and no other step writes. -/
theorem wrote_of_step {env : StepEnv KeyPair} {st' : AgentState}
    (hrun : run (System.step api) origin as = some sys) (htask : sys.tasks id = some task)
    (hgoes : task.Goes api env sys.now sys.state st' task') (h : Wrote api origin as id task) :
    Wrote api origin (as ++ [.run id env]) id task' := by
  have hnot : ∀ result, task.pc ≠ .returned result := by
    intro result hpc
    have hlt := hgoes.remaining_lt
    rw [hpc] at hlt
    exact absurd hlt (Nat.not_lt_zero _)
  have hempty := h.silent hnot
  rcases hgoes.output with hsame | ⟨resp, bytes, hpc, hpre⟩
  · exact ⟨fun _ => hsame.trans hempty, Or.inl (hsame.trans hempty)⟩
  · rw [hempty, List.nil_append] at hpre
    refine ⟨fun hreturned => ?_, Or.inr ⟨as, sys, task, resp, bytes, List.prefix_append _ _, hrun,
      htask, hgoes.peer_eq.symm, hpc, hpre⟩⟩
    -- a task that writes returns
    have hleads := hgoes.leads
    rw [hpc] at hleads
    generalize task'.pc = pc' at hleads hreturned
    cases hleads <;> exact absurd rfl (hreturned _)

/-- The tasks of a run write their responses, and nothing else. -/
theorem wrote_of_run (hstart : ∀ id, origin.tasks id = none)
    (hrun : run (System.step api) origin as = some sys) (htask : sys.tasks id = some task) :
    Wrote api origin as id task := by
  refine tasks_induction (P := fun as id task => Wrote api origin as id task) ?_ ?_ ?_ ?_ ?_
    hrun htask
  · intro id task htask
    rw [hstart] at htask
    cases htask
  · intro as id peer room
    exact ⟨fun _ => rfl, Or.inl rfl⟩
  · exact fun as a id task h => h.mono (List.prefix_append _ _)
  · exact fun as id task task' hhears _ h => h.of_hears hhears
  · exact fun as sys id env task st' task' hrun _ htask hgoes h => wrote_of_step hrun htask hgoes h

end System

/-! ## What the clients make of it -/

variable {client : WorkloadClient} {goClient : GoWorkloadClient}
  {fromStr parse : List UInt8 → Except String Json} {ex : Exchange} {creds : X509Credentials}

/-- What a fetch of the client in Go gives for a response. -/
def WorkloadResponse.goCredentials : WorkloadResponse → Except String X509Credentials
  | .success certPem keyPem caCertPem =>
    if certPem = "" ∨ keyPem = "" ∨ caCertPem = "" then
      .error "workload API returned incomplete credentials"
    else .ok ⟨certPem, keyPem, caCertPem⟩
  | .error message => .error s!"workload API returned error: {message}"

/-- The client in Go finds the fields of a response under their own names. -/
theorem GoResponse.unmarshal_toJson (resp : WorkloadResponse) :
    unmarshal resp.toJson = .ok (match resp with
      | .success certPem keyPem caCertPem => ⟨"success", certPem, keyPem, caCertPem, ""⟩
      | .error message => ⟨"error", "", "", "", message⟩) := by
  have hstatus : GoField.ofKey "status" = some .status := GoField.ofKey_name .status
  have hcert : GoField.ofKey "cert_pem" = some .certPem := GoField.ofKey_name .certPem
  have hkey : GoField.ofKey "key_pem" = some .keyPem := GoField.ofKey_name .keyPem
  have hca : GoField.ofKey "ca_cert_pem" = some .caCertPem := GoField.ofKey_name .caCertPem
  have hmessage : GoField.ofKey "message" = some .message := GoField.ofKey_name .message
  cases resp with
  | success certPem keyPem caCertPem =>
    simp [WorkloadResponse.toJson, unmarshal, unmarshalEntry, hstatus, hcert, hkey, hca, set]
  | error message =>
    simp [WorkloadResponse.toJson, unmarshal, unmarshalEntry, hstatus, hmessage, set]

/-- The line of a response is read as the object that was written. -/
theorem Json.ReadsStrings.response (hread : Json.ReadsStrings parse) (resp : WorkloadResponse) :
    parse (resp.toJson.toVec ++ [10]) = .ok resp.toJson := by
  obtain ⟨fields, hnodup, hfields⟩ := resp.exists_toJson_eq_ofStrings
  rw [hfields]
  exact hread fields hnodup

/-- What the client in Go makes of the line of a response. -/
theorem GoWorkloadClient.fetchCredentials_of_response (hread : Json.ReadsStrings parse)
    (hconnect : ex.connect = .ok ()) (hwrite : ex.write requestLine = .ok ())
    {resp : WorkloadResponse} (hreply : ex.reply = resp.toJson.toVec ++ [10]) :
    goClient.fetchCredentials parse ex = resp.goCredentials := by
  have hline : receivedLine ex.reply = resp.toJson.toVec ++ [10] := by
    rw [hreply, receivedLine_append_newline resp.newline_not_mem_toVec]
  have hends : 10 ∈ ex.reply := by rw [hreply]; simp
  rw [fetchCredentials, hconnect, hwrite]
  simp only [Except.mapError, except_ok_bind, not_not.mpr hends, if_false, hline,
    hread.response resp, GoResponse.unmarshal_toJson]
  cases resp with
  | success certPem keyPem caCertPem => simp [WorkloadResponse.goCredentials]
  | error message => simp [WorkloadResponse.goCredentials]

theorem WorkloadResponse.credentials_eq_ok_iff (resp : WorkloadResponse)
    (creds : X509Credentials) :
    resp.credentials = .ok creds ↔
      resp = .success creds.certPem creds.keyPem creds.caCertPem := by
  cases resp with
  | success certPem keyPem caCertPem =>
    rw [credentials, Except.ok.injEq, success.injEq]
    constructor
    · rintro rfl
      exact ⟨rfl, rfl, rfl⟩
    · rintro ⟨rfl, rfl, rfl⟩
      rfl
  | error message => simp [credentials]

/-- The client in Go returns what the one in Rust does, if no field of it is empty. -/
theorem WorkloadResponse.goCredentials_eq_ok_iff (resp : WorkloadResponse)
    (creds : X509Credentials) :
    resp.goCredentials = .ok creds ↔ resp.credentials = .ok creds ∧ creds.Complete := by
  cases resp with
  | success certPem keyPem caCertPem =>
    rw [goCredentials, credentials, Except.ok.injEq]
    constructor
    · intro h
      split at h
      · cases h
      · rename_i hcomplete
        cases h
        exact ⟨rfl, by simpa [X509Credentials.Complete] using hcomplete⟩
    · rintro ⟨rfl, hcert, hkey, hca⟩
      exact if_neg (by simp [hcert, hkey, hca])
  | error message => simp [credentials, goCredentials]

/-- A beginning of a line that has its newline is the whole line. -/
theorem eq_of_prefix_line {body reply : List UInt8} (hpre : reply <+: body ++ [10])
    (hbody : 10 ∉ body) (hline : 10 ∈ reply) : reply = body ++ [10] := by
  rcases List.prefix_concat_iff.mp hpre with rfl | hbefore
  · rfl
  · exact absurd (hbefore.subset hline) hbody

/-- The request of the clients is one line of text that asks for credentials. -/
theorem asksFor_requestLine (hreq : api.reqSerde.fromSlice requestLine = .ok ⟨"fetch"⟩) :
    api.AsksFor (firstLine requestLine) ∧ firstLine requestLine ≠ [] := by
  have hbody : 10 ∉ (WorkloadRequest.mk "fetch").toJson.toVec :=
    Json.newline_not_mem_toVec_ofStrings [("type", "fetch")]
  have hline : firstLine requestLine = requestLine := by
    have hreceived := receivedLine_append_newline hbody
    rwa [receivedLine, if_pos (by simp)] at hreceived
  rw [hline]
  refine ⟨⟨?_, _, hreq, rfl⟩, by simp [requestLine]⟩
  rw [requestLine, Json.fromUTF8?_toVec]
  rfl

/-- A handled connection has the line of a success on it, with what the call gave, or nothing, or
the line of an error. -/
theorem output_of_handled (hwrite : ∀ resp, api.respSerde.toVec resp = .ok resp.toJson.toVec)
    {peer : Except String Process} {matched : Option String} {line : List UInt8}
    {fetched : Except String X509Credentials} {result : Except String Unit} {output : List UInt8}
    (hasks : api.AsksFor line) (hline : line ≠ [])
    (h : api.handleWorkloadConn peer matched line fetched [] = liftResult result output) :
    (∃ creds, (∃ proc, peer = .ok proc) ∧ matched.isSome ∧ fetched = .ok creds ∧
      output = (WorkloadResponse.success creds.certPem creds.keyPem creds.caCertPem).toJson.toVec ++
        [10]) ∨
    (¬∃ creds, (∃ proc, peer = .ok proc) ∧ matched.isSome ∧ fetched = .ok creds) ∧
      (output = [] ∨
        ∃ message, output = (WorkloadResponse.error message).toJson.toVec ++ [10]) := by
  have hout : output = finalState (api.handleWorkloadConn peer matched line fetched []) := by
    rw [h]
    cases result <;> rfl
  rcases peer with e | proc
  · exact Or.inr ⟨by simp, Or.inl hout⟩
  rcases matched with _ | name
  · rw [WorkloadApi.handleWorkloadConn_unmatched, WorkloadApi.reply_run (hwrite _)] at hout
    exact Or.inr ⟨by simp, Or.inr ⟨_, hout⟩⟩
  rw [WorkloadApi.handleWorkloadConn_fetch hasks hline] at hout
  rcases fetched with e | creds
  · exact Or.inr ⟨by simp, Or.inl hout⟩
  · rw [liftResult_ok_bind, WorkloadApi.reply_run (hwrite _)] at hout
    exact Or.inl ⟨creds, ⟨proc, rfl⟩, rfl, rfl, hout⟩

/-- A fetch in Go that gives credentials has got a line. -/
theorem GoWorkloadClient.of_fetchCredentials (h : goClient.fetchCredentials parse ex = .ok creds) :
    ex.connect = .ok () ∧ ex.write requestLine = .ok () ∧ 10 ∈ ex.reply := by
  simp only [fetchCredentials, except_bind_eq_ok_iff, except_mapError_eq_ok_iff] at h
  obtain ⟨⟨⟩, hconnect, ⟨⟩, hwrite, h⟩ := h
  split at h
  · cases h
  · rename_i hline
    exact ⟨hconnect, hwrite, not_not.mp hline⟩

/-- A connection that is closed without a byte gives a client nothing. -/
theorem not_fetchCredentials_of_nil (hreply : ex.reply = []) :
    ¬(client.fetchCredentials fromStr ex = .ok creds ∨
      goClient.fetchCredentials parse ex = .ok creds) := by
  rintro (h | h)
  · obtain ⟨-, -, -, hline, -⟩ := (WorkloadClient.fetchCredentials_eq_ok_iff creds).mp h
    exact hline ((receivedLine_eq_nil_iff ex.reply).mpr hreply)
  · have hline := (GoWorkloadClient.of_fetchCredentials h).2.2
    rw [hreply] at hline
    exact absurd hline List.not_mem_nil

/-- The credentials that a client gets from the line of a response are those of the response. -/
theorem success_of_fetchCredentials (hread : Json.ReadsStrings fromStr)
    (hparse : Json.ReadsStrings parse) {resp : WorkloadResponse}
    (hreply : ex.reply = resp.toJson.toVec ++ [10])
    (h : client.fetchCredentials fromStr ex = .ok creds ∨
      goClient.fetchCredentials parse ex = .ok creds) :
    resp = .success creds.certPem creds.keyPem creds.caCertPem := by
  rcases h with h | h
  · obtain ⟨hconnect, hwrite, -⟩ := (WorkloadClient.fetchCredentials_eq_ok_iff creds).mp h
    rw [WorkloadClient.fetchCredentials_of_response hread hconnect hwrite hreply] at h
    exact (resp.credentials_eq_ok_iff creds).mp h
  · obtain ⟨hconnect, hwrite, -⟩ := GoWorkloadClient.of_fetchCredentials h
    rw [GoWorkloadClient.fetchCredentials_of_response hparse hconnect hwrite hreply] at h
    exact (resp.credentials_eq_ok_iff creds).mp ((resp.goCredentials_eq_ok_iff creds).mp h).1

/-- A client that has sent its request to the agent and waits for the end of the connection. In any
run of the agent, the fetch gives credentials exactly when the process behind the connection is
matched to a workload and the call for this workload gives them, and they are those of the call. The
client in Go wants in addition that none of the three texts is empty. -/
theorem fetches_of_run (hwrite : ∀ resp, api.respSerde.toVec resp = .ok resp.toJson.toVec)
    (hreq : api.reqSerde.fromSlice requestLine = .ok ⟨"fetch"⟩)
    (hread : Json.ReadsStrings fromStr) (hparse : Json.ReadsStrings parse)
    (client : WorkloadClient) (goClient : GoWorkloadClient) (now : Instant) (st : AgentState)
    (hrun : run (System.step api) (.start now st) as = some sys) (htask : sys.tasks id = some task)
    {result : Except String Unit} (hpc : task.pc = .returned result) (hending : task.ending = none)
    (hinbox : task.inbox = requestLine) (hconnect : ex.connect = .ok ())
    (hrequest : ex.write requestLine = .ok ()) (hreply : ex.reply = task.output) :
    ∃ matched fetched,
      (∀ proc, task.peer = .ok proc → System.Attested api (.start now st) as id proc matched) ∧
      (∀ name, matched = some name → System.Fetched api (.start now st) as id name fetched) ∧
      ∀ creds, (client.fetchCredentials fromStr ex = .ok creds ↔
          (∃ proc, task.peer = .ok proc) ∧ matched.isSome ∧ fetched = .ok creds) ∧
        (goClient.fetchCredentials parse ex = .ok creds ↔
          ((∃ proc, task.peer = .ok proc) ∧ matched.isSome ∧ fetched = .ok creds) ∧
            creds.Complete) := by
  obtain ⟨hasks, hline⟩ := asksFor_requestLine hreq
  rw [← hinbox] at hasks hline
  obtain ⟨matched, fetched, hattested, hhandled⟩ := (System.serves_of_run
    (fun resp => ⟨_, hwrite resp⟩) hrun htask hending).returned result hpc
  obtain ⟨hfetched, hhandled⟩ := hhandled (firstLine task.inbox) fun _ => rfl
  refine ⟨matched, fetched, hattested, fun name hname => hfetched name hname hasks, fun creds => ?_⟩
  rcases output_of_handled hwrite hasks hline hhandled with
    ⟨creds', hpeer, hmatched, rfl, hout⟩ | ⟨hnone, hout⟩
  · rw [hout] at hreply
    have hcreds : (WorkloadResponse.success creds'.certPem creds'.keyPem
        creds'.caCertPem).credentials = .ok creds' := rfl
    rw [WorkloadClient.fetchCredentials_of_response hread hconnect hrequest hreply,
      GoWorkloadClient.fetchCredentials_of_response hparse hconnect hrequest hreply,
      WorkloadResponse.goCredentials_eq_ok_iff, hcreds]
    simp [hpeer, hmatched]
  · -- without a byte there is nothing to read, and an error is read as one
    have hneither : ¬(client.fetchCredentials fromStr ex = .ok creds ∨
        goClient.fetchCredentials parse ex = .ok creds) := by
      rcases hout with hout | ⟨message, hout⟩
      · exact not_fetchCredentials_of_nil (hreply.trans hout)
      · intro h
        cases success_of_fetchCredentials hread hparse (hreply.trans hout) h
    obtain ⟨hclient, hgoClient⟩ := not_or.mp hneither
    exact ⟨iff_of_false hclient fun h => hnone ⟨creds, h⟩,
      iff_of_false hgoClient fun h => hnone ⟨creds, h.1⟩⟩

/-! ## The rotation loops -/

/-- The last fetch of a rotation loop that gave credentials gave these. -/
def LastFetch (fetch : Exchange → Except String X509Credentials) (exs : List Exchange)
    (ex : Exchange) (creds : X509Credentials) : Prop :=
  ∃ before after, exs = before ++ ex :: after ∧ fetch ex = .ok creds ∧
    ∀ ex' ∈ after, ∀ creds', fetch ex' ≠ .ok creds'

theorem LastFetch.mem {fetch : Exchange → Except String X509Credentials} {exs : List Exchange}
    (h : LastFetch fetch exs ex creds) : ex ∈ exs := by
  obtain ⟨before, after, rfl, -⟩ := h
  simp

/-- What a rotation loop holds is from the last fetch that succeeded. -/
theorem exists_lastFetch_of_rotationLoop {fetch : Exchange → Except String X509Credentials}
    {exs : List Exchange} (h : rotationLoop fetch exs = some creds) :
    ∃ ex, LastFetch fetch exs ex creds := by
  -- induction on the iterations, the last one last
  induction exs using List.reverseRecOn with
  | nil => cases h
  | append_singleton exs ex ih =>
    rw [rotationLoop, List.foldl_append, List.foldl_cons, List.foldl_nil, rotate] at h
    cases hex : fetch ex with
    | ok creds' =>
      rw [hex] at h
      cases h
      exact ⟨ex, exs, [], rfl, hex, by simp⟩
    | error e =>
      rw [hex] at h
      obtain ⟨ex', before, after, rfl, hfetch, hafter⟩ := ih h
      refine ⟨ex', before, after ++ [ex], by simp, hfetch, fun ex'' hmem creds' => ?_⟩
      rcases List.mem_append.mp hmem with hmem | hlast
      · exact hafter ex'' hmem creds'
      · rw [List.mem_singleton.mp hlast, hex]
        exact nofun

/-- The client of a connection reads a beginning of what the task of the connection has written, up
to a newline at least. -/
def System.Delivers (sys : System) (id : ℕ) (ex : Exchange) : Prop :=
  ∃ task, sys.tasks id = some task ∧ ex.reply <+: task.output ∧ 10 ∈ ex.reply

/-- The credentials that a client fetches over a connection are those of a response that the task of
the connection has come to. -/
theorem response_of_fetch (hwrite : ∀ resp, api.respSerde.toVec resp = .ok resp.toJson.toVec)
    (hread : Json.ReadsStrings fromStr) (hparse : Json.ReadsStrings parse)
    (hstart : ∀ id, origin.tasks id = none) (hempty : origin.state.cache = ∅)
    (hrun : run (System.step api) origin as = some sys) (hdelivers : sys.Delivers id ex)
    (h : client.fetchCredentials fromStr ex = .ok creds ∨
      goClient.fetchCredentials parse ex = .ok creds) :
    ∃ task bs sys' task' bytes, sys.tasks id = some task ∧ bs <+: as ∧
      run (System.step api) origin bs = some sys' ∧ sys'.tasks id = some task' ∧
      task'.peer = task.peer ∧
      task'.pc = .writeResponse (.success creds.certPem creds.keyPem creds.caCertPem) bytes := by
  obtain ⟨task, htask, hpre, hline⟩ := hdelivers
  rcases (System.wrote_of_run hstart hrun htask).written with hout |
    ⟨bs, sys', task', resp, bytes, hbs, hrun', htask', hpeer, hpc, hout⟩
  · rw [hout, List.prefix_nil] at hpre
    rw [hpre] at hline
    exact absurd hline List.not_mem_nil
  · -- the line is that of the response that the task had come to
    obtain ⟨⟨json, hjson, rfl⟩, -⟩ :=
      System.backed_of_run hstart hempty hrun' htask' resp bytes hpc
    rw [hwrite] at hjson
    cases hjson
    have hreply := eq_of_prefix_line (hpre.trans hout) resp.newline_not_mem_toVec hline
    rw [success_of_fetchCredentials hread hparse hreply h] at hpc
    exact ⟨task, bs, sys', task', _, htask, hbs, hrun', htask', hpeer, hpc⟩

/-- A rotation loop holds the credentials of the response to its last fetch that succeeded. -/
theorem response_of_loop (hwrite : ∀ resp, api.respSerde.toVec resp = .ok resp.toJson.toVec)
    (hread : Json.ReadsStrings fromStr) (hparse : Json.ReadsStrings parse)
    (hstart : ∀ id, origin.tasks id = none) (hempty : origin.state.cache = ∅)
    (hrun : run (System.step api) origin as = some sys) {ids : Set ℕ} {exs : List Exchange}
    (hexs : ∀ ex ∈ exs, ex.reply = [] ∨ ∃ id ∈ ids, sys.Delivers id ex)
    {fetch : Exchange → Except String X509Credentials}
    (hfetch : fetch = client.fetchCredentials fromStr ∨ fetch = goClient.fetchCredentials parse)
    (hholds : rotationLoop fetch exs = some creds) :
    ∃ ex id, LastFetch fetch exs ex creds ∧ id ∈ ids ∧ sys.Delivers id ex ∧
      ∃ task bs sys' task' bytes, sys.tasks id = some task ∧ bs <+: as ∧
        run (System.step api) origin bs = some sys' ∧ sys'.tasks id = some task' ∧
        task'.peer = task.peer ∧
        task'.pc = .writeResponse (.success creds.certPem creds.keyPem creds.caCertPem) bytes := by
  obtain ⟨ex, hlast⟩ := exists_lastFetch_of_rotationLoop hholds
  have hex : client.fetchCredentials fromStr ex = .ok creds ∨
      goClient.fetchCredentials parse ex = .ok creds := by
    obtain ⟨before, after, -, hok, -⟩ := hlast
    rcases hfetch with rfl | rfl
    · exact Or.inl hok
    · exact Or.inr hok
  rcases hexs ex hlast.mem with hnil | ⟨id, hid, hdelivers⟩
  · exact absurd hex (not_fetchCredentials_of_nil hnil)
  · exact ⟨ex, id, hlast, hid, hdelivers,
      response_of_fetch hwrite hread hparse hstart hempty hrun hdelivers hex⟩

end

namespace Symbolic

/-- The response to a fetch. -/
def fetched : WorkloadResponse := .success "cert" (lib.serializePem 7) "ca"

/-- A connection of the process that sends the request of the clients, up to its response. -/
def fetches : List (Action ℕ) :=
  [.accept 0 (.ok web) 100, .run 0 granted, .clientSends 0 requestLine] ++
    List.replicate 9 (.run 0 granted)

/-- The response is written. -/
theorem exists_run_fetches :
    ∃ sys task, run (System.step lineApi) (.start ⟨0⟩ (.boot ⟨901⟩ webWorkloads))
        (fetches ++ [.run 0 granted]) = some sys ∧ sys.tasks 0 = some task ∧
      task.inbox = requestLine ∧ task.ending = none ∧ task.pc = .returned (.ok ()) ∧
      task.output = fetched.toJson.toVec ++ [10] := by
  obtain ⟨sys, task, hrun, htask, hpc, hroom, hinbox, hending, hout⟩ : ∃ sys task,
      run (System.step lineApi) (.start ⟨0⟩ (.boot ⟨901⟩ webWorkloads)) fetches = some sys ∧
        sys.tasks 0 = some task ∧
        task.pc = .writeResponse fetched (fetched.toJson.toVec ++ [10]) ∧ task.room = 100 ∧
        task.inbox = requestLine ∧ task.ending = none ∧ task.output = [] :=
    ⟨_, _, rfl, rfl, rfl, rfl, rfl, rfl, rfl⟩
  have hfits : (fetched.toJson.toVec ++ [10]).length ≤ task.room := by
    rw [hroom]
    decide +kernel
  have hrun' := System.run_concat_of_goes granted hrun htask (by simp [hpc, Pc.guards])
    (.writeResponse hpc hfits rfl)
  exact ⟨_, _, hrun', System.advance_tasks_self _ _ _ _, hinbox, hending, rfl,
    by rw [hout, List.nil_append]⟩

/-- What a client reads of a task that has returned. -/
def reads (reply : List UInt8) : Exchange := ⟨.ok (), fun _ => .ok (), reply⟩

/-- The client reads room for the response of a task, and the task writes it. -/
theorem exists_run_written {as : List (Action ℕ)} {sys : System} {task : Task} {id : ℕ}
    {resp : WorkloadResponse} {bytes : List UInt8}
    (hrun : run (System.step lineApi) (.start ⟨0⟩ (.boot ⟨901⟩ webWorkloads)) as = some sys)
    (htask : sys.tasks id = some task) (hpc : task.pc = .writeResponse resp bytes) :
    ∃ sys' task', run (System.step lineApi) (.start ⟨0⟩ (.boot ⟨901⟩ webWorkloads))
        (as ++ [.clientReads id bytes.length] ++ [.run id answering]) = some sys' ∧
      sys'.tasks id = some task' ∧ task'.output = bytes := by
  have hempty : task.output = [] :=
    (System.wrote_of_run (fun _ => rfl) hrun htask).silent fun result h => by
      rw [hpc] at h
      cases h
  have hrun' := (run_concat_eq_some_iff _ _ _ _).mpr
    ⟨sys, hrun, (System.step_clientReads_eq_some_iff id bytes.length).mpr ⟨task, htask, rfl⟩⟩
  have hwritten := System.run_concat_of_goes answering hrun' (System.setTask_tasks_self _ _ _)
    (by simp [hpc, Pc.guards]) (.writeResponse hpc (Nat.le_add_left _ _) rfl)
  exact ⟨_, _, hwritten, System.advance_tasks_self _ _ _ _, by rw [hempty, List.nil_append]⟩

/-- In a run in which the host answers, the loop of a client of the user `www` comes to hold
credentials of the workload `web`. -/
theorem exists_run_loop {certPem caCertPem : String}
    (h : answering.recv webRequest = .ok (.certOk certPem caCertPem)) :
    ∃ as sys reply,
      run (System.step lineApi) (.start ⟨0⟩ (.boot ⟨901⟩ webWorkloads)) as = some sys ∧
      (∀ id env, .run id env ∈ as → env = answering) ∧ (∀ nanos, .tick nanos ∉ as) ∧
      sys.Delivers 0 (reads reply) ∧
      (WorkloadClient.mk "/run/wl.sock").startRotationLoop Json.readStrings [reads reply] =
        some ⟨certPem, lib.serializePem 7, caCertPem⟩ := by
  obtain ⟨sys₀, task₀, hrun₀, htask₀, hpc⟩ := exists_run_answering h
  obtain ⟨sys, task, hrun, htask, hout⟩ := exists_run_written hrun₀ htask₀ hpc
  refine ⟨_, sys, task.output, hrun, fun id env hmem => ?_, by simp [requests],
    ⟨task, htask, List.prefix_refl _, by simp [reads, hout]⟩, ?_⟩
  · rcases List.mem_append.mp hmem with hmem | hlast
    · rcases List.mem_append.mp hmem with hmem | hreads
      · exact env_eq_answering hmem
      · cases List.mem_singleton.mp hreads
    · cases List.mem_singleton.mp hlast
      rfl
  · have hfetch : (WorkloadClient.mk "/run/wl.sock").fetchCredentials Json.readStrings
        (reads task.output) = _ :=
      WorkloadClient.fetchCredentials_of_response Json.readsStrings_readStrings rfl rfl hout
    show rotate _ none _ = _
    rw [rotate, hfetch]
    rfl

end Symbolic

/-- A process of the user `www` fetches its credentials. -/
theorem fetches_of_run_web :
    ∃ name, System.Fetched Symbolic.lineApi (.start ⟨0⟩ (.boot ⟨901⟩ Symbolic.webWorkloads))
      (Symbolic.fetches ++ [.run 0 Symbolic.granted]) 0 name
      (.ok ⟨"cert", Symbolic.lib.serializePem 7, "ca"⟩) := by
  obtain ⟨sys, task, hrun, htask, hinbox, hending, hpc, hout⟩ := Symbolic.exists_run_fetches
  obtain ⟨matched, fetched, -, hfetched, hclients⟩ := fetches_of_run (fun _ => rfl) (by rfl)
    Json.readsStrings_readStrings Json.readsStrings_readStrings ⟨"/run/wl.sock"⟩
    ⟨"/run/wl.sock"⟩ ⟨0⟩ _ hrun htask hpc hending hinbox rfl rfl
    (rfl : (Symbolic.reads task.output).reply = task.output)
  have hfetch : (WorkloadClient.mk "/run/wl.sock").fetchCredentials Json.readStrings
      (Symbolic.reads task.output) = .ok ⟨"cert", Symbolic.lib.serializePem 7, "ca"⟩ := by
    rw [WorkloadClient.fetchCredentials_of_response Json.readsStrings_readStrings rfl rfl hout]
    rfl
  -- the client has got them, so they are those of the call
  obtain ⟨-, hmatched, hcreds⟩ := (hclients _).1.mp hfetch
  obtain ⟨name, hname⟩ := Option.isSome_iff_exists.mp hmatched
  rw [hcreds] at hfetched
  exact ⟨name, hfetched name hname⟩

end AuthnScope
