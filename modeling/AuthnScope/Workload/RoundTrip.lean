import AuthnScope.Agent.Answers
import AuthnScope.Proto.JsonText
import AuthnScope.Workload.Client

/-!
# From the Workload API to the client

The agent derives the encoding of a response (`WorkloadResponse.toJson`), the client the decoding
(`WorkloadResponse.fromJson`), each from an enum of its own. Between them a response is one line of
a stream. The names of the tags and of the fields agree, and the only newline is the one that ends
the line, so the client gets the strings that the agent has sent, whatever they contain.

## Main results

* `fromJson_toJson`: the decoding undoes the encoding;
* `newline_not_mem_toVec`: a response is one line;
* `workloadApi_roundTrip`: what the client makes of what the agent writes.
-/

namespace AuthnScope

open Outcome

namespace WorkloadResponse

/-- A response is an object of strings. -/
theorem exists_toJson_eq_ofStrings (resp : WorkloadResponse) :
    ∃ fields : List (String × String), (fields.map Prod.fst).Nodup ∧
      resp.toJson = .ofStrings fields := by
  cases resp with
  | success certPem keyPem caCertPem =>
    exact ⟨[("status", "success"), ("cert_pem", certPem), ("key_pem", keyPem),
      ("ca_cert_pem", caCertPem)], by simp, rfl⟩
  | error message => exact ⟨[("status", "error"), ("message", message)], by simp, rfl⟩

/-- A response is one line. -/
theorem newline_not_mem_toVec (resp : WorkloadResponse) : 10 ∉ resp.toJson.toVec := by
  obtain ⟨fields, -, hfields⟩ := resp.exists_toJson_eq_ofStrings
  rw [hfields]
  exact Json.newline_not_mem_toVec_ofStrings fields

/-- The decoding undoes the encoding. -/
theorem fromJson_toJson (resp : WorkloadResponse) : fromJson resp.toJson = .ok resp := by
  cases resp <;> rfl

end WorkloadResponse

/-- What a fetch gives for a response. -/
def WorkloadResponse.credentials : WorkloadResponse → Except String X509Credentials
  | .success certPem keyPem caCertPem => .ok ⟨certPem, keyPem, caCertPem⟩
  | .error message => .error s!"Workload API returned error: {message}"

/-- A line without another newline is what the client reads. -/
theorem receivedLine_append_newline {body : List UInt8} (h : 10 ∉ body) :
    receivedLine (body ++ [10]) = body ++ [10] := by
  have hbody : ∀ b ∈ body, decide (b ≠ 10) = true := by
    intro b hb
    exact decide_eq_true fun hnewline => h (hnewline ▸ hb)
  rw [receivedLine, if_pos (by simp), List.takeWhile_append_of_pos hbody]
  simp

namespace WorkloadClient

variable {client : WorkloadClient} {fromStr : List UInt8 → Except String Json} {ex : Exchange}

/-- What the client makes of the line of a response. -/
theorem fetchCredentials_of_response (hread : Json.ReadsStrings fromStr)
    (hconnect : ex.connect = .ok ()) (hwrite : ex.write requestLine = .ok ())
    {resp : WorkloadResponse} (hreply : ex.reply = resp.toJson.toVec ++ [10]) :
    client.fetchCredentials fromStr ex = resp.credentials := by
  -- the client reads the whole line, as text, and as the object that was written
  have hline : receivedLine ex.reply = resp.toJson.toVec ++ [10] := by
    rw [hreply, receivedLine_append_newline resp.newline_not_mem_toVec]
  have htext : isText (resp.toJson.toVec ++ [10]) = true := by
    rw [isText, Json.fromUTF8?_toVec]
    rfl
  have hjson : fromStr (resp.toJson.toVec ++ [10]) = .ok resp.toJson := by
    obtain ⟨fields, hnodup, hfields⟩ := resp.exists_toJson_eq_ofStrings
    rw [hfields]
    exact hread fields hnodup
  have hne : (resp.toJson.toVec ++ [10]).isEmpty = false := by simp
  rw [fetchCredentials, hconnect, hwrite]
  simp only [withContext_ok, except_ok_bind, hline, htext, hne, hjson,
    WorkloadResponse.fromJson_toJson, Bool.not_true, Bool.false_eq_true, if_false]
  -- the response that is decoded is the one that was encoded, whichever it is
  cases resp <;> rfl

end WorkloadClient

section

variable {KeyPair PublicKey : Type} {api : WorkloadApi KeyPair PublicKey}
  {fromStr : List UInt8 → Except String Json}

/-- What the client makes of what the agent writes. On a request for credentials the agent writes
one line, and the client reads the same three strings from it; an error is read as an error with the
same message. -/
theorem workloadApi_roundTrip
    (hwrite : ∀ resp, api.respSerde.toVec resp = .ok resp.toJson.toVec)
    (hread : Json.ReadsStrings fromStr) (client : WorkloadClient) :
    (∀ (proc : Process) (name : String) (line : List UInt8) (creds : X509Credentials),
      api.AsksFor line → line ≠ [] →
        ∃ body, api.handleWorkloadConn (.ok proc) (some name) line (.ok creds) [] =
            .ok () (body ++ [10]) ∧
          10 ∉ body ∧
          ∀ ex : Exchange, ex.connect = .ok () → ex.write requestLine = .ok () →
            ex.reply = body ++ [10] → client.fetchCredentials fromStr ex = .ok creds) ∧
    ∀ message : String, ∃ body, api.reply (.error message) [] = .ok () (body ++ [10]) ∧
      10 ∉ body ∧
      ∀ ex : Exchange, ex.connect = .ok () → ex.write requestLine = .ok () →
        ex.reply = body ++ [10] →
          client.fetchCredentials fromStr ex =
            .error s!"Workload API returned error: {message}" := by
  constructor
  · intro proc name line creds hasks hline
    -- the answer is the credentials of the call, which the client gets back
    refine ⟨_, ?_, WorkloadResponse.newline_not_mem_toVec
      (.success creds.certPem creds.keyPem creds.caCertPem), fun ex hconnect hrequest hreply => ?_⟩
    · rw [WorkloadApi.handleWorkloadConn_fetch hasks hline, liftResult_ok_bind,
        WorkloadApi.reply_run (hwrite _), List.nil_append]
    · exact WorkloadClient.fetchCredentials_of_response hread hconnect hrequest hreply
  · intro message
    refine ⟨_, ?_, WorkloadResponse.newline_not_mem_toVec (.error message),
      fun ex hconnect hrequest hreply => ?_⟩
    · rw [WorkloadApi.reply_run (hwrite _), List.nil_append]
    · exact WorkloadClient.fetchCredentials_of_response hread hconnect hrequest hreply

/-- Texts with newlines, quotes and characters outside ASCII. -/
theorem workloadApi_roundTrip_pem :
    ∃ body, Symbolic.lineApi.handleWorkloadConn (.ok Symbolic.web) (some "web") Symbolic.fetchLine
        (.ok ⟨"-----BEGIN CERTIFICATE-----\nAQ==\n", "\"key\"\\\r\n\t", "ça\x00"⟩) [] =
          .ok () (body ++ [10]) ∧
      10 ∉ body ∧
      (WorkloadClient.mk "/run/wl.sock").fetchCredentials Json.readStrings
          ⟨.ok (), fun _ => .ok (), body ++ [10]⟩ =
        .ok ⟨"-----BEGIN CERTIFICATE-----\nAQ==\n", "\"key\"\\\r\n\t", "ça\x00"⟩ := by
  have hwrite : ∀ resp, Symbolic.lineApi.respSerde.toVec resp = .ok resp.toJson.toVec := by
    intro resp
    rfl
  obtain ⟨body, hrun, hbody, hfetch⟩ :=
    (workloadApi_roundTrip hwrite Json.readsStrings_readStrings ⟨"/run/wl.sock"⟩).1
      Symbolic.web "web" Symbolic.fetchLine
        ⟨"-----BEGIN CERTIFICATE-----\nAQ==\n", "\"key\"\\\r\n\t", "ça\x00"⟩
        ⟨by decide +kernel, ⟨"fetch"⟩, by rfl, rfl⟩ (by decide +kernel)
  exact ⟨body, hrun, hbody, hfetch _ rfl rfl rfl⟩

end

end AuthnScope
