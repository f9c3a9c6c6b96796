import AuthnScope.Agent.WorkloadApi
import AuthnScope.Proto.Decode

/-!
# The workload client

`WorkloadClient` of `authn-scope-workload/src/lib.rs`: a fetch connects to the Workload API, sends
one request and reads one line, and the rotation loop fetches again and again and keeps the last
credentials it got.

The agent's side of a fetch is an `Exchange`. The client's `X509Credentials`, `WorkloadRequest` and
`WorkloadResponse` are those of the agent; the JSON reader of the client is a parameter.

## Main definitions

* `WorkloadResponse.fromJson`: the derived decoding;
* `WorkloadClient.fetchCredentials`, `WorkloadClient.startRotationLoop`: the code;
* `Json.DistinctKeys`: an object in which a key has one value;
* `Json.Carries`, `Json.Lists`: an object and an array of a successful response.

## Main results

* `fromJson_eq_success_iff`: the objects and the arrays that are read as a successful response;
* `fetchCredentials_eq_ok_iff`: the replies that give credentials;
* `rotationLoop_congr`, `rotationLoop_ne`: two loops hold the same credentials as long as their
  fetches agree.
-/

namespace AuthnScope

open Outcome

/-- A connection to the Workload API: whether it is accepted, whether it takes the bytes of a
request, and the bytes that the agent writes before it closes it. -/
structure Exchange where
  connect : Except String Unit
  write : List UInt8 → Except String Unit
  reply : List UInt8

/-- The line of the request. -/
def requestLine : List UInt8 := (WorkloadRequest.mk "fetch").toJson.toVec ++ [10]

/-- The bytes are UTF-8. -/
def isText (line : List UInt8) : Bool := (String.fromUTF8? ⟨line.toArray⟩).isSome

/-- The first line of what is read up to the end of the stream: it ends with the first newline,
if there is one. -/
def receivedLine (reply : List UInt8) : List UInt8 :=
  if 10 ∈ reply then reply.takeWhile (· ≠ 10) ++ [10] else reply

/-- The decoding derived for `WorkloadResponse`. -/
def WorkloadResponse.fromJson (json : Json) : Except String WorkloadResponse := do
  let (tag, content) ← json.asTagged "internally tagged enum WorkloadResponse" "status"
  match tag with
  | "success" =>
    let fields ← content.asFields "struct variant WorkloadResponse::Success"
      [("cert_pem", false), ("key_pem", false), ("ca_cert_pem", false)]
    return .success
      (← Json.required fields "cert_pem" Json.asString)
      (← Json.required fields "key_pem" Json.asString)
      (← Json.required fields "ca_cert_pem" Json.asString)
  | "error" =>
    let fields ← content.asFields "struct variant WorkloadResponse::Error" [("message", false)]
    return .error (← Json.required fields "message" Json.asString)
  | tag => .error s!"unknown variant `{tag}`, expected `success` or `error`"

/-- One iteration of a rotation loop: credentials that were fetched replace the cached ones, and a
failure leaves these as they are. -/
def rotate (fetch : Exchange → Except String X509Credentials) (cached : Option X509Credentials)
    (ex : Exchange) : Option X509Credentials :=
  match fetch ex with
  | .ok creds => some creds
  | .error _ => cached

/-- The cached credentials of a rotation loop, after an iteration for each connection. -/
def rotationLoop (fetch : Exchange → Except String X509Credentials) (exs : List Exchange) :
    Option X509Credentials :=
  exs.foldl (rotate fetch) none

/-- The client of a socket. -/
structure WorkloadClient where
  socketPath : String

namespace WorkloadClient

variable (client : WorkloadClient) (fromStr : List UInt8 → Except String Json)

/-- Perform a one-shot fetch of X.509 credentials. -/
def fetchCredentials (ex : Exchange) : Except String X509Credentials := do
  withContext s!"Failed to connect to Workload API socket at {client.socketPath}" ex.connect
  ex.write requestLine
  let line := receivedLine ex.reply
  if !isText line then .error "stream did not contain valid UTF-8"
  else if line.isEmpty then
    .error "Workload API closed connection without sending a response"
  else
    let resp ← withContext "Parsing WorkloadResponse"
      (fromStr line >>= WorkloadResponse.fromJson)
    match resp with
    | .success certPem keyPem caCertPem => .ok ⟨certPem, keyPem, caCertPem⟩
    | .error message => .error s!"Workload API returned error: {message}"

/-- Periodically fetch credentials to keep the cached ones updated. -/
def startRotationLoop (exs : List Exchange) : Option X509Credentials :=
  rotationLoop (client.fetchCredentials fromStr) exs

end WorkloadClient

namespace Json

/-- No key of the object comes twice. -/
def DistinctKeys : Json → Prop
  | .obj fields => (fields.map Prod.fst).Nodup
  | _ => True

/-- The object of a successful response with these credentials, and maybe with more fields. -/
def Carries (json : Json) (creds : X509Credentials) : Prop :=
  ∃ fields, json = .obj fields ∧ ("status", .str "success") ∈ fields ∧
    ("cert_pem", .str creds.certPem) ∈ fields ∧ ("key_pem", .str creds.keyPem) ∈ fields ∧
    ("ca_cert_pem", .str creds.caCertPem) ∈ fields

/-- The array of a successful response with these credentials. -/
def Lists (json : Json) (creds : X509Credentials) : Prop :=
  json = .arr [.str "success", .str creds.certPem, .str creds.keyPem, .str creds.caCertPem]

/-! ## Reading a response -/

/-- A field with a string is read when the key is there, once, and its value is a string. -/
theorem required_asString_eq_ok_iff {fields : List (String × Json)}
    (hnodup : (fields.map Prod.fst).Nodup) (key s : String) :
    required fields key asString = .ok s ↔ (key, .str s) ∈ fields := by
  have hmem : (key, Json.str s) ∈ fields ↔
      (key, Json.str s) ∈ fields.filter fun entry => entry.1 = key := by
    simp [List.mem_filter]
  have hkeys : ∀ entry ∈ fields.filter fun entry => entry.1 = key, entry.1 = key := by
    intro entry hentry
    simpa using (List.mem_filter.mp hentry).2
  have hsub := hnodup.sublist (List.filter_sublist (p := fun entry => entry.1 = key).map Prod.fst)
  rw [required, field]
  -- there is no entry with the key, or one: two would have the same key
  generalize fields.filter (fun entry => entry.1 = key) = entries at hmem hkeys hsub ⊢
  rw [hmem]
  rcases entries with _ | ⟨⟨key', value⟩, _ | ⟨⟨key'', v⟩, rest⟩⟩
  · simp
  · obtain rfl : key' = key := hkeys _ (List.mem_singleton_self _)
    show value.asString = .ok s ↔ _
    rw [asString_eq_ok_iff]
    simp [eq_comm]
  · obtain rfl : key' = key := hkeys _ List.mem_cons_self
    obtain rfl : key'' = key' := hkeys _ (List.mem_cons_of_mem _ List.mem_cons_self)
    simp at hsub

end Json

namespace WorkloadResponse

/-- A successful response is read from the tag and the three fields after it. -/
theorem fromJson_eq_success_iff_fields {json : Json} (creds : X509Credentials) :
    fromJson json = .ok (.success creds.certPem creds.keyPem creds.caCertPem) ↔
      ∃ content fields, json.asTagged "internally tagged enum WorkloadResponse" "status" =
          .ok ("success", content) ∧
        content.Offers [("cert_pem", false), ("key_pem", false), ("ca_cert_pem", false)] fields ∧
        Json.required fields "cert_pem" Json.asString = .ok creds.certPem ∧
        Json.required fields "key_pem" Json.asString = .ok creds.keyPem ∧
        Json.required fields "ca_cert_pem" Json.asString = .ok creds.caCertPem := by
  simp only [fromJson, except_bind_eq_ok_iff, Prod.exists]
  constructor
  · rintro ⟨tag, content, htag, h⟩
    split at h
    · simp only [except_bind_eq_ok_iff, Json.asFields_eq_ok_iff] at h
      obtain ⟨fields, hfields, certPem, hcert, keyPem, hkey, caCertPem, hca, h⟩ := h
      cases h
      exact ⟨content, fields, htag, hfields, hcert, hkey, hca⟩
    · simp [except_bind_eq_ok_iff, pure, Except.pure] at h
    · cases h
  · rintro ⟨content, fields, htag, hfields, hcert, hkey, hca⟩
    refine ⟨"success", content, htag, ?_⟩
    simp only [except_bind_eq_ok_iff, Json.asFields_eq_ok_iff]
    exact ⟨fields, hfields, _, hcert, _, hkey, _, hca, rfl⟩

/-- The objects and the arrays that are read as a successful response. -/
theorem fromJson_eq_success_iff {json : Json} (hkeys : json.DistinctKeys)
    (creds : X509Credentials) :
    fromJson json = .ok (.success creds.certPem creds.keyPem creds.caCertPem) ↔
      json.Carries creds ∨ json.Lists creds := by
  simp only [fromJson_eq_success_iff_fields, Json.asTagged_eq_ok_iff]
  constructor
  · rintro ⟨content, fields, ⟨fields', rfl, rfl, hstatus⟩ | ⟨items, rfl, rfl⟩, hfields, hread⟩
    · obtain ⟨⟨⟩⟩ | ⟨items, ⟨⟩, -⟩ := hfields
      simp only [Json.required_asString_eq_ok_iff hkeys] at hstatus hread
      exact .inl ⟨fields, rfl, hstatus, hread⟩
    · obtain ⟨⟨⟩⟩ | ⟨_, ⟨⟩, hle, hdrop, rfl⟩ := hfields
      right
      -- no field has a default, so the array has as many values as there are fields
      rcases items with _ | ⟨cert, _ | ⟨key, _ | ⟨ca, _ | ⟨item, items⟩⟩⟩⟩
      case cons.cons.cons.nil =>
        obtain ⟨hcert, hkey, hca⟩ := hread
        rw [Json.Lists, (Json.asString_eq_ok_iff _).mp hcert, (Json.asString_eq_ok_iff _).mp hkey,
          (Json.asString_eq_ok_iff _).mp hca]
      case cons.cons.cons.cons =>
        simp only [List.length_cons, List.length_nil] at hle
        omega
      all_goals simp at hdrop
  · rintro (⟨fields, rfl, hstatus, hread⟩ | rfl)
    · refine ⟨.obj fields, fields, .inl ⟨fields, rfl, rfl, ?_⟩, .inl rfl, ?_⟩
      · exact (Json.required_asString_eq_ok_iff hkeys _ _).mpr hstatus
      · simpa only [Json.required_asString_eq_ok_iff hkeys] using hread
    · exact ⟨_, _, .inr ⟨_, rfl, rfl⟩, .inr ⟨_, rfl, by simp, by simp, rfl⟩, rfl, rfl, rfl⟩

end WorkloadResponse

/-! ## Fetching -/

namespace WorkloadClient

variable {client : WorkloadClient} {fromStr : List UInt8 → Except String Json} {ex : Exchange}

/-- A fetch gives credentials when the agent takes the request and answers with a line of text that
is a successful response. -/
theorem fetchCredentials_eq_ok_iff (creds : X509Credentials) :
    client.fetchCredentials fromStr ex = .ok creds ↔
      ex.connect = .ok () ∧ ex.write requestLine = .ok () ∧
        isText (receivedLine ex.reply) ∧ receivedLine ex.reply ≠ [] ∧
        ∃ json, fromStr (receivedLine ex.reply) = .ok json ∧ WorkloadResponse.fromJson json =
          .ok (.success creds.certPem creds.keyPem creds.caCertPem) := by
  simp only [fetchCredentials, withContext, except_bind_eq_ok_iff, except_mapError_eq_ok_iff]
  constructor
  · rintro ⟨⟨⟩, hconnect, ⟨⟩, hwrite, h⟩
    split at h
    · cases h
    split at h
    · cases h
    rename_i htext hline
    simp only [except_bind_eq_ok_iff, except_mapError_eq_ok_iff] at h
    obtain ⟨resp, ⟨json, hjson, hresp⟩, h⟩ := h
    cases resp with
    | error message => cases h
    | success certPem keyPem caCertPem =>
      cases h
      exact ⟨hconnect, hwrite, by simpa using htext, by simpa using hline, json, hjson, hresp⟩
  · rintro ⟨hconnect, hwrite, htext, hline, json, hjson, hresp⟩
    refine ⟨(), hconnect, (), hwrite, ?_⟩
    rw [if_neg (by simp [htext]), if_neg (by simpa using hline)]
    simp [hjson, hresp, Except.mapError]

end WorkloadClient

/-! ## The rotation loop -/

section

variable {fetch fetch' : Exchange → Except String X509Credentials}

theorem rotate_eq_or (cached : Option X509Credentials) (ex : Exchange) :
    rotate fetch cached ex = (fetch ex).toOption.or cached := by
  unfold rotate
  cases fetch ex <;> rfl

/-- Loops whose fetches agree on every connection hold the same credentials after every
iteration. -/
theorem rotationLoop_congr {exs : List Exchange}
    (h : ∀ ex ∈ exs, (fetch ex).toOption = (fetch' ex).toOption) :
    rotationLoop fetch exs = rotationLoop fetch' exs := by
  unfold rotationLoop
  generalize (none : Option X509Credentials) = cached
  induction exs generalizing cached with
  | nil => rfl
  | cons ex exs ih =>
    have hstep : rotate fetch cached ex = rotate fetch' cached ex := by
      rw [rotate_eq_or, rotate_eq_or, h ex List.mem_cons_self]
    rw [List.foldl_cons, List.foldl_cons, hstep]
    exact ih (fun ex' hex' => h ex' (List.mem_cons_of_mem ex hex')) _

/-- Two loops hold the same credentials in all runs over some connections exactly when their fetches
agree on each of them. -/
theorem rotationLoop_eq_iff (P : Set Exchange) :
    (∀ exs : List Exchange, (∀ ex ∈ exs, ex ∈ P) →
      rotationLoop fetch exs = rotationLoop fetch' exs) ↔
      ∀ ex ∈ P, (fetch ex).toOption = (fetch' ex).toOption := by
  constructor
  · intro h ex hex
    -- the first iteration leaves what its fetch has returned
    have hfirst : ∀ fetch, rotationLoop fetch [ex] = (fetch ex).toOption := by
      intro fetch
      show rotate fetch none ex = _
      rw [rotate_eq_or, Option.or_none]
    rw [← hfirst, ← hfirst]
    apply h
    simpa using hex
  · intro h exs hexs
    exact rotationLoop_congr fun ex hex => h ex (hexs ex hex)

end

end AuthnScope
