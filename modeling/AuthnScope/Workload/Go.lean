import AuthnScope.Workload.Client

/-!
# The workload client in Go

`FetchCredentials` and `StartRotationLoop` of `authn-scope-workload/workload.go`, beside the client
in Rust. `ReadBytes` wants the newline of the line, and the fields of the response are strings that
stay empty when they are missing.

`json.Unmarshal` is written out from a JSON value on, as documented: it finds the field of a key
whatever its case, takes the last value of a key that comes twice, and leaves a field alone that is
`null`. The reader of JSON text is a parameter.

## Main definitions

* `GoResponse.unmarshal`: a response from a JSON value;
* `GoWorkloadClient.fetchCredentials`, `GoWorkloadClient.startRotationLoop`: the code;
* `Json.Plain`: an object in which the clients in both languages find the same fields;
* `Exchange.Alike`: when the two clients get the same from a connection.

## Main results

* `unmarshal_eq_ok_iff`: the objects with the fields of a successful response;
* `fetchCredentials_agree_iff`: when one fetch agrees;
* `workload_clients_agree_iff`: when the clients and their rotation loops agree.
-/

namespace AuthnScope

open Outcome

/-- The fields of `workloadResponse`. -/
inductive GoField where
  | status
  | certPem
  | keyPem
  | caCertPem
  | message
  deriving DecidableEq, Repr

/-- The name of a field in JSON. -/
def GoField.name : GoField → String
  | .status => "status"
  | .certPem => "cert_pem"
  | .keyPem => "key_pem"
  | .caCertPem => "ca_cert_pem"
  | .message => "message"

/-- The fields in their order. -/
def GoField.all : List GoField := [.status, .certPem, .keyPem, .caCertPem, .message]

/-- `workloadResponse`; `{}` has empty fields. -/
structure GoResponse where
  status : String := ""
  certPem : String := ""
  keyPem : String := ""
  caCertPem : String := ""
  message : String := ""
  deriving DecidableEq, Repr

namespace GoResponse

/-- The value of a field. -/
def get (resp : GoResponse) : GoField → String
  | .status => resp.status
  | .certPem => resp.certPem
  | .keyPem => resp.keyPem
  | .caCertPem => resp.caCertPem
  | .message => resp.message

/-- Assign to a field. -/
def set (resp : GoResponse) (field : GoField) (s : String) : GoResponse :=
  match field with
  | .status => { resp with status := s }
  | .certPem => { resp with certPem := s }
  | .keyPem => { resp with keyPem := s }
  | .caCertPem => { resp with caCertPem := s }
  | .message => { resp with message := s }

@[simp]
theorem get_set (resp : GoResponse) (field field' : GoField) (s : String) :
    (resp.set field s).get field' = if field' = field then s else resp.get field' := by
  cases field <;> cases field' <;> rfl

end GoResponse

/-- Drop the case of a letter of ASCII, or of one of the two others that Go takes for such a letter:
the long s and the Kelvin sign. -/
def foldRune (c : Char) : Char :=
  if c = '\u017f' then 'S' else if c = '\u212a' then 'K' else c.toUpper

/-- A key without regard to case. -/
def foldName (key : String) : String := .ofList (key.toList.map foldRune)

/-- The field that a key is for. -/
def GoField.ofKey (key : String) : Option GoField :=
  GoField.all.find? fun field => foldName key = foldName field.name

namespace Json

/-- What Go calls a value of the wrong type. -/
def goKind : Json → String
  | .null => "null"
  | .bool _ => "bool"
  | .num _ | .dec _ => "number"
  | .str _ => "string"
  | .arr _ => "array"
  | .obj _ => "object"

end Json

namespace GoResponse

/-- Decode one entry of an object. -/
def unmarshalEntry (resp : GoResponse) (entry : String × Json) : Except String GoResponse :=
  match GoField.ofKey entry.1 with
  | none => .ok resp
  | some field =>
    match entry.2 with
    | .null => .ok resp
    | .str s => .ok (resp.set field s)
    | json =>
      .error (s!"json: cannot unmarshal {json.goKind} into Go struct field " ++
        s!"workloadResponse.{field.name} of type string")

/-- `json.Unmarshal` into an empty `workloadResponse`, from the JSON value of the text. -/
def unmarshal : Json → Except String GoResponse
  | .null => .ok {}
  | .obj fields => fields.foldlM unmarshalEntry {}
  | json =>
    .error s!"json: cannot unmarshal {json.goKind} into Go value of type workload.workloadResponse"

end GoResponse

/-- The client in Go. -/
structure GoWorkloadClient where
  socketPath : String

namespace GoWorkloadClient

variable (client : GoWorkloadClient) (parse : List UInt8 → Except String Json)

/-- Perform a synchronous fetch of the credentials. -/
def fetchCredentials (ex : Exchange) : Except String X509Credentials := do
  ex.connect.mapError fun e =>
    s!"failed to connect to Workload API socket at {client.socketPath}: {e}"
  (ex.write requestLine).mapError fun e => s!"failed to write request: {e}"
  -- `ReadBytes` returns an error when the stream ends before the newline
  if 10 ∉ ex.reply then .error "failed to read response line: EOF"
  else
    let resp ← (parse (receivedLine ex.reply) >>= GoResponse.unmarshal).mapError fun e =>
      s!"failed to parse response JSON: {e}"
    if resp.status ≠ "success" then .error s!"workload API returned error: {resp.message}"
    else if resp.certPem = "" ∨ resp.keyPem = "" ∨ resp.caCertPem = "" then
      .error "workload API returned incomplete credentials"
    else .ok ⟨resp.certPem, resp.keyPem, resp.caCertPem⟩

/-- Renew the credentials in the background. -/
def startRotationLoop (exs : List Exchange) : Option X509Credentials :=
  rotationLoop (client.fetchCredentials parse) exs

end GoWorkloadClient

/-- No field of the credentials is empty. -/
def X509Credentials.Complete (creds : X509Credentials) : Prop :=
  creds.certPem ≠ "" ∧ creds.keyPem ≠ "" ∧ creds.caCertPem ≠ ""

/-- An object of strings with distinct keys, of which none differs in case alone from the name of a
field; or no object. -/
def Json.Plain : Json → Prop
  | .obj fields => (fields.map Prod.fst).Nodup ∧ ∀ entry ∈ fields,
      (∃ s, entry.2 = .str s) ∧ ∀ field ∈ GoField.ofKey entry.1, entry.1 = field.name
  | _ => True

/-- The readers of JSON text agree on text. -/
def ReadersAgree (fromStr parse : List UInt8 → Except String Json) : Prop :=
  ∀ line, isText line → (fromStr line).toOption = (parse line).toOption

/-- Whenever the line that was received is an object that carries credentials, it is text exactly
when it has its newline and no field of the credentials is empty; and when it is an array of
credentials, it is no text. -/
def Exchange.Alike (parse : List UInt8 → Except String Json) (ex : Exchange) : Prop :=
  ex.connect = .ok () → ex.write requestLine = .ok () → ex.reply ≠ [] →
    ∀ json creds, parse (receivedLine ex.reply) = .ok json →
      (json.Carries creds → (isText (receivedLine ex.reply) ↔ 10 ∈ ex.reply ∧ creds.Complete)) ∧
        (json.Lists creds → ¬isText (receivedLine ex.reply))

theorem Json.Plain.distinctKeys {json : Json} (h : json.Plain) : json.DistinctKeys := by
  cases json with
  | obj fields => exact h.1
  | _ => trivial

/-! ## Reading a response -/

/-- The name of a field is the key of it. -/
theorem GoField.ofKey_name (field : GoField) : GoField.ofKey field.name = some field := by
  cases field <;> decide +kernel

namespace GoResponse

/-- An entry of a plain object sets the field of which it has the name, and no other. -/
theorem unmarshalEntry_eq_ok {entry : String × Json} {s : String} (hstr : entry.2 = .str s)
    (hname : ∀ field ∈ GoField.ofKey entry.1, entry.1 = field.name) (resp : GoResponse) :
    ∃ resp', resp.unmarshalEntry entry = .ok resp' ∧
      ∀ field : GoField, resp'.get field = if entry.1 = field.name then s else resp.get field := by
  unfold unmarshalEntry
  cases hfield : GoField.ofKey entry.1 with
  | none =>
    refine ⟨resp, rfl, fun field => ?_⟩
    -- the key is for no field, so it is not the name of one
    have hne : entry.1 ≠ field.name := by
      intro heq
      rw [heq, GoField.ofKey_name] at hfield
      cases hfield
    rw [if_neg hne]
  | some field =>
    refine ⟨resp.set field s, by simp [hstr], fun field' => ?_⟩
    have hkey : entry.1 = field.name := hname field hfield
    have hiff : field' = field ↔ entry.1 = field'.name := by
      constructor
      · rintro rfl
        exact hkey
      · intro heq
        rw [heq, GoField.ofKey_name, Option.some.injEq] at hfield
        exact hfield
    simp only [get_set, hiff]

/-- Of a plain object, each field gets the string that is there under its name, or stays. -/
theorem foldlM_unmarshalEntry {fields : List (String × Json)} (hplain : (Json.obj fields).Plain)
    (resp : GoResponse) :
    ∃ resp', fields.foldlM unmarshalEntry resp = .ok resp' ∧
      ∀ (field : GoField) (s : String), resp'.get field = s ↔ (field.name, .str s) ∈ fields ∨
        ((∀ s', (field.name, .str s') ∉ fields) ∧ resp.get field = s) := by
  -- induction on the entries, each of which has set its field before the rest is read
  induction fields generalizing resp with
  | nil => exact ⟨resp, rfl, by simp⟩
  | cons entry rest ih =>
    obtain ⟨hnodup, hentries⟩ := hplain
    obtain ⟨⟨s₀, hstr⟩, hname⟩ := hentries entry List.mem_cons_self
    rw [List.map_cons, List.nodup_cons] at hnodup
    obtain ⟨resp₁, hresp₁, hget₁⟩ := unmarshalEntry_eq_ok hstr hname resp
    obtain ⟨resp', hresp', hget'⟩ :=
      ih ⟨hnodup.2, fun e he => hentries e (List.mem_cons_of_mem _ he)⟩ resp₁
    refine ⟨resp', by rw [List.foldlM_cons, hresp₁]; exact hresp', fun field s => ?_⟩
    rw [hget', hget₁]
    obtain ⟨key, value⟩ := entry
    simp only at hstr hnodup
    subst hstr
    by_cases hkey : key = field.name
    · -- the name does not come again
      subst hkey
      have hrest : ∀ s', (field.name, Json.str s') ∉ rest := fun s' hmem =>
        hnodup.1 (List.mem_map_of_mem (f := Prod.fst) hmem)
      simp [hrest, eq_comm]
    · simp [hkey, Ne.symm hkey]

/-- A plain value is a response with the fields of a successful one exactly when it carries these
credentials. -/
theorem unmarshal_eq_ok_iff {json : Json} (hplain : json.Plain) {creds : X509Credentials}
    (hcomplete : creds.Complete) :
    (∃ resp, unmarshal json = .ok resp ∧ resp.status = "success" ∧
      resp.certPem = creds.certPem ∧ resp.keyPem = creds.keyPem ∧
      resp.caCertPem = creds.caCertPem) ↔ json.Carries creds := by
  cases json with
  | obj fields =>
    obtain ⟨resp, hresp, hget⟩ := foldlM_unmarshalEntry hplain {}
    -- a string that is not empty comes from the object
    have hfield : ∀ (field : GoField) (s : String), s ≠ "" →
        (resp.get field = s ↔ (field.name, .str s) ∈ fields) := by
      intro field s hs
      have hempty : ({} : GoResponse).get field = "" := by cases field <;> rfl
      rw [hget, hempty, or_iff_left]
      exact fun h => hs h.2.symm
    have hstatus : resp.status = "success" ↔ ("status", Json.str "success") ∈ fields :=
      hfield .status "success" (by decide)
    have hcert : resp.certPem = creds.certPem ↔ ("cert_pem", Json.str creds.certPem) ∈ fields :=
      hfield .certPem creds.certPem hcomplete.1
    have hkey : resp.keyPem = creds.keyPem ↔ ("key_pem", Json.str creds.keyPem) ∈ fields :=
      hfield .keyPem creds.keyPem hcomplete.2.1
    have hca : resp.caCertPem = creds.caCertPem ↔
        ("ca_cert_pem", Json.str creds.caCertPem) ∈ fields :=
      hfield .caCertPem creds.caCertPem hcomplete.2.2
    simp only [unmarshal, hresp, Except.ok.injEq, exists_eq_left', hstatus, hcert, hkey, hca,
      Json.Carries, Json.obj.injEq]
  | _ => simp [unmarshal, Json.Carries]

end GoResponse

/-! ## Agreement -/

section

variable {fromStr parse : List UInt8 → Except String Json} {ex : Exchange}

/-- A fetch gives credentials when the agent takes the request and answers with a line that carries
credentials without an empty field and has its newline. -/
theorem GoWorkloadClient.fetchCredentials_eq_ok_iff {client : GoWorkloadClient}
    (hplain : ∀ json, parse (receivedLine ex.reply) = .ok json → json.Plain)
    (creds : X509Credentials) :
    client.fetchCredentials parse ex = .ok creds ↔
      ex.connect = .ok () ∧ ex.write requestLine = .ok () ∧ 10 ∈ ex.reply ∧ creds.Complete ∧
        ∃ json, parse (receivedLine ex.reply) = .ok json ∧ json.Carries creds := by
  simp only [fetchCredentials, except_bind_eq_ok_iff, except_mapError_eq_ok_iff]
  constructor
  -- the line has its newline, is a response, is successful, and is complete
  · rintro ⟨⟨⟩, hconnect, ⟨⟩, hwrite, h⟩
    split at h
    · cases h
    rename_i hline
    simp only [except_bind_eq_ok_iff, except_mapError_eq_ok_iff] at h
    obtain ⟨resp, ⟨json, hjson, hresp⟩, h⟩ := h
    split at h
    · cases h
    split at h
    · cases h
    rename_i hstatus hcomplete
    cases h
    replace hcomplete :
        X509Credentials.Complete ⟨resp.certPem, resp.keyPem, resp.caCertPem⟩ := by
      simpa [X509Credentials.Complete] using hcomplete
    refine ⟨hconnect, hwrite, not_not.mp hline, hcomplete, json, hjson, ?_⟩
    rw [← GoResponse.unmarshal_eq_ok_iff (hplain json hjson) hcomplete]
    exact ⟨resp, hresp, not_not.mp hstatus, rfl, rfl, rfl⟩
  · rintro ⟨hconnect, hwrite, hline, hcomplete, json, hjson, hcarries⟩
    rw [← GoResponse.unmarshal_eq_ok_iff (hplain json hjson) hcomplete] at hcarries
    obtain ⟨resp, hresp, hstatus, hcert, hkey, hca⟩ := hcarries
    refine ⟨(), hconnect, (), hwrite, ?_⟩
    have hnonempty : ¬(resp.certPem = "" ∨ resp.keyPem = "" ∨ resp.caCertPem = "") := by
      simpa [X509Credentials.Complete, hcert, hkey, hca] using hcomplete
    rw [if_neg (not_not.mpr hline), hjson, except_ok_bind, hresp]
    show (if resp.status ≠ "success" then _ else _) = _
    rw [if_neg (not_not.mpr hstatus), if_neg hnonempty, hcert, hkey, hca]

theorem receivedLine_eq_nil_iff (reply : List UInt8) : receivedLine reply = [] ↔ reply = [] := by
  unfold receivedLine
  split
  · rename_i hmem
    simp [List.ne_nil_of_mem hmem]
  · rfl

/-- The two clients get the same from a connection exactly when the line, if it is an object that
carries credentials, is text with a newline and without an empty field, or neither, and if it is an
array of credentials, is no text. -/
theorem fetchCredentials_agree_iff {client : WorkloadClient} {goClient : GoWorkloadClient}
    (hagree : ReadersAgree fromStr parse)
    (hplain : ∀ json, parse (receivedLine ex.reply) = .ok json → json.Plain) :
    (∀ creds, client.fetchCredentials fromStr ex = .ok creds ↔
      goClient.fetchCredentials parse ex = .ok creds) ↔ ex.Alike parse := by
  -- on text the client in Rust reads what the other one reads
  have hrust : ∀ creds, client.fetchCredentials fromStr ex = .ok creds ↔
      ex.connect = .ok () ∧ ex.write requestLine = .ok () ∧ isText (receivedLine ex.reply) ∧
        ex.reply ≠ [] ∧ ∃ json, parse (receivedLine ex.reply) = .ok json ∧
          (json.Carries creds ∨ json.Lists creds) := by
    intro creds
    rw [WorkloadClient.fetchCredentials_eq_ok_iff]
    refine and_congr_right fun _ => and_congr_right fun _ => and_congr_right fun htext =>
      and_congr (receivedLine_eq_nil_iff _).not (exists_congr fun json => ?_)
    have hjson : fromStr (receivedLine ex.reply) = .ok json ↔
        parse (receivedLine ex.reply) = .ok json := by
      rw [← toOption_eq_some_iff, hagree _ htext, toOption_eq_some_iff]
    rw [hjson]
    exact and_congr_right fun h =>
      WorkloadResponse.fromJson_eq_success_iff (hplain json h).distinctKeys creds
  simp only [hrust, GoWorkloadClient.fetchCredentials_eq_ok_iff hplain]
  constructor
  · intro h hconnect hwrite hreply json creds hjson
    constructor
    · intro hcarries
      have hgo : ∃ json, parse (receivedLine ex.reply) = .ok json ∧ json.Carries creds :=
        ⟨json, hjson, hcarries⟩
      have hrust : ∃ json, parse (receivedLine ex.reply) = .ok json ∧
          (json.Carries creds ∨ json.Lists creds) := ⟨json, hjson, .inl hcarries⟩
      simpa [hconnect, hwrite, hreply, hgo, hrust] using h creds
    · intro hlists htext
      -- the client in Go would take an object
      obtain ⟨-, -, -, -, json', hjson', fields, rfl, -⟩ :=
        (h creds).mp ⟨hconnect, hwrite, htext, hreply, json, hjson, .inr hlists⟩
      rw [hjson, hlists] at hjson'
      cases hjson'
  · intro h creds
    constructor
    · rintro ⟨hconnect, hwrite, htext, hreply, json, hjson, hread⟩
      obtain ⟨hobject, harray⟩ := h hconnect hwrite hreply json creds hjson
      rcases hread with hcarries | hlists
      · obtain ⟨hline, hcomplete⟩ := (hobject hcarries).mp htext
        exact ⟨hconnect, hwrite, hline, hcomplete, json, hjson, hcarries⟩
      · exact absurd htext (harray hlists)
    · rintro ⟨hconnect, hwrite, hline, hcomplete, json, hjson, hcarries⟩
      have hreply := List.ne_nil_of_mem hline
      have htext :=
        ((h hconnect hwrite hreply json creds hjson).1 hcarries).mpr ⟨hline, hcomplete⟩
      exact ⟨hconnect, hwrite, htext, hreply, json, hjson, .inl hcarries⟩

/-- The two clients get the same from a connection, the same credentials or an error each, exactly
when the line, if it is an object that carries credentials, is text with a newline and without an
empty field, or neither, and if it is an array of credentials, is no text. Exactly when this holds
of each of some connections, the two rotation loops hold the same credentials after every iteration
of every run over these. -/
theorem workload_clients_agree_iff {client : WorkloadClient} {goClient : GoWorkloadClient}
    (hagree : ReadersAgree fromStr parse) {P : Set Exchange}
    (hplain : ∀ ex ∈ P, ∀ json, parse (receivedLine ex.reply) = .ok json → json.Plain) :
    (∀ ex ∈ P, (∀ creds, client.fetchCredentials fromStr ex = .ok creds ↔
      goClient.fetchCredentials parse ex = .ok creds) ↔ ex.Alike parse) ∧
    ((∀ exs : List Exchange, (∀ ex ∈ exs, ex ∈ P) →
      client.startRotationLoop fromStr exs = goClient.startRotationLoop parse exs) ↔
        ∀ ex ∈ P, ex.Alike parse) := by
  have hfetch : ∀ ex ∈ P, (∀ creds, client.fetchCredentials fromStr ex = .ok creds ↔
      goClient.fetchCredentials parse ex = .ok creds) ↔ ex.Alike parse :=
    fun ex hex => fetchCredentials_agree_iff hagree (hplain ex hex)
  -- a loop holds what its fetches give, so two loops agree when the fetches do
  refine ⟨hfetch, (rotationLoop_eq_iff P).trans (forall₂_congr fun ex hex => ?_)⟩
  rw [← hfetch ex hex, Option.ext_iff]
  simp only [toOption_eq_some_iff]

end

/-! ## The responses of the agent -/

/-- What the agent sends is an object of strings. -/
theorem WorkloadResponse.plain_toJson (resp : WorkloadResponse) : resp.toJson.Plain := by
  have hkey : ∀ (field : GoField) (s : String), (∃ s', Json.str s = .str s') ∧
      ∀ field' ∈ GoField.ofKey field.name, field.name = field'.name := by
    intro field s
    refine ⟨⟨s, rfl⟩, fun field' hfield' => ?_⟩
    rw [field.ofKey_name, Option.mem_def, Option.some.injEq] at hfield'
    rw [hfield']
  cases resp with
  | success certPem keyPem caCertPem =>
    refine ⟨by simp, ?_⟩
    simp only [List.forall_mem_cons]
    exact ⟨hkey .status _, hkey .certPem _, hkey .keyPem _, hkey .caCertPem _, by simp⟩
  | error message =>
    refine ⟨by simp, ?_⟩
    simp only [List.forall_mem_cons]
    exact ⟨hkey .status _, hkey .message _, by simp⟩

namespace Symbolic

/-- A reader of JSON text that knows the given values, each with or without a newline after it. -/
def parseLine (known : List Json) (line : List UInt8) : Except String Json :=
  match known.find? fun json => line = json.toVec ∨ line = json.toVec ++ [10] with
  | some json => .ok json
  | none => .error "expected value at line 1 column 1"

theorem mem_of_parseLine {known : List Json} {line : List UInt8} {json : Json}
    (h : parseLine known line = .ok json) : json ∈ known := by
  unfold parseLine at h
  split at h
  · rename_i hfind
    cases h
    exact List.mem_of_find?_eq_some hfind
  · cases h

/-- A successful response. -/
def webResponse : WorkloadResponse := .success "cert" "key" "ca"

/-- The JSON readers, which know the response. -/
def parseWeb : List UInt8 → Except String Json := parseLine [webResponse.toJson]

/-- A connection on which the agent answers with the response. -/
def answered : Exchange := ⟨.ok (), fun _ => .ok (), webResponse.toJson.toVec ++ [10]⟩

/-- A connection that the agent closes after the response, before the newline. -/
def unterminated : Exchange := ⟨.ok (), fun _ => .ok (), webResponse.toJson.toVec⟩

theorem plain_of_parseWeb {line : List UInt8} {json : Json} (h : parseWeb line = .ok json) :
    json.Plain := by
  rw [List.mem_singleton.mp (mem_of_parseLine h)]
  exact webResponse.plain_toJson

theorem complete_of_parseWeb {line : List UInt8} {json : Json} {creds : X509Credentials}
    (h : parseWeb line = .ok json) (hcarries : json.Carries creds) : creds.Complete := by
  obtain rfl := List.mem_singleton.mp (mem_of_parseLine h)
  have hsuccess := (WorkloadResponse.fromJson_eq_success_iff
    webResponse.plain_toJson.distinctKeys creds).mpr (.inl hcarries)
  have hread : WorkloadResponse.fromJson webResponse.toJson = .ok webResponse := by rfl
  rw [hread, Except.ok.injEq, webResponse, WorkloadResponse.success.injEq] at hsuccess
  obtain ⟨hcert, hkey, hca⟩ := hsuccess
  simp [X509Credentials.Complete, ← hcert, ← hkey, ← hca]

end Symbolic

/-- Two connections on which the agent answers with credentials. -/
theorem workload_clients_agree_web :
    (WorkloadClient.mk "/run/wl.sock").startRotationLoop Symbolic.parseWeb
        [Symbolic.answered, Symbolic.answered] =
      (GoWorkloadClient.mk "/run/wl.sock").startRotationLoop Symbolic.parseWeb
        [Symbolic.answered, Symbolic.answered] := by
  refine (workload_clients_agree_iff (P := {Symbolic.answered}) (fun _ _ => rfl)
    (fun _ _ _ => Symbolic.plain_of_parseWeb)).2.mpr ?_ _ (by simp)
  rintro - rfl - - - json creds hjson
  constructor
  · intro hcarries
    refine iff_of_true ?_ ⟨?_, Symbolic.complete_of_parseWeb hjson hcarries⟩
    · decide +kernel
    · decide +kernel
  · rintro rfl
    cases List.mem_singleton.mp (Symbolic.mem_of_parseLine hjson)

/-- Without a newline, the client in Rust takes a response that the one in Go does not take. -/
theorem workload_clients_differ :
    ¬∀ (fromStr parse : List UInt8 → Except String Json), ReadersAgree fromStr parse →
      ∀ (ex : Exchange) (client : WorkloadClient) (goClient : GoWorkloadClient),
        (∀ json, parse (receivedLine ex.reply) = .ok json → json.Plain) →
          ∀ creds, client.fetchCredentials fromStr ex = .ok creds ↔
            goClient.fetchCredentials parse ex = .ok creds := by
  intro h
  have hiff := h Symbolic.parseWeb Symbolic.parseWeb (fun _ _ => rfl) Symbolic.unterminated
    ⟨"/run/wl.sock"⟩ ⟨"/run/wl.sock"⟩ (fun _ => Symbolic.plain_of_parseWeb) ⟨"cert", "key", "ca"⟩
  rw [WorkloadClient.fetchCredentials_eq_ok_iff,
    GoWorkloadClient.fetchCredentials_eq_ok_iff fun _ => Symbolic.plain_of_parseWeb] at hiff
  have hline : receivedLine Symbolic.unterminated.reply = Symbolic.webResponse.toJson.toVec := by
    decide +kernel
  have hparse : Symbolic.parseWeb (receivedLine Symbolic.unterminated.reply) =
      .ok Symbolic.webResponse.toJson := by
    simp [hline, Symbolic.parseWeb, Symbolic.parseLine]
  -- the client in Rust takes the line without its newline, so the one in Go would
  have hgo := hiff.mp ⟨rfl, rfl, by decide +kernel, by decide +kernel, _, hparse, by rfl⟩
  exact absurd hgo.2.2.1 (by decide +kernel)

end AuthnScope
