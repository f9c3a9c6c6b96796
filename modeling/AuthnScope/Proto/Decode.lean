import AuthnScope.Lib.Outcome
import AuthnScope.Proto.Json

/-!
# Reading the wire types from JSON

What serde derives for reading the wire types (`authn-scope-proto/src/wire.rs`). A struct takes its
fields from an object in any order, skips the fields it does not know and refuses one that comes
twice; a field with `default` may be missing, and an optional one may be `null`. It also takes them
from an array, in the order of their declaration, where only fields with `default` may be missing at
the end. An enum reads its tag among the fields or from the head of the array, and then the fields
of the variant. A map inserts its entries one after the other.

Where a value has several faults, serde reports the first it meets, and the model one of them. The
position in the text, which `serde_json` adds to an error, is left out.

## Main definitions

* `Json.asFields`, `Json.asTagged`: the fields of a struct, and of an enum with its tag inside;
* `Json.required`, `Json.defaulted`: a field of a struct;
* `AgentRequest.fromJson`, `AgentResponse.fromJson`: the derived decodings;
* `AgentResponse.Same`: the same response, whatever the order of its workload map.

## Main results

* `wire_round_trip`: decoding undoes encoding, and variants are not taken for one another.
-/

namespace AuthnScope

open Outcome

namespace Json

variable {α : Type}

/-! ## Values and fields -/

/-- What serde calls a value it did not expect. -/
def unexpected : Json → String
  | .null => "null"
  | .bool b => s!"boolean `{b}`"
  | .num n => s!"integer `{n}`"
  | .dec literal => s!"number `{literal}`"
  | .str s => s!"string {quote s}"
  | .arr _ => "sequence"
  | .obj _ => "map"

/-- The error for a value of the wrong type. -/
def invalidType (json : Json) (expected : String) : Except String α :=
  .error s!"invalid type: {json.unexpected}, expected {expected}"

/-- `String`. -/
def asString : Json → Except String String
  | .str s => .ok s
  | json => json.invalidType "a string"

/-- `u32`. -/
def asU32 : Json → Except String UInt32
  | .num n =>
    if n < UInt32.size then .ok (UInt32.ofNat n)
    else .error s!"invalid value: integer `{n}`, expected u32"
  | json => json.invalidType "u32"

/-- `Option<T>`. -/
def asOption (decode : Json → Except String α) : Json → Except String (Option α)
  | .null => .ok none
  | json => (decode json).map some

/-- The entries of a map. -/
def asMap : Json → Except String (List (String × Json))
  | .obj entries => .ok entries
  | json => json.invalidType "a map"

/-- The fields of a struct. `keys` are those of its declaration, each with whether it has a default
when an array ends before it. -/
def asFields (expected : String) (keys : List (String × Bool)) :
    Json → Except String (List (String × Json))
  | .obj fields => .ok fields
  | .arr items =>
    match (keys.zipIdx.drop items.length).find? fun key => !key.1.2 with
    | some (_, i) =>
      .error s!"invalid length {i}, expected {expected} with {keys.length} elements"
    | none =>
      if keys.length < items.length then .error "trailing characters"
      else .ok ((keys.map Prod.fst).zip items)
  | json => json.invalidType expected

/-- The field of a struct with the given key; `missing` is the result when there is none. -/
def field (fields : List (String × Json)) (key : String) (decode : Json → Except String α)
    (missing : Except String α) : Except String α :=
  match fields.filter fun entry => entry.1 = key with
  | [] => missing
  | [(_, value)] => decode value
  | _ :: _ :: _ => .error s!"duplicate field `{key}`"

/-- A field without a default. -/
def required (fields : List (String × Json)) (key : String) (decode : Json → Except String α) :
    Except String α :=
  field fields key decode (.error s!"missing field `{key}`")

/-- An optional field: an object need not have it. -/
def defaulted (fields : List (String × Json)) (key : String)
    (decode : Json → Except String α) : Except String (Option α) :=
  field fields key (asOption decode) (.ok none)

/-- The tag of an internally tagged enum, and the value with the fields of the variant. -/
def asTagged (expected tag : String) : Json → Except String (String × Json)
  | .obj fields => do
    let variant ← required fields tag asString
    return (variant, .obj fields)
  | .arr [] => .error s!"missing field `{tag}`"
  | .arr (item :: items) => do
    let variant ← item.asString
    return (variant, .arr items)
  | json => json.invalidType expected

end Json

/-- The decoding of `HashMap<String, V>`: a key that comes again replaces the value before it. -/
def HashMap.fromJson {V : Type} (decode : Json → Except String V) (json : Json) :
    Except String (HashMap V) := do
  let entries ← json.asMap
  entries.foldlM (fun map entry => (decode entry.2).map (map.insert entry.1)) ∅

/-! ## The wire types -/

/-- The decoding derived for `UnixSelector`. -/
def UnixSelector.fromJson (json : Json) : Except String UnixSelector := do
  let fields ← json.asFields "struct UnixSelector"
    [("user", true), ("group", true), ("bin-path", true)]
  return {
    user := ← Json.defaulted fields "user" Json.asString
    group := ← Json.defaulted fields "group" Json.asString
    binPath := ← Json.defaulted fields "bin-path" Json.asString }

/-- The decoding derived for `SystemdSelector`. -/
def SystemdSelector.fromJson (json : Json) : Except String SystemdSelector := do
  let fields ← json.asFields "struct SystemdSelector" [("unitpath", true), ("unitname", true)]
  return {
    unitpath := ← Json.defaulted fields "unitpath" Json.asString
    unitname := ← Json.defaulted fields "unitname" Json.asString }

/-- The decoding derived for `SelectorConfig`. -/
def SelectorConfig.fromJson (json : Json) : Except String SelectorConfig := do
  let fields ← json.asFields "struct SelectorConfig" [("unix", true), ("systemd", true)]
  return {
    unix := ← Json.defaulted fields "unix" UnixSelector.fromJson
    systemd := ← Json.defaulted fields "systemd" SystemdSelector.fromJson }

/-- The decoding derived for `WorkloadConfig`. -/
def WorkloadConfig.fromJson (json : Json) : Except String WorkloadConfig := do
  let fields ← json.asFields "struct WorkloadConfig"
    [("selector", false), ("validity_seconds", false)]
  return {
    selector := ← Json.required fields "selector" SelectorConfig.fromJson
    validitySeconds := ← Json.required fields "validity_seconds" Json.asU32 }

/-- The decoding derived for `AgentRequest`. -/
def AgentRequest.fromJson (json : Json) : Except String AgentRequest := do
  let (tag, content) ← json.asTagged "internally tagged enum AgentRequest" "type"
  match tag with
  | "handshake" =>
    let fields ← content.asFields "struct variant AgentRequest::Handshake"
      [("version", false), ("vm_name", false)]
    return .handshake
      (← Json.required fields "version" Json.asU32)
      (← Json.required fields "vm_name" Json.asString)
  | "cert_request" =>
    let fields ← content.asFields "struct variant AgentRequest::CertRequest"
      [("version", false), ("vm_name", false), ("identity", false), ("csr_pem", false)]
    return .certRequest
      (← Json.required fields "version" Json.asU32)
      (← Json.required fields "vm_name" Json.asString)
      (← Json.required fields "identity" Json.asString)
      (← Json.required fields "csr_pem" Json.asString)
  | tag => .error s!"unknown variant `{tag}`, expected `handshake` or `cert_request`"

/-- The decoding derived for `AgentResponse`. -/
def AgentResponse.fromJson (json : Json) : Except String AgentResponse := do
  let (tag, content) ← json.asTagged "internally tagged enum AgentResponse" "status"
  match tag with
  | "handshakeok" =>
    let fields ← content.asFields "struct variant AgentResponse::HandshakeOk"
      [("workloads", false)]
    return .handshakeOk
      (← Json.required fields "workloads" (HashMap.fromJson WorkloadConfig.fromJson))
  | "certok" =>
    let fields ← content.asFields "struct variant AgentResponse::CertOk"
      [("cert_pem", false), ("ca_cert_pem", false)]
    return .certOk
      (← Json.required fields "cert_pem" Json.asString)
      (← Json.required fields "ca_cert_pem" Json.asString)
  | "error" =>
    let fields ← content.asFields "struct variant AgentResponse::Error" [("message", false)]
    return .error (← Json.required fields "message" Json.asString)
  | tag =>
    .error s!"unknown variant `{tag}`, expected one of `handshakeok`, `certok`, `error`"

/-- The same response: the workload maps agree, in whatever order they are iterated. -/
def AgentResponse.Same : AgentResponse → AgentResponse → Prop
  | .handshakeOk workloads, .handshakeOk workloads' => workloads.entries.Perm workloads'.entries
  | resp, resp' => resp = resp'

/-- The variant of a request. -/
def AgentRequest.variant : AgentRequest → String
  | .handshake _ _ => "handshake"
  | .certRequest _ _ _ _ => "cert_request"

/-- The variant of a response. -/
def AgentResponse.variant : AgentResponse → String
  | .handshakeOk _ => "handshakeok"
  | .certOk _ _ => "certok"
  | .error _ => "error"

namespace Json

variable {α : Type}

/-! ## Values that are read -/

theorem asString_eq_ok_iff {json : Json} (s : String) : json.asString = .ok s ↔ json = .str s := by
  cases json <;> simp [asString, invalidType]

/-- The value has these fields: it is an object with them, or an array that has the values for the
first keys, where the other keys may be missing. -/
def Offers (json : Json) (keys : List (String × Bool)) (fields : List (String × Json)) : Prop :=
  json = .obj fields ∨ ∃ items, json = .arr items ∧ items.length ≤ keys.length ∧
    (∀ key ∈ keys.drop items.length, key.2 = true) ∧ fields = (keys.map Prod.fst).zip items

@[simp]
theorem asFields_obj (expected : String) (keys : List (String × Bool))
    (fields : List (String × Json)) : asFields expected keys (.obj fields) = .ok fields := rfl

theorem find?_zipIdx_drop_eq_none_iff (keys : List (String × Bool)) (n : ℕ) :
    (keys.zipIdx.drop n).find? (fun key => !key.1.2) = none ↔
      ∀ key ∈ keys.drop n, key.2 = true := by
  have hdrop : (keys.zipIdx.drop n).map Prod.fst = keys.drop n := by
    rw [List.map_drop, List.zipIdx_map_fst]
  rw [← hdrop, List.find?_eq_none, List.forall_mem_map]
  simp

/-- The fields of a struct are those that the value has. -/
theorem asFields_eq_ok_iff {json : Json} (expected : String) {keys : List (String × Bool)}
    {fields : List (String × Json)} :
    json.asFields expected keys = .ok fields ↔ json.Offers keys fields := by
  cases json with
  | obj fields' => simp [Offers]
  | arr items =>
    simp only [asFields, Offers, reduceCtorEq, false_or, arr.injEq, exists_eq_left']
    rw [← find?_zipIdx_drop_eq_none_iff]
    cases (keys.zipIdx.drop items.length).find? fun key => !key.1.2 with
    | some key => simp
    | none =>
      by_cases hlength : keys.length < items.length
      · simp [hlength, Nat.not_le.mpr hlength]
      · simp [hlength, Nat.not_lt.mp hlength, eq_comm]
  | _ => simp [asFields, invalidType, Offers]

@[simp]
theorem asTagged_obj (expected tag : String) (fields : List (String × Json)) :
    asTagged expected tag (.obj fields) =
      (required fields tag asString).map fun variant => (variant, .obj fields) := by
  rw [asTagged]
  cases required fields tag asString <;> rfl

/-- The tag of an enum is among the fields of an object, or the head of an array. -/
theorem asTagged_eq_ok_iff {json content : Json} (expected : String) {tag variant : String} :
    json.asTagged expected tag = .ok (variant, content) ↔
      (∃ fields, json = .obj fields ∧ content = .obj fields ∧
        required fields tag asString = .ok variant) ∨
      ∃ items, json = .arr (.str variant :: items) ∧ content = .arr items := by
  cases json with
  | obj fields =>
    simp only [asTagged, except_bind_eq_ok_iff]
    constructor
    · rintro ⟨variant, hvariant, ⟨⟩⟩
      exact .inl ⟨fields, rfl, rfl, hvariant⟩
    · rintro (⟨fields, ⟨⟩, rfl, hvariant⟩ | ⟨items, ⟨⟩, -⟩)
      exact ⟨variant, hvariant, rfl⟩
  | arr items =>
    cases items with
    | nil => simp [asTagged]
    | cons item items =>
      simp only [asTagged, except_bind_eq_ok_iff, asString_eq_ok_iff]
      constructor
      · rintro ⟨variant, rfl, ⟨⟩⟩
        exact .inr ⟨items, rfl, rfl⟩
      · rintro (⟨fields, ⟨⟩, -⟩ | ⟨items, ⟨⟩, rfl⟩)
        exact ⟨variant, rfl, rfl⟩
  | _ => simp [asTagged, invalidType]

/-! ## Decoding undoes encoding -/

/-- An absent value is written `null`, which no value is. -/
theorem asOption_getD {decode : Json → Except String α} (encode : α → Json)
    (hdecode : ∀ a, decode (encode a) = .ok a) (hnull : ∀ a, encode a ≠ .null) (a : Option α) :
    asOption decode ((a.map encode).getD .null) = .ok a := by
  cases a with
  | none => rfl
  | some a =>
    have hoption : asOption decode (encode a) = (decode (encode a)).map some := by
      cases hencode : encode a with
      | null => exact absurd hencode (hnull a)
      | _ => rfl
    show asOption decode (encode a) = _
    rw [hoption, hdecode]
    rfl

theorem asOption_ofOption (s : Option String) : asOption asString (ofOption s) = .ok s :=
  asOption_getD Json.str (fun _ => rfl) (fun _ h => by cases h) s

theorem asU32_num (n : UInt32) : asU32 (.num n.toNat) = .ok n := by
  rw [asU32, if_pos n.toNat_lt_size, UInt32.ofNat_toNat]

end Json

/-! ## Records -/

theorem UnixSelector.fromJson_toJson (unix : UnixSelector) : fromJson unix.toJson = .ok unix := by
  simp [toJson, fromJson, Json.defaulted, Json.field, Json.asOption_ofOption]

theorem SystemdSelector.fromJson_toJson (systemd : SystemdSelector) :
    fromJson systemd.toJson = .ok systemd := by
  simp [toJson, fromJson, Json.defaulted, Json.field, Json.asOption_ofOption]

theorem SelectorConfig.fromJson_toJson (sel : SelectorConfig) : fromJson sel.toJson = .ok sel := by
  have hunix := Json.asOption_getD UnixSelector.toJson UnixSelector.fromJson_toJson
    (fun _ h => by cases h) sel.unix
  have hsystemd := Json.asOption_getD SystemdSelector.toJson SystemdSelector.fromJson_toJson
    (fun _ h => by cases h) sel.systemd
  simp [toJson, fromJson, Json.defaulted, Json.field, hunix, hsystemd]

theorem WorkloadConfig.fromJson_toJson (config : WorkloadConfig) :
    fromJson config.toJson = .ok config := by
  simp [toJson, fromJson, Json.required, Json.field,
    SelectorConfig.fromJson_toJson, Json.asU32_num]

/-! ## Maps -/

namespace HashMap

variable {V : Type}

/-- Inserting entries with new and distinct keys adds them. -/
theorem perm_foldl_insert (entries : List (Sigma fun _ : String => V)) (m : HashMap V)
    (hnodup : (m.entries ++ entries).NodupKeys) :
    (entries.foldl (fun m entry => m.insert entry.1 entry.2) m).entries.Perm
      (m.entries ++ entries) := by
  induction entries generalizing m with
  | nil => simp
  | cons entry entries ih =>
    have hmiddle : (m.entries ++ entry :: entries).Perm (entry :: (m.entries ++ entries)) :=
      List.perm_middle
    rw [List.perm_nodupKeys hmiddle] at hnodup
    have hnew : entry.1 ∉ m := by
      have hkey := (List.nodupKeys_cons.mp hnodup).1
      rw [List.keys, List.map_append] at hkey
      exact fun hmem => hkey (List.mem_append_left _ hmem)
    -- a new key goes to the front of the map
    have hentries : (m.insert entry.1 entry.2).entries = entry :: m.entries :=
      AList.entries_insert_of_notMem hnew
    rw [List.foldl_cons]
    refine (ih _ (by rwa [hentries])).trans ?_
    rw [hentries]
    exact hmiddle.symm

/-- An encoded map is read back with its entries. -/
theorem fromJson_obj {decode : Json → Except String V} {encode : V → Json}
    (hdecode : ∀ v, decode (encode v) = .ok v) (m : HashMap V) :
    ∃ m' : HashMap V, m'.entries.Perm m.entries ∧
      fromJson decode (.obj (m.entries.map fun ⟨key, v⟩ => (key, encode v))) = .ok m' := by
  refine ⟨m.entries.foldl (fun m entry => m.insert entry.1 entry.2) ∅, ?_, ?_⟩
  · exact perm_foldl_insert m.entries ∅ m.nodupKeys
  · show (List.map _ m.entries).foldlM _ ∅ = _
    generalize (∅ : HashMap V) = acc
    -- each entry is decoded to its value and inserted
    induction m.entries generalizing acc with
    | nil => rfl
    | cons entry entries ih =>
      rw [List.map_cons, List.foldlM_cons, hdecode]
      exact ih _

end HashMap

/-! ## Messages -/

theorem AgentRequest.fromJson_toJson (req : AgentRequest) : fromJson req.toJson = .ok req := by
  cases req <;>
    simp [toJson, fromJson, Json.required, Json.field, Json.asString, Except.map,
      Json.asU32_num]

/-- A list of workloads is read back in some order. -/
theorem AgentResponse.fromJson_toJson_handshakeOk (workloads : HashMap WorkloadConfig) :
    ∃ received : HashMap WorkloadConfig, received.entries.Perm workloads.entries ∧
      fromJson (handshakeOk workloads).toJson = .ok (.handshakeOk received) := by
  obtain ⟨received, hperm, hreceived⟩ :=
    HashMap.fromJson_obj WorkloadConfig.fromJson_toJson workloads
  refine ⟨received, hperm, ?_⟩
  simp [toJson, fromJson, Json.required, Json.field, Json.asString, Except.map, hreceived]

theorem AgentResponse.fromJson_toJson (resp : AgentResponse) :
    ∃ resp', fromJson resp.toJson = .ok resp' ∧ resp'.Same resp := by
  cases resp with
  | handshakeOk workloads =>
    obtain ⟨received, hperm, hreceived⟩ := fromJson_toJson_handshakeOk workloads
    exact ⟨.handshakeOk received, hreceived, hperm⟩
  | certOk certPem caCertPem =>
    refine ⟨.certOk certPem caCertPem, ?_, rfl⟩
    simp [toJson, fromJson, Json.required, Json.field, Json.asString, Except.map]
  | error message =>
    refine ⟨.error message, ?_, rfl⟩
    simp [toJson, fromJson, Json.required, Json.field, Json.asString, Except.map]

theorem AgentResponse.Same.variant_eq {resp resp' : AgentResponse} (h : resp.Same resp') :
    resp.variant = resp'.variant := by
  cases resp <;> cases resp' <;> first | rfl | cases h

/-- A request is not taken for a response: it has no `status`. -/
theorem AgentRequest.not_response (req : AgentRequest) :
    AgentResponse.fromJson req.toJson = .error "missing field `status`" := by
  cases req <;>
    simp [toJson, AgentResponse.fromJson, Json.required, Json.field] <;> rfl

/-- A response is not taken for a request: it has no `type`. -/
theorem AgentResponse.not_request (resp : AgentResponse) :
    AgentRequest.fromJson resp.toJson = .error "missing field `type`" := by
  cases resp <;>
    simp [toJson, AgentRequest.fromJson, Json.required, Json.field] <;> rfl

/-- The wire types round-trip: decoding the encoding of a request or a response gives it back, and
no variant is decoded from the encoding of another, of the same enum or of the other one. -/
theorem wire_round_trip :
    (∀ req : AgentRequest, AgentRequest.fromJson req.toJson = .ok req) ∧
      (∀ resp : AgentResponse, ∃ resp', AgentResponse.fromJson resp.toJson = .ok resp' ∧
        resp'.Same resp) ∧
      (∀ req req' : AgentRequest, req.variant ≠ req'.variant →
        AgentRequest.fromJson req.toJson ≠ .ok req') ∧
      (∀ resp resp' : AgentResponse, resp.variant ≠ resp'.variant →
        AgentResponse.fromJson resp.toJson ≠ .ok resp') ∧
      ∀ (req : AgentRequest) (resp : AgentResponse),
        AgentResponse.fromJson req.toJson ≠ .ok resp ∧
          AgentRequest.fromJson resp.toJson ≠ .ok req := by
  refine ⟨AgentRequest.fromJson_toJson, AgentResponse.fromJson_toJson,
    fun req req' hne h => ?_, fun resp resp' hne h => ?_,
    fun req resp => ⟨fun h => ?_, fun h => ?_⟩⟩
  · rw [AgentRequest.fromJson_toJson] at h
    cases h
    exact hne rfl
  · obtain ⟨resp₁, hresp₁, hsame⟩ := AgentResponse.fromJson_toJson resp
    rw [hresp₁] at h
    cases h
    exact hne hsame.variant_eq.symm
  · rw [req.not_response] at h
    cases h
  · rw [resp.not_request] at h
    cases h

/-- A selector that is present but empty is not taken for an absent one. -/
example : SelectorConfig.fromJson (SelectorConfig.toJson ⟨some .default, none⟩) =
    .ok ⟨some .default, none⟩ := rfl

/-- In an array, the selectors may be missing, as they have a default. -/
example : WorkloadConfig.fromJson (.arr [.arr [], .num 60]) = .ok ⟨⟨none, none⟩, 60⟩ := rfl

end AuthnScope
