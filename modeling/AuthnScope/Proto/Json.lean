import AuthnScope.Proto.Codec
import AuthnScope.Proto.Wire

/-!
# The JSON of the wire types

What serde derives for the wire types: the JSON value of each request and response, and the text
`serde_json` writes for it. Enums are tagged inside (`type` in snake case, `status` in lower
case), and `bin_path` is written `bin-path`.

## Main definitions

* `Json`, `Json.write`: JSON values and their text;
* `AgentRequest.toJson`, `AgentResponse.toJson`: the derived encodings;
* `jsonSerde`: `serde_json` with a reader for given messages.
-/

namespace AuthnScope

/-- The JSON values. `dec` is a number with a sign, a fraction or an exponent, as it is written; the
fields of an object stand in their order, equal keys included. -/
inductive Json where
  | null
  | bool (b : Bool)
  | num (n : ℕ)
  | dec (literal : String)
  | str (s : String)
  | arr (items : List Json)
  | obj (fields : List (String × Json))

namespace Json

/-- A character inside a JSON string. -/
def escapeChar (c : Char) : String :=
  match c with
  | '"' => "\\\""
  | '\\' => "\\\\"
  | '\n' => "\\n"
  | '\r' => "\\r"
  | '\t' => "\\t"
  | '\x08' => "\\b"
  | '\x0c' => "\\f"
  | c =>
    if c.toNat < 32 then
      "\\u00" ++ .ofList [Nat.digitChar (c.toNat / 16), Nat.digitChar (c.toNat % 16)]
    else .singleton c

/-- A JSON string literal. -/
def quote (s : String) : String := "\"" ++ String.join (s.toList.map escapeChar) ++ "\""

mutual

/-- `serde_json::to_string`. -/
def write : Json → String
  | .null => "null"
  | .bool b => toString b
  | .num n => toString n
  | .dec literal => literal
  | .str s => quote s
  | .arr items => "[" ++ writeItems items ++ "]"
  | .obj fields => "\x7b" ++ writeFields fields ++ "\x7d"

/-- The items of an array, separated by commas. -/
def writeItems : List Json → String
  | [] => ""
  | item :: rest => item.write ++ (if rest.isEmpty then "" else ",") ++ writeItems rest

/-- The fields of an object, separated by commas. -/
def writeFields : List (String × Json) → String
  | [] => ""
  | (key, value) :: rest =>
    quote key ++ ":" ++ value.write ++ (if rest.isEmpty then "" else ",") ++ writeFields rest

end

/-- The bytes of the text. -/
def toVec (json : Json) : List UInt8 := json.write.toUTF8.data.toList

/-- `Option<String>`. -/
def ofOption (s : Option String) : Json := (s.map Json.str).getD .null

end Json

/-- The encoding derived for `UnixSelector`. -/
def UnixSelector.toJson (unix : UnixSelector) : Json :=
  .obj [("user", .ofOption unix.user), ("group", .ofOption unix.group),
    ("bin-path", .ofOption unix.binPath)]

/-- The encoding derived for `SystemdSelector`. -/
def SystemdSelector.toJson (systemd : SystemdSelector) : Json :=
  .obj [("unitpath", .ofOption systemd.unitpath), ("unitname", .ofOption systemd.unitname)]

/-- The encoding derived for `SelectorConfig`. -/
def SelectorConfig.toJson (sel : SelectorConfig) : Json :=
  .obj [("unix", (sel.unix.map UnixSelector.toJson).getD .null),
    ("systemd", (sel.systemd.map SystemdSelector.toJson).getD .null)]

/-- The encoding derived for `WorkloadConfig`. -/
def WorkloadConfig.toJson (config : WorkloadConfig) : Json :=
  .obj [("selector", config.selector.toJson),
    ("validity_seconds", .num config.validitySeconds.toNat)]

/-- The encoding derived for `AgentRequest`. -/
def AgentRequest.toJson : AgentRequest → Json
  | .handshake version vmName =>
    .obj [("type", .str "handshake"), ("version", .num version.toNat), ("vm_name", .str vmName)]
  | .certRequest version vmName identity csrPem =>
    .obj [("type", .str "cert_request"), ("version", .num version.toNat), ("vm_name", .str vmName),
      ("identity", .str identity), ("csr_pem", .str csrPem)]

/-- The encoding derived for `AgentResponse`. -/
def AgentResponse.toJson : AgentResponse → Json
  | .handshakeOk workloads =>
    .obj [("status", .str "handshakeok"),
      ("workloads", .obj (workloads.entries.map fun ⟨name, config⟩ => (name, config.toJson)))]
  | .certOk certPem caCertPem =>
    .obj [("status", .str "certok"), ("cert_pem", .str certPem), ("ca_cert_pem", .str caCertPem)]
  | .error message => .obj [("status", .str "error"), ("message", .str message)]

/-- `serde_json` at a message type, with a reader that knows the texts of the given messages. -/
def jsonSerde {α : Type} (toJson : α → Json) (known : List α) : Serde α where
  toVec a := .ok (toJson a).toVec
  fromSlice bytes :=
    match known.find? fun a => (toJson a).toVec = bytes with
    | some a => .ok a
    | none => .error "expected value at line 1 column 1"

namespace Json

/-! ## The length of a text -/

theorem length_toVec (json : Json) : json.toVec.length = json.write.utf8ByteSize := rfl

/-- Texts that are not empty add a byte each. -/
theorem length_le_utf8ByteSize_foldl_append {l : List String} (h : ∀ t ∈ l, 0 < t.utf8ByteSize)
    (s : String) :
    s.utf8ByteSize + l.length ≤ (l.foldl (fun r s => r ++ s) s).utf8ByteSize := by
  induction l generalizing s with
  | nil => exact Nat.le_refl _
  | cons t l ih =>
    rw [List.foldl_cons, List.length_cons]
    have ht := h t List.mem_cons_self
    have hrest := ih (fun t' ht' => h t' (List.mem_cons_of_mem t ht')) (s ++ t)
    rw [String.utf8ByteSize_append] at hrest
    omega

theorem utf8ByteSize_escapeChar_pos (c : Char) : 0 < (escapeChar c).utf8ByteSize := by
  unfold escapeChar
  -- all but the last case are fixed texts
  split
  case h_8 =>
    split
    · rw [String.utf8ByteSize_append]
      exact Nat.lt_of_lt_of_le (by decide) (Nat.le_add_right "\\u00".utf8ByteSize _)
    · rw [String.utf8ByteSize_singleton]
      exact Char.utf8Size_pos c
  all_goals decide

/-- A string literal takes a byte for each character and the two quotes. -/
theorem length_add_two_le_utf8ByteSize_quote (s : String) :
    s.length + 2 ≤ (quote s).utf8ByteSize := by
  have hchars : ∀ t ∈ s.toList.map escapeChar, 0 < t.utf8ByteSize := by
    intro t ht
    obtain ⟨c, -, rfl⟩ := List.mem_map.mp ht
    exact utf8ByteSize_escapeChar_pos c
  have hbody := length_le_utf8ByteSize_foldl_append hchars ""
  have hquotes : "\"".utf8ByteSize = 1 := by decide
  rw [List.length_map, String.length_toList] at hbody
  rw [quote, String.utf8ByteSize_append, String.utf8ByteSize_append, String.join, hquotes]
  omega

end Json

/-- The text of an error response is longer than its message. -/
theorem AgentResponse.length_add_le_length_toVec_error (message : String) :
    message.length + 31 ≤ (AgentResponse.error message).toJson.toVec.length := by
  have hmessage := Json.length_add_two_le_utf8ByteSize_quote message
  have hfields : "\x7b".utf8ByteSize + (Json.quote "status").utf8ByteSize + ":".utf8ByteSize +
      (Json.quote "error").utf8ByteSize + ",".utf8ByteSize + (Json.quote "message").utf8ByteSize +
      ":".utf8ByteSize + "\x7d".utf8ByteSize = 29 := by
    decide +kernel
  simp only [Json.length_toVec, AgentResponse.toJson, Json.write, Json.writeFields,
    String.utf8ByteSize_append, List.isEmpty_cons, List.isEmpty_nil]
  simp only [Bool.false_eq_true, if_false]
  omega

example : (AgentRequest.handshake 1 "vm-a").toJson.write =
    "\x7b\"type\":\"handshake\",\"version\":1,\"vm_name\":\"vm-a\"\x7d" := by
  decide +kernel

end AuthnScope
