import AuthnScope.Agent.Credentials
import AuthnScope.Proto.Decode
import AuthnScope.Server.Config

/-!
# Configuration files

What serde derives for reading the configurations of the host and of the agent, and the loader of
each. In an object a field may stand at any place, fields that are not known are skipped, and the
ports have defaults; in an array the values stand in the order of the declaration. In the maps of
VMs and of workloads the last entry of a name counts. A configuration that is read is only known by
its lookups, as the order of its maps is not that of the file.

As in `Proto.Decode`, of several faults the model reports one.

## Main definitions

* `HostConfig.fromJson`, `AgentConfig.fromJson`: the derived decodings;
* `AgentConfig.fromFile`: the loader of the agent;
* `HostConfig.Describes`, `AgentConfig.Describes`: what a file says;
* `HostConfig.Same`: configurations with the same lookups.

## Main results

* `HashMap.exists_fromJson_iff`: a map is read with the last entry of each key;
* `host_config_loads_iff`, `agent_config_loads_iff`: the files that load, and what as.
-/

namespace AuthnScope

open Outcome

/-! ## The decodings -/

/-- `PathBuf`. -/
def Json.asPathBuf : Json → Except String String
  | .str s => .ok s
  | json => json.invalidType "path string"

/-- The fields of `IdentityPolicy`, and whether they have a default. -/
def IdentityPolicy.keys : List (String × Bool) := [("selector", false), ("ttl_minutes", false)]

/-- The decoding derived for `IdentityPolicy`. -/
def IdentityPolicy.fromJson (json : Json) : Except String IdentityPolicy := do
  let fields ← json.asFields "struct IdentityPolicy" keys
  return {
    selector := ← Json.required fields "selector" Json.asString
    ttlMinutes := ← Json.required fields "ttl_minutes" Json.asU32 }

/-- The fields of `VmEntry`. -/
def VmEntry.keys : List (String × Bool) := [("vm_cid", false), ("ip", false), ("identities", false)]

/-- The decoding derived for `VmEntry`; an object need not have the optional field. -/
def VmEntry.fromJson (json : Json) : Except String VmEntry := do
  let fields ← json.asFields "struct VmEntry" keys
  return {
    vmCid := ← Json.required fields "vm_cid" Json.asU32
    ip := ← Json.defaulted fields "ip" Json.asString
    identities := ← Json.required fields "identities" (HashMap.fromJson IdentityPolicy.fromJson) }

/-- `default_server_port`, of the host and of the agent. -/
def defaultServerPort : UInt32 := 900

/-- `default_peer_port`. -/
def defaultPeerPort : UInt32 := 901

/-- `default_client_port`. -/
def defaultClientPort : UInt32 := 901

/-- The fields of `HostConfig`. -/
def HostConfig.keys : List (String × Bool) :=
  [("ca_cert_path", false), ("ca_key_path", false), ("server_port", true), ("vms", false),
    ("peer_port", true)]

/-- The decoding derived for `HostConfig`. -/
def HostConfig.fromJson (json : Json) : Except String HostConfig := do
  let fields ← json.asFields "struct HostConfig" keys
  return {
    caCertPath := ← Json.required fields "ca_cert_path" Json.asPathBuf
    caKeyPath := ← Json.required fields "ca_key_path" Json.asPathBuf
    serverPort := ← Json.field fields "server_port" Json.asU32 (.ok defaultServerPort)
    vms := ← Json.required fields "vms" (HashMap.fromJson VmEntry.fromJson)
    peerPort := ← Json.field fields "peer_port" Json.asU32 (.ok defaultPeerPort) }

/-- The fields of `AgentConfig`. -/
def AgentConfig.keys : List (String × Bool) :=
  [("vm_name", false), ("server_port", true), ("client_port", true),
    ("workload_api_socket", false)]

/-- The decoding derived for `AgentConfig`. -/
def AgentConfig.fromJson (json : Json) : Except String AgentConfig := do
  let fields ← json.asFields "struct AgentConfig" keys
  return {
    vmName := ← Json.required fields "vm_name" Json.asString
    serverPort := ← Json.field fields "server_port" Json.asU32 (.ok defaultServerPort)
    clientPort := ← Json.field fields "client_port" Json.asU32 (.ok defaultClientPort)
    workloadApiSocket := ← Json.defaulted fields "workload_api_socket" Json.asString }

/-- Load and parse the config of the agent from a JSON file. -/
def AgentConfig.fromFile (readToString : String → Except String String)
    (fromStr : String → Except String AgentConfig) (path : String) : Except String AgentConfig := do
  let data ← readToString path
  let cfg ← fromStr data
  if cfg.serverPort ≥ 1000 then
    .error s!"server_port must be less than 1000, got {cfg.serverPort}"
  else return cfg

/-! ## What a file says -/

/-- The object has the key once, with a value that has the property, or it does not have the key,
which says `absent`. -/
def Json.Says (fields : List (String × Json)) (key : String) (P : Json → Prop) (absent : Prop) :
    Prop :=
  (fields.filter (fun entry => entry.1 = key) = [] ∧ absent) ∨
    ∃ value, fields.filter (fun entry => entry.1 = key) = [(key, value)] ∧ P value

/-- The value of the last entry with the key. -/
def Json.lastEntry (entries : List (String × Json)) (key : String) : Option Json :=
  (entries.reverse.find? fun entry => entry.1 = key).map Prod.snd

/-- Every entry of the object says something, and the last one of each key what the map has. -/
def HashMap.Describes {V : Type} (D : Json → V → Prop) (json : Json) (m : HashMap V) : Prop :=
  ∃ entries, json = .obj entries ∧ (∀ entry ∈ entries, ∃ v, D entry.2 v) ∧
    ∀ key, Option.Rel D (Json.lastEntry entries key) (m.lookup key)

/-- The value says the policy. -/
def IdentityPolicy.Describes (json : Json) (policy : IdentityPolicy) : Prop :=
  ∃ fields, json.Offers keys fields ∧
    Json.Says fields "selector" (· = .str policy.selector) False ∧
    Json.Says fields "ttl_minutes" (· = .num policy.ttlMinutes.toNat) False

/-- The value says the VM. -/
def VmEntry.Describes (json : Json) (vm : VmEntry) : Prop :=
  ∃ fields, json.Offers keys fields ∧
    Json.Says fields "vm_cid" (· = .num vm.vmCid.toNat) False ∧
    Json.Says fields "ip" (· = .ofOption vm.ip) (vm.ip = none) ∧
    Json.Says fields "identities" (HashMap.Describes IdentityPolicy.Describes · vm.identities) False

/-- The value says the configuration. -/
def HostConfig.Describes (json : Json) (cfg : HostConfig) : Prop :=
  ∃ fields, json.Offers keys fields ∧
    Json.Says fields "ca_cert_path" (· = .str cfg.caCertPath) False ∧
    Json.Says fields "ca_key_path" (· = .str cfg.caKeyPath) False ∧
    Json.Says fields "server_port" (· = .num cfg.serverPort.toNat) (cfg.serverPort = 900) ∧
    Json.Says fields "vms" (HashMap.Describes VmEntry.Describes · cfg.vms) False ∧
    Json.Says fields "peer_port" (· = .num cfg.peerPort.toNat) (cfg.peerPort = 901)

/-- The value says the configuration of the agent. -/
def AgentConfig.Describes (json : Json) (cfg : AgentConfig) : Prop :=
  ∃ fields, json.Offers keys fields ∧
    Json.Says fields "vm_name" (· = .str cfg.vmName) False ∧
    Json.Says fields "server_port" (· = .num cfg.serverPort.toNat) (cfg.serverPort = 900) ∧
    Json.Says fields "client_port" (· = .num cfg.clientPort.toNat) (cfg.clientPort = 901) ∧
    Json.Says fields "workload_api_socket" (· = .ofOption cfg.workloadApiSocket)
      (cfg.workloadApiSocket = none)

/-- VMs with the same lookups. -/
def VmEntry.Same (vm vm' : VmEntry) : Prop :=
  vm.vmCid = vm'.vmCid ∧ vm.ip = vm'.ip ∧
    ∀ name, vm.identities.lookup name = vm'.identities.lookup name

/-- Configurations with the same lookups. -/
def HostConfig.Same (cfg cfg' : HostConfig) : Prop :=
  cfg.caCertPath = cfg'.caCertPath ∧ cfg.caKeyPath = cfg'.caKeyPath ∧
    cfg.serverPort = cfg'.serverPort ∧ cfg.peerPort = cfg'.peerPort ∧
    ∀ vmName, Option.Rel VmEntry.Same (cfg.vms.lookup vmName) (cfg'.vms.lookup vmName)

/-! ## Fields -/

namespace Json

variable {α : Type} {json : Json} {fields : List (String × Json)}

theorem asMap_eq_ok_iff : json.asMap = .ok fields ↔ json = .obj fields := by
  cases json <;> simp [asMap, invalidType]

theorem asPathBuf_eq_ok_iff (path : String) : json.asPathBuf = .ok path ↔ json = .str path := by
  cases json <;> simp [asPathBuf, invalidType]

theorem asU32_eq_ok_iff (n : UInt32) : json.asU32 = .ok n ↔ json = .num n.toNat := by
  constructor
  · intro h
    cases json with
    | num m =>
      rw [asU32] at h
      split at h
      · cases h
        rw [UInt32.toNat_ofNat', Nat.mod_eq_of_lt ‹_›]
      · cases h
    | _ => cases h
  · rintro rfl
    exact asU32_num n

theorem asOption_asString_eq_ok_iff (s : Option String) :
    json.asOption asString = .ok s ↔ json = .ofOption s := by
  cases s <;> cases json <;> simp [asOption, asString, invalidType, ofOption, Except.map]

/-- A field is read as what the object says of it. -/
theorem field_eq_ok_iff {key : String} {decode : Json → Except String α}
    {missing : Except String α} {a : α} :
    field fields key decode missing = .ok a ↔
      Says fields key (fun value => decode value = .ok a) (missing = .ok a) := by
  unfold field Says
  split
  · rename_i hnone
    simp [hnone]
  · rename_i found value hone
    have hmem : (found, value) ∈ fields.filter fun entry => entry.1 = key := by
      rw [hone]
      exact List.mem_singleton_self _
    have hkey : found = key := by simpa using List.of_mem_filter hmem
    simp [hone, hkey]
  · rename_i hmany
    simp [hmany]

theorem required_eq_ok_iff {key : String} {decode : Json → Except String α} {a : α} :
    required fields key decode = .ok a ↔
      Says fields key (fun value => decode value = .ok a) False := by
  simp only [required, field_eq_ok_iff, reduceCtorEq]

theorem field_asU32_eq_ok_iff {key : String} {default n : UInt32} :
    field fields key asU32 (.ok default) = .ok n ↔
      Says fields key (· = .num n.toNat) (n = default) := by
  simp only [field_eq_ok_iff, asU32_eq_ok_iff, Except.ok.injEq, eq_comm (a := default)]

theorem defaulted_asString_eq_ok_iff {key : String} {s : Option String} :
    defaulted fields key asString = .ok s ↔ Says fields key (· = ofOption s) (s = none) := by
  simp only [defaulted, field_eq_ok_iff, asOption_asString_eq_ok_iff, Except.ok.injEq,
    eq_comm (a := none)]

/-- A field is read, up to a relation, as what the object says of it. -/
theorem exists_required_iff {key : String} {decode : Json → Except String α} {S : α → α → Prop}
    {D : Json → α → Prop} (hdecode : ∀ json a, (∃ a', decode json = .ok a' ∧ S a' a) ↔ D json a)
    (a : α) :
    (∃ a', required fields key decode = .ok a' ∧ S a' a) ↔ Says fields key (D · a) False := by
  simp only [required_eq_ok_iff, Says, ← hdecode]
  constructor
  · rintro ⟨a', ⟨-, h⟩ | ⟨value, hone, h⟩, hS⟩
    · cases h
    · exact Or.inr ⟨value, hone, a', h, hS⟩
  · rintro (⟨-, h⟩ | ⟨value, hone, a', h, hS⟩)
    · cases h
    · exact ⟨a', Or.inr ⟨value, hone, h⟩, hS⟩

end Json

/-! ## Maps -/

namespace HashMap

variable {V : Type} {decode : Json → Except String V} {entries : List (String × Json)}

theorem lastEntry_cons (entry : String × Json) (key : String) :
    Json.lastEntry (entry :: entries) key =
      (Json.lastEntry entries key).or (if entry.1 = key then some entry.2 else none) := by
  simp only [Json.lastEntry, List.reverse_cons, List.find?_append, List.find?_singleton,
    Option.map_or]
  congr 1
  split <;> simp_all

/-- The entries of an object, read into a map one after the other: what a key has in the end. -/
theorem lookup_foldlM_insert {m m' : HashMap V}
    (h : entries.foldlM (fun map entry => (decode entry.2).map (map.insert entry.1)) m = .ok m') :
    (∀ entry ∈ entries, ∃ v, decode entry.2 = .ok v) ∧
      ∀ key, m'.lookup key =
        (Json.lastEntry entries key).elim (m.lookup key) fun json => (decode json).toOption := by
  -- induction on the entries, with the map that those before them have left
  induction entries generalizing m with
  | nil =>
    cases h
    exact ⟨by simp, fun key => rfl⟩
  | cons entry rest ih =>
    rw [List.foldlM_cons] at h
    obtain ⟨m₁, hm₁, h⟩ := except_bind_eq_ok_iff.mp h
    cases hv : decode entry.2 with
    | error e =>
      rw [hv] at hm₁
      cases hm₁
    | ok v =>
      rw [hv] at hm₁
      cases hm₁
      obtain ⟨hrest, hlookup⟩ := ih h
      refine ⟨List.forall_mem_cons.mpr ⟨⟨v, hv⟩, hrest⟩, fun key => ?_⟩
      rw [hlookup, lastEntry_cons]
      cases Json.lastEntry rest key with
      | some json => rfl
      | none =>
        by_cases hkey : entry.1 = key
        · subst hkey
          simp [hv, Except.toOption]
        · simp [hkey, AList.lookup_insert_ne (Ne.symm hkey)]

/-- Entries that can all be decoded are read. -/
theorem exists_foldlM_insert (hall : ∀ entry ∈ entries, ∃ v, decode entry.2 = .ok v)
    (m : HashMap V) : ∃ m', entries.foldlM
      (fun map entry => (decode entry.2).map (map.insert entry.1)) m = .ok m' := by
  induction entries generalizing m with
  | nil => exact ⟨m, rfl⟩
  | cons entry rest ih =>
    obtain ⟨⟨v, hv⟩, hrest⟩ := List.forall_mem_cons.mp hall
    rw [List.foldlM_cons, hv]
    exact ih hrest _

theorem mem_of_lastEntry {key : String} {json : Json} (h : Json.lastEntry entries key = some json) :
    ∃ entry ∈ entries, entry.2 = json := by
  obtain ⟨entry, hfind, rfl⟩ := Option.map_eq_some_iff.mp h
  exact ⟨entry, List.mem_reverse.mp (List.mem_of_find?_eq_some hfind), rfl⟩

/-- Where the last entry of a key can be decoded, the map has what the entry says. -/
theorem rel_toOption_iff {S : V → V → Prop} {D : Json → V → Prop}
    (hdecode : ∀ json v, (∃ v', decode json = .ok v' ∧ S v' v) ↔ D json v) {last : Option Json}
    (hlast : ∀ json ∈ last, ∃ v', decode json = .ok v') (o : Option V) :
    Option.Rel S (last.elim none fun json => (decode json).toOption) o ↔ Option.Rel D last o := by
  cases last with
  | none => cases o <;> simp
  | some json =>
    obtain ⟨v', hv'⟩ := hlast json rfl
    cases o with
    | none => simp [hv', Except.toOption]
    | some v => simp [hv', Except.toOption, ← hdecode]

/-- A map is read with the last entry of each key, if all its entries can be decoded. -/
theorem exists_fromJson_iff {S : V → V → Prop} (hrefl : ∀ v, S v v) {D : Json → V → Prop}
    (hdecode : ∀ json v, (∃ v', decode json = .ok v' ∧ S v' v) ↔ D json v) (json : Json)
    (m : HashMap V) :
    (∃ m', fromJson decode json = .ok m' ∧
      ∀ key, Option.Rel S (m'.lookup key) (m.lookup key)) ↔ Describes D json m := by
  have hread : ∀ m', fromJson decode json = .ok m' ↔ ∃ entries, json = .obj entries ∧
      entries.foldlM (fun map entry => (decode entry.2).map (map.insert entry.1)) ∅ = .ok m' := by
    intro m'
    simp only [fromJson, except_bind_eq_ok_iff, Json.asMap_eq_ok_iff]
  -- all entries of the object are decoded, those that are replaced too
  have hkeys : ∀ {m' : HashMap V} {entries : List (String × Json)},
      entries.foldlM (fun map entry => (decode entry.2).map (map.insert entry.1)) ∅ = .ok m' →
        ∀ key, Option.Rel S (m'.lookup key) (m.lookup key) ↔
          Option.Rel D (Json.lastEntry entries key) (m.lookup key) := by
    intro m' entries hm' key
    obtain ⟨hall, hlookup⟩ := lookup_foldlM_insert hm'
    rw [hlookup key, AList.lookup_empty]
    refine rel_toOption_iff hdecode (fun json hlast => ?_) _
    obtain ⟨entry, hentry, rfl⟩ := mem_of_lastEntry hlast
    exact hall entry hentry
  simp only [hread, Describes]
  constructor
  · rintro ⟨m', ⟨entries, rfl, hm'⟩, hsame⟩
    refine ⟨entries, rfl, fun entry hentry => ?_, fun key => (hkeys hm' key).mp (hsame key)⟩
    obtain ⟨v, hv⟩ := (lookup_foldlM_insert hm').1 entry hentry
    exact ⟨v, (hdecode _ _).mp ⟨v, hv, hrefl v⟩⟩
  · rintro ⟨entries, rfl, hall, hlast⟩
    have hdecodes : ∀ entry ∈ entries, ∃ v, decode entry.2 = .ok v := by
      intro entry hentry
      obtain ⟨v, hv⟩ := hall entry hentry
      obtain ⟨v', hv', -⟩ := (hdecode _ _).mpr hv
      exact ⟨v', hv'⟩
    obtain ⟨m', hm'⟩ := exists_foldlM_insert hdecodes ∅
    exact ⟨m', ⟨entries, rfl, hm'⟩, fun key => (hkeys hm' key).mpr (hlast key)⟩

end HashMap

/-! ## Records -/

theorem IdentityPolicy.fromJson_eq_ok_iff (json : Json) (policy : IdentityPolicy) :
    fromJson json = .ok policy ↔ Describes json policy := by
  simp only [fromJson, except_bind_eq_ok_iff, Json.asFields_eq_ok_iff, Json.required_eq_ok_iff,
    Json.asString_eq_ok_iff, Json.asU32_eq_ok_iff, Describes]
  constructor
  · rintro ⟨fields, hfields, selector, hselector, ttlMinutes, httl, h⟩
    cases h
    exact ⟨fields, hfields, hselector, httl⟩
  · rintro ⟨fields, hfields, hselector, httl⟩
    exact ⟨fields, hfields, _, hselector, _, httl, rfl⟩

/-- The workloads of a VM are read with the last policy of each name. -/
theorem IdentityPolicy.exists_fromJson_map_iff (json : Json) (identities : HashMap IdentityPolicy) :
    (∃ identities', HashMap.fromJson IdentityPolicy.fromJson json = .ok identities' ∧
        ∀ name, identities'.lookup name = identities.lookup name) ↔
      HashMap.Describes IdentityPolicy.Describes json identities := by
  have hrel : ∀ o o' : Option IdentityPolicy, Option.Rel Eq o o' ↔ o = o' := by
    intro o o'
    cases o <;> cases o' <;> simp
  rw [← HashMap.exists_fromJson_iff (S := Eq) (fun _ => rfl) fun json policy => by
    rw [exists_eq_right, fromJson_eq_ok_iff]]
  simp only [hrel]

theorem VmEntry.fromJson_eq_ok_iff (json : Json) (vm : VmEntry) :
    fromJson json = .ok vm ↔ ∃ fields, json.Offers keys fields ∧
      Json.Says fields "vm_cid" (· = .num vm.vmCid.toNat) False ∧
      Json.Says fields "ip" (· = .ofOption vm.ip) (vm.ip = none) ∧
      Json.required fields "identities" (HashMap.fromJson IdentityPolicy.fromJson) =
        .ok vm.identities := by
  simp only [fromJson, except_bind_eq_ok_iff, Json.asFields_eq_ok_iff,
    Json.defaulted_asString_eq_ok_iff, ← Json.asU32_eq_ok_iff, ← Json.required_eq_ok_iff]
  constructor
  · rintro ⟨fields, hfields, vmCid, hcid, ip, hip, identities, hids, h⟩
    cases h
    exact ⟨fields, hfields, hcid, hip, hids⟩
  · rintro ⟨fields, hfields, hcid, hip, hids⟩
    exact ⟨fields, hfields, _, hcid, _, hip, _, hids, rfl⟩

/-- A VM is read with the same lookups as one that the value says. -/
theorem VmEntry.exists_fromJson_iff (json : Json) (vm : VmEntry) :
    (∃ vm', fromJson json = .ok vm' ∧ vm'.Same vm) ↔ Describes json vm := by
  simp only [fromJson_eq_ok_iff, Same, Describes]
  constructor
  · rintro ⟨vm', ⟨fields, hfields, hcid, hip, hids⟩, hcid', hip', hsame⟩
    rw [hcid'] at hcid
    rw [hip'] at hip
    exact ⟨fields, hfields, hcid, hip, (Json.exists_required_iff
      IdentityPolicy.exists_fromJson_map_iff _).mp ⟨vm'.identities, hids, hsame⟩⟩
  · rintro ⟨fields, hfields, hcid, hip, hids⟩
    obtain ⟨identities', hids', hsame⟩ :=
      (Json.exists_required_iff IdentityPolicy.exists_fromJson_map_iff _).mpr hids
    exact ⟨⟨vm.vmCid, vm.ip, identities'⟩, ⟨fields, hfields, hcid, hip, hids'⟩, rfl, rfl, hsame⟩

theorem HostConfig.fromJson_eq_ok_iff (json : Json) (cfg : HostConfig) :
    fromJson json = .ok cfg ↔ ∃ fields, json.Offers keys fields ∧
      Json.Says fields "ca_cert_path" (· = .str cfg.caCertPath) False ∧
      Json.Says fields "ca_key_path" (· = .str cfg.caKeyPath) False ∧
      Json.Says fields "server_port" (· = .num cfg.serverPort.toNat) (cfg.serverPort = 900) ∧
      Json.required fields "vms" (HashMap.fromJson VmEntry.fromJson) = .ok cfg.vms ∧
      Json.Says fields "peer_port" (· = .num cfg.peerPort.toNat) (cfg.peerPort = 901) := by
  simp only [fromJson, except_bind_eq_ok_iff, Json.asFields_eq_ok_iff, Json.field_asU32_eq_ok_iff,
    ← Json.asPathBuf_eq_ok_iff, ← Json.required_eq_ok_iff]
  constructor
  · rintro ⟨fields, hfields, caCertPath, hcert, caKeyPath, hkey, port, hport, vms, hvms, peer,
      hpeer, h⟩
    cases h
    exact ⟨fields, hfields, hcert, hkey, hport, hvms, hpeer⟩
  · rintro ⟨fields, hfields, hcert, hkey, hport, hvms, hpeer⟩
    exact ⟨fields, hfields, _, hcert, _, hkey, _, hport, _, hvms, _, hpeer, rfl⟩

theorem VmEntry.Same.refl (vm : VmEntry) : vm.Same vm := ⟨rfl, rfl, fun _ => rfl⟩

/-- A host configuration is read with the same lookups as one that the value says. -/
theorem HostConfig.exists_fromJson_iff (json : Json) (cfg : HostConfig) :
    (∃ cfg', fromJson json = .ok cfg' ∧ cfg'.Same cfg) ↔ Describes json cfg := by
  have hread := HashMap.exists_fromJson_iff VmEntry.Same.refl VmEntry.exists_fromJson_iff
  simp only [fromJson_eq_ok_iff, Same, Describes]
  constructor
  · rintro ⟨cfg', ⟨fields, hfields, hcert, hkey, hport, hvms, hpeer⟩, hcert', hkey', hport', hpeer',
      hsame⟩
    rw [hcert'] at hcert
    rw [hkey'] at hkey
    rw [hport'] at hport
    rw [hpeer'] at hpeer
    exact ⟨fields, hfields, hcert, hkey, hport,
      (Json.exists_required_iff hread _).mp ⟨cfg'.vms, hvms, hsame⟩, hpeer⟩
  · rintro ⟨fields, hfields, hcert, hkey, hport, hvms, hpeer⟩
    obtain ⟨vms', hvms', hsame⟩ := (Json.exists_required_iff hread _).mpr hvms
    exact ⟨⟨cfg.caCertPath, cfg.caKeyPath, cfg.serverPort, vms', cfg.peerPort⟩,
      ⟨fields, hfields, hcert, hkey, hport, hvms', hpeer⟩, rfl, rfl, rfl, rfl, hsame⟩

theorem AgentConfig.fromJson_eq_ok_iff (json : Json) (cfg : AgentConfig) :
    fromJson json = .ok cfg ↔ Describes json cfg := by
  simp only [fromJson, except_bind_eq_ok_iff, Json.asFields_eq_ok_iff, Json.field_asU32_eq_ok_iff,
    Json.defaulted_asString_eq_ok_iff, Json.required_eq_ok_iff, Json.asString_eq_ok_iff, Describes]
  constructor
  · rintro ⟨fields, hfields, vmName, hname, port, hport, client, hclient, socket, hsocket, h⟩
    cases h
    exact ⟨fields, hfields, hname, hport, hclient, hsocket⟩
  · rintro ⟨fields, hfields, hname, hport, hclient, hsocket⟩
    exact ⟨fields, hfields, _, hname, _, hport, _, hclient, _, hsocket, rfl⟩

/-! ## Loading -/

/-- The loader of the host returns what the file is parsed to, if that is accepted. -/
theorem HostConfig.fromFile_eq_ok_iff {readToString : String → Except String String}
    {fromStr : String → Except String HostConfig} {path : String} {cfg : HostConfig} :
    fromFile readToString fromStr path = .ok cfg ↔
      ∃ text, readToString path = .ok text ∧ fromStr text = .ok cfg ∧ cfg.Accepted := by
  constructor
  · intro h
    have haccepted : cfg.Accepted := ⟨readToString, fromStr, path, h⟩
    obtain ⟨text, htext, h⟩ := except_bind_eq_ok_iff.mp h
    obtain ⟨read, hread, h⟩ := except_bind_eq_ok_iff.mp h
    split at h
    · cases h
    · obtain ⟨⟨⟩, -, h⟩ := except_bind_eq_ok_iff.mp h
      cases h
      exact ⟨text, htext, hread, haccepted⟩
  · rintro ⟨text, htext, hread, readToString', fromStr', path', h⟩
    -- the checks are those that passed for the file it was accepted from
    obtain ⟨text', -, h⟩ := except_bind_eq_ok_iff.mp h
    obtain ⟨cfg', -, h⟩ := except_bind_eq_ok_iff.mp h
    refine except_bind_eq_ok_iff.mpr ⟨text, htext, except_bind_eq_ok_iff.mpr ⟨cfg, hread, ?_⟩⟩
    have hsame : cfg' = cfg := by
      split at h
      · cases h
      · obtain ⟨⟨⟩, -, h⟩ := except_bind_eq_ok_iff.mp h
        cases h
        rfl
    exact hsame ▸ h

theorem VmEntry.Same.symm {vm vm' : VmEntry} (h : vm.Same vm') : vm'.Same vm :=
  ⟨h.1.symm, h.2.1.symm, fun name => (h.2.2 name).symm⟩

theorem HostConfig.Same.symm {cfg cfg' : HostConfig} (h : cfg.Same cfg') : cfg'.Same cfg := by
  obtain ⟨hcert, hkey, hport, hpeer, hvms⟩ := h
  refine ⟨hcert.symm, hkey.symm, hport.symm, hpeer.symm, fun vmName => ?_⟩
  have hrel := hvms vmName
  generalize cfg.vms.lookup vmName = o, cfg'.vms.lookup vmName = o' at hrel ⊢
  cases hrel with
  | none => exact .none
  | some hvm => exact .some hvm.symm

/-- Whether a configuration is accepted depends on its lookups only. -/
theorem HostConfig.Same.accepted {cfg cfg' : HostConfig} (h : cfg'.Same cfg)
    (haccepted : cfg'.Accepted) : cfg.Accepted := by
  obtain ⟨hport, hsel⟩ := (accepted_iff _).mp haccepted
  obtain ⟨-, -, hport', -, hvms⟩ := h
  refine (accepted_iff _).mpr ⟨hport' ▸ hport, fun vmName vm hvm name policy hpolicy => ?_⟩
  have hrel := hvms vmName
  rw [hvm] at hrel
  cases hvm' : cfg'.vms.lookup vmName with
  | none =>
    rw [hvm'] at hrel
    cases hrel
  | some vm' =>
    rw [hvm'] at hrel
    obtain ⟨-, -, hids⟩ := Option.rel_some_some.mp hrel
    exact hsel vmName vm' hvm' name policy ((hids name).trans hpolicy)

theorem HostConfig.Same.refl (cfg : HostConfig) : cfg.Same cfg := by
  refine ⟨rfl, rfl, rfl, rfl, fun vmName => ?_⟩
  cases cfg.vms.lookup vmName with
  | none => exact .none
  | some vm => exact .some (VmEntry.Same.refl vm)

/-- The files that the host loads as a configuration, up to the order of its maps: those that say
it, with a server port below 1000 and selectors that all parse. -/
theorem host_config_loads_iff (readToString : String → Except String String)
    (parse : String → Except String Json) (path : String) (cfg : HostConfig) :
    (∃ cfg', HostConfig.fromFile readToString (fun text => parse text >>= HostConfig.fromJson)
        path = .ok cfg' ∧ cfg'.Same cfg) ↔
      ∃ text json, readToString path = .ok text ∧ parse text = .ok json ∧
        HostConfig.Describes json cfg ∧ cfg.serverPort < 1000 ∧
        ∀ vmName vm, cfg.vms.lookup vmName = some vm → ∀ name policy,
          vm.identities.lookup name = some policy → ∃ sel, policy.parseSelector = .ok sel := by
  simp only [HostConfig.fromFile_eq_ok_iff, except_bind_eq_ok_iff, ← accepted_iff]
  constructor
  · rintro ⟨cfg', ⟨text, htext, ⟨json, hjson, hread⟩, haccepted⟩, hsame⟩
    exact ⟨text, json, htext, hjson, (HostConfig.exists_fromJson_iff _ _).mp ⟨cfg', hread, hsame⟩,
      hsame.accepted haccepted⟩
  · rintro ⟨text, json, htext, hjson, hdescribes, haccepted⟩
    obtain ⟨cfg', hread, hsame⟩ := (HostConfig.exists_fromJson_iff _ _).mpr hdescribes
    exact ⟨cfg', ⟨text, htext, ⟨json, hjson, hread⟩, hsame.symm.accepted haccepted⟩, hsame⟩

/-- The files that the agent loads as a configuration: those that say it, with a server port below
1000. -/
theorem agent_config_loads_iff (readToString : String → Except String String)
    (parse : String → Except String Json) (path : String) (cfg : AgentConfig) :
    AgentConfig.fromFile readToString (fun text => parse text >>= AgentConfig.fromJson)
        path = .ok cfg ↔
      ∃ text json, readToString path = .ok text ∧ parse text = .ok json ∧
        AgentConfig.Describes json cfg ∧ cfg.serverPort < 1000 := by
  simp only [AgentConfig.fromFile, except_bind_eq_ok_iff, AgentConfig.fromJson_eq_ok_iff]
  constructor
  · rintro ⟨text, htext, cfg', ⟨json, hjson, hdescribes⟩, h⟩
    split at h
    · cases h
    · cases h
      exact ⟨text, json, htext, hjson, hdescribes, UInt32.not_le.mp ‹_›⟩
  · rintro ⟨text, json, htext, hjson, hdescribes, hport⟩
    refine ⟨text, htext, cfg, ⟨json, hjson, hdescribes⟩, ?_⟩
    rw [if_neg (UInt32.not_le.mpr hport)]
    rfl

/-- A file with the name of the VM only: the ports have their defaults, and there is no socket. -/
example : AgentConfig.fromJson (.obj [("vm_name", .str "web-vm"), ("note", .null)]) =
    .ok ⟨"web-vm", 900, 901, none⟩ := rfl

/-- An array has to go on to the socket. -/
example : AgentConfig.fromJson (.arr [.str "web-vm"]) =
    .error "invalid length 3, expected struct AgentConfig with 4 elements" := rfl

end AuthnScope
