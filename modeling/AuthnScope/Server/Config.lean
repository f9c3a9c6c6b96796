import AuthnScope.Lib.Outcome
import AuthnScope.Lib.Text
import AuthnScope.Proto.Wire

/-!
# Host CA server configuration

`authn-scope-server/src/config.rs`: the host configuration, the selector parser and the loader.
Reading the file and `serde_json::from_str` are parameters of the loader. A configuration that
some file makes the loader return is `Accepted`.

The grammar of selector strings is in `Server.SelectorGrammar`.

## Main results

* `accepted_iff`: the loader accepts exactly the configurations with a port below 1000 whose
  selectors all parse.
-/

namespace AuthnScope

open Outcome RustText

/-- Policy for a single Workload running inside a VM. -/
structure IdentityPolicy where
  selector : String
  ttlMinutes : UInt32
  deriving DecidableEq, Repr

/-- Per-VM configuration entry. -/
structure VmEntry where
  vmCid : UInt32
  ip : Option String
  identities : HashMap IdentityPolicy
  deriving DecidableEq

/-- Top-level host configuration. -/
structure HostConfig where
  caCertPath : String
  caKeyPath : String
  serverPort : UInt32
  vms : HashMap VmEntry
  peerPort : UInt32
  deriving DecidableEq

/-! ## The selector parser -/

/-- The variables of the loop in `parse_selector`. -/
structure SelectorState where
  unix : UnixSelector
  systemd : SystemdSelector
  hasUnix : Bool
  hasSystemd : Bool
  deriving DecidableEq, Repr

/-- The variables before the loop. -/
def SelectorState.init : SelectorState := ⟨.default, .default, false, false⟩

/-- One iteration of the loop in `parse_selector`. -/
def parsePart (st : SelectorState) (part : String) : Except String SelectorState :=
  let part := trim part
  if part.isEmpty then .ok st
  else
    -- the third piece keeps its colons
    match splitn 3 part ':' with
    | domain :: key :: value :: _ =>
      match domain, key with
      | "unix", "user" =>
        .ok { st with unix := { st.unix with user := some value }, hasUnix := true }
      | "unix", "group" =>
        .ok { st with unix := { st.unix with group := some value }, hasUnix := true }
      | "unix", "bin" =>
        .ok { st with unix := { st.unix with binPath := some value }, hasUnix := true }
      | "systemd", "unitname" =>
        .ok { st with systemd := { st.systemd with unitname := some value }, hasSystemd := true }
      | "systemd", "unitpath" =>
        .ok { st with systemd := { st.systemd with unitpath := some value }, hasSystemd := true }
      | _, _ => .error s!"Unknown selector component: '{part}'"
    | _ => .error s!"Invalid selector component: '{part}'"

/-- Parse the selector string into `SelectorConfig` wire representation. -/
def IdentityPolicy.parseSelector (policy : IdentityPolicy) : Except String SelectorConfig := do
  let st ← (split policy.selector ',').foldlM parsePart SelectorState.init
  -- a selector without any component passes this check as well
  if st.unix.binPath.isSome && (st.unix.user.isNone || st.unix.group.isNone) then
    .error ("if bin-path is specified then it must be attached to a user:group " ++
      "(both unix:user and unix:group must be present)")
  else
    .ok {
      unix := if st.hasUnix then some st.unix else none
      systemd := if st.hasSystemd then some st.systemd else none }

/-- The selector check of one VM in `from_file`. -/
def VmEntry.checkSelectors (vmName : String) (vm : VmEntry) : Except String Unit :=
  vm.identities.entries.forM fun ⟨workloadName, policy⟩ =>
    match policy.parseSelector with
    | .ok _ => .ok ()
    | .error e => .error s!"VM '{vmName}' workload '{workloadName}' selector error: {e}"

/-- Load and parse the config from a JSON file. -/
def HostConfig.fromFile (readToString : String → Except String String)
    (fromStr : String → Except String HostConfig) (path : String) :
    Except String HostConfig := do
  let data ← readToString path
  let cfg ← fromStr data
  if cfg.serverPort ≥ 1000 then
    .error s!"server_port must be less than 1000, got {cfg.serverPort}"
  else
    cfg.vms.entries.forM fun ⟨vmName, vm⟩ => vm.checkSelectors vmName
    return cfg

/-- The loader returns this configuration for some file. -/
def HostConfig.Accepted (cfg : HostConfig) : Prop :=
  ∃ readToString fromStr path, HostConfig.fromFile readToString fromStr path = .ok cfg

/-- A configuration with the default ports and one VM that runs one workload. -/
def HostConfig.single (vmName : String) (vmCid : UInt32) (identity : String)
    (policy : IdentityPolicy) : HostConfig where
  caCertPath := "/etc/authn-scope/ca/ca-cert.pem"
  caKeyPath := "/etc/authn-scope/ca/ca-key.pem"
  serverPort := 900
  vms := AList.singleton vmName ⟨vmCid, none, AList.singleton identity policy⟩
  peerPort := 901

/-! ## What the loader accepts -/

theorem checkSelectors_eq_ok_iff (vmName : String) (vm : VmEntry) :
    vm.checkSelectors vmName = .ok ⟨⟩ ↔
      ∀ name policy, vm.identities.lookup name = some policy →
        ∃ sel, policy.parseSelector = .ok sel := by
  rw [VmEntry.checkSelectors, forM_eq_ok_iff]
  constructor
  · intro h name policy hlookup
    have hcheck := h _ ((HashMap.lookup_eq_some_iff _ _ _).mp hlookup)
    cases hparse : policy.parseSelector with
    | ok sel => exact ⟨sel, rfl⟩
    | error e => simp [hparse] at hcheck
  · rintro h ⟨name, policy⟩ hmem
    obtain ⟨sel, hsel⟩ := h name policy ((HashMap.lookup_eq_some_iff _ _ _).mpr hmem)
    simp [hsel]

/-- The loader accepts a configuration exactly when its port is below 1000 and every registered
selector parses. -/
theorem accepted_iff (cfg : HostConfig) :
    cfg.Accepted ↔ cfg.serverPort < 1000 ∧
      ∀ vmName vm, cfg.vms.lookup vmName = some vm → ∀ name policy,
        vm.identities.lookup name = some policy → ∃ sel, policy.parseSelector = .ok sel := by
  have hchecks : (cfg.vms.entries.forM fun ⟨vmName, vm⟩ => vm.checkSelectors vmName) = .ok ⟨⟩ ↔
      ∀ vmName vm, cfg.vms.lookup vmName = some vm → ∀ name policy,
        vm.identities.lookup name = some policy → ∃ sel, policy.parseSelector = .ok sel := by
    rw [forM_eq_ok_iff]
    constructor
    · intro h vmName vm hvm
      have hmem := (HashMap.lookup_eq_some_iff _ _ _).mp hvm
      exact (checkSelectors_eq_ok_iff vmName vm).mp (h _ hmem)
    · rintro h ⟨vmName, vm⟩ hmem
      have hvm := (HashMap.lookup_eq_some_iff _ _ _).mpr hmem
      exact (checkSelectors_eq_ok_iff vmName vm).mpr (h vmName vm hvm)
  constructor
  · rintro ⟨readToString, fromStr, path, h⟩
    unfold HostConfig.fromFile at h
    obtain ⟨data, -, h⟩ := except_bind_eq_ok_iff.mp h
    obtain ⟨read, -, h⟩ := except_bind_eq_ok_iff.mp h
    split at h
    · cases h
    · rename_i hport
      obtain ⟨⟨⟩, hall, h⟩ := except_bind_eq_ok_iff.mp h
      cases h
      exact ⟨UInt32.not_le.mp hport, hchecks.mp hall⟩
  · rintro ⟨hport, hsel⟩
    -- some file holds this configuration
    refine ⟨fun _ => .ok "", fun _ => .ok cfg, "", ?_⟩
    unfold HostConfig.fromFile
    refine except_bind_eq_ok_iff.mpr ⟨"", rfl, except_bind_eq_ok_iff.mpr ⟨cfg, rfl, ?_⟩⟩
    rw [if_neg (UInt32.not_le.mpr hport)]
    exact except_bind_eq_ok_iff.mpr ⟨⟨⟩, hchecks.mpr hsel, rfl⟩

/-- A configuration with one workload is accepted when its selector parses. -/
theorem accepted_single (vmName : String) (vmCid : UInt32) (identity : String)
    {policy : IdentityPolicy} {sel : SelectorConfig} (h : policy.parseSelector = .ok sel) :
    (HostConfig.single vmName vmCid identity policy).Accepted := by
  have hport : (900 : UInt32) < 1000 := by decide
  refine (accepted_iff _).mpr ⟨hport, fun vmName' vm hvm name policy' hpolicy => ?_⟩
  obtain ⟨-, rfl⟩ := (HashMap.lookup_singleton_eq_some_iff _ _ _ _).mp hvm
  obtain ⟨-, rfl⟩ := (HashMap.lookup_singleton_eq_some_iff _ _ _ _).mp hpolicy
  exact ⟨sel, h⟩

end AuthnScope
