import AuthnScope.Server.Config

/-!
# Policy resolution

`resolve` of `authn-scope-server/src/policy.rs`: from a VM name and an identity to a decision. The
product of minutes and 60 is taken in `u32`, which wraps around.

## Main results

* `resolve_eq_some_iff`: which pairs are authorised, and what is decided for them.
-/

namespace AuthnScope

/-- Result of a policy lookup. -/
structure PolicyDecision where
  vmName : String
  vmCid : UInt32
  ip : Option String
  validitySeconds : UInt32
  deriving DecidableEq, Repr

/-- Look up whether `vmName`/`identity` is authorised and retrieve policy. -/
def resolve (config : HostConfig) (vmName identity : String) : Option PolicyDecision := do
  let vmEntry ← config.vms.lookup vmName
  let policy ← vmEntry.identities.lookup identity
  return {
    vmName := vmName
    vmCid := vmEntry.vmCid
    ip := vmEntry.ip
    -- `u32` arithmetic, which wraps
    validitySeconds := policy.ttlMinutes * 60 }

/-- A VM has an identity registered under a policy. -/
def HostConfig.Registers (config : HostConfig) (vmName identity : String) (vm : VmEntry)
    (policy : IdentityPolicy) : Prop :=
  config.vms.lookup vmName = some vm ∧ vm.identities.lookup identity = some policy

/-- A pair is registered once. -/
theorem HostConfig.Registers.unique {config : HostConfig} {vmName identity : String}
    {vm vm' : VmEntry} {policy policy' : IdentityPolicy}
    (h : config.Registers vmName identity vm policy)
    (h' : config.Registers vmName identity vm' policy') : vm' = vm ∧ policy' = policy := by
  obtain ⟨hvm, hpolicy⟩ := h
  obtain ⟨hvm', hpolicy'⟩ := h'
  rw [hvm] at hvm'
  cases hvm'
  rw [hpolicy] at hpolicy'
  cases hpolicy'
  exact ⟨rfl, rfl⟩

/-- The one workload of a configuration is registered. -/
theorem registers_single (vmName : String) (vmCid : UInt32) (identity : String)
    (policy : IdentityPolicy) :
    (HostConfig.single vmName vmCid identity policy).Registers vmName identity
      ⟨vmCid, none, AList.singleton identity policy⟩ policy :=
  ⟨(HashMap.lookup_singleton_eq_some_iff _ _ _ _).mpr ⟨rfl, rfl⟩,
    (HashMap.lookup_singleton_eq_some_iff _ _ _ _).mpr ⟨rfl, rfl⟩⟩

/-- Exactly the registered pairs are authorised. -/
theorem resolve_eq_some_iff (config : HostConfig) (vmName identity : String)
    (decision : PolicyDecision) :
    resolve config vmName identity = some decision ↔
      ∃ vm policy, config.Registers vmName identity vm policy ∧
        decision = ⟨vmName, vm.vmCid, vm.ip, policy.ttlMinutes * 60⟩ := by
  unfold resolve HostConfig.Registers
  cases config.vms.lookup vmName with
  | none => simp
  | some vm =>
    cases hpolicy : vm.identities.lookup identity with
    | none => simp [hpolicy]
    | some policy => simp [hpolicy, eq_comm]

theorem resolve_eq_none_iff (config : HostConfig) (vmName identity : String) :
    resolve config vmName identity = none ↔
      ¬∃ vm policy, config.Registers vmName identity vm policy := by
  rw [← not_iff_not, not_not, ← ne_eq, Option.ne_none_iff_exists']
  constructor
  · rintro ⟨decision, h⟩
    obtain ⟨vm, policy, hreg, -⟩ := (resolve_eq_some_iff _ _ _ _).mp h
    exact ⟨vm, policy, hreg⟩
  · rintro ⟨vm, policy, hreg⟩
    exact ⟨_, (resolve_eq_some_iff _ _ _ _).mpr ⟨vm, policy, hreg, rfl⟩⟩

end AuthnScope
