import AuthnScope.Ca.Symbolic
import AuthnScope.Server.Handler

/-!
# A host on the symbolic library

Hosts with a workload in one or two VMs, or with two in one, whose CA works on the symbolic X.509
library.

## Main definitions

* `Symbolic.hostConfig`, `Symbolic.pairConfig`, `Symbolic.twoWorkloadsConfig`: their
  configurations.

## Main results

* `Symbolic.exists_answer`: the host signs every request of its workload;
* `Symbolic.accepted_pairConfig`: the loader accepts a configuration of two VMs.
-/

namespace AuthnScope

namespace Symbolic

/-- The workload `web` of `vm-a`, registered for a user. -/
def hostConfig (ttlMinutes : UInt32) : HostConfig :=
  .single "vm-a" 3 "web" ⟨"unix:user:www", ttlMinutes⟩

/-- A VM that runs the workload `web`. -/
def vm (vmCid : UInt32) (ip : Option String) : VmEntry :=
  ⟨vmCid, ip, AList.singleton "web" ⟨"unix:user:www", 60⟩⟩

/-- Two VMs. -/
def pairConfig (a b : VmEntry) : HostConfig :=
  { hostConfig 60 with vms := (AList.singleton "vm-a" a).insert "vm-b" b }

/-- The two VMs of the configuration are its only ones. -/
theorem lookup_pairConfig_eq_some_iff (a b : VmEntry) (vmName : String) (entry : VmEntry) :
    (pairConfig a b).vms.lookup vmName = some entry ↔
      vmName = "vm-a" ∧ entry = a ∨ vmName = "vm-b" ∧ entry = b := by
  rw [pairConfig]
  by_cases hb : vmName = "vm-b"
  · subst hb
    rw [AList.lookup_insert]
    simp [eq_comm]
  · rw [AList.lookup_insert_ne hb, HashMap.lookup_singleton_eq_some_iff]
    simp [hb]

/-- The loader accepts two VMs that run the workload. -/
theorem accepted_pairConfig (vmCid vmCid' : UInt32) (ip ip' : Option String) :
    (pairConfig (vm vmCid ip) (vm vmCid' ip')).Accepted := by
  have hport : (900 : UInt32) < 1000 := by decide
  refine (accepted_iff _).mpr ⟨hport, fun vmName entry hvm name policy hpolicy => ?_⟩
  have hidentities : entry.identities = AList.singleton "web" ⟨"unix:user:www", 60⟩ := by
    rcases (lookup_pairConfig_eq_some_iff _ _ _ _).mp hvm with ⟨-, rfl⟩ | ⟨-, rfl⟩ <;> rfl
  rw [hidentities] at hpolicy
  obtain ⟨-, rfl⟩ := (HashMap.lookup_singleton_eq_some_iff _ _ _ _).mp hpolicy
  exact ⟨⟨some ⟨some "www", none, none⟩, none⟩, by rfl⟩

/-- The workload is registered for both. -/
theorem registers_pairConfig (vmCid vmCid' : UInt32) (ip ip' : Option String) :
    (pairConfig (vm vmCid ip) (vm vmCid' ip')).Registers "vm-a" "web" (vm vmCid ip)
        ⟨"unix:user:www", 60⟩ ∧
      (pairConfig (vm vmCid ip) (vm vmCid' ip')).Registers "vm-b" "web" (vm vmCid' ip')
        ⟨"unix:user:www", 60⟩ := by
  have hpolicy := (HashMap.lookup_singleton_eq_some_iff "web" "web"
    (⟨"unix:user:www", 60⟩ : IdentityPolicy) _).mpr ⟨rfl, rfl⟩
  exact ⟨⟨(lookup_pairConfig_eq_some_iff _ _ _ _).mpr (Or.inl ⟨rfl, rfl⟩), hpolicy⟩,
    (lookup_pairConfig_eq_some_iff _ _ _ _).mpr (Or.inr ⟨rfl, rfl⟩), hpolicy⟩

/-- A VM that runs the workload `web` of one user and the workload `db` of another one. -/
def twoWorkloads : VmEntry :=
  ⟨3, none, (AList.singleton "web" ⟨"unix:user:www", 60⟩).insert "db" ⟨"unix:user:postgres", 30⟩⟩

/-- A host with that VM. -/
def twoWorkloadsConfig : HostConfig :=
  { hostConfig 60 with vms := AList.singleton "vm-a" twoWorkloads }

/-- The loader accepts it. -/
theorem accepted_twoWorkloadsConfig : twoWorkloadsConfig.Accepted := by
  have hport : (900 : UInt32) < 1000 := by decide
  refine (accepted_iff _).mpr ⟨hport, fun vmName entry hvm name policy hpolicy => ?_⟩
  obtain ⟨-, rfl⟩ := (HashMap.lookup_singleton_eq_some_iff _ _ _ _).mp hvm
  by_cases hdb : name = "db"
  · rw [hdb, twoWorkloads, AList.lookup_insert] at hpolicy
    cases hpolicy
    exact ⟨⟨some ⟨some "postgres", none, none⟩, none⟩, by rfl⟩
  · rw [twoWorkloads, AList.lookup_insert_ne hdb] at hpolicy
    obtain ⟨-, rfl⟩ := (HashMap.lookup_singleton_eq_some_iff _ _ _ _).mp hpolicy
    exact ⟨⟨some ⟨some "www", none, none⟩, none⟩, by rfl⟩

/-- The server signs every request of a registered workload with an ASCII name, whatever common
name it carries. -/
theorem exists_answer (env : SigningEnv) (certKey key : ℕ) (vmName : String)
    (vmCid : UInt32) {identity : String} (policy : IdentityPolicy)
    (hascii : ∀ c ∈ identity.toList, c.toNat < 128) (commonName : String) (publicKey : ℕ) :
    ∃ certPem, answer lib env (HostConfig.single vmName vmCid identity policy)
      (authority certKey key) vmCid
      (.certRequest protocolVersion vmName identity (csr commonName publicKey)) =
        .certOk certPem (authority certKey key).certPem := by
  obtain ⟨leaf, hleaf⟩ := exists_signCsr env certKey key commonName publicKey hascii vmName vmCid
    (policy.ttlMinutes * 60)
  refine ⟨leaf, (answer_eq_iff (by simp)).mpr ((respond_certOk_iff _ _ _).mpr ?_)⟩
  exact ⟨vmName, identity, _, _, policy, rfl, registers_single vmName vmCid identity policy, rfl,
    hleaf, rfl⟩

end Symbolic

end AuthnScope
