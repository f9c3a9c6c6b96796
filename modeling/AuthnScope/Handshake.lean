import AuthnScope.Agent.Attest
import AuthnScope.Agent.Symbolic
import AuthnScope.Proto.Decode
import AuthnScope.Server.Symbolic

/-!
# The handshake and the policy

The host decides twice about the workloads of a VM: the handshake lists them with their selectors,
and a certificate request looks one of them up. Between the two, the agent picks a name from the
list it was sent. The three speak of the same names.

## Main definitions

* `Granted`: a certificate request that gets past the policy and the CID check.

## Main results

* `handshake_eq`: the answer to a handshake of a registered VM;
* `lookup_handshake_iff`: the list holds the authorised names, with what is decided for them;
* `handshake_policy_agree`: every name the agent can pick from the list is granted.
-/

namespace AuthnScope

open Outcome

section

variable {KeyPair PublicKey : Type} {lib : X509Lib KeyPair PublicKey} {env : SigningEnv}
  {config : HostConfig} {ca : CertificateAuthority} {vmName : String} {vm : VmEntry}

/-- A certificate request of the VM with the CID gets past the policy and the CID check: whether it
is answered with a certificate is up to the signing of its CSR. -/
def Granted (lib : X509Lib KeyPair PublicKey) (env : SigningEnv) (config : HostConfig)
    (ca : CertificateAuthority) (peerCid : UInt32) (vmName identity : String)
    (decision : PolicyDecision) : Prop :=
  ∀ csrPem, respond lib env config ca peerCid
      (.certRequest protocolVersion vmName identity csrPem) =
    match signCsr lib env ca ⟨csrPem, identity, vmName, peerCid, decision.ip,
        decision.validitySeconds⟩ with
    | .ok certPem => .ok (.certOk certPem ca.certPem)
    | .error e => .error s!"signing failed: {e.toString}"

/-- A registered VM whose selectors all parse is answered with its workloads, if it speaks the
version of the host. -/
theorem handshake_eq {built : HashMap WorkloadConfig}
    (hvm : config.vms.lookup vmName = some vm) (hbuild : buildWorkloads vm.identities = .ok built)
    (version : UInt32) :
    respond lib env config ca vm.vmCid (.handshake version vmName) =
      .ok (if version = protocolVersion then .handshakeOk built
        else .error (versionMessage version)) := by
  by_cases hversion : version = protocolVersion
  · simp [respond, hversion, hvm, hbuild]
  · simp [respond, hversion]

/-- The list that a VM is sent holds the names that are authorised for it, each with its parsed
selector and the lifetime that is decided for it. -/
theorem lookup_handshake_iff {built : HashMap WorkloadConfig}
    (hvm : config.vms.lookup vmName = some vm) (hbuild : buildWorkloads vm.identities = .ok built)
    (name : String) (workload : WorkloadConfig) :
    built.lookup name = some workload ↔
      ∃ decision policy, resolve config vmName name = some decision ∧
        vm.identities.lookup name = some policy ∧
        policy.parseSelector = .ok workload.selector ∧
        workload.validitySeconds = decision.validitySeconds := by
  rw [lookup_buildWorkloads hbuild]
  constructor
  · rintro ⟨policy, selector, hpolicy, hselector, rfl⟩
    exact ⟨_, policy, (resolve_eq_some_iff _ _ _ _).mpr ⟨vm, policy, ⟨hvm, hpolicy⟩, rfl⟩, hpolicy,
      hselector, rfl⟩
  · rintro ⟨decision, policy, hresolve, hpolicy, hselector, hvalidity⟩
    obtain ⟨vm', policy', hreg, rfl⟩ := (resolve_eq_some_iff _ _ _ _).mp hresolve
    obtain ⟨rfl, rfl⟩ := hreg.unique ⟨hvm, hpolicy⟩
    rcases workload with ⟨selector, validitySeconds⟩
    simp only at hvalidity hselector
    subst hvalidity
    exact ⟨policy, selector, hpolicy, hselector, rfl⟩

/-- A VM's request for a name that is authorised for it is granted. -/
theorem granted_of_resolve {name : String} {decision : PolicyDecision}
    (hvm : config.vms.lookup vmName = some vm)
    (hresolve : resolve config vmName name = some decision) :
    decision.vmCid = vm.vmCid ∧ Granted lib env config ca vm.vmCid vmName name decision := by
  obtain ⟨vm', policy, ⟨hvm', hpolicy⟩, rfl⟩ := (resolve_eq_some_iff _ _ _ _).mp hresolve
  rw [hvm, Option.some.injEq] at hvm'
  subst hvm'
  refine ⟨rfl, fun csrPem => ?_⟩
  cases hsign : signCsr lib env ca
      ⟨csrPem, name, vmName, vm.vmCid, vm.ip, policy.ttlMinutes * 60⟩ with
  | ok certPem => simp [respond, hresolve, hsign]
  | error e => simp [respond, hresolve, hsign]

/-- Under every configuration that the loader accepts, a handshake from the CID of a registered VM
is answered with a list of workloads, unless its version is wrong. The list holds exactly the names
that the policy authorises for the VM, with their parsed selectors and the lifetimes of the policy.
The agent reads the list back, in some order, and every name that it matches a process to is granted
when it is requested from the same VM. -/
theorem handshake_policy_agree (lib : X509Lib KeyPair PublicKey) (env : SigningEnv)
    (ca : CertificateAuthority) (hacc : config.Accepted)
    (hvm : config.vms.lookup vmName = some vm) :
    ∃ built : HashMap WorkloadConfig,
      (∀ version, respond lib env config ca vm.vmCid (.handshake version vmName) =
        .ok (if version = protocolVersion then .handshakeOk built
          else .error (versionMessage version))) ∧
      (∀ name, (∃ workload, built.lookup name = some workload) ↔
        (resolve config vmName name).isSome) ∧
      (∀ name workload, built.lookup name = some workload →
        ∃ decision policy, resolve config vmName name = some decision ∧
          vm.identities.lookup name = some policy ∧
          policy.parseSelector = .ok workload.selector ∧
          workload.validitySeconds = decision.validitySeconds) ∧
      ∃ received : HashMap WorkloadConfig,
        AgentResponse.fromJson (AgentResponse.handshakeOk built).toJson =
          .ok (.handshakeOk received) ∧
        ∀ workloads : HashMap WorkloadConfig, workloads.entries.Perm received.entries →
          ∀ db proc name, matchWorkload db proc workloads = some name →
            ∃ decision, resolve config vmName name = some decision ∧
              decision.vmCid = vm.vmCid ∧
              Granted lib env config ca vm.vmCid vmName name decision := by
  -- the loader has parsed every selector, so the loop of the handshake runs through
  have hparse := ((accepted_iff config).mp hacc).2 vmName vm hvm
  obtain ⟨built, hbuild⟩ := exists_buildWorkloads hparse
  have hlookup := lookup_handshake_iff hvm hbuild
  obtain ⟨received, hperm, hreceived⟩ := AgentResponse.fromJson_toJson_handshakeOk built
  refine ⟨built, handshake_eq hvm hbuild, fun name => ?_, fun name workload =>
    (hlookup name workload).mp, received, hreceived, ?_⟩
  · rw [Option.isSome_iff_exists]
    constructor
    · rintro ⟨workload, h⟩
      obtain ⟨decision, -, hresolve, -⟩ := (hlookup name workload).mp h
      exact ⟨decision, hresolve⟩
    · rintro ⟨decision, hresolve⟩
      obtain ⟨vm', policy, ⟨hvm', hpolicy⟩, -⟩ := (resolve_eq_some_iff _ _ _ _).mp hresolve
      rw [hvm, Option.some.injEq] at hvm'
      subst hvm'
      obtain ⟨selector, hselector⟩ := hparse name policy hpolicy
      exact ⟨⟨selector, decision.validitySeconds⟩,
        (hlookup _ _).mpr ⟨decision, policy, hresolve, hpolicy, hselector, rfl⟩⟩
  · intro workloads hworkloads db proc name hname
    -- the name is in the list, whatever the order the map is iterated in
    obtain ⟨workload, hmem, -⟩ := matchWorkload_eq_some hname
    rw [AList.perm_lookup (hworkloads.trans hperm)] at hmem
    obtain ⟨decision, -, hresolve, -⟩ := (hlookup name workload).mp hmem
    exact ⟨decision, hresolve, granted_of_resolve hvm hresolve⟩

end

/-- A VM with two workloads: a process is matched to the one of its user, which is granted. -/
theorem handshake_policy_agree_user :
    ∃ built received : HashMap WorkloadConfig,
      AgentResponse.fromJson (AgentResponse.handshakeOk built).toJson =
        .ok (.handshakeOk received) ∧
      received.lookup "db" ≠ none ∧
      matchWorkload Symbolic.granted.db Symbolic.web received = some "web" ∧
      ∃ decision, resolve Symbolic.twoWorkloadsConfig "vm-a" "web" = some decision ∧
        decision.vmCid = 3 ∧
        Granted Symbolic.lib ⟨dateTimeJan1 2025, [], []⟩ Symbolic.twoWorkloadsConfig
          (Symbolic.authority 1 1) 3 "vm-a" "web" decision := by
  obtain ⟨built, hanswer, -, -, received, hreceived, hnames⟩ :=
    handshake_policy_agree Symbolic.lib ⟨dateTimeJan1 2025, [], []⟩ (Symbolic.authority 1 1)
      Symbolic.accepted_twoWorkloadsConfig
      (rfl : Symbolic.twoWorkloadsConfig.vms.lookup "vm-a" = some Symbolic.twoWorkloads)
  -- the list that is sent, and the list that is read
  obtain ⟨built', received', hanswer', hreceived', hdb, hmatch⟩ :
      ∃ built' received' : HashMap WorkloadConfig,
        respond Symbolic.lib ⟨dateTimeJan1 2025, [], []⟩ Symbolic.twoWorkloadsConfig
            (Symbolic.authority 1 1) 3 (.handshake protocolVersion "vm-a") =
          .ok (.handshakeOk built') ∧
        AgentResponse.fromJson (AgentResponse.handshakeOk built').toJson =
          .ok (.handshakeOk received') ∧
        received'.lookup "db" ≠ none ∧
        matchWorkload Symbolic.granted.db Symbolic.web received' = some "web" :=
    ⟨_, _, rfl, rfl, by decide, rfl⟩
  cases hanswer'.symm.trans (hanswer protocolVersion)
  cases hreceived'.symm.trans hreceived
  exact ⟨built, received, hreceived, hdb, hmatch,
    hnames received (List.Perm.refl _) Symbolic.granted.db Symbolic.web "web" hmatch⟩

end AuthnScope
