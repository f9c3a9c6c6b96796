import AuthnScope.Server.Decision
import AuthnScope.Server.Symbolic

/-!
# What one VM gets of the others

The server knows a peer by its CID alone; the VM that a request is for is named by the peer. Two
things keep the VMs apart. A name is only good for a peer with the CID it is registered with, so
that a CID speaks for one VM if it is registered once. And a peer is sent nothing about the other
VMs but what the errors say of the VM it names: that it is not registered, or has another CID.

## Main definitions

* `SpeaksFor`: a peer is granted a request that names the VM;
* `HostConfig.AgreeOn`: two configurations register the same VMs with a CID;
* `responseTo`: the response to what a peer sends;
* `SameView`: two configurations say the same of the VM a request names.

## Main results

* `speaksFor_unique_iff`: when a CID speaks for one VM only;
* `responseTo_eq_iff`: when a peer sees no difference between two configurations.
-/

namespace AuthnScope

open Framing Outcome

/-- The VM a request names. -/
def AgentRequest.vmName : AgentRequest → String
  | .handshake _ vmName => vmName
  | .certRequest _ vmName _ _ => vmName

section

variable {KeyPair PublicKey : Type} (lib : X509Lib KeyPair PublicKey)
  (reqSerde : Serde AgentRequest) (respSerde : Serde AgentResponse) (env : SigningEnv)
  (config : HostConfig) (ca : CertificateAuthority) (peerCid : UInt32)

/-- A peer with the CID is sent a certificate or a map of workloads for a request that names the
VM. -/
def SpeaksFor (vmName : String) : Prop :=
  ∃ env req resp, req.vmName = vmName ∧ (∀ e, resp ≠ .error e) ∧
    answer lib env config ca peerCid req = resp

/-- The two configurations register the same VMs with the CID. -/
def HostConfig.AgreeOn (config config' : HostConfig) (cid : UInt32) : Prop :=
  ∀ vmName vm, vm.vmCid = cid →
    (config.vms.lookup vmName = some vm ↔ config'.vms.lookup vmName = some vm)

/-- For the VM that the request names, the two configurations have the same CID registered, or
none, and for a request of a certificate both have the identity registered, or none. -/
def SameView (config config' : HostConfig) : AgentRequest → Prop
  | .handshake version vmName => version = protocolVersion →
    (config.vms.lookup vmName).map (·.vmCid) = (config'.vms.lookup vmName).map (·.vmCid)
  | .certRequest version vmName identity _ => version = protocolVersion →
    ((∃ vm policy, config.Registers vmName identity vm policy) ↔
      ∃ vm policy, config'.Registers vmName identity vm policy)

variable {lib} {reqSerde} {respSerde} {env} {config} {ca} {peerCid}

/-! ## The VMs of a CID -/

/-- A peer speaks for the VMs that are registered with its CID. -/
theorem speaksFor_iff (hacc : config.Accepted) (vmName : String) :
    SpeaksFor lib config ca peerCid vmName ↔
      ∃ vm, config.vms.lookup vmName = some vm ∧ vm.vmCid = peerCid := by
  constructor
  · rintro ⟨env, req, resp, rfl, hresp, hanswer⟩
    rw [answer_eq_iff hresp] at hanswer
    -- either kind of response is granted for the VM the request names
    cases resp with
    | handshakeOk workloads =>
      obtain ⟨vmName, vm, rfl, hvm, hcid, -⟩ := (respond_handshakeOk_iff _ _).mp hanswer
      exact ⟨vm, hvm, hcid⟩
    | certOk certPem caCertPem =>
      obtain ⟨vmName, identity, csrPem, vm, policy, rfl, hreg, hcid, -⟩ :=
        (respond_certOk_iff _ _ _).mp hanswer
      exact ⟨vm, hreg.1, hcid⟩
    | error e => exact absurd rfl (hresp e)
  · -- the selectors were checked by the loader, so a handshake is granted
    rintro ⟨vm, hvm, hcid⟩
    obtain ⟨workloads, hbuild⟩ :=
      exists_buildWorkloads (((accepted_iff config).mp hacc).2 vmName vm hvm)
    refine ⟨⟨dateTimeJan1 2025, [], []⟩, .handshake protocolVersion vmName,
      .handshakeOk workloads, rfl, by simp, ?_⟩
    rw [answer_eq_iff (by simp), respond_handshakeOk_iff]
    exact ⟨vmName, vm, rfl, hvm, hcid, hbuild⟩

/-- A peer speaks for one VM only, exactly when no two VMs are registered with its CID. -/
theorem speaksFor_unique_iff (hacc : config.Accepted) (lib : X509Lib KeyPair PublicKey)
    (ca : CertificateAuthority) (peerCid : UInt32) :
    (∀ vmName vmName', SpeaksFor lib config ca peerCid vmName →
        SpeaksFor lib config ca peerCid vmName' → vmName = vmName') ↔
      ∀ vmName vmName' vm vm', config.vms.lookup vmName = some vm →
        config.vms.lookup vmName' = some vm' → vm.vmCid = peerCid → vm'.vmCid = peerCid →
        vmName = vmName' := by
  constructor
  · intro h vmName vmName' vm vm' hvm hvm' hcid hcid'
    exact h vmName vmName' ((speaksFor_iff hacc _).mpr ⟨vm, hvm, hcid⟩)
      ((speaksFor_iff hacc _).mpr ⟨vm', hvm', hcid'⟩)
  · intro h vmName vmName' hspeaks hspeaks'
    obtain ⟨vm, hvm, hcid⟩ := (speaksFor_iff hacc _).mp hspeaks
    obtain ⟨vm', hvm', hcid'⟩ := (speaksFor_iff hacc _).mp hspeaks'
    exact h vmName vmName' vm vm' hvm hvm' hcid hcid'

/-- The peer of a VM whose CID is registered once speaks for no other VM. -/
theorem speaksFor_unique_pairConfig :
    let config := Symbolic.pairConfig (Symbolic.vm 3 none) (Symbolic.vm 4 none)
    ¬∃ vmName, vmName ≠ "vm-a" ∧
      SpeaksFor Symbolic.lib config (Symbolic.authority 1 1) 3 vmName := by
  have hacc := Symbolic.accepted_pairConfig 3 4 none none
  rintro config ⟨vmName, hne, hspeaks⟩
  -- of the two VMs only one has the CID 3
  have honly : ∀ vmName vm, config.vms.lookup vmName = some vm → vm.vmCid = 3 →
      vmName = "vm-a" := by
    intro vmName vm hvm hcid
    rcases (Symbolic.lookup_pairConfig_eq_some_iff _ _ _ _).mp hvm with ⟨hname, -⟩ | ⟨-, rfl⟩
    · exact hname
    · cases hcid
  have ha : SpeaksFor Symbolic.lib config (Symbolic.authority 1 1) 3 "vm-a" :=
    (speaksFor_iff hacc _).mpr ⟨_, (Symbolic.registers_pairConfig 3 4 none none).1.1, rfl⟩
  refine hne ((speaksFor_unique_iff hacc _ _ _).mpr ?_ vmName "vm-a" hspeaks ha)
  intro vmName vmName' vm vm' hvm hvm' hcid hcid'
  rw [honly vmName vm hvm hcid, honly vmName' vm' hvm' hcid']

/-- The loader accepts two VMs with the same CID, and the peer of the one speaks for the other. -/
theorem speaksFor_both_pairConfig :
    let config := Symbolic.pairConfig (Symbolic.vm 3 none) (Symbolic.vm 3 none)
    config.Accepted ∧ SpeaksFor Symbolic.lib config (Symbolic.authority 1 1) 3 "vm-a" ∧
      SpeaksFor Symbolic.lib config (Symbolic.authority 1 1) 3 "vm-b" := by
  have hacc := Symbolic.accepted_pairConfig 3 3 none none
  obtain ⟨ha, hb⟩ := Symbolic.registers_pairConfig 3 3 none none
  exact ⟨hacc, (speaksFor_iff hacc _).mpr ⟨_, ha.1, rfl⟩,
    (speaksFor_iff hacc _).mpr ⟨_, hb.1, rfl⟩⟩

/-! ## Two configurations -/

/-- Different CIDs are told apart. -/
theorem toString_uint32_inj {a b : UInt32} (h : toString a = toString b) : a = b := by
  have hdigits := congrArg (fun s : String => Nat.ofDigitChars 10 s.toList 0) h
  simp only [toString, Nat.toList_repr, Nat.ofDigitChars_ten_toDigits] at hdigits
  exact UInt32.toNat_inj.mp hdigits

/-- The error for a wrong CID tells which one is registered. -/
theorem cidMessage_inj {a b : UInt32} (peerCid : UInt32)
    (h : s!"CID verification failed: expected {a}, got peer CID {peerCid}" =
      s!"CID verification failed: expected {b}, got peer CID {peerCid}") : a = b := by
  -- what stands before and behind the registered CID is the same
  simp only [String.append_assoc] at h
  rw [String.append_right_inj, String.append_left_inj] at h
  exact toString_uint32_inj h

theorem notRegistered_ne_cidMessage (vmName : String) (vmCid peerCid : UInt32) :
    s!"VM '{vmName}' not registered in host config" ≠
      s!"CID verification failed: expected {vmCid}, got peer CID {peerCid}" := by
  intro h
  -- the messages start with different letters
  have hhead := congrArg (fun s : String => s.toList.head?) h
  simp [String.toList_append, toString] at hhead

theorem notAuthorised_ne_cidMessage (vmName identity : String) :
    s!"VM '{vmName}' / identity '{identity}' not authorised" ≠ "CID verification failed" := by
  intro h
  have hhead := congrArg (fun s : String => s.toList.head?) h
  simp [String.toList_append, toString] at hhead

variable {config' : HostConfig}

theorem HostConfig.AgreeOn.symm (h : config.AgreeOn config' peerCid) :
    config'.AgreeOn config peerCid := fun vmName vm hcid => (h vmName vm hcid).symm

/-- What a handshake is answered depends on the entry of the VM it names. -/
theorem answer_handshake (vmName : String) :
    answer lib env config ca peerCid (.handshake protocolVersion vmName) =
      match config.vms.lookup vmName with
      | none => .error s!"VM '{vmName}' not registered in host config"
      | some vm =>
        if vm.vmCid ≠ peerCid then
          .error s!"CID verification failed: expected {vm.vmCid}, got peer CID {peerCid}"
        else
          match buildWorkloads vm.identities with
          | .error msg => .error msg
          | .ok workloads => .handshakeOk workloads := by
  simp only [answer, respond, ne_eq, not_true_eq_false, ↓reduceIte]
  cases config.vms.lookup vmName with
  | none => rfl
  | some vm =>
    by_cases hcid : vm.vmCid = peerCid
    · cases hbuild : buildWorkloads vm.identities <;> simp [hcid, hbuild]
    · simp [hcid]

/-- What a request of a certificate is answered depends on the decision for the pair it names. -/
theorem answer_certRequest (vmName identity csrPem : String) :
    answer lib env config ca peerCid (.certRequest protocolVersion vmName identity csrPem) =
      match resolve config vmName identity with
      | none => .error s!"VM '{vmName}' / identity '{identity}' not authorised"
      | some decision =>
        if decision.vmCid ≠ peerCid then .error "CID verification failed"
        else
          match signCsr lib env ca ⟨csrPem, identity, decision.vmName, peerCid, decision.ip,
              decision.validitySeconds⟩ with
          | .ok certPem => .certOk certPem ca.certPem
          | .error e => .error s!"signing failed: {e.toString}" := by
  simp only [answer, respond, ne_eq, not_true_eq_false, ↓reduceIte]
  cases resolve config vmName identity with
  | none => rfl
  | some decision =>
    by_cases hcid : decision.vmCid = peerCid
    · cases hsign : signCsr lib env ca ⟨csrPem, identity, decision.vmName, peerCid, decision.ip,
        decision.validitySeconds⟩ <;> simp [hcid, hsign]
    · simp [hcid]

/-- A registered pair has an entry of its VM. -/
theorem HostConfig.Registers.of_lookup {vmName identity : String} {vm : VmEntry}
    (h : config.vms.lookup vmName = some vm) :
    (∃ vm policy, config.Registers vmName identity vm policy) ↔
      ∃ policy, vm.identities.lookup identity = some policy := by
  constructor
  · rintro ⟨vm', policy, hvm', hpolicy⟩
    rw [h] at hvm'
    cases hvm'
    exact ⟨policy, hpolicy⟩
  · rintro ⟨policy, hpolicy⟩
    exact ⟨vm, policy, h, hpolicy⟩

/-- A VM of the peer is the same in both configurations. -/
theorem answer_eq_of_own (hagree : config.AgreeOn config' peerCid) {req : AgentRequest}
    {vm : VmEntry} (hvm : config.vms.lookup req.vmName = some vm) (hcid : vm.vmCid = peerCid) :
    answer lib env config ca peerCid req = answer lib env config' ca peerCid req := by
  -- the answer is made from the entry of the VM alone
  have hvm' := (hagree req.vmName vm hcid).mp hvm
  cases req with
  | handshake version vmName =>
    rw [AgentRequest.vmName] at hvm hvm'
    simp only [answer, respond, hvm, hvm']
  | certRequest version vmName identity csrPem =>
    rw [AgentRequest.vmName] at hvm hvm'
    simp only [answer, respond, resolve, hvm, hvm']

theorem sameView_of_own (hagree : config.AgreeOn config' peerCid) {req : AgentRequest}
    {vm : VmEntry} (hvm : config.vms.lookup req.vmName = some vm) (hcid : vm.vmCid = peerCid) :
    SameView config config' req := by
  have hvm' := (hagree req.vmName vm hcid).mp hvm
  cases req with
  | handshake version vmName =>
    rw [AgentRequest.vmName] at hvm hvm'
    rintro -
    rw [hvm, hvm']
  | certRequest version vmName identity csrPem =>
    rw [AgentRequest.vmName] at hvm hvm'
    rintro -
    rw [HostConfig.Registers.of_lookup hvm, HostConfig.Registers.of_lookup hvm']

/-- A handshake for a VM that is not the peer's is answered with the registered CID, if there is
one. -/
theorem answer_handshake_eq_iff {vmName : String}
    (hforeign : ∀ vm, config.vms.lookup vmName = some vm → vm.vmCid ≠ peerCid)
    (hforeign' : ∀ vm, config'.vms.lookup vmName = some vm → vm.vmCid ≠ peerCid) :
    answer lib env config ca peerCid (.handshake protocolVersion vmName) =
        answer lib env config' ca peerCid (.handshake protocolVersion vmName) ↔
      (config.vms.lookup vmName).map (·.vmCid) = (config'.vms.lookup vmName).map (·.vmCid) := by
  rw [answer_handshake, answer_handshake]
  -- the VM may be registered in either configuration, in both or in none
  rcases hvm : config.vms.lookup vmName with _ | vm <;>
    rcases hvm' : config'.vms.lookup vmName with _ | vm'
  · exact iff_of_true rfl rfl
  · simp only [ne_eq, hforeign' vm' hvm', not_false_eq_true, ↓reduceIte]
    refine iff_of_false (fun h => ?_) (by simp)
    -- only one of the configurations knows the VM, and the errors tell which
    exact notRegistered_ne_cidMessage _ _ _ (AgentResponse.error.inj h)
  · simp only [ne_eq, hforeign vm hvm, not_false_eq_true, ↓reduceIte]
    refine iff_of_false (fun h => ?_) (by simp)
    exact notRegistered_ne_cidMessage _ _ _ (AgentResponse.error.inj h).symm
  · simp only [ne_eq, hforeign vm hvm, hforeign' vm' hvm', not_false_eq_true, ↓reduceIte,
      Option.map_some, Option.some.injEq, AgentResponse.error.injEq]
    exact ⟨cidMessage_inj peerCid, fun h => by rw [h]⟩

/-- A request of a certificate for a VM that is not the peer's is answered with whether the
identity is registered. -/
theorem answer_certRequest_eq_iff {vmName identity csrPem : String}
    (hforeign : ∀ vm, config.vms.lookup vmName = some vm → vm.vmCid ≠ peerCid)
    (hforeign' : ∀ vm, config'.vms.lookup vmName = some vm → vm.vmCid ≠ peerCid) :
    answer lib env config ca peerCid (.certRequest protocolVersion vmName identity csrPem) =
        answer lib env config' ca peerCid (.certRequest protocolVersion vmName identity csrPem) ↔
      ((∃ vm policy, config.Registers vmName identity vm policy) ↔
        ∃ vm policy, config'.Registers vmName identity vm policy) := by
  -- a decision for a VM that is not the peer's has another CID
  have hcid : ∀ {config : HostConfig},
      (∀ vm, config.vms.lookup vmName = some vm → vm.vmCid ≠ peerCid) →
      ∀ decision, resolve config vmName identity = some decision →
        decision.vmCid ≠ peerCid ∧ ∃ vm policy, config.Registers vmName identity vm policy := by
    intro config hforeign decision hresolve
    obtain ⟨vm, policy, hreg, rfl⟩ := (resolve_eq_some_iff _ _ _ _).mp hresolve
    exact ⟨hforeign vm hreg.1, vm, policy, hreg⟩
  rw [answer_certRequest, answer_certRequest]
  rcases hresolve : resolve config vmName identity with _ | decision <;>
    rcases hresolve' : resolve config' vmName identity with _ | decision'
  · rw [resolve_eq_none_iff] at hresolve hresolve'
    exact iff_of_true rfl (iff_of_false hresolve hresolve')
  · obtain ⟨hne, hreg⟩ := hcid hforeign' decision' hresolve'
    rw [resolve_eq_none_iff] at hresolve
    simp only [ne_eq, hne, not_false_eq_true, ↓reduceIte]
    refine iff_of_false (fun h => ?_) fun h => hresolve (h.mpr hreg)
    exact notAuthorised_ne_cidMessage _ _ (AgentResponse.error.inj h)
  · obtain ⟨hne, hreg⟩ := hcid hforeign decision hresolve
    rw [resolve_eq_none_iff] at hresolve'
    simp only [ne_eq, hne, not_false_eq_true, ↓reduceIte]
    refine iff_of_false (fun h => ?_) fun h => hresolve' (h.mp hreg)
    exact notAuthorised_ne_cidMessage _ _ (AgentResponse.error.inj h).symm
  · obtain ⟨hne, hreg⟩ := hcid hforeign decision hresolve
    obtain ⟨hne', hreg'⟩ := hcid hforeign' decision' hresolve'
    simp only [ne_eq, hne, hne', not_false_eq_true, ↓reduceIte]
    exact iff_of_true trivial (iff_of_true hreg hreg')

/-- The answers to a request differ exactly when the two configurations say different things of the
VM it names. -/
theorem answer_eq_answer_iff (hagree : config.AgreeOn config' peerCid) (req : AgentRequest) :
    answer lib env config ca peerCid req = answer lib env config' ca peerCid req ↔
      SameView config config' req := by
  by_cases hown : ∃ vm, config.vms.lookup req.vmName = some vm ∧ vm.vmCid = peerCid
  · -- a VM of the peer has the same entry in both
    obtain ⟨vm, hvm, hcid⟩ := hown
    exact iff_of_true (answer_eq_of_own hagree hvm hcid) (sameView_of_own hagree hvm hcid)
  have hforeign : ∀ vm, config.vms.lookup req.vmName = some vm → vm.vmCid ≠ peerCid :=
    fun vm hvm hcid => hown ⟨vm, hvm, hcid⟩
  have hforeign' : ∀ vm, config'.vms.lookup req.vmName = some vm → vm.vmCid ≠ peerCid :=
    fun vm hvm hcid => hown ⟨vm, (hagree _ vm hcid).mpr hvm, hcid⟩
  -- a request of another version is refused before anything is looked up
  cases req with
  | handshake version vmName =>
    by_cases hversion : version = protocolVersion
    · subst hversion
      simp only [AgentRequest.vmName] at hforeign hforeign'
      rw [answer_handshake_eq_iff hforeign hforeign']
      exact ⟨fun h _ => h, fun h => h rfl⟩
    · exact iff_of_true (by simp [answer, respond, hversion]) fun h => absurd h hversion
  | certRequest version vmName identity csrPem =>
    by_cases hversion : version = protocolVersion
    · subst hversion
      simp only [AgentRequest.vmName] at hforeign hforeign'
      rw [answer_certRequest_eq_iff hforeign hforeign']
      exact ⟨fun h _ => h, fun h => h rfl⟩
    · exact iff_of_true (by simp [answer, respond, hversion]) fun h => absurd h hversion

/-- What a peer that sends some bytes gets written is the frame of one response. Between two
configurations that agree on the VMs of the peer's CID this response is the same exactly when
either the bytes do not start with a request or both configurations say the same of the VM that the
request names. -/
theorem responseTo_eq_iff (hvec : ∀ resp, ∃ payload, respSerde.toVec resp = .ok payload)
    (lib : X509Lib KeyPair PublicKey) (reqSerde : Serde AgentRequest) (env : SigningEnv)
    (ca : CertificateAuthority) (hagree : config.AgreeOn config' peerCid) (input : List UInt8) :
    let s : Stream := ⟨input, [], none⟩
    (∀ config, ∃ payload,
      respSerde.toVec (responseTo lib reqSerde env config ca peerCid s) = .ok payload ∧
      (finalState (handleConnection lib reqSerde respSerde env config ca peerCid s)).output =
        frame payload) ∧
    (responseTo lib reqSerde env config ca peerCid s =
        responseTo lib reqSerde env config' ca peerCid s ↔
      ∀ req rest, FirstFrame reqSerde req input rest → SameView config config' req) := by
  intro s
  -- what is written is the response to the first frame
  refine ⟨fun config => output_handleConnection lib reqSerde env config ca peerCid hvec rfl, ?_⟩
  rw [responseTo, responseTo]
  rcases recvJson_cases reqSerde s with ⟨req, rest, hframe, hrecv⟩ |
    ⟨hnone, e, s', hrecv⟩
  · rw [hrecv, answer_eq_answer_iff hagree]
    refine ⟨fun h req' rest' hframe' => ?_, fun h => h req rest hframe⟩
    rw [← (hframe.unique hframe').1]
    exact h
  · -- nothing is looked up for bytes that are not a request
    rw [hrecv]
    exact iff_of_true rfl fun req rest hframe => absurd ⟨req, rest, hframe⟩ hnone

/-- One VM more does not concern the peer of the other. -/
theorem Symbolic.agreeOn_pairConfig :
    (hostConfig 60).AgreeOn (pairConfig (vm 3 none) (vm 4 none)) 3 := by
  intro vmName entry hcid
  rw [lookup_pairConfig_eq_some_iff]
  refine (HashMap.lookup_singleton_eq_some_iff _ _ _ _).trans (or_iff_left ?_).symm
  rintro ⟨-, rfl⟩
  cases hcid

/-- A handshake of the peer's own VM is answered alike. -/
theorem responseTo_eq_own :
    let req := AgentRequest.handshake protocolVersion "vm-a"
    let s : Stream := ⟨frame req.toJson.toVec, [], none⟩
    let serde := jsonSerde AgentRequest.toJson [req]
    let config := Symbolic.pairConfig (Symbolic.vm 3 none) (Symbolic.vm 4 none)
    responseTo Symbolic.lib serde ⟨dateTimeJan1 2025, [], []⟩ (Symbolic.hostConfig 60)
        (Symbolic.authority 1 1) 3 s =
      responseTo Symbolic.lib serde ⟨dateTimeJan1 2025, [], []⟩ config
        (Symbolic.authority 1 1) 3 s := by
  intro req s serde config
  have hfirst : FirstFrame serde req (frame req.toJson.toVec) [] :=
    ⟨req.toJson.toVec, by decide +kernel, (List.append_nil _).symm, by simp [serde, jsonSerde]⟩
  have hserde : ∀ resp : AgentResponse, ∃ payload,
      (jsonSerde AgentResponse.toJson []).toVec resp = .ok payload := fun resp => ⟨_, rfl⟩
  refine (responseTo_eq_iff hserde _ _ _ _ Symbolic.agreeOn_pairConfig _).2.mpr
    fun req' rest hframe => ?_
  rw [← (hfirst.unique hframe).1]
  intro _
  rfl

/-- A handshake that names another VM tells whether it is registered, and with which CID. -/
theorem responseTo_reveals_cid :
    let req := AgentRequest.handshake protocolVersion "vm-b"
    let s : Stream := ⟨frame req.toJson.toVec, [], none⟩
    let serde := jsonSerde AgentRequest.toJson [req]
    let config := Symbolic.pairConfig (Symbolic.vm 3 none) (Symbolic.vm 4 none)
    (Symbolic.hostConfig 60).AgreeOn config 3 ∧
      responseTo Symbolic.lib serde ⟨dateTimeJan1 2025, [], []⟩ (Symbolic.hostConfig 60)
          (Symbolic.authority 1 1) 3 s =
        .error "VM 'vm-b' not registered in host config" ∧
      responseTo Symbolic.lib serde ⟨dateTimeJan1 2025, [], []⟩ config
          (Symbolic.authority 1 1) 3 s =
        .error "CID verification failed: expected 4, got peer CID 3" := by
  refine ⟨Symbolic.agreeOn_pairConfig, ?_, ?_⟩
  · decide +kernel
  · decide +kernel

end

end AuthnScope
