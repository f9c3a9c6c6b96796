import AuthnScope.Ca.Signing
import AuthnScope.Pki.Symbolic

/-!
# A CA on the symbolic library

CAs and requests of the symbolic X.509 library, to run the signing code on.

## Main definitions

* `Symbolic.authority`: a CA with a certificate for one key and another key to sign with;
* `Symbolic.disk`, `Symbolic.emptyDisk`: the files such a CA is loaded from, and none;
* `Symbolic.faultyDisk`: the same files, where a system call fails;
* `Symbolic.csr`: a request with a common name.

## Main results

* `Symbolic.keyMatches_authority_iff`: the CA's certificate is for its key when the two agree;
* `Symbolic.exists_signCsr`: requests for ASCII identities are signed.
-/

namespace AuthnScope

namespace Symbolic

open ByteCodec CertificateAuthority FileSystem Outcome

/-- A CA whose certificate is for `certKey` and which signs with `key`. -/
def authority (certKey key : ℕ) : CertificateAuthority where
  keyPem := lib.serializePem key
  certPem := (issue CertificateAuthority.params certKey certKey []).pem
  certDer := (issue CertificateAuthority.params certKey certKey []).der
  keyDer := lib.serializeDer key

/-- The subject the agent writes into its requests. -/
def subject (commonName : String) : DistinguishedName :=
  [(.commonName, ⟨.utf8String, commonName⟩), (.organizationName, ⟨.utf8String, "authn-scope"⟩)]

/-- A request for a key with the given common name. -/
def csr (commonName : String) (publicKey : ℕ) : String :=
  toPem .certificateRequest (requestCodec.encode (subject commonName, [], [], [], publicKey))

/-- The two files of a CA on a disk whose system calls succeed. -/
def disk (certKey key : ℕ) : Fs where
  files path :=
    if path = "ca-cert.pem" then some ⟨some (authority certKey key).certPem, 0o644⟩
    else if path = "ca-key.pem" then some ⟨some (authority certKey key).keyPem, 0o600⟩
    else none
  umask := 0o022
  faults _ := none
  calls := 0
  history := []

/-- A disk with a CA on which the `n`-th system call fails. -/
def faultyDisk (n : ℕ) : Fs :=
  { disk 1 1 with
    faults := fun m => if m = n then some ⟨"Input/output error (os error 5)", 0⟩ else none }

/-- A disk without files, whose system calls succeed. -/
def emptyDisk : Fs := ⟨fun _ => none, 0o022, fun _ => none, 0, []⟩

/-- A new CA is generated on it. -/
theorem exists_init_emptyDisk :
    ∃ ca fs', init lib (.ok 1) [] "ca-cert.pem" "ca-key.pem" false emptyDisk = .ok ca fs' :=
  ⟨_, _, rfl⟩

/-- The new CA signs with the key of its certificate. -/
theorem exists_init_authority :
    ∃ fs', init lib (.ok 1) [] "ca-cert.pem" "ca-key.pem" false emptyDisk =
      .ok (authority 1 1) fs' :=
  ⟨_, rfl⟩

theorem firstCertDer_authority (certKey key : ℕ) :
    lib.firstCertDer (authority certKey key).certPem = some (authority certKey key).certDer := by
  simp [lib, authority, issue, Except.toOption]

/-- The CA is loaded from its two files. -/
theorem load_disk (certKey key : ℕ) :
    ∃ fs', load lib "ca-cert.pem" "ca-key.pem" (disk certKey key) =
      .ok (authority certKey key) fs' :=
  ⟨_, load_of_files (fun _ => rfl) rfl rfl (keyPairFromPem_serializePem key)
    (firstCertDer_authority certKey key)⟩

/-- A request is read back with its common name and its key. -/
theorem csrFromPem_csr (commonName : String) (publicKey : ℕ) :
    lib.csrFromPem (csr commonName publicKey) =
      .ok ⟨requestParams (subject commonName) [] [] [], publicKey⟩ := by
  have hwritten : lib.serializeRequest (requestParams (subject commonName) [] [] []) publicKey [] =
      .ok (csr commonName publicKey) := rfl
  exact csrFromPem_serializeRequest hwritten

/-- The certificate of a CA is for its key when the two keys agree. -/
theorem keyMatches_authority_iff (certKey key : ℕ) :
    (authority certKey key).KeyMatches lib ↔ certKey = key := by
  -- certificate and key are read back as what was written
  have hcert : lib.parseX509 (authority certKey key).certPem =
      .ok (contents CertificateAuthority.params certKey certKey []) := parseX509_issue _ _ _ _
  have hkey : lib.keyPairFromPem (authority certKey key).keyPem = .ok key :=
    keyPairFromPem_serializePem key
  constructor
  · rintro ⟨x, kp, hx, hkp, hpk⟩
    rw [hcert] at hx
    rw [hkey] at hkp
    cases hx
    cases hkp
    exact hpk
  · rintro rfl
    exact ⟨_, certKey, hcert, hkey, rfl⟩

/-- A CA of the library can act as an issuer. -/
theorem exists_rcgenCert_authority (certKey key : ℕ) (seed : List UInt8) :
    ∃ cert, (authority certKey key).rcgenCert lib seed = .ok cert :=
  (exists_rcgenCert_iff lib_operational _ _).mpr
    ⟨⟨key, keyPairFromPem_serializePem key⟩, exists_fromCaCertPem _ _ _ _⟩

/-- Every request for an ASCII identity without an address is signed. -/
theorem exists_signCsr (env : SigningEnv) (certKey key : ℕ) (commonName : String)
    (publicKey : ℕ) {identity : String} (hascii : ∀ c ∈ identity.toList, c.toNat < 128)
    (vmName : String) (cid validitySeconds : UInt32) :
    ∃ leaf, signCsr lib env (authority certKey key)
      ⟨csr commonName publicKey, identity, vmName, cid, none, validitySeconds⟩ = .ok leaf := by
  refine (exists_signCsr_iff lib_operational _ _ _).mpr
    ⟨⟨_, csrFromPem_csr commonName publicKey⟩, ?_, exists_rcgenCert_authority certKey key _⟩
  exact (exists_leafSans_iff lib_lawful _ _).mpr ⟨hascii, by simp⟩

end Symbolic

end AuthnScope
