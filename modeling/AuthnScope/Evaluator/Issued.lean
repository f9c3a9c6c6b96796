import AuthnScope.Evaluator.Basic
import AuthnScope.Server.Symbolic

/-!
# What a verifier makes of an issued certificate

A certificate that the server issues is judged by the evaluator on another machine. Two things can
go wrong there: the signature does not verify, because the CA's certificate and key do not belong
together, or the identity read from the subject is not the one that was authorised, because the
subject is taken over from the request.

## Main results

* `leaf_verifies_iff`: issued certificates verify exactly when the CA's files match;
* `certOk_identity_iff`: an issued certificate evaluates to the authorised identity exactly when
  the request's subject, as it is read, names it (or the certificate does not verify at all);
* `loaded_ca_issues_unverifiable_leaf`, `certOk_identity_differs`: what happens otherwise.
-/

namespace AuthnScope

open CertificateAuthority FileSystem Outcome

section

variable {KeyPair PublicKey : Type} {lib : X509Lib KeyPair PublicKey}

/-! ## The signature -/

/-- The certificates of a CA pass the signature check against its own certificate exactly when
the two files it was loaded from match; a CA that `init` generates always does. -/
theorem leaf_verifies_iff (hlib : lib.Lawful) {certPath keyPath : String} {fs fs' : Fs}
    {ca : CertificateAuthority} {env : SigningEnv} {req : SigningRequest} {leaf : String}
    (hleaf : signCsr lib env ca req = .ok leaf) :
    (load lib certPath keyPath fs = .ok ca fs' →
      ((∃ x, Evaluator.checkSignature lib leaf ca.certPem = .ok x) ↔
        FilesMatch lib fs.files certPath keyPath)) ∧
    ∀ generated seed idempotent,
      init lib generated seed certPath keyPath idempotent fs = .ok ca fs' →
        ((∃ x, Evaluator.checkSignature lib leaf ca.certPem = .ok x) ↔
          (idempotent ∧ FindsBoth fs certPath keyPath →
            FilesMatch lib fs.files certPath keyPath)) := by
  rw [checkSignature_leaf_iff hlib hleaf]
  exact ⟨keyMatches_of_load_iff, fun _ _ _ hinit => keyMatches_of_init_iff hlib hinit⟩

/-- A CA loaded from a certificate and its key. -/
theorem leaf_verifies_of_matching_files :
    ∃ leaf x, Evaluator.checkSignature Symbolic.lib leaf (Symbolic.authority 1 1).certPem =
      .ok x := by
  obtain ⟨fs', hload⟩ := Symbolic.load_disk 1 1
  obtain ⟨leaf, hleaf⟩ := Symbolic.exists_signCsr ⟨dateTimeJan1 2025, [], []⟩ 1 1 "web" 7
    (by simp : ∀ c ∈ "web".toList, c.toNat < 128) "vm-a" 3 3600
  have hfiles : FilesMatch Symbolic.lib (Symbolic.disk 1 1).files "ca-cert.pem" "ca-key.pem" :=
    (keyMatches_of_load_iff hload).mp ((Symbolic.keyMatches_authority_iff 1 1).mpr rfl)
  exact ⟨leaf, ((leaf_verifies_iff Symbolic.lib_lawful hleaf).1 hload).mpr hfiles⟩

/-- A CA loaded from a certificate and the key of another one issues certificates that do not
verify. -/
theorem loaded_ca_issues_unverifiable_leaf :
    ¬∀ (fs fs' : Fs) (certPath keyPath : String) (ca : CertificateAuthority) (env : SigningEnv)
      (req : SigningRequest) (leaf : String),
      load Symbolic.lib certPath keyPath fs = .ok ca fs' →
        signCsr Symbolic.lib env ca req = .ok leaf →
          ∃ x, Evaluator.checkSignature Symbolic.lib leaf ca.certPem = .ok x := by
  intro h
  obtain ⟨fs', hload⟩ := Symbolic.load_disk 1 2
  obtain ⟨leaf, hleaf⟩ := Symbolic.exists_signCsr ⟨dateTimeJan1 2025, [], []⟩ 1 2 "web" 7
    (by simp : ∀ c ∈ "web".toList, c.toNat < 128) "vm-a" 3 3600
  have hmatch := (checkSignature_leaf_iff Symbolic.lib_lawful hleaf).mp
    (h _ _ _ _ _ _ _ leaf hload hleaf)
  exact absurd ((Symbolic.keyMatches_authority_iff 1 2).mp hmatch) (by decide)

/-! ## The identity -/

variable {env : SigningEnv} {config : HostConfig} {ca : CertificateAuthority} {peerCid : UInt32}

/-- An answered request was for an authorised identity, and the certificate in the answer keeps
the subject of its CSR. -/
theorem certOk_subject (hlib : lib.Lawful) {version : UInt32}
    {vmName identity csrPem certPem caCertPem : String}
    (h : answer lib env config ca peerCid (.certRequest version vmName identity csrPem) =
      .certOk certPem caCertPem) :
    caCertPem = ca.certPem ∧ (∃ req, signCsr lib env ca req = .ok certPem) ∧
      ∃ csr x, lib.csrFromPem csrPem = .ok csr ∧ lib.parseX509 certPem = .ok x ∧
        x.subject = csr.params.distinguishedName := by
  rw [answer_eq_iff (by simp), respond_certOk_iff] at h
  obtain ⟨_, _, _, vm, policy, hreq, -, -, hsign, rfl⟩ := h
  cases hreq
  obtain ⟨csr, sans, caKp, x, hcsr, -, -, hx, hcarries, -⟩ := signCsr_eq_ok hlib hsign
  exact ⟨rfl, ⟨_, hsign⟩, csr, x, hcsr, hx, hcarries.subject⟩

/-- A certificate granted for an identity evaluates to that identity only, if and only if the
subject of the CSR, as `from_pem` reads it, names the identity where it is readable; a CA whose
certificate is not for its key is the exception, since nothing it issues evaluates to anything. -/
theorem certOk_identity_iff (hlib : lib.Lawful) {version : UInt32}
    {vmName identity csrPem certPem caCertPem : String}
    (h : answer lib env config ca peerCid (.certRequest version vmName identity csrPem) =
      .certOk certPem caCertPem) :
    (∀ e, Evaluator.fromCertPem lib certPem caCertPem = .ok e → e.identity = identity) ↔
      (ca.KeyMatches lib → ∀ csr name, lib.csrFromPem csrPem = .ok csr →
        subjectIdentity lib csr.params.distinguishedName = some name → name = identity) := by
  obtain ⟨rfl, ⟨req, hsign⟩, csr, x, hcsr, hx, hsubject⟩ := certOk_subject hlib h
  have heval := fromCertPem_leaf_iff hlib hsign hx
  rw [hsubject] at heval
  constructor
  · intro hall hkey csr' name hcsr' hname
    rw [hcsr] at hcsr'
    cases hcsr'
    -- the evaluator accepts it with the name in the subject
    exact hall ⟨name⟩ ((heval _).mpr ⟨hkey, hname⟩)
  · intro hall e he
    obtain ⟨hkey, hidentity⟩ := (heval e).mp he
    exact hall hkey csr _ hcsr hidentity

end

/-- The common name of a request of the symbolic library. -/
theorem Symbolic.subjectIdentity_csr (commonName : String) :
    subjectIdentity lib (requestParams (subject commonName) [] [] []).distinguishedName =
      some commonName := rfl

/-- A workload that names itself in its CSR. -/
theorem certOk_identity_honest :
    ∃ certPem, answer Symbolic.lib ⟨dateTimeJan1 2025, [], []⟩
        (.single "vm-a" 3 "web" ⟨"unix:user:www", 60⟩) (Symbolic.authority 1 1) 3
        (.certRequest protocolVersion "vm-a" "web" (Symbolic.csr "web" 7)) =
          .certOk certPem (Symbolic.authority 1 1).certPem ∧
      ∀ e, Evaluator.fromCertPem Symbolic.lib certPem (Symbolic.authority 1 1).certPem = .ok e →
        e.identity = "web" := by
  obtain ⟨certPem, hanswer⟩ := Symbolic.exists_answer ⟨dateTimeJan1 2025, [], []⟩ 1 1 "vm-a" 3
    ⟨"unix:user:www", 60⟩ (by simp : ∀ c ∈ "web".toList, c.toNat < 128) "web" 7
  refine ⟨certPem, hanswer, (certOk_identity_iff Symbolic.lib_lawful hanswer).mpr ?_⟩
  intro _ csr name hcsr hname
  rw [Symbolic.csrFromPem_csr] at hcsr
  cases hcsr
  rw [Symbolic.subjectIdentity_csr] at hname
  exact (Option.some.inj hname).symm

/-- A workload that is authorised for `web` and writes `admin` into its CSR gets a certificate
that evaluates to `admin`. -/
theorem certOk_identity_differs :
    ¬∀ (env : SigningEnv) (config : HostConfig) (ca : CertificateAuthority) (peerCid : UInt32)
      (version : UInt32) (vmName identity csrPem certPem caCertPem : String) (e : Evaluator),
      answer Symbolic.lib env config ca peerCid (.certRequest version vmName identity csrPem) =
        .certOk certPem caCertPem →
      Evaluator.fromCertPem Symbolic.lib certPem caCertPem = .ok e → e.identity = identity := by
  intro h
  obtain ⟨certPem, hanswer⟩ := Symbolic.exists_answer ⟨dateTimeJan1 2025, [], []⟩ 1 1 "vm-a" 3
    ⟨"unix:user:www", 60⟩ (by simp : ∀ c ∈ "web".toList, c.toNat < 128) "admin" 7
  obtain ⟨-, ⟨req, hsign⟩, csr, x, hcsr, hx, hsubject⟩ :=
    certOk_subject Symbolic.lib_lawful hanswer
  rw [Symbolic.csrFromPem_csr] at hcsr
  cases hcsr
  have hadmin : Evaluator.fromCertPem Symbolic.lib certPem (Symbolic.authority 1 1).certPem =
      .ok ⟨"admin"⟩ := by
    refine (fromCertPem_leaf_iff Symbolic.lib_lawful hsign hx _).mpr
      ⟨(Symbolic.keyMatches_authority_iff 1 1).mpr rfl, ?_⟩
    rw [hsubject]
    exact Symbolic.subjectIdentity_csr "admin"
  exact absurd (h _ _ _ _ _ _ _ _ _ _ _ hanswer hadmin) (by decide)

end AuthnScope
