import AuthnScope.Ca.Symbolic

/-!
# What a requester controls

`sign_csr` starts from the parameters of the CSR, writes some of their fields and leaves the others
as they are. What the requester can put into its certificate are therefore the fields that are left
alone and that the library fills from a CSR: the subject, beside the public key.

## Main definitions

* `X509Lib.ReadsExtensions`: what the library fills from a CSR;
* `IsLeafFor`: the contents of a leaf.

## Main results

* `isLeafFor_of_signCsr`: what the certificates that `sign_csr` returns contain;
* `signCsr_requester_controls`: two of them for the same subject and key have the same contents.
-/

namespace AuthnScope

section

variable {KeyPair PublicKey : Type} (lib : X509Lib KeyPair PublicKey)

/-- Reading a CSR fills the subject, the usages and the alternative names, and leaves the other
parameters at their defaults. -/
def X509Lib.ReadsExtensions : Prop :=
  ∀ csrPem csr, lib.csrFromPem csrPem = .ok csr →
    csr.params = { CertificateParams.default with
      distinguishedName := csr.params.distinguishedName
      keyUsages := csr.params.keyUsages
      extendedKeyUsages := csr.params.extendedKeyUsages
      subjectAltNames := csr.params.subjectAltNames }

/-- The alternative names of a leaf: the identity, and the address if one is configured. -/
def LeafNames (identity : String) (ip : Option String) (sans : List SanType) : Prop :=
  ip = none ∧ sans = [.dnsName identity] ∨
    ∃ text addr, ip = some text ∧ RustNet.IpAddr.parse text = .ok addr ∧
      sans = [.dnsName identity, .ipAddress addr]

/-- The contents of the leaf for a CSR at a given time: besides the subject and the key there is
nothing of the CSR. -/
structure IsLeafFor (x : X509Certificate PublicKey) (now : OffsetDateTime) (identity : String)
    (ip : Option String) (validitySeconds : UInt32)
    (csr : CertificateSigningRequestParams PublicKey) : Prop where
  subject : x.subject = csr.params.distinguishedName
  publicKey : x.publicKey = csr.publicKey
  isCa : x.isCa = .noCa
  keyUsages : x.keyUsages = [.digitalSignature]
  extendedKeyUsages : x.extendedKeyUsages = [.serverAuth, .clientAuth]
  subjectAltNames : LeafNames identity ip x.subjectAltNames
  notBefore : x.notBefore = now.unixTimestamp
  notAfter : x.notAfter = x.notBefore + validitySeconds.toNat

variable {lib} {x x' : X509Certificate PublicKey} {now : OffsetDateTime} {identity : String}
  {ip : Option String} {validitySeconds : UInt32}
  {csr csr' : CertificateSigningRequestParams PublicKey}

/-- A request has one list of alternative names. -/
theorem LeafNames.unique {sans sans' : List SanType} (h : LeafNames identity ip sans)
    (h' : LeafNames identity ip sans') : sans = sans' := by
  rcases h with ⟨rfl, rfl⟩ | ⟨text, addr, rfl, haddr, rfl⟩
  · rcases h' with ⟨-, rfl⟩ | ⟨text', addr', htext, -, -⟩
    · rfl
    · cases htext
  · rcases h' with ⟨htext, -⟩ | ⟨text', addr', htext, haddr', rfl⟩
    · cases htext
    · cases htext
      rw [haddr, Except.ok.injEq] at haddr'
      rw [haddr']

/-- Leaves for two CSRs of the same subject and key differ in their signatures only. -/
theorem IsLeafFor.sameContents (h : IsLeafFor x now identity ip validitySeconds csr)
    (h' : IsLeafFor x' now identity ip validitySeconds csr')
    (hsubject : csr'.params.distinguishedName = csr.params.distinguishedName)
    (hkey : csr'.publicKey = csr.publicKey) : { x' with signature := x.signature } = x := by
  have hnames := h'.subjectAltNames.unique h.subjectAltNames
  have hnotAfter : x'.notAfter = x.notAfter := by
    rw [h'.notAfter, h.notAfter, h'.notBefore, h.notBefore]
  rcases x with ⟨subject, publicKey, notBefore, notAfter, sans, isCa, keyUsages, ekus, signature⟩
  simp only [X509Certificate.mk.injEq, and_true]
  exact ⟨(h'.subject.trans hsubject).trans h.subject.symm,
    (h'.publicKey.trans hkey).trans h.publicKey.symm, h'.notBefore.trans h.notBefore.symm,
    hnotAfter, hnames, h'.isCa.trans h.isCa.symm, h'.keyUsages.trans h.keyUsages.symm,
    h'.extendedKeyUsages.trans h.extendedKeyUsages.symm⟩

/-- The certificate of a signed request is a leaf for it, and it has been signed without custom
extensions. -/
theorem isLeafFor_of_signCsr (hlib : lib.Lawful) (hreads : lib.ReadsExtensions) {env : SigningEnv}
    {ca : CertificateAuthority} {req : SigningRequest} {leaf : String}
    (hcsr : lib.csrFromPem req.csrPem = .ok csr) (h : signCsr lib env ca req = .ok leaf) :
    (∃ x, lib.parseX509 leaf = .ok x ∧
        IsLeafFor x env.now req.identity req.ip req.validitySeconds csr) ∧
      ∃ signed issuer kp cert, lib.signedBy signed issuer kp env.leafSeed = .ok cert ∧
        cert.pem = leaf ∧ signed.params.customExtensions = [] := by
  obtain ⟨read, sans, caCert, caKp, cert, hread, hsans, -, hsigned, rfl⟩ :=
    exists_signedBy_of_signCsr h
  rw [hcsr, Except.ok.injEq] at hread
  subst hread
  obtain ⟨x, hx, hcarries, -⟩ := hlib.signedBy_carries _ _ _ _ _ hsigned
  -- the fields that `sign_csr` does not write are those of a request without more extensions
  have hparams := hreads _ _ hcsr
  refine ⟨⟨x, hx, ?_⟩, _, _, _, cert, hsigned, rfl, ?_⟩
  · have hisCa : csr.params.isCa = .noCa := by
      rw [hparams]
      rfl
    refine ⟨hcarries.subject, hcarries.publicKey, hcarries.isCa.trans hisCa, hcarries.keyUsages,
      hcarries.extendedKeyUsages, ?_, hcarries.notBefore, ?_⟩
    · rw [hcarries.subjectAltNames]
      exact ((leafSans_eq_ok_iff hlib _ _ _).mp hsans).2
    · rw [hcarries.notAfter, hcarries.notBefore]
      exact OffsetDateTime.unixTimestamp_addSeconds _ _
  · show csr.params.customExtensions = []
    rw [hparams]
    rfl

/-- Certificates that a CA signs at one time, for one identity and address, and for CSRs with the
same subject and the same key, have the same contents, whatever extensions the CSRs ask for. Every
certificate it signs is a leaf with the usages, the alternative names and the validity that the CA
gives it, and has been signed without custom extensions. -/
theorem signCsr_requester_controls (hlib : lib.Lawful) (hreads : lib.ReadsExtensions) :
    (∀ env env' ca req csrPem' csr csr' leaf leaf', env'.now = env.now →
      lib.csrFromPem req.csrPem = .ok csr → lib.csrFromPem csrPem' = .ok csr' →
      csr'.params.distinguishedName = csr.params.distinguishedName →
      csr'.publicKey = csr.publicKey → signCsr lib env ca req = .ok leaf →
      signCsr lib env' ca { req with csrPem := csrPem' } = .ok leaf' →
        ∃ x x', lib.parseX509 leaf = .ok x ∧ lib.parseX509 leaf' = .ok x' ∧
          { x' with signature := x.signature } = x) ∧
    ∀ env ca req leaf, signCsr lib env ca req = .ok leaf →
      ∃ csr x, lib.csrFromPem req.csrPem = .ok csr ∧ lib.parseX509 leaf = .ok x ∧
        IsLeafFor x env.now req.identity req.ip req.validitySeconds csr ∧
        ∃ signed issuer kp cert, lib.signedBy signed issuer kp env.leafSeed = .ok cert ∧
          cert.pem = leaf ∧ signed.params.customExtensions = [] := by
  refine ⟨fun env env' ca req csrPem' csr csr' leaf leaf' hnow hcsr hcsr' hsubject hkey h h' => ?_,
    fun env ca req leaf h => ?_⟩
  · obtain ⟨⟨x, hx, hleaf⟩, -⟩ := isLeafFor_of_signCsr hlib hreads hcsr h
    obtain ⟨⟨x', hx', hleaf'⟩, -⟩ := isLeafFor_of_signCsr hlib hreads hcsr' h'
    rw [hnow] at hleaf'
    exact ⟨x, x', hx, hx', hleaf.sameContents hleaf' hsubject hkey⟩
  · obtain ⟨csr, -, -, -, -, hcsr, -⟩ := exists_signedBy_of_signCsr h
    obtain ⟨⟨x, hx, hleaf⟩, hsigned⟩ := isLeafFor_of_signCsr hlib hreads hcsr h
    exact ⟨csr, x, hcsr, hx, hleaf, hsigned⟩

end

/-- The symbolic library fills nothing else from a CSR. -/
theorem Symbolic.lib_readsExtensions : lib.ReadsExtensions := by
  intro csrPem csr h
  simp only [lib] at h
  -- a CSR that is read is a block with a request in it
  split at h
  · split at h
    · cases h
      rfl
    · cases h
  · cases h

/-- A CSR of the symbolic library that asks for extensions. -/
theorem Symbolic.exists_csrPem (name : DistinguishedName) (sans : List SanType)
    (keyUsages : List KeyUsagePurpose) (extendedKeyUsages : List ExtendedKeyUsagePurpose) (kp : ℕ) :
    ∃ csrPem, lib.csrFromPem csrPem =
      .ok ⟨requestParams name sans keyUsages extendedKeyUsages, kp⟩ := by
  have hwritten : lib.serializeRequest (requestParams name sans keyUsages extendedKeyUsages) kp [] =
      .ok _ := rfl
  exact ⟨_, csrFromPem_serializeRequest hwritten⟩

/-- A CSR that asks for another name and for the right to sign certificates, beside one that asks
for nothing. -/
theorem signCsr_requester_controls_web :
    ∃ csrPem' leaf leaf' x x', csrPem' ≠ Symbolic.csr "web" 7 ∧
      signCsr Symbolic.lib ⟨dateTimeJan1 2025, [], []⟩ (Symbolic.authority 1 1)
        ⟨Symbolic.csr "web" 7, "web", "vm-a", 3, none, 3600⟩ = .ok leaf ∧
      signCsr Symbolic.lib ⟨dateTimeJan1 2025, [], [1]⟩ (Symbolic.authority 1 1)
        ⟨csrPem', "web", "vm-a", 3, none, 3600⟩ = .ok leaf' ∧
      Symbolic.lib.parseX509 leaf = .ok x ∧ Symbolic.lib.parseX509 leaf' = .ok x' ∧
      { x' with signature := x.signature } = x := by
  have hcsr := Symbolic.csrFromPem_csr "web" 7
  obtain ⟨csrPem', hcsr'⟩ :=
    Symbolic.exists_csrPem (Symbolic.subject "web") [.dnsName "admin"] [.keyCertSign] [] 7
  have hascii : ∀ c ∈ "web".toList, c.toNat < 128 := by simp
  obtain ⟨leaf, hleaf⟩ := Symbolic.exists_signCsr ⟨dateTimeJan1 2025, [], []⟩ 1 1 "web" 7 hascii
    "vm-a" 3 3600
  obtain ⟨leaf', hleaf'⟩ := (exists_signCsr_iff Symbolic.lib_operational
    ⟨dateTimeJan1 2025, [], [1]⟩ (Symbolic.authority 1 1)
    ⟨csrPem', "web", "vm-a", 3, none, 3600⟩).mpr
      ⟨⟨_, hcsr'⟩, (exists_leafSans_iff Symbolic.lib_lawful _ _).mpr ⟨hascii, by simp⟩,
        Symbolic.exists_rcgenCert_authority 1 1 _⟩
  obtain ⟨x, x', hx, hx', hsame⟩ := (signCsr_requester_controls Symbolic.lib_lawful
    Symbolic.lib_readsExtensions).1 ⟨dateTimeJan1 2025, [], []⟩ ⟨dateTimeJan1 2025, [], [1]⟩
    (Symbolic.authority 1 1) ⟨Symbolic.csr "web" 7, "web", "vm-a", 3, none, 3600⟩ csrPem' _ _ leaf
    leaf' rfl hcsr hcsr' rfl rfl hleaf hleaf'
  refine ⟨csrPem', leaf, leaf', x, x', ?_, hleaf, hleaf', hx, hx', hsame⟩
  rintro rfl
  rw [hcsr] at hcsr'
  simp [Symbolic.requestParams] at hcsr'

end AuthnScope
