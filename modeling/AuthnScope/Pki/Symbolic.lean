import AuthnScope.Lib.ByteCodec
import AuthnScope.Pki.X509
import Mathlib.Logic.Equiv.List
import Mathlib.Tactic.DeriveEncodable

/-!
# A symbolic X.509 library

A computable `X509Lib` with the documented behaviour, to run the model on. Key pairs and public
keys are numbers and a key pair's public key is the number itself. A certificate is the byte
encoding of its contents, and its signature names the public key it verifies under.

## Main definitions

* `Symbolic.lib`: the library.

## Main results

* `Symbolic.lib_lawful`, `Symbolic.lib_operational`: it has the behaviour the program relies on;
* `Symbolic.csrFromPem_serializeRequest`, `Symbolic.parseX509_issue`: what is written is read back.
-/

namespace AuthnScope

namespace Symbolic

open ByteCodec

deriving instance Encodable for DnType
deriving instance Encodable for StringType
deriving instance Encodable for IsCa
deriving instance Encodable for KeyUsagePurpose
deriving instance Encodable for ExtendedKeyUsagePurpose

/-! ## Encodings -/

/-- The labels of PEM blocks. -/
inductive PemLabel where
  | certificate
  | certificateRequest
  | privateKey
  deriving DecidableEq, Repr, Encodable

/-- A labelled block of bytes. -/
def blockCodec : ByteCodec (PemLabel × List UInt8) := (enum PemLabel).pair bytes

/-- Text form of a labelled block: a character for each byte. -/
def toPem (label : PemLabel) (bytes : List UInt8) : String :=
  .ofList ((blockCodec.encode (label, bytes)).map fun b => Char.ofNat b.toNat)

/-- The contents of a block with the expected label. -/
def ofPem (label : PemLabel) (pem : String) : Except String (List UInt8) :=
  match blockCodec.parse (pem.toList.map fun c => UInt8.ofNat c.toNat) with
  | some (l, bytes) => if l = label then .ok bytes else .error "WrongLabel"
  | none => .error "MissingHeader"

/-- A byte survives its representation as a character. -/
theorem ofNat_toNat_ofNat_toNat (b : UInt8) : UInt8.ofNat (Char.ofNat b.toNat).toNat = b := by
  have hvalid : b.toNat.isValidChar := Or.inl (by have := b.toNat_lt; omega)
  have hchar : (Char.ofNat b.toNat).toNat = b.toNat := by
    rw [Char.ofNat, dif_pos hvalid]
    rfl
  rw [hchar, UInt8.ofNat_toNat]

/-- The bytes of a block survive its text form. -/
theorem map_toPem (label : PemLabel) (bytes : List UInt8) :
    (toPem label bytes).toList.map (fun c => UInt8.ofNat c.toNat) =
      blockCodec.encode (label, bytes) := by
  rw [toPem, String.toList_ofList, List.map_map]
  exact List.map_id'' ofNat_toNat_ofNat_toNat _

@[simp]
theorem ofPem_toPem (label : PemLabel) (bytes : List UInt8) :
    ofPem label (toPem label bytes) = .ok bytes := by
  unfold ofPem
  rw [map_toPem, parse_encode]
  exact if_pos rfl

/-- A block that stops early is not read as another one. -/
theorem ofPem_take {label label' : PemLabel} {bytes bytes' : List UInt8} {n : ℕ}
    (h : ofPem label' (.ofList ((toPem label bytes).toList.take n)) = .ok bytes') :
    label' = label ∧ bytes' = bytes := by
  unfold ofPem at h
  rw [String.toList_ofList, List.map_take, map_toPem] at h
  have hlocal : blockCodec.IsLocal := (isLocal_enum PemLabel).pair isLocal_bytes
  split at h
  · rename_i l read hparse
    have hblock := hlocal.parse_prefix (List.take_prefix _ _) hparse
    split at h
    · rename_i hlabel
      cases h
      exact ⟨hlabel.symm.trans (congrArg Prod.fst hblock), congrArg Prod.snd hblock⟩
    · cases h
  · cases h

/-- IP addresses: four octets or a list of segments. -/
def ipCodec : ByteCodec RustNet.IpAddr :=
  (nat.list.either nat.list).via
    (fun
      | .v4 a b c d => .inl [a.toNat, b.toNat, c.toNat, d.toNat]
      | .v6 segments => .inr (segments.map UInt16.toNat))
    (fun
      | .inl [a, b, c, d] =>
        some (.v4 (UInt8.ofNat a) (UInt8.ofNat b) (UInt8.ofNat c) (UInt8.ofNat d))
      | .inl _ => none
      | .inr segments => some (.v6 (segments.map UInt16.ofNat)))
    (by rintro (⟨a, b, c, d⟩ | ⟨segments⟩) <;> simp [Function.comp_def])

/-- Subject alternative names. -/
def sanCodec : ByteCodec SanType :=
  ((string.either string).either (string.either ipCodec)).via
    (fun
      | .rfc822Name name => .inl (.inl name)
      | .dnsName name => .inl (.inr name)
      | .uri uri => .inr (.inl uri)
      | .ipAddress ip => .inr (.inr ip))
    (fun
      | .inl (.inl name) => some (.rfc822Name name)
      | .inl (.inr name) => some (.dnsName name)
      | .inr (.inl uri) => some (.uri uri)
      | .inr (.inr ip) => some (.ipAddress ip))
    (by rintro (name | name | uri | ip) <;> rfl)

/-- Distinguished names. -/
def nameCodec : ByteCodec DistinguishedName :=
  ((enum DnType).pair (((enum StringType).pair string).via
    (fun v => (v.stringType, v.text)) (fun p => some ⟨p.1, p.2⟩) (fun _ => rfl))).list

/-- The contents of a certificate. -/
def certificateCodec : ByteCodec (X509Certificate ℕ) :=
  (nameCodec.pair (nat.pair (int.pair (int.pair (sanCodec.list.pair ((enum IsCa).pair
    ((enum KeyUsagePurpose).list.pair ((enum ExtendedKeyUsagePurpose).list.pair bytes)))))))).via
    (fun x => (x.subject, x.publicKey, x.notBefore, x.notAfter, x.subjectAltNames, x.isCa,
      x.keyUsages, x.extendedKeyUsages, x.signature))
    (fun (subject, publicKey, notBefore, notAfter, subjectAltNames, isCa, keyUsages,
        extendedKeyUsages, signature) =>
      some ⟨subject, publicKey, notBefore, notAfter, subjectAltNames, isCa, keyUsages,
        extendedKeyUsages, signature⟩)
    (fun _ => rfl)

/-- The contents of a signing request. -/
def requestCodec : ByteCodec (DistinguishedName × List SanType × List KeyUsagePurpose ×
    List ExtendedKeyUsagePurpose × ℕ) :=
  nameCodec.pair (sanCodec.list.pair ((enum KeyUsagePurpose).list.pair
    ((enum ExtendedKeyUsagePurpose).list.pair nat)))

/-! ## The library -/

/-- The contents of a certificate; the signature names the signer and ends in the random bytes. -/
def contents (params : CertificateParams) (publicKey signer : ℕ) (seed : List UInt8) :
    X509Certificate ℕ where
  subject := params.distinguishedName
  publicKey := publicKey
  notBefore := params.notBefore.unixTimestamp
  notAfter := params.notAfter.unixTimestamp
  subjectAltNames := params.subjectAltNames
  isCa := params.isCa
  keyUsages := params.keyUsages
  extendedKeyUsages := params.extendedKeyUsages
  signature := nat.encode signer ++ seed

/-- Issue a certificate for a public key. -/
def issue (params : CertificateParams) (publicKey signer : ℕ) (seed : List UInt8) :
    Certificate :=
  let der := certificateCodec.encode (contents params publicKey signer seed)
  ⟨params, toPem .certificate der, der⟩

/-- Read a certificate from its bytes. -/
def parseCertificate (der : List UInt8) : Except String (X509Certificate ℕ) :=
  (certificateCodec.parse der).elim (.error "InvalidDate") .ok

/-- The parameters of a request: those it carries, and the defaults. -/
def requestParams (name : DistinguishedName) (sans : List SanType)
    (keyUsages : List KeyUsagePurpose) (extendedKeyUsages : List ExtendedKeyUsagePurpose) :
    CertificateParams :=
  { CertificateParams.default with
    distinguishedName := name
    subjectAltNames := sans
    keyUsages := keyUsages
    extendedKeyUsages := extendedKeyUsages }

/-- The library. -/
def lib : X509Lib ℕ ℕ where
  keyPairFromPem pem :=
    match ofPem .privateKey pem with
    | .ok bytes => (nat.parse bytes).elim (.error "CouldNotParseKeyPair") .ok
    | .error e => .error e
  serializePem kp := toPem .privateKey (nat.encode kp)
  serializeDer kp := nat.encode kp
  publicKey kp := kp
  fromCaCertPem pem :=
    match ofPem .certificate pem >>= parseCertificate with
    | .ok x => .ok { requestParams x.subject x.subjectAltNames x.keyUsages x.extendedKeyUsages with
        notBefore := ⟨x.notBefore * 1000000000⟩
        notAfter := ⟨x.notAfter * 1000000000⟩
        isCa := x.isCa }
    | .error _ => .error "CouldNotParseCertificate"
  selfSigned params kp seed := .ok (issue params kp kp seed)
  serializeRequest params kp _ := .ok (toPem .certificateRequest (requestCodec.encode
    (params.distinguishedName, params.subjectAltNames, params.keyUsages,
      params.extendedKeyUsages, kp)))
  ia5String s :=
    if s.toList.all (·.toNat < 128) then .ok s else .error s!"Invalid IA5String: '{s}'"
  csrFromPem pem :=
    match ofPem .certificateRequest pem with
    | .ok bytes =>
      match requestCodec.parse bytes with
      | some (name, sans, keyUsages, extendedKeyUsages, publicKey) =>
        .ok ⟨requestParams name sans keyUsages extendedKeyUsages, publicKey⟩
      | none => .error "CouldNotParseCertificationRequest"
    | .error e => .error e
  signedBy csr _ kp seed := .ok (issue csr.params csr.publicKey kp seed)
  firstCertDer pem := (ofPem .certificate pem).toOption
  parseX509Pem pem := ofPem .certificate pem
  parseX509Certificate := parseCertificate
  verifySignature x publicKey :=
    match nat.decode x.signature with
    | some (signer, _) =>
      if signer = publicKey then .ok () else .error "SignatureVerificationError"
    | none => .error "InvalidSignatureValue"
  asStr value :=
    if value.stringType ∈ [.utf8String, .printableString, .ia5String] then .ok value.text
    else .error "BerTypeError"

/-! ## Its behaviour -/

@[simp]
theorem keyPairFromPem_serializePem (kp : ℕ) :
    lib.keyPairFromPem (lib.serializePem kp) = .ok kp := by
  simp [lib]

@[simp]
theorem parseCertificate_encode (x : X509Certificate ℕ) :
    parseCertificate (certificateCodec.encode x) = .ok x := by
  simp [parseCertificate]

/-- A request is read back with the parameters it carries. -/
theorem csrFromPem_serializeRequest {params : CertificateParams} {kp : ℕ} {seed : List UInt8}
    {csrPem : String} (h : lib.serializeRequest params kp seed = .ok csrPem) :
    lib.csrFromPem csrPem = .ok ⟨requestParams params.distinguishedName params.subjectAltNames
      params.keyUsages params.extendedKeyUsages, kp⟩ := by
  cases h
  simp [lib]

/-- An issued certificate is read back. -/
@[simp]
theorem parseX509_issue (params : CertificateParams) (publicKey signer : ℕ) (seed : List UInt8) :
    lib.parseX509 (issue params publicKey signer seed).pem =
      .ok (contents params publicKey signer seed) := by
  simp only [X509Lib.parseX509, lib, issue, ofPem_toPem]
  exact parseCertificate_encode _

/-- No beginning of a certificate is read as a private key. -/
theorem keyPairFromPem_take_selfSigned (params : CertificateParams) (kp : ℕ) (seed : List UInt8)
    (cert : Certificate) (n kp' : ℕ) (h : lib.selfSigned params kp seed = .ok cert) :
    lib.keyPairFromPem (.ofList (cert.pem.toList.take n)) ≠ .ok kp' := by
  cases h
  intro hkey
  simp only [lib] at hkey
  split at hkey
  · rename_i bytes hblock
    have hlabel : PemLabel.privateKey = PemLabel.certificate := (ofPem_take hblock).1
    cases hlabel
  · cases hkey

theorem contents_carries (params : CertificateParams) (publicKey signer : ℕ)
    (seed : List UInt8) :
    (contents params publicKey signer seed).Carries params publicKey :=
  ⟨rfl, rfl, rfl, rfl, rfl, rfl, rfl, rfl⟩

/-- A signature verifies under the key of its signer only. -/
theorem verifySignature_contents (params : CertificateParams) (publicKey signer : ℕ)
    (seed : List UInt8) (pk : ℕ) :
    lib.verifySignature (contents params publicKey signer seed) pk = .ok () ↔ pk = signer := by
  simp only [lib, contents, nat.decode_encode]
  by_cases h : signer = pk
  · simp [h]
  · simp [h, Ne.symm h]

/-- The library behaves as documented. -/
theorem lib_lawful : lib.Lawful where
  keyPair_pem := keyPairFromPem_serializePem
  ia5String_eq_ok_iff s t := by
    simp only [lib]
    split
    · rename_i hascii
      rw [List.all_eq_true] at hascii
      rw [Except.ok.injEq, and_iff_right (by simpa using hascii), eq_comm]
    · rename_i hascii
      rw [List.all_eq_true] at hascii
      simp only [decide_eq_true_eq] at hascii
      simp [hascii]
  selfSigned_carries params kp seed cert h := by
    cases h
    exact ⟨_, parseX509_issue params kp kp seed, contents_carries params kp kp seed⟩
  signedBy_carries csr issuer kp seed cert h := by
    cases h
    exact ⟨_, parseX509_issue csr.params csr.publicKey kp seed, contents_carries _ _ _ _,
      verifySignature_contents _ _ _ _⟩

/-- rcgen reads an issued certificate back as a CA certificate. -/
theorem exists_fromCaCertPem (params : CertificateParams) (publicKey signer : ℕ)
    (seed : List UInt8) :
    ∃ params', lib.fromCaCertPem (issue params publicKey signer seed).pem = .ok params' := by
  have hread : (ofPem .certificate (issue params publicKey signer seed).pem >>= parseCertificate) =
      .ok (contents params publicKey signer seed) := parseX509_issue _ _ _ _
  simp only [lib, hread]
  exact ⟨_, rfl⟩

/-- The library issues certificates. -/
theorem lib_operational : lib.Operational where
  csrFromPem_serializeRequest params kp seed csrPem h _ :=
    ⟨_, csrFromPem_serializeRequest h, rfl⟩
  fromCaCertPem_selfSigned params kp seed cert pathLen h _ := by
    cases h
    exact exists_fromCaCertPem params kp kp seed
  selfSigned_ok params kp seed := ⟨_, rfl⟩
  signedBy_ok csr issuer kp seed := ⟨_, rfl⟩

end Symbolic

end AuthnScope
