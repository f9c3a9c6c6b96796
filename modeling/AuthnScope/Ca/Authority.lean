import AuthnScope.Lib.FileSystem
import AuthnScope.Pki.X509

/-!
# The certificate authority

`authn-scope-ca/src/ca.rs`: the CA's key and certificate, read from two PEM files or generated
and written to them. Key generation and the random bytes of the self-signature are parameters of
`init`.

## Main definitions

* `CertificateAuthority.load`, `CertificateAuthority.init`;
* `CertificateAuthority.KeyMatches`: the certificate is for the key that signs;
* `FilesMatch`: the same of two PEM files.

## Main results

* `load_eq_ok`, `init_eq_ok`: where the CA that is returned comes from;
* `exists_rcgenCert_of_init_iff`: when it can act as an issuer;
* `keyMatches_of_load_iff`, `keyMatches_of_generate`, `keyMatches_of_init_iff`: when its
  certificate is for its key.
-/

namespace AuthnScope

open FileSystem Outcome

/-- The errors of the CA engine. -/
inductive CaError where
  | keyNotFound (path source : String)
  | certNotFound (path source : String)
  | keyParseFailed (message : String)
  | certParseFailed (message : String)
  | rcgenError (message : String)
  | ringError (message : String)
  | io (message : String)
  deriving DecidableEq, Repr

/-- `Display` of an error. -/
def CaError.toString : CaError → String
  | .keyNotFound path source => s!"CA key file not found at {path}: {source}"
  | .certNotFound path source => s!"CA cert file not found at {path}: {source}"
  | .keyParseFailed message => s!"failed to parse CA key PEM: {message}"
  | .certParseFailed message => s!"failed to parse CA cert PEM: {message}"
  | .rcgenError message => s!"certificate generation error: {message}"
  | .ringError message => s!"ring crypto error: {message}"
  | .io message => s!"I/O error: {message}"

/-- The root CA's PEM-encoded key and certificate, and the raw DER bytes. -/
structure CertificateAuthority where
  keyPem : String
  certPem : String
  certDer : List UInt8
  keyDer : List UInt8
  deriving DecidableEq, Repr

/-- Computations of the CA engine on the file system. -/
abbrev CaM := EStateM CaError Fs

namespace CertificateAuthority

section

variable {KeyPair PublicKey : Type} (lib : X509Lib KeyPair PublicKey)

/-- `pem_to_der` and the error for its `None`. -/
def certDerOfPem (certPem : String) : Except CaError (List UInt8) :=
  match lib.firstCertDer certPem with
  | some certDer => .ok certDer
  | none => .error (.certParseFailed "no CERTIFICATE block found")

/-- Load an existing CA from PEM files on disk. -/
def load (certPath keyPath : String) : CaM CertificateAuthority := do
  let certPem ← mapError (.certNotFound certPath) (readToString certPath)
  let keyPem ← mapError (.keyNotFound keyPath) (readToString keyPath)
  let keyPair ← liftResult ((lib.keyPairFromPem keyPem).mapError .keyParseFailed)
  -- the key is only parsed; it is not compared with the certificate
  let certDer ← liftResult (certDerOfPem lib certPem)
  return {
    keyPem := keyPem
    certPem := certPem
    certDer := certDer
    keyDer := lib.serializeDer keyPair }

/-- The parameters of the CA certificate. -/
def params : CertificateParams :=
  { CertificateParams.default with
    distinguishedName := [
      (.commonName, ⟨.utf8String, "authn-scope-ca"⟩),
      (.organizationName, ⟨.utf8String, "authn-scope"⟩)]
    isCa := .constrained 1
    keyUsages := [.keyCertSign, .crlSign, .digitalSignature]
    -- a fixed validity of ten years, whatever the time of generation
    notBefore := dateTimeJan1 2024
    notAfter := dateTimeJan1 2034 }

/-- The key pair and self-signed certificate of a new CA. -/
def generate (generated : Except String KeyPair) (seed : List UInt8) :
    Except CaError CertificateAuthority := do
  let keyPair ← generated.mapError .rcgenError
  let cert ← (lib.selfSigned params keyPair seed).mapError .rcgenError
  return {
    keyPem := lib.serializePem keyPair
    certPem := cert.pem
    certDer := cert.der
    keyDer := lib.serializeDer keyPair }

/-- `cert_path.exists() && key_path.exists()`. -/
def bothExist (certPath keyPath : String) : FsM Bool := do
  if ← pathExists certPath then pathExists keyPath else return false

/-- Remove the file at a path if there is one; a failure is ignored. -/
def removeOld (path : String) : CaM Unit := do
  if ← mapError .io (pathExists path) then ignoreResult (removeFile path) else return ()

/-- `Path::parent` is `Some`: the path is neither empty nor the root. -/
def hasParent (path : String) : Bool := path.toList.any (· ≠ '/')

/-- Create the parent directory of a path if it has one. -/
def createParent (path : String) : FsM Unit := if hasParent path then createDirAll else return ()

/-- Write the PEM files, parent directories first, and restrict the key file to its owner. -/
def writeFiles (ca : CertificateAuthority) (certPath keyPath : String) : CaM Unit := mapError .io do
  createParent certPath
  createParent keyPath
  write certPath ca.certPem
  write keyPath ca.keyPem
  setPermissions keyPath 0o600

/-- Whether `init` finds an existing CA that it should keep. -/
def shouldSkip (certPath keyPath : String) (idempotent : Bool) : CaM Bool :=
  if idempotent then mapError .io (bothExist certPath keyPath) else return false

/-- Remove both files unless `idempotent`. -/
def removeOldFiles (certPath keyPath : String) (idempotent : Bool) : CaM Unit :=
  if idempotent then return ()
  else do
    removeOld certPath
    removeOld keyPath

/-- Generate a new CA and write PEM files to disk; if `idempotent` and both files exist, load
them instead. -/
def init (generated : Except String KeyPair) (seed : List UInt8) (certPath keyPath : String)
    (idempotent : Bool) : CaM CertificateAuthority := do
  let skip ← shouldSkip certPath keyPath idempotent
  if skip then load lib certPath keyPath
  else
    -- the old files are gone before the new CA is generated
    removeOldFiles certPath keyPath idempotent
    let ca ← liftResult (generate lib generated seed)
    ca.writeFiles certPath keyPath
    return ca

/-- Re-create the rcgen `KeyPair` from the stored PEM. -/
def keyPair (ca : CertificateAuthority) : Except CaError KeyPair :=
  (lib.keyPairFromPem ca.keyPem).mapError .keyParseFailed

/-- Re-create the rcgen `Certificate` from PEM by signing its parameters again with the loaded
key. -/
def rcgenCert (ca : CertificateAuthority) (seed : List UInt8) : Except CaError Certificate := do
  let keyPair ← ca.keyPair lib
  let params ← (lib.fromCaCertPem ca.certPem).mapError .certParseFailed
  (lib.selfSigned params keyPair seed).mapError .rcgenError

/-- The certificate is readable and for the key that signs. -/
def KeyMatches (ca : CertificateAuthority) : Prop :=
  ∃ x keyPair, lib.parseX509 ca.certPem = .ok x ∧ lib.keyPairFromPem ca.keyPem = .ok keyPair ∧
    x.publicKey = lib.publicKey keyPair

/-- The two files hold a certificate and the key it is for. -/
def FilesMatch (files : Files) (certPath keyPath : String) : Prop :=
  ∃ certPem keyPem x keyPair, files.text certPath = some certPem ∧
    files.text keyPath = some keyPem ∧ lib.parseX509 certPem = .ok x ∧
    lib.keyPairFromPem keyPem = .ok keyPair ∧ x.publicKey = lib.publicKey keyPair

/-- The number of calls of a test for a file, with the one that follows if the file is found; the
test is the `n`-th call. -/
def testCalls (faults : ℕ → Option Fault) (n : ℕ) (file : Option File) : ℕ :=
  if faults n = none ∧ file.isSome then 2 else 1

/-- Both files are found when they are looked for. -/
def FindsBoth (fs : Fs) (certPath keyPath : String) : Prop :=
  (fs.faults fs.calls = none ∧ (fs.files certPath).isSome) ∧
    fs.faults (fs.calls + 1) = none ∧ (fs.files keyPath).isSome

/-! ## Where a CA comes from -/

variable {lib}

/-- A loaded CA holds the texts of the two files. -/
theorem load_eq_ok {certPath keyPath : String} {fs fs' : Fs} {ca : CertificateAuthority}
    (h : load lib certPath keyPath fs = .ok ca fs') :
    fs.files.text certPath = some ca.certPem ∧ fs.files.text keyPath = some ca.keyPem := by
  unfold load at h
  obtain ⟨certPem, s₁, hcert, h⟩ := bind_eq_ok_iff.mp h
  rw [mapError_eq_ok_iff, readToString_eq_ok_iff] at hcert
  obtain ⟨-, hcert, rfl⟩ := hcert
  obtain ⟨keyPem, s₂, hkey, h⟩ := bind_eq_ok_iff.mp h
  rw [mapError_eq_ok_iff, readToString_eq_ok_iff] at hkey
  obtain ⟨-, hkey, rfl⟩ := hkey
  obtain ⟨keyPair, s₃, -, h⟩ := bind_eq_ok_iff.mp h
  obtain ⟨certDer, s₄, -, h⟩ := bind_eq_ok_iff.mp h
  cases h
  exact ⟨hcert, hkey⟩

/-- The key of a loaded CA is usable. -/
theorem exists_keyPairFromPem_of_load {certPath keyPath : String} {fs fs' : Fs}
    {ca : CertificateAuthority} (h : load lib certPath keyPath fs = .ok ca fs') :
    ∃ keyPair, lib.keyPairFromPem ca.keyPem = .ok keyPair := by
  unfold load at h
  obtain ⟨certPem, s₁, -, h⟩ := bind_eq_ok_iff.mp h
  obtain ⟨keyPem, s₂, -, h⟩ := bind_eq_ok_iff.mp h
  obtain ⟨keyPair, s₃, hkp, h⟩ := bind_eq_ok_iff.mp h
  obtain ⟨certDer, s₄, -, h⟩ := bind_eq_ok_iff.mp h
  cases h
  exact ⟨keyPair, (except_mapError_eq_ok_iff _ _ _).mp ((liftResult_eq_ok_iff _ _ _ _).mp hkp).1⟩

/-- A new CA holds the generated key and a certificate that it signed for itself. -/
theorem generate_eq_ok {generated : Except String KeyPair} {seed : List UInt8}
    {ca : CertificateAuthority} (h : generate lib generated seed = .ok ca) :
    ∃ keyPair cert, generated = .ok keyPair ∧ lib.selfSigned params keyPair seed = .ok cert ∧
      ca = ⟨lib.serializePem keyPair, cert.pem, cert.der, lib.serializeDer keyPair⟩ := by
  unfold generate at h
  obtain ⟨keyPair, hkey, h⟩ := except_bind_eq_ok_iff.mp h
  obtain ⟨cert, hcert, h⟩ := except_bind_eq_ok_iff.mp h
  rw [except_mapError_eq_ok_iff] at hkey hcert
  cases h
  exact ⟨keyPair, cert, hkey, hcert, rfl⟩

/-- Readable files with a usable key and a certificate are loaded. -/
theorem load_of_files {certPath keyPath certPem keyPem : String} {fs : Fs}
    {keyPair : KeyPair} {certDer : List UInt8} (hfaults : ∀ n, fs.faults n = none)
    (hcert : fs.files.text certPath = some certPem) (hkey : fs.files.text keyPath = some keyPem)
    (hkp : lib.keyPairFromPem keyPem = .ok keyPair)
    (hder : lib.firstCertDer certPem = some certDer) :
    load lib certPath keyPath fs =
      .ok ⟨keyPem, certPem, certDer, lib.serializeDer keyPair⟩
        { fs with calls := fs.calls + 1 + 1 } := by
  have hread := (readToString_eq_ok_iff certPath certPem fs _).mpr ⟨hfaults _, hcert, rfl⟩
  have hread' := (readToString_eq_ok_iff keyPath keyPem { fs with calls := fs.calls + 1 } _).mpr
    ⟨hfaults _, hkey, rfl⟩
  rw [load, bind_of_ok ((mapError_eq_ok_iff _ _ _ _ _).mpr hread)]
  -- the second read is the next system call
  rw [bind_of_ok ((mapError_eq_ok_iff _ _ _ _ _).mpr hread')]
  simp only [hkp, Except.mapError, certDerOfPem, hder, liftResult_ok_bind, pure_run]

/-- The test for both files leaves them alone. -/
theorem bothExist_run (certPath keyPath : String) (fs : Fs) :
    ∃ b, bothExist certPath keyPath fs =
        .ok b { fs with calls := fs.calls + testCalls fs.faults fs.calls (fs.files certPath) } ∧
      (b = true ↔ FindsBoth fs certPath keyPath) := by
  unfold bothExist FindsBoth testCalls
  rw [bind_of_ok (pathExists_run certPath fs)]
  by_cases h : fs.faults fs.calls = none ∧ (fs.files certPath).isSome
  · have hfound : ((fs.faults fs.calls).isNone && (fs.files certPath).isSome) = true := by
      simpa using h
    -- with the certificate there, the key decides
    rw [if_pos hfound, if_pos h]
    exact ⟨_, pathExists_run keyPath _, by simp [h]⟩
  · have hfound : ¬((fs.faults fs.calls).isNone && (fs.files certPath).isSome) = true := by
      simpa using h
    rw [if_neg hfound, if_neg h]
    exact ⟨false, rfl, by simp [h]⟩

/-- The decision of `init` to keep the CA leaves the files alone. -/
theorem shouldSkip_run (certPath keyPath : String) (idempotent : Bool) (fs : Fs) :
    ∃ b, shouldSkip certPath keyPath idempotent fs = .ok b
        { fs with calls := fs.calls +
          if idempotent then testCalls fs.faults fs.calls (fs.files certPath) else 0 } ∧
      (b = true ↔ idempotent ∧ FindsBoth fs certPath keyPath) := by
  unfold shouldSkip
  cases idempotent with
  | false => exact ⟨false, rfl, by simp⟩
  | true =>
    obtain ⟨b, hboth, hb⟩ := bothExist_run certPath keyPath fs
    exact ⟨b, (mapError_eq_ok_iff _ _ _ _ _).mpr hboth, by simp [hb]⟩

/-- The CA that `init` returns is loaded from the files it found, or else newly generated. -/
theorem init_eq_ok {generated : Except String KeyPair} {seed : List UInt8}
    {certPath keyPath : String} {idempotent : Bool} {fs fs' : Fs} {ca : CertificateAuthority}
    (h : init lib generated seed certPath keyPath idempotent fs = .ok ca fs') :
    ((idempotent ∧ FindsBoth fs certPath keyPath) ∧
      ∃ n, load lib certPath keyPath { fs with calls := n } = .ok ca fs') ∨
    (¬(idempotent ∧ FindsBoth fs certPath keyPath) ∧ generate lib generated seed = .ok ca) := by
  obtain ⟨skip, hrun, hskip⟩ := shouldSkip_run certPath keyPath idempotent fs
  unfold init at h
  rw [bind_of_ok hrun] at h
  split at h
  · rename_i hs
    exact Or.inl ⟨hskip.mp hs, _, h⟩
  · rename_i hs
    refine Or.inr ⟨mt hskip.mpr hs, ?_⟩
    -- removing the old files, generating and writing succeed in turn
    obtain ⟨⟨⟩, s₁, -, h⟩ := bind_eq_ok_iff.mp h
    obtain ⟨ca', s₂, hgen, h⟩ := bind_eq_ok_iff.mp h
    obtain ⟨⟨⟩, s₃, -, h⟩ := bind_eq_ok_iff.mp h
    cases h
    exact ((liftResult_eq_ok_iff _ _ _ _).mp hgen).1

/-- A CA can re-create its issuer when its key and its certificate are usable. -/
theorem exists_rcgenCert_iff (hop : lib.Operational) (ca : CertificateAuthority)
    (seed : List UInt8) :
    (∃ cert, ca.rcgenCert lib seed = .ok cert) ↔
      (∃ keyPair, lib.keyPairFromPem ca.keyPem = .ok keyPair) ∧
        ∃ params, lib.fromCaCertPem ca.certPem = .ok params := by
  simp only [rcgenCert, keyPair, except_bind_eq_ok_iff, except_mapError_eq_ok_iff]
  constructor
  · rintro ⟨cert, keyPair, hkp, params, hparams, -⟩
    exact ⟨⟨keyPair, hkp⟩, params, hparams⟩
  · rintro ⟨⟨keyPair, hkp⟩, params, hparams⟩
    obtain ⟨cert, hcert⟩ := hop.selfSigned_ok params keyPair seed
    exact ⟨cert, keyPair, hkp, params, hparams, hcert⟩

/-- The CA that `init` returns can re-create its issuer, unless it was loaded from a file that is
not a CA certificate. -/
theorem exists_rcgenCert_of_init_iff (hlib : lib.Lawful) (hop : lib.Operational)
    {generated : Except String KeyPair} {seed : List UInt8} {certPath keyPath : String}
    {idempotent : Bool} {fs fs' : Fs} {ca : CertificateAuthority}
    (h : init lib generated seed certPath keyPath idempotent fs = .ok ca fs')
    (seed' : List UInt8) :
    (∃ cert, ca.rcgenCert lib seed' = .ok cert) ↔
      (idempotent ∧ FindsBoth fs certPath keyPath → ∀ certPem,
        fs.files.text certPath = some certPem →
          ∃ params, lib.fromCaCertPem certPem = .ok params) := by
  rw [exists_rcgenCert_iff hop]
  rcases init_eq_ok h with ⟨hfound, n, hload⟩ | ⟨hfound, hgen⟩
  · have hcert : fs.files.text certPath = some ca.certPem := (load_eq_ok hload).1
    rw [hcert]
    constructor
    · rintro ⟨-, hparams⟩ - certPem ⟨⟩
      exact hparams
    · exact fun hparams => ⟨exists_keyPairFromPem_of_load hload, hparams hfound _ rfl⟩
  · refine iff_of_true ?_ fun hf => absurd hf hfound
    -- a new CA reads back what it has just written
    obtain ⟨keyPair, cert, -, hcert, rfl⟩ := generate_eq_ok hgen
    exact ⟨⟨keyPair, hlib.keyPair_pem keyPair⟩,
      hop.fromCaCertPem_selfSigned _ _ _ _ _ hcert rfl⟩

/-! ## When the certificate is for the key -/

/-- A loaded CA's certificate is for its key exactly when the files match. -/
theorem keyMatches_of_load_iff {certPath keyPath : String} {fs fs' : Fs}
    {ca : CertificateAuthority} (h : load lib certPath keyPath fs = .ok ca fs') :
    ca.KeyMatches lib ↔ FilesMatch lib fs.files certPath keyPath := by
  obtain ⟨hcert, hkey⟩ := load_eq_ok h
  unfold KeyMatches FilesMatch
  rw [hcert, hkey]
  constructor
  · rintro ⟨x, keyPair, hx, hkp, hpk⟩
    exact ⟨_, _, x, keyPair, rfl, rfl, hx, hkp, hpk⟩
  · rintro ⟨_, _, x, keyPair, ⟨⟩, ⟨⟩, hx, hkp, hpk⟩
    exact ⟨x, keyPair, hx, hkp, hpk⟩

/-- A new CA has a readable certificate with the CA parameters, for its key. -/
theorem carries_of_generate (hlib : lib.Lawful) {generated : Except String KeyPair}
    {seed : List UInt8} {ca : CertificateAuthority} (h : generate lib generated seed = .ok ca) :
    ∃ x keyPair, lib.parseX509 ca.certPem = .ok x ∧ lib.keyPairFromPem ca.keyPem = .ok keyPair ∧
      x.Carries params (lib.publicKey keyPair) := by
  obtain ⟨keyPair, cert, -, hcert, rfl⟩ := generate_eq_ok h
  obtain ⟨x, hx, hcarries⟩ := hlib.selfSigned_carries _ _ _ _ hcert
  exact ⟨x, keyPair, hx, hlib.keyPair_pem keyPair, hcarries⟩

/-- A new CA's certificate is for its key. -/
theorem keyMatches_of_generate (hlib : lib.Lawful) {generated : Except String KeyPair}
    {seed : List UInt8} {ca : CertificateAuthority} (h : generate lib generated seed = .ok ca) :
    ca.KeyMatches lib := by
  obtain ⟨x, keyPair, hx, hkey, hcarries⟩ := carries_of_generate hlib h
  exact ⟨x, keyPair, hx, hkey, hcarries.publicKey⟩

/-- The CA that `init` returns has a certificate for its key unless it was loaded from files that
do not match. -/
theorem keyMatches_of_init_iff (hlib : lib.Lawful) {generated : Except String KeyPair}
    {seed : List UInt8} {certPath keyPath : String} {idempotent : Bool} {fs fs' : Fs}
    {ca : CertificateAuthority}
    (h : init lib generated seed certPath keyPath idempotent fs = .ok ca fs') :
    ca.KeyMatches lib ↔
      (idempotent ∧ FindsBoth fs certPath keyPath → FilesMatch lib fs.files certPath keyPath) := by
  rcases init_eq_ok h with ⟨hfound, n, hload⟩ | ⟨hfound, hgen⟩
  · rw [keyMatches_of_load_iff hload]
    exact ⟨fun hfiles _ => hfiles, fun hfiles => hfiles hfound⟩
  · exact ⟨fun _ hf => absurd hf hfound, fun _ => keyMatches_of_generate hlib hgen⟩

end

end CertificateAuthority

end AuthnScope
