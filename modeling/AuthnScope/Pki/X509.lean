import AuthnScope.Lib.IpAddr
import Mathlib.Data.Int.Notation
import Mathlib.Tactic.TypeStar

/-!
# The X.509 libraries

The CA, the agent and the evaluators build and read certificates with rcgen, rustls-pemfile and
x509-parser. These crates are a parameter: `X509Lib` lists the functions the program calls, over
arbitrary types of key pairs and public keys, and `X509Lib.Lawful` states what it relies on.

The data that crosses the boundary is concrete: rcgen's `CertificateParams` with the fields the
program sets or leaves at their defaults, and what x509-parser reads out of a certificate.
Signatures are randomised, so the signing functions take the random bytes they draw. Key pairs
are an abstract type; a private key is known by its PEM and its public half.

## Main definitions

* `CertificateParams`, `CertificateSigningRequestParams`, `Certificate`: rcgen's side;
* `X509Certificate`: x509-parser's side;
* `X509Lib`, `X509Lib.Lawful`: the functions and their documented behaviour;
* `X509Lib.Operational`: the behaviour that lets certificates be issued.
-/

namespace AuthnScope

/-- `time::OffsetDateTime` in UTC: nanoseconds since the Unix epoch. -/
structure OffsetDateTime where
  nanos : ℤ
  deriving DecidableEq, Repr

namespace OffsetDateTime

/-- `unix_timestamp`: whole seconds, rounded down. -/
def unixTimestamp (t : OffsetDateTime) : ℤ := t.nanos / 1000000000

/-- Addition of `time::Duration::seconds`. -/
def addSeconds (t : OffsetDateTime) (seconds : ℤ) : OffsetDateTime :=
  ⟨t.nanos + seconds * 1000000000⟩

/-- Adding whole seconds moves the timestamp by as many. -/
@[simp]
theorem unixTimestamp_addSeconds (t : OffsetDateTime) (seconds : ℤ) :
    (t.addSeconds seconds).unixTimestamp = t.unixTimestamp + seconds := by
  simp only [unixTimestamp, addSeconds]
  omega

end OffsetDateTime

/-- rcgen's `DnType`. -/
inductive DnType where
  | countryName
  | localityName
  | stateOrProvinceName
  | organizationName
  | organizationalUnitName
  | commonName
  | customDnType (oid : List ℕ)
  deriving DecidableEq, Repr

/-- The ASN.1 string types of rcgen's `DnValue`. -/
inductive StringType where
  | bmpString
  | ia5String
  | printableString
  | teletexString
  | universalString
  | utf8String
  deriving DecidableEq, Repr

/-- rcgen's `DnValue`. -/
structure DnValue where
  stringType : StringType
  text : String
  deriving DecidableEq, Repr

/-- A subject name: its attributes in order. -/
abbrev DistinguishedName := List (DnType × DnValue)

/-- rcgen's `SanType`. -/
inductive SanType where
  | rfc822Name (name : String)
  | dnsName (name : String)
  | uri (uri : String)
  | ipAddress (ip : RustNet.IpAddr)
  deriving DecidableEq, Repr

/-- rcgen's `IsCa`; `constrained n` is a CA with a path length constraint. -/
inductive IsCa where
  | noCa
  | explicitNoCa
  | unconstrained
  | constrained (pathLen : ℕ)
  deriving DecidableEq, Repr

/-- rcgen's `KeyUsagePurpose`. -/
inductive KeyUsagePurpose where
  | digitalSignature
  | contentCommitment
  | keyEncipherment
  | dataEncipherment
  | keyAgreement
  | keyCertSign
  | crlSign
  | encipherOnly
  | decipherOnly
  deriving DecidableEq, Repr

/-- rcgen's `ExtendedKeyUsagePurpose`. -/
inductive ExtendedKeyUsagePurpose where
  | any
  | serverAuth
  | clientAuth
  | codeSigning
  | emailProtection
  | timeStamping
  | ocspSigning
  | other (oid : List ℕ)
  deriving DecidableEq, Repr

/-- rcgen's `CertificateParams`. -/
structure CertificateParams where
  notBefore : OffsetDateTime
  notAfter : OffsetDateTime
  subjectAltNames : List SanType
  distinguishedName : DistinguishedName
  isCa : IsCa
  keyUsages : List KeyUsagePurpose
  extendedKeyUsages : List ExtendedKeyUsagePurpose
  customExtensions : List (List ℕ × List UInt8)
  deriving DecidableEq, Repr

/-- `rcgen::date_time_ymd` at the first of January of a year from 1970 on, through the days
before it. -/
def dateTimeJan1 (year : ℕ) : OffsetDateTime :=
  let y := year - 1
  let days : ℤ := 365 * y + y / 4 - y / 100 + y / 400 - 719162
  ⟨days * 86400 * 1000000000⟩

/-- `CertificateParams::default()`. -/
def CertificateParams.default : CertificateParams where
  notBefore := dateTimeJan1 1975
  notAfter := dateTimeJan1 4096
  subjectAltNames := []
  distinguishedName := [(.commonName, ⟨.utf8String, "rcgen self signed cert"⟩)]
  isCa := .noCa
  keyUsages := []
  extendedKeyUsages := []
  customExtensions := []

/-- rcgen's `CertificateSigningRequestParams`. -/
structure CertificateSigningRequestParams (PublicKey : Type) where
  params : CertificateParams
  publicKey : PublicKey
  deriving DecidableEq, Repr

/-- rcgen's `Certificate`, with its two encodings. -/
structure Certificate where
  params : CertificateParams
  pem : String
  der : List UInt8
  deriving DecidableEq, Repr

/-- What x509-parser reads out of a certificate; timestamps are in seconds. -/
structure X509Certificate (PublicKey : Type) where
  subject : DistinguishedName
  publicKey : PublicKey
  notBefore : ℤ
  notAfter : ℤ
  subjectAltNames : List SanType
  isCa : IsCa
  keyUsages : List KeyUsagePurpose
  extendedKeyUsages : List ExtendedKeyUsagePurpose
  signature : List UInt8
  deriving DecidableEq, Repr

/-- The functions of rcgen, rustls-pemfile and x509-parser that the program calls. -/
structure X509Lib (KeyPair PublicKey : Type) where
  /-- rcgen: `KeyPair::from_pem`. -/
  keyPairFromPem : String → Except String KeyPair
  /-- rcgen: `KeyPair::serialize_pem`. -/
  serializePem : KeyPair → String
  /-- rcgen: `KeyPair::serialize_der`. -/
  serializeDer : KeyPair → List UInt8
  /-- The public half of a key pair. -/
  publicKey : KeyPair → PublicKey
  /-- rcgen: `CertificateParams::from_ca_cert_pem`. -/
  fromCaCertPem : String → Except String CertificateParams
  /-- rcgen: `CertificateParams::self_signed`. -/
  selfSigned : CertificateParams → KeyPair → List UInt8 → Except String Certificate
  /-- rcgen: `CertificateParams::serialize_request` and `pem`. -/
  serializeRequest : CertificateParams → KeyPair → List UInt8 → Except String String
  /-- rcgen: `Ia5String::try_from`. -/
  ia5String : String → Except String String
  /-- rcgen: `CertificateSigningRequestParams::from_pem`. -/
  csrFromPem : String → Except String (CertificateSigningRequestParams PublicKey)
  /-- rcgen: `CertificateSigningRequestParams::signed_by`. -/
  signedBy : CertificateSigningRequestParams PublicKey → Certificate → KeyPair → List UInt8 →
    Except String Certificate
  /-- rustls-pemfile: the first item of `certs`, if it is readable. -/
  firstCertDer : String → Option (List UInt8)
  /-- x509-parser: the contents `parse_x509_pem` finds. -/
  parseX509Pem : String → Except String (List UInt8)
  /-- x509-parser: `parse_x509_certificate`. -/
  parseX509Certificate : List UInt8 → Except String (X509Certificate PublicKey)
  /-- x509-parser: `X509Certificate::verify_signature`. -/
  verifySignature : X509Certificate PublicKey → PublicKey → Except String Unit
  /-- x509-parser: `AttributeTypeAndValue::as_str`. -/
  asStr : DnValue → Except String String

section

variable {KeyPair PublicKey : Type}

/-- A certificate says what rcgen was asked to put in it, for the given public key. -/
structure X509Certificate.Carries (x : X509Certificate PublicKey) (params : CertificateParams)
    (publicKey : PublicKey) : Prop where
  subject : x.subject = params.distinguishedName
  publicKey : x.publicKey = publicKey
  notBefore : x.notBefore = params.notBefore.unixTimestamp
  notAfter : x.notAfter = params.notAfter.unixTimestamp
  subjectAltNames : x.subjectAltNames = params.subjectAltNames
  isCa : x.isCa = params.isCa
  keyUsages : x.keyUsages = params.keyUsages
  extendedKeyUsages : x.extendedKeyUsages = params.extendedKeyUsages

namespace X509Lib

variable (lib : X509Lib KeyPair PublicKey)

/-- `parse_x509_pem` followed by `parse_x509_certificate`. -/
def parseX509 (pem : String) : Except String (X509Certificate PublicKey) :=
  lib.parseX509Pem pem >>= lib.parseX509Certificate

/-- What the program relies on. -/
structure Lawful : Prop where
  /-- rcgen reads back the keys it writes. -/
  keyPair_pem : ∀ kp, lib.keyPairFromPem (lib.serializePem kp) = .ok kp
  /-- IA5 strings are the ASCII strings. -/
  ia5String_eq_ok_iff : ∀ s t, lib.ia5String s = .ok t ↔ (∀ c ∈ s.toList, c.toNat < 128) ∧ t = s
  /-- A self-signed certificate says what its parameters say, for the key pair that signed. -/
  selfSigned_carries : ∀ params kp seed cert, lib.selfSigned params kp seed = .ok cert →
    ∃ x, lib.parseX509 cert.pem = .ok x ∧ x.Carries params (lib.publicKey kp)
  /-- A signed certificate says what the request's parameters say, for the request's key, and
  its signature verifies exactly under the public key of the key pair that signed. -/
  signedBy_carries : ∀ csr issuer kp seed cert, lib.signedBy csr issuer kp seed = .ok cert →
    ∃ x, lib.parseX509 cert.pem = .ok x ∧ x.Carries csr.params csr.publicKey ∧
      ∀ pk, lib.verifySignature x pk = .ok () ↔ pk = lib.publicKey kp

/-- What lets the program issue certificates: what rcgen writes it reads back, and signing does not
fail. -/
structure Operational : Prop where
  /-- A request without extensions is read back with its subject. -/
  csrFromPem_serializeRequest : ∀ params kp seed csrPem,
    lib.serializeRequest params kp seed = .ok csrPem → params.customExtensions = [] →
    ∃ csr, lib.csrFromPem csrPem = .ok csr ∧
      csr.params.distinguishedName = params.distinguishedName
  /-- A self-signed CA certificate is read back as one. -/
  fromCaCertPem_selfSigned : ∀ params kp seed cert pathLen,
    lib.selfSigned params kp seed = .ok cert → params.isCa = .constrained pathLen →
    ∃ params', lib.fromCaCertPem cert.pem = .ok params'
  /-- The random bytes of a signature are there. -/
  selfSigned_ok : ∀ params kp seed, ∃ cert, lib.selfSigned params kp seed = .ok cert
  /-- The random bytes of a signature are there. -/
  signedBy_ok : ∀ csr issuer kp seed, ∃ cert, lib.signedBy csr issuer kp seed = .ok cert

end X509Lib

end

end AuthnScope
