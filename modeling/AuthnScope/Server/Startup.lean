import AuthnScope.Ca.Reinit
import AuthnScope.Evaluator.Issued
import AuthnScope.Lib.Run

/-!
# Starts of the server

`main` of `authn-scope-server` loads the configuration and then the CA, which it generates again
under `--genkey`. The two files of the CA are all that a start leaves to the next one, and a start
can end anywhere in between.

## Main definitions

* `Start`, `Start.main`: a start, up to the listener;
* `CertificateAuthority.Holds`: the CA that the two files hold;
* `CertificateAuthority.Sound`: a CA that is loaded has a certificate for its key;
* `X509Lib.ReadsBeginnings`: what is read of a PEM text that stops early.

## Main results

* `restarts_keep_ca`: a start without `--genkey` gets the CA of the start before it;
* `starts_sound`: no start mixes the certificate of one CA with the key of another, as long as old
  files can be removed.
-/

namespace AuthnScope

open CertificateAuthority FileSystem Outcome Transition

/-- A start of the server: what the configuration file gives, the flag, what a new CA is generated
from, and how the system calls go. -/
structure Start (KeyPair : Type) where
  config : Except String HostConfig
  genkey : Bool
  generated : Except String KeyPair
  seed : List UInt8
  umask : BitVec 12
  faults : ℕ → Option Fault

section

variable {KeyPair PublicKey : Type} (lib : X509Lib KeyPair PublicKey)

namespace Start

variable (start : Start KeyPair) (certPath keyPath : String)

/-- `main` up to the listener: the configuration and the CA, or the error that is logged. -/
def main : EStateM String Fs (HostConfig × CertificateAuthority) := do
  let cfg ← liftResult start.config
  let ca ← mapError CaError.toString <|
    if start.genkey then
      init lib start.generated start.seed cfg.caCertPath cfg.caKeyPath false
    else load lib cfg.caCertPath cfg.caKeyPath
  return (cfg, ca)

/-- The start on a disk with these files. -/
def result (files : Files) : EStateM.Result String Fs (HostConfig × CertificateAuthority) :=
  start.main lib (.start files start.umask start.faults)

/-- The files that the start leaves. -/
def step (files : Files) (start : Start KeyPair) : Option Files :=
  some (finalState (start.result lib files)).files

/-- The start comes to listen with this CA. -/
def Obtains (files : Files) (ca : CertificateAuthority) : Prop :=
  ∃ cfg fs', start.result lib files = .ok (cfg, ca) fs'

/-- The configuration, if there is one, names these files. -/
def Names : Prop :=
  ∀ cfg, start.config = .ok cfg → cfg.caCertPath = certPath ∧ cfg.caKeyPath = keyPath

/-- A start that generates a CA finds the old files and can remove them. -/
def Removes : Prop := start.genkey → ∀ n < 4, start.faults n = none

end Start

namespace X509Lib

/-- A certificate or a key that stops early is not read as PEM, or it is read like the whole. -/
structure ReadsBeginnings : Prop where
  /-- rustls-pemfile reads the block of a certificate that rcgen has written. -/
  firstCertDer_pem : ∀ params kp seed cert, lib.selfSigned params kp seed = .ok cert →
    lib.firstCertDer cert.pem = some cert.der
  /-- rustls-pemfile reads a block to its last line, and so does x509-parser. -/
  firstCertDer_take : ∀ params kp seed cert n der, lib.selfSigned params kp seed = .ok cert →
    lib.firstCertDer (.ofList (cert.pem.toList.take n)) = some der →
      lib.parseX509 (.ofList (cert.pem.toList.take n)) = lib.parseX509 cert.pem
  /-- rcgen reads a block to its last line. -/
  keyPairFromPem_take : ∀ kp n kp',
    lib.keyPairFromPem (.ofList ((lib.serializePem kp).toList.take n)) = .ok kp' → kp' = kp

end X509Lib

namespace CertificateAuthority

variable (certPath keyPath : String)

/-- The two files hold the CA. -/
structure Holds (files : Files) (ca : CertificateAuthority) : Prop where
  certPem_eq : files.text certPath = some ca.certPem
  keyPem_eq : files.text keyPath = some ca.keyPem
  assemble_eq : assemble lib ca.certPem ca.keyPem = .ok ca

/-- A CA in the two files has a certificate for its key. -/
def Sound (files : Files) : Prop :=
  ∀ ca, Holds lib certPath keyPath files ca → ca.KeyMatches lib

/-- The certificate is that of a new CA, and the CA has the key. -/
def Genuine (ca : CertificateAuthority) : Prop :=
  ∃ x keyPair, lib.parseX509 ca.certPem = .ok x ∧ lib.keyPairFromPem ca.keyPem = .ok keyPair ∧
    x.Carries params (lib.publicKey keyPair)

end CertificateAuthority

end

section

variable {KeyPair PublicKey : Type} {lib : X509Lib KeyPair PublicKey} {files files' : Files}
  {certPath keyPath : String} {ca ca' : CertificateAuthority} {start : Start KeyPair}

namespace CertificateAuthority

variable {generated : Except String KeyPair} {seed : List UInt8} {fs fs' s : Fs}

/-! ## What the files hold -/

theorem assemble_eq_ok {certPem keyPem : String} (h : assemble lib certPem keyPem = .ok ca) :
    ca.certPem = certPem ∧ ca.keyPem = keyPem ∧ (∃ der, lib.firstCertDer certPem = some der) ∧
      ∃ kp, lib.keyPairFromPem keyPem = .ok kp := by
  unfold assemble at h
  obtain ⟨kp, hkp, h⟩ := except_bind_eq_ok_iff.mp h
  obtain ⟨der, hder, h⟩ := except_bind_eq_ok_iff.mp h
  cases h
  refine ⟨rfl, rfl, ?_, kp, (except_mapError_eq_ok_iff _ _ _).mp hkp⟩
  unfold certDerOfPem at hder
  split at hder
  · rename_i der' hfirst
    exact ⟨der', hfirst⟩
  · cases hder

/-- The CA that the files hold is loaded, if both can be read. -/
theorem exists_load_iff :
    (∃ fs', load lib certPath keyPath fs = .ok ca fs') ↔
      fs.faults fs.calls = none ∧ fs.faults (fs.calls + 1) = none ∧
        Holds lib certPath keyPath fs.files ca := by
  have hresult : (∃ fs', load lib certPath keyPath fs = .ok ca fs') ↔
      loadResult lib certPath keyPath fs = .ok ca := by
    unfold loadResult
    cases load lib certPath keyPath fs <;> simp
  simp only [hresult, loadResult_eq, except_bind_eq_ok_iff, except_mapError_eq_ok_iff,
    readResult_eq_ok_iff]
  constructor
  · rintro ⟨certPem, ⟨hcall, hcert⟩, keyPem, ⟨hcall', hkey⟩, h⟩
    obtain ⟨rfl, rfl, -⟩ := assemble_eq_ok h
    exact ⟨hcall, hcall', hcert, hkey, h⟩
  · rintro ⟨hcall, hcall', hcert, hkey, h⟩
    exact ⟨_, ⟨hcall, hcert⟩, _, ⟨hcall', hkey⟩, h⟩

theorem Genuine.keyMatches (h : ca.Genuine lib) : ca.KeyMatches lib := by
  obtain ⟨x, keyPair, hx, hkey, hcarries⟩ := h
  exact ⟨x, keyPair, hx, hkey, hcarries.publicKey⟩

/-- What is loaded of the beginnings of a new CA's texts has the CA's certificate and key. -/
theorem genuine_of_beginnings (hlib : lib.Lawful) (hread : lib.ReadsBeginnings)
    (h : generate lib generated seed = .ok ca) (n m : ℕ)
    (hassemble : assemble lib (.ofList (ca.certPem.toList.take n))
      (.ofList (ca.keyPem.toList.take m)) = .ok ca') : ca'.Genuine lib := by
  obtain ⟨hcertPem, hkeyPem, ⟨der, hder⟩, kp', hkp'⟩ := assemble_eq_ok hassemble
  obtain ⟨x, kp, hx, hkp, hcarries⟩ := carries_of_generate hlib h
  obtain ⟨kp₀, cert, -, hcert, rfl⟩ := generate_eq_ok h
  refine ⟨x, kp, ?_, ?_, hcarries⟩
  · rw [hcertPem, hread.firstCertDer_take _ _ _ _ _ _ hcert hder]
    exact hx
  · rw [hlib.keyPair_pem kp₀] at hkp
    cases hkp
    rw [hkeyPem, hkp', hread.keyPairFromPem_take _ _ _ hkp']

/-! ## What a new CA leaves on disk -/

/-- Before the certificate file is opened, the old files are removed. -/
theorem prepare_eq_ok {found : Bool}
    (h : prepare lib generated seed certPath keyPath false fs = .ok (found, ca) s) :
    found = false ∧ OnlyRemoved fs.files s.files ∧
      ((∀ n < fs.calls + 4, fs.faults n = none) → s.files keyPath = none) := by
  obtain ⟨files, n, history, hremove, hremoved, -, hgone⟩ :=
    removeOldFiles_run certPath keyPath false fs
  have hskip : shouldSkip certPath keyPath false fs = .ok false fs := rfl
  unfold prepare at h
  rw [bind_of_ok hskip, if_neg (by simp), bind_of_ok hremove] at h
  obtain ⟨ca', s₁, hgenerate, h⟩ := bind_eq_ok_iff.mp h
  obtain ⟨-, rfl⟩ := (liftResult_eq_ok_iff _ _ _ _).mp hgenerate
  obtain ⟨⟨⟩, s₂, hdirs, h⟩ := bind_eq_ok_iff.mp h
  cases h
  -- making the directories leaves the files
  have hparent : ∀ path, Keeps Fs.files (createParent path) := fun path =>
    Keeps.ite syscall_keeps (Keeps.pure _)
  have hkeeps : Keeps Fs.files (mapError CaError.io do
      createParent certPath
      createParent keyPath
      syscall) :=
    Keeps.mapError ((hparent certPath).bind fun _ => (hparent keyPath).bind fun _ => syscall_keeps)
  have hfiles := hkeeps { fs with files := files, calls := n, history := history }
  rw [hdirs, finalState_ok] at hfiles
  rw [hfiles]
  exact ⟨rfl, hremoved, fun hfaults => (hgone (by simp) hfaults).2⟩

/-- From the open certificate file on, both texts are written. -/
theorem finish_eq_ok (hpaths : certPath ≠ keyPath)
    (h : ca.finish certPath keyPath s = .ok ca' fs') :
    ca' = ca ∧ fs'.files.text certPath = some ca.certPem ∧
      fs'.files.text keyPath = some ca.keyPem := by
  unfold finish at h
  obtain ⟨⟨⟩, s₁, h, hret⟩ := bind_eq_ok_iff.mp h
  cases hret
  rw [mapError_eq_ok_iff] at h
  obtain ⟨⟨⟩, s₂, hcert, h⟩ := bind_eq_ok_iff.mp h
  obtain ⟨⟨⟩, s₃, hkey, hmode⟩ := bind_eq_ok_iff.mp h
  unfold write at hkey
  obtain ⟨⟨⟩, s₄, hopen, hkey⟩ := bind_eq_ok_iff.mp hkey
  obtain ⟨-, rfl⟩ := (syscall_eq_ok_iff _ _).mp hopen
  have htext : ∀ path, fs'.files.text path = s₃.files.text path := by
    intro path
    have hkeeps := setPermissions_text keyPath 0o600 path s₃
    rwa [hmode] at hkeeps
  rw [htext, htext, Files.text, Files.text, writeOpened_eq_ok hkey, Function.update_self,
    Function.update_of_ne hpaths, writeOpened_eq_ok hcert, Function.update_self]
  exact ⟨rfl, rfl, rfl⟩

/-- However far `init` gets, what it leaves is the old files or some of them, or the beginnings of
new ones. -/
theorem init_files (hpaths : certPath ≠ keyPath) (hfaults : ∀ n < fs.calls + 4, fs.faults n = none)
    (h : (finalState (init lib generated seed certPath keyPath false fs)).files = files') :
    OnlyRemoved fs.files files' ∨
      ∃ ca, generate lib generated seed = .ok ca ∧ HoldsBeginning files' certPath ca.certPem ∧
        (files' keyPath = none ∨ HoldsBeginning files' keyPath ca.keyPem) := by
  rw [init_eq] at h
  cases hprepare : prepare lib generated seed certPath keyPath false fs with
  | error e s =>
    rw [bind_of_error hprepare, finalState_error] at h
    exact Or.inl (h ▸ (prepare_error hprepare).1)
  | ok found s =>
    obtain ⟨found, ca⟩ := found
    obtain ⟨rfl, -, hgone⟩ := prepare_eq_ok hprepare
    rw [bind_of_ok hprepare] at h
    refine Or.inr ⟨ca, generate_of_prepare hprepare, ?_⟩
    change (finalState (ca.finish certPath keyPath s)).files = files' at h
    cases hfinish : ca.finish certPath keyPath s with
    | error e fs' =>
      rw [hfinish, finalState_error] at h
      exact h ▸ finish_error hpaths (hgone hfaults) hfinish
    | ok ca' fs' =>
      rw [hfinish, finalState_ok] at h
      obtain ⟨-, hcert, hkey⟩ := finish_eq_ok hpaths hfinish
      have hwhole : ∀ text : String, some text = some (.ofList (text.toList.take text.length)) := by
        intro text
        rw [← String.length_toList, List.take_length, String.ofList_toList]
      rw [h, hwhole] at hcert hkey
      exact ⟨⟨_, hcert⟩, Or.inr ⟨_, hkey⟩⟩

/-! ## The CAs in the files -/

/-- The files hold one CA at most. -/
theorem Holds.unique (h : CertificateAuthority.Holds lib certPath keyPath files ca)
    (h' : CertificateAuthority.Holds lib certPath keyPath files ca') : ca' = ca := by
  have hassemble := h.assemble_eq
  rw [← Option.some.inj (h'.certPem_eq.symm.trans h.certPem_eq),
    ← Option.some.inj (h'.keyPem_eq.symm.trans h.keyPem_eq), h'.assemble_eq] at hassemble
  exact Except.ok.inj hassemble

/-- Files with a text have not been removed. -/
theorem Holds.of_removed (h : OnlyRemoved files files')
    (hholds : CertificateAuthority.Holds lib certPath keyPath files' ca) :
    CertificateAuthority.Holds lib certPath keyPath files ca := by
  have hsame : ∀ path text, files'.text path = some text → files.text path = some text := by
    intro path text htext
    rcases h path with heq | hnone
    · rwa [Files.text, heq] at htext
    · rw [Files.text, hnone] at htext
      cases htext
  exact ⟨hsame _ _ hholds.certPem_eq, hsame _ _ hholds.keyPem_eq, hholds.assemble_eq⟩

/-- A CA in the beginnings of a new one's files is that one. -/
theorem Holds.genuine_of_beginnings (hlib : lib.Lawful) (hread : lib.ReadsBeginnings)
    (h : generate lib generated seed = .ok ca) (hcert : HoldsBeginning files certPath ca.certPem)
    (hkey : files keyPath = none ∨ HoldsBeginning files keyPath ca.keyPem)
    (hholds : CertificateAuthority.Holds lib certPath keyPath files ca') : ca'.Genuine lib := by
  obtain ⟨n, hn⟩ := hcert
  rcases hkey with hnone | ⟨m, hm⟩
  · have hkeyPem := hholds.keyPem_eq
    rw [Files.text, hnone] at hkeyPem
    cases hkeyPem
  · have hassemble := hholds.assemble_eq
    rw [← Option.some.inj (hn.symm.trans hholds.certPem_eq),
      ← Option.some.inj (hm.symm.trans hholds.keyPem_eq)] at hassemble
    exact CertificateAuthority.genuine_of_beginnings hlib hread h n m hassemble

end CertificateAuthority

/-! ## One start -/

namespace Start

variable {cfg : HostConfig} {fs' : Fs}

/-- What a start gets its CA from. -/
theorem result_eq_ok (h : start.result lib files = .ok (cfg, ca) fs') :
    start.config = .ok cfg ∧
      ((start.genkey ∧ init lib start.generated start.seed cfg.caCertPath cfg.caKeyPath false
          (.start files start.umask start.faults) = .ok ca fs') ∨
        start.genkey = false ∧ load lib cfg.caCertPath cfg.caKeyPath
          (.start files start.umask start.faults) = .ok ca fs') := by
  unfold result main at h
  obtain ⟨cfg', s, hcfg, h⟩ := bind_eq_ok_iff.mp h
  rw [liftResult_eq_ok_iff] at hcfg
  obtain ⟨hcfg, rfl⟩ := hcfg
  obtain ⟨ca', s', hca, h⟩ := bind_eq_ok_iff.mp h
  cases h
  rw [mapError_eq_ok_iff] at hca
  refine ⟨hcfg, ?_⟩
  split at hca
  · rename_i hgenkey
    exact Or.inl ⟨hgenkey, hca⟩
  · rename_i hgenkey
    exact Or.inr ⟨Bool.eq_false_iff.mpr hgenkey, hca⟩

/-- The files of a start without a configuration, under `--genkey`, and without it. -/
theorem step_cases (h : start.step lib files = some files') :
    files' = files ∨ ∃ cfg, start.config = .ok cfg ∧ start.genkey ∧
      (finalState (init lib start.generated start.seed cfg.caCertPath cfg.caKeyPath false
        (.start files start.umask start.faults))).files = files' := by
  simp only [step, Option.some.injEq] at h
  subst h
  unfold result main
  cases hcfg : start.config with
  | error e => exact Or.inl rfl
  | ok cfg =>
    rw [liftResult_ok_bind, finalState_bind_map, finalState_mapError]
    split
    · rename_i hgenkey
      exact Or.inr ⟨cfg, rfl, hgenkey, rfl⟩
    · exact Or.inl (load_keeps _)

/-- The CA that a start leaves was there before, or it is a new one. -/
theorem holds_step (hlib : lib.Lawful) (hread : lib.ReadsBeginnings) (hpaths : certPath ≠ keyPath)
    (hnames : start.Names certPath keyPath) (hremoves : start.Removes)
    (h : start.step lib files = some files')
    (hholds : CertificateAuthority.Holds lib certPath keyPath files' ca) :
    CertificateAuthority.Holds lib certPath keyPath files ca ∨ ca.Genuine lib := by
  rcases step_cases h with rfl | ⟨cfg, hcfg, hgenkey, hfiles⟩
  · exact Or.inl hholds
  obtain ⟨rfl, rfl⟩ := hnames cfg hcfg
  have hfaults : ∀ n < 0 + 4, start.faults n = none := hremoves hgenkey
  rcases init_files hpaths hfaults hfiles with hremoved | ⟨ca', hgenerate, hcert, hkey⟩
  · exact Or.inl (hholds.of_removed hremoved)
  · exact Or.inr (hholds.genuine_of_beginnings hlib hread hgenerate hcert hkey)

end Start

/-! ## Any number of starts -/

/-- On a disk whose CA has a certificate for its key, if it has one, the same goes for every CA
that any number of starts come to listen with, and the certificates that it signs verify, provided
that the starts under `--genkey` can remove the old files, whatever else fails in them. -/
theorem starts_sound (hlib : lib.Lawful) (hread : lib.ReadsBeginnings) (hpaths : certPath ≠ keyPath)
    (hsound : Sound lib certPath keyPath files) {starts : List (Start KeyPair)}
    (hnames : ∀ start ∈ starts, start.Names certPath keyPath)
    (hremoves : ∀ start ∈ starts, start.Removes)
    (h : Visits (Start.step lib) files starts files') (hstart : start.Names certPath keyPath)
    (hca : start.Obtains lib files' ca) :
    ca.KeyMatches lib ∧ ∀ env req leaf, signCsr lib env ca req = .ok leaf →
      ∃ x, Evaluator.checkSignature lib leaf ca.certPem = .ok x := by
  have hfiles : Sound lib certPath keyPath files' := by
    refine visits_induction hsound (fun files₁ start files₂ htakes hsound ca hholds => ?_) files' h
    rcases start.holds_step hlib hread hpaths (hnames start htakes.mem) (hremoves start htakes.mem)
      htakes.step_eq hholds with hbefore | hnew
    · exact hsound ca hbefore
    · exact hnew.keyMatches
  have hmatches : ca.KeyMatches lib := by
    obtain ⟨cfg, fs', hresult⟩ := hca
    obtain ⟨hcfg, ⟨-, hinit⟩ | ⟨-, hload⟩⟩ := Start.result_eq_ok hresult
    · exact (keyMatches_of_init_iff hlib hinit).mpr (by simp)
    · obtain ⟨rfl, rfl⟩ := hstart cfg hcfg
      exact hfiles ca (exists_load_iff.mp ⟨fs', hload⟩).2.2
  exact ⟨hmatches, fun env req leaf hleaf => (checkSignature_leaf_iff hlib hleaf).mpr hmatches⟩

end

namespace Symbolic

/-- A PEM text of the library that stops early is not read as another one. -/
theorem lib_readsBeginnings : lib.ReadsBeginnings where
  firstCertDer_pem := by
    rintro params kp seed _ ⟨⟩
    simp [lib, issue, Except.toOption]
  firstCertDer_take := by
    rintro params kp seed _ n der ⟨⟩ hder
    have hread := (toOption_eq_some_iff _ _).mp hder
    rw [X509Lib.parseX509, X509Lib.parseX509]
    simp only [lib, issue] at hread ⊢
    rw [hread, (ofPem_take hread).2, ofPem_toPem]
  keyPairFromPem_take := by
    intro kp n kp' h
    simp only [lib] at h
    split at h
    · rename_i bytes hread
      rw [(ofPem_take hread).2, ByteCodec.parse_encode] at h
      exact (Except.ok.inj h).symm
    · cases h

/-- A start with the configuration of `vm-a`. -/
def start (genkey : Bool) (key : ℕ) (faults : ℕ → Option Fault) : Start ℕ :=
  ⟨.ok (hostConfig 60), genkey, .ok key, [], 0o022, faults⟩

/-- The system calls with these numbers fail. -/
def failing (calls : List ℕ) (n : ℕ) : Option Fault :=
  if n ∈ calls then some ⟨"Input/output error (os error 5)", 0⟩ else none

theorem start_names (genkey : Bool) (key : ℕ) (faults : ℕ → Option Fault) :
    (start genkey key faults).Names "/etc/authn-scope/ca/ca-cert.pem"
      "/etc/authn-scope/ca/ca-key.pem" := by
  rintro _ ⟨⟩
  exact ⟨rfl, rfl⟩

end Symbolic

/-- A new CA whose key could not be written, and then another one. -/
theorem starts_sound_regenerated :
    ∃ files, run (Start.step Symbolic.lib) (fun _ => none)
        [Symbolic.start true 1 (Symbolic.failing [5])] = some files ∧
      (Symbolic.start true 2 (Symbolic.failing [])).Obtains Symbolic.lib files
        (Symbolic.authority 2 2) ∧ (Symbolic.authority 2 2).KeyMatches Symbolic.lib := by
  have hremoves : (Symbolic.start true 1 (Symbolic.failing [5])).Removes := by
    intro _ n hn
    exact if_neg (by simpa using Nat.ne_of_lt (Nat.lt_succ_of_lt hn))
  have hnames : ∀ start ∈ [Symbolic.start true 1 (Symbolic.failing [5])],
      start.Names "/etc/authn-scope/ca/ca-cert.pem" "/etc/authn-scope/ca/ca-key.pem" := by
    simp [Symbolic.start_names]
  have hsound : Sound Symbolic.lib "/etc/authn-scope/ca/ca-cert.pem"
      "/etc/authn-scope/ca/ca-key.pem" fun _ => none := by
    rintro ca ⟨⟨⟩, -, -⟩
  exact ⟨_, rfl, ⟨_, _, rfl⟩, (starts_sound Symbolic.lib_lawful Symbolic.lib_readsBeginnings
    (by decide) hsound hnames (by simpa using hremoves) (visits_end rfl)
    (Symbolic.start_names true 2 (Symbolic.failing [])) ⟨_, _, rfl⟩).1⟩

end AuthnScope
