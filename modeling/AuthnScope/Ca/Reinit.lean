import AuthnScope.Ca.Symbolic

/-!
# When the initialisation of a CA fails

`CertificateAuthority::init` removes the old files before it generates a new CA, and writes the new
ones in place. What a failed call leaves on disk depends on how far it got: up to the call that
opens the certificate file nothing but the removal has happened, and from there on the files of the
new CA come one after the other.

## Main definitions

* `prepare`, `finish`: `init` up to that call, and after it;
* `removed`: the files that a removal leaves, read off the failing calls;
* `SameLoad`: a following `load` gives the same.

## Main results

* `init_eq`: `init` is its two parts;
* `sameLoad_iff`: the removed files that a following `load` misses;
* `init_error_load`: what a failed `init` means for a following `load`.
-/

namespace AuthnScope

open FileSystem Outcome

namespace CertificateAuthority

section

variable {KeyPair PublicKey : Type} (lib : X509Lib KeyPair PublicKey)

/-- `init` up to the call that opens the certificate file: the CA, and whether it is the old one. -/
def prepare (generated : Except String KeyPair) (seed : List UInt8) (certPath keyPath : String)
    (idempotent : Bool) : CaM (Bool × CertificateAuthority) := do
  let skip ← shouldSkip certPath keyPath idempotent
  if skip then
    let ca ← load lib certPath keyPath
    return (true, ca)
  else
    removeOldFiles certPath keyPath idempotent
    let ca ← liftResult (generate lib generated seed)
    mapError .io do
      createParent certPath
      createParent keyPath
      syscall
    return (false, ca)

/-- `init` from the open certificate file on. -/
def finish (ca : CertificateAuthority) (certPath keyPath : String) : CaM CertificateAuthority := do
  mapError .io do
    writeOpened certPath ca.certPem
    write keyPath ca.keyPem
    setPermissions keyPath 0o600
  return ca

/-- The files after a removal whose test is the `n`-th call: the test and the call after it have to
succeed. -/
def removed (faults : ℕ → Option Fault) (n : ℕ) (path : String) (files : Files) : Files :=
  if faults n = none ∧ faults (n + 1) = none then Function.update files path none else files

/-- What `load` returns. -/
def loadResult (certPath keyPath : String) (fs : Fs) : Except CaError CertificateAuthority :=
  match load lib certPath keyPath fs with
  | .ok ca _ => .ok ca
  | .error e _ => .error e

/-- `load` returns the same on both disks, whatever its calls meet with. -/
def SameLoad (certPath keyPath : String) (files files' : Files) : Prop :=
  ∀ fs : Fs, loadResult lib certPath keyPath { fs with files := files } =
    loadResult lib certPath keyPath { fs with files := files' }

variable {lib} {generated : Except String KeyPair} {seed : List UInt8} {certPath keyPath : String}
  {idempotent : Bool}

/-! ## The two parts of `init` -/

theorem init_eq : init lib generated seed certPath keyPath idempotent =
    prepare lib generated seed certPath keyPath idempotent >>= fun (found, ca) =>
      if found then return ca else ca.finish certPath keyPath := by
  simp only [init, prepare, writeFiles, finish, write, mapError_bind, bind_assoc]
  congr 1
  ext skip : 1
  cases skip <;> simp

/-! ## What a following `load` returns -/

/-- The CA that `load` makes of two texts. -/
def assemble (lib : X509Lib KeyPair PublicKey) (certPem keyPem : String) :
    Except CaError CertificateAuthority := do
  let keyPair ← (lib.keyPairFromPem keyPem).mapError .keyParseFailed
  let certDer ← certDerOfPem lib certPem
  return {
    keyPem := keyPem
    certPem := certPem
    certDer := certDer
    keyDer := lib.serializeDer keyPair }

/-- `load` reads the certificate, then the key, and puts the CA together. -/
theorem loadResult_eq (fs : Fs) :
    loadResult lib certPath keyPath fs =
      ((readResult (fs.faults fs.calls) (fs.files certPath)).mapError (.certNotFound certPath) >>=
        fun certPem => (readResult (fs.faults (fs.calls + 1)) (fs.files keyPath)).mapError
          (.keyNotFound keyPath) >>= fun keyPem => assemble lib certPem keyPem) := by
  have hread : ∀ (f : String → CaError) (path : String) (s : Fs), mapError f (readToString path) s =
      liftResult ((readResult (s.faults s.calls) (s.files path)).mapError f)
        { s with calls := s.calls + 1 } := by
    intro f path s
    rw [mapError, readToString_run]
    cases readResult (s.faults s.calls) (s.files path) <;> rfl
  unfold loadResult load
  cases hcert : readResult (fs.faults fs.calls) (fs.files certPath) with
  | error e =>
    have hrun := hread (.certNotFound certPath) certPath fs
    rw [hcert] at hrun
    rw [bind_of_error hrun]
    rfl
  | ok certPem =>
    have hrun := hread (.certNotFound certPath) certPath fs
    rw [hcert] at hrun
    rw [bind_of_ok hrun]
    have hrun' := hread (.keyNotFound keyPath) keyPath { fs with calls := fs.calls + 1 }
    cases hkey : readResult (fs.faults (fs.calls + 1)) (fs.files keyPath) with
    | error e =>
      rw [hkey] at hrun'
      rw [bind_of_error hrun']
      rfl
    | ok keyPem =>
      rw [hkey] at hrun'
      rw [bind_of_ok hrun']
      simp only [Except.mapError, except_ok_bind, assemble]
      cases lib.keyPairFromPem keyPem <;> cases certDerOfPem lib certPem <;> rfl

/-- The errors of `assemble` are not about a file. -/
theorem assemble_ne_error (certPem keyPem path m : String) :
    assemble lib certPem keyPem ≠ .error (.certNotFound path m) ∧
      assemble lib certPem keyPem ≠ .error (.keyNotFound path m) := by
  unfold assemble certDerOfPem
  cases lib.keyPairFromPem keyPem with
  | error e => simp [Except.mapError, bind, Except.bind]
  | ok keyPair =>
    cases lib.firstCertDer certPem <;>
      simp [Except.mapError, bind, Except.bind, pure, Except.pure]

/-- Reading a file and going on gives what it gives without the file only if there is none. -/
theorem eq_none_of_fileText {f : String → CaError} (hf : Function.Injective f)
    {next : String → Except CaError CertificateAuthority} {file : Option File}
    (hnext : ∀ text m, next text ≠ .error (f m))
    (h : ((fileText file).mapError f >>= next) = ((fileText none).mapError f >>= next)) :
    file = none := by
  rcases file with _ | ⟨_ | text, mode⟩
  · rfl
  · have hmessage := hf (Except.error.inj h)
    exact absurd hmessage (by decide)
  · exact absurd h (hnext text _)

/-- Of the files that are gone, a following `load` misses the certificate, and the key when it can
read the certificate before it. -/
theorem sameLoad_iff {files files' : Files} (h : OnlyRemoved files files') :
    SameLoad lib certPath keyPath files files' ↔
      files' certPath = files certPath ∧
        (files' keyPath = files keyPath ∨ files.text certPath = none) := by
  simp only [SameLoad, loadResult_eq]
  constructor
  · intro hsame
    -- a disk whose calls do not fail
    replace hsame := hsame ⟨files, 0, fun _ => none, 0, []⟩
    simp only [readResult] at hsame
    have hcert : files' certPath = files certPath := by
      rcases h certPath with heq | hnone
      · exact heq
      rw [hnone] at hsame ⊢
      refine (eq_none_of_fileText (fun m m' hm => (CaError.certNotFound.inj hm).2)
        (fun certPem m herr => ?_) hsame).symm
      -- with the certificate read, no error is about its file
      cases hkey : fileText (files keyPath) with
      | error e =>
        rw [hkey] at herr
        cases herr
      | ok keyPem =>
        rw [hkey] at herr
        exact (assemble_ne_error certPem keyPem certPath m).1 herr
    refine ⟨hcert, ?_⟩
    rcases h keyPath with heq | hnone
    · exact Or.inl heq
    cases htext : files.text certPath with
    | none => exact Or.inr rfl
    | some certPem =>
      left
      rw [hcert, hnone, (fileText_eq_ok_iff _ _).mpr htext] at hsame
      rw [hnone]
      exact (eq_none_of_fileText (fun m m' hm => (CaError.keyNotFound.inj hm).2)
        (fun keyPem m => (assemble_ne_error certPem keyPem keyPath m).2) hsame).symm
  · rintro ⟨hcert, hkey⟩ fs
    rw [hcert]
    cases hread : readResult (fs.faults fs.calls) (files certPath) with
    | error e => rfl
    | ok certPem =>
      rw [hkey.resolve_right fun hnone => ?_]
      rw [Files.text, ((readResult_eq_ok_iff _ _ _).mp hread).2] at hnone
      cases hnone

/-! ## What a failed `init` leaves behind -/

theorem testCalls_le (faults : ℕ → Option Fault) (n : ℕ) (file : Option File) :
    testCalls faults n file ≤ 2 := by
  unfold testCalls
  split <;> omega

theorem onlyRemoved_removed (faults : ℕ → Option Fault) (n : ℕ) (path : String) (files : Files) :
    OnlyRemoved files (removed faults n path files) := by
  intro other
  unfold removed
  split
  · by_cases hother : other = path
    · exact Or.inr (by rw [hother, Function.update_self])
    · exact Or.inl (Function.update_of_ne hother none files)
  · exact Or.inl rfl

theorem removed_self {faults : ℕ → Option Fault} {n : ℕ} (h : faults n = none)
    (h' : faults (n + 1) = none) (path : String) (files : Files) :
    removed faults n path files path = none := by
  rw [removed, if_pos ⟨h, h'⟩, Function.update_self]

/-- Removing an old file always goes on. -/
theorem removeOld_run (path : String) (s : Fs) :
    ∃ history, removeOld path s = .ok ()
      { s with
        files := removed s.faults s.calls path s.files
        calls := s.calls + testCalls s.faults s.calls (s.files path)
        history := history } := by
  unfold removeOld
  rw [bind_of_ok ((mapError_eq_ok_iff _ _ _ _ _).mpr (pathExists_run path s))]
  by_cases hthere : (s.faults s.calls).isNone && (s.files path).isSome
  · obtain ⟨history, hrun⟩ := removeFile_run path { s with calls := s.calls + 1 }
    refine ⟨history, ?_⟩
    simp only [Bool.and_eq_true, Option.isNone_iff_eq_none] at hthere
    rw [if_pos (by simpa using hthere), ignoreResult_run, hrun]
    simp only [removed, testCalls, hthere, true_and, and_self, if_true]
  · refine ⟨s.history, ?_⟩
    simp only [Bool.and_eq_true, Option.isNone_iff_eq_none] at hthere
    -- the test has failed, or there is nothing to remove
    have hsame : removed s.faults s.calls path s.files = s.files := by
      unfold removed
      split
      · rename_i hfaults
        have hnone : s.files path = none := by
          simpa [hfaults.1] using hthere
        rw [← hnone, Function.update_eq_self]
      · rfl
    rw [if_neg (by simpa using hthere), hsame, testCalls, if_neg hthere]
    rfl

/-- A call that is not idempotent removes the certificate, and then the key. -/
theorem removeBoth_run {certPath : String} {s : Fs} {n : ℕ}
    (hn : n = s.calls + testCalls s.faults s.calls (s.files certPath)) (keyPath : String) :
    ∃ history, removeOldFiles certPath keyPath false s = .ok ()
      { s with
        files := removed s.faults n keyPath (removed s.faults s.calls certPath s.files)
        calls := n + testCalls s.faults n (removed s.faults s.calls certPath s.files keyPath)
        history := history } := by
  obtain ⟨history, hrun⟩ := removeOld_run certPath s
  obtain ⟨history', hrun'⟩ := removeOld_run keyPath
    { s with
      files := removed s.faults s.calls certPath s.files
      calls := s.calls + testCalls s.faults s.calls (s.files certPath)
      history := history }
  subst hn
  refine ⟨history', ?_⟩
  unfold removeOldFiles
  rw [if_neg (by simp), bind_of_ok hrun, hrun']

/-- Removing the old files always goes on. An idempotent call removes nothing, and another one both
files, unless a system call fails. -/
theorem removeOldFiles_run (certPath keyPath : String) (idempotent : Bool) (s : Fs) :
    ∃ files n history, removeOldFiles certPath keyPath idempotent s =
        .ok () { s with files := files, calls := n, history := history } ∧
      OnlyRemoved s.files files ∧ (idempotent → files = s.files) ∧
      (¬idempotent → (∀ n < s.calls + 4, s.faults n = none) →
        files certPath = none ∧ files keyPath = none) := by
  cases idempotent with
  | true => exact ⟨s.files, s.calls, s.history, rfl, .refl _, fun _ => rfl, by simp⟩
  | false =>
    obtain ⟨n, hn⟩ : ∃ n, n = s.calls + testCalls s.faults s.calls (s.files certPath) := ⟨_, rfl⟩
    obtain ⟨history, hrun⟩ := removeBoth_run hn keyPath
    have hcalls := testCalls_le s.faults s.calls (s.files certPath)
    have hremoved :=
      onlyRemoved_removed s.faults n keyPath (removed s.faults s.calls certPath s.files)
    refine ⟨_, _, history, hrun, (onlyRemoved_removed _ _ _ _).trans hremoved, by simp,
      fun _ hfaults => ⟨?_, removed_self (hfaults _ (by omega)) (hfaults _ (by omega)) _ _⟩⟩
    -- the certificate stays removed
    rcases hremoved certPath with heq | hnone
    · rw [heq, removed_self (hfaults _ (by omega)) (hfaults _ (by omega))]
    · exact hnone

/-- Loading leaves the files alone. -/
theorem load_keeps : Keeps Fs.files (load lib certPath keyPath) := by
  unfold load
  refine (readToString_keeps certPath).mapError.bind fun _ => ?_
  refine (readToString_keeps keyPath).mapError.bind fun _ => ?_
  exact (Keeps.liftResult _).bind fun _ => (Keeps.liftResult _).bind fun _ => Keeps.pure _

/-- What a failure before the certificate file is open leaves behind. -/
theorem prepare_error {fs fs' : Fs} {e : CaError}
    (h : prepare lib generated seed certPath keyPath idempotent fs = .error e fs') :
    OnlyRemoved fs.files fs'.files ∧ (idempotent → fs'.files = fs.files) ∧
      (¬idempotent → (∀ n < fs.calls + 4, fs.faults n = none) →
        fs'.files certPath = none ∧ fs'.files keyPath = none) := by
  -- after the removal, nothing touches the files
  have hrest : Keeps Fs.files (liftResult (generate lib generated seed) >>= fun ca =>
      mapError .io (do createParent certPath; createParent keyPath; syscall) >>= fun _ =>
        (return (false, ca) : CaM (Bool × CertificateAuthority))) := by
    have hparent : ∀ path, Keeps Fs.files (createParent path) := fun path =>
      Keeps.ite syscall_keeps (Keeps.pure _)
    refine (Keeps.liftResult _).bind fun ca => Keeps.bind (Keeps.mapError ?_) fun _ => Keeps.pure _
    exact (hparent certPath).bind fun _ => (hparent keyPath).bind fun _ => syscall_keeps
  obtain ⟨skip, hrun, hskip⟩ := shouldSkip_run certPath keyPath idempotent fs
  obtain ⟨n, hn⟩ : ∃ n, n = fs.calls +
    if idempotent then testCalls fs.faults fs.calls (fs.files certPath) else 0 := ⟨_, rfl⟩
  rw [← hn] at hrun
  unfold prepare at h
  rw [bind_of_ok hrun] at h
  split at h
  · rename_i hfound
    rcases bind_eq_error_iff.mp h with hload | ⟨ca, s₁, -, h⟩
    · have hfiles : (finalState (load lib certPath keyPath { fs with calls := n })).files =
          fs.files := load_keeps _
      rw [hload, finalState_error] at hfiles
      refine ⟨by rw [hfiles]; exact .refl _, fun _ => hfiles, fun hidem => ?_⟩
      exact absurd (hskip.mp hfound).1 hidem
    · cases h
  · obtain ⟨files, n', history, hremove, hremoved, hkept, hgone⟩ :=
      removeOldFiles_run certPath keyPath idempotent { fs with calls := n }
    rw [bind_of_ok hremove] at h
    have hfiles := hrest { fs with files := files, calls := n', history := history }
    rw [h, finalState_error] at hfiles
    rw [hfiles]
    refine ⟨hremoved, hkept, fun hidem hfaults => hgone hidem ?_⟩
    -- a call that is not idempotent has not looked for the files before
    have hcalls : n = fs.calls := by
      rw [hn, if_neg hidem, Nat.add_zero]
    rwa [hcalls]

/-- What a failure after that leaves behind, when there is no old key. -/
theorem finish_error {ca : CertificateAuthority} {s fs' : Fs} {e : CaError}
    (hpaths : certPath ≠ keyPath) (hkey : s.files keyPath = none)
    (h : ca.finish certPath keyPath s = .error e fs') :
    HoldsBeginning fs'.files certPath ca.certPem ∧
      (fs'.files keyPath = none ∨ HoldsBeginning fs'.files keyPath ca.keyPem) := by
  unfold finish at h
  rcases bind_eq_error_iff.mp h with h | ⟨⟨⟩, s₁, -, h⟩
  · obtain ⟨e', h, -⟩ := (mapError_eq_error_iff _ _ _ _ _).mp h
    obtain ⟨hcert, hother⟩ := writeOpened_files certPath ca.certPem s
    -- the certificate has been opened; then comes the key, and then its mode
    rcases bind_eq_error_iff.mp h with hopened | ⟨⟨⟩, s₁, hopened, h⟩
    · rw [hopened, finalState_error] at hcert hother
      exact ⟨hcert, Or.inl ((hother keyPath hpaths.symm).trans hkey)⟩
    rw [hopened, finalState_ok] at hcert hother
    obtain ⟨hwritten, hother'⟩ := write_files keyPath ca.keyPem s₁
    have hwrite : HoldsBeginning (finalState (write keyPath ca.keyPem s₁)).files certPath
          ca.certPem ∧
        ((finalState (write keyPath ca.keyPem s₁)).files keyPath = none ∨
          HoldsBeginning (finalState (write keyPath ca.keyPem s₁)).files keyPath ca.keyPem) := by
      refine ⟨?_, hwritten.imp_left fun hsame => ?_⟩
      · obtain ⟨n, hn⟩ := hcert
        exact ⟨n, by rw [Files.text, hother' certPath hpaths]; exact hn⟩
      · rw [hsame, hother keyPath hpaths.symm, hkey]
    rcases bind_eq_error_iff.mp h with hfailed | ⟨⟨⟩, s₂, hdone, h⟩
    · rwa [hfailed, finalState_error] at hwrite
    · rw [hdone, finalState_ok] at hwrite
      rwa [setPermissions_error h]
  · cases h

/-- The CA that is to be written is the one that was generated. -/
theorem generate_of_prepare {fs s : Fs} {ca : CertificateAuthority}
    (h : prepare lib generated seed certPath keyPath idempotent fs = .ok (false, ca) s) :
    generate lib generated seed = .ok ca := by
  unfold prepare at h
  obtain ⟨skip, s₁, -, h⟩ := bind_eq_ok_iff.mp h
  split at h
  · obtain ⟨ca', s₂, -, h⟩ := bind_eq_ok_iff.mp h
    cases h
  · obtain ⟨⟨⟩, s₂, -, h⟩ := bind_eq_ok_iff.mp h
    obtain ⟨ca', s₃, hgenerate, h⟩ := bind_eq_ok_iff.mp h
    obtain ⟨⟨⟩, s₄, -, h⟩ := bind_eq_ok_iff.mp h
    cases h
    exact ((liftResult_eq_ok_iff _ _ _ _).mp hgenerate).1

/-- A failed `init` that has not opened the certificate file leaves a following `load` with the same
result exactly when it has not removed the certificate, and no key that is read after it; it removes
nothing when it is idempotent, and else both files unless a system call fails. Where it fails later
on a disk without an old key, a CA that a following `load` returns has nothing of an old pair. -/
theorem init_error_load {fs fs' : Fs} {e : CaError}
    (h : init lib generated seed certPath keyPath idempotent fs = .error e fs') :
    (prepare lib generated seed certPath keyPath idempotent fs = .error e fs' ∧
      (SameLoad lib certPath keyPath fs.files fs'.files ↔
        fs'.files certPath = fs.files certPath ∧
          (fs'.files keyPath = fs.files keyPath ∨ fs.files.text certPath = none)) ∧
      (idempotent → fs'.files = fs.files) ∧
      (¬idempotent → (∀ n < fs.calls + 4, fs.faults n = none) →
        fs'.files certPath = none ∧ fs'.files keyPath = none)) ∨
    ∃ ca s, prepare lib generated seed certPath keyPath idempotent fs = .ok (false, ca) s ∧
      generate lib generated seed = .ok ca ∧
      (certPath ≠ keyPath → s.files keyPath = none → ∀ s₁ ca₁ s₂, s₁.files = fs'.files →
        load lib certPath keyPath s₁ = .ok ca₁ s₂ →
          ca₁.certPem.toList <+: ca.certPem.toList ∧ ca₁.keyPem.toList <+: ca.keyPem.toList) := by
  rw [init_eq] at h
  rcases bind_eq_error_iff.mp h with hprepare | ⟨⟨found, ca⟩, s, hprepare, h⟩
  · obtain ⟨hremoved, hkept, hgone⟩ := prepare_error hprepare
    exact Or.inl ⟨hprepare, sameLoad_iff hremoved, hkept, hgone⟩
  cases found with
  | true => cases h
  | false =>
    refine Or.inr ⟨ca, s, hprepare, generate_of_prepare hprepare, ?_⟩
    intro hpaths hkey s₁ ca₁ s₂ hfiles hload
    obtain ⟨hcert, hkey'⟩ := finish_error hpaths hkey h
    obtain ⟨hcertPem, hkeyPem⟩ := load_eq_ok hload
    rw [hfiles] at hcertPem hkeyPem
    -- what is loaded is what is there
    obtain ⟨n, hn⟩ := hcert
    rw [hn, Option.some.injEq] at hcertPem
    rcases hkey' with hnone | ⟨m, hm⟩
    · rw [Files.text, hnone] at hkeyPem
      cases hkeyPem
    · rw [hm, Option.some.injEq] at hkeyPem
      rw [← hcertPem, ← hkeyPem, String.toList_ofList, String.toList_ofList]
      exact ⟨List.take_prefix n _, List.take_prefix m _⟩

end

/-- On a disk with a CA: an idempotent `init` that cannot read the certificate, and one that
replaces the CA and cannot restrict the new key, after which the new CA is loaded. -/
theorem init_error_load_replacing :
    (∃ e fs', init Symbolic.lib (.ok 2) [] "ca-cert.pem" "ca-key.pem" true
        (Symbolic.faultyDisk 2) = .error e fs' ∧
      SameLoad Symbolic.lib "ca-cert.pem" "ca-key.pem" (Symbolic.faultyDisk 2).files fs'.files) ∧
    ∃ e fs' ca₁ s₂, init Symbolic.lib (.ok 2) [] "ca-cert.pem" "ca-key.pem" false
        (Symbolic.faultyDisk 10) = .error e fs' ∧
      load Symbolic.lib "ca-cert.pem" "ca-key.pem" (.start fs'.files 0o022 fun _ => none) =
        .ok ca₁ s₂ ∧
      ca₁.certPem.toList <+: (Symbolic.authority 2 2).certPem.toList ∧
      ca₁.keyPem.toList <+: (Symbolic.authority 2 2).keyPem.toList := by
  constructor
  · obtain ⟨e, fs', hinit, hprepare⟩ : ∃ e fs', init Symbolic.lib (.ok 2) [] "ca-cert.pem"
        "ca-key.pem" true (Symbolic.faultyDisk 2) = .error e fs' ∧
        prepare Symbolic.lib (.ok 2) [] "ca-cert.pem" "ca-key.pem" true (Symbolic.faultyDisk 2) =
          .error e fs' := ⟨_, _, rfl, rfl⟩
    refine ⟨e, fs', hinit, ?_⟩
    rcases init_error_load hinit with ⟨-, hsame, hkept, -⟩ | ⟨ca, s, hok, -⟩
    · have hfiles := hkept rfl
      exact hsame.mpr ⟨congrFun hfiles _, Or.inl (congrFun hfiles _)⟩
    · rw [hprepare] at hok
      cases hok
  · obtain ⟨e, fs', s, hinit, hprepare, hkey, hcertPem, hkeyPem⟩ : ∃ e fs' s,
        init Symbolic.lib (.ok 2) [] "ca-cert.pem" "ca-key.pem" false (Symbolic.faultyDisk 10) =
          .error e fs' ∧
        prepare Symbolic.lib (.ok 2) [] "ca-cert.pem" "ca-key.pem" false (Symbolic.faultyDisk 10) =
          .ok (false, Symbolic.authority 2 2) s ∧
        s.files "ca-key.pem" = none ∧
        fs'.files.text "ca-cert.pem" = some (Symbolic.authority 2 2).certPem ∧
        fs'.files.text "ca-key.pem" = some (Symbolic.authority 2 2).keyPem :=
      ⟨_, _, _, rfl, rfl, rfl, rfl, rfl⟩
    have hload : load Symbolic.lib "ca-cert.pem" "ca-key.pem"
        (.start fs'.files 0o022 fun _ => none) = .ok _ _ :=
      load_of_files (fun _ => rfl) hcertPem hkeyPem (Symbolic.keyPairFromPem_serializePem 2)
        (Symbolic.firstCertDer_authority 2 2)
    refine ⟨e, fs', _, _, hinit, hload, ?_⟩
    rcases init_error_load hinit with ⟨hfailed, -⟩ | ⟨ca, s', hok, -, hloads⟩
    · rw [hprepare] at hfailed
      cases hfailed
    · rw [hprepare] at hok
      cases hok
      exact hloads (by decide) hkey (.start fs'.files 0o022 fun _ => none) _ _ rfl hload

/-- When no key can be generated, `init` has already removed a CA that could be loaded. -/
theorem init_error_destroys_disk :
    ¬∀ (generated : Except String ℕ) (seed : List UInt8) (certPath keyPath : String)
      (idempotent : Bool) (fs fs' : Fs) (e : CaError),
      init Symbolic.lib generated seed certPath keyPath idempotent fs = .error e fs' →
        SameLoad Symbolic.lib certPath keyPath fs.files fs'.files := by
  intro h
  obtain ⟨e, fs', hinit, hgone⟩ : ∃ e fs', init Symbolic.lib (.error "key generation failed") []
      "ca-cert.pem" "ca-key.pem" false (Symbolic.disk 1 1) = .error e fs' ∧
        fs'.files "ca-cert.pem" = none := ⟨_, _, rfl, rfl⟩
  have hsame := h _ _ _ _ _ _ _ _ hinit (Symbolic.disk 1 1)
  -- before the call the CA was there
  obtain ⟨fs₁, hload⟩ := Symbolic.load_disk 1 1
  have hbefore : loadResult Symbolic.lib "ca-cert.pem" "ca-key.pem" (Symbolic.disk 1 1) =
      .ok (Symbolic.authority 1 1) := by
    rw [loadResult, hload]
  have hafter := hsame.symm.trans hbefore
  unfold loadResult at hafter
  split at hafter
  · rename_i ca fs₂ hload'
    have hcert := (load_eq_ok hload').1
    rw [Files.text, hgone] at hcert
    cases hcert
  · cases hafter

end CertificateAuthority

end AuthnScope
