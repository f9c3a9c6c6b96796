import AuthnScope.Ca.Reinit

/-!
# The mode of the key file

`CertificateAuthority::init` writes the key of a new CA into its file and restricts the file
afterwards. Until then the file has the mode it was opened with, which is the mode of a file that
was left there or else the default under the umask. All states of a run are looked at, those of a
run that fails as well.

## Main definitions

* `Exposed`: the key can be read from the file by the group or by others;
* `InitCall`: a call of `init`, with the files it finds, the umask and the system calls that fail;
* `InitCall.WritesKey`: the call comes as far as a text in the file from which the key can be read;
* `InitCall.keyMode`: the mode with which the file is opened.

## Main results

* `finish_cases`: how far `init` gets from the open certificate file on;
* `exists_prepare`: how it gets there;
* `init_never_exposes_key_iff`: the key is never exposed exactly when it is not written or its file
  is opened with a private mode;
* `init_exposes_key`: with the usual umask it is exposed for a moment.
-/

namespace AuthnScope

open FileSystem Outcome

namespace CertificateAuthority

/-- The key can be read from the file at the path, also in a text that is not the whole one, and the
mode of the file grants something to its group or to others. -/
def Exposed {KeyPair PublicKey : Type} (lib : X509Lib KeyPair PublicKey) (path : String)
    (keyPair : KeyPair) (files : Files) : Prop :=
  ∃ file text, files path = some file ∧ file.text = some text ∧
    lib.keyPairFromPem text = .ok keyPair ∧ file.mode &&& 0o077 ≠ 0

/-- A call of `init`: its arguments, the files it finds, the umask of the process, and the system
calls that fail. -/
structure InitCall where
  certPath : String
  keyPath : String
  idempotent : Bool
  files : Files
  umask : BitVec 12
  faults : ℕ → Option Fault

namespace InitCall

variable (c : InitCall)

/-- The disk at the start of the call. -/
def disk : Fs := .start c.files c.umask c.faults

/-- The call keeps the CA that it finds. -/
def KeepsOld : Prop := c.idempotent ∧ FindsBoth c.disk c.certPath c.keyPath

/-- The number of calls until the key file is looked for. -/
def keyTest : ℕ := testCalls c.faults 0 (c.files c.certPath)

/-- The files when the old ones have been removed. -/
def filesLeft : Files :=
  if c.idempotent then c.files
  else removed c.faults c.keyTest c.keyPath (removed c.faults 0 c.certPath c.files)

/-- The number of calls until then. -/
def callsBefore : ℕ :=
  if c.idempotent then c.keyTest
  else c.keyTest +
    testCalls c.faults c.keyTest (removed c.faults 0 c.certPath c.files c.keyPath)

/-- The number of directories that are made next. -/
def parents : ℕ := (hasParent c.certPath).toNat + (hasParent c.keyPath).toNat

/-- The number of calls until the text of the key is written: the certificate file is opened and
written, and the key file is opened. -/
def keyWrite : ℕ := c.callsBefore + c.parents + 3

/-- The call makes a new CA, no call fails up to the open key file, and the key can be read from
what is written into it. -/
def WritesKey {KeyPair PublicKey : Type} (lib : X509Lib KeyPair PublicKey) (keyPair : KeyPair) :
    Prop :=
  ¬c.KeepsOld ∧ (∀ n, c.callsBefore ≤ n → n < c.keyWrite → c.faults n = none) ∧
    lib.keyPairFromPem (written (lib.serializePem keyPair) (c.faults c.keyWrite)) = .ok keyPair

/-- The mode with which the key file is opened: that of the old file, if it is left, or else the
default under the umask. -/
def keyMode : BitVec 12 :=
  ((c.filesLeft c.keyPath).map File.mode).getD (0o666 &&& ~~~c.umask)

end InitCall

section

variable {KeyPair PublicKey : Type} {lib : X509Lib KeyPair PublicKey}
  {generated : Except String KeyPair} {keyPair : KeyPair} {seed : List UInt8}
  {certPath keyPath : String} {idempotent : Bool} {ca : CertificateAuthority}

/-! ## Invariants of `init` -/

section

variable {I : Fs → Prop} (hcalls : ∀ s n, I s → I { s with calls := n })

include hcalls

/-- Up to the open certificate file nothing is done to the files but removing some. -/
theorem prepare_preserves (h : ∀ path, Preserves I (setFile path none)) :
    Preserves I (prepare lib generated seed certPath keyPath idempotent) := by
  have hexists : ∀ path, Preserves I (pathExists path) := pathExists_preserves hcalls
  have hparent : ∀ path, Preserves I (createParent path) := fun path =>
    Preserves.ite (syscall_preserves hcalls) (Preserves.pure _)
  have hremove : ∀ path, Preserves I (removeOld path) := fun path => by
    refine ((hexists path).mapError).bind fun _ => Preserves.ite ?_ (Preserves.pure _)
    exact (removeFile_preserves hcalls (h path)).ignoreResult
  have hload : Preserves I (load lib certPath keyPath) := by
    refine ((readToString_preserves hcalls certPath).mapError).bind fun _ => ?_
    refine ((readToString_preserves hcalls keyPath).mapError).bind fun _ => ?_
    exact (Preserves.liftResult _).bind fun _ =>
      (Preserves.liftResult _).bind fun _ => Preserves.pure _
  -- the test for the files, then a load, or else the removal and the calls after it
  unfold prepare
  refine Preserves.bind ?_ fun skip => Preserves.ite ?_ ?_
  · refine Preserves.ite (Preserves.mapError ?_) (Preserves.pure _)
    exact (hexists certPath).bind fun _ => Preserves.ite (hexists keyPath) (Preserves.pure _)
  · exact hload.bind fun _ => Preserves.pure _
  · refine Preserves.bind ?_ fun _ => (Preserves.liftResult _).bind fun _ => ?_
    · exact Preserves.ite (Preserves.pure _) ((hremove certPath).bind fun _ => hremove keyPath)
    · refine Preserves.bind (Preserves.mapError ?_) fun _ => Preserves.pure _
      exact (hparent certPath).bind fun _ => (hparent keyPath).bind fun _ =>
        syscall_preserves hcalls

theorem finish_preserves (h : ∀ path file, Preserves I (setFile path file)) :
    Preserves I (ca.finish certPath keyPath) := by
  -- the certificate, the key, and the mode of the key file
  unfold finish
  refine Preserves.bind (Preserves.mapError ?_) fun _ => Preserves.pure _
  refine (writeOpened_preserves hcalls (fun file => h certPath (some file)) _).bind fun _ => ?_
  refine (write_preserves hcalls (fun file => h keyPath (some file)) _).bind fun _ => ?_
  exact setPermissions_preserves hcalls fun file => h keyPath (some _)

end

/-! ## Exposed states -/

/-- Removing a file exposes nothing. -/
theorem not_exposed_of_removed {path : String} {files : Files}
    (h : ¬Exposed lib path keyPair files) (other : String) :
    ¬Exposed lib path keyPair (Function.update files other none) := by
  rintro ⟨file, text, hfile, hexposed⟩
  rw [Function.update_apply] at hfile
  split at hfile
  · cases hfile
  · exact h ⟨file, text, hfile, hexposed⟩

/-- A new content of a file is exposed when the key can be read from it, and the mode is not
private. -/
theorem exposed_update_iff {path : String} {files : Files} {content : String} {mode : BitVec 12} :
    Exposed lib path keyPair (Function.update files path (some ⟨some content, mode⟩)) ↔
      lib.keyPairFromPem content = .ok keyPair ∧ mode &&& 0o077 ≠ 0 := by
  simp [Exposed]

/-- A new content of a file exposes nothing when the key cannot be read from it. -/
theorem not_exposed_update {path other content : String} {files : Files}
    (h : ¬Exposed lib path keyPair files) (hcontent : lib.keyPairFromPem content ≠ .ok keyPair)
    (mode : BitVec 12) :
    ¬Exposed lib path keyPair (Function.update files other (some ⟨some content, mode⟩)) := by
  by_cases hother : other = path
  · subst hother
    rw [exposed_update_iff]
    exact fun hexposed => hcontent hexposed.1
  · rw [Exposed, Function.update_of_ne (Ne.symm hother)]
    exact h

/-- A file that grants nothing to others stays so under the mode `0600`. -/
theorem setPermissions_keeps_unexposed (path : String) :
    Preserves (Throughout fun files => ¬Exposed lib path keyPair files)
      (setPermissions path 0o600) := by
  refine setPermissions_preserves (fun _ _ hs => hs) fun file =>
    Throughout.setFile fun files _ => ?_
  -- whatever the text of the file, its mode is `0600` now
  rintro ⟨file', text, hfile', -, -, hmode⟩
  rw [Function.update_self] at hfile'
  cases hfile'
  have hprivate : (0o600 : BitVec 12) &&& 0o077 = 0 := by decide
  exact hmode hprivate

/-! ## The states of a run -/

/-- From the open certificate file on either the key file is not opened, or the key is written and
the file restricted. -/
theorem finish_cases (certPath keyPath : String) (s : Fs) :
    (¬(s.faults s.calls = none ∧ s.faults (s.calls + 1) = none) ∧
      ∃ n, finalState (ca.finish certPath keyPath s) =
        { finalState (writeOpened certPath ca.certPem s) with calls := n }) ∨
    (s.faults s.calls = none ∧ s.faults (s.calls + 1) = none) ∧
      finalState (ca.finish certPath keyPath s) =
        finalState ((writeOpened keyPath ca.keyPem >>= fun _ => setPermissions keyPath 0o600)
          { finalState (writeOpened certPath ca.certPem s) with calls := s.calls + 1 + 1 }) := by
  rw [finish, finalState_bind_pure, finalState_mapError]
  simp only [write, bind_assoc]
  have hrun := writeOpened_run certPath ca.certPem s
  cases hfirst : s.faults s.calls with
  | some fault =>
    -- writing the certificate fails
    refine Or.inl ⟨by simp, s.calls + 1, ?_⟩
    rw [bind_of_error (writeOpened_of_fault hfirst _ _), finalState_error, hrun]
  | none =>
    rw [bind_of_ok (writeOpened_of_no_fault hfirst _ _), hrun]
    cases hsecond : s.faults (s.calls + 1) with
    | some fault =>
      -- opening the key file fails
      refine Or.inl ⟨by simp, s.calls + 1 + 1, ?_⟩
      rw [bind_of_error (syscall_of_fault hsecond), finalState_error]
    | none =>
      rw [bind_of_ok ((syscall_eq_ok_iff _ _).mpr ⟨hsecond, rfl⟩)]
      exact Or.inr ⟨⟨rfl, rfl⟩, rfl⟩

/-- Writing the key and restricting its file leaves the key unexposed exactly if the key cannot be
read from what is written or the file is opened with a private mode. -/
theorem writeKey_unexposed_iff {key : String} (hempty : lib.keyPairFromPem "" ≠ .ok keyPair)
    {s : Fs} (h : Throughout (fun files => ¬Exposed lib keyPath keyPair files) s) :
    Throughout (fun files => ¬Exposed lib keyPath keyPair files)
        (finalState ((writeOpened keyPath key >>= fun _ => setPermissions keyPath 0o600) s)) ↔
      (lib.keyPairFromPem (written key (s.faults s.calls)) = .ok keyPair →
        openMode s keyPath &&& 0o077 = 0) := by
  constructor
  · rintro ⟨-, hhistory⟩ hread
    by_contra hmode
    -- the state in which the key has just been written stays recorded
    obtain ⟨files, hfiles⟩ : ∃ files, files = Function.update s.files keyPath
      (some ⟨some (written key (s.faults s.calls)), openMode s keyPath⟩) := ⟨_, rfl⟩
    have hrecorded : Preserves (fun s' : Fs => files ∈ s'.history) (setPermissions keyPath 0o600) :=
      setPermissions_preserves (fun _ _ hs => hs) fun _ => setFile_preserves_mem _ _ _
    have hmem : files ∈ (finalState (writeOpened keyPath key s)).history := by
      rw [writeOpened_run, hfiles]
      simp
    refine hhistory files ?_ (hfiles ▸ exposed_update_iff.mpr ⟨hread, hmode⟩)
    -- a failing write may have written enough of the key as well
    cases hfault : s.faults s.calls with
    | some fault => rwa [bind_of_error (writeOpened_of_fault hfault _ _)]
    | none =>
      rw [bind_of_ok (writeOpened_of_no_fault hfault _ _)]
      exact hrecorded _ hmem
  · intro hmode
    have hwritten : Throughout (fun files => ¬Exposed lib keyPath keyPair files)
        (finalState (writeOpened keyPath key s)) := by
      apply h.writeOpened (not_exposed_update h.1 hempty _)
      rw [exposed_update_iff]
      exact fun hexposed => hexposed.2 (hmode hexposed.1)
    cases hfault : s.faults s.calls with
    | some fault => rwa [bind_of_error (writeOpened_of_fault hfault _ _)]
    | none =>
      rw [bind_of_ok (writeOpened_of_no_fault hfault _ _)]
      exact setPermissions_keeps_unexposed keyPath _ hwritten

/-- From the open certificate file on the key stays unexposed exactly if a call fails before the key
is written, or the key cannot be read from what is written, or its file is opened with a private
mode. -/
theorem finish_unexposed_iff {s : Fs}
    (hpem : ∀ n, lib.keyPairFromPem (.ofList (ca.certPem.toList.take n)) ≠ .ok keyPair)
    (h : Throughout (fun files => ¬Exposed lib keyPath keyPair files) s) :
    Throughout (fun files => ¬Exposed lib keyPath keyPair files)
        (finalState (ca.finish certPath keyPath s)) ↔
      (s.faults s.calls = none ∧ s.faults (s.calls + 1) = none →
        lib.keyPairFromPem (written ca.keyPem (s.faults (s.calls + 1 + 1))) = .ok keyPair →
          openMode s keyPath &&& 0o077 = 0) := by
  have hempty : lib.keyPairFromPem "" ≠ .ok keyPair := hpem 0
  -- the certificate is not the key, even where both have one path
  have hcert : Throughout (fun files => ¬Exposed lib keyPath keyPair files)
      (finalState (writeOpened certPath ca.certPem s)) := by
    obtain ⟨n, hn⟩ := exists_written_eq ca.certPem (s.faults s.calls)
    exact h.writeOpened (not_exposed_update h.1 hempty _)
      (not_exposed_update h.1 (hn ▸ hpem n) _)
  rcases finish_cases certPath keyPath s with ⟨hfault, n, hrun⟩ | ⟨hopened, hrun⟩
  -- without the key file open the key is not written
  · rw [hrun]
    exact iff_of_true hcert fun hopened => absurd hopened hfault
  · obtain ⟨s₂, hs₂⟩ : ∃ s₂ : Fs, s₂ =
        { finalState (writeOpened certPath ca.certPem s) with calls := s.calls + 1 + 1 } := ⟨_, rfl⟩
    have hthrough : Throughout (fun files => ¬Exposed lib keyPath keyPair files) s₂ := by
      rw [hs₂]
      exact hcert
    have hmode : openMode s₂ keyPath = openMode s keyPath := by
      rw [hs₂]
      exact openMode_writeOpened certPath ca.certPem keyPath s
    have hfault : s₂.faults s₂.calls = s.faults (s.calls + 1 + 1) := by
      rw [hs₂, writeOpened_run]
    -- the certificate has changed nothing about the mode of the key file
    rw [hrun, ← hs₂, writeKey_unexposed_iff hempty hthrough, hmode, hfault]
    exact ⟨fun hprivate _ => hprivate, fun hprivate => hprivate hopened⟩

/-- The directories and the certificate file take a call each. -/
theorem createParents_eq (certPath keyPath : String) :
    (do createParent certPath; createParent keyPath; syscall) =
      syscalls ((hasParent certPath).toNat + (hasParent keyPath).toNat + 1) := by
  have hparent : ∀ path, createParent path = syscalls (hasParent path).toNat := by
    intro path
    unfold createParent createDirAll
    cases hasParent path with
    | true => exact syscalls_one.symm
    | false => rfl
  rw [syscalls_add, syscalls_add, bind_assoc, ← hparent, ← hparent, syscalls_one]

/-- A call that does not keep the old CA removes it, generates a new one and goes on with the
directories. -/
theorem exists_prepare (c : InitCall) (hgenerate : generate lib generated seed = .ok ca)
    (hnew : ¬c.KeepsOld) :
    ∃ history, prepare lib generated seed c.certPath c.keyPath c.idempotent c.disk =
      (mapError .io (syscalls (c.parents + 1)) >>= fun _ => return (false, ca))
        { c.disk with files := c.filesLeft, calls := c.callsBefore, history := history } := by
  -- the old files are looked for and removed
  obtain ⟨s₁, history, hskip, hremove⟩ : ∃ s₁ history,
      shouldSkip c.certPath c.keyPath c.idempotent c.disk = .ok false s₁ ∧
        removeOldFiles c.certPath c.keyPath c.idempotent s₁ = .ok ()
          { c.disk with files := c.filesLeft, calls := c.callsBefore, history := history } := by
    cases hidem : c.idempotent with
    | false =>
      obtain ⟨history, hrun⟩ := removeBoth_run (s := c.disk) (n := c.keyTest)
        (Nat.zero_add _).symm c.keyPath
      refine ⟨c.disk, history, rfl, hrun.trans ?_⟩
      simp only [InitCall.filesLeft, InitCall.callsBefore, hidem, Bool.false_eq_true, if_false]
      rfl
    | true =>
      obtain ⟨skip, hrun, hskip⟩ := shouldSkip_run c.certPath c.keyPath true c.disk
      have hfalse : skip = false := by
        rw [← Bool.not_eq_true, hskip]
        exact fun hkeeps => hnew ⟨hidem, hkeeps.2⟩
      rw [hfalse, if_pos rfl] at hrun
      have hcalls : c.disk.calls + testCalls c.disk.faults c.disk.calls (c.disk.files c.certPath) =
          c.keyTest := Nat.zero_add _
      rw [hcalls] at hrun
      refine ⟨_, c.disk.history, hrun, ?_⟩
      simp only [InitCall.filesLeft, InitCall.callsBefore, hidem, if_true]
      rfl
  refine ⟨history, ?_⟩
  unfold prepare
  rw [bind_of_ok hskip, if_neg (by simp), bind_of_ok hremove, hgenerate, liftResult_ok_bind,
    createParents_eq]
  rfl

/-- What both parts of `init` preserve. -/
theorem init_preserves {I : Fs → Prop} (hcalls : ∀ s n, I s → I { s with calls := n })
    (h : ∀ path file, Preserves I (setFile path file)) :
    Preserves I (init lib generated seed certPath keyPath idempotent) := by
  rw [init_eq]
  refine (prepare_preserves hcalls fun path => h path none).bind fun found => ?_
  exact Preserves.ite (Preserves.pure _) (finish_preserves hcalls h)

variable (lib generated seed) in
/-- The files of a run that is recorded from its start are in its record, those of the start and
those of the end. -/
theorem mem_history_of_init (c : InitCall) :
    let s := finalState (init lib generated seed c.certPath c.keyPath c.idempotent c.disk)
    c.files ∈ s.history ∧ s.files ∈ s.history :=
  ⟨init_preserves (I := fun s => c.files ∈ s.history) (fun _ _ hs => hs)
      (setFile_preserves_mem c.files) c.disk (List.mem_singleton_self c.files),
    init_preserves (I := fun s => s.files ∈ s.history) (fun _ _ hs => hs)
      (fun _ _ _ _ => List.mem_append_right _ (List.mem_singleton_self _)) c.disk
      (List.mem_singleton_self c.files)⟩

/-- The call makes a new CA, and no call fails up to the open certificate file. -/
def InitCall.Opens (c : InitCall) : Prop :=
  ¬c.KeepsOld ∧ ∀ n, c.callsBefore ≤ n → n < c.callsBefore + (c.parents + 1) → c.faults n = none

theorem InitCall.writesKey_iff (c : InitCall) : c.WritesKey lib keyPair ↔
    c.Opens ∧ (c.faults (c.callsBefore + (c.parents + 1)) = none ∧
        c.faults (c.callsBefore + (c.parents + 1) + 1) = none) ∧
      lib.keyPairFromPem (written (lib.serializePem keyPair)
        (c.faults (c.callsBefore + (c.parents + 1) + 1 + 1))) = .ok keyPair := by
  have hwrite : c.keyWrite = c.callsBefore + (c.parents + 1) + 1 + 1 := by
    rw [InitCall.keyWrite]
    omega
  rw [InitCall.WritesKey, InitCall.Opens, hwrite]
  constructor
  · rintro ⟨hnew, hfaults, hread⟩
    exact ⟨⟨hnew, fun n hle hlt => hfaults n hle (by omega)⟩,
      ⟨hfaults _ (by omega) (by omega), hfaults _ (by omega) (by omega)⟩, hread⟩
  · rintro ⟨⟨hnew, hfaults⟩, ⟨hcert, hkey⟩, hread⟩
    refine ⟨hnew, fun n hle hlt => ?_, hread⟩
    -- the call is one of those before, or one of the two
    rcases Nat.lt_or_ge n (c.callsBefore + (c.parents + 1)) with hlt' | hge
    · exact hfaults n hle hlt'
    · obtain rfl | rfl : n = c.callsBefore + (c.parents + 1) ∨
          n = c.callsBefore + (c.parents + 1) + 1 := by omega
      · exact hcert
      · exact hkey

/-- The certificate file of a new CA is opened exactly when no call before fails, and then the key
file has the mode of the one that is left. -/
theorem prepare_cases (c : InitCall) (hgenerate : generate lib generated seed = .ok ca) :
    (¬c.Opens ∧ ∀ s, prepare lib generated seed c.certPath c.keyPath c.idempotent c.disk ≠
      .ok (false, ca) s) ∨
    c.Opens ∧ ∃ s, prepare lib generated seed c.certPath c.keyPath c.idempotent c.disk =
        .ok (false, ca) s ∧ s.faults = c.faults ∧ s.calls = c.callsBefore + (c.parents + 1) ∧
      openMode s c.keyPath = c.keyMode := by
  by_cases hkeeps : c.KeepsOld
  · -- a CA that is kept is no new one
    refine Or.inl ⟨fun hopens => hopens.1 hkeeps, fun s hs => ?_⟩
    obtain ⟨skip, hrun, hskip⟩ := shouldSkip_run c.certPath c.keyPath c.idempotent c.disk
    rw [prepare, bind_of_ok hrun, hskip.mpr hkeeps, if_pos rfl] at hs
    obtain ⟨ca', s₁, -, hs⟩ := bind_eq_ok_iff.mp hs
    cases hs
  obtain ⟨history, hrun⟩ := exists_prepare c hgenerate hkeeps
  by_cases hfaults : ∀ n, c.callsBefore ≤ n → n < c.callsBefore + (c.parents + 1) →
      c.faults n = none
  · refine Or.inr ⟨⟨hkeeps, hfaults⟩, { c.disk with
      files := c.filesLeft
      calls := c.callsBefore + (c.parents + 1)
      history := history }, ?_, rfl, rfl, rfl⟩
    rw [hrun, bind_of_ok ((mapError_eq_ok_iff _ _ _ _ _).mpr
      ((syscalls_eq_ok_iff _ _ _).mpr ⟨hfaults, rfl⟩))]
    rfl
  · refine Or.inl ⟨fun hopens => hfaults hopens.2, fun s hs => hfaults ?_⟩
    rw [hrun] at hs
    obtain ⟨⟨⟩, s₁, hcalls, -⟩ := bind_eq_ok_iff.mp hs
    exact ((syscalls_eq_ok_iff _ _ _).mp ((mapError_eq_ok_iff _ _ _ _ _).mp hcalls)).1

/-- In every state of a run that generates a CA the group and others have no access to a file from
which its key can be read exactly when there is no such file before, and the call does not come as
far as writing the key, or opens its file with a private mode: that of the file that is left there,
or else the default. -/
theorem init_never_exposes_key_iff
    (hpem : ∀ params kp seed cert n kp', lib.selfSigned params kp seed = .ok cert →
      lib.keyPairFromPem (.ofList (cert.pem.toList.take n)) ≠ .ok kp')
    (hgenerate : generate lib (.ok keyPair) seed = .ok ca) (c : InitCall) :
    (∀ files ∈ (finalState (init lib (.ok keyPair) seed c.certPath c.keyPath c.idempotent
        c.disk)).history, ¬Exposed lib c.keyPath keyPair files) ↔
      ¬Exposed lib c.keyPath keyPair c.files ∧
        (c.WritesKey lib keyPair → c.keyMode &&& 0o077 = 0) := by
  -- the new CA has the key, and its certificate is not read as the key
  obtain ⟨hkeyPem, hcertPem⟩ : ca.keyPem = lib.serializePem keyPair ∧
      ∀ n, lib.keyPairFromPem (.ofList (ca.certPem.toList.take n)) ≠ .ok keyPair := by
    obtain ⟨keyPair', cert, hkey, hcert, rfl⟩ := generate_eq_ok hgenerate
    cases hkey
    exact ⟨rfl, fun n => hpem _ _ _ _ n _ hcert⟩
  obtain ⟨hstart, hend⟩ := mem_history_of_init lib (.ok keyPair) seed c
  -- before the certificate file is open, nothing is written
  have hprepare : Preserves (Throughout fun files => ¬Exposed lib c.keyPath keyPair files)
      (prepare lib (.ok keyPair) seed c.certPath c.keyPath c.idempotent) :=
    prepare_preserves (fun _ _ hs => hs) fun path =>
      Throughout.setFile fun files h => not_exposed_of_removed h path
  -- the record starts with the files as they are
  have hthrough : ¬Exposed lib c.keyPath keyPair c.files →
      Throughout (fun files => ¬Exposed lib c.keyPath keyPair files) c.disk :=
    fun h => ⟨h, fun files hmem => by rwa [List.mem_singleton.mp hmem]⟩
  rw [InitCall.writesKey_iff]
  rcases prepare_cases c hgenerate with ⟨hopens, hrun⟩ | ⟨hopens, s, hrun, hfaults, hcalls, hmode⟩
  · -- the run ends before, or with the CA that is kept
    refine ⟨fun hhistory => ⟨hhistory _ hstart, fun hwrites => absurd hwrites.1 hopens⟩, ?_⟩
    rintro ⟨hfiles, -⟩
    have hprepared := hprepare _ (hthrough hfiles)
    rw [init_eq]
    cases hprep : prepare lib (.ok keyPair) seed c.certPath c.keyPath c.idempotent c.disk with
    | error e s =>
      rw [hprep] at hprepared
      rw [bind_of_error hprep]
      exact hprepared.2
    | ok found s =>
      obtain ⟨found, ca'⟩ := found
      rw [hprep] at hprepared
      rw [bind_of_ok hprep]
      cases found with
      | true => exact hprepared.2
      | false =>
        cases hgenerate.symm.trans (generate_of_prepare hprep)
        exact absurd hprep (hrun s)
  · have hfinish : ¬Exposed lib c.keyPath keyPair c.files →
        (Throughout (fun files => ¬Exposed lib c.keyPath keyPair files)
          (finalState (ca.finish c.certPath c.keyPath s)) ↔ _) := fun hfiles =>
      finish_unexposed_iff hcertPem
        (by simpa only [hrun, finalState_ok] using hprepare _ (hthrough hfiles))
    rw [hfaults, hcalls, hkeyPem, hmode] at hfinish
    -- the files after the run are recorded as well, so the two ways to look at it agree
    rw [init_eq, bind_of_ok hrun] at hstart hend ⊢
    constructor
    · intro hhistory
      have hfiles := hhistory _ hstart
      exact ⟨hfiles, fun hwrites =>
        (hfinish hfiles).mp ⟨hhistory _ hend, hhistory⟩ hwrites.2.1 hwrites.2.2⟩
    · rintro ⟨hfiles, hprivate⟩
      exact ((hfinish hfiles).mpr fun hcalls hread => hprivate ⟨hopens, hcalls, hread⟩).2

end

/-- On a disk without files the umask `077` keeps the key from being exposed. -/
theorem init_never_exposes_key_private_umask :
    let c : InitCall := ⟨"ca-cert.pem", "ca-key.pem", false, fun _ => none, 0o077, fun _ => none⟩
    ∀ files ∈ (finalState (init Symbolic.lib (.ok 1) [] c.certPath c.keyPath c.idempotent
        c.disk)).history, ¬Exposed Symbolic.lib c.keyPath 1 files := by
  intro c
  have hgenerate : generate Symbolic.lib (.ok 1) [] = .ok (Symbolic.authority 1 1) := rfl
  refine (init_never_exposes_key_iff Symbolic.keyPairFromPem_take_selfSigned hgenerate c).mpr
    ⟨fun ⟨file, _, hfile, _⟩ => Option.some_ne_none file hfile.symm, fun _ => ?_⟩
  decide

/-- Under the umask `022` a new key file can be read by everyone until it is restricted. -/
theorem init_exposes_key :
    ¬∀ (keyPair : ℕ) (seed : List UInt8) (ca : CertificateAuthority) (c : InitCall),
      generate Symbolic.lib (.ok keyPair) seed = .ok ca →
        ∀ files ∈ (finalState (init Symbolic.lib (.ok keyPair) seed c.certPath c.keyPath
          c.idempotent c.disk)).history, ¬Exposed Symbolic.lib c.keyPath keyPair files := by
  intro h
  -- the fifth state is the one in which the key has just been written
  obtain ⟨fs', before, hrun, hmem, hfile⟩ : ∃ fs' before,
      init Symbolic.lib (.ok 1) [] "ca-cert.pem" "ca-key.pem" false
        (Fs.start (fun _ => none) 0o022 fun _ => none) = .ok (Symbolic.authority 1 1) fs' ∧
      fs'.history[4]? = some before ∧
      before "ca-key.pem" = some ⟨some (Symbolic.authority 1 1).keyPem, 0o644⟩ :=
    ⟨_, _, rfl, rfl, rfl⟩
  have hcontra := h 1 [] (Symbolic.authority 1 1)
    ⟨"ca-cert.pem", "ca-key.pem", false, fun _ => none, 0o022, fun _ => none⟩ rfl before
  rw [InitCall.disk, hrun, finalState_ok] at hcontra
  exact hcontra (List.mem_of_getElem? hmem)
    ⟨_, _, hfile, rfl, Symbolic.keyPairFromPem_serializePem 1, by decide⟩

end CertificateAuthority

end AuthnScope
