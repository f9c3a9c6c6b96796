import AuthnScope.Lib.Outcome

/-!
# Files, permissions and failing system calls

A file system as a process sees it that reads and writes whole files: a file per path with its
text and permission bits, the umask of the process, and for each system call whether it fails for
a reason outside the model. The states the files go through are recorded, so a property can speak
of every moment of a run.

`write` is two calls as in Rust's `fs::write`: the file is created or truncated first, with the
mode of an existing file kept, and a failure while writing leaves the beginning of the text.

## Main results

* `readToString_eq_ok_iff`: what a successful read returns;
* `pathExists_run`: what a test for existence answers;
* `removeFile_run`, `writeOpened_run`, `write_files`: what a call leaves of the files, on success
  and on failure;
* `syscall_preserves` and its like: the invariants of a call, among them `Throughout`, a property
  of every state the files go through.
-/

namespace FileSystem

open Outcome

/-- A file; `text` is `none` when its bytes are not UTF-8. -/
structure File where
  text : Option String
  mode : BitVec 12
  deriving DecidableEq, Repr

/-- The file at each path. -/
abbrev Files := String → Option File

/-- A failure of a system call: its text, and how much of the text a failing write leaves. -/
structure Fault where
  message : String
  kept : ℕ
  deriving DecidableEq, Repr

/-- The file system of a process: `faults n` decides whether its `n`-th call fails, and `history`
holds the states the files have gone through, the oldest first. -/
structure Fs where
  files : Files
  umask : BitVec 12
  faults : ℕ → Option Fault
  calls : ℕ
  history : List Files

/-- Computations on the file system; errors are texts. -/
abbrev FsM := EStateM String Fs

/-- Start a system call. -/
def nextFault : FsM (Option Fault) := fun s =>
  .ok (s.faults s.calls) { s with calls := s.calls + 1 }

/-- A system call that has no effect on the files besides its failure. -/
def syscall : FsM Unit := do
  match ← nextFault with
  | some fault => throw fault.message
  | none => return ()

/-- As many of these calls, one after the other. -/
def syscalls : ℕ → FsM Unit
  | 0 => return ()
  | n + 1 => do
    syscall
    syscalls n

/-- Put a file at a path or remove it. -/
def setFile (path : String) (file : Option File) : FsM Unit :=
  modify fun s =>
    let files := Function.update s.files path file
    { s with files := files, history := s.history ++ [files] }

/-- `Path::exists`; a failing call counts as absent. -/
def pathExists (path : String) : FsM Bool := do
  let fault ← nextFault
  let s ← get
  return fault.isNone && (s.files path).isSome

/-- What reading a path gives. -/
def fileText : Option File → Except String String
  | none => .error "No such file or directory (os error 2)"
  | some ⟨none, _⟩ => .error "stream did not contain valid UTF-8"
  | some ⟨some text, _⟩ => .ok text

/-- `fs::read_to_string`. -/
def readToString (path : String) : FsM String := do
  syscall
  let s ← get
  liftResult (fileText (s.files path))

/-- `fs::remove_file`. -/
def removeFile (path : String) : FsM Unit := do
  syscall
  let s ← get
  match s.files path with
  | none => throw "No such file or directory (os error 2)"
  | some _ => setFile path none

/-- `fs::create_dir_all`; directories are not modelled beyond the failure. -/
def createDirAll : FsM Unit := syscall

/-- What follows in `fs::write` when the file is open. -/
def writeOpened (path text : String) : FsM Unit := do
  let s ← get
  -- an existing file is truncated and keeps its mode, a new one gets the default
  let mode := ((s.files path).map File.mode).getD (0o666 &&& ~~~s.umask)
  setFile path (some ⟨some "", mode⟩)
  -- the text is written in a second call, which may stop half-way
  match ← nextFault with
  | some fault =>
    setFile path (some ⟨some (.ofList (text.toList.take fault.kept)), mode⟩)
    throw fault.message
  | none => setFile path (some ⟨some text, mode⟩)

/-- `fs::write`. -/
def write (path text : String) : FsM Unit := do
  syscall
  writeOpened path text

/-- `fs::set_permissions`. -/
def setPermissions (path : String) (mode : BitVec 12) : FsM Unit := do
  syscall
  let s ← get
  match s.files path with
  | none => throw "No such file or directory (os error 2)"
  | some file => setFile path (some { file with mode := mode })

/-- A file system whose states are recorded from now on. -/
def Fs.start (files : Files) (umask : BitVec 12) (faults : ℕ → Option Fault) : Fs :=
  ⟨files, umask, faults, 0, [files]⟩

/-- The mode with which `write` opens a path: that of the file that is there, or the default. -/
def openMode (s : Fs) (path : String) : BitVec 12 :=
  ((s.files path).map File.mode).getD (0o666 &&& ~~~s.umask)

/-- What the second call of `write` leaves of a text. -/
def written (text : String) : Option Fault → String
  | some fault => .ofList (text.toList.take fault.kept)
  | none => text

/-- The property holds of the files now and in every recorded state. -/
def Throughout (P : Files → Prop) (s : Fs) : Prop := P s.files ∧ ∀ files ∈ s.history, P files

/-- The text of the file at a path, if there is one and it is UTF-8. -/
def Files.text (files : Files) (path : String) : Option String := (files path).bind File.text

/-- What `read_to_string` returns, from the failure of its call and the file. -/
def readResult (fault : Option Fault) (file : Option File) : Except String String :=
  match fault with
  | some fault => .error fault.message
  | none => fileText file

/-- Every file is as it was or gone. -/
def OnlyRemoved (files files' : Files) : Prop :=
  ∀ path, files' path = files path ∨ files' path = none

/-- The file holds a beginning of the text. -/
def HoldsBeginning (files : Files) (path text : String) : Prop :=
  ∃ n, files.text path = some (.ofList (text.toList.take n))

theorem pathExists_run (path : String) (s : Fs) :
    pathExists path s = .ok ((s.faults s.calls).isNone && (s.files path).isSome)
      { s with calls := s.calls + 1 } := rfl

theorem nextFault_run (s : Fs) :
    nextFault s = .ok (s.faults s.calls) { s with calls := s.calls + 1 } := rfl

theorem setFile_run (path : String) (file : Option File) (s : Fs) :
    setFile path file s = .ok ⟨⟩
      { s with
        files := Function.update s.files path file
        history := s.history ++ [Function.update s.files path file] } := rfl

/-- A call that succeeds is only counted. -/
theorem syscall_eq_ok_iff (s s' : Fs) :
    syscall s = .ok () s' ↔ s.faults s.calls = none ∧ s' = { s with calls := s.calls + 1 } := by
  unfold syscall
  rw [bind_of_ok (nextFault_run s)]
  cases s.faults s.calls <;> simp [eq_comm]

/-- A call that fails is counted as well. -/
theorem syscall_of_fault {s : Fs} {fault : Fault} (h : s.faults s.calls = some fault) :
    syscall s = .error fault.message { s with calls := s.calls + 1 } := by
  unfold syscall
  rw [bind_of_ok (nextFault_run s), h]
  rfl

/-- Several calls succeed when each of them does, and are only counted. -/
theorem syscalls_eq_ok_iff (n : ℕ) (s s' : Fs) :
    syscalls n s = .ok () s' ↔
      (∀ m, s.calls ≤ m → m < s.calls + n → s.faults m = none) ∧
        s' = { s with calls := s.calls + n } := by
  induction n generalizing s with
  | zero =>
    show EStateM.Result.ok () s = _ ↔ _
    simp only [EStateM.Result.ok.injEq, true_and, Nat.add_zero]
    exact ⟨fun h => ⟨fun m hle hlt => absurd hlt (Nat.not_lt.mpr hle), h.symm⟩, fun h => h.2.symm⟩
  | succ n ih =>
    rw [syscalls, bind_eq_ok_iff]
    constructor
    · rintro ⟨⟨⟩, s₁, hfirst, hrest⟩
      obtain ⟨hfault, rfl⟩ := (syscall_eq_ok_iff s s₁).mp hfirst
      obtain ⟨hfaults, rfl⟩ := (ih _).mp hrest
      refine ⟨fun m hle hlt => ?_, ?_⟩
      -- the first call, or one of the others
      · rcases Nat.eq_or_lt_of_le hle with rfl | hlt'
        · exact hfault
        · exact hfaults m hlt' (by show m < s.calls + 1 + n; omega)
      · simp only [Nat.add_assoc, Nat.add_comm 1 n]
    · rintro ⟨hfaults, rfl⟩
      refine ⟨(), _, (syscall_eq_ok_iff s _).mpr ⟨hfaults _ (Nat.le_refl _) (by omega), rfl⟩,
        (ih _).mpr ⟨fun m hle hlt => hfaults m ?_ ?_, ?_⟩⟩
      · exact Nat.le_of_succ_le hle
      · change m < s.calls + 1 + n at hlt
        omega
      · simp only [Nat.add_assoc, Nat.add_comm 1 n]

theorem syscalls_add (m n : ℕ) : syscalls (m + n) = syscalls m >>= fun _ => syscalls n := by
  induction m with
  | zero => simp [syscalls]
  | succ m ih => rw [Nat.succ_add, syscalls, ih, syscalls, bind_assoc]

theorem syscalls_one : syscalls 1 = syscall := by
  simp [syscalls]

/-- Reading gives the text of a file whose bytes are UTF-8. -/
theorem fileText_eq_ok_iff (file : Option File) (text : String) :
    fileText file = .ok text ↔ file.bind File.text = some text := by
  rcases file with _ | ⟨_ | text', mode⟩ <;> simp [fileText]

theorem readResult_eq_ok_iff (fault : Option Fault) (file : Option File) (text : String) :
    readResult fault file = .ok text ↔ fault = none ∧ file.bind File.text = some text := by
  cases fault with
  | none => simp [readResult, fileText_eq_ok_iff]
  | some fault => simp [readResult]

/-- A read changes nothing but the number of calls. -/
theorem readToString_run (path : String) (s : Fs) :
    readToString path s = liftResult (readResult (s.faults s.calls) (s.files path))
      { s with calls := s.calls + 1 } := by
  unfold readToString syscall
  rw [bind_assoc, bind_of_ok (nextFault_run s)]
  cases s.faults s.calls <;> rfl

/-- A read returns the text of the file and changes nothing but the number of calls. -/
theorem readToString_eq_ok_iff (path text : String) (s s' : Fs) :
    readToString path s = .ok text s' ↔
      s.faults s.calls = none ∧ s.files.text path = some text ∧
        s' = { s with calls := s.calls + 1 } := by
  rw [readToString_run, liftResult_eq_ok_iff, readResult_eq_ok_iff, and_assoc]
  rfl

/-! ## Invariants -/

section

variable {I : Fs → Prop} (hcalls : ∀ s n, I s → I { s with calls := n })

include hcalls

/-- Counting a call preserves what does not depend on the count. -/
theorem syscall_preserves : Preserves I syscall := by
  intro s hs
  cases hfault : s.faults s.calls with
  | none =>
    rw [(syscall_eq_ok_iff s _).mpr ⟨hfault, rfl⟩]
    exact hcalls s _ hs
  | some fault =>
    rw [syscall_of_fault hfault]
    exact hcalls s _ hs

theorem pathExists_preserves (path : String) : Preserves I (pathExists path) :=
  fun s hs => hcalls s _ hs

theorem readToString_preserves (path : String) : Preserves I (readToString path) := by
  intro s hs
  rw [readToString_run]
  cases readResult (s.faults s.calls) (s.files path) <;> exact hcalls s _ hs

/-- Removing a file preserves what the removal preserves. -/
theorem removeFile_preserves {path : String} (h : Preserves I (setFile path none)) :
    Preserves I (removeFile path) := by
  unfold removeFile
  refine (syscall_preserves hcalls).bind fun _ => ?_
  intro s hs
  rw [bind_of_ok (get_run s)]
  cases s.files path with
  | none => exact hs
  | some file => exact h s hs

/-- Writing an open file preserves what every change of the file preserves. -/
theorem writeOpened_preserves {path : String} (h : ∀ file, Preserves I (setFile path (some file)))
    (text : String) : Preserves I (writeOpened path text) := by
  intro s hs
  unfold writeOpened
  rw [bind_of_ok (get_run s), bind_of_ok (setFile_run _ _ s), bind_of_ok (nextFault_run _)]
  -- both changes are of the same file: it is emptied, then written
  have hopened := hcalls _ (s.calls + 1) (h ⟨some "", openMode s path⟩ s hs)
  cases s.faults s.calls with
  | none => exact h _ _ hopened
  | some fault => exact h _ _ hopened

theorem write_preserves {path : String} (h : ∀ file, Preserves I (setFile path (some file)))
    (text : String) : Preserves I (write path text) := by
  unfold write
  exact (syscall_preserves hcalls).bind fun _ => writeOpened_preserves hcalls h text

theorem setPermissions_preserves {path : String} {mode : BitVec 12}
    (h : ∀ file : File, Preserves I (setFile path (some { file with mode := mode }))) :
    Preserves I (setPermissions path mode) := by
  unfold setPermissions
  refine (syscall_preserves hcalls).bind fun _ => ?_
  intro s hs
  rw [bind_of_ok (get_run s)]
  cases s.files path with
  | none => exact hs
  | some file => exact h file s hs

end

/-! ## What the calls do to the files -/

theorem OnlyRemoved.refl (files : Files) : OnlyRemoved files files := fun _ => Or.inl rfl

theorem OnlyRemoved.trans {files files' files'' : Files} (h : OnlyRemoved files files')
    (h' : OnlyRemoved files' files'') : OnlyRemoved files files'' := by
  intro path
  rcases h' path with heq | hnone
  · rw [heq]
    exact h path
  · exact Or.inr hnone

theorem syscall_keeps : Keeps Fs.files syscall :=
  keeps_iff_preserves.mpr fun _ => syscall_preserves fun _ _ hs => hs

theorem readToString_keeps (path : String) : Keeps Fs.files (readToString path) :=
  keeps_iff_preserves.mpr fun _ => readToString_preserves (fun _ _ hs => hs) path

/-- Removing a file leaves the others, and leaves it as well when the call fails. -/
theorem removeFile_run (path : String) (s : Fs) :
    ∃ history, finalState (removeFile path s) =
      { s with
        files := if s.faults s.calls = none then Function.update s.files path none else s.files
        calls := s.calls + 1
        history := history } := by
  cases hfault : s.faults s.calls with
  | some fault =>
    have hrun : removeFile path s = .error fault.message { s with calls := s.calls + 1 } :=
      bind_of_error (syscall_of_fault hfault) _
    exact ⟨s.history, by rw [hrun, finalState_error]; rfl⟩
  | none =>
    have hcall := (syscall_eq_ok_iff s _).mpr ⟨hfault, rfl⟩
    unfold removeFile
    rw [bind_of_ok hcall, bind_of_ok (get_run _), if_pos rfl]
    cases hfile : s.files path with
    | none =>
      -- there is nothing to remove
      have hsame : Function.update s.files path none = s.files := by
        rw [← hfile, Function.update_eq_self]
      exact ⟨s.history, by rw [hsame]; rfl⟩
    | some file => exact ⟨_, rfl⟩

/-- Writing an open file empties it and then writes what the second call lets through. -/
theorem writeOpened_run (path text : String) (s : Fs) :
    finalState (writeOpened path text s) =
      { s with
        files := Function.update s.files path
          (some ⟨some (written text (s.faults s.calls)), openMode s path⟩)
        calls := s.calls + 1
        history := s.history ++
          [Function.update s.files path (some ⟨some "", openMode s path⟩),
            Function.update s.files path
              (some ⟨some (written text (s.faults s.calls)), openMode s path⟩)] } := by
  unfold writeOpened
  rw [bind_of_ok (get_run s), bind_of_ok (setFile_run _ _ s), bind_of_ok (nextFault_run _)]
  cases s.faults s.calls with
  | none =>
    -- the whole text is written over the empty file
    simp only [setFile_run, finalState_ok, written, Function.update_idem, openMode,
      List.append_assoc, List.cons_append, List.nil_append]
  | some fault =>
    simp only
    -- a beginning of the text is written, and the call fails
    rw [bind_of_ok (setFile_run _ _ _)]
    simp only [throw_run, finalState_error, written, Function.update_idem, openMode,
      List.append_assoc, List.cons_append, List.nil_append]

/-- Writing an open file succeeds exactly when its second call does. -/
theorem writeOpened_of_no_fault {s : Fs} (h : s.faults s.calls = none) (path text : String) :
    writeOpened path text s = .ok () (finalState (writeOpened path text s)) := by
  unfold writeOpened
  rw [bind_of_ok (get_run s), bind_of_ok (setFile_run _ _ s), bind_of_ok (nextFault_run _)]
  simp only [h]
  rfl

theorem writeOpened_of_fault {s : Fs} {fault : Fault} (h : s.faults s.calls = some fault)
    (path text : String) :
    writeOpened path text s =
      .error fault.message (finalState (writeOpened path text s)) := by
  unfold writeOpened
  rw [bind_of_ok (get_run s), bind_of_ok (setFile_run _ _ s), bind_of_ok (nextFault_run _)]
  simp only [h]
  rfl

/-- A write that succeeds leaves the text. -/
theorem writeOpened_eq_ok {path text : String} {s s' : Fs}
    (h : writeOpened path text s = .ok () s') :
    s'.files = Function.update s.files path (some ⟨some text, openMode s path⟩) := by
  have hrun := writeOpened_run path text s
  cases hfault : s.faults s.calls with
  | some fault =>
    rw [writeOpened_of_fault hfault] at h
    cases h
  | none =>
    rw [h, hfault] at hrun
    exact congrArg Fs.files hrun

/-- What is written of a text is a beginning of it. -/
theorem exists_written_eq (text : String) (fault : Option Fault) :
    ∃ n, written text fault = .ofList (text.toList.take n) := by
  cases fault with
  | none =>
    refine ⟨text.length, ?_⟩
    rw [← String.length_toList, List.take_length, String.ofList_toList]
    rfl
  | some fault => exact ⟨fault.kept, rfl⟩

/-- Writing an open file leaves a beginning of the text in it, and the other files as they were. -/
theorem writeOpened_files (path text : String) (s : Fs) :
    HoldsBeginning (finalState (writeOpened path text s)).files path text ∧
      ∀ other, other ≠ path →
        (finalState (writeOpened path text s)).files other = s.files other := by
  rw [writeOpened_run]
  obtain ⟨n, hn⟩ := exists_written_eq text (s.faults s.calls)
  refine ⟨⟨n, ?_⟩, fun other hother => Function.update_of_ne hother _ _⟩
  simp only [Files.text, Function.update_self, Option.bind_some, hn]

/-- Writing to a path leaves it as it was, when it cannot be opened, or with a beginning of the
text. -/
theorem write_files (path text : String) (s : Fs) :
    ((finalState (write path text s)).files = s.files ∨
        HoldsBeginning (finalState (write path text s)).files path text) ∧
      ∀ other, other ≠ path → (finalState (write path text s)).files other = s.files other := by
  unfold write
  cases hfault : s.faults s.calls with
  | none =>
    rw [bind_of_ok ((syscall_eq_ok_iff s _).mpr ⟨hfault, rfl⟩)]
    obtain ⟨hbeginning, hother⟩ := writeOpened_files path text { s with calls := s.calls + 1 }
    exact ⟨Or.inr hbeginning, hother⟩
  | some fault =>
    rw [bind_of_error (syscall_of_fault hfault), finalState_error]
    exact ⟨Or.inl rfl, fun _ _ => rfl⟩

/-- The mode of a file that could not be set has not changed. -/
theorem setPermissions_error {path : String} {mode : BitVec 12} {s s' : Fs} {e : String}
    (h : setPermissions path mode s = .error e s') : s'.files = s.files := by
  unfold setPermissions at h
  rcases bind_eq_error_iff.mp h with hcall | ⟨⟨⟩, s₁, hcall, h⟩
  · have hkeeps := syscall_keeps s
    rw [hcall] at hkeeps
    exact hkeeps
  · obtain ⟨-, rfl⟩ := (syscall_eq_ok_iff s s₁).mp hcall
    rw [bind_of_ok (get_run _)] at h
    cases hfile : s.files path with
    | none =>
      simp only [hfile, throw_run] at h
      cases h
      rfl
    | some file =>
      simp only [hfile, setFile_run] at h
      cases h

/-- Setting the mode of a file leaves all texts. -/
theorem setPermissions_text (path : String) (mode : BitVec 12) (other : String) :
    Keeps (fun s : Fs => s.files.text other) (setPermissions path mode) := by
  intro s
  unfold setPermissions
  cases hfault : s.faults s.calls with
  | some fault => rw [bind_of_error (syscall_of_fault hfault), finalState_error]
  | none =>
    rw [bind_of_ok ((syscall_eq_ok_iff s _).mpr ⟨hfault, rfl⟩), bind_of_ok (get_run _)]
    cases hfile : s.files path with
    | none => rfl
    | some file =>
      simp only [setFile_run, finalState_ok, Files.text]
      by_cases hother : other = path
      · rw [hother, Function.update_self, hfile]
        rfl
      · rw [Function.update_of_ne hother]

/-! ## Properties of every state -/

/-- A recorded state stays recorded. -/
theorem setFile_preserves_mem (files : Files) (path : String) (file : Option File) :
    Preserves (fun s => files ∈ s.history) (setFile path file) :=
  fun _ hs => List.mem_append_left _ hs

/-- A change keeps a property throughout when the new files have it. -/
theorem Throughout.setFile {P : Files → Prop} {path : String} {file : Option File}
    (h : ∀ files, P files → P (Function.update files path file)) :
    Preserves (Throughout P) (setFile path file) := by
  rintro s ⟨hfiles, hhistory⟩
  refine ⟨h _ hfiles, fun files hmem => ?_⟩
  -- the recorded states are the earlier ones and the new one
  rcases List.mem_append.mp hmem with hmem | hmem
  · exact hhistory files hmem
  · rw [List.mem_singleton.mp hmem]
    exact h _ hfiles

/-- Writing an open file keeps a property throughout that the empty and the written file have. -/
theorem Throughout.writeOpened {P : Files → Prop} {s : Fs} (h : Throughout P s)
    {path text : String}
    (hempty : P (Function.update s.files path (some ⟨some "", openMode s path⟩)))
    (hwritten : P (Function.update s.files path
      (some ⟨some (written text (s.faults s.calls)), openMode s path⟩))) :
    Throughout P (finalState (writeOpened path text s)) := by
  rw [writeOpened_run]
  refine ⟨hwritten, fun files hmem => ?_⟩
  simp only [List.mem_append, List.mem_cons, List.not_mem_nil, or_false] at hmem
  rcases hmem with hmem | rfl | rfl
  · exact h.2 files hmem
  · exact hempty
  · exact hwritten

/-- Writing an open file changes no mode with which a file is opened. -/
theorem openMode_writeOpened (path text other : String) (s : Fs) :
    openMode (finalState (writeOpened path text s)) other = openMode s other := by
  rw [writeOpened_run]
  by_cases hother : other = path
  · subst hother
    simp only [openMode, Function.update_self, Option.map_some, Option.getD_some]
  · simp only [openMode, Function.update_of_ne hother]

end FileSystem
