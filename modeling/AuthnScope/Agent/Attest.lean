import AuthnScope.Lib.Ranking
import AuthnScope.Lib.Text
import AuthnScope.Proto.Wire

/-!
# Matching a process to a workload

`match_workload` of `authn-scope-agent/src/client.rs`. The loop body computes five flags for one
workload from its selector and the attributes of the process; the matching workloads are sorted
by a score and the first one is taken. The lookups of `uzers` are a parameter.

## Main definitions

* `matchWorkload`: the code;
* `accepts`: when the code takes one constraint as met;
* `Holds`: when the process really has the attribute a constraint names;
* `Matches`, `selectorScore`: a matching selector and its score, read off the selector alone.

## Main results

* `candidate_eq_some_iff`: a workload is a candidate exactly when its selector matches, with the
  score of its selector;
* `accepts_iff`: a constraint is taken as met when it holds, and in one more case: an empty unit
  name for a process without a unit;
* `matchWorkload_eq_some`: the workload returned matches and none that matches scores higher.
-/

namespace AuthnScope

open RustText

/-- The attributes `handle_workload_conn` discovers of the process behind a connection. -/
structure Process where
  uid : UInt32
  gid : UInt32
  binPath : Option String
  unitpath : Option String
  unitname : Option String
  deriving DecidableEq, Repr

/-- `uzers::get_user_by_name` and `uzers::get_group_by_name`, reduced to the ids. -/
structure UserDb where
  userByName : String → Option UInt32
  groupByName : String → Option UInt32

/-- The flags `match_workload` keeps for one workload. -/
structure MatchFlags where
  isMatch : Bool
  systemdMatched : Bool
  binPathMatched : Bool
  uidMatched : Bool
  gidMatched : Bool
  deriving DecidableEq, Repr

/-- The flags before a selector is looked at. -/
def MatchFlags.init : MatchFlags := ⟨true, false, false, false, false⟩

section

variable (db : UserDb) (proc : Process)

/-- One check of the unix part: an absent constraint changes nothing, one that is not met clears
`matches`, and one that is met sets its own flag. -/
def checkUnixField (wanted : Option String) (met : String → Bool) (mark : MatchFlags → MatchFlags)
    (flags : MatchFlags) : MatchFlags :=
  match wanted with
  | none => flags
  | some value => if met value then mark flags else { flags with isMatch := false }

/-- The check of `unix.user`. -/
def checkUser (unix : UnixSelector) : MatchFlags → MatchFlags :=
  checkUnixField unix.user (fun wlUser => db.userByName wlUser == some proc.uid)
    fun flags => { flags with uidMatched := true }

/-- The check of `unix.group`. -/
def checkGroup (unix : UnixSelector) : MatchFlags → MatchFlags :=
  checkUnixField unix.group (fun wlGroup => db.groupByName wlGroup == some proc.gid)
    fun flags => { flags with gidMatched := true }

/-- The check of `unix.bin_path`. -/
def checkBinPath (unix : UnixSelector) : MatchFlags → MatchFlags :=
  checkUnixField unix.binPath (fun wlBinPath => some wlBinPath == proc.binPath)
    fun flags => { flags with binPathMatched := true }

/-- The unix part of a selector. -/
def checkUnix (sel : SelectorConfig) (flags : MatchFlags) : MatchFlags :=
  match sel.unix with
  | none => flags
  | some unix => checkBinPath proc unix (checkGroup db proc unix (checkUser db proc unix flags))

/-- The comparison of a unit name, in its full form or without the `.service` suffix; a process
without a unit counts as having the empty name. -/
def unitnameMatches (wlUnitname : String) : Bool :=
  let procName := proc.unitname.getD ""
  let procNameStripped := (stripSuffix procName ".service").getD procName
  wlUnitname == procName || wlUnitname == procNameStripped

/-- The systemd part of a selector. -/
def checkSystemd (sel : SelectorConfig) (flags : MatchFlags) : MatchFlags :=
  match sel.systemd with
  | none => flags
  | some systemd =>
    let hasSysdSelector := systemd.unitpath.isSome || systemd.unitname.isSome
    let sysdMatches :=
      systemd.unitpath.all (fun wlUnitpath => some wlUnitpath == proc.unitpath) &&
        systemd.unitname.all (unitnameMatches proc)
    -- an empty systemd part neither matches nor fails
    if hasSysdSelector then
      if sysdMatches then { flags with systemdMatched := true }
      else { flags with isMatch := false }
    else flags

/-- The priority score of a set of flags. -/
def MatchFlags.score (flags : MatchFlags) : ℕ :=
  (if flags.systemdMatched then 100 else 0) + (if flags.binPathMatched then 10 else 0) +
    (if flags.uidMatched then 1 else 0) + (if flags.gidMatched then 1 else 0)

/-- The loop body of `match_workload`: the score of a workload, if it is a candidate. -/
def candidate (sel : SelectorConfig) : Option ℕ :=
  let flags := checkSystemd proc sel (checkUnix db proc sel .init)
  if flags.isMatch then some flags.score else none

/-- The candidates of a map, in iteration order. -/
def candidates (workloads : HashMap WorkloadConfig) : List (ℕ × String) :=
  workloads.entries.filterMap fun ⟨name, config⟩ =>
    (candidate db proc config.selector).map fun score => (score, name)

/-- `match_workload`: the first candidate after a stable sort by descending score. -/
def matchWorkload (workloads : HashMap WorkloadConfig) : Option String :=
  (Ranking.top Prod.fst (candidates db proc workloads)).map Prod.snd

/-! ## Selectors and their scores -/

/-- Whether the code takes a constraint as met. -/
def accepts : Kind → String → Bool
  | .user, wlUser => db.userByName wlUser == some proc.uid
  | .group, wlGroup => db.groupByName wlGroup == some proc.gid
  | .bin, wlBinPath => some wlBinPath == proc.binPath
  | .unitname, wlUnitname => unitnameMatches proc wlUnitname
  | .unitpath, wlUnitpath => some wlUnitpath == proc.unitpath

/-- The process really has the attribute a constraint names: the looked-up id, the path, the
unit path, or the unit name with or without its `.service` suffix. -/
def Holds : Kind → String → Prop
  | .user, wlUser => db.userByName wlUser = some proc.uid
  | .group, wlGroup => db.groupByName wlGroup = some proc.gid
  | .bin, wlBinPath => proc.binPath = some wlBinPath
  | .unitname, wlUnitname => ∃ unit, proc.unitname = some unit ∧
      (unit = wlUnitname ∨ stripSuffix unit ".service" = some wlUnitname)
  | .unitpath, wlUnitpath => proc.unitpath = some wlUnitpath

/-- The code takes every constraint of the selector as met. -/
def Matches (sel : SelectorConfig) : Prop :=
  ∀ k v, sel.value k = some v → accepts db proc k v = true

end

/-- Whether a selector constrains a kind. -/
def SelectorConfig.constrains (sel : SelectorConfig) (k : Kind) : Bool := (sel.value k).isSome

/-- The score of a matching selector: 100 for a systemd constraint, 10 for a path, 1 each for a
user and a group. -/
def selectorScore (sel : SelectorConfig) : ℕ :=
  (if sel.constrains .unitpath || sel.constrains .unitname then 100 else 0) +
    (if sel.constrains .bin then 10 else 0) +
    (if sel.constrains .user then 1 else 0) + (if sel.constrains .group then 1 else 0)

variable {db : UserDb} {proc : Process}

/-- A constraint is taken as met when it holds, and in one more case: the empty unit name, for a
process without a unit name. -/
theorem accepts_iff (k : Kind) (v : String) :
    accepts db proc k v = true ↔
      Holds db proc k v ∨ (k = .unitname ∧ v = "" ∧ proc.unitname = none) := by
  cases k with
  | user => simp [accepts, Holds]
  | group => simp [accepts, Holds]
  | bin => simpa [accepts, Holds] using eq_comm
  | unitpath => simpa [accepts, Holds] using eq_comm
  | unitname =>
    cases hunit : proc.unitname with
    | none =>
      -- without a unit the code compares with the empty name
      have hstrip : stripSuffix "" ".service" = none := by decide
      simp [accepts, Holds, unitnameMatches, hunit, hstrip]
    | some unit =>
      cases hstrip : stripSuffix unit ".service" with
      | none => simpa [accepts, Holds, unitnameMatches, hunit, hstrip] using eq_comm
      | some stripped =>
        simpa [accepts, Holds, unitnameMatches, hunit, hstrip] using or_congr eq_comm eq_comm

theorem matches_iff (sel : SelectorConfig) :
    Matches db proc sel ↔ ∀ k, (sel.value k).all (accepts db proc k) = true := by
  constructor
  · intro h k
    cases hv : sel.value k with
    | none => rfl
    | some v => exact h k v hv
  · intro h k v hv
    have hk := h k
    rwa [hv] at hk

/-! ## The loop body -/

/-- A check of the unix part keeps `matches` exactly when its constraint is met. -/
theorem checkUnixField_isMatch (wanted : Option String) (met : String → Bool)
    {mark : MatchFlags → MatchFlags} (hmark : ∀ flags, (mark flags).isMatch = flags.isMatch)
    (flags : MatchFlags) :
    (checkUnixField wanted met mark flags).isMatch = (flags.isMatch && wanted.all met) := by
  unfold checkUnixField
  cases wanted with
  | none => simp
  | some value => cases h : met value <;> simp [h, hmark]

/-- A check whose constraint is met or absent sets its flag when the constraint is present. -/
theorem checkUnixField_of_met {wanted : Option String} {met : String → Bool}
    (mark : MatchFlags → MatchFlags) (h : wanted.all met = true) (flags : MatchFlags) :
    checkUnixField wanted met mark flags = if wanted.isSome then mark flags else flags := by
  unfold checkUnixField
  cases wanted with
  | none => rfl
  | some value =>
    have hmet : met value = true := h
    simp [hmet]

theorem checkUser_isMatch (unix : UnixSelector) (flags : MatchFlags) :
    (checkUser db proc unix flags).isMatch =
      (flags.isMatch && unix.user.all (accepts db proc .user)) := by
  rw [checkUser, checkUnixField_isMatch _ _ (by intro flags; rfl)]
  rfl

theorem checkGroup_isMatch (unix : UnixSelector) (flags : MatchFlags) :
    (checkGroup db proc unix flags).isMatch =
      (flags.isMatch && unix.group.all (accepts db proc .group)) := by
  rw [checkGroup, checkUnixField_isMatch _ _ (by intro flags; rfl)]
  rfl

theorem checkBinPath_isMatch (db : UserDb) (unix : UnixSelector) (flags : MatchFlags) :
    (checkBinPath proc unix flags).isMatch =
      (flags.isMatch && unix.binPath.all (accepts db proc .bin)) := by
  rw [checkBinPath, checkUnixField_isMatch _ _ (by intro flags; rfl)]
  rfl

theorem checkUser_of_met {unix : UnixSelector}
    (h : unix.user.all (accepts db proc .user) = true) (flags : MatchFlags) :
    checkUser db proc unix flags =
      if unix.user.isSome then { flags with uidMatched := true } else flags :=
  checkUnixField_of_met _ h flags

theorem checkGroup_of_met {unix : UnixSelector}
    (h : unix.group.all (accepts db proc .group) = true) (flags : MatchFlags) :
    checkGroup db proc unix flags =
      if unix.group.isSome then { flags with gidMatched := true } else flags :=
  checkUnixField_of_met _ h flags

theorem checkBinPath_of_met {unix : UnixSelector}
    (h : unix.binPath.all (accepts db proc .bin) = true) (flags : MatchFlags) :
    checkBinPath proc unix flags =
      if unix.binPath.isSome then { flags with binPathMatched := true } else flags :=
  checkUnixField_of_met _ h flags

/-- The unix part keeps `matches` exactly when its constraints are met. -/
theorem checkUnix_isMatch (sel : SelectorConfig) (flags : MatchFlags) :
    (checkUnix db proc sel flags).isMatch =
      (flags.isMatch && (sel.value .user).all (accepts db proc .user) &&
        (sel.value .group).all (accepts db proc .group) &&
        (sel.value .bin).all (accepts db proc .bin)) := by
  unfold checkUnix
  cases hunix : sel.unix with
  | none => simp [SelectorConfig.value, hunix]
  | some unix =>
    simp only [SelectorConfig.value, hunix, Option.bind_some]
    rw [checkBinPath_isMatch db, checkGroup_isMatch, checkUser_isMatch]

/-- The flags after the unix part of a matching selector say which constraints it has. -/
theorem checkUnix_of_matches {sel : SelectorConfig} (h : Matches db proc sel) :
    checkUnix db proc sel .init =
      ⟨true, false, sel.constrains .bin, sel.constrains .user, sel.constrains .group⟩ := by
  rw [matches_iff] at h
  -- every constraint of the unix part is met or absent
  have huser := h .user
  have hgroup := h .group
  have hbin := h .bin
  unfold checkUnix
  cases hunix : sel.unix with
  | none => simp [SelectorConfig.constrains, SelectorConfig.value, hunix, MatchFlags.init]
  | some unix =>
    simp only [SelectorConfig.value, hunix, Option.bind_some] at huser hgroup hbin
    simp only [SelectorConfig.constrains, SelectorConfig.value, hunix, Option.bind_some]
    rw [checkBinPath_of_met hbin, checkGroup_of_met hgroup, checkUser_of_met huser]
    cases unix.user <;> cases unix.group <;> cases unix.binPath <;> rfl

/-- The systemd part keeps `matches` exactly when its constraints are met. -/
theorem checkSystemd_isMatch (db : UserDb) (sel : SelectorConfig) (flags : MatchFlags) :
    (checkSystemd proc sel flags).isMatch =
      (flags.isMatch && (sel.value .unitpath).all (accepts db proc .unitpath) &&
        (sel.value .unitname).all (accepts db proc .unitname)) := by
  unfold checkSystemd
  cases hsystemd : sel.systemd with
  | none => simp [SelectorConfig.value, hsystemd]
  | some systemd =>
    simp only [SelectorConfig.value, hsystemd, Option.bind_some]
    have hpath : accepts db proc .unitpath = fun p => some p == proc.unitpath := rfl
    have hname : accepts db proc .unitname = unitnameMatches proc := rfl
    rw [hpath, hname]
    -- each of the two constraints is present or absent
    cases hp : systemd.unitpath <;> cases hn : systemd.unitname <;> simp <;> split <;> simp_all

/-- The systemd part of a matching selector sets its flag when it constrains the unit. -/
theorem checkSystemd_of_matches {sel : SelectorConfig} (h : Matches db proc sel)
    (flags : MatchFlags) :
    checkSystemd proc sel flags =
      if sel.constrains .unitpath || sel.constrains .unitname then
        { flags with systemdMatched := true }
      else flags := by
  rw [matches_iff] at h
  have hpath := h .unitpath
  have hname := h .unitname
  unfold checkSystemd
  cases hsystemd : sel.systemd with
  | none => simp [SelectorConfig.constrains, SelectorConfig.value, hsystemd]
  | some systemd =>
    simp only [SelectorConfig.value, hsystemd, Option.bind_some] at hpath hname
    have hmet : (systemd.unitpath.all (fun wlUnitpath => some wlUnitpath == proc.unitpath) &&
        systemd.unitname.all (unitnameMatches proc)) = true := by
      rw [Bool.and_eq_true]
      exact ⟨hpath, hname⟩
    simp only [SelectorConfig.constrains, SelectorConfig.value, hsystemd, Option.bind_some, hmet,
      ↓reduceIte]

/-- The flags of a matching selector add up to its score. -/
theorem score_of_matches {sel : SelectorConfig} (h : Matches db proc sel) :
    (checkSystemd proc sel (checkUnix db proc sel .init)).score = selectorScore sel := by
  rw [checkSystemd_of_matches h, checkUnix_of_matches h]
  unfold selectorScore MatchFlags.score
  split <;> rfl

/-- `matches` survives both parts exactly when the selector matches. -/
theorem isMatch_iff (sel : SelectorConfig) :
    (checkSystemd proc sel (checkUnix db proc sel .init)).isMatch = true ↔
      Matches db proc sel := by
  rw [checkSystemd_isMatch db, checkUnix_isMatch, matches_iff]
  simp only [MatchFlags.init, Bool.true_and, Bool.and_eq_true]
  constructor
  · rintro ⟨⟨⟨⟨huser, hgroup⟩, hbin⟩, hpath⟩, hname⟩ k
    cases k <;> assumption
  · intro h
    exact ⟨⟨⟨⟨h .user, h .group⟩, h .bin⟩, h .unitpath⟩, h .unitname⟩

/-- A workload is a candidate exactly when its selector matches, and then with the score of its
selector. -/
theorem candidate_eq_some_iff (sel : SelectorConfig) (n : ℕ) :
    candidate db proc sel = some n ↔ Matches db proc sel ∧ n = selectorScore sel := by
  unfold candidate
  by_cases h : Matches db proc sel
  · simp only [(isMatch_iff sel).mpr h, ↓reduceIte, score_of_matches h]
    simp [h, eq_comm]
  · simp [mt (isMatch_iff sel).mp h, h]

/-! ## The loop and the sort -/

/-- The candidates are the matching workloads with their scores. -/
theorem mem_candidates_iff (workloads : HashMap WorkloadConfig) (n : ℕ) (name : String) :
    (n, name) ∈ candidates db proc workloads ↔
      ∃ config, workloads.lookup name = some config ∧ Matches db proc config.selector ∧
        n = selectorScore config.selector := by
  unfold candidates
  rw [List.mem_filterMap]
  constructor
  · rintro ⟨⟨name', config⟩, hmem, hcand⟩
    obtain ⟨score, hscore, hpair⟩ := Option.map_eq_some_iff.mp hcand
    cases hpair
    obtain ⟨hmatch, rfl⟩ := (candidate_eq_some_iff _ _).mp hscore
    exact ⟨config, (HashMap.lookup_eq_some_iff _ _ _).mpr hmem, hmatch, rfl⟩
  · rintro ⟨config, hlookup, hmatch, rfl⟩
    refine ⟨⟨name, config⟩, (HashMap.lookup_eq_some_iff _ _ _).mp hlookup, ?_⟩
    simp only [(candidate_eq_some_iff _ _).mpr ⟨hmatch, rfl⟩, Option.map_some]

/-- The workload returned is registered, its selector matches, and no matching workload scores
higher. -/
theorem matchWorkload_eq_some {workloads : HashMap WorkloadConfig} {name : String}
    (h : matchWorkload db proc workloads = some name) :
    ∃ config, workloads.lookup name = some config ∧ Matches db proc config.selector ∧
      ∀ other config', workloads.lookup other = some config' →
        Matches db proc config'.selector →
          selectorScore config'.selector ≤ selectorScore config.selector := by
  unfold matchWorkload at h
  obtain ⟨⟨n, name'⟩, htop, rfl⟩ := Option.map_eq_some_iff.mp h
  -- the first of the sorted candidates is one of them, and the others score no higher
  obtain ⟨config, hlookup, hmatch, rfl⟩ :=
    (mem_candidates_iff _ _ _).mp (Ranking.top_mem htop)
  refine ⟨config, hlookup, hmatch, fun other config' hlookup' hmatch' => ?_⟩
  exact Ranking.le_score_top htop _
    ((mem_candidates_iff _ _ _).mpr ⟨config', hlookup', hmatch', rfl⟩)

/-- No workload is returned exactly when none matches. -/
theorem matchWorkload_eq_none_iff (workloads : HashMap WorkloadConfig) :
    matchWorkload db proc workloads = none ↔
      ∀ name config, workloads.lookup name = some config → ¬Matches db proc config.selector := by
  unfold matchWorkload
  rw [Option.map_eq_none_iff, Ranking.top_eq_none_iff, List.eq_nil_iff_forall_not_mem]
  constructor
  · intro h name config hlookup hmatch
    exact h _ ((mem_candidates_iff _ _ _).mpr ⟨config, hlookup, hmatch, rfl⟩)
  · rintro h ⟨n, name⟩ hmem
    obtain ⟨config, hlookup, hmatch, -⟩ := (mem_candidates_iff _ _ _).mp hmem
    exact h name config hlookup hmatch

end AuthnScope
