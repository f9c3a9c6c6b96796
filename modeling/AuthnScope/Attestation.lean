import AuthnScope.Agent.Attest
import AuthnScope.Server.Handler
import AuthnScope.Server.SelectorGrammar

/-!
# Attestation from the selector string to the match

The host parses a selector string and the agent matches the parsed selector against a process. A
string is meant as the conjunction of its components; what is matched is the conjunction of the
last value of each kind.

## Main definitions

* `Anchored`: a selector string that no process meets for free;
* `EmptyUnit`: a selector string whose systemd part is met by processes without a unit.

## Main results

* `candidate_iff_components_iff`: a selector means the conjunction of its components exactly when
  components of one kind agree;
* `attestation_fails_closed_iff`: every match rests on a constraint that holds exactly when every
  selector of the VM is anchored;
* `unitless_not_candidate_iff`: processes without a unit meet no systemd constraint exactly when no
  selector of the VM has an empty unit.
-/

namespace AuthnScope

open RustText

variable {db : UserDb} {proc : Process}

/-! ## What a selector string means -/

/-- A workload is a candidate when the last value of each kind is taken as met. -/
theorem candidate_ofComponents_iff (cs : List Component) :
    (candidate db proc (.ofComponents cs)).isSome ↔
      ∀ k v, lastValue k cs = some v → accepts db proc k v = true := by
  simp only [Option.isSome_iff_exists, candidate_eq_some_iff, exists_and_left, exists_eq,
    and_true, Matches, value_ofComponents]

/-- A non-empty constraint is taken as met when it holds. -/
theorem accepts_iff_holds {k : Kind} {v : String} (hv : v ≠ "") :
    accepts db proc k v = true ↔ Holds db proc k v := by
  rw [accepts_iff]
  simp [hv]

/-- A unit that bears one name, in full or stripped, and not another. -/
theorem exists_unit_separating {name other : String} (h : name ≠ other) :
    ∃ unit, (unit = name ∨ stripSuffix unit ".service" = some name) ∧
      ¬(unit = other ∨ stripSuffix unit ".service" = some other) := by
  by_cases hstrip : stripSuffix name ".service" = some other
  · -- the unit of this name would also bear the other one, so the longer unit name is taken
    have hname := (stripSuffix_eq_some_iff _ _ _).mp hstrip
    refine ⟨name ++ ".service", Or.inr (stripSuffix_append _ _), ?_⟩
    rintro (hother | hother)
    · have hlen := congrArg String.length hother
      have hservice : ".service".length = 8 := by decide
      rw [hname, String.length_append, String.length_append, hservice] at hlen
      omega
    · rw [stripSuffix_append, Option.some.injEq] at hother
      exact h hother
  · refine ⟨name, Or.inl rfl, ?_⟩
    rintro (hother | hother)
    · exact h hother
    · exact hstrip hother

/-- A process that has the last value of every kind, but not another value of one kind. -/
theorem exists_process_separating {cs : List Component} {k : Kind} {v other : String}
    (hlast : lastValue k cs = some v) (h : v ≠ other) :
    ∃ db proc, (∀ k' v', lastValue k' cs = some v' → Holds db proc k' v') ∧
      ¬Holds db proc k other := by
  -- only the unit name needs care: one unit bears two names
  have hunit : ∃ unit : Option String,
      (∀ v', lastValue .unitname cs = some v' → ∃ u, unit = some u ∧
        (u = v' ∨ stripSuffix u ".service" = some v')) ∧
      (k = .unitname → ¬∃ u, unit = some u ∧
        (u = other ∨ stripSuffix u ".service" = some other)) := by
    by_cases hk : k = .unitname
    · subst hk
      obtain ⟨u, hu, hother⟩ := exists_unit_separating h
      refine ⟨some u, fun v' hv' => ⟨u, rfl, ?_⟩, fun _ => ?_⟩
      · rw [hlast, Option.some.injEq] at hv'
        exact hv' ▸ hu
      · rintro ⟨u', hu', hbears⟩
        cases hu'
        exact hother hbears
    · exact ⟨lastValue .unitname cs, fun v' hv' => ⟨v', hv', Or.inl rfl⟩, fun hk' => absurd hk' hk⟩
  obtain ⟨unit, hbears, hother⟩ := hunit
  -- ids 0 belong to the last user and the last group only
  refine ⟨⟨fun user => if lastValue .user cs = some user then some 0 else none,
      fun group => if lastValue .group cs = some group then some 0 else none⟩,
    ⟨0, 0, lastValue .bin cs, lastValue .unitpath cs, unit⟩, fun k' v' hv' => ?_, ?_⟩
  · cases k' with
    | user => simp [Holds, hv']
    | group => simp [Holds, hv']
    | bin => exact hv'
    | unitpath => exact hv'
    | unitname => exact hbears v' hv'
  · cases k with
    | user => simp [Holds, hlast, h]
    | group => simp [Holds, hlast, h]
    | bin => simp [Holds, hlast, h]
    | unitpath => simp [Holds, hlast, h]
    | unitname => exact hother rfl

/-- For a string without empty values, a process is a candidate exactly when it has every
attribute the string writes, if and only if components of one kind have one value. -/
theorem candidate_iff_components_iff {policy : IdentityPolicy} {sel : SelectorConfig}
    {cs : List Component} (hsel : policy.parseSelector = .ok sel)
    (hcs : components policy.selector = some cs) (hne : ∀ c ∈ cs, c.value ≠ "") :
    (∀ db proc, (candidate db proc sel).isSome ↔ ∀ c ∈ cs, Holds db proc c.kind c.value) ↔
      ∀ c ∈ cs, ∀ d ∈ cs, c.kind = d.kind → c.value = d.value := by
  obtain ⟨cs', hcs', -, rfl⟩ := (parseSelector_eq_ok_iff policy sel).mp hsel
  rw [hcs, Option.some.injEq] at hcs'
  subst hcs'
  constructor
  · intro h
    -- a component that is not the last of its kind is dropped, and some process shows it
    have hlast : ∀ c ∈ cs, lastValue c.kind cs = some c.value := by
      intro c hc
      obtain ⟨v, hv⟩ := exists_lastValue_of_mem hc
      by_contra hdropped
      have hne' : v ≠ c.value := by
        rintro rfl
        exact hdropped hv
      obtain ⟨db, proc, hholds, hnot⟩ := exists_process_separating hv hne'
      refine hnot ((h db proc).mp ?_ c hc)
      rw [candidate_ofComponents_iff]
      exact fun k' v' hv' => (accepts_iff k' v').mpr (Or.inl (hholds k' v' hv'))
    intro c hc d hd hkind
    have hvalue := hlast c hc
    rw [hkind, hlast d hd, Option.some.injEq] at hvalue
    exact hvalue.symm
  · intro hagree db proc
    rw [candidate_ofComponents_iff]
    constructor
    · intro h c hc
      obtain ⟨v, hv⟩ := exists_lastValue_of_mem hc
      have hvalue : c.value = v := hagree c hc ⟨c.kind, v⟩ (mem_of_lastValue hv) rfl
      rw [← accepts_iff_holds (hne c hc), hvalue]
      exact h c.kind v hv
    · intro h k v hv
      have hmem := mem_of_lastValue hv
      exact (accepts_iff_holds (hne _ hmem)).mpr (h _ hmem)

/-- A selector whose components of one kind agree, and a process that meets all but the path. -/
theorem candidate_iff_components_iff_anchored_path :
    let db : UserDb := ⟨fun _ => some 33, fun _ => some 33⟩
    let proc : Process := ⟨33, 33, some "/bin/sh", none, none⟩
    (candidate db proc ⟨some ⟨some "www", some "www", some "/bin/web"⟩, none⟩).isSome ↔
      ∀ c ∈ [⟨.user, "www"⟩, ⟨.group, "www"⟩, (⟨.bin, "/bin/web"⟩ : Component)],
        Holds db proc c.kind c.value :=
  (candidate_iff_components_iff
    (by rfl : IdentityPolicy.parseSelector
      ⟨"unix:user:www, unix:group:www, unix:bin:/bin/web", 60⟩ = .ok _)
    (by rfl) (by decide)).mpr (by decide) _ _

/-- Of two users in a selector only the second is looked at: user `www` is written and dropped. -/
theorem candidate_drops_component :
    ¬∀ (policy : IdentityPolicy) (sel : SelectorConfig) (cs : List Component),
      policy.parseSelector = .ok sel → components policy.selector = some cs →
        (∀ c ∈ cs, c.value ≠ "") → ∀ db proc,
          (candidate db proc sel).isSome ↔ ∀ c ∈ cs, Holds db proc c.kind c.value := by
  intro h
  have hiff := h ⟨"unix:user:www,unix:user:guest", 60⟩ ⟨some ⟨some "guest", none, none⟩, none⟩
    [⟨.user, "www"⟩, ⟨.user, "guest"⟩] (by rfl) (by rfl) (by decide)
    ⟨fun user => if user = "guest" then some 7 else none, fun _ => none⟩
    ⟨7, 7, none, none, none⟩
  have hwww := hiff.mp (by decide) ⟨.user, "www"⟩ (by simp)
  exact absurd hwww (by simp [Holds])

/-! ## Failing closed -/

/-- A selector string writes a constraint that no process meets for free: the last value of some
kind is not the empty unit name. -/
def Anchored (cs : List Component) : Prop :=
  ∃ k v, lastValue k cs = some v ∧ ¬(k = .unitname ∧ v = "")

/-- A process without a path and a unit, whose ids belong to no name, has no attribute a
constraint can name. -/
theorem not_holds_of_bare (uid gid : UInt32) (k : Kind) (v : String) :
    ¬Holds ⟨fun _ => none, fun _ => none⟩ ⟨uid, gid, none, none, none⟩ k v := by
  cases k <;> simp [Holds]

/-- In the map of a VM, a policy has a workload with the constraints of its selector. -/
theorem lookup_of_policy {config : HostConfig} (hacc : config.Accepted) {vmName : String}
    {vm : VmEntry} (hvm : config.vms.lookup vmName = some vm)
    {built : HashMap WorkloadConfig} (hbuild : buildWorkloads vm.identities = .ok built)
    {identity : String} {policy : IdentityPolicy} {cs : List Component}
    (hpolicy : vm.identities.lookup identity = some policy)
    (hcs : components policy.selector = some cs) :
    built.lookup identity = some ⟨.ofComponents cs, policy.ttlMinutes * 60⟩ := by
  obtain ⟨sel, hsel⟩ := ((accepted_iff config).mp hacc).2 vmName vm hvm identity policy hpolicy
  obtain ⟨cs', hcs', -, heq⟩ := (parseSelector_eq_ok_iff policy sel).mp hsel
  rw [hcs, Option.some.injEq] at hcs'
  rw [hcs', ← heq]
  exact (lookup_buildWorkloads hbuild identity _).mpr ⟨policy, sel, hpolicy, hsel, rfl⟩

/-- A workload of a VM's map was built from a policy. -/
theorem exists_policy_of_lookup {identities : HashMap IdentityPolicy}
    {built : HashMap WorkloadConfig} (hbuild : buildWorkloads identities = .ok built)
    {name : String} {workload : WorkloadConfig} (h : built.lookup name = some workload) :
    ∃ policy cs, identities.lookup name = some policy ∧ components policy.selector = some cs ∧
      workload.selector = .ofComponents cs := by
  obtain ⟨policy, sel, hpolicy, hsel, rfl⟩ := (lookup_buildWorkloads hbuild _ _).mp h
  obtain ⟨cs, hcs, -, rfl⟩ := (parseSelector_eq_ok_iff policy sel).mp hsel
  exact ⟨policy, cs, hpolicy, hcs, rfl⟩

/-- In every map a VM can be sent, each match rests on a constraint that holds, if and only if
every selector of the VM is anchored. -/
theorem attestation_fails_closed_iff {config : HostConfig} (hacc : config.Accepted)
    {vmName : String} {vm : VmEntry} (hvm : config.vms.lookup vmName = some vm)
    {built : HashMap WorkloadConfig} (hbuild : buildWorkloads vm.identities = .ok built) :
    (∀ workloads : HashMap WorkloadConfig, workloads.entries.Perm built.entries →
      ∀ db proc name, matchWorkload db proc workloads = some name →
        ∃ workload k v, workloads.lookup name = some workload ∧
          workload.selector.value k = some v ∧ Holds db proc k v) ↔
      ∀ identity policy cs, vm.identities.lookup identity = some policy →
        components policy.selector = some cs → Anchored cs := by
  constructor
  · intro h identity policy cs hpolicy hcs
    by_contra hfree
    -- a process with no attributes matches this selector, so the agent returns some workload
    have hlookup := lookup_of_policy hacc hvm hbuild hpolicy hcs
    have hmatch : Matches ⟨fun _ => none, fun _ => none⟩ ⟨0, 0, none, none, none⟩
        (.ofComponents cs) := by
      intro k v hv
      rw [value_ofComponents] at hv
      by_cases hkv : k = .unitname ∧ v = ""
      · exact (accepts_iff k v).mpr (Or.inr ⟨hkv.1, hkv.2, rfl⟩)
      · exact absurd ⟨k, v, hv, hkv⟩ hfree
    rcases hresult : matchWorkload ⟨fun _ => none, fun _ => none⟩ ⟨0, 0, none, none, none⟩ built
      with _ | name
    · exact (matchWorkload_eq_none_iff built).mp hresult identity _ hlookup hmatch
    · obtain ⟨workload, k, v, -, -, hholds⟩ := h built (List.Perm.refl _) _ _ name hresult
      exact not_holds_of_bare 0 0 k v hholds
  · intro hanchored workloads hperm db proc name hname
    -- the workload returned was built from a policy, whose selector is anchored
    obtain ⟨workload, hlookup, hmatch, -⟩ := matchWorkload_eq_some hname
    have hbuilt : built.lookup name = some workload := by
      rw [← AList.perm_lookup hperm, hlookup]
    obtain ⟨policy, cs, hpolicy, hcs, hsel⟩ := exists_policy_of_lookup hbuild hbuilt
    obtain ⟨k, v, hv, hkv⟩ := hanchored name policy cs hpolicy hcs
    have hvalue : workload.selector.value k = some v := by rw [hsel, value_ofComponents, hv]
    refine ⟨_, k, v, hlookup, hvalue, ?_⟩
    have haccepts := hmatch k v hvalue
    rcases (accepts_iff k v).mp haccepts with hholds | ⟨hk, hempty, -⟩
    · exact hholds
    · exact absurd ⟨hk, hempty⟩ hkv

/-- A VM whose only selector names a user. -/
theorem attestation_fails_closed_single :
    let workloads : HashMap WorkloadConfig :=
      AList.singleton "web" ⟨⟨some ⟨some "www", none, none⟩, none⟩, 3600⟩
    ∀ db proc name, matchWorkload db proc workloads = some name →
      ∃ workload k v, workloads.lookup name = some workload ∧
        workload.selector.value k = some v ∧ Holds db proc k v := by
  intro workloads
  refine (attestation_fails_closed_iff
    (accepted_single "vm-a" 3 "web" (by rfl : IdentityPolicy.parseSelector ⟨"unix:user:www", 60⟩ =
      .ok ⟨some ⟨some "www", none, none⟩, none⟩))
    (registers_single "vm-a" 3 "web" ⟨"unix:user:www", 60⟩).1 (by rfl)).mpr ?_ _ (List.Perm.refl _)
  intro identity policy cs hpolicy hcs
  obtain ⟨-, rfl⟩ := (HashMap.lookup_singleton_eq_some_iff _ _ _ _).mp hpolicy
  have hwww : components "unix:user:www" = some [⟨.user, "www"⟩] := by rfl
  rw [hwww, Option.some.injEq] at hcs
  subst hcs
  exact ⟨.user, "www", by decide, by decide⟩

/-- An empty selector is accepted and matches a process no constraint was checked of. -/
theorem attestation_fails_open :
    ¬∀ (config : HostConfig) (vmName : String) (vm : VmEntry)
      (built workloads : HashMap WorkloadConfig) (db : UserDb) (proc : Process) (name : String),
      config.Accepted → config.vms.lookup vmName = some vm →
        buildWorkloads vm.identities = .ok built →
          workloads.entries.Perm built.entries → matchWorkload db proc workloads = some name →
            ∃ workload k v, workloads.lookup name = some workload ∧
              workload.selector.value k = some v ∧ Holds db proc k v := by
  intro h
  obtain ⟨workload, k, v, -, -, hholds⟩ := h (.single "vm-a" 3 "web" ⟨"", 60⟩) "vm-a" _
    (AList.singleton "web" ⟨⟨none, none⟩, 3600⟩) (AList.singleton "web" ⟨⟨none, none⟩, 3600⟩)
    ⟨fun _ => none, fun _ => none⟩ ⟨1000, 1000, none, none, none⟩ "web"
    (accepted_single "vm-a" 3 "web"
      (by rfl : IdentityPolicy.parseSelector ⟨"", 60⟩ = .ok ⟨none, none⟩))
    (registers_single "vm-a" 3 "web" ⟨"", 60⟩).1 (by rfl) (List.Perm.refl _) (by decide)
  exact not_holds_of_bare 1000 1000 k v hholds

/-! ## Processes without a unit -/

/-- The systemd part of a selector string is nothing but an empty unit name. -/
def EmptyUnit (cs : List Component) : Prop :=
  lastValue .unitname cs = some "" ∧ lastValue .unitpath cs = none

/-- A systemd constraint that a process without a unit is taken to meet is an empty unit name
alone. -/
theorem emptyUnit_of_matches {cs : List Component} (hpath : proc.unitpath = none)
    (hname : proc.unitname = none) (hmatch : Matches db proc (.ofComponents cs))
    (hsystemd : (SelectorConfig.ofComponents cs).constrains .unitpath ∨
      (SelectorConfig.ofComponents cs).constrains .unitname) : EmptyUnit cs := by
  simp only [Matches, SelectorConfig.constrains, value_ofComponents] at hmatch hsystemd
  have hnone : lastValue .unitpath cs = none := by
    by_contra hsome
    obtain ⟨v, hv⟩ := Option.ne_none_iff_exists'.mp hsome
    have haccepts := hmatch .unitpath v hv
    simp [accepts, hpath] at haccepts
  rw [hnone] at hsystemd
  obtain ⟨v, hv⟩ := Option.isSome_iff_exists.mp (hsystemd.resolve_left (by simp))
  -- the name is compared with that of no unit
  rcases (accepts_iff .unitname v).mp (hmatch .unitname v hv) with hholds | ⟨-, rfl, -⟩
  · simp [Holds, hname] at hholds
  · exact ⟨hv, hnone⟩

/-- A process that meets every constraint of a selector string with an empty unit. -/
theorem exists_process_emptyUnit {cs : List Component} (h : EmptyUnit cs) :
    ∃ db proc, proc.unitpath = none ∧ proc.unitname = none ∧
      Matches db proc (.ofComponents cs) := by
  refine ⟨⟨fun _ => some 0, fun _ => some 0⟩, ⟨0, 0, lastValue .bin cs, none, none⟩, rfl, rfl,
    fun k v hv => ?_⟩
  rw [value_ofComponents] at hv
  cases k with
  | user => rfl
  | group => rfl
  | bin => simp [accepts, hv]
  | unitpath => simp [h.2] at hv
  | unitname =>
    rw [h.1, Option.some.injEq] at hv
    subst hv
    exact (accepts_iff .unitname "").mpr (Or.inr ⟨rfl, rfl, rfl⟩)

/-- In every map a VM can be sent, no workload with a systemd constraint is a candidate for a
process without a unit, and no candidate has the systemd priority, if and only if no selector of the
VM has an empty unit name for its only systemd constraint. -/
theorem unitless_not_candidate_iff {config : HostConfig} (hacc : config.Accepted)
    {vmName : String} {vm : VmEntry} (hvm : config.vms.lookup vmName = some vm)
    {built : HashMap WorkloadConfig} (hbuild : buildWorkloads vm.identities = .ok built) :
    (∀ workloads : HashMap WorkloadConfig, workloads.entries.Perm built.entries →
      ∀ db proc, proc.unitpath = none → proc.unitname = none →
        (∀ name workload, workloads.lookup name = some workload →
          (workload.selector.constrains .unitpath ∨ workload.selector.constrains .unitname) →
            candidate db proc workload.selector = none) ∧
        ∀ c ∈ candidates db proc workloads, c.1 < 100) ↔
      ∀ identity policy cs, vm.identities.lookup identity = some policy →
        components policy.selector = some cs → ¬EmptyUnit cs := by
  constructor
  · intro h identity policy cs hpolicy hcs hempty
    have hlookup := lookup_of_policy hacc hvm hbuild hpolicy hcs
    -- some process without a unit is a candidate for this workload
    obtain ⟨db, proc, hpath, hname, hmatch⟩ := exists_process_emptyUnit hempty
    have hsystemd : (SelectorConfig.ofComponents cs).constrains .unitname := by
      rw [SelectorConfig.constrains, value_ofComponents, hempty.1]
      rfl
    have hcand := (h built (List.Perm.refl _) db proc hpath hname).1 identity _ hlookup
      (Or.inr hsystemd)
    rw [(candidate_eq_some_iff _ _).mpr ⟨hmatch, rfl⟩] at hcand
    cases hcand
  · intro hnone workloads hperm db proc hpath hname
    -- a workload of the map was built from a policy, whose selector is no empty unit
    have hunmatched : ∀ name workload, workloads.lookup name = some workload →
        (workload.selector.constrains .unitpath ∨ workload.selector.constrains .unitname) →
          ¬Matches db proc workload.selector := by
      intro name workload hlookup hsystemd hmatch
      rw [AList.perm_lookup hperm] at hlookup
      obtain ⟨policy, cs, hpolicy, hcs, hsel⟩ := exists_policy_of_lookup hbuild hlookup
      rw [hsel] at hsystemd hmatch
      exact hnone name policy cs hpolicy hcs (emptyUnit_of_matches hpath hname hmatch hsystemd)
    constructor
    · intro name workload hlookup hsystemd
      rw [Option.eq_none_iff_forall_ne_some]
      intro n hcand
      exact hunmatched name workload hlookup hsystemd ((candidate_eq_some_iff _ _).mp hcand).1
    · rintro ⟨n, name⟩ hc
      obtain ⟨workload, hlookup, hmatch, rfl⟩ := (mem_candidates_iff _ _ _).mp hc
      have hsystemd := mt (hunmatched name workload hlookup) (not_not.mpr hmatch)
      rw [not_or, Bool.not_eq_true, Bool.not_eq_true] at hsystemd
      simp only [selectorScore, hsystemd.1, hsystemd.2, Bool.or_self, Bool.false_eq_true, if_false]
      split_ifs <;> omega

/-- A VM whose only selector names a unit. -/
theorem unitless_not_candidate_web :
    let workloads : HashMap WorkloadConfig :=
      AList.singleton "web" ⟨⟨none, some ⟨none, some "web"⟩⟩, 3600⟩
    ∀ db proc, proc.unitpath = none → proc.unitname = none →
      ∀ c ∈ candidates db proc workloads, c.1 < 100 := by
  intro workloads db proc hpath hname
  refine ((unitless_not_candidate_iff
    (accepted_single "vm-a" 3 "web" (by rfl : IdentityPolicy.parseSelector
      ⟨"systemd:unitname:web", 60⟩ = .ok ⟨none, some ⟨none, some "web"⟩⟩))
    (registers_single "vm-a" 3 "web" ⟨"systemd:unitname:web", 60⟩).1 (by rfl)).mpr ?_
    workloads (List.Perm.refl _) db proc hpath hname).2
  intro identity policy cs hpolicy hcs
  obtain ⟨-, rfl⟩ := (HashMap.lookup_singleton_eq_some_iff _ _ _ _).mp hpolicy
  have hunit : components "systemd:unitname:web" = some [⟨.unitname, "web"⟩] := by rfl
  rw [hunit, Option.some.injEq] at hcs
  subst hcs
  exact fun h => absurd h.1 (by decide)

/-- An empty unit name is accepted, and by it a process without a unit is a candidate. -/
theorem unitless_is_candidate :
    ¬∀ (config : HostConfig) (vmName : String) (vm : VmEntry)
      (built workloads : HashMap WorkloadConfig) (db : UserDb) (proc : Process) (name : String)
      (workload : WorkloadConfig), config.Accepted → config.vms.lookup vmName = some vm →
        buildWorkloads vm.identities = .ok built → workloads.entries.Perm built.entries →
          proc.unitpath = none → proc.unitname = none →
            workloads.lookup name = some workload →
              (workload.selector.constrains .unitpath ∨
                workload.selector.constrains .unitname) →
                candidate db proc workload.selector = none := by
  intro h
  let workloads : HashMap WorkloadConfig :=
    AList.singleton "web" ⟨⟨none, some ⟨none, some ""⟩⟩, 3600⟩
  have hnone := h (.single "vm-a" 3 "web" ⟨"systemd:unitname:", 60⟩) "vm-a" _ workloads workloads
    ⟨fun _ => none, fun _ => none⟩ ⟨1000, 1000, none, none, none⟩ "web" _
    (accepted_single "vm-a" 3 "web" (by rfl : IdentityPolicy.parseSelector
      ⟨"systemd:unitname:", 60⟩ = .ok ⟨none, some ⟨none, some ""⟩⟩))
    (registers_single "vm-a" 3 "web" ⟨"systemd:unitname:", 60⟩).1 (by rfl) (List.Perm.refl _) rfl
    rfl
    ((HashMap.lookup_singleton_eq_some_iff _ _ _ _).mpr ⟨rfl, rfl⟩) (Or.inr rfl)
  exact absurd hnone (by decide)

end AuthnScope
