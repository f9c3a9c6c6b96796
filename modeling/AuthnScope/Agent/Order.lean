import AuthnScope.Agent.Attest

/-!
# Attestation and the order of the map

`match_workload` gathers its candidates in the iteration order of a hash map and sorts them by a
score that different selectors can share. The result depends on that order exactly when two
matching workloads share the highest score.

## Main definitions

* `IsBest`: a workload matches and no matching workload scores higher.

## Main results

* `matchWorkload_of_head`: the first entry of a map wins if it is best;
* `matchWorkload_order_independent_iff`: all orders give the same result exactly when at most one
  workload is best;
* `matchWorkload_depends_on_order`: two workloads that are best, and two results.
-/

namespace AuthnScope

variable {db : UserDb} {proc : Process}

/-- The workload matches the process, and no matching workload scores higher. -/
def IsBest (db : UserDb) (proc : Process) (workloads : HashMap WorkloadConfig) (name : String) :
    Prop :=
  ∃ config, workloads.lookup name = some config ∧ Matches db proc config.selector ∧
    ∀ other config', workloads.lookup other = some config' → Matches db proc config'.selector →
      selectorScore config'.selector ≤ selectorScore config.selector

/-- Maps with the same entries have the same bindings. -/
theorem lookup_eq_of_perm {m m' : HashMap WorkloadConfig} (h : m.entries.Perm m'.entries)
    (name : String) : m.lookup name = m'.lookup name :=
  AList.perm_lookup h

/-- Reordering a map reorders its candidates. -/
theorem candidates_perm (db : UserDb) (proc : Process) {m m' : HashMap WorkloadConfig}
    (h : m.entries.Perm m'.entries) :
    (candidates db proc m).Perm (candidates db proc m') :=
  h.filterMap _

/-- A candidate whose score no candidate exceeds is the entry of a best workload. -/
theorem isBest_of_mem_candidates {workloads : HashMap WorkloadConfig} {n : ℕ} {name : String}
    (h : (n, name) ∈ candidates db proc workloads)
    (hmax : ∀ c ∈ candidates db proc workloads, c.1 ≤ n) : IsBest db proc workloads name := by
  obtain ⟨config, hlookup, hmatch, rfl⟩ := (mem_candidates_iff _ _ _).mp h
  refine ⟨config, hlookup, hmatch, fun other config' hlookup' hmatch' => ?_⟩
  exact hmax (_, other) ((mem_candidates_iff _ _ _).mpr ⟨config', hlookup', hmatch', rfl⟩)

/-- A best workload wins when it is the first entry. -/
theorem matchWorkload_of_head {workloads : HashMap WorkloadConfig} {name : String}
    {config : WorkloadConfig} {rest : List (Sigma fun _ : String => WorkloadConfig)}
    (hhead : workloads.entries = ⟨name, config⟩ :: rest)
    (hbest : IsBest db proc workloads name) : matchWorkload db proc workloads = some name := by
  obtain ⟨config', hlookup, hmatch, hmax⟩ := hbest
  -- the head is the only entry of its name
  have hhead' : workloads.lookup name = some config :=
    (HashMap.lookup_eq_some_iff _ _ _).mpr (by rw [hhead]; exact List.mem_cons_self)
  rw [hhead'] at hlookup
  cases hlookup
  have hcand : candidate db proc config.selector = some (selectorScore config.selector) :=
    (candidate_eq_some_iff _ _).mpr ⟨hmatch, rfl⟩
  have hlist : ∃ tail, candidates db proc workloads =
      (selectorScore config.selector, name) :: tail := by
    rw [candidates, hhead, List.filterMap_cons]
    simp only [hcand, Option.map_some]
    exact ⟨_, rfl⟩
  obtain ⟨tail, hlist⟩ := hlist
  -- whatever comes later in the map scores no higher, so the sort leaves the head in front
  have hscore : ∀ c ∈ tail, c.1 ≤ selectorScore config.selector := by
    rintro ⟨n, other⟩ hc
    have hmem : (n, other) ∈ candidates db proc workloads := by
      rw [hlist]
      exact List.mem_cons_of_mem _ hc
    obtain ⟨config', hother, hmatch', rfl⟩ := (mem_candidates_iff _ _ _).mp hmem
    exact hmax other config' hother hmatch'
  rw [matchWorkload, hlist, Ranking.top_cons_of_max hscore, Option.map_some]

/-- Every entry of a map can come first. -/
theorem exists_order_with_head {workloads : HashMap WorkloadConfig} {name : String}
    {config : WorkloadConfig} (h : workloads.lookup name = some config) :
    ∃ m : HashMap WorkloadConfig, m.entries.Perm workloads.entries ∧
      ∃ rest, m.entries = ⟨name, config⟩ :: rest := by
  have hmem := (HashMap.lookup_eq_some_iff _ _ _).mp h
  have hperm := (List.perm_cons_erase hmem).symm
  exact ⟨workloads.reorder _ hperm, hperm, _, rfl⟩

/-- All iteration orders of a map give the same result exactly when at most one workload is
best. -/
theorem matchWorkload_order_independent_iff (db : UserDb) (proc : Process)
    (workloads : HashMap WorkloadConfig) :
    (∀ m₁ m₂ : HashMap WorkloadConfig, m₁.entries.Perm workloads.entries →
        m₂.entries.Perm workloads.entries →
          matchWorkload db proc m₁ = matchWorkload db proc m₂) ↔
      ∀ name name', IsBest db proc workloads name → IsBest db proc workloads name' →
        name = name' := by
  constructor
  · -- put either of two best workloads first
    intro h name name' hbest hbest'
    have hwins : ∀ n, IsBest db proc workloads n → ∃ m : HashMap WorkloadConfig,
        m.entries.Perm workloads.entries ∧ matchWorkload db proc m = some n := by
      rintro n ⟨config, hlookup, hmatch, hmax⟩
      obtain ⟨m, hperm, rest, hhead⟩ := exists_order_with_head hlookup
      refine ⟨m, hperm, matchWorkload_of_head hhead ⟨config, ?_, hmatch, ?_⟩⟩
      · rw [lookup_eq_of_perm hperm, hlookup]
      · intro other config' hother
        rw [lookup_eq_of_perm hperm] at hother
        exact hmax other config' hother
    obtain ⟨m, hperm, hm⟩ := hwins name hbest
    obtain ⟨m', hperm', hm'⟩ := hwins name' hbest'
    have heq := h m m' hperm hperm'
    rw [hm, hm'] at heq
    exact Option.some.inj heq
  · -- with one best workload the sort has a unique first element
    intro h m₁ m₂ hperm₁ hperm₂
    unfold matchWorkload
    have hperm := candidates_perm db proc (hperm₁.trans hperm₂.symm)
    congr 1
    apply Ranking.top_eq_of_perm hperm
    rintro ⟨n, name⟩ hmem ⟨n', name'⟩ hmem' hmax hmax'
    have hn : n = n' := le_antisymm (hmax' _ hmem) (hmax _ hmem')
    have hcand : ∀ {c}, c ∈ candidates db proc m₁ ↔ c ∈ candidates db proc workloads :=
      (candidates_perm db proc hperm₁).mem_iff
    have hname := h name name'
      (isBest_of_mem_candidates (hcand.mp hmem) fun c hc => hmax c (hcand.mpr hc))
      (isBest_of_mem_candidates (hcand.mp hmem') fun c hc => hmax' c (hcand.mpr hc))
    rw [hn, hname]

/-- Two workloads for the same user: the order of the map decides which of them a process of that
user gets. -/
theorem matchWorkload_depends_on_order :
    ¬∀ (db : UserDb) (proc : Process) (m₁ m₂ : HashMap WorkloadConfig),
      m₁.entries.Perm m₂.entries → matchWorkload db proc m₁ = matchWorkload db proc m₂ := by
  intro h
  let web : WorkloadConfig := ⟨⟨some ⟨some "www", none, none⟩, none⟩, 3600⟩
  let m : HashMap WorkloadConfig := AList.insert "front" web (AList.singleton "back" web)
  let m' : HashMap WorkloadConfig := AList.insert "back" web (AList.singleton "front" web)
  have heq := h ⟨fun user => if user = "www" then some 33 else none, fun _ => none⟩
    ⟨33, 33, none, none, none⟩ m m' (List.Perm.swap _ _ _)
  exact absurd heq (by decide)

end AuthnScope
