import AuthnScope.Agent.Order
import Mathlib.Data.Prod.Lex

/-!
# Priority and specificity

`match_workload` ranks its candidates by a sum: 100 for the systemd part of a selector, 10 for its
path, 1 each for its user and its group. The sum orders the candidates as three tiers one after the
other. It does not count constraints, so of two selectors the more specific one can have the same
rank.

## Main definitions

* `SelectorConfig.tier`: the tier of a selector, read off its constraints and ordered
  lexicographically;
* `SelectorConfig.Refines`: a selector has the constraints of another and more;
* `SelectorConfig.RaisedBy`: one of them is more than a second systemd constraint.

## Main results

* `matchWorkload_best`: the workload returned is of the highest tier;
* `matchWorkload_never_coarser_iff`: when a workload is never returned in place of one whose
  selector refines its own.
-/

namespace AuthnScope

variable {db : UserDb} {proc : Process}

/-- The kind belongs to the systemd part. -/
def Kind.isSystemd : Kind → Bool
  | .unitname | .unitpath => true
  | .user | .group | .bin => false

namespace SelectorConfig

/-- What a selector constrains, in the order of precedence: the unit, the path, and how many of
user and group. Of a matching selector this is what matched. -/
def tier (sel : SelectorConfig) : Bool ×ₗ Bool ×ₗ ℕ :=
  toLex (sel.constrains .unitpath || sel.constrains .unitname, toLex (sel.constrains .bin,
    (sel.constrains .user).toNat + (sel.constrains .group).toNat))

/-- The selector has the constraints of the other with the same values, and another one. -/
def Refines (sel other : SelectorConfig) : Prop :=
  (∀ k v, other.value k = some v → sel.value k = some v) ∧
    ∃ k, sel.constrains k ∧ ¬other.constrains k

/-- The selector has a constraint that the other does not have, and not just a second systemd
constraint. -/
def RaisedBy (other sel : SelectorConfig) : Prop :=
  ∃ k, sel.constrains k ∧ ¬other.constrains k ∧
    ¬(k.isSystemd ∧ ∃ k', k'.isSystemd ∧ other.constrains k')

end SelectorConfig

/-! ## Tiers -/

/-- The score as a weighted sum. -/
theorem selectorScore_eq (sel : SelectorConfig) :
    selectorScore sel =
      100 * (sel.constrains .unitpath || sel.constrains .unitname).toNat +
        10 * (sel.constrains .bin).toNat + (sel.constrains .user).toNat +
          (sel.constrains .group).toNat := by
  have hweight : ∀ (n : ℕ) (b : Bool), (if b then n else 0) = n * b.toNat := by
    intro n b
    cases b <;> simp
  simp only [selectorScore, hweight, Nat.one_mul]

/-- The sum orders selectors as the tiers do. -/
theorem selectorScore_le_iff (sel other : SelectorConfig) :
    selectorScore other ≤ selectorScore sel ↔ other.tier ≤ sel.tier := by
  have hle : ∀ b : Bool, b.toNat ≤ 1 := by decide
  -- user and group add at most two, and a path ten
  have huser := hle (sel.constrains .user)
  have hgroup := hle (sel.constrains .group)
  have huser' := hle (other.constrains .user)
  have hgroup' := hle (other.constrains .group)
  simp only [selectorScore_eq, SelectorConfig.tier, Prod.Lex.toLex_le_toLex]
  cases sel.constrains .unitpath || sel.constrains .unitname <;>
    cases other.constrains .unitpath || other.constrains .unitname <;>
      cases sel.constrains .bin <;> cases other.constrains .bin <;>
        simp [Bool.lt_iff] <;> omega

theorem selectorScore_lt_selectorScore_iff (sel other : SelectorConfig) :
    selectorScore other < selectorScore sel ↔ other.tier < sel.tier := by
  rw [← not_le, selectorScore_le_iff, not_le]

/-- The result is `None` exactly when no workload matches. A workload that is returned matches, and
what its selector constrains is lexicographically at least what the selector of any other workload
that matches does. -/
theorem matchWorkload_best (db : UserDb) (proc : Process) (workloads : HashMap WorkloadConfig) :
    (matchWorkload db proc workloads = none ↔
      ∀ name config, workloads.lookup name = some config → ¬Matches db proc config.selector) ∧
    ∀ name, matchWorkload db proc workloads = some name →
      ∃ config, workloads.lookup name = some config ∧ Matches db proc config.selector ∧
        ∀ other config', workloads.lookup other = some config' →
          Matches db proc config'.selector → config'.selector.tier ≤ config.selector.tier := by
  refine ⟨matchWorkload_eq_none_iff workloads, fun name hname => ?_⟩
  obtain ⟨config, hlookup, hmatch, hmax⟩ := matchWorkload_eq_some hname
  refine ⟨config, hlookup, hmatch, fun other config' hother hmatch' => ?_⟩
  rw [← selectorScore_le_iff]
  exact hmax other config' hother hmatch'

/-! ## Specificity -/

/-- A constraint that is new counts, if it is not a second systemd constraint. -/
theorem raisedBy_iff (sel other : SelectorConfig) :
    other.RaisedBy sel ↔
      (sel.constrains .user ∧ ¬other.constrains .user) ∨
      (sel.constrains .group ∧ ¬other.constrains .group) ∨
      (sel.constrains .bin ∧ ¬other.constrains .bin) ∨
      ((sel.constrains .unitpath || sel.constrains .unitname) ∧
        ¬(other.constrains .unitpath || other.constrains .unitname)) := by
  -- a new systemd constraint counts if the other selector has none
  have hsystemd : (∃ k', Kind.isSystemd k' ∧ other.constrains k') ↔
      (other.constrains .unitpath || other.constrains .unitname) := by
    rw [Bool.or_eq_true]
    constructor
    · rintro ⟨k, hk, hother⟩
      cases k with
      | unitpath => exact Or.inl hother
      | unitname => exact Or.inr hother
      | _ => cases hk
    · rintro (h | h)
      · exact ⟨.unitpath, rfl, h⟩
      · exact ⟨.unitname, rfl, h⟩
  unfold SelectorConfig.RaisedBy
  rw [hsystemd]
  constructor
  · rintro ⟨k, hk, hnew, hraise⟩
    cases k with
    | user => exact Or.inl ⟨hk, hnew⟩
    | group => exact Or.inr (Or.inl ⟨hk, hnew⟩)
    | bin => exact Or.inr (Or.inr (Or.inl ⟨hk, hnew⟩))
    | unitpath => exact Or.inr (Or.inr (Or.inr ⟨by simp [hk], fun h => hraise ⟨rfl, h⟩⟩))
    | unitname => exact Or.inr (Or.inr (Or.inr ⟨by simp [hk], fun h => hraise ⟨rfl, h⟩⟩))
  · rintro (⟨hk, hnew⟩ | ⟨hk, hnew⟩ | ⟨hk, hnew⟩ | ⟨hk, hnew⟩)
    · exact ⟨.user, hk, hnew, fun h => by cases h.1⟩
    · exact ⟨.group, hk, hnew, fun h => by cases h.1⟩
    · exact ⟨.bin, hk, hnew, fun h => by cases h.1⟩
    · rw [Bool.or_eq_true] at hk
      rcases hk with hk | hk
      · exact ⟨.unitpath, hk, fun h => hnew (by simp [h]), fun h => hnew h.2⟩
      · exact ⟨.unitname, hk, fun h => hnew (by simp [h]), fun h => hnew h.2⟩

/-- Of two selectors the one with more constraints scores higher exactly when one of them is more
than a second systemd constraint. -/
theorem selectorScore_lt_iff {sel other : SelectorConfig} (h : sel.Refines other) :
    selectorScore other < selectorScore sel ↔ other.RaisedBy sel := by
  -- each kind that the other constrains is constrained
  have hmono : ∀ k, other.constrains k → sel.constrains k := by
    intro k hk
    obtain ⟨v, hv⟩ := Option.isSome_iff_exists.mp hk
    rw [SelectorConfig.constrains, h.1 k v hv]
    rfl
  have hsystemd : (other.constrains .unitpath || other.constrains .unitname) = true →
      (sel.constrains .unitpath || sel.constrains .unitname) = true := by
    simp only [Bool.or_eq_true]
    exact Or.imp (hmono _) (hmono _)
  -- so no summand is smaller, and one is larger where a constraint is new
  have hle : ∀ {b b' : Bool}, (b' = true → b = true) → b'.toNat ≤ b.toNat := by
    intro b b' hb
    cases b' with
    | false => exact Nat.zero_le _
    | true => rw [hb rfl]
  have hlt : ∀ b b' : Bool, (b = true ∧ ¬b' = true) ↔ b'.toNat < b.toNat := by decide
  rw [selectorScore_eq, selectorScore_eq, raisedBy_iff, hlt, hlt, hlt, hlt]
  have huser := hle (hmono .user)
  have hgroup := hle (hmono .group)
  have hbin := hle (hmono .bin)
  have hunit := hle hsystemd
  omega

/-- A workload is returned for some order of the map exactly when it is best. -/
theorem exists_matchWorkload_eq_some_iff (db : UserDb) (proc : Process)
    (workloads : HashMap WorkloadConfig) (name : String) :
    (∃ m : HashMap WorkloadConfig, m.entries.Perm workloads.entries ∧
      matchWorkload db proc m = some name) ↔ IsBest db proc workloads name := by
  constructor
  · rintro ⟨m, hperm, hm⟩
    obtain ⟨config, hlookup, hmatch, hmax⟩ := matchWorkload_eq_some hm
    simp only [lookup_eq_of_perm hperm] at hlookup hmax
    exact ⟨config, hlookup, hmatch, hmax⟩
  · rintro ⟨config, hlookup, hmatch, hmax⟩
    obtain ⟨m, hperm, rest, hhead⟩ := exists_order_with_head hlookup
    simp only [← lookup_eq_of_perm hperm] at hlookup hmax
    exact ⟨m, hperm, matchWorkload_of_head hhead ⟨config, hlookup, hmatch, hmax⟩⟩

/-- Where a workload matches and its selector refines that of another, the other one is returned for
no order of the map, if and only if the refinement is more than a second systemd constraint, or a
third workload is of a higher tier. -/
theorem matchWorkload_never_coarser_iff {workloads : HashMap WorkloadConfig} {fine coarse : String}
    {config config' : WorkloadConfig} (hfine : workloads.lookup fine = some config)
    (hcoarse : workloads.lookup coarse = some config')
    (hmatch : Matches db proc config.selector) (hmatch' : Matches db proc config'.selector)
    (hrefines : config.selector.Refines config'.selector) :
    (∀ m : HashMap WorkloadConfig, m.entries.Perm workloads.entries →
        matchWorkload db proc m ≠ some coarse) ↔
      config'.selector.RaisedBy config.selector ∨
        ∃ other config'', workloads.lookup other = some config'' ∧
          Matches db proc config''.selector ∧
          config'.selector.tier < config''.selector.tier := by
  have hnever : (∀ m : HashMap WorkloadConfig, m.entries.Perm workloads.entries →
      matchWorkload db proc m ≠ some coarse) ↔ ¬IsBest db proc workloads coarse := by
    rw [← exists_matchWorkload_eq_some_iff]
    simp only [not_exists, not_and, ne_eq]
  rw [hnever]
  constructor
  · intro hbest
    by_contra hnone
    rw [not_or] at hnone
    refine hbest ⟨config', hcoarse, hmatch', fun other config'' hother hmatch'' => ?_⟩
    by_contra hless
    exact hnone.2 ⟨other, config'', hother, hmatch'',
      (selectorScore_lt_selectorScore_iff _ _).mp (not_le.mp hless)⟩
  · -- the workload that is ranked higher is the refined one, or the third one
    rintro hhigher ⟨best, hbest, -, hmax⟩
    rw [hcoarse, Option.some.injEq] at hbest
    subst hbest
    rcases hhigher with hraised | ⟨other, config'', hother, hmatch'', htier⟩
    · exact absurd (hmax fine config hfine hmatch)
        (not_le.mpr ((selectorScore_lt_iff hrefines).mpr hraised))
    · exact absurd (hmax other config'' hother hmatch'')
        (not_le.mpr ((selectorScore_lt_selectorScore_iff _ _).mpr htier))

/-- A workload of a user and a group, beside one of the user. -/
theorem matchWorkload_never_coarser_group :
    let admin : WorkloadConfig := ⟨⟨some ⟨some "www", some "adm", none⟩, none⟩, 3600⟩
    let web : WorkloadConfig := ⟨⟨some ⟨some "www", none, none⟩, none⟩, 3600⟩
    let workloads : HashMap WorkloadConfig :=
      AList.insert "admin" admin (AList.singleton "web" web)
    ∀ m : HashMap WorkloadConfig, m.entries.Perm workloads.entries →
      matchWorkload ⟨fun _ => some 33, fun _ => some 4⟩ ⟨33, 4, none, none, none⟩ m ≠
        some "web" := by
  intro admin web workloads
  have hfine : workloads.lookup "admin" = some admin := by rfl
  have hcoarse : workloads.lookup "web" = some web := by rfl
  refine (matchWorkload_never_coarser_iff hfine hcoarse ?_ ?_
    ⟨?_, .group, by decide, by decide⟩).mpr
      (Or.inl ⟨.group, by decide, by decide, by simp [Kind.isSystemd]⟩)
  · exact ((candidate_eq_some_iff _ 2).mp (by decide)).1
  · exact ((candidate_eq_some_iff _ 1).mp (by decide)).1
  · intro k v hv
    cases k with
    | user => exact hv
    | _ => cases hv

/-- A unit name beside a unit path does not count: a workload that has both can lose to one that has
the path. -/
theorem matchWorkload_returns_coarser :
    ¬∀ (db : UserDb) (proc : Process) (workloads : HashMap WorkloadConfig) (fine coarse : String)
      (config config' : WorkloadConfig), workloads.lookup fine = some config →
        workloads.lookup coarse = some config' → Matches db proc config.selector →
          Matches db proc config'.selector → config.selector.Refines config'.selector →
            matchWorkload db proc workloads ≠ some coarse := by
  intro h
  let path := "/system.slice/web.service"
  let workloads : HashMap WorkloadConfig :=
    AList.insert "any" ⟨⟨none, some ⟨some path, none⟩⟩, 3600⟩
      (AList.singleton "web" ⟨⟨none, some ⟨some path, some "web"⟩⟩, 3600⟩)
  refine h ⟨fun _ => none, fun _ => none⟩ ⟨33, 33, none, some path, some "web.service"⟩ workloads
    "web" "any" _ _ (by rfl) (by rfl) ?_ ?_ ⟨?_, .unitname, by decide, by decide⟩ (by decide)
  · exact ((candidate_eq_some_iff _ 100).mp (by decide)).1
  · exact ((candidate_eq_some_iff _ 100).mp (by decide)).1
  · intro k v hv
    cases k with
    | unitpath => exact hv
    | _ => cases hv

end AuthnScope
