import AuthnScope.Lib.Run
import Mathlib

/-!
# Potentials of a guarded step function

What a run costs is paid out of a potential: a state has some of it, an action brings some and
takes some, and what a run takes is bounded by what the state has and the actions bring. The
potential of a family of parts, of which finitely many are there, is the sum of theirs.

## Main definitions

* `Pays`: every action pays its cost out of the potential of the state and what it brings;
* `Total`: what the parts of a family weigh together.

## Main results

* `Pays.run`: a run pays for its actions;
* `Pays.countP_le`: how often a run takes actions that cost something;
* `Total.update`: a part that is replaced or new.
-/

namespace Transition

variable {σ α : Type} {step : σ → α → Option σ} {s t : σ} {as : List α} {a : α}

/-- From a state with the potential `n`, each action leads to one with as much as is left when its
cost is paid out of `n` and what it brings. -/
def Pays (step : σ → α → Option σ) (P : σ → ℕ → Prop) (cost gain : α → ℕ) : Prop :=
  ∀ s a t n, step s a = some t → P s n → ∃ m, P t m ∧ m + cost a ≤ n + gain a

namespace Pays

variable {P : σ → ℕ → Prop} {cost gain : α → ℕ} {n : ℕ}

/-- A run pays for its actions. -/
theorem run (h : Pays step P cost gain) (hs : P s n) (hrun : run step s as = some t) :
    ∃ m, P t m ∧ m + (as.map cost).sum ≤ n + (as.map gain).sum := by
  refine run_induction
    (P := fun as t => ∃ m, P t m ∧ m + (as.map cost).sum ≤ n + (as.map gain).sum)
    ⟨n, hs, Nat.le_refl _⟩ ?_ as t hrun
  rintro as t a t' - hstep ⟨m, ht, hle⟩
  obtain ⟨m', ht', hle'⟩ := h t a t' m hstep ht
  refine ⟨m', ht', ?_⟩
  -- the last action pays out of what the ones before it have left
  rw [List.map_append, List.map_append, List.sum_append, List.sum_append, List.map_singleton,
    List.map_singleton, List.sum_singleton, List.sum_singleton]
  omega

/-- The costs of the actions, counted. -/
theorem countP_le_sum {p : α → Bool} (hp : ∀ a ∈ as, p a → 1 ≤ cost a) :
    as.countP p ≤ (as.map cost).sum := by
  induction as with
  | nil => exact Nat.le_refl _
  | cons a as ih =>
    have hrest := ih fun b hb => hp b (List.mem_cons_of_mem a hb)
    have ha := hp a List.mem_cons_self
    rw [List.countP_cons, List.map_cons, List.sum_cons]
    split
    · have := ha ‹_›
      omega
    · omega

/-- What the actions bring, counted. -/
theorem sum_le_mul_countP {q : α → Bool} {c : ℕ}
    (hq : ∀ a ∈ as, gain a ≤ if q a then c else 0) :
    (as.map gain).sum ≤ c * as.countP q := by
  induction as with
  | nil => exact Nat.le_refl _
  | cons a as ih =>
    have hrest := ih fun b hb => hq b (List.mem_cons_of_mem a hb)
    have ha := hq a List.mem_cons_self
    rw [List.countP_cons, List.map_cons, List.sum_cons, Nat.mul_add]
    split at ha
    · rw [if_pos ‹_›]
      omega
    · rw [if_neg ‹_›]
      omega

/-- A run takes the actions that cost something at most as often as its potential, and what the
actions bring, allow. -/
theorem countP_le (h : Pays step P cost gain) (hs : P s n)
    (hrun : Transition.run step s as = some t) {p q : α → Bool} {c : ℕ}
    (hp : ∀ a ∈ as, p a → 1 ≤ cost a) (hq : ∀ a ∈ as, gain a ≤ if q a then c else 0) :
    as.countP p ≤ n + c * as.countP q := by
  obtain ⟨m, -, hle⟩ := h.run hs hrun
  have hcost := countP_le_sum hp
  have hgain := sum_le_mul_countP hq
  omega

end Pays

/-! ## Families -/

section

variable {ι τ : Type} {weight : τ → ℕ} {parts : ι → Option τ} {n : ℕ}

/-- Finitely many parts of the family are there, and they weigh `n` together. -/
def Total (weight : τ → ℕ) (parts : ι → Option τ) (n : ℕ) : Prop :=
  ∃ ids : Finset ι, (∀ i ∉ ids, parts i = none) ∧ n = ∑ i ∈ ids, (parts i).elim 0 weight

theorem total_empty (weight : τ → ℕ) : Total weight (fun _ : ι => none) 0 :=
  ⟨∅, fun _ _ => rfl, rfl⟩

/-- A part is replaced, or a new one is there. -/
theorem Total.update [DecidableEq ι] (h : Total weight parts n) (i : ι) (part : τ) :
    ∃ m, Total weight (Function.update parts i (some part)) m ∧
      m + (parts i).elim 0 weight = n + weight part := by
  obtain ⟨ids, hids, rfl⟩ := h
  have herase : ∀ f : ι → Option τ, (∀ j ≠ i, f j = parts j) →
      ∑ j ∈ insert i ids, (f j).elim 0 weight =
        (f i).elim 0 weight + ∑ j ∈ ids.erase i, (parts j).elim 0 weight := by
    intro f hf
    rw [← Finset.insert_erase (Finset.mem_insert_self i ids), Finset.erase_insert_eq_erase,
      Finset.sum_insert (Finset.notMem_erase i ids)]
    exact congrArg _ (Finset.sum_congr rfl fun j hj => by rw [hf j (Finset.ne_of_mem_erase hj)])
  -- the other parts weigh what they did
  have hold : ∑ j ∈ ids, (parts j).elim 0 weight =
      ∑ j ∈ insert i ids, (parts j).elim 0 weight := by
    refine Finset.sum_subset (Finset.subset_insert i ids) fun j _ hj => ?_
    rw [hids j hj]
    rfl
  refine ⟨_, ⟨insert i ids, fun j hj => ?_, rfl⟩, ?_⟩
  · rw [Finset.mem_insert, not_or] at hj
    rw [Function.update_of_ne hj.1, hids j hj.2]
  · rw [hold, herase _ fun j hj => Function.update_of_ne hj _ _, herase parts fun _ _ => rfl,
      Function.update_self]
    show weight part + _ + _ = _
    omega

end

end Transition
