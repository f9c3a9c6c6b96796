import Mathlib.Data.List.Sort

/-!
# Taking the best of a list by a stable descending sort

`top score l` sorts `l` stably by descending score and takes the first element. It is an element
of maximal score; among several it is the one that comes first in the list, so it depends on the
order of the list exactly when the maximum is attained more than once.

## Main results

* `top_eq_none_iff`, `top_mem`, `le_score_top`: existence and maximality;
* `top_cons_of_max`: the head wins if its score is maximal;
* `top_eq_of_perm`: with a unique maximum the order does not matter.
-/

namespace Ranking

variable {α β : Type} [LinearOrder β] (score : α → β)

/-- Stable sort by descending score. -/
def sortDesc (l : List α) : List α := l.insertionSort fun a b => score b ≤ score a

/-- The first element of the sorted list. -/
def top (l : List α) : Option α := (sortDesc score l).head?

variable {score}

theorem top_eq_none_iff (l : List α) : top score l = none ↔ l = [] := by
  rw [top, List.head?_eq_none_iff, sortDesc, ← List.length_eq_zero_iff, List.length_insertionSort,
    List.length_eq_zero_iff]

theorem top_mem {l : List α} {a : α} (h : top score l = some a) : a ∈ l := by
  have hmem : a ∈ sortDesc score l := List.mem_of_mem_head? (by rw [← top, h]; rfl)
  rwa [sortDesc, List.mem_insertionSort] at hmem

/-- No element scores higher than the top one. -/
theorem le_score_top {l : List α} {a : α} (h : top score l = some a) :
    ∀ b ∈ l, score b ≤ score a := by
  intro b hb
  have : Std.Total fun a b : α => score b ≤ score a := ⟨fun a b => le_total (score b) (score a)⟩
  have : IsTrans α fun a b => score b ≤ score a := ⟨fun a b c hab hbc => hbc.trans hab⟩
  -- the sorted list is pairwise ordered, so its head is above the tail
  have hsorted := List.pairwise_insertionSort (fun a b : α => score b ≤ score a) l
  obtain ⟨tail, htail⟩ := List.head?_eq_some_iff.mp h
  rw [sortDesc] at htail
  rw [htail, List.pairwise_cons] at hsorted
  have hb' : b ∈ a :: tail := by rwa [← htail, List.mem_insertionSort]
  rcases List.mem_cons.mp hb' with rfl | hb'
  · exact le_rfl
  · exact hsorted.1 b hb'

/-- The first element of a list is the top one if nothing scores higher. -/
theorem top_cons_of_max {l : List α} {a : α} (h : ∀ b ∈ l, score b ≤ score a) :
    top score (a :: l) = some a := by
  rw [top, sortDesc, List.insertionSort_cons_of_forall_rel _ h, List.head?_cons]

/-- With a unique maximum, the order of the list does not matter. -/
theorem top_eq_of_perm {l l' : List α} (hperm : l.Perm l')
    (hunique : ∀ a ∈ l, ∀ b ∈ l, (∀ c ∈ l, score c ≤ score a) → (∀ c ∈ l, score c ≤ score b) →
      a = b) : top score l = top score l' := by
  cases h : top score l with
  | none =>
    have hnil := (top_eq_none_iff l).mp h
    subst hnil
    rw [List.nil_perm.mp hperm, eq_comm, top_eq_none_iff]
  | some a =>
    cases h' : top score l' with
    | none =>
      have hnil := (top_eq_none_iff l').mp h'
      rw [hnil, List.perm_nil] at hperm
      rw [hperm] at h
      cases h
    | some b =>
      -- both tops are maximal, and the maximum is unique
      have hmax : ∀ c ∈ l, score c ≤ score b := fun c hc => le_score_top h' c (hperm.mem_iff.mp hc)
      rw [hunique a (top_mem h) b (hperm.mem_iff.mpr (top_mem h')) (le_score_top h) hmax]

end Ranking
