import Mathlib.Logic.Function.Basic
import Mathlib.Tactic.Common

/-!
# Locks and the guards in scope

A lock is held through a guard, and a guard lives as long as it is in scope: a thread that waits at
some point of its code holds the locks whose guards are in scope there. A table records who holds
each lock. It agrees with the guards of the threads when a thread goes from one point to the next
taking only locks that are free, and then no two threads hold the same lock.

## Main definitions

* `Table`, `Table.retain`: the table, and its update when a thread goes on;
* `Table.Agrees`: the table says what the scopes say.

## Main results

* `Table.Agrees.retain`: agreement survives a thread going on;
* `Table.Agrees.unique`: mutual exclusion.
-/

namespace Locks

variable {L ι : Type}

/-- Who holds each lock. -/
abbrev Table (L ι : Type) := L → Option ι

namespace Table

/-- All locks are free. -/
def free : Table L ι := fun _ => none

/-- The thread `i` goes on to a point where the guards of exactly `guards` are in scope: guards
that went out of scope are dropped, new ones are taken. -/
def retain [DecidableEq L] [DecidableEq ι] (table : Table L ι) (i : ι) (guards : List L) :
    Table L ι := fun l =>
  if l ∈ guards then some i else if table l = some i then none else table l

/-- The holder of a lock is the thread that has its guard in scope. -/
def Agrees (table : Table L ι) (guards : ι → List L) : Prop :=
  ∀ l i, table l = some i ↔ l ∈ guards i

theorem agrees_free : (free : Table L ι).Agrees fun _ => [] := by
  intro l i
  simp [free]

/-- A lock has one holder. -/
theorem Agrees.unique {table : Table L ι} {guards : ι → List L} (h : table.Agrees guards) {l : L}
    {i j : ι} (hi : l ∈ guards i) (hj : l ∈ guards j) : i = j := by
  have hi' := (h l i).mpr hi
  rw [(h l j).mpr hj] at hi'
  exact (Option.some.inj hi').symm

/-- A lock nobody holds is free. -/
theorem Agrees.eq_none_iff {table : Table L ι} {guards : ι → List L} (h : table.Agrees guards)
    (l : L) : table l = none ↔ ∀ i, l ∉ guards i := by
  rw [Option.eq_none_iff_forall_ne_some]
  exact forall_congr' fun i => not_congr (h l i)

/-- A thread that goes on and takes only free locks keeps the table in agreement. -/
theorem Agrees.retain [DecidableEq L] [DecidableEq ι] {table : Table L ι} {guards : ι → List L}
    (h : table.Agrees guards) {i : ι} {next : List L}
    (hnext : ∀ l ∈ next, l ∈ guards i ∨ table l = none) :
    (table.retain i next).Agrees (Function.update guards i next) := by
  intro l j
  unfold Table.retain
  by_cases hj : j = i
  · -- the thread that goes on
    subst hj
    rw [Function.update_self]
    by_cases hl : l ∈ next
    · simp [hl]
    · by_cases hheld : table l = some j
      · simp [hl, hheld]
      · simp [hl, hheld]
  · -- a thread that stays where it is
    rw [Function.update_of_ne hj, ← h l j]
    by_cases hl : l ∈ next
    · have hother : table l ≠ some j := by
        rcases hnext l hl with hi | hfree
        · rw [(h l i).mpr hi]
          exact fun hij => hj (Option.some.inj hij).symm
        · simp [hfree]
      simp [hl, hother, Ne.symm hj]
    · by_cases hheld : table l = some i
      · simp [hl, hheld, Ne.symm hj]
      · simp [hl, hheld]

end Table

end Locks
