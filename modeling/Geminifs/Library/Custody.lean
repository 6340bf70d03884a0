import Mathlib.Data.List.Nodup

/-!
# Custody of Tokens

A pool marks the tokens that are in use, and whoever has taken one keeps it in
a list. The books balance when a token is held once if it is marked and not at
all if it is not: nothing is held twice, and nothing is lost.

Taking tokens that were free, or giving held ones back, keeps the books
balanced, whoever does it.

## Main definitions

* `Balanced`: What is marked is held once, and nothing else is held.

## Theorems

* `Balanced.take`: Free tokens are marked and handed out.
* `Balanced.giveBack`: Held tokens are unmarked and given up.
* `Balanced.nodup`: Nothing is held twice.
* `Balanced.marked`: Whatever is held is marked.
-/

namespace Geminifs.Custody

variable {κ : Type _} [DecidableEq κ]

/-- Every marked token is held exactly once, and no other is. -/
def Balanced (used : κ → Bool) (held : List κ) : Prop :=
  ∀ k, held.count k = if used k then 1 else 0

variable {used used' : κ → Bool} {held held' ks : List κ}

section

variable (h : Balanced used held)

include h

/-- Handing out tokens that were free. -/
theorem Balanced.take (hnodup : ks.Nodup)
    (hfree : ∀ k ∈ ks, used k = false) (hused : ∀ k, used' k = (used k || decide (k ∈ ks)))
    (hheld : ∀ k, held'.count k = held.count k + ks.count k) : Balanced used' held' := by
  intro k
  rw [hheld k, h k, hused k]
  by_cases hk : k ∈ ks
  · -- A token that was free was not held, and is handed out once.
    rw [hfree k hk, List.count_eq_one_of_mem hnodup hk]
    simp [hk]
  · rw [List.count_eq_zero_of_not_mem hk]
    simp [hk]

/-- Giving up tokens that were held. -/
theorem Balanced.giveBack (hused : ∀ k, used' k = (used k && !decide (k ∈ ks)))
    (hheld : ∀ k, held'.count k + ks.count k = held.count k) : Balanced used' held' := by
  intro k
  have hk := hheld k
  rw [h k] at hk
  rw [hused k]
  by_cases hmem : k ∈ ks
  · -- It was held at most once, so nobody else has it.
    have hpos : 0 < ks.count k := List.count_pos_iff.mpr hmem
    have hle : (if used k = true then 1 else 0) ≤ 1 := by split <;> omega
    have hzero : held'.count k = 0 := by omega
    rw [hzero]
    simp [hmem]
  · rw [List.count_eq_zero_of_not_mem hmem, Nat.add_zero] at hk
    rw [hk]
    simp [hmem]

/-- The books say nothing more than which tokens are marked and held how
    often. -/
theorem Balanced.congr (hused : ∀ k, used' k = used k)
    (hheld : ∀ k, held'.count k = held.count k) : Balanced used' held' := by
  intro k
  rw [hheld k, h k, hused k]

theorem Balanced.nodup : held.Nodup := by
  rw [List.nodup_iff_count_le_one]
  intro k
  rw [h k]
  split <;> omega

theorem Balanced.marked {k : κ} (hk : k ∈ held) : used k = true := by
  have hpos := List.count_pos_iff.mpr hk
  rw [h k] at hpos
  by_contra hnot
  rw [if_neg hnot] at hpos
  omega

end

end Geminifs.Custody
