import Mathlib.Logic.Function.Basic

/-!
# Copying Between Two Address Spaces

A transfer moves values from places of one address space to places of another, in
some order. It is a list of pairs, a source and a destination each; every pair
overwrites its destination.

What is at a destination afterwards depends on the order only if two pairs with
different values share it. All results here are therefore about the members of the
list, so they hold for every order.

## Main definitions

* `copyAll`: The destination after a transfer.

## Theorems

* `copyAll_of_ne`: What is no destination is unchanged.
* `copyAll_of_mem`: A destination has the value that all its sources have.
-/

namespace Geminifs.Copying

open Function

variable {α β V : Type} [DecidableEq β]

/-- The second address space after moving the value of every source to its
    destination. -/
def copyAll (pairs : List (α × β)) (src : α → V) (dst : β → V) : β → V :=
  pairs.foldl (fun d p => update d p.2 (src p.1)) dst

@[simp] theorem copyAll_cons (p : α × β) (pairs : List (α × β)) (src : α → V) (dst : β → V) :
    copyAll (p :: pairs) src dst = copyAll pairs src (update dst p.2 (src p.1)) := rfl

variable (pairs : List (α × β))

theorem copyAll_of_ne {src : α → V} {b : β} :
    ∀ {dst : β → V}, (∀ p ∈ pairs, p.2 ≠ b) → copyAll pairs src dst b = dst b := by
  induction pairs with
  | nil => exact fun _ => rfl
  | cons p pairs ih =>
    intro dst h
    rw [copyAll_cons, ih (List.forall_mem_cons.mp h).2]
    exact update_of_ne (h p List.mem_cons_self).symm _ _

theorem copyAll_of_mem {src : α → V} {b : β} {v : V} :
    ∀ {dst : β → V}, (∃ p ∈ pairs, p.2 = b) → (∀ p ∈ pairs, p.2 = b → src p.1 = v) →
      copyAll pairs src dst b = v := by
  induction pairs with
  | nil =>
    rintro dst ⟨p, hp, -⟩
    cases hp
  | cons p pairs ih =>
    intro dst hmem hval
    have hrest : ∀ q ∈ pairs, q.2 = b → src q.1 = v := fun q hq =>
      hval q (List.mem_cons_of_mem _ hq)
    rw [copyAll_cons]
    by_cases hlater : ∃ q ∈ pairs, q.2 = b
    · exact ih hlater hrest
    · -- The first pair is the last one with this destination.
      have hne : ∀ q ∈ pairs, q.2 ≠ b := fun q hq heq => hlater ⟨q, hq, heq⟩
      have hp : p.2 = b := by
        rcases hmem with ⟨q, hq, heq⟩
        rcases List.mem_cons.mp hq with rfl | hq
        · exact heq
        · exact absurd heq (hne q hq)
      rw [copyAll_of_ne pairs hne, ← hp, update_self]
      exact hval p List.mem_cons_self hp

end Geminifs.Copying
