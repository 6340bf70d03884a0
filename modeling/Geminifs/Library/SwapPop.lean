import Mathlib.Data.List.Perm.Basic

/-!
# Swap-and-Pop

Removing from the middle of a vector without moving the tail: the last element
is written over the removed position and the vector is shortened by one. The
order changes, so what is kept is the multiset (`swapPop_perm`), and an index
kept beside the vector has one position to repair (`swapPop_concat`).

## Main definitions

* `swapPop`: The vector with one position taken out.

## Theorems

* `swapPop_concat`: The result, with the last element apart.
* `swapPop_perm`: The removed element and the result make up the vector.
* `swapPop_eq_eraseIdx`: When nothing moves.
-/

namespace Geminifs

variable {α : Type _} (xs : List α)

/-- Overwrite position `i` by the last element `z` and drop the last one. -/
def swapPop (i : Nat) (z : α) : List α :=
  if i ≠ xs.length - 1 then (xs.set i z).dropLast else xs.dropLast

/-- Written over its own position, the last element is dropped with it. -/
theorem swapPop_concat (i : Nat) (z : α) : swapPop (xs ++ [z]) i z = xs.set i z := by
  have hlen : (xs ++ [z]).length - 1 = xs.length := by simp
  rw [swapPop]
  rcases Nat.lt_or_ge i xs.length with hlt | hge
  · rw [if_pos (by omega), List.set_append_left _ _ hlt, List.dropLast_concat]
  · rw [List.set_eq_of_length_le hge]
    split
    next hne => rw [List.set_eq_of_length_le (by simp; omega), List.dropLast_concat]
    · exact List.dropLast_concat

variable {xs} {i : Nat} {e z : α}

theorem swapPop_perm (hi : (xs ++ [z])[i]? = some e) :
    (e :: swapPop (xs ++ [z]) i z).Perm (xs ++ [z]) := by
  rw [swapPop_concat]
  rcases Nat.lt_or_ge i xs.length with hlt | hge
  · rw [List.getElem?_append_left hlt, List.getElem?_eq_getElem hlt, Option.some.injEq] at hi
    -- Both sides are `e`, `z` and the front without position `i`.
    calc (e :: xs.set i z).Perm (e :: z :: xs.eraseIdx i) :=
          (List.set_perm_cons_eraseIdx hlt z).cons e
      _ |>.Perm (z :: e :: xs.eraseIdx i) := List.Perm.swap z e _
      _ |>.Perm (z :: xs) := by
          rw [← hi]
          exact (List.getElem_cons_eraseIdx_perm hlt).cons z
      _ |>.Perm (xs ++ [z]) := (List.perm_append_singleton z xs).symm
  · -- The removed position is the last one, so the element removed is `z`.
    rw [List.getElem?_append_right hge, List.getElem?_singleton] at hi
    rw [List.set_eq_of_length_le hge, ← Option.some.inj (ite_eq_iff.mp hi |>.resolve_right nofun).2]
    exact (List.perm_append_singleton z xs).symm

/-- Taking out one of the last two elements moves none. -/
theorem swapPop_eq_eraseIdx (hi : i ≤ xs.length) (hlast : xs.length ≤ i + 1) :
    swapPop (xs ++ [z]) i z = (xs ++ [z]).eraseIdx i := by
  rw [swapPop_concat]
  rcases Nat.lt_or_ge i xs.length with hlt | hge
  · -- The element before the last is replaced by it.
    rcases List.eq_nil_or_concat xs with rfl | ⟨zs, a, rfl⟩
    · cases hlt
    · obtain rfl : i = zs.length := by
        rw [List.concat_eq_append, List.length_append, List.length_singleton] at hlast hlt
        omega
      simp [List.eraseIdx_append_of_length_le]
  · obtain rfl : i = xs.length := by omega
    rw [List.set_eq_of_length_le hge, List.eraseIdx_append_of_length_le hge]
    simp

end Geminifs
