import Mathlib.Data.List.AList

/-!
# Association Lists after a Change

## Theorems

* `lookup_insert_apply`, `lookup_erase_apply`: What is found after an entry is put in or
  taken out.
* `lookup_of_erase`: What is still found was there.
-/

namespace Geminifs

variable {κ β : Type _} [DecidableEq κ] {m : AList (fun _ : κ => β)} {key k : κ} {x : β}

theorem lookup_insert_apply :
    (m.insert key x).lookup k = if k = key then some x else m.lookup k := by
  split
  next h => rw [h, AList.lookup_insert]
  next h => rw [AList.lookup_insert_ne h]

theorem lookup_erase_apply : (m.erase key).lookup k = if k = key then none else m.lookup k := by
  split
  next h => rw [h, AList.lookup_erase]
  next h => rw [AList.lookup_erase_ne h]

theorem lookup_of_erase (h : (m.erase key).lookup k = some x) : k ≠ key ∧ m.lookup k = some x := by
  rwa [lookup_erase_apply, Option.ite_none_left_eq_some] at h

end Geminifs
