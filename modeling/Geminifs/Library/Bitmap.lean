import Mathlib.Logic.Function.Basic
import Mathlib.Data.List.Basic

/-!
# Bitmaps

Bits as the kernel's `set_bit`, `clear_bit` and `find_first_zero_bit` see them:
numbered from zero, with the size given to the search and nowhere else.

## Main definitions

* `Bitmap`: The bits.
* `setBit`, `clearBit`, `setAll`, `clearAll`: Changing them.
* `findFirstZeroBit`: The search, which returns the size if it finds none.

## Theorems

* `findFirstZeroBit_clear`: The bit found was clear.
* `setAll_apply`, `clearAll_apply`: Which bits are set, and which are left.
* `clearAll_setAll`: Bits that were clear can be set and cleared again.
-/

namespace Geminifs

open Function

/-- Bits, numbered from zero. -/
abbrev Bitmap := Nat → Bool

variable (bm : Bitmap) (is : List Nat)

namespace Bitmap

/-- All bits clear, as `kcalloc` leaves them. -/
def zeros : Bitmap := fun _ => false

def setBit (i : Nat) : Bitmap := update bm i true

def clearBit (i : Nat) : Bitmap := update bm i false

/-- Set every bit of a list. -/
def setAll : Bitmap := is.foldl setBit bm

/-- Clear every bit of a list. -/
def clearAll : Bitmap := is.foldl clearBit bm

/-- The first clear bit below `size`, or `size`. -/
def findFirstZeroBit (bm : Bitmap) (size : Nat) : Nat :=
  ((List.range size).find? (fun i => !bm i)).getD size

/-- A bit found below the size was clear. -/
theorem findFirstZeroBit_clear {bm : Bitmap} {size : Nat} (h : findFirstZeroBit bm size < size) :
    bm (findFirstZeroBit bm size) = false := by
  unfold findFirstZeroBit at h ⊢
  rcases hfind : (List.range size).find? (fun i => !bm i) with _ | i
  · rw [hfind] at h
    exact absurd h (Nat.lt_irrefl size)
  · have hclear := List.find?_some hfind
    simpa using hclear

/-- Clearing a list of bits leaves the others. -/
theorem clearAll_apply (bm : Bitmap) (i : Nat) :
    clearAll bm is i = if i ∈ is then false else bm i := by
  induction is generalizing bm with
  | nil => rw [if_neg List.not_mem_nil, clearAll, List.foldl_nil]
  | cons j is ih =>
    have hstep : clearAll bm (j :: is) = clearAll (clearBit bm j) is := rfl
    rw [hstep, ih]
    by_cases his : i ∈ is
    · rw [if_pos his, if_pos (List.mem_cons_of_mem _ his)]
    · rw [if_neg his, clearBit, update_apply]
      by_cases hij : i = j
      · rw [if_pos hij, if_pos (hij ▸ List.mem_cons_self)]
      · rw [if_neg hij, if_neg (List.not_mem_cons_of_ne_of_not_mem hij his)]

theorem setAll_apply (bm : Bitmap) (i : Nat) : setAll bm is i = (decide (i ∈ is) || bm i) := by
  induction is generalizing bm with
  | nil => rfl
  | cons j is ih =>
    have hstep : setAll bm (j :: is) = setAll (setBit bm j) is := rfl
    rw [hstep, ih, setBit]
    by_cases hij : i = j
    · simp [hij]
    · simp [hij]

/-- Bits that were clear can be set and cleared again. -/
theorem clearAll_setAll {bm : Bitmap} {is : List Nat} (h : ∀ i ∈ is, bm i = false) :
    clearAll (setAll bm is) is = bm := by
  funext i
  rw [clearAll_apply, setAll_apply]
  by_cases hi : i ∈ is
  · rw [if_pos hi, h i hi]
  · rw [if_neg hi, decide_eq_false hi, Bool.false_or]

end Bitmap

end Geminifs
