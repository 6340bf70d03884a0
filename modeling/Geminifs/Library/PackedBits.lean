import Geminifs.Library.Bitmap
import Geminifs.Library.Bytes
import Mathlib.Data.Nat.Bitwise

/-!
# Bitmaps Packed into Bytes

A bitmap on disk: bit `i` is bit `i % 8` of byte `i / 8`. The writer starts from
zeros and sets one bit after the other; a reader either shifts the bit down or
masks it out.

All three are compared through `Nat.testBit` of a byte, so that neither side has
to know how the other one computes.

## Main definitions

* `setPacked`, `packBits`: Setting one bit, and all of a bitmap.
* `shiftedBit`, `maskedBit`: Reading one bit.
* `findZeroFrom`, `findZerosFrom`: The search for one clear bit or several, from a
  position on.

## Theorems

* `shiftedBit_eq`, `maskedBit_eq`: Both ways to read a bit agree.
* `packedBit_packBits`: Every bit reads back.
* `findZeroFrom_spec`, `findZerosFrom_spec`: What the searches find.
-/

namespace Geminifs

variable (buf : Bytes) (i : Nat)

/-- Bit `i` of a packed bitmap. -/
def packedBit : Bool := (buf.getD (i / 8) 0).toNat.testBit (i % 8)

/-- `(buf[i / 8] >> (i % 8)) & 1`. -/
def shiftedBit : Bool :=
  (buf.getD (i / 8) 0 >>> UInt8.ofNat (i % 8)) &&& 1 ≠ 0

/-- `(buf[i / 8] & (1 << (i % 8))) != 0`. -/
def maskedBit : Bool :=
  buf.getD (i / 8) 0 &&& (1 <<< UInt8.ofNat (i % 8)) ≠ 0

/-- `buf[i / 8] |= 1 << (i % 8)`. -/
def setPacked : Bytes :=
  buf.modify (i / 8) (fun b => b ||| (1 <<< UInt8.ofNat (i % 8)))

/-- Set the first `n` bits of a bitmap that are set, one after the other. -/
def packBits (bm : Bitmap) : Nat → Bytes → Bytes
  | 0, buf => buf
  | n + 1, buf => if bm n then setPacked (packBits bm n buf) n else packBits bm n buf

/-- The first clear bit among `n` of them from `i` on. -/
def findZeroFrom (bm : Bitmap) : Nat → Nat → Option Nat
  | 0, _ => none
  | n + 1, i => if bm i then findZeroFrom bm n (i + 1) else some i

/-- The first `k` clear bits among `n` of them from `i` on, or as many as there are. -/
def findZerosFrom (bm : Bitmap) : Nat → Nat → Nat → List Nat
  | 0, _, _ => []
  | n + 1, i, k =>
    if k = 0 then []
    else if bm i then findZerosFrom bm n (i + 1) k
    else i :: findZerosFrom bm n (i + 1) (k - 1)

/-! ### One byte -/

variable (k : Nat) (b : UInt8) (buf : Bytes) (i n : Nat) (bm : Bitmap)

theorem toNat_ofNat_of_lt (h : k < 8) : (UInt8.ofNat k).toNat % 8 = k := by
  rw [UInt8.toNat_ofNat']
  omega

theorem toNat_shifted_one (h : k < 8) : ((1 : UInt8) <<< UInt8.ofNat k).toNat = 2 ^ k := by
  have hlt : 2 ^ k < 256 := Nat.pow_lt_pow_right (by omega) h
  rw [UInt8.toNat_shiftLeft, toNat_ofNat_of_lt k h, UInt8.toNat_one, Nat.one_shiftLeft]
  exact Nat.mod_eq_of_lt hlt

theorem testBit_or_shifted (k j : Nat) (h : k < 8) :
    (b ||| (1 <<< UInt8.ofNat k)).toNat.testBit j = (b.toNat.testBit j || decide (k = j)) := by
  rw [UInt8.toNat_or, toNat_shifted_one k h, Nat.testBit_or, Nat.testBit_two_pow]

/-- A mask of several bits, one after the other. -/
theorem or_and_byte (a b mask : UInt8) : (a ||| b) &&& mask = a &&& mask ||| b &&& mask := by
  apply UInt8.ext
  simp only [UInt8.toNat_and, UInt8.toNat_or, Nat.and_or_distrib_right]

theorem ne_zero_iff_toNat : b ≠ 0 ↔ b.toNat ≠ 0 := by
  rw [Ne, ← UInt8.toNat_inj, UInt8.toNat_zero]

theorem shiftedBit_eq : shiftedBit buf i = packedBit buf i := by
  have hlt : i % 8 < 8 := Nat.mod_lt _ (by omega)
  rw [packedBit, Nat.testBit_eq_decide_div_mod_eq]
  apply decide_eq_decide.mpr
  rw [ne_zero_iff_toNat, UInt8.toNat_and, UInt8.toNat_shiftRight, toNat_ofNat_of_lt _ hlt,
    UInt8.toNat_one, Nat.and_one_is_mod]
  omega

theorem maskedBit_eq : maskedBit buf i = packedBit buf i := by
  have hlt : i % 8 < 8 := Nat.mod_lt _ (by omega)
  have hmask : buf.getD (i / 8) 0 &&& (1 <<< UInt8.ofNat (i % 8)) ≠ 0 ↔ packedBit buf i = true := by
    rw [ne_zero_iff_toNat, UInt8.toNat_and, toNat_shifted_one _ hlt, Nat.and_two_pow, packedBit]
    cases (buf.getD (i / 8) 0).toNat.testBit (i % 8) with
    | false | true => simp
  rw [Bool.eq_iff_iff, ← hmask, maskedBit, decide_eq_true_eq]

/-! ### A bitmap -/

@[simp] theorem setPacked_length :
    (setPacked buf i).length = buf.length := List.length_modify ..

/-- Setting a bit that the buffer has room for sets that bit and no other. -/
theorem packedBit_setPacked (j : Nat) (h : i / 8 < buf.length) :
    packedBit (setPacked buf i) j = (packedBit buf j || decide (i = j)) := by
  have hlt : i % 8 < 8 := Nat.mod_lt _ (by omega)
  unfold packedBit setPacked
  rw [List.getD_eq_getElem?_getD, List.getD_eq_getElem?_getD, List.getElem?_modify]
  by_cases hbyte : i / 8 = j / 8
  · -- The same byte: the bits of the mask decide.
    have hget : buf[j / 8]? = some (buf.get ⟨j / 8, hbyte ▸ h⟩) := List.getElem?_eq_getElem _
    have hsame : i % 8 = j % 8 ↔ i = j := by omega
    simp only [hbyte, hget, if_true, Option.map_eq_map, Option.map_some, Option.getD_some]
    rw [testBit_or_shifted _ _ _ hlt, decide_eq_decide.mpr hsame]
  · have hne : i ≠ j := fun hij => hbyte (hij ▸ rfl)
    simp only [hbyte, if_false, Option.map_eq_map, Option.map_id_fun', id]
    rw [decide_eq_false hne, Bool.or_false]

/-- A bitmap without bits leaves a buffer as it is. -/
theorem packBits_zeros (buf : Bytes) : packBits Bitmap.zeros n buf = buf := by
  induction n with
  | zero => rfl
  | succ n ih => rw [packBits, Bitmap.zeros, if_neg Bool.false_ne_true]; exact ih

@[simp] theorem packBits_length (n : Nat) (buf : Bytes) :
    (packBits bm n buf).length = buf.length := by
  induction n with
  | zero => rfl
  | succ n ih =>
    rw [packBits]
    split
    · rw [setPacked_length, ih]
    · exact ih

/-- Every bit of a bitmap that is packed into a large enough buffer reads back. -/
theorem packedBit_packBits (n : Nat) (buf : Bytes) (h : n ≤ 8 * buf.length) (i : Nat) :
    packedBit (packBits bm n buf) i = (packedBit buf i || (decide (i < n) && bm i)) := by
  induction n with
  | zero => simp [packBits]
  | succ n ih =>
    have ih := ih (by omega)
    have hroom : n / 8 < (packBits bm n buf).length := by
      rw [packBits_length]
      omega
    rw [packBits]
    by_cases hin : i = n
    · subst hin
      cases hbm : bm i with
      | false => simp [ih, hbm]
      | true => simp [packedBit_setPacked _ _ _ hroom]
    · have hlt : i < n + 1 ↔ i < n := by omega
      have hne : n ≠ i := fun h => hin h.symm
      rw [decide_eq_decide.mpr hlt, ← ih]
      split
      · rw [packedBit_setPacked _ _ _ hroom, decide_eq_false hne, Bool.or_false]
      · rfl

theorem packedBit_zeros (i : Nat) : packedBit (List.replicate n 0) i = false := by
  rw [packedBit, List.getD_eq_getElem?_getD, List.getElem?_replicate]
  split
  · simp
  · simp

/-- Every bit of a bitmap that is packed into zeros reads back. -/
theorem packedBit_packBits_zeros (n i : Nat) (h : i < 8 * n) :
    packedBit (packBits bm (8 * n) (List.replicate n 0)) i = bm i := by
  rw [packedBit_packBits _ _ _ (by rw [List.length_replicate]), packedBit_zeros,
    decide_eq_true h, Bool.false_or, Bool.true_and]

/-- What the search finds is the first clear bit, and it finds one if there is
    one. -/
theorem findZeroFrom_spec (n i : Nat) : match findZeroFrom bm n i with
    | none => ∀ j, i ≤ j → j < i + n → bm j = true
    | some j => i ≤ j ∧ j < i + n ∧ bm j = false ∧ ∀ k, i ≤ k → k < j → bm k = true := by
  induction n generalizing i with
  | zero =>
    intro j hle hlt
    omega
  | succ n ih =>
    have ih := ih (i + 1)
    rw [findZeroFrom]
    cases hbm : bm i with
    | false => exact ⟨Nat.le_refl i, by omega, hbm, fun k hle hlt => absurd hlt (by omega)⟩
    | true =>
      have hstep : ∀ k, i ≤ k → k = i ∨ i + 1 ≤ k := fun k hk => by omega
      revert ih
      cases findZeroFrom bm n (i + 1) with
      | none =>
        intro ih j hle hlt
        rcases hstep j hle with rfl | hge
        · exact hbm
        · exact ih j hge (by omega)
      | some =>
        rintro ⟨hle, hlt, hclear, hfirst⟩
        refine ⟨by omega, by omega, hclear, fun k hk hkj => ?_⟩
        rcases hstep k hk with rfl | hge
        · exact hbm
        · exact hfirst k hge hkj

/-- The bits found are clear, and come in order. -/
theorem findZerosFrom_spec (n i k : Nat) : (findZerosFrom bm n i k).Pairwise (· < ·) ∧
      ∀ j ∈ findZerosFrom bm n i k, i ≤ j ∧ j < i + n ∧ bm j = false := by
  induction n generalizing i k with
  | zero => exact ⟨List.Pairwise.nil, nofun⟩
  | succ n ih =>
    have hlater : ∀ k', (∀ j ∈ findZerosFrom bm n (i + 1) k',
        i ≤ j ∧ j < i + (n + 1) ∧ bm j = false) := by
      intro k' j hj
      have hspec := (ih (i + 1) k').2 j hj
      exact ⟨by omega, by omega, hspec.2.2⟩
    rw [findZerosFrom]
    split
    · exact ⟨List.Pairwise.nil, nofun⟩
    split
    · exact ⟨(ih (i + 1) k).1, hlater k⟩
    next hclear =>
      have hrest := ih (i + 1) (k - 1)
      refine ⟨List.pairwise_cons.mpr ⟨fun j hj => (hrest.2 j hj).1, hrest.1⟩, fun j hj => ?_⟩
      rcases List.mem_cons.mp hj with rfl | hj
      · exact ⟨Nat.le_refl _, by omega, by simpa using hclear⟩
      · exact hlater (k - 1) j hj

end Geminifs
