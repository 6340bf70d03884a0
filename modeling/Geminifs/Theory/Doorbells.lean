import Mathlib.Tactic.Ring
import Geminifs.Core.LibNvm

/-!
# Doorbell Addresses

A doorbell is computed in three places: by the NVMe specification from the stride
exponent `DSTRD`, by the module from `db_stride`, which is two to the power of it,
and by the macros of the library from a number they call `dstrd`.

The module's offsets are those of the specification, for all strides and ids for
which they have 32 bits, and so are the macros' if they get the exponent, as they do
when a handle has only read the registers. But `NVM_GET_DEV_INFO` reports
`db_stride` itself in the field that is documented as the exponent, and the two are
never the same.

## Main definitions

* `specOffset`: The offset the specification gives.
* `Doorbells`: The agreement of all computations for one queue id.

## Theorems

* `doorbells_eq_spec`, `specOffset_injective`: The module's offsets.
* `specOffset_in_window_iff`: Which doorbells the mapped window reaches.
* `sqDbl_exponent`: The macro, given the exponent.
* `doorbells_never_agree`: Given what is reported, they never agree.
-/

namespace Geminifs.LibNvm

open Snvme

/-- The offset of a doorbell: `role` is 0 for a submission queue and 1 for a
    completion queue. -/
def specOffset (dstrd qid role : Nat) : Nat := 0x1000 + (2 * qid + role) * (4 * 2 ^ dstrd)

/-- For one queue id of a pool, the module's offsets are those of the
    specification, they are the pool's only ones of that value, the macros of the
    library give them from what is reported, and they are inside the window. -/
structure Doorbells (ndev : NvmeDev) (dstrd : Nat) (p : UserQidPool) (c : NvmCtrl) (info : DevInfo)
    (qid : Nat) : Prop where
  sq : (doorbells ndev qid).2.1 = specOffset dstrd qid 0
  cq : (doorbells ndev qid).2.2 = specOffset dstrd qid 1
  apart : (doorbells ndev qid).2.1 ≠ (doorbells ndev qid).2.2
  distinct : ∀ other, p.first ≤ other → other ≤ p.last → other ≠ qid →
    (doorbells ndev other).2.1 ≠ (doorbells ndev qid).2.1 ∧
      (doorbells ndev other).2.1 ≠ (doorbells ndev qid).2.2 ∧
      (doorbells ndev other).2.2 ≠ (doorbells ndev qid).2.2
  sqMacro : sqDbl c.mmPtr qid info.dstrd = some (c.mmPtr + (doorbells ndev qid).2.1)
  cqMacro : cqDbl c.mmPtr qid info.dstrd = some (c.mmPtr + (doorbells ndev qid).2.2)
  window : (doorbells ndev qid).2.1 + 4 ≤ c.mmSize ∧ (doorbells ndev qid).2.2 + 4 ≤ c.mmSize

/-! ### The module -/

variable {dstrd qid : Nat}

/-- The module follows the specification, as long as an offset has 32 bits. -/
theorem doorbells_eq_spec {ndev : NvmeDev} (h : ndev.dbStride = 2 ^ dstrd)
    (hfits : specOffset dstrd qid 1 < 4294967296) :
    doorbells ndev qid = (qid, specOffset dstrd qid 0, specOffset dstrd qid 1) := by
  have hsq : nvmeRegDbs + qid * 2 * ndev.dbStride * 4 = specOffset dstrd qid 0 := by
    rw [h, nvmeRegDbs, specOffset]
    ring
  have hcq : nvmeRegDbs + (qid * 2 + 1) * ndev.dbStride * 4 = specOffset dstrd qid 1 := by
    rw [h, nvmeRegDbs, specOffset]
    ring
  have hle : specOffset dstrd qid 0 ≤ specOffset dstrd qid 1 := by
    exact Nat.add_le_add_left (Nat.mul_le_mul_right _ (by omega)) _
  rw [doorbells, hsq, hcq, u32, u32, Nat.mod_eq_of_lt hfits,
    Nat.mod_eq_of_lt (Nat.lt_of_le_of_lt hle hfits)]

/-- Different queues and roles have different offsets. -/
theorem specOffset_injective {qid' role role' : Nat} (hrole : role < 2) (hrole' : role' < 2)
    (h : specOffset dstrd qid role = specOffset dstrd qid' role') : qid = qid' ∧ role = role' := by
  have hmul : 2 * qid + role = 2 * qid' + role' :=
    Nat.eq_of_mul_eq_mul_right (Nat.mul_pos (by omega) (Nat.two_pow_pos dstrd))
      (Nat.add_left_cancel h)
  omega

/-- The window that is mapped reaches the doorbells of the first 512 roles, counted
    in strides of four bytes. -/
theorem specOffset_in_window_iff (dstrd qid : Nat) :
    specOffset dstrd qid 1 + 4 ≤ nvmCtrlMemMinsize ↔ (2 * qid + 1) * 2 ^ dstrd ≤ 1023 := by
  rw [specOffset, nvmCtrlMemMinsize, Nat.mul_left_comm]
  omega

/-! ### The macros -/

theorem strides_some {k n : Nat} (h : strides k dstrd = some n) : n = k * (4 * 2 ^ dstrd) := by
  unfold strides cInt at h
  split at h
  · split at h
    · rw [Option.bind_some] at h
      split at h
      · exact (Option.some.inj h).symm
      · cases h
    · cases h
  · cases h

/-- Given the exponent, the macros follow the specification, unless they
    overflow. -/
theorem sqDbl_exponent {p a : Nat} (h : sqDbl p qid dstrd = some a) :
    a = p + specOffset dstrd qid 0 := by
  rcases Option.map_eq_some_iff.mp h with ⟨n, hn, rfl⟩
  rw [strides_some hn, specOffset, Nat.add_assoc, Nat.add_zero]

/-! ### What is reported -/

/-- The byte that is reported is never the exponent. -/
theorem reported_ne_exponent (h : dstrd < 16) : u8 (2 ^ dstrd) ≠ dstrd := by
  have hall : ∀ n < 16, u8 (2 ^ n) ≠ n := by decide
  exact hall dstrd h

/-- Offsets of one submission queue tell the exponent. -/
theorem exponent_of_specOffset {dstrd' : Nat} (hqid : 1 ≤ qid)
    (h : specOffset dstrd qid 0 = specOffset dstrd' qid 0) : dstrd = dstrd' := by
  have hstride : 4 * 2 ^ dstrd = 4 * 2 ^ dstrd' :=
    Nat.eq_of_mul_eq_mul_left (by omega) (Nat.add_left_cancel h)
  exact (Nat.pow_right_inj (by omega)).mp (Nat.eq_of_mul_eq_mul_left (by omega) hstride)

theorem one_le_first {ndev : NvmeDev} {ok : Bool} {p : UserQidPool}
    (h : userQidPoolInit none ndev ok = .ok p) : 1 ≤ p.first := by
  unfold userQidPoolInit at h
  dsimp only at h
  split at h
  · cases h
  next honline =>
    split_ifs at h
    rw [← Except.ok.inj h]
    show 1 ≤ ndev.onlineQueues
    omega

/-- For every stride that a controller can report, every pool, every handle that was
    given what `NVM_GET_DEV_INFO` reports, and every queue id of the pool, the
    computations of its doorbells do not agree. -/
theorem doorbells_never_agree (ndev made : NvmeDev) (dstrd userStartQid barLen qid : Nat) (ok : Bool)
    (p : UserQidPool) (c : NvmCtrl) (hdstrd : dstrd < 16) (hstride : ndev.dbStride = 2 ^ dstrd)
    (hpool : userQidPoolInit none made ok = .ok p) (hqid : p.first ≤ qid) :
    ¬ Doorbells ndev dstrd p c (nvmGetDevInfo ndev userStartQid barLen) qid := by
  intro h
  have hreported : (nvmGetDevInfo ndev userStartQid barLen).dstrd = u8 (2 ^ dstrd) := by
    rw [← hstride]
    rfl
  have hmacro := sqDbl_exponent h.sqMacro
  rw [hreported, h.sq] at hmacro
  have hone := one_le_first hpool
  exact reported_ne_exponent hdstrd
    (exponent_of_specOffset (by omega) (Nat.add_left_cancel hmacro)).symm

/-- A device with two kernel queues of eight, and the smallest stride. -/
def strideOne : NvmeDev :=
  ⟨3, 2, 3, 9, 8, 2, 0, 0, false, 0, 0, false, [], 1024, 1⟩

theorem doorbells_never_agree_strideOne :
    ¬ Doorbells strideOne 0 ⟨3, 8, Bitmap.zeros⟩ (nvmCtrlInit 0 1 10 4096 0)
      (nvmGetDevInfo strideOne 0 16384) 3 :=
  doorbells_never_agree strideOne strideOne 0 0 16384 3 true ⟨3, 8, Bitmap.zeros⟩ _ (by decide) rfl
    rfl (by decide)

/-- With the smallest stride, whose exponent is 0, the number 1 is reported: the
    module's doorbell of submission queue 3 is at 4120, the macro's at 4144. -/
theorem doorbells_differ : doorbells strideOne 3 = (3, 4120, 4124) ∧ specOffset 0 3 0 = 4120 ∧
      (nvmGetDevInfo strideOne 0 16384).dstrd = 1 ∧
      sqDbl 0 3 (nvmGetDevInfo strideOne 0 16384).dstrd = some 4144 := by
  decide

end Geminifs.LibNvm
