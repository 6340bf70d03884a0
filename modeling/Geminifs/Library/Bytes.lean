import Mathlib.Data.List.Basic
import Mathlib.Tactic.Ring

/-!
# Byte Strings and Fixed-Width Fields

The pieces a packed C record is made of: little-endian words, zero-padded
character fields, and the terminated strings such a field is read back as.

A writer concatenates fields and a reader cuts them out by offset, so the
lemmas come in two halves. `leNat_leBytes` and `cStr_padTo` say that one field
reads back as what was written; `field_append_right` and `field_append_left`
find a field inside a concatenation, and are simp lemmas so that a record of
any number of fields is read by one `simp`.

## Main definitions

* `leBytes`: A number as a little-endian word of a given width.
* `leNat`: The number a little-endian word holds.
* `field`: The bytes of a record at an offset.
* `padTo`: A byte string padded with zeros to a width.
* `cStr`: The bytes before the first zero, what C sees of a buffer.

## Theorems

* `leNat_leBytes`: A word read back is the number modulo the word size.
* `leNat_leBytes_of_lt`: A number that fits is read back exactly.
* `field_append_right`, `field_append_left`: Cutting a field out.
* `cStr_append`: C reads on past a zero-free string.
* `cStr_padTo`: A zero-free string is read back from its padded field.
-/

namespace Geminifs

/-- A byte string. -/
abbrev Bytes := List UInt8

instance : LawfulBEq Bytes := inferInstance

/-- A number as a little-endian word, truncated to `width` bytes. -/
def leBytes : Nat → Nat → Bytes
  | 0, _ => []
  | width + 1, n => UInt8.ofNat n :: leBytes width (n / 256)

/-- The number a little-endian word holds. -/
def leNat : Bytes → Nat
  | [] => 0
  | b :: bs => b.toNat + 256 * leNat bs

/-- The `len` bytes of a record that start at `off`. -/
def field (off len : Nat) (record : Bytes) : Bytes := (record.drop off).take len

/-- A byte string padded with zeros to `width` bytes. -/
def padTo (width : Nat) (bs : Bytes) : Bytes := bs ++ List.replicate (width - bs.length) 0

/-- The bytes before the first zero byte. -/
def cStr (bs : Bytes) : Bytes := bs.takeWhile (· ≠ 0)

variable (width n len : Nat) (a bs : Bytes)

@[simp] theorem leBytes_length : (leBytes width n).length = width := by
  induction width generalizing n with
  | zero => rfl
  | succ width ih => simp only [leBytes, List.length_cons, ih]

theorem leNat_leBytes : leNat (leBytes width n) = n % 256 ^ width := by
  induction width generalizing n with
  | zero => simp only [leBytes, leNat, Nat.pow_zero, Nat.mod_one]
  | succ width ih =>
    have hbyte : (UInt8.ofNat n).toNat = n % 256 := by simp
    rw [leBytes, leNat, ih, hbyte, Nat.pow_succ', Nat.mod_mul]

theorem leNat_leBytes_of_lt (h : n < 256 ^ width) : leNat (leBytes width n) = n := by
  rw [leNat_leBytes, Nat.mod_eq_of_lt h]

@[simp] theorem field_append_right (off len : Nat) (a b : Bytes) (h : a.length ≤ off) :
    field off len (a ++ b) = field (off - a.length) len b := by
  rw [field, field, List.drop_append, List.drop_eq_nil_of_le h, List.nil_append]

@[simp] theorem field_append_left (b : Bytes) (h : a.length = len) : field 0 len (a ++ b) = a := by
  rw [field, List.drop_zero, ← h, List.take_left]

@[simp] theorem field_all (h : a.length = len) : field 0 len a = a := by
  rw [field, List.drop_zero, ← h, List.take_length]

@[simp] theorem padTo_length (h : bs.length ≤ width) : (padTo width bs).length = width := by
  rw [padTo, List.length_append, List.length_replicate]
  omega

/-- C sees a string without a zero byte up to where the rest ends. -/
theorem cStr_append (rest : Bytes) (h : 0 ∉ bs) : cStr (bs ++ rest) = bs ++ cStr rest := by
  have hall : ∀ b ∈ bs, (fun x : UInt8 => decide (x ≠ 0)) b = true := by
    intro b hb
    have hne : b ≠ 0 := fun hz => h (hz ▸ hb)
    exact decide_eq_true hne
  exact List.takeWhile_append_of_pos hall

theorem cStr_of_zero_notMem (h : 0 ∉ bs) : cStr bs = bs := by
  have hnil : cStr [] = [] := rfl
  have happ := cStr_append bs [] h
  rwa [hnil, List.append_nil] at happ

theorem cStr_append_zero (rest : Bytes) (h : 0 ∉ bs) : cStr (bs ++ 0 :: rest) = bs := by
  have hstop : cStr (0 :: rest) = [] := rfl
  rw [cStr_append bs _ h, hstop, List.append_nil]

theorem cStr_padTo (h : 0 ∉ bs) : cStr (padTo width bs) = bs := by
  rw [padTo]
  rcases hpad : width - bs.length with _ | k
  · rw [List.replicate_zero, List.append_nil]
    exact cStr_of_zero_notMem bs h
  · exact cStr_append_zero bs _ h

end Geminifs
