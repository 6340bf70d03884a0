import Geminifs.Library.Bytes
import Mathlib.Tactic.SplitIfs

/-!
# Files of Bytes

A file as positioned reads and writes see it: a length, and a byte at every
position below it. A write may start behind the end; the gap reads as zeros. A
read that reaches past the end does not succeed.

Two facts carry every argument about such a file: what was written is read back,
and a write leaves every range it does not touch.

## Main definitions

* `ByteFile`: A length and bytes, with nothing behind the end.
* `ByteFile.write`, `ByteFile.slice`, `ByteFile.read`: The positioned calls.
* `ByteFile.replay`: A file after a number of writes.

## Theorems

* `slice_write_self`: What was written is read back.
* `slice_write_of_disjoint`: A write leaves the ranges beside it.
* `replay_append`: Writes one after the other.
-/

namespace Geminifs

/-- A file. Its bytes are numbered from zero, and behind its end there are none. -/
@[ext]
structure ByteFile where
  size : Nat
  byte : Nat → UInt8
  beyond : ∀ p, size ≤ p → byte p = 0

variable (f : ByteFile)

namespace ByteFile

/-- A file that was just made. -/
def empty : ByteFile := ⟨0, fun _ => 0, fun _ _ => rfl⟩

/-- Write at least one byte from a position on. -/
def write (off : Nat) (bs : Bytes) : ByteFile where
  size := max f.size (off + bs.length)
  byte := fun p => if off ≤ p ∧ p < off + bs.length then bs.getD (p - off) 0 else f.byte p
  beyond := by
    intro p hp
    rw [if_neg (by omega)]
    exact f.beyond p (by omega)

/-- The `len` bytes from a position on; behind the end they are zeros. -/
def slice (off len : Nat) : Bytes := (List.range len).map (fun k => f.byte (off + k))

/-- Read `len` bytes from a position on, all of them or none. -/
def read (off len : Nat) : Option Bytes :=
  if off + len ≤ f.size then some (f.slice off len) else none

/-- A file after a number of writes, each a position and what is written there. -/
def replay (ws : List (Nat × Bytes)) : ByteFile :=
  ws.foldl (fun f w => f.write w.1 w.2) f

variable (f : ByteFile) (off len : Nat) (bs : Bytes)

@[simp] theorem slice_length : (f.slice off len).length = len := by
  rw [slice, List.length_map, List.length_range]

theorem slice_getElem? (k : Nat) (h : k < len) :
    (f.slice off len)[k]? = some (f.byte (off + k)) := by
  rw [slice, List.getElem?_map, List.getElem?_range h, Option.map_some]

/-- A file without bytes reads as zeros. -/
theorem slice_empty : empty.slice off len = List.replicate len 0 := by
  have hconst : empty.slice off len = (List.range len).map (fun _ => 0) := rfl
  rw [hconst, List.map_const', List.length_range]

theorem write_byte (p : Nat) : (f.write off bs).byte p =
      if off ≤ p ∧ p < off + bs.length then bs.getD (p - off) 0 else f.byte p := rfl

@[simp] theorem write_size : (f.write off bs).size = max f.size (off + bs.length) := rfl

/-- What was written is there. -/
theorem slice_write_self : (f.write off bs).slice off bs.length = bs := by
  apply List.ext_getElem?
  intro k
  by_cases hk : k < bs.length
  · rw [slice_getElem? _ _ _ _ hk, write_byte, if_pos (by omega), Nat.add_sub_cancel_left,
      List.getD_eq_getElem?_getD, List.getElem?_eq_getElem hk, Option.getD_some]
  · rw [List.getElem?_eq_none (by rw [slice_length]; omega), List.getElem?_eq_none (by omega)]

/-- A write leaves the ranges beside it. -/
theorem slice_write_of_disjoint (off' len : Nat) (h : off' + len ≤ off ∨ off + bs.length ≤ off') :
    (f.write off bs).slice off' len = f.slice off' len := by
  apply List.map_congr_left
  intro k hk
  rw [List.mem_range] at hk
  rw [write_byte, if_neg (by omega)]

@[simp] theorem replay_nil : f.replay [] = f := rfl

@[simp] theorem replay_cons (w : Nat × Bytes) (ws : List (Nat × Bytes)) :
    f.replay (w :: ws) = (f.write w.1 w.2).replay ws := rfl

theorem replay_append (ws vs : List (Nat × Bytes)) :
    f.replay (ws ++ vs) = (f.replay ws).replay vs := List.foldl_append

end ByteFile

end Geminifs
