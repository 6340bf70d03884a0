import Geminifs.Library.Bytes
import Mathlib.Logic.Function.Basic

/-!
# Files that Survive a Crash

A volume maps paths to file contents, each marked with whether the contents
were synced since they were last written. A crash keeps exactly what was
synced: `Survives` leaves every other path to chance, so a file that was not
synced may be gone, cut short, or hold anything. Directory changes take effect
at once and are atomic, which is what a journaling file system gives.

## Main definitions

* `Stored`: The contents of a file and whether they are synced.
* `Volume`: The files of a file system, by path.
* `Volume.openTrunc`, `Volume.write`, `Volume.fsync`, `Volume.rename`,
  `Volume.unlink`: The system calls.
* `Volume.Survives`: What a crash may leave.
-/

namespace Geminifs

open Function

/-- The contents of a file, and whether all of them reached the medium. -/
structure Stored where
  data : Bytes
  synced : Bool
  deriving DecidableEq, Repr

/-- The files of a file system, by path. -/
abbrev Volume (P : Type _) := P → Option Stored

namespace Volume

variable {P : Type _} [DecidableEq P] (v : Volume P) (p : P)

/-- Open for writing with `O_CREAT | O_TRUNC`. -/
def openTrunc : Volume P := update v p (some ⟨[], false⟩)

/-- Append to an open file. -/
def write (bs : Bytes) : Volume P :=
  match v p with
  | none => v
  | some f => update v p (some ⟨f.data ++ bs, false⟩)

/-- A successful `fsync`. -/
def fsync : Volume P :=
  match v p with
  | none => v
  | some f => update v p (some ⟨f.data, true⟩)

/-- Move a file over another path, atomically. -/
def rename (p q : P) : Volume P :=
  match v p with
  | none => v
  | some f => update (update v q (some f)) p none

def unlink : Volume P := update v p none

/-- The volume found after a crash: what was synced is there unchanged, and
    nothing is promised about the rest. Not crashing is a special case. -/
def Survives (v w : Volume P) : Prop := ∀ p f, v p = some f → f.synced = true → w p = some f

variable {v : Volume P} {p q : P}

theorem openTrunc_of_ne (h : q ≠ p) : v.openTrunc p q = v q := update_of_ne h _ _

theorem openTrunc_self : v.openTrunc p p = some ⟨[], false⟩ := update_self ..

theorem write_of_ne (bs : Bytes) (h : q ≠ p) : v.write p bs q = v q := by
  unfold write
  rcases v p with _ | f
  · rfl
  · exact update_of_ne h _ _

theorem write_self (bs : Bytes) (f : Stored) (h : v p = some f) :
    v.write p bs p = some ⟨f.data ++ bs, false⟩ := by
  unfold write
  rw [h]
  exact update_self ..

theorem fsync_of_ne (h : q ≠ p) : v.fsync p q = v q := by
  unfold fsync
  rcases v p with _ | f
  · rfl
  · exact update_of_ne h _ _

theorem fsync_self (f : Stored) (h : v p = some f) : v.fsync p p = some ⟨f.data, true⟩ := by
  unfold fsync
  rw [h]
  exact update_self ..

theorem unlink_of_ne (h : q ≠ p) : v.unlink p q = v q := update_of_ne h _ _

theorem rename_target (f : Stored) (h : v p = some f) (hne : q ≠ p) : v.rename p q q = some f := by
  unfold rename
  rw [h]
  simp only
  rw [update_of_ne hne, update_self]

end Volume

end Geminifs
