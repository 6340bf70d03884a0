import Geminifs.Core.Disk

/-!
# The Disk Operations, Path by Path

Frame lemmas for the disk: what each call does at the path it names and that
it does nothing elsewhere. `Settled` says that only the present state of a path
can survive a crash, which is what a successful sync establishes.

## Main definitions

* `Disk.Settled`: A crash leaves a path as it is.
* `Disk.Current`: The present state of every path can survive.
* `Disk.Touches`: A change at one path and nowhere else.
* `Disk.Syncs`: Nothing changes, except that some paths are settled.

## Theorems

* `touches_setFile`, `touches_openCreate`, `touches_fsync`, `touches_unlink`:
  The calls change one path.
* `openCreate_self`, `fallocate_eq_some`: What opening and allocating do there.
* `mem_unlink_survivors`: What unlinking adds to what may survive.
* `syncs_fsync`, `syncs_syncfs`: What the sync calls do.
* `Syncs.subset`, `Syncs.of_singleton`: A sync only narrows what may survive.
-/

namespace Geminifs.Disk

open Function

variable (d : Disk)

/-- Only the present state of the path can survive. -/
def Settled (p : Bytes) : Prop := d.survivors p = [d.files p]

/-- The present state of every path can survive. -/
def Current : Prop := ∀ p, d.files p ∈ d.survivors p

variable {d' : Disk} (ino : Option Inode) (p : Bytes) (ok : Bool) (c : Prop)

theorem setFile_of_ne {p q : Bytes} (h : q ≠ p) :
    (d.setFile p ino).files q = d.files q ∧ (d.setFile p ino).survivors q = d.survivors q := by
  exact ⟨update_of_ne h _ _, update_of_ne h _ _⟩

theorem setFile_self (ino : Option Inode) : (d.setFile p ino).files p = ino ∧
      (d.setFile p ino).survivors p = ino :: d.survivors p := by
  exact ⟨update_self .., update_self ..⟩

/-- A file that is there is opened as it is, and a new one is empty. -/
theorem openCreate_self : (d.openCreate p).files p = some ((d.files p).getD ⟨0, []⟩) := by
  unfold openCreate
  rcases h : d.files p with _ | ino
  · exact (setFile_self d p _).1
  · exact h

/-- What a successful `fallocate` does. -/
theorem fallocate_eq_some {p : Bytes} {total : UInt64} {alloc : Option (List FiemapExtent)}
    (h : d.fallocate p total alloc = some d') :
    ∃ map ino, alloc = some map ∧ d.files p = some ino ∧ total ≠ 0 ∧ total.toNat < 2 ^ 63 ∧
      d' = d.setFile p (some ⟨max ino.len total.toNat, map⟩) := by
  unfold fallocate at h
  split_ifs at h with hbad
  push Not at hbad
  rcases halloc : alloc with _ | map
  · rw [halloc] at h
    cases h
  rcases hfile : d.files p with _ | ino
  · rw [halloc, hfile] at h
    cases h
  · rw [halloc, hfile] at h
    exact ⟨map, ino, rfl, rfl, hbad.1, hbad.2, (Option.some.inj h).symm⟩

/-- A successful `fsync` settles the path. -/
theorem settled_fsync : (d.fsync p).Settled p := by
  exact update_self ..

theorem unlink_of_ne {p q : Bytes} (h : q ≠ p) :
    (d.unlink p ok).files q = d.files q ∧ (d.unlink p ok).survivors q = d.survivors q := by
  cases ok with
  | false => exact ⟨rfl, rfl⟩
  | true => exact setFile_of_ne d none h

theorem unlink_self : (d.unlink p true).files p = none := (setFile_self d p none).1

@[simp] theorem unlink_log : (d.unlink p ok).log = d.log := by
  cases ok with
  | false | true => rfl

/-- Unlinking takes a file away, or changes nothing. -/
theorem unlink_files (q : Bytes) (ok : Bool) :
    (d.unlink p ok).files q = none ∨ (d.unlink p ok).files q = d.files q := by
  by_cases hq : q = p
  · cases ok with
    | false => exact .inr rfl
    | true => exact .inl (hq ▸ unlink_self d p)
  · exact .inr (unlink_of_ne d ok hq).1

/-- All an `unlink` adds to what may survive is that the file is gone. -/
theorem mem_unlink_survivors (q : Bytes) (ok : Bool) (x : Option Inode)
    (hx : x ∈ (d.unlink p ok).survivors q) : x = none ∨ x ∈ d.survivors q := by
  by_cases hq : q = p
  · cases ok with
    | false => exact .inr hx
    | true =>
      have hself : (d.unlink p true).survivors p = none :: d.survivors p :=
        (setFile_self d p none).2
      rw [hq, hself] at hx
      rw [hq]
      exact List.mem_cons.mp hx
  · rw [(unlink_of_ne d ok hq).2] at hx
    exact .inr hx

/-- Persisting the directory, or not, leaves the files alone. -/
theorem ite_persist_files [Decidable c] (l : FileLog) :
    (if c then d.persist l else d).files = d.files := by
  split
  · rfl
  · rfl

/-- A change at one path and nowhere else, after which the present state of the
    path is still among what may survive there. -/
structure Touches (p : Bytes) (d d' : Disk) : Prop where
  files : ∀ q, q ≠ p → d'.files q = d.files q
  survivors : ∀ q, q ≠ p → d'.survivors q = d.survivors q
  log : d'.log = d.log
  current : d.files p ∈ d.survivors p → d'.files p ∈ d'.survivors p

theorem Touches.refl : Touches p d d :=
  ⟨fun _ _ => rfl, fun _ _ => rfl, rfl, fun h => h⟩

theorem Touches.trans {p : Bytes} {d d'' : Disk} (h : Touches p d d') (h' : Touches p d' d'') :
    Touches p d d'' where
  files := fun q hq => (h'.files q hq).trans (h.files q hq)
  survivors := fun q hq => (h'.survivors q hq).trans (h.survivors q hq)
  log := h'.log.trans h.log
  current := fun hc => h'.current (h.current hc)

theorem touches_setFile (ino : Option Inode) : Touches p d (d.setFile p ino) where
  files := fun _ hq => (setFile_of_ne d ino hq).1
  survivors := fun _ hq => (setFile_of_ne d ino hq).2
  log := rfl
  current := by
    intro _
    rw [(setFile_self d p ino).1, (setFile_self d p ino).2]
    exact List.mem_cons_self

theorem touches_openCreate : Touches p d (d.openCreate p) := by
  unfold openCreate
  rcases d.files p with _ | ino
  · exact touches_setFile d p _
  · exact Touches.refl d p

theorem touches_fsync : Touches p d (d.fsync p) where
  files := fun _ _ => rfl
  survivors := fun _ hq => update_of_ne hq _ _
  log := rfl
  current := by
    intro _
    rw [settled_fsync d p]
    exact List.mem_singleton_self _

/-- A sync that may be left out changes no file, and nothing elsewhere. -/
theorem Touches.ite_fsync {p : Bytes} {d : Disk} (h : Touches p d d') (c : Prop) [Decidable c] :
    Touches p d (if c then d'.fsync p else d') := by
  split
  · exact h.trans (touches_fsync d' p)
  · exact h

theorem ite_fsync_files [Decidable c] : (if c then d.fsync p else d).files = d.files := by
  split
  · rfl
  · rfl

theorem touches_unlink : Touches p d (d.unlink p ok) := by
  cases ok with
  | false => exact Touches.refl d p
  | true => exact touches_setFile d p none

/-- Nothing changes, except that some paths are settled. -/
structure Syncs (d d' : Disk) : Prop where
  files : d'.files = d.files
  log : d'.log = d.log
  survivors : ∀ p, d'.survivors p = d.survivors p ∨ d'.survivors p = [d.files p]

theorem Syncs.refl : Syncs d d := ⟨rfl, rfl, fun _ => .inl rfl⟩

theorem Syncs.trans {d d'' : Disk} (h : Syncs d d') (h' : Syncs d' d'') : Syncs d d'' where
  files := h'.files.trans h.files
  log := h'.log.trans h.log
  survivors := by
    intro p
    rcases h'.survivors p with hp | hp
    · rw [hp]
      exact h.survivors p
    · rw [hp, h.files]
      exact .inr rfl

theorem syncs_fsync : Syncs d (d.fsync p) where
  files := rfl
  log := rfl
  survivors := by
    intro q
    by_cases hq : q = p
    · rw [hq]
      exact .inr (settled_fsync d p)
    · exact .inl (update_of_ne hq _ _)

theorem syncs_syncfs : Syncs d d.syncfs := ⟨rfl, rfl, fun _ => .inr rfl⟩

/-- What may survive a sync might have survived without it. -/
theorem Syncs.subset {d : Disk} (h : Syncs d d') (hc : d.Current) (p : Bytes) (x : Option Inode)
    (hx : x ∈ d'.survivors p) : x ∈ d.survivors p := by
  rcases h.survivors p with hp | hp
  · rwa [hp] at hx
  · rw [hp] at hx
    rw [List.mem_singleton.mp hx]
    exact hc p

theorem Syncs.current {d : Disk} (h : Syncs d d') (hc : d.Current) : d'.Current := by
  intro p
  rw [h.files]
  rcases h.survivors p with hp | hp
  · rw [hp]
    exact hc p
  · rw [hp]
    exact List.mem_singleton_self _

/-- A sync changes nothing where only one state can survive. -/
theorem Syncs.of_singleton {d : Disk} (h : Syncs d d') (hc : d.Current) {p : Bytes}
    {x : Option Inode} (hx : d.survivors p = [x]) : d'.survivors p = [x] := by
  rcases h.survivors p with hp | hp
  · rw [hp, hx]
  · have hfile := hc p
    rw [hx] at hfile
    rw [hp, List.mem_singleton.mp hfile]

end Geminifs.Disk
