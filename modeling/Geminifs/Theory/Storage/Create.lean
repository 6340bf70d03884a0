import Geminifs.Theory.Fiemap
import Geminifs.Theory.FileLog
import Geminifs.Theory.Storage.Disk
import Geminifs.Theory.Storage.Names

/-!
# What Creating a File Does

`create_file` is a long sequence of system calls with a way out after each.
This module says once what it can do, so that later proofs never look inside:
`CreateOutcome` has three cases. It refuses, changing nothing; it gives up
after opening the file, having changed the file's path only and drawn at most
an id; or every call succeeds and it leaves one new file, settled on disk.

That a new file is settled does not depend on `sync_now`: `read_extents` syncs
the file before it asks for its extents.

## Main definitions

* `CreateEnv.Allocates`, `CreateEnv.Commits`, `CreateEnv.Completes`: The calls
  of the first half, of the second half, and of the whole succeed.
* `createdEntry`, `createdLog`, `createdFile`, `createdState`, `createdInode`:
  What a successful create leaves.
* `CreateOutcome`: Everything a create can do.

## Theorems

* `commitCreate_of_commits`, `commitCreate_of_not_commits`: The second half.
* `createFileLocked_of_not_opens`: A create that is refused changes nothing.
* `createFileLocked_cases`: A create does one of these.
* `recordedExtents_eq`: The extents recorded are those of the new file.
-/

namespace Geminifs.HostStorage

/-- The header and the user's bytes, as the 64-bit sum the code computes. -/
def totalBytes (sizeBytes : UInt64) : UInt64 := nvmeFileHeaderSize + sizeBytes

/-- The extents a create records for the map the file system chose. -/
def recordedExtents (env : CreateEnv) (fd : Nat) (map : List FiemapExtent) : List LbaExtent :=
  (readExtents fd kNvmeBlockSize env.fiemap (env.ioctl map)).extents

/-- The entry a successful create adds to a directory. -/
def createdEntry (l : FileLog) (name : Bytes) (sizeBytes : UInt64) (extents : List LbaExtent) :
    Entry :=
  ⟨l.nextId, name, sizeBytes, extents⟩

/-- A drawn id has no entry yet. -/
theorem createdEntry_fresh {l : FileLog} (hl : l.WellFormed) (name : Bytes) (sizeBytes : UInt64)
    (extents : List LbaExtent) :
    ∀ e ∈ l.entries, e.fileId ≠ (createdEntry l name sizeBytes extents).fileId := by
  intro e he h
  have hlt := hl.below e he
  rw [h] at hlt
  exact Nat.lt_irrefl _ hlt

/-- The directory after a successful create. -/
def createdLog (l : FileLog) (name : Bytes) (sizeBytes : UInt64) (extents : List LbaExtent) :
    FileLog :=
  (l.nextFileId.2.add (createdEntry l name sizeBytes extents)).1

/-- The handle a successful create returns. -/
def createdFile (l : FileLog) (name : Bytes) (sizeBytes : UInt64) (extents : List LbaExtent)
    (fd : Nat) (fullPath : Bytes) : NvmeFile :=
  ⟨l.nextId, name, sizeBytes, extents, fd, fullPath, nvmeFileHeaderSize⟩

/-- The device state after a successful create. -/
def createdState (s : DeviceState) (name : Bytes) (sizeBytes : UInt64)
    (extents : List LbaExtent) (persistNow : Bool) (fd : Nat) (fullPath : Bytes) : DeviceState :=
  { s with
    log := createdLog s.log name sizeBytes extents
    files := putFile s.files (createdFile s.log name sizeBytes extents fd fullPath)
    dirtyUnpersistedLog := s.dirtyUnpersistedLog || !persistNow }

/-- The calls of the second half succeed, and the name fits the log. -/
structure CreateEnv.Commits (env : CreateEnv) (name : Bytes) (persistNow : Bool) : Prop where
  pwrite : env.pwriteOk = true
  short : name.length < kNameMax
  persist : persistNow = true → env.persistOk = true

section

variable (p : Bytes) (d : Disk) (s : DeviceState) (hl : s.log.WellFormed) (name : Bytes)
  (sizeBytes : UInt64) (persistNow : Bool) (fd : Nat) (fullPath : Bytes)
  (extents : List LbaExtent) (env : CreateEnv) (hname : ∀ e ∈ s.log.entries, e.name ≠ name)

include hl hname

/-- The new entry is accepted when its name fits. -/
theorem add_createdEntry (hshort : name.length < kNameMax) :
    (s.log.nextFileId.2.add (createdEntry s.log name sizeBytes extents)).2 = true := by
  rw [FileLog.add_of_fresh (FileLog.wellFormed_nextFileId hl)
    (createdEntry s.log name sizeBytes extents) hshort hname (Nat.lt_succ_self _)]

/-- The second half, when its calls succeed. -/
theorem commitCreate_of_commits (h : env.Commits name persistNow) :
    commitCreate p d s name sizeBytes persistNow fd fullPath extents env =
      (if persistNow then d.persist (createdLog s.log name sizeBytes extents) else d,
        createdState s name sizeBytes extents persistNow fd fullPath,
        some (createdFile s.log name sizeBytes extents fd fullPath)) := by
  have hok := add_createdEntry s hl name sizeBytes extents hname h.short
  unfold commitCreate
  simp only [createdEntry, FileLog.nextFileId] at hok ⊢
  simp only [h.pwrite, hok]
  cases persistNow with
  | false => simp [createdState, createdFile, createdLog, createdEntry, FileLog.nextFileId]
  | true =>
    simp [h.persist rfl, createdState, createdFile, createdLog, createdEntry, FileLog.nextFileId]

/-- The second half, when one of its calls fails: the file is removed, if that
    works, and the drawn id is lost. -/
theorem commitCreate_of_not_commits (h : ¬ env.Commits name persistNow) :
    commitCreate p d s name sizeBytes persistNow fd fullPath extents env =
      (d.unlink p env.unlinkOk, { s with log := s.log.nextFileId.2 }, none) := by
  unfold commitCreate
  cases hpwrite : env.pwriteOk with
  | false => simp
  | true =>
    by_cases hshort : name.length < kNameMax
    · have hwf := FileLog.wellFormed_nextFileId hl
      have hok := add_createdEntry s hl name sizeBytes extents hname hshort
      have hback := FileLog.remove_add hwf (createdEntry s.log name sizeBytes extents) hshort
        hname (Nat.lt_succ_self _) (createdEntry_fresh hl name sizeBytes extents)
      simp only [createdEntry, FileLog.nextFileId] at hok hback ⊢
      simp only [hok, not_true_eq_false]
      -- Only the persist is left to fail; the entry just added is taken out again.
      have hnow : persistNow = true := by
        by_contra hnow
        exact h ⟨hpwrite, hshort, fun ht => absurd ht hnow⟩
      have hpersist : env.persistOk = false := by
        rw [← Bool.not_eq_true]
        exact fun hp => h ⟨hpwrite, hshort, fun _ => hp⟩
      simp only [hnow, hpersist, if_true, Bool.false_eq_true, if_false, hback]
    · -- A long name is refused only here, after the file was made.
      have hlong : kNameMax ≤ name.length := Nat.not_lt.mp hshort
      simp [FileLog.add, hlong]

end

/-- The checks of `create_file` pass and the file is opened. -/
structure Opens (s : DeviceState) (name : Bytes) (sizeBytes : UInt64) (env : CreateEnv) : Prop where
  nonempty : name ≠ []
  size : sizeBytes ≠ 0
  fresh : ∀ e ∈ s.log.entries, e.name ≠ name
  openFd : env.openFd ≠ none

/-- The calls of the first half succeed, with a descriptor and an extent
    map. -/
structure CreateEnv.Allocates (env : CreateEnv) (sizeBytes : UInt64) (syncNow : Bool) (fd : Nat)
    (map : List FiemapExtent) : Prop where
  openFd : env.openFd = some fd
  alloc : env.alloc = some map
  nonzero : totalBytes sizeBytes ≠ 0
  fits : (totalBytes sizeBytes).toNat < 2 ^ 63
  fsync : syncNow = true → env.fsyncOk = true
  extents : (readExtents fd kNvmeBlockSize env.fiemap (env.ioctl map)).ok = true

/-- Every call a create makes succeeds, and the name fits the log. -/
def CreateEnv.Completes (env : CreateEnv) (name : Bytes) (sizeBytes : UInt64)
    (persistNow syncNow : Bool) : Prop :=
  ∃ fd map, env.Allocates sizeBytes syncNow fd map ∧ env.Commits name persistNow

/-- The file a successful create leaves, when the path held `before`. -/
def createdInode (before : Option Inode) (sizeBytes : UInt64) (map : List FiemapExtent) : Inode :=
  ⟨max (before.getD ⟨0, []⟩).len (totalBytes sizeBytes).toNat, map⟩

/-- Everything a create can do. It refuses, changing nothing; it gives up after
    opening the file, having changed that path and drawn at most an id; or it
    creates the file. -/
inductive CreateOutcome (mp : MountPath) (d : Disk) (s : DeviceState) (name : Bytes)
    (sizeBytes : UInt64) (persistNow syncNow : Bool) (env : CreateEnv) :
    Disk × DeviceState × Option NvmeFile → Prop
  | refused (hopens : ¬ Opens s name sizeBytes env) :
      CreateOutcome mp d s name sizeBytes persistNow syncNow env (d, s, none)
  | abandoned (hopens : Opens s name sizeBytes env)
      (hfails : ¬ env.Completes name sizeBytes persistNow syncNow) (d' : Disk) (s' : DeviceState)
      (htouch : Disk.Touches (cStr (hostPath mp name)) d d')
      (hlog : s'.log = s.log ∨ s'.log = s.log.nextFileId.2) (hfiles : s'.files = s.files)
      (hdirty : s'.dirtyUnpersistedLog = s.dirtyUnpersistedLog) :
      CreateOutcome mp d s name sizeBytes persistNow syncNow env
        (d'.unlink (cStr (hostPath mp name)) env.unlinkOk, s', none)
  | created (hopens : Opens s name sizeBytes env) (fd : Nat) (map : List FiemapExtent)
      (halloc : env.Allocates sizeBytes syncNow fd map) (hcommit : env.Commits name persistNow)
      (d' : Disk) (s' : DeviceState) (htouch : Disk.Touches (cStr (hostPath mp name)) d d')
      (hfile : d'.files (cStr (hostPath mp name)) =
        some (createdInode (d.files (cStr (hostPath mp name))) sizeBytes map))
      (hsettled : d'.Settled (cStr (hostPath mp name))) (hlog : s'.log = s.log)
      (hfiles : s'.files = s.files)
      (hdirty : s'.dirtyUnpersistedLog = s.dirtyUnpersistedLog) :
      CreateOutcome mp d s name sizeBytes persistNow syncNow env
        (if persistNow then
            d'.persist (createdLog s.log name sizeBytes (recordedExtents env fd map)) else d',
          createdState s' name sizeBytes (recordedExtents env fd map) persistNow fd
            (hostPath mp name),
          some (createdFile s.log name sizeBytes (recordedExtents env fd map) fd
            (hostPath mp name)))

variable {sizeBytes : UInt64} (d : Disk)

/-- The files of the path after opening and allocating. -/
theorem fallocate_openCreate {d d₂ : Disk} {p : Bytes} {alloc : Option (List FiemapExtent)}
    (h : (d.openCreate p).fallocate p (totalBytes sizeBytes) alloc = some d₂) :
    ∃ map, alloc = some map ∧ totalBytes sizeBytes ≠ 0 ∧ (totalBytes sizeBytes).toNat < 2 ^ 63 ∧
      Disk.Touches p d d₂ ∧ d₂.files p = some (createdInode (d.files p) sizeBytes map) := by
  rcases Disk.fallocate_eq_some _ h with ⟨map, ino, halloc, hino, hzero, hfits, heq⟩
  rw [Disk.openCreate_self, Option.some.injEq] at hino
  refine ⟨map, halloc, hzero, hfits, ?_, ?_⟩
  · rw [heq]
    exact (Disk.touches_openCreate d p).trans (Disk.touches_setFile _ p _)
  · rw [heq, (Disk.setFile_self _ p _).1, ← hino]
    rfl

/-- `fallocate` on a file just opened fails only for a length it refuses or for
    want of room. -/
theorem fallocate_openCreate_ne_none (p : Bytes) {total : UInt64} {map : List FiemapExtent}
    (hzero : total ≠ 0) (hfits : total.toNat < 2 ^ 63) :
    (d.openCreate p).fallocate p total (some map) ≠ none := by
  have hbad : ¬ (total = 0 ∨ 2 ^ 63 ≤ total.toNat) := by
    intro h
    rcases h with h | h
    · exact hzero h
    · exact absurd hfits (Nat.not_lt.mpr h)
  unfold Disk.fallocate
  rw [if_neg hbad, Disk.openCreate_self]
  simp

/-- A create that does not get to the open file changes nothing. -/
theorem createFileLocked_of_not_opens (mp : MountPath) (d : Disk) {s : DeviceState}
    (hl : s.log.WellFormed) {name : Bytes} (persistNow syncNow : Bool) {env : CreateEnv}
    (h : ¬ Opens s name sizeBytes env) :
    createFileLocked mp d s name sizeBytes persistNow syncNow env = (d, s, none) := by
  unfold createFileLocked
  by_cases hcheck : name = [] ∨ sizeBytes = 0
  · rw [if_pos hcheck]
  rw [if_neg hcheck]
  push Not at hcheck
  cases hfind : s.log.findByName name with
  | some => rw [Option.isSome_some, if_pos rfl]
  | none =>
    have hfresh := (FileLog.findByName_eq_none hl.indexed name).mp hfind
    -- Of what `Opens` asks for, only the descriptor is left.
    have hfd : env.openFd = none := by
      by_contra hfd
      exact h ⟨hcheck.1, hcheck.2, hfresh, hfd⟩
    simp [hfd]

/-- Everything a create can do, from any state whose directory is well
    formed. -/
theorem createFileLocked_cases (mp : MountPath) (d : Disk) (s : DeviceState)
    (hl : s.log.WellFormed) (name : Bytes) (sizeBytes : UInt64) (persistNow syncNow : Bool)
    (env : CreateEnv) :
    CreateOutcome mp d s name sizeBytes persistNow syncNow env
      (createFileLocked mp d s name sizeBytes persistNow syncNow env) := by
  by_cases hopens : Opens s name sizeBytes env
  swap
  · rw [createFileLocked_of_not_opens mp d hl persistNow syncNow hopens]
    exact .refused hopens
  have hfresh := hopens.fresh
  rcases Option.ne_none_iff_exists'.mp hopens.openFd with ⟨fd, hfd⟩
  have hcheck : ¬ (name = [] ∨ sizeBytes = 0) := not_or.mpr ⟨hopens.nonempty, hopens.size⟩
  have htotal : nvmeFileHeaderSize + sizeBytes = totalBytes sizeBytes := rfl
  unfold createFileLocked
  rw [if_neg hcheck, (FileLog.findByName_eq_none hl.indexed name).mpr hfresh, hfd, htotal]
  simp only
  rcases hfall : (d.openCreate (cStr (hostPath mp name))).fallocate (cStr (hostPath mp name))
      (totalBytes sizeBytes) env.alloc with _ | d₂
  · -- No room, or a length `fallocate` refuses.
    refine .abandoned hopens (fun hc => ?_) (d.openCreate _) s (Disk.touches_openCreate d _)
      (.inl rfl) rfl rfl
    rcases hc with ⟨fd', map, ha, -⟩
    exact fallocate_openCreate_ne_none d _ ha.nonzero ha.fits (ha.alloc ▸ hfall)
  rcases fallocate_openCreate hfall with ⟨map, hmap, hzero, hfits, htouch₂, hfile₂⟩
  simp only
  by_cases hsync : syncNow = true ∧ ¬ env.fsyncOk = true
  · rw [if_pos hsync]
    refine .abandoned hopens (fun hc => ?_) d₂ s htouch₂ (.inl rfl) rfl rfl
    rcases hc with ⟨fd', map', ha, -⟩
    exact hsync.2 (ha.fsync hsync.1)
  rw [if_neg hsync]
  have hsynced : syncNow = true → env.fsyncOk = true := by
    intro hs
    by_contra hno
    exact hsync ⟨hs, hno⟩
  -- The two syncs leave the file as it is.
  have htouch₃ := htouch₂.ite_fsync (syncNow = true)
  have hfile₃ := (congrFun (Disk.ite_fsync_files d₂ (cStr (hostPath mp name)) (syncNow = true))
    (cStr (hostPath mp name))).trans hfile₂
  generalize (if syncNow = true then d₂.fsync (cStr (hostPath mp name)) else d₂) = d₃
    at htouch₃ hfile₃ ⊢
  have hs₁ : (if syncNow = true then s else { s with dirtyUnsyncedFiles := true }).log = s.log ∧
      (if syncNow = true then s else { s with dirtyUnsyncedFiles := true }).files = s.files ∧
      (if syncNow = true then s else { s with dirtyUnsyncedFiles := true }).dirtyUnpersistedLog
        = s.dirtyUnpersistedLog := by
    split
    · exact ⟨rfl, rfl, rfl⟩
    · exact ⟨rfl, rfl, rfl⟩
  generalize (if syncNow = true then s else { s with dirtyUnsyncedFiles := true }) = s₁
    at hs₁ ⊢
  have htouch₄ := htouch₃.ite_fsync (readExtentsSyncs kNvmeBlockSize env.fiemap = true)
  rw [hmap, Option.getD_some]
  cases hok : (readExtents fd kNvmeBlockSize env.fiemap (env.ioctl map)).ok with
  | false =>
    refine .abandoned hopens (fun hc => ?_) _ s₁ htouch₄ (.inl hs₁.1) hs₁.2.1 hs₁.2.2
    rcases hc with ⟨fd', map', ha, -⟩
    have hfd' : fd' = fd := Option.some.inj (ha.openFd.symm.trans hfd)
    have hmap' : map' = map := Option.some.inj (ha.alloc.symm.trans hmap)
    have hext := ha.extents
    rw [hfd', hmap', hok] at hext
    cases hext
  | true =>
    have halloc : env.Allocates sizeBytes syncNow fd map :=
      ⟨hfd, hmap, hzero, hfits, hsynced, hok⟩
    rcases readExtents_ok hok with ⟨-, -, -, -, -, -, hreadsync⟩
    rw [if_pos hreadsync] at htouch₄ ⊢
    have hfresh₁ : ∀ e ∈ s₁.log.entries, e.name ≠ name := by
      rw [hs₁.1]
      exact hfresh
    have hl₁ : s₁.log.WellFormed := by
      rw [hs₁.1]
      exact hl
    by_cases hcommit : env.Commits name persistNow
    · rw [commitCreate_of_commits _ _ s₁ hl₁ _ _ _ _ _ _ _ hfresh₁ hcommit, hs₁.1]
      exact .created hopens fd map halloc hcommit _ s₁ htouch₄ hfile₃
        (Disk.settled_fsync d₃ _) hs₁.1 hs₁.2.1 hs₁.2.2
    · rw [commitCreate_of_not_commits _ _ s₁ hl₁ _ _ _ _ _ _ _ hfresh₁ hcommit]
      refine .abandoned hopens (fun hc => ?_) _ _ htouch₄ (.inr ?_) hs₁.2.1 hs₁.2.2
      · rcases hc with ⟨fd', map', -, hc'⟩
        exact hcommit hc'
      · simp only [hs₁.1]

/-- The extents recorded by a create are those the kernel reports for the new
    file. -/
theorem recordedExtents_eq {env : CreateEnv} {syncNow : Bool} {fd : Nat} {map : List FiemapExtent}
    (h : env.Allocates sizeBytes syncNow fd map) (len : Nat) :
    recordedExtents env fd map = (Inode.mk len map).lbaExtents := by
  rcases readExtents_ok h.extents with ⟨answer, hioctl, hext, -, -, -, -⟩
  unfold CreateEnv.ioctl at hioctl
  cases hok : env.ioctlOk with
  | false =>
    rw [hok] at hioctl
    cases hioctl
  | true =>
    rw [hok, if_pos rfl, Option.some.injEq] at hioctl
    unfold recordedExtents Inode.lbaExtents
    rw [hext, ← hioctl, fsIocFiemap, List.take_take, Nat.min_self]

end Geminifs.HostStorage
