import Geminifs.Theory.Storage.Disk
import Geminifs.Theory.Storage.Names

/-!
# What the Other Operations Do

Open, close, delete, flush, bootstrap and shutdown, each said once. What a
sync call does to the disk is only that some paths are settled, so the
outcomes say no more than that about it.

## Main definitions

* `DeleteOutcome`, `CloseOutcome`, `OpenOutcome`, `BootOutcome`: Everything
  these can do.

## Theorems

* `mem_eraseFile`, `mem_putFile`: The handle table.
* `deleteFile_cases`, `closeFile_cases`, `openFile_cases`, `bootstrap_cases`:
  The outcomes.
* `flushMetadata_cases`, `shutdown_cases`: What a flush and a shutdown do.
-/

namespace Geminifs.HostStorage

theorem findFile_some {files : List NvmeFile} {id : Nat} {f : NvmeFile}
    (h : findFile files id = some f) : f ∈ files ∧ f.id = id := by
  exact ⟨List.mem_of_find?_eq_some h, by simpa using List.find?_some h⟩

theorem mem_eraseFile (files : List NvmeFile) (id : Nat) (f : NvmeFile) :
    f ∈ eraseFile files id ↔ f ∈ files ∧ f.id ≠ id := by
  unfold eraseFile
  rw [List.mem_filter, bne_iff_ne]

theorem mem_putFile (files : List NvmeFile) (f g : NvmeFile) :
    g ∈ putFile files f ↔ g = f ∨ (g ∈ files ∧ g.id ≠ f.id) := by
  unfold putFile
  rw [List.mem_cons, mem_eraseFile]

/-- Everything a delete can do. A failed `unlink` leaves the file and its entry,
    with the handle closed. Otherwise the entry is gone from memory, whatever
    the persist does. -/
inductive DeleteOutcome (d : Disk) (s : DeviceState) (id : Nat)
    (persistNow unlinkOk persistOk : Bool) : Disk × DeviceState × Bool → Prop
  | missing (h : findFile s.files id = none) :
      DeleteOutcome d s id persistNow unlinkOk persistOk (d, s, false)
  | kept (f : NvmeFile) (h : findFile s.files id = some f) (hunlink : unlinkOk = false) :
      DeleteOutcome d s id persistNow unlinkOk persistOk
        (d, { s with files := putFile s.files { f with hostFd := -1 } }, false)
  | removed (f : NvmeFile) (h : findFile s.files id = some f) (hunlink : unlinkOk = true) :
      DeleteOutcome d s id persistNow unlinkOk persistOk
        (if persistNow ∧ persistOk then
            (d.unlink (cStr f.hostPath) true).persist (s.log.remove id).1
          else d.unlink (cStr f.hostPath) true,
          { s with
            files := eraseFile s.files id
            log := (s.log.remove id).1
            dirtyUnpersistedLog := s.dirtyUnpersistedLog || !persistNow },
          !persistNow || persistOk)

variable (d : Disk) (s : DeviceState)

theorem deleteFile_cases (id : Nat) (persistNow unlinkOk persistOk : Bool) :
    DeleteOutcome d s id persistNow unlinkOk persistOk
      (deleteFile d s id persistNow unlinkOk persistOk) := by
  unfold deleteFile
  rcases hf : findFile s.files id with _ | f
  · exact .missing hf
  cases hunlink : unlinkOk with
  | false => exact .kept f hf rfl
  | true =>
    have hcase : DeleteOutcome d s id persistNow true persistOk _ := .removed f hf rfl
    cases persistNow with
    | false => simpa using hcase
    | true =>
      cases persistOk with
      | false | true => simpa using hcase

/-- Everything a close can do: the file may get synced, the handle is closed,
    and the directory is persisted if that works. -/
inductive CloseOutcome (d : Disk) (s : DeviceState) (id : Nat) (persistOk : Bool) :
    Disk × DeviceState × Bool → Prop
  | missing (h : findFile s.files id = none) : CloseOutcome d s id persistOk (d, s, false)
  | closed (f : NvmeFile) (h : findFile s.files id = some f) (d' : Disk)
      (hsync : Disk.Syncs d d') :
      CloseOutcome d s id persistOk
        (if persistOk then d'.persist s.log else d',
          { s with files := putFile s.files { f with hostFd := -1 } }, persistOk)

theorem closeFile_cases (id : Nat) (fsyncOk persistOk : Bool) :
    CloseOutcome d s id persistOk (closeFile d s id fsyncOk persistOk) := by
  unfold closeFile
  rcases hf : findFile s.files id with _ | f
  · exact .missing hf
  have hsync : Disk.Syncs d
      (if 0 ≤ f.hostFd ∧ fsyncOk = true then d.fsync (cStr f.hostPath) else d) := by
    split
    · exact Disk.syncs_fsync d _
    · exact Disk.Syncs.refl d
  have hcase : CloseOutcome d s id persistOk _ := .closed f hf _ hsync
  cases persistOk with
  | false | true => simpa using hcase

/-- Everything an open can do to the state: nothing, or put a handle that
    mirrors an entry of the directory, built anew or reopened. -/
inductive OpenOutcome (mp : MountPath) (s : DeviceState) (name : Bytes) :
    DeviceState × Option NvmeFile → Prop
  | same (f : Option NvmeFile) : OpenOutcome mp s name (s, f)
  | opened (e : Entry) (h : s.log.findByName name = some e) (fd : Nat) : OpenOutcome mp s name
        ({ s with files := putFile s.files ⟨e.fileId, e.name, e.sizeBytes, e.extents, fd,
            hostPath mp name, nvmeFileHeaderSize⟩ },
          some ⟨e.fileId, e.name, e.sizeBytes, e.extents, fd, hostPath mp name, nvmeFileHeaderSize⟩)
  | reopened (f : NvmeFile) (h : f ∈ s.files) (fd : Nat) : OpenOutcome mp s name
        ({ s with files := putFile s.files { f with hostFd := fd } }, some { f with hostFd := fd })

theorem openFile_cases (mp : MountPath) (s : DeviceState) (name : Bytes) (openFd : Option Nat) :
    OpenOutcome mp s name (openFile mp s name openFd) := by
  unfold openFile
  rcases he : s.log.findByName name with _ | e
  · exact .same none
  simp only
  rcases hf : findFile s.files e.fileId with _ | f
  · rcases openFd with _ | fd
    · exact .same none
    · exact .opened e he fd
  · simp only
    split
    · rcases openFd with _ | fd
      · exact .same none
      · exact .reopened f (findFile_some hf).1 fd
    · exact .same (some f)

/-- What a flush does: files may get synced, and the directory is persisted only
    if its flag is set. Each flag stays set if its half fails, and the flush
    returns true only if neither did. -/
theorem flushMetadata_cases (syncOk persistOk : Bool) :
    ∃ d', Disk.Syncs d d' ∧ flushMetadata d s syncOk persistOk =
        (if s.dirtyUnpersistedLog ∧ persistOk then d'.persist s.log else d',
          { s with
            dirtyUnsyncedFiles := s.dirtyUnsyncedFiles && !syncOk
            dirtyUnpersistedLog := s.dirtyUnpersistedLog && !persistOk },
          (!s.dirtyUnsyncedFiles || syncOk) && (!s.dirtyUnpersistedLog || persistOk)) := by
  refine ⟨if s.dirtyUnsyncedFiles ∧ syncOk then d.syncfs else d, ?_, ?_⟩
  · split
    · exact Disk.syncs_syncfs d
    · exact Disk.Syncs.refl d
  · unfold flushMetadata
    rcases s with ⟨log, files, unsynced, unpersisted⟩
    cases unpersisted with
    | false => simp
    | true =>
      cases persistOk with
      | false | true => simp

/-- Everything a bootstrap can do that loads what was persisted: nothing, when
    the device is booted already or something fails; else start an empty
    directory on a new device, or load the one persisted, and reconcile. -/
inductive BootOutcome (mp : MountPath) (s : Storage) (env : BootEnv) : Storage × Bool → Prop
  | same (ok : Bool) (h : ok = true → s.dev ≠ none) : BootOutcome mp s env (s, ok)
  | started (h : s.dev = none) (hlog : s.disk.log = none) :
      BootOutcome mp s env (finishBoot mp (s.disk.persist .empty) .empty env, true)
  | loaded (h : s.dev = none) (hsetup : env.setupOk = true) (l : FileLog)
      (hlog : s.disk.log = some l) :
      BootOutcome mp s env (finishBoot mp s.disk l env, true)

theorem bootstrap_cases (mp : MountPath) (s : Storage) (env : BootEnv) :
    BootOutcome mp s env (bootstrapWith some mp s env) := by
  unfold bootstrapWith
  rcases hdev : s.dev with _ | ds
  swap
  · exact .same true (fun _ => by rw [hdev]; simp)
  cases hsetup : env.setupOk with
  | false => exact .same false nofun
  | true =>
    rcases hlog : s.disk.log with _ | l
    · cases env.initOk with
      | false => exact .same false nofun
      | true => exact .started hdev hlog
    · exact .loaded hdev hsetup l hlog

/-- What a shutdown does to a booted device: files may get synced, and the
    directory is persisted if that works. -/
theorem shutdown_cases (ds : DeviceState) (fsyncOk : Nat → Bool) (persistOk umountOk : Bool) :
    ∃ d', Disk.Syncs d d' ∧ shutdown ⟨d, some ds⟩ fsyncOk persistOk umountOk =
        (⟨if persistOk then d'.persist ds.log else d', none⟩, persistOk && umountOk) := by
  refine ⟨ds.files.foldl (fun d f =>
    if 0 ≤ f.hostFd ∧ fsyncOk f.id then d.fsync (cStr f.hostPath) else d) d, ?_, rfl⟩
  generalize ds.files = files
  induction files generalizing d with
  | nil => exact Disk.Syncs.refl d
  | cons f files ih =>
    rw [List.foldl_cons]
    refine Disk.Syncs.trans ?_ (ih _)
    split
    · exact Disk.syncs_fsync d _
    · exact Disk.Syncs.refl d

end Geminifs.HostStorage
