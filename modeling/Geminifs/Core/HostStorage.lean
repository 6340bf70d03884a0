import Geminifs.Core.Disk

/-!
# The Host-File-System Backed Storage

`HostFsBackedNvmeStorage` for one device: create, open, close, delete and
flush. Each operation is a function of the disk and the in-memory state; what
its system calls return is given by arguments, one per call, so every pattern
of failures is an environment. Starting and stopping are in `Core.Bootstrap`.

Pointers to files are represented by their ids: an operation on an id that has
no handle does nothing and fails.

## Main definitions

* `NvmeFile`, `DeviceState`, `Storage`: Handles, `PerDeviceState`, and the
  disk with the state of a booted device.
* `createFileLocked`, `openFile`, `closeFile`, `deleteFile`, `flushMetadata`,
  `listFileNames`: The operations.
-/

namespace Geminifs

/-- Where a device is mounted: `<mount_root>/snvme<minor>`. -/
structure MountPath where
  bytes : Bytes
  nulFree : 0 ∉ bytes

/-- The runtime handle of a file; `hostFd` is negative when it is closed. -/
structure NvmeFile where
  id : Nat
  name : Bytes
  sizeBytes : UInt64
  extents : List LbaExtent
  hostFd : Int
  hostPath : Bytes
  dataOffset : UInt64
  deriving DecidableEq, Repr

/-- `PerDeviceState`: the directory, the handles and the two dirty flags. -/
structure DeviceState where
  log : FileLog
  files : List NvmeFile
  dirtyUnsyncedFiles : Bool
  dirtyUnpersistedLog : Bool

/-- A device's disk, and its state if it is booted. -/
structure Storage where
  disk : Disk
  dev : Option DeviceState

namespace HostStorage

/-- `<mount>/.tutti`. -/
def tuttiDir (mp : MountPath) : Bytes := mp.bytes ++ ascii ['/', '.', 't', 'u', 't', 't', 'i']

def binExt : Bytes := ascii ['.', 'b', 'i', 'n']

/-- `<mount>/.tutti/<name>.bin`. -/
def hostPath (mp : MountPath) (name : Bytes) : Bytes :=
  tuttiDir mp ++ (ascii ['/'] ++ (name ++ binExt))

/-- The handle with an id. -/
def findFile (files : List NvmeFile) (id : Nat) : Option NvmeFile :=
  files.find? (fun f => f.id == id)

/-- `files.erase(id)`. -/
def eraseFile (files : List NvmeFile) (id : Nat) : List NvmeFile :=
  files.filter (fun f => f.id != id)

/-- `files[f.id] = f`. -/
def putFile (files : List NvmeFile) (f : NvmeFile) : List NvmeFile := f :: eraseFile files f.id

/-- What the system calls of one `create_file` return. -/
structure CreateEnv where
  /-- The descriptor, if `open` succeeds. -/
  openFd : Option Nat
  /-- The extent map the file system chose, if `fallocate` succeeds. -/
  alloc : Option (List FiemapExtent)
  fsyncOk : Bool
  fiemap : FiemapEnv
  ioctlOk : Bool
  pwriteOk : Bool
  persistOk : Bool
  /-- Whether the `unlink` of a failed create succeeds. -/
  unlinkOk : Bool

/-- The kernel's answers about the file just allocated. -/
def CreateEnv.ioctl (env : CreateEnv) (map : List FiemapExtent) : FiemapIoctl :=
  fun _ start => if env.ioctlOk then some (fsIocFiemap map start) else none

/-- The part of `create_file_locked` after the extents are known: draw an id,
    write the header, add the entry, persist. -/
def commitCreate (p : Bytes) (d : Disk) (s : DeviceState) (name : Bytes) (sizeBytes : UInt64)
    (persistNow : Bool) (fd : Nat) (fullPath : Bytes) (extents : List LbaExtent)
    (env : CreateEnv) : Disk × DeviceState × Option NvmeFile :=
  -- The id is used up even if the rest fails.
  let id := s.log.nextFileId.1
  let log := s.log.nextFileId.2
  if ¬ env.pwriteOk then (d.unlink p env.unlinkOk, { s with log := log }, none)
  else
    let added := log.add ⟨id, name, sizeBytes, extents⟩
    -- A name that is taken was found before; this is a name that is too long.
    if ¬ added.2 then (d.unlink p env.unlinkOk, { s with log := added.1 }, none)
    else
      let nf : NvmeFile := ⟨id, name, sizeBytes, extents, fd, fullPath, nvmeFileHeaderSize⟩
      if persistNow then
        if env.persistOk then
          (d.persist added.1, { s with log := added.1, files := putFile s.files nf }, some nf)
        else (d.unlink p env.unlinkOk, { s with log := (added.1.remove id).1 }, none)
      else
        (d, { s with
              log := added.1
              files := putFile s.files nf
              dirtyUnpersistedLog := true }, some nf)

/-- `create_file_locked`. The total size wraps around at `2^64`. -/
def createFileLocked (mp : MountPath) (d : Disk) (s : DeviceState) (name : Bytes)
    (sizeBytes : UInt64) (persistNow syncNow : Bool) (env : CreateEnv) :
    Disk × DeviceState × Option NvmeFile :=
  if name = [] ∨ sizeBytes = 0 then (d, s, none)
  else if (s.log.findByName name).isSome then (d, s, none)
  else
    let fullPath := hostPath mp name
    let p := cStr fullPath
    match env.openFd with
    | none => (d, s, none)
    | some fd =>
      -- Neither truncated nor exclusive: a file left at this path is taken over.
      let d₁ := d.openCreate p
      match d₁.fallocate p (nvmeFileHeaderSize + sizeBytes) env.alloc with
      | none => (d₁.unlink p env.unlinkOk, s, none)
      | some d₂ =>
        if syncNow ∧ ¬ env.fsyncOk then (d₂.unlink p env.unlinkOk, s, none)
        else
          let d₃ := if syncNow then d₂.fsync p else d₂
          -- Left to `flush_metadata`, although `read_extents` syncs the file by itself.
          let s₁ := if syncNow then s else { s with dirtyUnsyncedFiles := true }
          let fr := readExtents fd kNvmeBlockSize env.fiemap
            (env.ioctl (env.alloc.getD []))
          let d₄ := if readExtentsSyncs kNvmeBlockSize env.fiemap then d₃.fsync p else d₃
          if ¬ fr.ok then (d₄.unlink p env.unlinkOk, s₁, none)
          else commitCreate p d₄ s₁ name sizeBytes persistNow fd fullPath fr.extents env

/-- `open_file`, given the descriptor of its `open`. -/
def openFile (mp : MountPath) (s : DeviceState) (name : Bytes) (openFd : Option Nat) :
    DeviceState × Option NvmeFile :=
  match s.log.findByName name with
  | none => (s, none)
  | some e =>
    match findFile s.files e.fileId with
    | some f =>
      -- A closed file has kept its handle.
      if f.hostFd < 0 then
        match openFd with
        | none => (s, none)
        | some fd =>
          let f' := { f with hostFd := fd }
          ({ s with files := putFile s.files f' }, some f')
      else (s, some f)
    | none =>
      match openFd with
      | none => (s, none)
      | some fd =>
        let nf : NvmeFile := ⟨e.fileId, e.name, e.sizeBytes, e.extents, fd,
          hostPath mp name, nvmeFileHeaderSize⟩
        ({ s with files := putFile s.files nf }, some nf)

/-- `close_file`: a failed `fsync` is reported and ignored. -/
def closeFile (d : Disk) (s : DeviceState) (id : Nat) (fsyncOk persistOk : Bool) :
    Disk × DeviceState × Bool :=
  match findFile s.files id with
  | none => (d, s, false)
  | some f =>
    let d₁ := if 0 ≤ f.hostFd ∧ fsyncOk then d.fsync (cStr f.hostPath) else d
    let s₁ := { s with files := putFile s.files { f with hostFd := -1 } }
    if persistOk then (d₁.persist s₁.log, s₁, true) else (d₁, s₁, false)

/-- `delete_file`; `unlinkOk` also covers a file that was already gone. -/
def deleteFile (d : Disk) (s : DeviceState) (id : Nat) (persistNow unlinkOk persistOk : Bool) :
    Disk × DeviceState × Bool :=
  match findFile s.files id with
  | none => (d, s, false)
  | some f =>
    -- The descriptor is closed before the `unlink`, so also if that fails.
    if ¬ unlinkOk then
      (d, { s with files := putFile s.files { f with hostFd := -1 } }, false)
    else
      let d₁ := d.unlink (cStr f.hostPath) true
      let s₁ := { s with files := eraseFile s.files id, log := (s.log.remove id).1 }
      if persistNow then
        -- On failure nothing is rolled back: the log on disk still lists the file.
        if persistOk then (d₁.persist s₁.log, s₁, true) else (d₁, s₁, false)
      else (d₁, { s₁ with dirtyUnpersistedLog := true }, true)

/-- `list_file_names`. -/
def listFileNames (s : Storage) : List Bytes :=
  match s.dev with
  | none => []
  | some ds => ds.log.entries.map Entry.name

/-- `flush_metadata`; `syncOk` covers opening the mount and `syncfs`. Each half
    is skipped when its flag is clear. -/
def flushMetadata (d : Disk) (s : DeviceState) (syncOk persistOk : Bool) :
    Disk × DeviceState × Bool :=
  let synced := !s.dirtyUnsyncedFiles || syncOk
  let d₁ := if s.dirtyUnsyncedFiles ∧ syncOk then d.syncfs else d
  let s₁ := { s with dirtyUnsyncedFiles := s.dirtyUnsyncedFiles && !syncOk }
  if s₁.dirtyUnpersistedLog then
    if persistOk then
      (d₁.persist s₁.log, { s₁ with dirtyUnpersistedLog := false }, synced)
    else (d₁, s₁, false)
  else (d₁, s₁, synced)

end HostStorage

end Geminifs
