import Geminifs.Core.HostStorage
import Geminifs.Library.Emplace
import Geminifs.Library.Runs

/-!
# Bootstrap, Shutdown and Whole Runs

`bootstrap` with the reconcile sweep that repairs a directory after a crash,
`shutdown`, and the machine whose actions are the public operations together
with crashes.

Reconcile compares names only. An entry whose `.bin` file is missing is a
tombstone and is removed; a `.bin` file without an entry is a ghost and is
unlinked. The two hash maps it builds are `Library.Emplace` maps, and the order
the directory's map is visited in is part of the environment.

Bootstrap is given how a persisted directory is loaded. The machine loads what
was persisted, which `persist_atomic` justifies; the byte-level load is the
other instance.

## Main definitions

* `binOnDisk`, `logByName`, `tombstones`, `ghosts`, `reconcile`: The sweep.
* `bootstrapWith`, `shutdown`: Starting and stopping a device.
* `Op`, `exec`, `step`: The machine.
-/

namespace Geminifs.HostStorage

def logFileName : Bytes := ascii ['f', 'i', 'l', 'e', '_', 'l', 'o', 'g', '.', 'b', 'i', 'n']

/-- The name a directory entry stands for: what is before `.bin`, unless it is
    the log or its temporary file. -/
def binName (fn : Bytes) : Option Bytes :=
  if fn = logFileName ∨ fn = FileLog.tmpPath logFileName then none
  else if fn.length ≤ binExt.length then none
  else if fn.drop (fn.length - binExt.length) ≠ binExt then none
  else some (fn.take (fn.length - binExt.length))

variable (mp : MountPath)

/-- `bin_on_disk`: names to absolute paths, from the listing of `.tutti`. -/
def binOnDisk (listing : List Bytes) : List (Bytes × Bytes) :=
  emplaceAll (listing.filterMap (fun fn =>
    (binName fn).map (fun name => (name, tuttiDir mp ++ (ascii ['/'] ++ fn)))))

/-- `log_by_name`: names to ids, from the directory. -/
def logByName (l : FileLog) : List (Bytes × Nat) :=
  emplaceAll (l.entries.map (fun e => (e.name, e.fileId)))

/-- Entries whose `.bin` file is missing. -/
def tombstones (bin : List (Bytes × Bytes)) (byName : List (Bytes × Nat)) : List (Bytes × Nat) :=
  byName.filter (fun kv => !hasKey bin kv.1)

/-- `.bin` files without an entry. -/
def ghosts (bin : List (Bytes × Bytes)) (byName : List (Bytes × Nat)) : List (Bytes × Bytes) :=
  bin.filter (fun kv => !hasKey byName kv.1)

/-- What the system calls of one bootstrap return. -/
structure BootEnv where
  /-- Formatting, mounting, `mkdir` and reading the log. -/
  setupOk : Bool
  /-- Persisting the empty directory of a new device. -/
  initOk : Bool
  /-- The regular files of `.tutti`, if it can be listed. -/
  listing : Option (List Bytes)
  /-- The order `log_by_name` is visited in. -/
  order : List (Bytes × Nat) → List (Bytes × Nat)
  /-- Whether a ghost's `unlink` succeeds, by name. -/
  unlinkOk : Bytes → Bool
  persistOk : Bool

/-- The tombstone sweep: the directory left, and how many entries went. -/
def sweepTombstones (l : FileLog) (dead : List (Bytes × Nat)) : FileLog × Nat :=
  dead.foldl (fun acc kv =>
    let r := acc.1.remove kv.2
    (r.1, if r.2 then acc.2 + 1 else acc.2)) (l, 0)

/-- The ghost sweep. -/
def sweepGhosts (d : Disk) (env : BootEnv) (stray : List (Bytes × Bytes)) : Disk :=
  stray.foldl (fun d kv => d.unlink (cStr kv.2) (env.unlinkOk kv.1)) d

/-- `reconcile_locked_`: nothing is done if `.tutti` cannot be listed, and the
    log is persisted only if an entry went. -/
def reconcile (d : Disk) (l : FileLog) (env : BootEnv) : Disk × FileLog × Bool :=
  match env.listing with
  | none => (d, l, false)
  | some listing =>
    let bin := binOnDisk mp listing
    let byName := logByName l
    let swept := sweepTombstones l (tombstones bin (env.order byName))
    let d₁ := sweepGhosts d env (ghosts bin byName)
    -- Ghosts do not count, since the log never listed them.
    if swept.2 ≠ 0 then
      if env.persistOk then (d₁.persist swept.1, swept.1, true) else (d₁, swept.1, false)
    else (d₁, swept.1, true)

/-- A device that was just booted with a directory. -/
def bootedWith (l : FileLog) : DeviceState := ⟨l, [], false, false⟩

/-- The end of a bootstrap, once the directory is loaded: reconcile, whose
    failure is ignored. -/
def finishBoot (d : Disk) (l : FileLog) (env : BootEnv) : Storage :=
  let r := reconcile mp d l env
  ⟨r.1, some (bootedWith r.2.1)⟩

/-- `bootstrap` of one device, given how a persisted directory is loaded. -/
def bootstrapWith (load : FileLog → Option FileLog) (mp : MountPath) (s : Storage)
    (env : BootEnv) : Storage × Bool :=
  if s.dev.isSome then (s, true)
  else if ¬ env.setupOk then (s, false)
  else
    match s.disk.log with
    | none =>
      if env.initOk then (finishBoot mp (s.disk.persist .empty) .empty env, true)
      else (s, false)
    | some l =>
      match load l with
      | none => (s, false)
      | some l' => (finishBoot mp s.disk l' env, true)

/-- `shutdown`: every open file is synced, `fsyncOk` says for which ids this
    succeeds; the directory is persisted, and the device unmounted. -/
def shutdown (s : Storage) (fsyncOk : Nat → Bool) (persistOk umountOk : Bool) : Storage × Bool :=
  match s.dev with
  | none => (s, true)
  | some ds =>
    let d₁ := ds.files.foldl (fun d f =>
      if 0 ≤ f.hostFd ∧ fsyncOk f.id then d.fsync (cStr f.hostPath) else d) s.disk
    let d₂ := if persistOk then d₁.persist ds.log else d₁
    -- The state is dropped whatever failed; only the result tells.
    (⟨d₂, none⟩, persistOk && umountOk)

/-- The actions of a run. -/
inductive Op where
  | bootstrap (env : BootEnv)
  | shutdown (fsyncOk : Nat → Bool) (persistOk umountOk : Bool)
  | crash (pick : Bytes → Option Inode)
  | createFile (name : Bytes) (sizeBytes : UInt64) (persistNow syncNow : Bool) (env : CreateEnv)
  | openFile (name : Bytes) (openFd : Option Nat)
  | closeFile (id : Nat) (fsyncOk persistOk : Bool)
  | deleteFile (id : Nat) (persistNow unlinkOk persistOk : Bool)
  | flushMetadata (syncOk persistOk : Bool)

/-- What an operation returned. -/
inductive Reply where
  | file (f : Option NvmeFile)
  | flag (ok : Bool)
  | none
  deriving DecidableEq

/-- Perform an action. Operations on a device that is not booted fail. -/
def exec (s : Storage) : Op → Storage × Reply
  | .bootstrap env =>
    let r := bootstrapWith some mp s env
    (r.1, .flag r.2)
  | .shutdown fsyncOk persistOk umountOk =>
    let r := HostStorage.shutdown s fsyncOk persistOk umountOk
    (r.1, .flag r.2)
  -- What was in memory only is lost.
  | .crash pick => (⟨s.disk.crash pick, Option.none⟩, .none)
  | .createFile name sizeBytes persistNow syncNow env =>
    match s.dev with
    | Option.none => (s, .file Option.none)
    | some ds =>
      let r := createFileLocked mp s.disk ds name sizeBytes persistNow syncNow env
      (⟨r.1, some r.2.1⟩, .file r.2.2)
  | .openFile name openFd =>
    match s.dev with
    | Option.none => (s, .file Option.none)
    | some ds =>
      let r := HostStorage.openFile mp ds name openFd
      (⟨s.disk, some r.1⟩, .file r.2)
  | .closeFile id fsyncOk persistOk =>
    match s.dev with
    | Option.none => (s, .flag false)
    | some ds =>
      let r := HostStorage.closeFile s.disk ds id fsyncOk persistOk
      (⟨r.1, some r.2.1⟩, .flag r.2.2)
  | .deleteFile id persistNow unlinkOk persistOk =>
    match s.dev with
    | Option.none => (s, .flag false)
    | some ds =>
      let r := HostStorage.deleteFile s.disk ds id persistNow unlinkOk persistOk
      (⟨r.1, some r.2.1⟩, .flag r.2.2)
  | .flushMetadata syncOk persistOk =>
    match s.dev with
    | Option.none => (s, .flag false)
    | some ds =>
      let r := HostStorage.flushMetadata s.disk ds syncOk persistOk
      (⟨r.1, some r.2.1⟩, .flag r.2.2)

/-- The state after an action. -/
def step (s : Storage) (op : Op) : Storage := (exec mp s op).1

/-- What an action returns. -/
def reply (s : Storage) (op : Op) : Reply := (exec mp s op).2

/-- A device that was never booted. -/
def freshDevice : Storage := ⟨.fresh, none⟩

end Geminifs.HostStorage
