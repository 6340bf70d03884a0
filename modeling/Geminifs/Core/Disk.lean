import Geminifs.Core.Fiemap
import Geminifs.Core.LogFormat

/-!
# The Mounted File System of One Device

What the storage layer sees of the ext4 file system it keeps its files on: the
file at each path with its length and extent map, and the directory its log
file holds. Paths are the C strings handed to the system calls.

For every path the disk also keeps what a crash may leave there. Creating,
resizing and unlinking add a possibility without taking the old ones away; a
successful `fsync` of the file, or a `syncfs`, leaves only the current state.
The log is different: `Theory.Persist` shows that a persist takes effect as a
whole or not at all, so the disk keeps the directory last persisted.

## Main definitions

* `Inode`: A file's length and extent map.
* `Disk`: The files, what may survive of them, and the persisted directory.
* `Disk.openCreate`, `Disk.fallocate`, `Disk.fsync`, `Disk.syncfs`,
  `Disk.unlink`, `Disk.persist`: The system calls and the log's persist.
* `Disk.crash`: A crash, given what survives at each path.
-/

namespace Geminifs

open Function

/-- `kNvmeBlockSize`. -/
def kNvmeBlockSize : UInt32 := 4096

/-- `sizeof(NvmeFileHeader)`. -/
def nvmeFileHeaderSize : UInt64 := 4096

/-- A regular file: its length in bytes and its extent map. -/
structure Inode where
  len : Nat
  map : List FiemapExtent
  deriving DecidableEq, Repr

/-- The device blocks of a file, as the kernel reports them. -/
def Inode.lbaExtents (ino : Inode) : List LbaExtent :=
  (fsIocFiemap ino.map 0).map (Fiemap.toLbaExtent kNvmeBlockSize)

structure Disk where
  files : Bytes → Option Inode
  survivors : Bytes → List (Option Inode)
  log : Option FileLog

variable (d : Disk)

namespace Disk

/-- A freshly formatted device. -/
def fresh : Disk := ⟨fun _ => none, fun _ => [none], none⟩

/-- Change the file at a path; the states that may survive there grow by the
    new one. -/
def setFile (p : Bytes) (ino : Option Inode) : Disk :=
  { d with
    files := update d.files p ino
    survivors := update d.survivors p (ino :: d.survivors p) }

/-- `open` with `O_CREAT` and without `O_TRUNC` or `O_EXCL`: a file that is
    there is opened as it is. -/
def openCreate (p : Bytes) : Disk :=
  match d.files p with
  | some _ => d
  | none => d.setFile p (some ⟨0, []⟩)

/-- `fallocate(fd, 0, 0, total)`. The length is an `off_t`, so lengths of zero
    and from `2^63` on are refused; otherwise the file grows to `total` bytes
    and has the extent map the file system chose, unless it has no room. -/
def fallocate (p : Bytes) (total : UInt64) (alloc : Option (List FiemapExtent)) : Option Disk :=
  if total = 0 ∨ 2 ^ 63 ≤ total.toNat then none
  else
    match alloc, d.files p with
    | some map, some ino => some (d.setFile p (some ⟨max ino.len total.toNat, map⟩))
    | _, _ => none

/-- A successful `fsync` of the file at a path. -/
def fsync (p : Bytes) : Disk :=
  { d with survivors := update d.survivors p [d.files p] }

/-- A successful `syncfs`. -/
def syncfs : Disk := { d with survivors := fun p => [d.files p] }

/-- `unlink`, given whether it succeeds. -/
def unlink (p : Bytes) (ok : Bool) : Disk :=
  if ok then d.setFile p none else d

/-- A persist of the directory that returned true. -/
def persist (l : FileLog) : Disk := { d with log := some l }

/-- A crash that leaves `pick` at each path. -/
def crash (pick : Bytes → Option Inode) : Disk :=
  { d with files := pick, survivors := fun p => [pick p] }

end Disk

end Geminifs
