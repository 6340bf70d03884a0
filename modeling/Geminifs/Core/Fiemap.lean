import Geminifs.Core.FileLog

/-!
# Reading a File's Extent Map

`read_extents`: the loop around the `FS_IOC_FIEMAP` ioctl that turns a file's
physical extents into runs of device blocks. The ioctl is a parameter, given
the number of the call and the logical offset asked for; `fsIocFiemap` is what
the kernel documents for a file whose map is known.

The loop has no bound of its own. It is given fuel here, and `Theory.Fiemap`
shows that one call already decides: an answer that would make it ask again
holds more extents than a file may have.

## Main definitions

* `FiemapExtent`: One extent of a kernel answer.
* `readExtents`: The extents of an open file in device blocks, or an error.
* `fsIocFiemap`: The kernel's answer for a file with a given map.
-/

namespace Geminifs

/-- `struct fiemap_extent`; all but the flags in bytes. -/
structure FiemapExtent where
  feLogical : UInt64
  fePhysical : UInt64
  feLength : UInt64
  feFlags : UInt32
  deriving DecidableEq, Repr, Inhabited

/-- `FIEMAP_EXTENT_LAST`. -/
def fiemapExtentLast : UInt32 := 0x1

/-- `UNKNOWN`, `DELALLOC`, `ENCODED`, `DATA_ENCRYPTED`, `NOT_ALIGNED`,
    `DATA_INLINE` and `DATA_TAIL`. `UNWRITTEN` is deliberately not among them. -/
def badFlags : UInt32 := 0x2 ||| 0x4 ||| 0x8 ||| 0x80 ||| 0x100 ||| 0x200 ||| 0x400

def kFiemapMaxExtentsPerCall : Nat := 256

def kNvmeFileHeaderMaxExtents : Nat := 124

structure FiemapResult where
  ok : Bool
  extents : List LbaExtent
  fsBlockSize : UInt32
  error : String
  deriving DecidableEq, Repr

/-- What the calls around the ioctl return: `st_blksize` if `fstat` succeeds,
    whether `fsync` does, and the `errno` of whatever fails. -/
structure FiemapEnv where
  stBlksize : Option UInt32
  fsyncOk : Bool
  errno : Nat
  deriving DecidableEq, Repr

/-- The answer to an ioctl, by call number and `fm_start`; `none` if it
    fails. -/
abbrev FiemapIoctl := Nat → UInt64 → Option (List FiemapExtent)

namespace Fiemap

/-- Where the loop stands: `res.extents`, `done` and `logical_cursor`. -/
structure Scan where
  extents : List LbaExtent
  done : Bool
  cursor : UInt64
  deriving DecidableEq, Repr

def hex (n : Nat) : String := String.ofList (Nat.toDigits 16 n)

/-- One extent of an answer in device blocks of `blk` bytes. -/
def toLbaExtent (blk : UInt32) (ex : FiemapExtent) : LbaExtent :=
  ⟨ex.fePhysical / blk.toUInt64, ex.feLength / blk.toUInt64⟩

/-- The body of the loop over an answer. An error carries what was collected
    so far. -/
def scanExtent (blk : UInt32) (s : Scan) (ex : FiemapExtent) :
    Except (String × List LbaExtent) Scan :=
  if ex.feFlags &&& badFlags ≠ 0 then
    .error ("fiemap extent has bad flags 0x" ++ hex ex.feFlags.toNat ++ " (logical=" ++
      toString ex.feLogical ++ " len=" ++ toString ex.feLength ++ ")", s.extents)
  else if ex.fePhysical % blk.toUInt64 ≠ 0 ∨ ex.feLength % blk.toUInt64 ≠ 0 then
    .error ("extent not NVMe-block-aligned phys=" ++ toString ex.fePhysical ++ " len=" ++
      toString ex.feLength, s.extents)
  else
    let extents := s.extents ++ [toLbaExtent blk ex]
    if kNvmeFileHeaderMaxExtents < extents.length then
      .error ("too many extents (>" ++ toString kNvmeFileHeaderMaxExtents ++
        "); file too fragmented", extents)
    else
      -- The mark of the last extent is kept, and the answer is read to its end.
      .ok { extents := extents
            done := s.done || ex.feFlags &&& fiemapExtentLast ≠ 0
            cursor := ex.feLogical + ex.feLength }

/-- The loop over an answer. -/
def scanExtents (blk : UInt32) : Scan → List FiemapExtent → Except (String × List LbaExtent) Scan
  | s, [] => .ok s
  | s, ex :: exs =>
    match scanExtent blk s ex with
    | .error e => .error e
    | .ok s' => scanExtents blk s' exs

/-- The loop over ioctl calls: it ends at the extent marked last, at an empty
    answer, and at an answer that did not fill the buffer. -/
def readLoop (blk : UInt32) (env : FiemapEnv) (ioctl : FiemapIoctl) :
    Nat → Nat → Scan → Except (String × List LbaExtent) Scan
  -- Not reached with `readFuel`.
  | 0, _, s => .ok s
  | fuel + 1, call, s =>
    match ioctl call s.cursor with
    | none => .error ("FS_IOC_FIEMAP: errno " ++ toString env.errno, s.extents)
    | some answer =>
      let mapped := answer.take kFiemapMaxExtentsPerCall
      if mapped.isEmpty then .ok s
      else
        match scanExtents blk s mapped with
        | .error e => .error e
        | .ok s' =>
          if s'.done then .ok s'
          else if mapped.length < kFiemapMaxExtentsPerCall then .ok s'
          else readLoop blk env ioctl fuel (call + 1) s'

/-- Enough fuel for every answer (`readLoop_fuel`). -/
def readFuel : Nat := 2

end Fiemap

open Fiemap

/-- `read_extents`. -/
def readExtents (fd : Int) (blk : UInt32) (env : FiemapEnv) (ioctl : FiemapIoctl) : FiemapResult :=
  if fd < 0 then ⟨false, [], 0, "invalid fd"⟩
  else if blk = 0 then ⟨false, [], 0, "nvme_block_size_bytes == 0"⟩
  else
    -- A call of `fstat` that fails leaves 0 here.
    let fsBlockSize := env.stBlksize.getD 0
    if fsBlockSize = 0 then
      ⟨false, [], fsBlockSize, "fstat failed (errno " ++ toString env.errno ++ ")"⟩
    else if fsBlockSize % blk ≠ 0 then
      ⟨false, [], fsBlockSize, "fs block size " ++ toString fsBlockSize ++
        " not multiple of NVMe block size " ++ toString blk⟩
    else if ¬ env.fsyncOk then
      ⟨false, [], fsBlockSize, "fsync before fiemap: errno " ++ toString env.errno⟩
    else
      match readLoop blk env ioctl readFuel 0 ⟨[], false, 0⟩ with
      | .error (error, extents) => ⟨false, extents, fsBlockSize, error⟩
      | .ok s =>
        if s.extents.isEmpty then
          ⟨false, [], fsBlockSize, "fiemap returned 0 extents (file is empty / sparse?)"⟩
        else ⟨true, s.extents, fsBlockSize, ""⟩

/-- Whether `read_extents` got as far as a successful `fsync` of the file. -/
def readExtentsSyncs (blk : UInt32) (env : FiemapEnv) : Bool :=
  let fsBlockSize := env.stBlksize.getD 0
  fsBlockSize ≠ 0 && fsBlockSize % blk = 0 && env.fsyncOk

/-- What the kernel answers for a file with the given map: the extents that end
    after `start`, in order, as many as the buffer holds. -/
def fsIocFiemap (map : List FiemapExtent) (start : UInt64) : List FiemapExtent :=
  (map.filter (fun ex => start.toNat < ex.feLogical.toNat + ex.feLength.toNat)).take
    kFiemapMaxExtentsPerCall

end Geminifs
