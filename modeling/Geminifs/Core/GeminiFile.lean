import Geminifs.Core.Fiemap

/-!
# GeminiFS Files

A GeminiFS file is an ordinary file that starts with a header of 512 bytes. The
header holds the extents of the file, as the kernel reported them when the file
was made, so that the GPU can find a virtual address on the device by itself.
The host goes through the file system.

An assertion that fails ends the process, and so does a file with too many
extents: these are `none` here. What the system calls return is given in
advance.

## Main definitions

* `GeminiHdr`: The header.
* `hostCreateGeminifsFile`, `hostFileCreateManaged`: What a new file holds as its
  header, alone and under a file manager.
* `hostOpenGeminifsFile`: What is read from a file.
* `hostXferGeminifsFile`: The calls of a transfer of the host.
* `getNvmeofst`, `nvmeXfer`: The walk of the GPU over the extents, and the
  command of one of its transfers.
* `diskByte`, `fiemapRange`: Where the file system has a byte of a file, and what
  it reports about a range.
-/

namespace Geminifs.Gemini

/-- A value cut to 64 bits. -/
def u64 (n : Nat) : Nat := n % 18446744073709551616

/-- The first bytes of a file: `struct geminiFS_hdr`, without the descriptor, which
    is a dummy there. -/
structure GeminiHdr where
  magicNum : Nat
  firstBlockBase : Nat
  virtualSpaceSize : Nat
  blockBit : Nat
  extents : List FiemapExtent
  deriving DecidableEq, Repr

/-- `the_geminiFS_magic`: the bytes of "geminifs", the first one lowest. -/
def theGeminiFSMagic : Nat := 0x7366696e696d6567

/-- `GEMINI_HDR_MAX_SIZE`. -/
def geminiHdrMaxSize : Nat := 512

/-- `GEMINI_HDR_MAX_EXTENTS`: the header and an extent have 32 bytes each. -/
def geminiHdrMaxExtents : Nat := (geminiHdrMaxSize - 32) / 32

/-- The loop of `one_nr__of__binary_int`, for a number of the given width. -/
def oneNrLoop : Nat → Nat → Nat
  | 0, _ => 0
  | width + 1, i => if i = 0 then 0 else i % 2 + oneNrLoop width (i / 2)

/-- `one_nr__of__binary_int`: the number of ones. -/
def oneNrOfBinaryInt (i : Nat) : Nat := oneNrLoop 64 i

/-- `ROUND_UP`, which is meant for powers of two. -/
def roundUp (x align : Nat) : Nat := u64 (x + (align - 1)) &&& (18446744073709551616 - align)

/-- What the two calls of `FS_IOC_FIEMAP` return: a number of extents, and then the
    extents. -/
structure ReadFiemapEnv where
  count : Option Nat
  answer : Option (List FiemapExtent)
  deriving DecidableEq, Repr

/-- `read_fiemap`: the second call has room for as many extents as the first one
    counted. -/
def readFiemap (env : ReadFiemapEnv) : Option (List FiemapExtent) :=
  match env.count with
  | none | some 0 => none
  | some (n + 1) => env.answer.map (List.take (n + 1))

/-- Whether the calls around it succeed. -/
structure CreateEnv where
  openOk : Bool
  fallocateOk : Bool
  mmapOk : Bool
  fiemap : ReadFiemapEnv
  deriving DecidableEq, Repr

/-- `host_refine_nvmeofst`: the header that is left in the file. -/
def hostRefineNvmeofst (hdr : GeminiHdr) (env : CreateEnv) : Option GeminiHdr :=
  if ¬ env.mmapOk then none
  else
    match readFiemap env.fiemap with
    | none => none
    | some extents =>
      if geminiHdrMaxExtents < extents.length then none
      else some { hdr with extents := extents }

/-- `host_create_geminifs_file`; a remainder by 0 ends the process as well. -/
def hostCreateGeminifsFile (blockSize virtualSpaceSize : Nat) (env : CreateEnv) :
    Option GeminiHdr :=
  if blockSize = 0 ∨ virtualSpaceSize % blockSize ≠ 0 then none
  else if ¬ env.openOk ∨ ¬ env.fallocateOk then none
  else
    hostRefineNvmeofst
      { magicNum := theGeminiFSMagic
        firstBlockBase := geminiHdrMaxSize
        -- A block size that is no power of two gets here too, and both fields are off.
        virtualSpaceSize := roundUp virtualSpaceSize blockSize
        blockBit := oneNrOfBinaryInt (blockSize - 1)
        extents := [] } env

/-- `__builtin_ctzll`: the number of zeros below the lowest one. -/
def ctzll (i : Nat) : Nat := ((List.range 64).find? i.testBit).getD 64

/-- Whether the controller is initialized, its file manager has a record for the
    file, and the calls succeed. -/
structure ManagedEnv where
  initialized : Bool
  recordOk : Bool
  mallocOk : Bool
  file : CreateEnv
  deriving DecidableEq, Repr

/-- `host_file_create_managed`, on a controller with the given page size. -/
def hostFileCreateManaged (pageSize blockSize fileSize : Nat) (env : ManagedEnv) :
    Option GeminiHdr :=
  if ¬ env.initialized ∨ ¬ env.recordOk then none
  else if blockSize = 0 ∨ fileSize % blockSize ≠ 0 then none
  else if pageSize = 0 ∨ blockSize % pageSize ≠ 0 then none
  else if ¬ env.mallocOk ∨ ¬ env.file.openOk ∨ ¬ env.file.fallocateOk then none
  else
    hostRefineNvmeofst
      { magicNum := theGeminiFSMagic
        firstBlockBase := geminiHdrMaxSize
        virtualSpaceSize := fileSize
        blockBit := ctzll blockSize
        extents := [] } env.file

/-- `host_open_geminifs_file`, for a file that starts with the given header. -/
def hostOpenGeminifsFile (onDisk : GeminiHdr) : Option GeminiHdr :=
  if onDisk.magicNum ≠ theGeminiFSMagic then none else some onDisk

/-! ### The host -/

/-- `host__convert_va__to`: the offset in the file. -/
def hostConvertVaTo (hdr : GeminiHdr) (va : Nat) : Nat := u64 (hdr.firstBlockBase + va)

/-- The loop of a transfer from a position of the file on: the position and length
    of each `read` or `write`. One that fails ends the process; one that moves
    nothing is repeated. -/
def hostXferLoop : Nat → Nat → List (Option Nat) → List (Nat × Nat)
  | _, 0, _ => []
  | _, _ + 1, [] => []
  | pos, nbyte + 1, none :: _ => [(pos, nbyte + 1)]
  | pos, nbyte + 1, some r :: rs =>
    (pos, nbyte + 1) :: hostXferLoop (pos + min r (nbyte + 1)) (nbyte + 1 - min r (nbyte + 1)) rs

/-- `host_xfer_geminifs_file`: the calls, given what they return. -/
def hostXferGeminifsFile (hdr : GeminiHdr) (va nbyte : Nat) (results : List (Option Nat)) :
    List (Nat × Nat) :=
  hostXferLoop (hostConvertVaTo hdr va) nbyte results

/-- Where the file system has the byte `o` of a file with the given map. -/
def diskByte (map : List FiemapExtent) (o : Nat) : Option Nat :=
  (map.find? fun ex =>
    ex.feLogical.toNat ≤ o ∧ o < ex.feLogical.toNat + ex.feLength.toNat).map fun ex =>
      ex.fePhysical.toNat + (o - ex.feLogical.toNat)

/-- What the kernel documents as the answer for a range of a file with the given map:
    the extents that have a byte in it, whole and in order. -/
def fiemapRange (map : List FiemapExtent) (start length : Nat) : List FiemapExtent :=
  map.filter fun ex =>
    ex.feLogical.toNat < start + length ∧ start < ex.feLogical.toNat + ex.feLength.toNat

/-! ### The GPU -/

/-- The loop of `__get_nvmeofst`: `start` is the number of blocks in the extents
    passed. -/
def findBlock (bit blkId : Nat) : Nat → List FiemapExtent → Option Nat
  | _, [] => none
  | start, ex :: exs =>
    -- A rest of the extent below one block is dropped.
    let stop := u64 (start + ex.feLength.toNat / 2 ^ bit)
    if start ≤ blkId ∧ blkId < stop then
      some (u64 (ex.fePhysical.toNat + u64 ((blkId - start) * 2 ^ bit)))
    else findBlock bit blkId stop exs

/-- `__get_nvmeofst`: the byte of the device for a virtual address. -/
def getNvmeofst (hdr : GeminiHdr) (va : Nat) : Option Nat :=
  -- Counted from the first extent on; the host starts at `first_block_base`.
  findBlock hdr.blockBit (va / 2 ^ hdr.blockBit) 0 hdr.extents

/-- `nvme_xfer`: the first block and the number of blocks of the command, on a
    device with blocks of `2 ^ blockSizeLog` bytes. -/
def nvmeXfer (hdr : GeminiHdr) (nvmePageSize blockSizeLog fileOffset nbytes : Nat) :
    Option (Nat × Nat) :=
  if nbytes % nvmePageSize ≠ 0 ∨ fileOffset % nvmePageSize ≠ 0 then none
  else (getNvmeofst hdr fileOffset).map fun ofst =>
    (ofst / 2 ^ blockSizeLog, nbytes / 2 ^ blockSizeLog)

end Geminifs.Gemini
