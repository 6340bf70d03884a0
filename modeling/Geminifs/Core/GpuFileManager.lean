import Geminifs.Core.GpuFiles
import Geminifs.Core.NvmeController

/-!
# The GPU File Manager

`GPUFileManager`: GPU files by id, each with an NVMe file on up to four controllers.

A GPU file is a record in a slot of a log, and its id is the number of the slot. The
record is written when the file is created and blanked when it is deleted; the bitmap
of the slots in use is written after a number of changes, and when the manager is
destroyed.

A file is put in the pool by `initGPUFile`, which opens its NVMe files for the GPU
and keeps their handles, by controller and id, for good. `openGPUFile` takes a file
from the pool and `closeGPUFile` puts it back.

The calls that make NVMe files on several controllers at once do not touch the same
controller, and are done one after the other here. An assertion that fails and an
access out of bounds are `none`. What the calls return is given in advance; a write
that fails leaves the log as it is.

## Main definitions

* `CompactNVMeMapping`, `GPUFileDesc`: A record, with its bytes.
* `LogFile`: The log, with the writes to it.
* `GPUFileManager`: The manager.
* `GPUFileManager.construct`, `GPUFileManager.destroy`: Opening and closing a log.
* `GPUFileManager.createGPUFile`, `GPUFileManager.createGPUFiles`,
  `GPUFileManager.deleteGPUFile`: Files of the log.
* `GPUFileManager.initGPUFile`, `GPUFileManager.openGPUFile`,
  `GPUFileManager.closeGPUFile`: Files of the pool.
* `GPUFileManager.step`: One call.
-/

namespace Geminifs.Gemini

open SlotLog

/-! ### Records -/

/-- `CompactNVMeMapping`: the NVMe files on the first four controllers, and flags. -/
@[ext]
structure CompactNVMeMapping where
  nvmeFileIds : Fin 4 → UInt32
  mappingFlags : UInt8
  deriving DecidableEq

variable (m : CompactNVMeMapping)

namespace CompactNVMeMapping

/-- The default constructor. -/
def empty : CompactNVMeMapping := ⟨fun _ => 0, 0⟩

/-- `is_valid`. -/
def isValid : Bool := m.mappingFlags &&& 0x01 ≠ 0

/-- `set_valid(true)`. -/
def setValid : CompactNVMeMapping :=
  { m with mappingFlags := m.mappingFlags ||| 0x01 }

/-- `has_nvme_controller`, for one of the four. -/
def hasNvmeController (i : Fin 4) : Bool :=
  m.mappingFlags &&& (0x80 >>> UInt8.ofNat i) ≠ 0

/-- The file on a controller, with `set_nvme_controller_exists(i, true)`. -/
def setNvmeFile (i : Fin 4) (id : UInt32) : CompactNVMeMapping where
  nvmeFileIds := Function.update m.nvmeFileIds i id
  mappingFlags := m.mappingFlags ||| (0x80 >>> UInt8.ofNat i)

/-- The loop that maps files to controllers, up to four of them. -/
def setNvmeFiles (m : CompactNVMeMapping) : Nat → List Nat → CompactNVMeMapping
  | _, [] => m
  | i, id :: ids =>
    if h : i < 4 then (m.setNvmeFile ⟨i, h⟩ (UInt32.ofNat id)).setNvmeFiles (i + 1) ids else m

end CompactNVMeMapping

/-- `GPUFileDesc`, without its padding. -/
@[ext]
structure GPUFileDesc where
  fileId : UInt32
  totalFileSize : UInt64
  blockSize : UInt64
  tensorShape : Fin 3 → UInt32
  nvmeMapping : CompactNVMeMapping
  deriving DecidableEq

namespace GPUFileDesc

/-- `sizeof(GPUFileDesc)`. -/
def sizeof : Nat := 56

/-- `MAGIC_NUMBER`: "GPUFITLE". -/
def magicNumber : UInt64 := 0x4750554649544C45

/-- A number of 32 bits, and the one at an offset. -/
def word32 (x : UInt32) : Bytes := leBytes 4 x.toNat

def word32At (off : Nat) (bs : Bytes) : UInt32 := UInt32.ofNat (leNat (field off 4 bs))

def encode (d : GPUFileDesc) : Bytes :=
  word32 d.fileId ++ (zeroBytes 4 ++ (word d.totalFileSize ++ (word d.blockSize ++
    (word32 (d.tensorShape 0) ++ (word32 (d.tensorShape 1) ++ (word32 (d.tensorShape 2) ++
      (word32 (d.nvmeMapping.nvmeFileIds 0) ++ (word32 (d.nvmeMapping.nvmeFileIds 1) ++
        (word32 (d.nvmeMapping.nvmeFileIds 2) ++ (word32 (d.nvmeMapping.nvmeFileIds 3) ++
          ([d.nvmeMapping.mappingFlags] ++ zeroBytes 3)))))))))))

def decode (bs : Bytes) : GPUFileDesc where
  fileId := word32At 0 bs
  totalFileSize := wordAt 8 bs
  blockSize := wordAt 16 bs
  tensorShape := fun i => word32At (24 + 4 * i) bs
  nvmeMapping := ⟨fun i => word32At (36 + 4 * i) bs, bs.getD 52 0⟩

/-- `GPUFileDesc{}`. -/
def blank : GPUFileDesc := ⟨0, 0, 0, fun _ => 0, .empty⟩

/-- The record of a new file, with its NVMe files in the order of the controllers. -/
def new (slot totalFileSize : Nat) (tensorShape nvmeFileIds : List Nat) : GPUFileDesc where
  fileId := UInt32.ofNat slot
  totalFileSize := UInt64.ofNat totalFileSize
  blockSize := UInt64.ofNat (tensorShape.getD 2 0)
  tensorShape := fun i => UInt32.ofNat (tensorShape.getD i 0)
  nvmeMapping := CompactNVMeMapping.empty.setValid.setNvmeFiles 0 nvmeFileIds

end GPUFileDesc

/-! ### The log -/

/-- An open log: what it held when it was opened, and the writes since, in order. A
    crash leaves some of them, from the first one on. -/
structure LogFile where
  start : ByteFile
  writes : List (Nat × Bytes)

namespace LogFile

def content (log : LogFile) : ByteFile := log.start.replay log.writes

def write (log : LogFile) (off : Nat) (bs : Bytes) : LogFile :=
  { log with writes := log.writes ++ [(off, bs)] }

/-- What a crash after `k` of the writes leaves. -/
def crash (log : LogFile) (k : Nat) : ByteFile := log.start.replay (log.writes.take k)

end LogFile

/-- The members of `GPUFileManager`, and its controllers. The files that are open have
    the addresses of their `NVMe_File`s, in the order of the controllers. -/
structure GPUFileManager where
  log : LogFile
  header : LogHeader
  dirtyBitmap : Bitmap
  descs : AList (fun _ : Nat => GPUFileDesc)
  freeList : List Nat
  ctxs : AList (fun _ : Nat => List Nat)
  devFds : AList (fun _ : Nat × Nat => Nat)
  threshold : Nat
  pending : Nat
  controllers : List ManagedController

/-- Whether the writes of `persistBitmap` succeed. -/
structure PersistEnv where
  headerOk : Bool
  bitmapOk : Bool
  deriving DecidableEq, Repr

variable (m : GPUFileManager)

namespace GPUFileManager

/-! ### Opening and closing a log -/

/-- What `initializeLogFile` writes to a new file. -/
def initialWrites : List (Nat × Bytes) :=
  [(0, (newHeader GPUFileDesc.magicNumber GPUFileDesc.sizeof).encode),
    (sizeofHeader, zeroBytes bitmapSizeBytes)]

/-- One turn of the loop of `loadFromFile`: where the next record starts, and the files
    so far. A read that fails goes to the end of the file. -/
def loadRecord (f : ByteFile) (bitmap : Bitmap) (s : Nat × AList (fun _ : Nat => GPUFileDesc))
    (i : Nat) : Nat × AList (fun _ : Nat => GPUFileDesc) :=
  if bitmap i then
    match f.read s.1 GPUFileDesc.sizeof with
    | none => (max s.1 f.size, s.2)
    | some bs =>
      let d := GPUFileDesc.decode bs
      (s.1 + GPUFileDesc.sizeof, if d.nvmeMapping.isValid then s.2.insert d.fileId.toNat d else s.2)
  else (s.1 + GPUFileDesc.sizeof, s.2)

/-- The loop, over the first `n` slots. -/
def loadRecords (f : ByteFile) (bitmap : Bitmap) (pos : Nat) :
    Nat → Nat × AList (fun _ : Nat => GPUFileDesc)
  | 0 => (pos, ∅)
  | n + 1 => loadRecord f bitmap (loadRecords f bitmap pos n) n

/-- What `loadFromFile` sets. The header stays what it was if it cannot be read. -/
def loadFromFile (f : ByteFile) (junk : LogHeader) :
    LogHeader × Bitmap × AList (fun _ : Nat => GPUFileDesc) :=
  match f.read 0 sizeofHeader with
  | none => (junk, Bitmap.zeros, ∅)
  | some bs =>
    let h := LogHeader.decode bs
    if h.magicNum ≠ GPUFileDesc.magicNumber then (h, Bitmap.zeros, ∅)
    else
      match f.read h.bitmapOffset.toNat bitmapSizeBytes with
      | none => (h, Bitmap.zeros, ∅)
      | some buf =>
        let bitmap : Bitmap := fun i => decide (i < maxRecords) && maskedBit buf i
        (h, bitmap, (loadRecords f bitmap h.recordsOffset.toNat maxRecords).2)

/-- The constructor, on a path where there is a file or not. -/
def construct (log : Option ByteFile) (controllers : List ManagedController) (threshold : Nat)
    (junk : LogHeader) : GPUFileManager :=
  let log : LogFile :=
    match log with
    | none => ⟨ByteFile.empty, initialWrites⟩
    | some f => ⟨f, []⟩
  let loaded := loadFromFile log.content junk
  { log := log
    header := loaded.1
    dirtyBitmap := loaded.2.1
    descs := loaded.2.2
    freeList := []
    ctxs := ∅
    devFds := ∅
    threshold := threshold
    pending := 0
    controllers := controllers }

/-- `persistBitmap`. -/
def persistBitmap (env : PersistEnv) : GPUFileManager :=
  let header := { m.header with activeRecordCount := UInt64.ofNat m.descs.keys.length }
  let log := if env.headerOk then m.log.write 0 header.encode else m.log
  let log :=
    if env.bitmapOk then log.write header.bitmapOffset.toNat (bitmapBytes m.dirtyBitmap) else log
  { m with log := log, header := header, pending := 0 }

/-- The end of a change: the bitmap is written if enough is pending. -/
def countWrites (n : Nat) (env : PersistEnv) : GPUFileManager :=
  let m := { m with pending := m.pending + n }
  if m.threshold ≤ m.pending then m.persistBitmap env else m

/-- The destructor: what it leaves on disk. -/
def destroy (env : PersistEnv) : ByteFile := (m.persistBitmap env).log.content

/-- `writeRecordToSlot`, given whether `fwrite` succeeds. -/
def writeRecordToSlot (d : GPUFileDesc) (slot : Nat) (ok : Bool) : GPUFileManager × Bool :=
  if maxRecords ≤ slot ∨ ¬ ok then (m, false)
  else ({ m with log := m.log.write (m.header.slotOffset slot) d.encode }, true)

/-! ### NVMe files -/

/-- The loop of `createNVMeFilesForGPUFile`: a file of the given size on each
    controller, until one fails. -/
def createOnEach (per : Nat) (env : Nat → NewFileEnv) :
    Nat → List ManagedController → Option (List ManagedController × List Nat × Bool)
  | _, [] => some ([], [], true)
  | i, c :: cs =>
    match c.hostFileCreateManagedAuto c.controller.pageSize per (env i) with
    | none => none
    | some (c, none) => some (c :: cs, [], false)
    | some (c, some id) =>
      match createOnEach per env (i + 1) cs with
      | none => none
      | some (cs, ids, ok) => some (c :: cs, id :: ids, ok)

/-- The cleanup of `createNVMeFilesForGPUFile`: each controller deletes its file. -/
def deleteOnEach (env : Nat → DeleteEnv) :
    Nat → List ManagedController → List Nat → List ManagedController
  | i, c :: cs, id :: ids =>
    (c.hostFileDeleteManaged id (env i)).1 :: deleteOnEach env (i + 1) cs ids
  | _, cs, _ => cs

/-- `createNVMeFilesForGPUFile`: one file on each of the first four controllers. -/
def createNVMeFilesForGPUFile (cs : List ManagedController) (fileSize : Nat)
    (env : Nat → NewFileEnv) (undo : Nat → DeleteEnv) :
    Option (List ManagedController × Option (List Nat)) :=
  match perNvmeFileSize fileSize cs.length with
  | none => some (cs, none)
  | some per =>
    match createOnEach per env 0 (cs.take 4) with
    | none => none
    | some (made, ids, true) => some (made ++ cs.drop 4, some ids)
    | some (made, ids, false) => some (deleteOnEach undo 0 made ids ++ cs.drop 4, none)

/-- The loop of `createNVMeFilesPerDevice`: files of the given size on one controller,
    until one fails. -/
def createOnOne (per : Nat) (env : Nat → NewFileEnv) :
    Nat → Nat → ManagedController → Option (ManagedController × List Nat × Bool)
  | _, 0, c => some (c, [], true)
  | i, n + 1, c =>
    match c.hostFileCreateManagedAuto c.controller.pageSize per (env i) with
    | none => none
    | some (c, none) => some (c, [], false)
    | some (c, some id) =>
      match createOnOne per env (i + 1) n c with
      | none => none
      | some (c, ids, ok) => some (c, id :: ids, ok)

/-- The cleanup of `createNVMeFilesPerDevice`. -/
def deleteOnOne (env : Nat → DeleteEnv) : Nat → ManagedController → List Nat → ManagedController
  | _, c, [] => c
  | i, c, id :: ids => deleteOnOne env (i + 1) (c.hostFileDeleteManaged id (env i)).1 ids

/-- `createNVMeFilesPerDevice`: the files of one controller. -/
def createNVMeFilesPerDevice (c : ManagedController) (fileSize nvmeCount toCreate : Nat)
    (env : Nat → NewFileEnv) (undo : Nat → DeleteEnv) :
    Option (ManagedController × Option (List Nat)) :=
  match perNvmeFileSize fileSize nvmeCount with
  | none => some (c, none)
  | some per =>
    match createOnOne per env 0 toCreate c with
    | none => none
    | some (c, ids, true) => some (c, some ids)
    | some (c, ids, false) => some (deleteOnOne undo 0 c ids, none)

/-- The tasks of `createGPUFiles`, one for each controller. All of them come to their
    end. A task that fails returns no files. -/
def createOnAll (fileSize nvmeCount toCreate : Nat) (env : Nat → Nat → NewFileEnv)
    (undo : Nat → Nat → DeleteEnv) :
    Nat → List ManagedController → Option (List ManagedController × List (List Nat))
  | _, [] => some ([], [])
  | j, c :: cs =>
    match createNVMeFilesPerDevice c fileSize nvmeCount toCreate (env j) (undo j) with
    | none => none
    | some (c, ids) =>
      match createOnAll fileSize nvmeCount toCreate env undo (j + 1) cs with
      | none => none
      | some (cs, results) => some (c :: cs, ids.getD [] :: results)

/-- One turn of `deleteNVMeFilesForGPUFile`, and whether all went well so far. -/
def deleteMapped (mapping : CompactNVMeMapping) (env : Nat → DeleteEnv)
    (s : List ManagedController × Bool) (i : Fin 4) : List ManagedController × Bool :=
  if mapping.hasNvmeController i then
    match s.1[i.val]? with
    | none => (s.1, false)
    | some c =>
      let (c, deleted) := c.hostFileDeleteManaged (mapping.nvmeFileIds i).toNat (env i)
      (s.1.set i c, s.2 && deleted)
  else s

/-- `deleteNVMeFilesForGPUFile`. -/
def deleteNVMeFilesForGPUFile (cs : List ManagedController) (mapping : CompactNVMeMapping)
    (env : Nat → DeleteEnv) : List ManagedController × Bool :=
  if ¬ mapping.isValid then (cs, true)
  else (List.finRange 4).foldl (deleteMapped mapping env) (cs, true)

/-! ### Files of the log -/

/-- The calls of `createGPUFile`, by controller. -/
structure CreateOneEnv where
  new : Nat → NewFileEnv
  cleanup : Nat → DeleteEnv
  rollback : Nat → DeleteEnv
  recordOk : Bool
  persist : PersistEnv

/-- `createGPUFile`: the id of the new file. -/
def createGPUFile (totalFileSize : Nat) (tensorShape : List Nat)
    (env : CreateOneEnv) : Option (GPUFileManager × Option Nat) :=
  match findNextFreeSlot m.dirtyBitmap with
  | none => some (m, none)
  | some slot =>
    if (m.descs.lookup slot).isSome then some (m, none)
    else if tensorShape.length ≠ 3 then some (m, none)
    else
      match createNVMeFilesForGPUFile m.controllers totalFileSize env.new env.cleanup with
      | none => none
      | some (cs, none) => some ({ m with controllers := cs }, none)
      | some (cs, some ids) =>
        let d := GPUFileDesc.new slot totalFileSize tensorShape ids
        match { m with controllers := cs }.writeRecordToSlot d slot env.recordOk with
        | (m, false) =>
          let cs := (deleteNVMeFilesForGPUFile cs d.nvmeMapping env.rollback).1
          some ({ m with controllers := cs }, none)
        | (m, true) =>
          let m := { m with
            descs := m.descs.insert slot d, dirtyBitmap := m.dirtyBitmap.setBit slot }
          some (m.countWrites 1 env.persist, some slot)

/-- `findMultipleFreeSlots`. -/
def findMultipleFreeSlots (bm : Bitmap) (count : Nat) : List Nat :=
  let freeSlots := findZerosFrom bm maxRecords 0 count
  if freeSlots.length < count then [] else freeSlots

/-- The calls of `createGPUFiles`, by controller and file. -/
structure CreateManyEnv where
  new : Nat → Nat → NewFileEnv
  cleanup : Nat → Nat → DeleteEnv
  rollback : Nat → Nat → DeleteEnv
  recordOk : Nat → Bool
  persist : PersistEnv

/-- The records of new files are written one after the other. If one fails, its number
    is returned. -/
def writeRecords (recordOk : Nat → Bool) :
    Nat → List (Nat × GPUFileDesc) → GPUFileManager → GPUFileManager × Option Nat
  | _, [], m => (m, none)
  | i, (slot, d) :: rest, m =>
    match m.writeRecordToSlot d slot (recordOk i) with
    | (m, false) => (m, some i)
    | (m, true) => writeRecords recordOk (i + 1) rest m

/-- The NVMe files of some new files are deleted. -/
def rollbackFiles (env : Nat → Nat → DeleteEnv) :
    Nat → List (Nat × GPUFileDesc) → List ManagedController → List ManagedController
  | _, [], cs => cs
  | i, (_, d) :: rest, cs =>
    rollbackFiles env (i + 1) rest
      (deleteNVMeFilesForGPUFile cs d.nvmeMapping (fun j => env j i)).1

/-- The slots of new files with their records. -/
def newFiles (totalFileSize : Nat) (tensorShape slots : List Nat) (results : List (List Nat)) :
    List (Nat × GPUFileDesc) :=
  slots.zipIdx.map fun (slot, i) =>
    (slot, GPUFileDesc.new slot totalFileSize tensorShape (results.filterMap (·[i]?)))

/-- New files are put in the map. -/
def addDescs (descs : AList (fun _ : Nat => GPUFileDesc)) (files : List (Nat × GPUFileDesc)) :
    AList (fun _ : Nat => GPUFileDesc) :=
  files.foldl (fun ds e => ds.insert e.1 e.2) descs

/-- `release_slots_with_lock`. -/
def releaseSlots (slots : List Nat) : GPUFileManager :=
  { m with dirtyBitmap := m.dirtyBitmap.clearAll slots }

/-- `createGPUFiles`: the ids of the new files. -/
def createGPUFiles (totalFileSize toCreate : Nat) (tensorShape : List Nat)
    (env : CreateManyEnv) : Option (GPUFileManager × Option (List Nat)) :=
  if tensorShape.length ≠ 3 then some (m, none)
  else
    let slots := findMultipleFreeSlots m.dirtyBitmap toCreate
    -- The slots to be released are looked for in the vector that is too short.
    if slots.length ≠ toCreate then none
    else
      let m := { m with dirtyBitmap := m.dirtyBitmap.setAll slots }
      if slots.any (fun slot => (m.descs.lookup slot).isSome) then
        some (m.releaseSlots slots, none)
      else
        match createOnAll totalFileSize m.controllers.length toCreate env.new env.cleanup 0
          m.controllers with
        | none => none
        | some (cs, results) =>
          let m := { m with controllers := cs }
          if results.any (fun ids => ids.isEmpty || ids.length ≠ toCreate) then
            some (m.releaseSlots slots, none)
          else
            let files := newFiles totalFileSize tensorShape slots results
            match writeRecords env.recordOk 0 files m with
            | (m, some i) =>
              -- The files behind the one that failed have no records yet.
              let cs := rollbackFiles env.rollback 0 (files.take (i + 1)) m.controllers
              some ({ m with controllers := cs }.releaseSlots slots, none)
            | (m, none) =>
              let m := { m with descs := addDescs m.descs files }
              some (m.countWrites toCreate env.persist, some slots)

/-- The calls of `deleteGPUFile`, by controller. -/
structure DeleteGPUEnv where
  delete : Nat → DeleteEnv
  recordOk : Bool
  persist : PersistEnv

/-- `deleteGPUFile`. Neither the pool nor the handles are looked at. -/
def deleteGPUFile (id : Nat) (env : DeleteGPUEnv) : Option (GPUFileManager × Bool) :=
  match m.descs.lookup id with
  | none => some (m, false)
  | some d =>
    -- There is no bit for an id that does not name a slot.
    if maxRecords ≤ id then none
    else
      let m := { m with
        controllers := (deleteNVMeFilesForGPUFile m.controllers d.nvmeMapping env.delete).1
        descs := m.descs.erase id
        dirtyBitmap := m.dirtyBitmap.clearBit id
        header := { m.header with activeRecordCount := m.header.activeRecordCount - 1 } }
      let m := (m.writeRecordToSlot .blank id env.recordOk).1
      some (m.countWrites 1 env.persist, true)

/-! ### Files of the pool -/

/-- The loop of `initGPUFile`, over some of the controllers: each file that has no
    handle yet is opened. -/
def openMapped (mapping : CompactNVMeMapping) (env : Nat → OpenEnv) :
    List (Fin 4) → GPUFileManager → Option (GPUFileManager × Bool)
  | [], m => some (m, true)
  | i :: is, m =>
    let id := (mapping.nvmeFileIds i).toNat
    match m.controllers[i.val]? with
    -- The loop ends with the last controller.
    | none => some (m, true)
    | some c =>
      if ¬ mapping.hasNvmeController i ∨ (m.devFds.lookup (i.val, id)).isSome then
        openMapped mapping env is m
      else
        match c.deviceFileOpenManagedById id (env i) with
        | none => none
        | some (c, none) => some ({ m with controllers := m.controllers.set i c }, false)
        | some (c, some fd) =>
          openMapped mapping env is
            { m with
              controllers := m.controllers.set i c
              devFds := m.devFds.insert (i.val, id) fd }

/-- `initGPUFile`. That the file may be in the pool already is not checked. -/
def initGPUFile (id : Nat) (env : Nat → OpenEnv) : Option (GPUFileManager × Bool) :=
  if m.controllers.length = 0 then some (m, false)
  else
    match m.descs.lookup id with
    | none => some (m, false)
    | some d =>
      if ¬ d.nvmeMapping.isValid then some (m, false)
      else
        match openMapped d.nvmeMapping env (List.finRange 4) m with
        | none => none
        | some (m, false) => some (m, false)
        | some (m, true) => some ({ m with freeList := m.freeList ++ [id] }, true)

/-- The loop of `getDevFdById`, over some of the controllers. -/
def devFdsOf (m : GPUFileManager) (mapping : CompactNVMeMapping) : List (Fin 4) → Option (List Nat)
  | [] => some []
  | i :: is =>
    if m.controllers.length ≤ i then some []
    else if ¬ mapping.hasNvmeController i then devFdsOf m mapping is
    else
      match m.devFds.lookup (i.val, (mapping.nvmeFileIds i).toNat) with
      | none => none
      | some fd => (devFdsOf m mapping is).map (fd :: ·)

/-- `getDevFdById`. -/
def getDevFdById (id : Nat) : Option (List Nat) :=
  match m.descs.lookup id with
  | none => none
  | some d =>
    if ¬ d.nvmeMapping.isValid ∨ m.controllers.length = 0 then none
    else devFdsOf m d.nvmeMapping (List.finRange 4)

/-- `openGPUFile`: the id of the file, which is the last one of the pool. -/
def openGPUFile (mallocOk memcpyOk : Bool) : Option (GPUFileManager × Option Nat) :=
  match m.freeList.getLast? with
  | none => some (m, none)
  | some id =>
    match m.getDevFdById id with
    | none => none
    | some fds =>
      if ¬ mallocOk ∨ ¬ memcpyOk then
        some ({ m with freeList := m.freeList.dropLast ++ [id] }, none)
      else
        some ({ m with freeList := m.freeList.dropLast, ctxs := m.ctxs.insert id fds }, some id)

/-- The loop of `std::lower_bound`, over `len` elements from `first` on. Each turn
    leaves fewer elements. -/
def lowerBoundLoop (l : List Nat) (v : Nat) : Nat → Nat → Nat → Nat
  | 0, first, _ => first
  | turns + 1, first, len =>
    if len = 0 then first
    else
      let half := len / 2
      if l.getD (first + half) 0 < v then
        lowerBoundLoop l v turns (first + half + 1) (len - half - 1)
      else lowerBoundLoop l v turns first half

/-- `std::lower_bound`. Nothing says that the list is sorted. -/
def lowerBound (l : List Nat) (v : Nat) : Nat := lowerBoundLoop l v l.length 0 l.length

/-- `closeGPUFile`. -/
def closeGPUFile (id : Nat) : GPUFileManager × Bool :=
  match m.ctxs.lookup id with
  | none => (m, false)
  | some _ =>
    let at_ := lowerBound m.freeList id
    let freeList :=
      if m.freeList[at_]? = some id then m.freeList else m.freeList.insertIdx at_ id
    ({ m with ctxs := m.ctxs.erase id, freeList := freeList }, true)

/-- `getNVMeFilesSpanById`. -/
def getNVMeFilesSpanById (id : Nat) : Option (List Nat) := m.ctxs.lookup id

/-! ### Calls -/

/-- The calls, with what happens in them. -/
inductive Call where
  | createGPUFile (totalFileSize : Nat) (tensorShape : List Nat) (env : CreateOneEnv)
  | createGPUFiles (totalFileSize toCreate : Nat) (tensorShape : List Nat) (env : CreateManyEnv)
  | initGPUFile (id : Nat) (env : Nat → OpenEnv)
  | openGPUFile (mallocOk memcpyOk : Bool)
  | closeGPUFile (id : Nat)
  | deleteGPUFile (id : Nat) (env : DeleteGPUEnv)

def step : Call → Option GPUFileManager
  | .createGPUFile totalFileSize tensorShape env =>
    (m.createGPUFile totalFileSize tensorShape env).map Prod.fst
  | .createGPUFiles totalFileSize toCreate tensorShape env =>
    (m.createGPUFiles totalFileSize toCreate tensorShape env).map Prod.fst
  | .initGPUFile id env => (m.initGPUFile id env).map Prod.fst
  | .openGPUFile mallocOk memcpyOk => (m.openGPUFile mallocOk memcpyOk).map Prod.fst
  | .closeGPUFile id => some (m.closeGPUFile id).1
  | .deleteGPUFile id env => (m.deleteGPUFile id env).map Prod.fst

end GPUFileManager

end Geminifs.Gemini
