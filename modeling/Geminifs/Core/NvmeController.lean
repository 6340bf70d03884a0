import Geminifs.Core.GeminiFile
import Geminifs.Core.NvmeFileManager
import Geminifs.Library.PosixPath
import Mathlib.Logic.Function.Basic

/-!
# The Files of an NVMe Controller

`NVMeController`: a controller with its mount point, the file manager whose log is
kept there, and the copies of file headers in GPU memory.

A managed file is a GeminiFS file in the directory of the mount point and a record
in the file manager. There are four ways to make one, and each builds a header in
memory of its own: `host_refine_nvmeofst` writes the extents to the file and not to
that memory, where they stay what `malloc` returned. A file is opened for the GPU by
copying its header there and making an `NVMe_File` that points to the copy.

An assertion that fails, `exit` and an exception end the process, which is `none`.
What the system calls and the CUDA calls return is given in advance. Addresses are
handed out in order, in host and GPU memory alike, and not used again. The working
directory is the root. There are no links, and no directories but those on the way
to the mount point. The log of the file manager is not among the files here.

## Main definitions

* `Controller`: What it knows about the device, and the paths of its files.
* `ManagedController`: The controller.
* `ManagedController.hostFileCreateManaged`,
  `ManagedController.hostFileCreateManagedAuto`,
  `ManagedController.hostFileCreateOnlyManaged`,
  `ManagedController.deviceFileCreateManaged`: The four ways to make a file.
* `ManagedController.deviceFileOpenManaged`, `ManagedController.deviceFileCloseManaged`:
  Files of the GPU.
* `ManagedController.deviceFileDeleteSingleManaged`,
  `ManagedController.hostFileDeleteManaged`,
  `ManagedController.deviceFileDeleteAllFilesManaged`: Deleting files.
* `ManagedController.gOpen`: Opening a file, or making one.
-/

namespace Geminifs.Gemini

open Function

/-- A regular file: the header it starts with, if any. The serial number says which
    creation made it what it is. -/
structure DataFile where
  serial : Nat
  length : Nat
  hdr : Option GeminiHdr
  deriving DecidableEq, Repr

/-- What is at an address in GPU memory: a copy of a header with its descriptor, or an
    `NVMe_File` with the address of one. -/
inductive GpuObject where
  | header (hdr : GeminiHdr) (fd : Nat)
  | nvmeFile (hdr : Nat)
  deriving DecidableEq, Repr

/-- `host_fd_t`: the address of a header in host memory, and what is there. The
    descriptor in it is the serial number of the file it is open on. -/
structure HostFd where
  addr : Nat
  hdr : GeminiHdr
  fd : Nat
  deriving DecidableEq, Repr

/-- `DeviceFileHandle`. -/
structure DeviceFileHandle where
  hostFd : HostFd
  deviceFd : Nat
  hdrSize : Nat
  filename : Bytes
  dNvmeFile : Nat
  deriving DecidableEq, Repr

/-- `Controller`, as far as files go. The mount path was made from a C string. -/
structure Controller where
  devMountPath : Bytes
  pageSize : Nat
  blkSize : Nat
  nulFree : 0 ∉ devMountPath

/-- `NVMeController` and the files below its mount point. A file is found by the
    components that lead to it. -/
structure ManagedController where
  initialized : Bool
  controller : Controller
  fm : FileManager
  files : List Bytes → Option DataFile
  deviceFiles : List DeviceFileHandle
  gpu : Nat → Option GpuObject
  nextAddr : Nat
  nextSerial : Nat

/-- The calls for a new file, and the extents that the memory for its header holds
    before anything is written there. -/
structure MakeEnv where
  mallocOk : Bool
  memory : List FiemapExtent
  file : CreateEnv
  deriving DecidableEq, Repr

/-- The CUDA calls for a file: space for the header, copying it, space for the
    `NVMe_File`, and the kernel that initializes it. -/
structure CudaEnv where
  mallocOk : Bool
  memcpyOk : Bool
  mallocFileOk : Bool
  initOk : Bool
  deriving DecidableEq, Repr

/-- A file that is made: its record, and what takes it back. -/
structure NewFileEnv where
  make : MakeEnv
  record : WriteEnv
  undo : WriteEnv
  unlinkOk : Bool
  deriving DecidableEq, Repr

/-- A file that is opened: whether `host_open_geminifs_file` gets at the header. A
    record that is not found leaves `name` as the name in its place. -/
structure OpenEnv where
  openOk : Bool
  name : Bytes
  cuda : CudaEnv
  deriving DecidableEq, Repr

/-- A file that is deleted. -/
structure DeleteEnv where
  unlinkOk : Bool
  record : WriteEnv
  force : WriteEnv
  deriving DecidableEq, Repr

/-- The header that a function builds for a new file in its own memory. -/
def ownHdr (blockSize fileSize : Nat) (memory : List FiemapExtent) : GeminiHdr where
  magicNum := theGeminiFSMagic
  firstBlockBase := geminiHdrMaxSize
  virtualSpaceSize := fileSize
  blockBit := ctzll blockSize
  extents := memory

variable (ctrl : Controller)

namespace Controller

/-! ### Paths -/

/-- The directories: the mount point, and those on the way there. -/
def isDir (p : List Bytes) : Bool := p ∈ ancestors ctrl.devMountPath

/-- Where a path that is given to a system call leads. -/
def place (path : Bytes) : Option (List Bytes) :=
  follow ctrl.isDir (cStr path)

/-- `string(dev_mount_path) + "/" + filename`. -/
def concatPath (filename : Bytes) : Bytes :=
  ctrl.devMountPath ++ slash :: filename

/-- `build_file_path`, in the mount point. -/
def buildFilePath (filename : Bytes) : Bytes :=
  if ctrl.devMountPath = [] ∨ ctrl.devMountPath.getLast? = some slash then
    ctrl.devMountPath ++ filename
  else ctrl.devMountPath ++ slash :: filename

/-- `std::filesystem::path(dev_mount_path) / filename`: an absolute name stands for
    itself. -/
def joinPath (filename : Bytes) : Bytes :=
  if filename.head? = some slash then filename else ctrl.buildFilePath filename

/-- The assertions about the sizes. -/
def sizesOk (blockSize fileSize : Nat) : Bool :=
  blockSize ≠ 0 && fileSize % blockSize = 0 &&
    ctrl.pageSize ≠ 0 && blockSize % ctrl.pageSize = 0

end Controller

variable (c : ManagedController)

namespace ManagedController

/-- The constructor, on a mount point with a log and files. The serial numbers from
    the given one on are not in use. -/
def construct (controller : Controller) (log : Option ByteFile)
    (files : List Bytes → Option DataFile) (serial : Nat) : Option ManagedController :=
  (FileManager.construct log 1000).map fun fm =>
    { initialized := true
      controller := controller
      fm := fm
      files := files
      deviceFiles := []
      gpu := fun _ => none
      nextAddr := 1
      nextSerial := serial }

/-! ### The directory -/

/-- `stat` and `std::filesystem::exists`. -/
def fileExists (path : Bytes) : Bool :=
  match c.controller.place path with
  | none => false
  | some p => c.controller.isDir p || (c.files p).isSome

def setFile (p : List Bytes) (f : Option DataFile) : ManagedController :=
  { c with files := update c.files p f }

/-- `unlink`, and whether it succeeds. -/
def unlink (path : Bytes) (ok : Bool) : ManagedController × Bool :=
  match c.controller.place path with
  | none => (c, false)
  | some p =>
    if ok && !c.controller.isDir p && (c.files p).isSome then (c.setFile p none, true)
    else (c, false)

/-- `std::filesystem::remove`. No directory here is empty. -/
def remove (path : Bytes) (ok : Bool) : Option ManagedController :=
  if ¬ c.fileExists path then some c
  else
    match c.controller.place path with
    | none => some c
    | some p => if ok && !c.controller.isDir p then some (c.setFile p none) else none

/-- A file made anew, in place of the one before it if there is one. -/
def newFile (p : List Bytes) (length : Nat) (hdr : Option GeminiHdr) : ManagedController :=
  { c with nextSerial := c.nextSerial + 1 }.setFile p (some ⟨c.nextSerial, length, hdr⟩)

/-- `open` with `O_CREAT`, `O_RDWR` and `O_TRUNC`, `fallocate` and
    `host_refine_nvmeofst`: whether the file is made. -/
def makeFile (path : Bytes) (hdr : GeminiHdr) (env : CreateEnv) :
    Option (ManagedController × Bool) :=
  match c.controller.place path with
  | none => some (c, false)
  | some p =>
    if ¬ env.openOk ∨ c.controller.isDir p then some (c, false)
    -- The file stays, and stays empty, if there is no room for it.
    else if ¬ env.fallocateOk then some (c.newFile p 0 none, false)
    else
      match hostRefineNvmeofst hdr env with
      | none => none
      | some stored =>
        some (c.newFile p (geminiHdrMaxSize + hdr.virtualSpaceSize) (some stored), true)

/-- `write` to the start of a file. -/
def writeHdr (path : Bytes) (hdr : GeminiHdr) : ManagedController :=
  match c.controller.place path with
  | none => c
  | some p => c.setFile p ((c.files p).map fun f => { f with hdr := some hdr })

/-! ### Host files -/

/-- `host_file_create_managed` with a name: the id of the new file. -/
def hostFileCreateManaged (blockSize fileSize : Nat) (filename : Bytes)
    (env : NewFileEnv) : Option (ManagedController × Option Nat) :=
  if ¬ c.initialized then some (c, none)
  else if ¬ c.controller.sizesOk blockSize fileSize then none
  else if ¬ env.make.mallocOk then some (c, none)
  else
    let path := c.controller.concatPath filename
    match c.makeFile path (ownHdr blockSize fileSize env.make.memory) env.make.file with
    | none => none
    | some (c, false) => some (c, none)
    | some (c, true) =>
      match c.fm.createFile filename (UInt64.ofNat fileSize) env.record with
      | (fm, some d) => some ({ c with fm := fm }, some d.slotIndex.toNat)
      | (fm, none) => some ({ (c.unlink path env.unlinkOk).1 with fm := fm }, none)

/-- `file_manager->deleteFile`. -/
def dropRecord (id : Nat) (env : WriteEnv) : ManagedController :=
  { c with fm := (c.fm.deleteFile id env).1 }

/-- `host_file_create_managed` without a name: the record comes first, and is taken
    back if there is no file. -/
def hostFileCreateManagedAuto (blockSize fileSize : Nat)
    (env : NewFileEnv) : Option (ManagedController × Option Nat) :=
  if ¬ c.initialized then some (c, none)
  else
    match c.fm.createFileAuto (UInt64.ofNat fileSize) env.record with
    | (fm, none) => some ({ c with fm := fm }, none)
    | (fm, some d) =>
      let c := { c with fm := fm }
      let slot := d.slotIndex.toNat
      if ¬ c.controller.sizesOk blockSize fileSize then none
      else if ¬ env.make.mallocOk then some (c.dropRecord slot env.undo, none)
      else
        let path := c.controller.concatPath d.name
        match c.makeFile path (ownHdr blockSize fileSize env.make.memory) env.make.file with
        | none => none
        | some (c, false) => some (c.dropRecord slot env.undo, none)
        | some (c, true) => some (c, some slot)

/-- `host_file_create_only_managed`: the header in memory is written over the one in
    the file. -/
def hostFileCreateOnlyManaged (blockSize fileSize : Nat)
    (filename : Bytes) (env : NewFileEnv) (dirsOk writeOk : Bool) :
    Option (ManagedController × Bool) :=
  let own := ownHdr blockSize fileSize env.make.memory
  let path := c.controller.buildFilePath filename
  if ¬ c.initialized then some (c, false)
  else if ¬ c.controller.sizesOk blockSize fileSize then none
  else if ¬ env.make.mallocOk ∨ ¬ dirsOk then some (c, false)
  else
    match c.makeFile path own env.make.file with
    | none => none
    | some (c, false) => some (c, false)
    | some (c, true) =>
      if ¬ writeOk then some (c, false)
      else
        let c := c.writeHdr path own
        match c.fm.createFile filename (UInt64.ofNat fileSize) env.record with
        | (fm, some _) => some ({ c with fm := fm }, true)
        | (fm, none) => some ({ (c.unlink path env.unlinkOk).1 with fm := fm }, false)

/-- `registerOpenFile`. -/
def registerOpenFile (fd : Nat) (filename : Bytes) (hdrSize : Nat) : ManagedController :=
  { c with fm := { c.fm with openFiles := c.fm.openFiles ++ [⟨fd, filename, hdrSize⟩] } }

/-- `host_file_close_managed`. -/
def hostFileCloseManaged (fd : HostFd) : ManagedController :=
  if ¬ c.initialized then c
  else
    { c with
      fm := { c.fm with openFiles := c.fm.openFiles.eraseP (fun h => h.fd == fd.addr) } }

/-- `create_host_fd_internal`: the header that is returned is the one in memory. -/
def createHostFdInternal (blockSize fileSize : Nat) (filename : Bytes)
    (env : MakeEnv) : Option (ManagedController × Option HostFd) :=
  let own := ownHdr blockSize fileSize env.memory
  if ¬ c.controller.sizesOk blockSize fileSize then none
  else if ¬ env.mallocOk then some (c, none)
  else
    let fd := c.nextSerial
    match c.makeFile (c.controller.concatPath filename) own env.file with
    | none => none
    | some (c, false) => some (c, none)
    | some (c, true) =>
      let addr := c.nextAddr
      let c := { c with nextAddr := c.nextAddr + 1 }
      some (c.registerOpenFile addr filename geminiHdrMaxSize, some ⟨addr, own, fd⟩)

/-- `host_file_open_managed`: a path that cannot be opened, or does not lead to a
    header, ends the process. -/
def hostFileOpenManaged (path : Bytes) (openOk : Bool) :
    Option (ManagedController × Option HostFd) :=
  if ¬ c.initialized then some (c, none)
  else if ¬ openOk then none
  else
    match (c.controller.place path).bind c.files with
    | none => none
    | some f =>
      match f.hdr.bind hostOpenGeminifsFile with
      | none => none
      | some hdr =>
        let addr := c.nextAddr
        let c := { c with nextAddr := c.nextAddr + 1 }
        some (c.registerOpenFile addr path hdr.firstBlockBase, some ⟨addr, hdr, f.serial⟩)

/-! ### Files of the GPU -/

/-- `cudaMalloc`, and what is then put there. -/
def cudaMalloc (obj : GpuObject) : ManagedController × Nat :=
  ({ c with gpu := update c.gpu c.nextAddr (some obj), nextAddr := c.nextAddr + 1 }, c.nextAddr)

def cudaFree (addr : Nat) : ManagedController :=
  { c with gpu := update c.gpu addr none }

/-- `copy_host_fd_to_device`. -/
def copyHostFdToDevice (fd : HostFd) (env : CudaEnv) : ManagedController × Option Nat :=
  if ¬ env.mallocOk ∨ ¬ env.memcpyOk then (c, none)
  else
    let (c, addr) := c.cudaMalloc (.header fd.hdr fd.fd)
    (c, some addr)

/-- The part that creating and opening a device file share: the header is copied, an
    `NVMe_File` is made for it, and both are noted. Returned are the two addresses. -/
def attachFile (fd : HostFd) (hdrSize : Nat) (filename : Bytes)
    (env : CudaEnv) : ManagedController × Option (Nat × Nat) :=
  match c.copyHostFdToDevice fd env with
  | (c, none) => (c.hostFileCloseManaged fd, none)
  | (c, some deviceFd) =>
    if ¬ env.mallocFileOk then ((c.hostFileCloseManaged fd).cudaFree deviceFd, none)
    else
      let (c, dNvmeFile) := c.cudaMalloc (.nvmeFile deviceFd)
      if ¬ env.initOk then
        (((c.hostFileCloseManaged fd).cudaFree deviceFd).cudaFree dNvmeFile, none)
      else
        ({ c with
            deviceFiles := c.deviceFiles ++ [⟨fd, deviceFd, hdrSize, filename, dNvmeFile⟩] },
          some (deviceFd, dNvmeFile))

/-- `device_file_create_managed`: the address of the copied header is returned. -/
def deviceFileCreateManaged (blockSize fileSize : Nat) (filename : Bytes)
    (env : NewFileEnv) (cuda : CudaEnv) : Option (ManagedController × Option Nat) :=
  if ¬ c.initialized then some (c, none)
  else
    match c.createHostFdInternal blockSize fileSize filename env.make with
    | none => none
    | some (c, none) => some (c, none)
    | some (c, some fd) =>
      match c.fm.createFile filename (UInt64.ofNat fileSize) env.record with
      | (fm, none) => some ({ c with fm := fm }.hostFileCloseManaged fd, none)
      | (fm, some _) =>
        let (c, addrs) := { c with fm := fm }.attachFile fd geminiHdrMaxSize filename cuda
        some (c, addrs.map Prod.fst)

/-- `device_file_open_managed`: the address of the `NVMe_File` is returned. -/
def deviceFileOpenManaged (filename : Bytes) (env : OpenEnv) :
    Option (ManagedController × Option Nat) :=
  if ¬ c.initialized then some (c, none)
  else if ¬ c.fileExists (c.controller.joinPath filename) then some (c, none)
  else
    match c.hostFileOpenManaged (c.controller.joinPath filename) env.openOk with
    | none => none
    | some (c, none) => some (c, none)
    | some (c, some fd) =>
      let (c, addrs) := c.attachFile fd fd.hdr.firstBlockBase filename env.cuda
      some (c, addrs.map Prod.snd)

/-- `device_file_open_managed` by id: that the id may not be found is not checked. -/
def deviceFileOpenManagedById (id : Nat) (env : OpenEnv) :
    Option (ManagedController × Option Nat) :=
  let name := ((c.fm.files.lookup id).map NVMeFileDesc.name).getD env.name
  c.deviceFileOpenManaged (c.controller.joinPath name) env

/-- `device_file_close_managed`, and whether it knows the address. -/
def deviceFileCloseManaged (deviceFd : Nat) : ManagedController × Bool :=
  if ¬ c.initialized then (c, false)
  else
    match c.deviceFiles.find? (fun h => h.deviceFd == deviceFd) with
    | none => (c, false)
    | some h =>
      let c := ((c.cudaFree h.dNvmeFile).cudaFree deviceFd).hostFileCloseManaged h.hostFd
      ({ c with deviceFiles := c.deviceFiles.eraseP (fun h => h.deviceFd == deviceFd) }, true)

/-! ### Deleting files -/

/-- A file is taken out of the directory, and whether it is gone. One that is not
    there counts as deleted. -/
def removeFile (path : Bytes) (unlinkOk : Bool) : ManagedController × Bool :=
  if ¬ c.fileExists path then (c, true) else c.unlink path unlinkOk

/-- The first noted file with a name is freed. -/
def forgetDeviceFile (filename : Bytes) : ManagedController :=
  match c.deviceFiles.find? (fun h => h.filename == filename) with
  | none => c
  | some h =>
    { (c.cudaFree h.dNvmeFile).cudaFree h.deviceFd with
      deviceFiles := c.deviceFiles.eraseP (fun h => h.filename == filename) }

/-- `device_file_delete_single_managed`: the record is that of the id which the name
    reads as. -/
def deviceFileDeleteSingleManaged (filename : Bytes) (env : DeleteEnv) : ManagedController × Bool :=
  let id := FileManager.parseFileIdFromFilename filename
  if ¬ c.initialized then (c, false)
  else if id = uint32Max then (c, false)
  else
    let (c, fileDeleted) := c.removeFile (c.controller.concatPath filename) env.unlinkOk
    let (fm, recordDeleted) := c.fm.deleteFile id env.record
    let c := { c with fm := fm }.forgetDeviceFile filename
    ({ c with fm := c.fm.forcePersist env.force }, fileDeleted && recordDeleted)

/-- `host_file_delete_managed`. -/
def hostFileDeleteManaged (id : Nat) (env : DeleteEnv) : ManagedController × Bool :=
  if ¬ c.initialized then (c, false)
  else
    match c.fm.files.lookup id with
    | none => (c, false)
    | some d => c.deviceFileDeleteSingleManaged d.name env

/-- One file of `device_file_delete_all_files_managed`, and whether it is deleted. -/
def deleteListed (id : Nat) (env : DeleteEnv) : ManagedController × Bool :=
  match c.fm.files.lookup id with
  | none => (c, false)
  | some d =>
    let (c, fileDeleted) := c.removeFile (c.controller.concatPath d.name) env.unlinkOk
    let (fm, recordDeleted) := c.fm.deleteFile id env.record
    ({ c with fm := fm }, fileDeleted && recordDeleted)

/-- The loop of `device_file_delete_all_files_managed`. -/
def deleteListedLoop (env : Nat → DeleteEnv) :
    ManagedController → List Nat → ManagedController × Bool
  | c, [] => (c, true)
  | c, id :: ids =>
    let (c, deleted) := c.deleteListed id (env id)
    let (c, rest) := deleteListedLoop env c ids
    (c, deleted && rest)

/-- `cleanup_device_files`. -/
def cleanupDeviceFiles : ManagedController :=
  { c.deviceFiles.foldl (fun c h => (c.cudaFree h.dNvmeFile).cudaFree h.deviceFd) c with
    deviceFiles := [] }

/-- `device_file_delete_all_files_managed`. -/
def deviceFileDeleteAllFilesManaged (env : Nat → DeleteEnv)
    (force : WriteEnv) : ManagedController × Bool :=
  if ¬ c.initialized then (c, false)
  else if c.fm.files.keys = [] then (c, true)
  else
    let (c, deleted) := deleteListedLoop env c c.fm.files.keys
    ({ c with fm := c.fm.forcePersist force }.cleanupDeviceFiles, deleted)

/-! ### Opening a file or making one -/

/-- What the calls of a `g_open` return. -/
structure GOpenEnv where
  new : NewFileEnv
  second : WriteEnv
  openEnv : OpenEnv
  removeOk : Bool
  deriving DecidableEq, Repr

/-- `O_HOST`. -/
def oHost (oFlag : Nat) : Bool := oFlag.testBit 28

/-- `O_DEVICE`. -/
def oDevice (oFlag : Nat) : Bool := oFlag.testBit 29

/-- The part of `g_open` for a file that is in the log and in the directory. -/
def gOpenExisting (filename : Bytes) (device : Bool) (env : GOpenEnv) :
    Option (ManagedController × Option Nat) :=
  if device then c.deviceFileOpenManaged filename env.openEnv
  else
    match c.hostFileOpenManaged (c.controller.joinPath filename) env.openEnv.openOk with
    | none => none
    | some (c, fd) => some (c, fd.map HostFd.addr)

/-- The part of `g_open` that makes a host file. -/
def gOpenNewHost (filename : Bytes) (fileSize : Nat) (env : NewFileEnv) :
    Option (ManagedController × Option Nat) :=
  match c.createHostFdInternal c.controller.pageSize fileSize filename env.make with
  | none => none
  | some (c, none) => some (c, none)
  | some (c, some fd) =>
    match c.fm.createFile filename (UInt64.ofNat fileSize) env.record with
    | (fm, some _) => some ({ c with fm := fm }, some fd.addr)
    | (fm, none) =>
      let c := { c with fm := fm }.hostFileCloseManaged fd
      some ((c.unlink (c.controller.concatPath filename) env.unlinkOk).1, none)

/-- The part of `g_open` that makes a device file. `device_file_create_managed` has
    made a record by the time another one is made. -/
def gOpenNewDevice (filename : Bytes) (fileSize : Nat) (env : GOpenEnv) :
    Option (ManagedController × Option Nat) :=
  match c.deviceFileCreateManaged c.controller.pageSize fileSize filename env.new
    env.openEnv.cuda with
  | none => none
  | some (c, none) => some (c, none)
  | some (c, some fd) =>
    match c.fm.createFile filename (UInt64.ofNat fileSize) env.second with
    | (fm, some _) => some ({ c with fm := fm }, some fd)
    | (fm, none) =>
      let c := ({ c with fm := fm }.deviceFileCloseManaged fd).1
      match c.remove (c.controller.joinPath filename) env.new.unlinkOk with
      | none => none
      | some c => some (c, none)

/-- The part of `g_open` for a file that is not in the log. What is there instead is
    removed first. -/
def gOpenNew (c : ManagedController) (filename : Bytes) (fileSize : Nat) (device : Bool)
    (env : GOpenEnv) : Option (ManagedController × Option Nat) :=
  match c.remove (c.controller.joinPath filename) env.removeOk with
  | none => none
  | some c =>
    if device then c.gOpenNewDevice filename fileSize env
    else c.gOpenNewHost filename fileSize env.new

/-- `g_open`: the address of the file. -/
def gOpen (c : ManagedController) (filename : Bytes) (fileSize oFlag : Nat) (env : GOpenEnv) :
    Option (ManagedController × Option Nat) :=
  if ¬ c.initialized then some (c, none)
  else if c.controller.blkSize = 0 ∨ fileSize % c.controller.blkSize ≠ 0 then none
  else if oHost oFlag && oDevice oFlag then some (c, none)
  else
    let id := c.fm.getFileIdByFilename filename
    if id = uint32Max then c.gOpenNew filename fileSize (oDevice oFlag) env
    else if c.fileExists (c.controller.joinPath filename) then
      c.gOpenExisting filename (oDevice oFlag) env
    -- The record goes, and the file is made as if there never was one.
    else (c.dropRecord id env.new.undo).gOpenNew filename fileSize (oDevice oFlag) env

end ManagedController

end Geminifs.Gemini
