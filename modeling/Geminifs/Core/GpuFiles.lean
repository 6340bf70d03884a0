import Geminifs.Core.GeminiFile
import Geminifs.Core.GpuTransfer

/-!
# GPU Files

A GPU file has one NVMe file on each of its controllers, of which there are at most
four. Every controller gets the same share of the size that is asked for, rounded up
to a GPU page. There are two ways to make them: one GPU file at a time, or several at
once, controller by controller.

The slots and records of the file manager appear only as whether they can be had.

## Main definitions

* `perNvmeFileSize`: The share of a controller.
* `createNVMeFilesForGPUFile`, `createNVMeFilesPerDevice`: The NVMe files, by GPU file
  and by controller.
* `createGPUFile`, `createGPUFiles`: The GPU files.
* `GPUFile.sizes`: The files as the kernels see them.
-/

namespace Geminifs.Gemini

/-- A GPU file: the size that was asked for, and the headers of its NVMe files. -/
structure GPUFile where
  totalFileSize : Nat
  nvmeFiles : List GeminiHdr
  deriving DecidableEq, Repr

/-- The sizes that `get_file_size` returns. -/
def GPUFile.sizes (f : GPUFile) : List Nat := f.nvmeFiles.map GeminiHdr.virtualSpaceSize

/-- The size of the file on one of `nvmeCount` controllers. -/
def perNvmeFileSize (fileSize nvmeCount : Nat) : Option Nat :=
  if nvmeCount = 0 then none
  else
    -- Rounded down first: a share of whole GPU pages loses the remainder.
    let share := fileSize / nvmeCount
    let per := if share % 65536 ≠ 0 then (share / 65536 + 1) * 65536 else share
    if per < 65536 then none else some per

/-- The loop that makes NVMe files of one size, given the page size and what happens
    on each controller. The first failure ends it. -/
def createManaged (per : Nat) : List (Nat × ManagedEnv) → Option (List GeminiHdr)
  | [] => some []
  | (pageSize, env) :: rest =>
    match hostFileCreateManaged pageSize pageSize per env with
    | none => none
    | some hdr => (createManaged per rest).map (hdr :: ·)

/-- `createNVMeFilesForGPUFile`: one file on each of the first four controllers. -/
def createNVMeFilesForGPUFile (fileSize : Nat) (ctrls : List (Nat × ManagedEnv)) :
    Option (List GeminiHdr) :=
  match perNvmeFileSize fileSize ctrls.length with
  | none => none
  -- The share was for all controllers, also those behind the fourth.
  | some per => createManaged per (ctrls.take 4)

/-- `createNVMeFilesPerDevice`: the files of one controller. -/
def createNVMeFilesPerDevice (fileSize nvmeCount toCreate : Nat) (ctrl : Nat × (Nat → ManagedEnv)) :
    Option (List GeminiHdr) :=
  match perNvmeFileSize fileSize nvmeCount with
  | none => none
  | some per => createManaged per ((List.range toCreate).map fun i => (ctrl.1, ctrl.2 i))

/-- Whether the manager has free slots, and can write its records. -/
structure ManagerEnv where
  slotsOk : Bool
  recordsOk : Bool
  deriving DecidableEq, Repr

/-- `createGPUFile`. -/
def createGPUFile (totalFileSize : Nat) (tensorShape : List Nat) (ctrls : List (Nat × ManagedEnv))
    (env : ManagerEnv) : Option GPUFile :=
  if ¬ env.slotsOk ∨ tensorShape.length ≠ 3 then none
  else
    match createNVMeFilesForGPUFile totalFileSize ctrls with
    | none => none
    | some hdrs => if ¬ env.recordsOk then none else some ⟨totalFileSize, hdrs.take 4⟩

/-- The results of the controllers, all of which have to succeed. -/
def createOnAll (fileSize nvmeCount toCreate : Nat) :
    List (Nat × (Nat → ManagedEnv)) → Option (List (List GeminiHdr))
  | [] => some []
  | ctrl :: ctrls =>
    match createNVMeFilesPerDevice fileSize nvmeCount toCreate ctrl with
    | none => none
    | some hdrs =>
      if hdrs.isEmpty ∨ hdrs.length ≠ toCreate then none
      else (createOnAll fileSize nvmeCount toCreate ctrls).map (hdrs :: ·)

/-- `createGPUFiles`: of the files with one number, the first four make a GPU file. -/
def createGPUFiles (totalFileSize toCreate : Nat) (tensorShape : List Nat)
    (ctrls : List (Nat × (Nat → ManagedEnv))) (env : ManagerEnv) : Option (List GPUFile) :=
  if tensorShape.length ≠ 3 ∨ ¬ env.slotsOk then none
  else
    match createOnAll totalFileSize ctrls.length toCreate ctrls with
    | none => none
    | some results =>
      if ¬ env.recordsOk then none
      else some ((List.range toCreate).map fun i =>
        ⟨totalFileSize, (results.filterMap (·[i]?)).take 4⟩)

end Geminifs.Gemini
