import Geminifs.Theory.Storage.Addresses

/-!
# Calls Stay inside Their File, unless a Sum Wraps Around

Both the host calls and `resolve_lba` compare `offset + length` with the size
of the file, and then add the header to the offset. All three are 64-bit sums.
A call is confined to the user's data as long as neither sum wraps around; an
offset just below `2^64` passes the check and reaches the header.

The handles are those of any run at all: whatever was created, opened, crashed
and booted before, a handle starts behind the header and has extents of the
device (`sound_run`).

## Main definitions

* `SoundHandle`, `Sound`: What every handle of every run satisfies.
* `InUserData`, `UserBlock`: Bytes and blocks of the user's data.
* `Confined`: A request touches the user's data only.
* `Unwrapped`: The condition, on the request alone.

## Theorems

* `sound_run`: Handles are sound in every run.
* `blockingIo_confined`, `submitOne_confined`, `unwrapped_of_confined`: The two
  directions.
* `confined_iff`: A request is confined exactly when no sum wraps around.
* `header_overwritten`: A request that reaches the header.
-/

namespace Geminifs.HostStorage

open Runs

/-- A directory whose extents are those of a device. -/
structure SoundDir (l : FileLog) : Prop where
  wf : l.WellFormed
  extents : ∀ e ∈ l.entries, DeviceExtents e.extents

/-- A handle starts behind the header, and its extents are those of a
    device. -/
structure SoundHandle (f : NvmeFile) : Prop where
  offset : f.dataOffset = nvmeFileHeaderSize
  extents : DeviceExtents f.extents

structure SoundDev (ds : DeviceState) : Prop where
  log : SoundDir ds.log
  handles : ∀ f ∈ ds.files, SoundHandle f

/-- What holds in every state of every run. -/
structure Sound (s : Storage) : Prop where
  disk : ∀ l, s.disk.log = some l → SoundDir l
  dev : ∀ ds, s.dev = some ds → SoundDev ds

/-- Every handle that is put in a table starts behind the header. -/
theorem tableRule_offset :
    TableRule fun files => ∀ f ∈ files, f.dataOffset = nvmeFileHeaderSize where
  nil := nofun
  put files f h hf g hg := ((mem_putFile files f g).mp hg).elim (· ▸ hf) (h g ·.1)
  reopen files f _ h hf g hg := ((mem_putFile files _ g).mp hg).elim (· ▸ h f hf) (h g ·.1)
  erase files id h g hg := h g ((mem_eraseFile files id g).mp hg).1

/-- A create records extents of the device. -/
theorem makes_deviceExtents (op : Op) : Makes (fun e => DeviceExtents e.extents) op := by
  cases op with
  | createFile => exact fun _ _ _ halloc => recordedExtents_sound halloc
  | _ => trivial

/-- Handles are sound in every state of every run. -/
theorem sound_run (mp : MountPath) (ops : List Op) : Sound (run (step mp) freshDevice ops) := by
  have hrun : StorageOf mp _ _ (run (step mp) freshDevice ops) :=
    storageOf_run tableRule_offset ops (along_of_forall fun _ op _ => makes_deviceExtents op)
  refine ⟨fun l hl => ⟨(hrun.disk l hl).wf, (hrun.disk l hl).all⟩, fun ds hds => ?_⟩
  have hdev := hrun.dev ds hds
  refine ⟨⟨hdev.log.wf, hdev.log.all⟩, fun f hf => ?_⟩
  exact ⟨hdev.table f hf, hdev.log.all _ (hdev.handles f hf).1⟩

variable (f : NvmeFile)

/-- A byte of the user's data, which is behind the header. -/
def InUserData (x : Nat) : Prop := 4096 ≤ x ∧ x < 4096 + f.sizeBytes.toNat

/-- A block of the file, all of whose bytes are the user's. -/
def UserBlock (i : Nat) : Prop :=
  4096 ≤ 4096 * i ∧ 4096 * i + 4096 ≤ 4096 + f.sizeBytes.toNat

/-- A request touches the user's data only, and one that does not fit the file
    makes no call and sends no command. -/
structure Confined (f : NvmeFile) (h : NvmeFileDeviceHandle) (off n : UInt64) : Prop where
  reads : ∀ nullDst preads x,
    (readBlocking (some f) off nullDst n preads).Touches x → InUserData f x
  writes : ∀ nullSrc pwrites x,
    (writeBlocking (some f) off nullSrc n pwrites).Touches x → InUserData f x
  refused : f.sizeBytes.toNat < off.toNat + n.toNat → ∀ null results,
    (readBlocking (some f) off null n results).requests = [] ∧
      (writeBlocking (some f) off null n results).requests = []
  commands : ∀ blockDim threadIdx prp1 prp2 c,
    submitReadOne h blockDim threadIdx prp1 prp2 off n = some c ∨
      submitWriteOne h blockDim threadIdx prp1 prp2 off n = some c →
    off.toNat + n.toNat ≤ f.sizeBytes.toNat ∧ ∀ j, j ≤ c.nlb.toNat → ∃ i, UserBlock f i ∧
        Segment.locate (segmentsOf h.extents) i = some (c.startLba.toNat + j)

/-- The request is empty, or the 64-bit check refuses it, or neither the check
    nor the header makes a sum wrap around. -/
def Unwrapped (off n : UInt64) : Prop :=
  n = 0 ∨ f.sizeBytes < off + n ∨ (off.toNat + n.toNat < 2 ^ 64 ∧ off.toNat + 4096 < 2 ^ 64)

/-- Without a buffer nothing is called. -/
theorem blockingIo_null (off n : UInt64) (results : List IoResult) :
    (blockingIo (some f) off n true results).requests = [] := by
  unfold blockingIo
  simp only
  rw [if_pos (.inr trivial)]

section

variable {f : NvmeFile} {h : NvmeFileDeviceHandle} {off n : UInt64}

/-- Where a host call starts in the file. -/
theorem SoundHandle.start (hsound : SoundHandle f) (off : UInt64) :
    (f.dataOffset + off).toNat = (off.toNat + 4096) % 2 ^ 64 := by
  have hheader : nvmeFileHeaderSize.toNat = 4096 := rfl
  rw [hsound.offset, UInt64.toNat_add, hheader, Nat.add_comm]

/-- A host call touches user data only, if no sum wraps around. -/
theorem blockingIo_confined (hsound : SoundHandle f) (hopen : 0 ≤ f.hostFd)
    (hunwrapped : Unwrapped f off n) (null : Bool) (results : List IoResult)
    (x : Nat) (htouch : (blockingIo (some f) off n null results).Touches x) :
    InUserData f x := by
  cases null with
  | true =>
    rcases htouch with ⟨q, hq, -⟩
    rw [blockingIo_null] at hq
    cases hq
  | false =>
    rcases (blockingIo_touches f hopen off n results x).mp htouch with ⟨hle, -, hlow, hhigh⟩
    rw [hsound.start] at hlow hhigh
    rw [UInt64.le_iff_toNat_le, UInt64.toNat_add] at hle
    rw [InUserData]
    rcases hunwrapped with hzero | hlt | hrange
    · have hnone : n.toNat = 0 := by rw [hzero]; rfl
      omega
    · rw [UInt64.lt_iff_toNat_lt, UInt64.toNat_add] at hlt
      omega
    · omega

/-- A command touches user data only, if no sum wraps around. -/
theorem submitOne_confined (hsound : SoundHandle f) (hblk : h.Blocks4k)
    (hsize : h.logicalSizeBytes = f.sizeBytes) (hextents : h.extents = f.extents)
    (hunwrapped : Unwrapped f off n) {opcode : NvmOpcode} {blockDim threadIdx : UInt32}
    {prp1 prp2 : UInt64} {c : NvmeCommand}
    (hc : submitOne opcode h blockDim threadIdx prp1 prp2 off n = some c) :
    off.toNat + n.toNat ≤ f.sizeBytes.toNat ∧ ∀ j, j ≤ c.nlb.toNat → ∃ i, UserBlock f i ∧
        Segment.locate (segmentsOf h.extents) i = some (c.startLba.toNat + j) := by
  have hbound : Bounded h.extents := hextents ▸ hsound.extents.bounded
  rcases submitOne_eq_some hblk hbound hc with ⟨⟨lba, cnt⟩, hres, hblocks⟩
  rcases (resolveLba_eq_some hblk hbound off n lba cnt).mp hres with
    ⟨-, hn, -, -, hle, -, -⟩
  rw [hsize] at hle
  -- The check passed, so only the last way to be unwrapped is left.
  have hrange : off.toNat + n.toNat < 2 ^ 64 ∧ off.toNat + 4096 < 2 ^ 64 := by
    rcases hunwrapped with hzero | hlt | hrange
    · exact absurd hzero hn
    · exact absurd hle (UInt64.not_le.mpr hlt)
    · exact hrange
  rw [UInt64.le_iff_toNat_le, UInt64.toNat_add, Nat.mod_eq_of_lt hrange.1] at hle
  refine ⟨hle, fun j hj => ?_⟩
  have hat := resolveLba_locate hblk hbound hres (hblocks j hj)
  have hfour : (4096 : UInt64).toNat = 4096 := rfl
  rw [UInt64.toNat_add] at hat
  refine ⟨_, ?_, hat.2⟩
  rw [UserBlock]
  omega

/-- A request whose sums wrap around is not confined. -/
theorem unwrapped_of_confined (hsound : SoundHandle f) (hopen : 0 ≤ f.hostFd)
    (hconf : Confined f h off n) : Unwrapped f off n := by
  by_contra hwrap
  rw [Unwrapped] at hwrap
  push Not at hwrap
  rcases hwrap with ⟨hn, hle, hwrap⟩
  have hpos : n.toNat ≠ 0 := fun h0 => hn (UInt64.toNat_inj.mp h0)
  have hfits : off + n ≤ f.sizeBytes := UInt64.not_lt.mp hle
  by_cases hsum : off.toNat + n.toNat < 2 ^ 64
  · -- The header is added to an offset too close to `2^64`: the call starts in the header.
    have htouch : (readBlocking (some f) off false n []).Touches ((off.toNat + 4096) % 2 ^ 64) := by
      refine (blockingIo_touches f hopen off n [] _).mpr ⟨hfits, ?_⟩
      rw [hsound.start]
      omega
    have hdata := hconf.reads false [] _ htouch
    rw [InUserData] at hdata
    omega
  · -- The sum wraps around: the request does not fit the file, and a call is made.
    have hsize := f.sizeBytes.toNat_lt
    have hnone := (hconf.refused (by omega) false []).1
    rcases (blockingIo_requests_eq_nil f hopen off n []).mp hnone with h0 | hlt
    · exact hn h0
    · exact hle hlt

end

/-- For every open file of every run, and its handle on the GPU, a request is
    confined to the user's data exactly when no sum wraps around. -/
theorem confined_iff (mp : MountPath) (ops : List Op) (ds : DeviceState)
    (hdev : (run (step mp) freshDevice ops).dev = some ds) (f : NvmeFile)
    (hf : f ∈ ds.files) (hopen : 0 ≤ f.hostFd) (bp : LocalNvmeDevice) (hbp : bp.Blocks4k)
    (cuda : CudaEnv) (h : NvmeFileDeviceHandle)
    (hacq : acquireDeviceHandle (some bp) f cuda = some h) (off n : UInt64) :
    Confined f h off n ↔ Unwrapped f off n := by
  have hsound := ((sound_run mp ops).dev ds hdev).handles f hf
  rcases acquireDeviceHandle_eq_some hbp hsound.extents.count hacq with
    ⟨hblk, hsize, hextents, -⟩
  constructor
  · exact unwrapped_of_confined hsound hopen
  · intro hunwrapped
    refine ⟨fun null results x => ?_, fun null results x => ?_, fun hbig null results => ?_,
      fun _ _ _ _ c hc => ?_⟩
    · exact blockingIo_confined hsound hopen hunwrapped null results x
    · exact blockingIo_confined hsound hopen hunwrapped null results x
    · have hnone : (blockingIo (some f) off n null results).requests = [] := by
        cases null with
        | true => exact blockingIo_null f off n results
        | false =>
          rw [blockingIo_requests_eq_nil f hopen]
          rcases hunwrapped with hzero | hlt | hrange
          · exact .inl hzero
          · exact .inr hlt
          · rw [UInt64.lt_iff_toNat_lt, UInt64.toNat_add]
            omega
      exact ⟨hnone, hnone⟩
    · rcases hc with hc | hc
      · exact submitOne_confined hsound hblk hsize hextents hunwrapped hc
      · exact submitOne_confined hsound hblk hsize hextents hunwrapped hc

/-- The handle of the one file of `firstFile`. -/
def firstHandle : NvmeFile :=
  ⟨1, cacheName, 4096, [⟨10, 2⟩], 3, hostPath mountPoint cacheName, 4096⟩

/-- The device after `firstFile`. -/
def firstState : DeviceState :=
  ⟨createdLog .empty cacheName 4096 [⟨10, 2⟩], [firstHandle], false, false⟩

theorem firstFile_dev : (run (step mountPoint) freshDevice firstFile).dev = some firstState := rfl

theorem confined_iff_firstFile : Confined firstHandle (gpuHandle firstHandle) 0 4096 ∧
      ¬ Confined firstHandle (gpuHandle firstHandle) (-4096) 4096 := by
  have hiff := confined_iff mountPoint firstFile firstState firstFile_dev firstHandle
    List.mem_cons_self (by decide) gpuDevice ⟨rfl, rfl⟩ ⟨true, true, true, true⟩
    (gpuHandle firstHandle) rfl
  refine ⟨(hiff 0 4096).mpr (.inr (.inr ⟨by decide, by decide⟩)), fun hconf => ?_⟩
  rcases (hiff (-4096) 4096).mp hconf with h | h | h
  · cases h
  · cases h
  · exact absurd h.1 (by decide)

/-- At offset `2^64 - 4096`, a block of data passes both checks and overwrites
    the header: the host writes at byte 0 of the file, and the GPU at its first
    block. -/
theorem header_overwritten : (run (step mountPoint) freshDevice firstFile).dev = some firstState ∧
      firstHandle ∈ firstState.files ∧ 0 ≤ firstHandle.hostFd ∧
      acquireDeviceHandle (some gpuDevice) firstHandle ⟨true, true, true, true⟩ =
        some (gpuHandle firstHandle) ∧
      (writeBlocking (some firstHandle) (-4096) false 4096 [.moved 4096]).requests = [(0, 4096)] ∧
      (writeBlocking (some firstHandle) (-4096) false 4096 [.moved 4096]).ret = some 4096 ∧
      submitWriteOne (gpuHandle firstHandle) 1 0 0 0 (-4096) 4096 = some ⟨.write, 0, 0, 0, 10, 0⟩ ∧
      Segment.locate (segmentsOf (gpuHandle firstHandle).extents) 0 = some 10 ∧
      ¬ Confined firstHandle (gpuHandle firstHandle) (-4096) 4096 := by
  refine ⟨rfl, List.mem_cons_self, by decide, rfl, rfl, rfl, rfl, rfl, fun hconf => ?_⟩
  have hdata := hconf.writes false [] 0 ⟨(0, 4096), List.mem_singleton_self _, by decide⟩
  cases hdata.1

end Geminifs.HostStorage
