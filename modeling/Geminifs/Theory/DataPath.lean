import Geminifs.Core.BlockingIo
import Geminifs.Core.DeviceHandle
import Geminifs.Library.Segments

/-!
# The Two Ways to a File's Data

What the host's calls and the GPU's commands touch, said once and without
machine words.

A host call touches one range of the file, from the header on, whatever its
`pread` and `pwrite` calls return (`blockingIo_touches`). On the GPU,
`resolve_lba` is the walk `Segment.findSpan` over the extents
(`resolveLba_eq_some`): the sums in its loop do not wrap around when the
extents are those of one device. The sums before the loop may, and the
statement keeps them as they are.

## Main definitions

* `LbaExtent.segment`, `segmentsOf`: Extents as segments of device blocks.
* `Bounded`: The walk over these extents stays below `2^64`.
* `DeviceExtents`: Extents as `create_file` records them, which are bounded.
* `NvmeFileDeviceHandle.Blocks4k`: The handle of a device with 4096-byte
  blocks.
* `LocalNvmeDevice.Blocks4k`: Such a device.
* `InBlocks`: A block of a resolved range.

## Theorems

* `blockingIo_touches`: The bytes that a host call touches.
* `blockingIo_requests_eq_nil`: When a host call does nothing.
* `resolveLoop_eq_some`: The loop of `resolve_lba` is the walk.
* `resolveLba_eq_some`: What `resolve_lba` returns.
* `resolveLba_locate`: The blocks of a resolved range, one by one.
* `submitOne_eq_some`: The blocks of a command.
* `acquireDeviceHandle_eq_some`: What a handle holds.
* `submitEntry_decode`, `entry_decodes_iff`: What the entry of a command says.
-/

namespace Geminifs

/-- The place a host call starts at, when it is not negative. -/
theorem offT_eq {x : UInt64} (h : 0 ≤ offT x) : offT x = x.toNat := by
  unfold offT at h ⊢
  have hlt := x.toNat_lt
  omega

variable {h : NvmeFileDeviceHandle} (x : UInt64)

theorem offT_nonneg_iff : 0 ≤ offT x ↔ x.toNat < 2 ^ 63 := by
  unfold offT
  have hlt := x.toNat_lt
  omega

namespace HostStorage

variable (f : NvmeFile)

/-- A host call on an open file with a buffer. -/
theorem blockingIo_open (hfd : 0 ≤ f.hostFd) (byteOffset len : UInt64) (results : List IoResult) :
    blockingIo (some f) byteOffset len false results =
      if f.sizeBytes < byteOffset + len then ⟨[], some (-1)⟩
      else if len ≠ 0 ∧ offT (f.dataOffset + byteOffset) < 0 then
        ⟨[(offT (f.dataOffset + byteOffset), len.toNat)], some (-1)⟩
      else
        ⟨(transferLoop 0 len.toNat results).requests.map
            (fun q => (offT (f.dataOffset + byteOffset) + q.1, q.2)),
          transferRet (transferLoop 0 len.toNat results)⟩ := by
  have hopen : ¬ (f.hostFd < 0 ∨ false = true) := by
    intro h
    rcases h with h | h
    · omega
    · cases h
  unfold blockingIo
  simp only
  rw [if_neg hopen]

/-- A host call that passes its checks touches exactly its range of the file,
    and none if the range starts at a negative position. The first `pread` or
    `pwrite` already asks for all of it, and no later one asks for more. -/
theorem blockingIo_touches (hfd : 0 ≤ f.hostFd) (byteOffset len : UInt64) (results : List IoResult)
    (x : Nat) :
    (blockingIo (some f) byteOffset len false results).Touches x ↔
      byteOffset + len ≤ f.sizeBytes ∧ (f.dataOffset + byteOffset).toNat < 2 ^ 63 ∧
        (f.dataOffset + byteOffset).toNat ≤ x ∧
          x < (f.dataOffset + byteOffset).toNat + len.toNat := by
  rw [blockingIo_open f hfd]
  by_cases hsize : f.sizeBytes < byteOffset + len
  · rw [if_pos hsize]
    have hnot := UInt64.not_le.mpr hsize
    constructor
    · rintro ⟨q, hq, -⟩
      cases hq
    · exact fun h => absurd h.1 hnot
  rw [if_neg hsize]
  have hle := UInt64.not_lt.mp hsize
  generalize f.dataOffset + byteOffset = start
  by_cases hneg : len ≠ 0 ∧ offT start < 0
  · -- The one call is at a negative position, which holds no byte.
    rw [if_pos hneg]
    have hbig : ¬ start.toNat < 2 ^ 63 := by
      rw [← offT_nonneg_iff]
      omega
    constructor
    · rintro ⟨q, hq, hpos, -⟩
      rw [List.mem_singleton.mp hq] at hpos
      exact absurd hpos (by simpa using hneg.2)
    · exact fun h => absurd h.2.1 hbig
  rw [if_neg hneg]
  by_cases hzero : len = 0
  · rw [hzero]
    constructor
    · rintro ⟨q, hq, -⟩
      rw [show (0 : UInt64).toNat = 0 from rfl, transferLoop_zero] at hq
      cases hq
    · rintro ⟨-, -, hlow, hhigh⟩
      exact absurd hhigh (Nat.not_lt.mpr (by simpa using hlow))
  · have hpos : 0 ≤ offT start := by
      by_contra hc
      exact hneg ⟨hzero, by omega⟩
    have hstart := offT_eq hpos
    have hsmall := (offT_nonneg_iff start).mp hpos
    have hlen : len.toNat ≠ 0 := fun h => hzero (UInt64.toNat_inj.mp h)
    constructor
    · rintro ⟨q, hq, -, hlow, hhigh⟩
      rcases List.mem_map.mp hq with ⟨t, ht, rfl⟩
      have hreq := transferLoop_requests 0 len.toNat results t ht
      exact ⟨hle, hsmall, by omega, by omega⟩
    · rintro ⟨-, -, hlow, hhigh⟩
      refine ⟨_, List.mem_map.mpr ⟨_, transferLoop_first 0 len.toNat results hlen, rfl⟩, ?_⟩
      omega

/-- A host call on an open file makes no `pread` or `pwrite` exactly when it has
    nothing to move or is refused. -/
theorem blockingIo_requests_eq_nil (hfd : 0 ≤ f.hostFd) (byteOffset len : UInt64)
    (results : List IoResult) :
    (blockingIo (some f) byteOffset len false results).requests = [] ↔
      len = 0 ∨ f.sizeBytes < byteOffset + len := by
  rw [blockingIo_open f hfd]
  by_cases hsize : f.sizeBytes < byteOffset + len
  · rw [if_pos hsize]
    exact iff_of_true rfl (.inr hsize)
  rw [if_neg hsize]
  by_cases hzero : len = 0
  · rw [hzero]
    refine iff_of_true ?_ (.inl rfl)
    rw [show (0 : UInt64).toNat = 0 from rfl, transferLoop_zero]
    rfl
  · refine iff_of_false (fun hnil => ?_) (fun h => h.elim hzero hsize)
    have hlen : len.toNat ≠ 0 := fun h => hzero (UInt64.toNat_inj.mp h)
    by_cases hneg : len ≠ 0 ∧ offT (f.dataOffset + byteOffset) < 0
    · rw [if_pos hneg] at hnil
      exact absurd hnil (List.cons_ne_nil _ _)
    · rw [if_neg hneg] at hnil
      have hfirst := transferLoop_first 0 len.toNat results hlen
      rw [List.map_eq_nil_iff.mp hnil] at hfirst
      cases hfirst

end HostStorage

/-- An extent as a segment of device blocks. -/
def LbaExtent.segment (e : LbaExtent) : Segment := ⟨e.startLba.toNat, e.lengthBlocks.toNat⟩

def segmentsOf (es : List LbaExtent) : List Segment := es.map LbaExtent.segment

/-- The walk over these extents stays below `2^64`. -/
structure Bounded (es : List LbaExtent) : Prop where
  ends : ∀ e ∈ es, e.startLba.toNat + e.lengthBlocks.toNat < 2 ^ 64
  total : Segment.total (segmentsOf es) < 2 ^ 64

/-- Extents as `create_file` records them: few, and of blocks of a device whose
    bytes have 64-bit addresses. -/
structure DeviceExtents (es : List LbaExtent) : Prop where
  count : es.length ≤ kNvmeFileHeaderMaxExtents
  blocks : ∀ e ∈ es, e.startLba.toNat < 2 ^ 52 ∧ e.lengthBlocks.toNat < 2 ^ 52

/-- The total of short segments is at most their number times the length. -/
theorem total_segmentsOf_le (es : List LbaExtent)
    (h : ∀ e ∈ es, e.startLba.toNat < 2 ^ 52 ∧ e.lengthBlocks.toNat < 2 ^ 52) :
    Segment.total (segmentsOf es) ≤ es.length * 2 ^ 52 := by
  induction es with
  | nil => exact Nat.zero_le _
  | cons e es ih =>
    have hhead := (h e List.mem_cons_self).2
    have htail := ih (List.forall_mem_cons.mp h).2
    have hlen : e.segment.len = e.lengthBlocks.toNat := rfl
    rw [segmentsOf, List.map_cons, Segment.total_cons, List.length_cons]
    rw [segmentsOf] at htail
    omega

theorem DeviceExtents.bounded {es : List LbaExtent} (h : DeviceExtents es) : Bounded es where
  ends := by
    intro e he
    have hsmall := h.blocks e he
    omega
  total := by
    have hcount : es.length ≤ 124 := h.count
    have htotal := total_segmentsOf_le es h.blocks
    omega

/-- The loop of `resolve_lba` is the walk, as long as its cursor does not wrap
    around. -/
theorem resolveLoop_eq_some {first last : UInt64} (hle : first.toNat ≤ last.toNat)
    (count lba cnt : UInt64) (es : List LbaExtent)
    (hends : ∀ e ∈ es, e.startLba.toNat + e.lengthBlocks.toNat < 2 ^ 64) :
    ∀ (cursor : UInt64), cursor.toNat + Segment.total (segmentsOf es) < 2 ^ 64 →
      (resolveLoop first last count cursor es = some (lba, cnt) ↔
        Segment.findSpan cursor.toNat first.toNat last.toNat (segmentsOf es) = some lba.toNat ∧
          count = cnt) := by
  induction es with
  | nil =>
    simp [resolveLoop, segmentsOf, Segment.findSpan]
  | cons e es ih =>
    intro cursor hsum
    rw [segmentsOf, List.map_cons, Segment.total_cons] at hsum
    have hlen : e.segment.len = e.lengthBlocks.toNat := rfl
    have hstart : e.segment.start = e.startLba.toNat := rfl
    have hend : (cursor + e.lengthBlocks).toNat = cursor.toNat + e.lengthBlocks.toNat := by
      rw [UInt64.toNat_add]
      omega
    have hcond : (cursor ≤ first ∧ last ≤ cursor + e.lengthBlocks) ↔
        (cursor.toNat ≤ first.toNat ∧ last.toNat ≤ cursor.toNat + e.segment.len) := by
      rw [UInt64.le_iff_toNat_le, UInt64.le_iff_toNat_le, hend, hlen]
    rw [resolveLoop, segmentsOf, List.map_cons, Segment.findSpan]
    by_cases hin : cursor ≤ first ∧ last ≤ cursor + e.lengthBlocks
    · -- The range starts inside this extent, so its address is below the extent's end.
      have hnat := hcond.mp hin
      have hbound := hends e List.mem_cons_self
      have hsub := UInt64.toNat_sub_of_le first cursor hin.1
      have haddr : (e.startLba + (first - cursor)).toNat =
          e.segment.start + (first.toNat - cursor.toNat) := by
        rw [UInt64.toNat_add]
        omega
      rw [if_pos hin, if_pos hnat, Option.some.injEq, Option.some.injEq, Prod.mk.injEq,
        ← UInt64.toNat_inj, haddr]
    · rw [if_neg hin, if_neg (fun h => hin (hcond.mpr h)), hlen, ← hend]
      refine ih (List.forall_mem_cons.mp hends).2 _ ?_
      simp only [segmentsOf]
      omega

/-- The handle of a device with 4096-byte blocks. -/
structure NvmeFileDeviceHandle.Blocks4k (h : NvmeFileDeviceHandle) : Prop where
  header : h.headerBytes = 4096
  size : h.nvmeBlockSize = 4096
  log : h.nvmeBlockSizeLog = 12

/-- A device that `bootstrap` takes, with the logarithm of its block size. -/
structure LocalNvmeDevice.Blocks4k (bp : LocalNvmeDevice) : Prop where
  size : bp.blkSize = kNvmeBlockSize
  log : bp.blkSizeLog = 12

/-- The mask of a 4096-byte block tests divisibility. -/
theorem and_mask_eq_zero : x &&& ((4096 : UInt32) - 1).toUInt64 = 0 ↔ x.toNat % 4096 = 0 := by
  have hmask : (((4096 : UInt32) - 1).toUInt64).toNat = 2 ^ 12 - 1 := rfl
  have hzero : (0 : UInt64).toNat = 0 := rfl
  rw [← UInt64.toNat_inj, UInt64.toNat_and, hmask, Nat.and_two_pow_sub_one_eq_mod, hzero]

/-- The shift of a 4096-byte block divides. -/
theorem shiftRight_log : (x >>> (12 : UInt32).toUInt64).toNat = x.toNat / 4096 := by
  have hlog : ((12 : UInt32).toUInt64).toNat % 64 = 12 := rfl
  rw [UInt64.toNat_shiftRight, hlog, Nat.shiftRight_eq_div_pow]

/-- What `resolve_lba` returns: the range is not empty, aligned, passes the
    check on the 64-bit sum, and is found by the walk. -/
theorem resolveLba_eq_some (hblk : h.Blocks4k)
    (hbound : Bounded h.extents) (off n lba cnt : UInt64) :
    resolveLba h off n = some (lba, cnt) ↔
      h.numExtents ≠ 0 ∧ n ≠ 0 ∧ off.toNat % 4096 = 0 ∧ n.toNat % 4096 = 0 ∧
        off + n ≤ h.logicalSizeBytes ∧ Segment.findSpan 0 ((off + 4096).toNat / 4096)
            ((off + 4096).toNat / 4096 + n.toNat / 4096) (segmentsOf h.extents) =
              some lba.toNat ∧ cnt.toNat = n.toNat / 4096 := by
  have hheader : h.headerBytes.toUInt64 = 4096 := by rw [hblk.header]; rfl
  unfold resolveLba
  simp only [hblk.size, hblk.log, hheader]
  by_cases hnum : h.numExtents = 0
  · simp [hnum]
  by_cases hn : n = 0
  · simp [hn]
  rw [if_neg hnum, if_neg hn]
  by_cases hoff : off &&& ((4096 : UInt32) - 1).toUInt64 = 0
  swap
  · rw [if_pos hoff]
    exact iff_of_false (by simp) (fun hc => hoff ((and_mask_eq_zero off).mpr hc.2.2.1))
  by_cases hlen : n &&& ((4096 : UInt32) - 1).toUInt64 = 0
  swap
  · rw [if_pos hlen]
    exact iff_of_false (by simp) (fun hc => hlen ((and_mask_eq_zero n).mpr hc.2.2.2.1))
  rw [if_neg (not_not.mpr hoff), if_neg (not_not.mpr hlen)]
  by_cases hsize : h.logicalSizeBytes < off + n
  · rw [if_pos hsize]
    exact iff_of_false (by simp) (fun hc => UInt64.not_le.mpr hsize hc.2.2.2.2.1)
  rw [if_neg hsize]
  -- Block numbers are below `2^52`, so the end of the range does not wrap around.
  have hfirst := shiftRight_log (off + 4096)
  have hcount := shiftRight_log n
  have hlast : ((off + 4096) >>> (12 : UInt32).toUInt64 + n >>> (12 : UInt32).toUInt64).toNat =
      (off + 4096).toNat / 4096 + n.toNat / 4096 := by
    have h₁ := (off + 4096).toNat_lt
    have h₂ := n.toNat_lt
    rw [UInt64.toNat_add]
    omega
  have hle : ((off + 4096) >>> (12 : UInt32).toUInt64).toNat ≤
      ((off + 4096) >>> (12 : UInt32).toUInt64 + n >>> (12 : UInt32).toUInt64).toNat := by
    rw [hlast, hfirst]
    exact Nat.le_add_right _ _
  have hzero : (0 : UInt64).toNat = 0 := rfl
  have hloop := resolveLoop_eq_some hle (n >>> (12 : UInt32).toUInt64) lba cnt h.extents
    hbound.ends 0 (by rw [hzero, Nat.zero_add]; exact hbound.total)
  rw [hloop, hfirst, hlast, ← UInt64.toNat_inj, hcount]
  constructor
  · rintro ⟨hspan, hcnt⟩
    exact ⟨hnum, hn, (and_mask_eq_zero off).mp hoff, (and_mask_eq_zero n).mp hlen,
      UInt64.not_lt.mp hsize, hspan, hcnt.symm⟩
  · rintro ⟨-, -, -, -, -, hspan, hcnt⟩
    exact ⟨hspan, hcnt.symm⟩

/-- A block of a resolved range. -/
def InBlocks (r : UInt64 × UInt64) (b : Nat) : Prop :=
  r.1.toNat ≤ b ∧ b < r.1.toNat + r.2.toNat

/-- A block of a resolved range is the block of the file at the same distance
    from the range's first one. -/
theorem resolveLba_locate (hblk : h.Blocks4k) (hbound : Bounded h.extents) {off n : UInt64}
    {r : UInt64 × UInt64} (hr : resolveLba h off n = some r) {b : Nat} (hb : InBlocks r b) :
    b - r.1.toNat < n.toNat / 4096 ∧
      Segment.locate (segmentsOf h.extents) ((off + 4096).toNat / 4096 + (b - r.1.toNat)) =
        some b := by
  rcases r with ⟨lba, cnt⟩
  rcases (resolveLba_eq_some hblk hbound off n lba cnt).mp hr with
    ⟨-, hn, -, hlen, -, hspan, hcnt⟩
  rw [InBlocks] at hb
  simp only at hb ⊢
  have hall := Segment.locate_of_findSpan (by omega) _ hspan
  refine ⟨by omega, ?_⟩
  have hat := hall.2 (b - lba.toNat) (by omega)
  rw [Nat.sub_zero] at hat
  rw [hat]
  exact congrArg some (by omega)

/-- A command is sent for a resolved range only, and for no block behind it: its
    number of blocks is cut to 16 bits. -/
theorem submitOne_eq_some {opcode : NvmOpcode} (hblk : h.Blocks4k) (hbound : Bounded h.extents)
    {blockDim threadIdx : UInt32} {prp1 prp2 off n : UInt64} {c : NvmeCommand}
    (hc : submitOne opcode h blockDim threadIdx prp1 prp2 off n = some c) :
    ∃ r, resolveLba h off n = some r ∧
      ∀ j, j ≤ c.nlb.toNat → InBlocks r (c.startLba.toNat + j) := by
  unfold submitOne at hc
  rcases hres : resolveLba h off n with _ | ⟨lba, cnt⟩
  · rw [hres] at hc
    cases hc
  rw [hres, Option.some.injEq] at hc
  refine ⟨_, rfl, fun j hj => ?_⟩
  rcases (resolveLba_eq_some hblk hbound off n lba cnt).mp hres with
    ⟨-, hn, -, hlen, -, -, hcnt⟩
  have hpos : 0 < n.toNat := Nat.pos_of_ne_zero fun h0 => hn (UInt64.toNat_inj.mp h0)
  rw [← hc] at hj ⊢
  simp only [issueNvmeCmd] at hj ⊢
  -- The field holds the number of blocks less one, both taken modulo `2^16`.
  have hcut : (cnt.toUInt16).toNat = cnt.toNat % 2 ^ 16 := UInt64.toNat_toUInt16 cnt
  have hone : (1 : UInt16).toNat = 1 := rfl
  rw [UInt16.toNat_sub] at hj
  rw [InBlocks]
  simp only
  omega

/-- What a handle holds of its file and device. A file has too few extents for
    their number to be cut off. -/
theorem acquireDeviceHandle_eq_some {bp : LocalNvmeDevice} (hblk : bp.Blocks4k) {f : NvmeFile}
    {cuda : CudaEnv} (hcount : f.extents.length ≤ kNvmeFileHeaderMaxExtents)
    (hacq : acquireDeviceHandle (some bp) f cuda = some h) :
    h.Blocks4k ∧ h.logicalSizeBytes = f.sizeBytes ∧ h.extents = f.extents ∧ h.numExtents ≠ 0 := by
  -- So few extents survive the conversion to 32 bits.
  have hnum : (UInt32.ofNat f.extents.length).toNat = f.extents.length := by
    rw [kNvmeFileHeaderMaxExtents] at hcount
    rw [UInt32.toNat_ofNat']
    omega
  unfold acquireDeviceHandle at hacq
  rcases hqg : bp.queueGroup with _ | qg
  · simp [hqg] at hacq
  simp only [hqg] at hacq
  by_cases hq : ¬ qg.hasQps ∨ qg.nQps = 0
  · rw [if_pos hq] at hacq
    cases hacq
  rw [if_neg hq] at hacq
  by_cases hnil : f.extents = []
  · rw [if_pos hnil] at hacq
    cases hacq
  rw [if_neg hnil, hnum, if_neg (Nat.not_lt.mpr hcount)] at hacq
  split_ifs at hacq
  rw [Option.some.injEq] at hacq
  rw [← hacq]
  refine ⟨⟨rfl, hblk.size, hblk.log⟩, rfl, List.take_length, fun hzero => hnil ?_⟩
  rw [← UInt32.toNat_inj, hnum] at hzero
  exact List.length_eq_zero_iff.mp hzero

/-! ### The entry in the ring -/

/-- The two halves of a word are masked apart. -/
theorem and_halves (a b : Nat) :
    a &&& b = 2 ^ 16 * (a / 2 ^ 16 &&& b / 2 ^ 16) + (a % 2 ^ 16 &&& b % 2 ^ 16) := by
  rw [← Nat.and_div_two_pow, ← Nat.and_mod_two_pow, Nat.div_add_mod]

theorem headerWord_toNat (cid : UInt16) (opcode : NvmOpcode) :
    ((cid.toUInt32 <<< 16 ||| (opcode.code &&& 0x7f).toUInt32) &&&
      ~~~((0x03 : UInt32) <<< 14 ||| (0x03 : UInt32) <<< 8)).toNat =
        2 ^ 16 * cid.toNat + opcode.code.toNat := by
  have hcid := cid.toNat_lt
  obtain ⟨hcode, hlt, hmasked⟩ : opcode.code &&& 0x7f = opcode.code ∧
      opcode.code.toNat < 2 ^ 16 ∧ opcode.code.toNat &&& 0x3cff = opcode.code.toNat := by
    cases opcode <;> decide
  have hor : (cid.toUInt32 <<< 16 ||| opcode.code.toUInt32).toNat =
      2 ^ 16 * cid.toNat + opcode.code.toNat := by
    rw [Nat.two_pow_add_eq_or_of_lt hlt, UInt32.toNat_or, UInt32.toNat_shiftLeft, Nat.shiftLeft_eq]
    congr 1
    show cid.toNat * 2 ^ 16 % 2 ^ 32 = _
    omega
  have hmask : (~~~((0x03 : UInt32) <<< 14 ||| (0x03 : UInt32) <<< 8)).toNat = 0xffff3cff := by
    decide
  have hcut : cid.toNat &&& 0xffff = cid.toNat :=
    (Nat.and_two_pow_sub_one_eq_mod _ 16).trans (Nat.mod_eq_of_lt hcid)
  rw [hcode, UInt32.toNat_and, hor, hmask, and_halves, Nat.mul_add_div (by decide),
    Nat.div_eq_of_lt hlt]
  norm_num
  rw [hcut, hmasked]

theorem blocksWord_toNat (prior : UInt32) (n : UInt16) :
    (prior &&& 0xffff0000 ||| n.toUInt32).toNat = 2 ^ 16 * (prior.toNat / 2 ^ 16) + n.toNat := by
  have hprior : prior.toNat &&& 0xffff0000 = 2 ^ 16 * (prior.toNat / 2 ^ 16) := by
    have hcut := Nat.and_two_pow_sub_one_eq_mod (prior.toNat / 2 ^ 16) 16
    have hlt := prior.toNat_lt
    rw [and_halves]
    norm_num
    norm_num at hcut
    omega
  rw [Nat.two_pow_add_eq_or_of_lt n.toNat_lt, ← hprior]
  rfl

theorem words_toNat (x : UInt64) :
    x.toUInt32.toNat + 2 ^ 32 * (x >>> 32).toUInt32.toNat = x.toNat := by
  have hlt := x.toNat_lt
  simp
  omega

/-- The entry is that of the command, with what was in the buffer before. -/
theorem submitEntry_decode (opcode : NvmOpcode) (blockDim threadIdx : UInt32) (prior : NvmCmd)
    (cid : UInt16) (nsId : UInt32) (prp1 prp2 off n : UInt64) :
    (submitEntry opcode h prior cid nsId prp1 prp2 off n).map decodeRw =
      (submitOne opcode h blockDim threadIdx prp1 prp2 off n).map fun c =>
        ⟨c.opcode.code.toNat, cid.toNat, nsId.toNat, c.prp1.toNat, c.prp2.toNat, c.startLba.toNat,
          c.nlb.toNat + 1, 0 :: (prior 12).toNat / 2 ^ 16 ::
            [prior 2, prior 3, prior 4, prior 5, prior 13, prior 14, prior 15].map
              UInt32.toNat⟩ := by
  rw [submitEntry, submitOne]
  rcases resolveLba h off n with _ | ⟨lba, cnt⟩
  · rfl
  simp only [Option.map_some, issueNvmeCmd]
  have hcode : opcode.code.toNat < 256 := opcode.code.toNat_lt
  have hnlb := (cnt.toUInt16 - 1).toNat_lt
  generalize hcmd : nvmCmdRwBlks _ _ _ = cmd
  have h0 : (cmd 0).toNat = 2 ^ 16 * cid.toNat + opcode.code.toNat := by
    rw [← headerWord_toNat, ← hcmd]
    rfl
  have h12 : (cmd 12).toNat = 2 ^ 16 * ((prior 12).toNat / 2 ^ 16) + (cnt.toUInt16 - 1).toNat := by
    rw [← blocksWord_toNat, ← hcmd]
    rfl
  rw [← words_toNat prp1, ← words_toNat prp2, ← words_toNat lba, decodeRw]
  subst hcmd
  congr 2
  · omega
  · omega
  · omega
  · congr 1
    · omega
    · congr 1
      omega

/-- The entry decodes to the request, with all the rest zero, if and only if there are 1 to
    65536 blocks and what is not written was zero before. -/
theorem entry_decodes_iff (opcode : NvmOpcode) (h : NvmeFileDeviceHandle) (prior : NvmCmd)
    (cid : UInt16) (nsId : UInt32) (prp1 prp2 off n lba cnt : UInt64)
    (hres : resolveLba h off n = some (lba, cnt)) :
    (submitEntry opcode h prior cid nsId prp1 prp2 off n).map decodeRw =
        some ⟨opcode.code.toNat, cid.toNat, nsId.toNat, prp1.toNat, prp2.toNat, lba.toNat,
          cnt.toNat, List.replicate 9 0⟩ ↔
      (1 ≤ cnt.toNat ∧ cnt.toNat ≤ 2 ^ 16) ∧ (prior 12).toNat < 2 ^ 16 ∧
        ∀ i ∈ [2, 3, 4, 5, 13, 14, 15], prior i = 0 := by
  have hnlb : (cnt.toUInt16 - 1).toNat = (2 ^ 16 - 1 + cnt.toNat % 2 ^ 16) % 2 ^ 16 := by
    rfl
  have hblocks : (cnt.toUInt16 - 1).toNat + 1 = cnt.toNat ↔ 1 ≤ cnt.toNat ∧ cnt.toNat ≤ 2 ^ 16 := by
    omega
  rw [submitEntry_decode opcode 0 0, submitOne, hres]
  simp only [Option.map_some, issueNvmeCmd, Option.some.injEq, RwFields.mk.injEq, hblocks]
  simp [← UInt32.toNat_inj]

/-- A file of 70000 blocks in one extent. -/
def bigHandle : NvmeFileDeviceHandle :=
  ⟨1, 286715904, 4096, 4096, 12, 1, 1, [⟨10, 70000⟩], 1⟩

theorem entry_decodes_one :
    (submitEntry .read bigHandle (fun _ => 0) 3 1 4096 0 0 4096).map decodeRw =
      some ⟨2, 3, 1, 4096, 0, 11, 1, List.replicate 9 0⟩ :=
  (entry_decodes_iff .read bigHandle (fun _ => 0) 3 1 4096 0 0 4096 11 1 (by decide)).mpr
    (by decide)

/-- 65537 blocks are read as one, and what was on the stack is sent along. -/
theorem entry_decodes_wrong : resolveLba bigHandle 0 268439552 = some (11, 65537) ∧
    (submitEntry .read bigHandle (fun _ => 7) 3 1 4096 8192 0 268439552).map decodeRw =
      some ⟨2, 3, 1, 4096, 8192, 11, 1, [0, 0, 7, 7, 7, 7, 7, 7, 7]⟩ := by decide

end Geminifs
