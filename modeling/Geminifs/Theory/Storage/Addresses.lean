import Geminifs.Theory.DataPath
import Geminifs.Theory.Storage.Invariant

/-!
# The Host and the GPU Mean the Same Blocks

A byte of a file has two addresses. The host reaches it at its offset in the
file, and the file system's extent map says which device block that is. The
GPU walks the extents that `create_file` recorded, counting blocks. This
module shows that the two agree.

The map is described by its extents in order, each starting where the one
before it ends. The file's n-th block is then the n-th place of the segments
that the GPU walks (`fiemapBlock_eq_locate`), and the header takes the first
one on both sides. That the map covers the whole file is not used: a range in
one of its extents is enough.

## Main definitions

* `Fiemap.ContiguousFrom`: Extents that follow one another.
* `Fiemap.fiemapBlock`: The device block of a byte of the file.
* `Fiemap.PhysicallyApart`: Two extents share no byte of the device.
* `MadeWith`: A handle of a file that was created with an extent map.
* `OnGpu`: Such a file, with its handle on the GPU.
* `BlockRange`, `InOneExtent`: The ranges in question.

## Theorems

* `Fiemap.fiemapBlock_eq_locate`: The block of a byte is a place of the
  recorded segments.
* `MadeWith.recorded`: What a file's handle records of its map.
* `OnGpu.resolves`: A range in one extent is resolved.
* `addresses_agree`: The two paths reach the same blocks, and different ranges
  are different blocks.
* `backed_iff`: When a file has as many blocks as its size needs.
-/

namespace Geminifs

namespace Fiemap

/-- Extents that follow one another in the file, from `base` on. -/
def ContiguousFrom : Nat → List FiemapExtent → Prop
  | _, [] => True
  | base, ex :: exs =>
    ex.feLogical.toNat = base ∧ 0 < ex.feLength.toNat ∧
      ContiguousFrom (base + ex.feLength.toNat) exs

/-- The byte `x` of the file is in this extent. -/
def Holds (ex : FiemapExtent) (x : Nat) : Prop :=
  ex.feLogical.toNat ≤ x ∧ x < ex.feLogical.toNat + ex.feLength.toNat

instance (ex : FiemapExtent) (x : Nat) : Decidable (Holds ex x) :=
  inferInstanceAs (Decidable (_ ∧ _))

/-- The device block of a byte of the file, by the file's map. -/
def fiemapBlock (map : List FiemapExtent) (x : Nat) : Option Nat :=
  (map.find? (fun ex => Holds ex x)).map
    fun ex => (ex.fePhysical.toNat + (x - ex.feLogical.toNat)) / 4096

/-- The two extents share no byte of the device. -/
def PhysicallyApart (ex ex' : FiemapExtent) : Prop :=
  ex.fePhysical.toNat + ex.feLength.toNat ≤ ex'.fePhysical.toNat ∨
    ex'.fePhysical.toNat + ex'.feLength.toNat ≤ ex.fePhysical.toNat

/-- An extent of whole blocks. -/
structure Aligned (ex : FiemapExtent) : Prop where
  physical : ex.fePhysical.toNat % 4096 = 0
  length : ex.feLength.toNat % 4096 = 0

variable {ex : FiemapExtent} (map : List FiemapExtent)

/-- The extents that `create_file` accepts are of whole blocks. -/
theorem Accepted.aligned (h : Accepted kNvmeBlockSize ex) : Aligned ex := by
  have hphys := congrArg UInt64.toNat h.physical
  have hlen := congrArg UInt64.toNat h.length
  exact ⟨hphys, hlen⟩

/-- An extent of the map as the segment the GPU walks over. -/
theorem segment_toLbaExtent (ex : FiemapExtent) : (toLbaExtent kNvmeBlockSize ex).segment =
      ⟨ex.fePhysical.toNat / 4096, ex.feLength.toNat / 4096⟩ := by
  have hblk : (kNvmeBlockSize.toUInt64).toNat = 4096 := rfl
  unfold toLbaExtent LbaExtent.segment
  rw [UInt64.toNat_div, UInt64.toNat_div, hblk]

/-- The segments recorded for a map. -/
def recordedSegments (map : List FiemapExtent) : List Segment :=
  segmentsOf (map.map (toLbaExtent kNvmeBlockSize))

theorem recordedSegments_cons (ex : FiemapExtent) (map : List FiemapExtent) :
    recordedSegments (ex :: map) =
      ⟨ex.fePhysical.toNat / 4096, ex.feLength.toNat / 4096⟩ :: recordedSegments map := by
  unfold recordedSegments segmentsOf
  rw [List.map_cons, List.map_cons, segment_toLbaExtent]

theorem recordedSegments_append (map' : List FiemapExtent) :
    recordedSegments (map ++ map') = recordedSegments map ++ recordedSegments map' := by
  unfold recordedSegments segmentsOf
  rw [List.map_append, List.map_append]

/-- The block of a byte is a place of the recorded segments: the one numbered
    as the byte's block in the file is. -/
theorem fiemapBlock_eq_locate (haligned : ∀ ex ∈ map, Aligned ex) :
    ∀ {base x : Nat}, ContiguousFrom base map → base % 4096 = 0 → base ≤ x →
      fiemapBlock map x = Segment.locate (recordedSegments map) ((x - base) / 4096) := by
  induction map with
  | nil =>
    intro base x _ _ _
    rfl
  | cons ex _ ih =>
    intro base x hcont _ _
    rcases hcont with ⟨hstart, -, hrest⟩
    have hex := haligned ex List.mem_cons_self
    have hphys := hex.physical
    have hlen := hex.length
    rw [recordedSegments_cons, Segment.locate]
    simp only
    by_cases hin : x < base + ex.feLength.toNat
    · have hholds : Holds ex x := ⟨by omega, by omega⟩
      rw [fiemapBlock, List.find?_cons_of_pos (by simpa using hholds), if_pos (by omega),
        Option.map_some]
      exact congrArg some (by omega)
    · -- The byte is in a later extent, and this one's blocks are passed.
      have hnot : ¬ Holds ex x := fun h => hin (by rw [← hstart]; exact h.2)
      have hpassed : base + ex.feLength.toNat ≤ x := Nat.not_lt.mp hin
      have htail := ih (List.forall_mem_cons.mp haligned).2 hrest
        (by omega) hpassed
      rw [fiemapBlock, List.find?_cons_of_neg (by simpa using hnot), if_neg (by omega)]
      rw [fiemapBlock] at htail
      rw [htail]
      exact congrArg _ (by omega)

/-- Where an extent of the map starts: behind the blocks of those before it. -/
theorem feLogical_eq {after : List FiemapExtent} (before : List FiemapExtent)
    (haligned : ∀ e ∈ before, Aligned e) :
    ∀ {base : Nat}, ContiguousFrom base (before ++ ex :: after) →
      ex.feLogical.toNat = base + 4096 * Segment.total (recordedSegments before) := by
  induction before with
  | nil =>
    intro base hcont
    exact hcont.1
  | cons e _ ih =>
    intro _ hcont
    have hlen := (haligned e List.mem_cons_self).length
    have hrest := ih (List.forall_mem_cons.mp haligned).2 hcont.2.2
    rw [recordedSegments_cons, Segment.total_cons]
    simp only
    omega

/-- The recorded blocks are those of the map. -/
theorem total_recordedSegments (haligned : ∀ ex ∈ map, Aligned ex) :
    4096 * Segment.total (recordedSegments map) =
      (map.map fun ex => ex.feLength.toNat).sum := by
  induction map with
  | nil => rfl
  | cons ex _ ih =>
    have hlen := (haligned ex List.mem_cons_self).length
    have hrest := ih (List.forall_mem_cons.mp haligned).2
    rw [recordedSegments_cons, Segment.total_cons, List.map_cons, List.sum_cons]
    simp only
    omega

/-- Extents that share no byte share no block. -/
theorem apart_of_physicallyApart {ex' : FiemapExtent} (h : PhysicallyApart ex ex') :
    Segment.Apart (toLbaExtent kNvmeBlockSize ex).segment
      (toLbaExtent kNvmeBlockSize ex').segment := by
  rw [segment_toLbaExtent, segment_toLbaExtent, Segment.Apart]
  simp only
  rcases h with h | h
  · exact .inl (by omega)
  · exact .inr (by omega)

/-- The kernel reports every extent of a map in order, if they fit one call. -/
theorem fsIocFiemap_contiguous {map : List FiemapExtent} {base : Nat}
    (hcont : ContiguousFrom base map) :
    fsIocFiemap map 0 = map.take kFiemapMaxExtentsPerCall := by
  have hall : ∀ ex ∈ map, 0 < ex.feLength.toNat := by
    induction map generalizing base with
    | nil => exact nofun
    | cons _ _ ih =>
      intro ex hex
      rcases List.mem_cons.mp hex with rfl | hex
      · exact hcont.2.1
      · exact ih hcont.2.2 ex hex
  have hkeep : map.filter
      (fun ex => (0 : UInt64).toNat < ex.feLogical.toNat + ex.feLength.toNat) = map := by
    rw [List.filter_eq_self]
    intro ex hex
    have hpos := hall ex hex
    have hzero : (0 : UInt64).toNat = 0 := rfl
    rw [decide_eq_true_eq]
    omega
  rw [fsIocFiemap, hkeep]

end Fiemap

namespace HostStorage

open Fiemap

/-- The file was created with this extent map; the descriptor may be another
    one by now. -/
def MadeWith (f : NvmeFile) (map : List FiemapExtent) : Prop :=
  ∃ (mp : MountPath) (d : Disk) (s : DeviceState) (name : Bytes) (sizeBytes : UInt64)
    (persistNow syncNow : Bool) (env : CreateEnv) (fd : Int),
    s.log.WellFormed ∧ env.alloc = some map ∧
      (createFileLocked mp d s name sizeBytes persistNow syncNow env).2.2 =
        some { f with hostFd := fd }

/-- The extents a create records are few and of whole blocks. -/
theorem recordedExtents_sound {env : CreateEnv} {sizeBytes : UInt64} {syncNow : Bool} {fd : Nat}
    {map : List FiemapExtent} (h : env.Allocates sizeBytes syncNow fd map) :
    DeviceExtents (recordedExtents env fd map) := by
  rcases readExtents_ok h.extents with ⟨_, -, hext, -, hcount, -, -⟩
  refine ⟨hcount, ?_⟩
  unfold recordedExtents
  rw [hext]
  intro e he
  rcases List.mem_map.mp he with ⟨ex, -, rfl⟩
  have hseg := segment_toLbaExtent ex
  have hphys := ex.fePhysical.toNat_lt
  have hlen := ex.feLength.toNat_lt
  have h₁ := congrArg Segment.start hseg
  have h₂ := congrArg Segment.len hseg
  unfold LbaExtent.segment at h₁ h₂
  simp only at h₁ h₂
  omega

/-- What a file's handle records of its map. -/
theorem MadeWith.recorded {f : NvmeFile} {map : List FiemapExtent} (h : MadeWith f map)
    (hcont : ContiguousFrom 0 map) :
    f.dataOffset = nvmeFileHeaderSize ∧ DeviceExtents f.extents ∧
      f.extents = map.map (toLbaExtent kNvmeBlockSize) ∧ ∀ ex ∈ map, Aligned ex := by
  rcases h with ⟨mp, d, s, name, sizeBytes, persistNow, syncNow, env, _, hl, halloc, hcreate⟩
  have hcases := createFileLocked_cases mp d s hl name sizeBytes persistNow syncNow env
  generalize createFileLocked mp d s name sizeBytes persistNow syncNow env = r
    at hcases hcreate
  cases hcases with
  | refused | abandoned => cases hcreate
  | created _ fd' map' hmade =>
    have hmap : map' = map := Option.some.inj (hmade.alloc.symm.trans halloc)
    subst hmap
    rw [Option.some.injEq] at hcreate
    have hoffset := congrArg NvmeFile.dataOffset hcreate
    have hextents : recordedExtents env fd' map' = f.extents :=
      congrArg NvmeFile.extents hcreate
    have hsound := recordedExtents_sound hmade
    -- The first answer holds the whole map: a file has fewer extents than it has room for.
    have hfits : map'.take kFiemapMaxExtentsPerCall = map' := by
      have hcount := hsound.count
      rw [recordedExtents_eq hmade 0, Inode.lbaExtents, fsIocFiemap_contiguous hcont,
        List.length_map, List.length_take] at hcount
      simp only [kFiemapMaxExtentsPerCall, kNvmeFileHeaderMaxExtents] at hcount ⊢
      exact List.take_of_length_le (by omega)
    rcases readExtents_ok hmade.extents with ⟨_, hioctl, -, -, -, haccept, -⟩
    refine ⟨hoffset.symm, hextents ▸ hsound, ?_, fun ex hex => ?_⟩
    · rw [← hextents, recordedExtents_eq hmade 0, Inode.lbaExtents,
        fsIocFiemap_contiguous hcont, hfits]
    · unfold CreateEnv.ioctl at hioctl
      split at hioctl
      · rw [Option.some.injEq, fsIocFiemap_contiguous hcont, hfits] at hioctl
        rw [← hioctl, hfits] at haccept
        exact (haccept ex hex).aligned
      · cases hioctl

/-- A file below `2^62` bytes with a contiguous map, and its handle on the GPU
    of a device with 4096-byte blocks. -/
structure OnGpu (f : NvmeFile) (map : List FiemapExtent) (h : NvmeFileDeviceHandle) : Prop where
  made : MadeWith f map
  small : f.sizeBytes.toNat < 2 ^ 62
  contiguous : ContiguousFrom 0 map
  handle : ∃ bp cuda, bp.Blocks4k ∧ acquireDeviceHandle (some bp) f cuda = some h

/-- A range of whole blocks inside the user's data. -/
structure BlockRange (f : NvmeFile) (off n : UInt64) : Prop where
  start : off.toNat % 4096 = 0
  length : n.toNat % 4096 = 0
  pos : 0 < n.toNat
  inside : off.toNat + n.toNat ≤ f.sizeBytes.toNat

/-- The range, which is behind the header, is in one extent of the map. -/
def InOneExtent (map : List FiemapExtent) (off n : UInt64) : Prop :=
  ∃ ex ∈ map, ex.feLogical.toNat ≤ 4096 + off.toNat ∧
    4096 + off.toNat + n.toNat ≤ ex.feLogical.toNat + ex.feLength.toNat

section

variable {f : NvmeFile} {map : List FiemapExtent} {h : NvmeFileDeviceHandle}

/-- What the handle on the GPU holds of the file. -/
theorem OnGpu.holds (hf : OnGpu f map h) :
    h.Blocks4k ∧ h.numExtents ≠ 0 ∧ h.logicalSizeBytes = f.sizeBytes ∧ Bounded h.extents ∧
      segmentsOf h.extents = recordedSegments map ∧ f.dataOffset = nvmeFileHeaderSize ∧
        ∀ ex ∈ map, Aligned ex := by
  rcases hf.made.recorded hf.contiguous with ⟨hoffset, hsound, hextents, haligned⟩
  rcases hf.handle with ⟨_, _, hbp, hacq⟩
  rcases acquireDeviceHandle_eq_some hbp hsound.count hacq with ⟨hblk, hsize, hext, hnum⟩
  refine ⟨hblk, hnum, hsize, ?_, ?_, hoffset, haligned⟩
  · rw [hext]
    exact hsound.bounded
  · rw [hext, hextents]
    rfl

variable {off n : UInt64} {r : UInt64 × UInt64}

section

variable (hf : OnGpu f map h)

include hf

/-- The file offsets of a range of user data do not wrap around. -/
theorem OnGpu.toNat_offset (hr : BlockRange f off n) :
    (off + 4096).toNat = off.toNat + 4096 ∧ (off + n).toNat = off.toNat + n.toNat := by
  have hsmall := hf.small
  have hinside := hr.inside
  have hfour : (4096 : UInt64).toNat = 4096 := rfl
  rw [UInt64.toNat_add, UInt64.toNat_add]
  omega

/-- A range of user data in one extent is resolved. -/
theorem OnGpu.resolves (hr : BlockRange f off n)
    (hin : InOneExtent map off n) : ∃ r, resolveLba h off n = some r := by
  rcases hf.holds with ⟨hblk, hnum, hsize, hbound, hsegs, -, haligned⟩
  rcases hf.toNat_offset hr with ⟨hoff, hend⟩
  rcases hin with ⟨ex, hex, hlow, hhigh⟩
  rcases List.append_of_mem hex with ⟨before, after, rfl⟩
  have hstart := feLogical_eq before (fun e he => haligned e (List.mem_append_left _ he))
    hf.contiguous
  have hpos := hr.pos
  have haligns := hr.start
  have halignn := hr.length
  have hfirst : (off + 4096).toNat / 4096 < (off + 4096).toNat / 4096 + n.toNat / 4096 := by
    omega
  -- The extents before `ex` have exactly the blocks before it, so the walk stops there.
  have hspan := Segment.findSpan_of_inside hfirst
    ⟨ex.fePhysical.toNat / 4096, ex.feLength.toNat / 4096⟩ (recordedSegments after)
    (recordedSegments before) 0 (by omega) (by simp only; omega)
  rw [← recordedSegments_cons, ← recordedSegments_append, ← hsegs] at hspan
  have hphys := ex.fePhysical.toNat_lt
  have hword := (off + 4096).toNat_lt
  have hlba : ∀ p, p < 2 ^ 64 → (UInt64.ofNat p).toNat = p := by
    intro p hp
    exact Nat.mod_eq_of_lt hp
  have hfour : (4096 : UInt64).toNat = 4096 := rfl
  have hcnt : (n / 4096).toNat = n.toNat / 4096 := by rw [UInt64.toNat_div, hfour]
  have hnz : n ≠ 0 := by
    intro h0
    rw [h0] at hpos
    cases hpos
  have hend' : off + n ≤ h.logicalSizeBytes := by
    rw [UInt64.le_iff_toNat_le, hend, hsize]
    exact hr.inside
  refine ⟨(UInt64.ofNat _, n / 4096), (resolveLba_eq_some hblk hbound off n _ _).mpr
    ⟨hnum, hnz, haligns, halignn, hend', hspan.trans (congrArg some (hlba _ ?_).symm), hcnt⟩⟩
  simp only
  omega

/-- A block of a resolved range of user data, by its number in the file. -/
theorem OnGpu.locate (hr : BlockRange f off n)
    (hres : resolveLba h off n = some r) {b : Nat} (hb : InBlocks r b) :
    ∃ j, j < n.toNat / 4096 ∧ b = r.1.toNat + j ∧
      Segment.locate (recordedSegments map) (off.toNat / 4096 + 1 + j) = some b := by
  rcases hf.holds with ⟨hblk, -, -, hbound, hsegs, -, -⟩
  have hat := resolveLba_locate hblk hbound hres hb
  have hoff := (hf.toNat_offset hr).1
  have hlow := hb.1
  refine ⟨b - r.1.toNat, hat.1, by omega, ?_⟩
  rw [← hsegs, ← hat.2]
  exact congrArg _ (by omega)

/-- The bytes a host call touches for a range of user data. -/
theorem OnGpu.touches (hfd : 0 ≤ f.hostFd) (hr : BlockRange f off n)
    (results : List IoResult) (x : Nat) :
    (blockingIo (some f) off n false results).Touches x ↔
      4096 + off.toNat ≤ x ∧ x < 4096 + off.toNat + n.toNat := by
  rcases hf.holds with ⟨-, -, -, -, -, hoffset, -⟩
  rcases hf.toNat_offset hr with ⟨hoff, hend⟩
  have hsmall := hf.small
  have hinside := hr.inside
  have hheader : f.dataOffset + off = off + 4096 := by
    rw [hoffset, UInt64.add_comm]
    rfl
  rw [blockingIo_touches f hfd, hheader, UInt64.le_iff_toNat_le]
  omega

/-- The blocks of a resolved range are those of the bytes that the host calls
    touch. -/
theorem OnGpu.inBlocks_iff (hfd : 0 ≤ f.hostFd) (hr : BlockRange f off n)
    (hres : resolveLba h off n = some r) (results : List IoResult) (b : Nat) : InBlocks r b ↔
      ∃ x, (blockingIo (some f) off n false results).Touches x ∧ fiemapBlock map x = some b := by
  rcases hf.holds with ⟨hblk, -, -, hbound, -, -, haligned⟩
  have hblock : ∀ x, fiemapBlock map x = Segment.locate (recordedSegments map) (x / 4096) := by
    intro x
    exact fiemapBlock_eq_locate map haligned hf.contiguous rfl (Nat.zero_le x)
  have haligns := hr.start
  constructor
  · intro hb
    rcases hf.locate hr hres hb with ⟨j, hj, -, hloc⟩
    refine ⟨4096 * (off.toNat / 4096 + 1 + j), ?_, ?_⟩
    · rw [hf.touches hfd hr]
      omega
    · rw [hblock, ← hloc]
      exact congrArg _ (by omega)
  · rintro ⟨x, htouch, hx⟩
    rw [hf.touches hfd hr] at htouch
    -- The byte's block is the range's first one plus its distance from it.
    have halignn := hr.length
    rcases r with ⟨lba, cnt⟩
    rcases (resolveLba_eq_some hblk hbound off n lba cnt).mp hres with ⟨-, -, -, -, -, -, hcnt⟩
    have hin : InBlocks (lba, cnt) (lba.toNat + (x / 4096 - (off.toNat / 4096 + 1))) := by
      rw [InBlocks]
      simp only
      omega
    rcases hf.locate hr hres hin with ⟨j, hj, hjb, hloc⟩
    have hj' : off.toNat / 4096 + 1 + j = x / 4096 := by
      simp only at hjb
      omega
    rw [hj', ← hblock, hx, Option.some.injEq] at hloc
    rw [hloc]
    exact hin

end

end

/-- The two ranges have no byte in common. -/
def RangesApart (off n off' n' : UInt64) : Prop :=
  off.toNat + n.toNat ≤ off'.toNat ∨ off'.toNat + n'.toNat ≤ off.toNat

/-- The host and the GPU mean the same blocks. For a range of user data in one
    extent, the blocks that `resolve_lba` returns are those that the file's map
    gives to the bytes that `read_blocking` and `write_blocking` touch at the
    same offset. If the extents share no byte of the device, ranges of one file
    that are apart, and all ranges of two files, resolve to different blocks. -/
theorem addresses_agree {f g : NvmeFile} {map map' : List FiemapExtent}
    {h h' : NvmeFileDeviceHandle} (hf : OnGpu f map h) (hg : OnGpu g map' h') :
    (0 ≤ f.hostFd → ∀ off n, BlockRange f off n → InOneExtent map off n →
      ∃ r, resolveLba h off n = some r ∧ ∀ results b,
        (InBlocks r b ↔ ∃ x, (writeBlocking (some f) off false n results).Touches x ∧
          fiemapBlock map x = some b) ∧
        (InBlocks r b ↔ ∃ x, (readBlocking (some f) off false n results).Touches x ∧
          fiemapBlock map x = some b)) ∧
    (map.Pairwise PhysicallyApart → ∀ off n off' n' r r', BlockRange f off n →
      BlockRange f off' n' → RangesApart off n off' n' → resolveLba h off n = some r →
        resolveLba h off' n' = some r' → ∀ b, ¬ (InBlocks r b ∧ InBlocks r' b)) ∧
    ((∀ ex ∈ map, ∀ ex' ∈ map', PhysicallyApart ex ex') → ∀ off n off' n' r r',
      resolveLba h off n = some r → resolveLba h' off' n' = some r' →
        ∀ b, ¬ (InBlocks r b ∧ InBlocks r' b)) := by
  rcases hf.holds with ⟨hblk, -, -, hbound, hsegs, -, haligned⟩
  rcases hg.holds with ⟨hblk', -, -, hbound', hsegs', -, haligned'⟩
  refine ⟨fun hfd off n hr hin => ?_, fun hapart off n off' n' r r' hr hr' hdisj hres hres' b => ?_,
    fun hapart off n off' n' r r' hres hres' b => ?_⟩
  · rcases hf.resolves hr hin with ⟨r, hres⟩
    refine ⟨r, hres, fun results b => ⟨?_, ?_⟩⟩
    · exact hf.inBlocks_iff hfd hr hres results b
    · exact hf.inBlocks_iff hfd hr hres results b
  · rintro ⟨hb, hb'⟩
    rcases hf.locate hr hres hb with ⟨j, hj, -, hloc⟩
    rcases hf.locate hr' hres' hb' with ⟨j', hj', -, hloc'⟩
    have hpair : (recordedSegments map).Pairwise Segment.Apart := by
      unfold recordedSegments segmentsOf
      rw [List.pairwise_map, List.pairwise_map]
      refine hapart.imp_of_mem fun {a c} ha hc hac => ?_
      exact apart_of_physicallyApart hac
    -- One block has one number in the file, and the ranges share none.
    have hsame := Segment.locate_injective _ hpair hloc hloc'
    rcases hdisj with hdisj | hdisj
    · omega
    · omega
  · rintro ⟨hb, hb'⟩
    have hloc := (resolveLba_locate hblk hbound hres hb).2
    have hloc' := (resolveLba_locate hblk' hbound' hres' hb').2
    rw [hsegs] at hloc
    rw [hsegs'] at hloc'
    refine Segment.locate_ne_of_apart (fun s hs t ht => ?_) hloc hloc' rfl
    unfold recordedSegments segmentsOf at hs ht
    rw [List.map_map] at hs ht
    rcases List.mem_map.mp hs with ⟨ex, hex, rfl⟩
    rcases List.mem_map.mp ht with ⟨ex', hex', rfl⟩
    exact apart_of_physicallyApart (hapart ex hex ex' hex')

/-- A file of four blocks in two extents, as `create_file` returns it. -/
def splitFile : NvmeFile :=
  ⟨1, cacheName, 12288, [⟨10, 2⟩, ⟨20, 2⟩], 3, hostPath mountPoint cacheName, 4096⟩

def splitMap : List FiemapExtent :=
  [⟨0, 40960, 8192, 0⟩, ⟨8192, 81920, 8192, fiemapExtentLast⟩]

/-- A file of two blocks in one extent. -/
def wholeFile : NvmeFile :=
  ⟨1, spareName, 4096, [⟨40, 2⟩], 3, hostPath mountPoint spareName, 4096⟩

def wholeMap : List FiemapExtent := [⟨0, 163840, 8192, fiemapExtentLast⟩]

/-- A device with 4096-byte blocks and one queue. -/
def gpuDevice : LocalNvmeDevice := ⟨4096, 12, 1, some ⟨true, 1⟩⟩

/-- The handle of a file on its GPU. -/
def gpuHandle (f : NvmeFile) : NvmeFileDeviceHandle :=
  ⟨f.id, f.sizeBytes, 4096, 4096, 12, 1, UInt32.ofNat f.extents.length, f.extents, 1⟩

theorem splitFile_onGpu : OnGpu splitFile splitMap (gpuHandle splitFile) where
  made := ⟨mountPoint, Disk.fresh, ⟨FileLog.empty, [], false, false⟩, cacheName, 12288, true, true,
    createOk splitMap, 3, FileLog.wellFormed_empty, rfl, rfl⟩
  small := by decide
  contiguous := by simp [ContiguousFrom, splitMap]
  handle := ⟨gpuDevice, ⟨true, true, true, true⟩, ⟨rfl, rfl⟩, rfl⟩

theorem wholeFile_onGpu : OnGpu wholeFile wholeMap (gpuHandle wholeFile) where
  made := ⟨mountPoint, Disk.fresh, ⟨FileLog.empty, [], false, false⟩, spareName, 4096, true, true,
    createOk wholeMap, 3, FileLog.wellFormed_empty, rfl, rfl⟩
  small := by decide
  contiguous := by simp [ContiguousFrom, wholeMap]
  handle := ⟨gpuDevice, ⟨true, true, true, true⟩, ⟨rfl, rfl⟩, rfl⟩

/-- The range behind the first block of user data is the second extent. -/
theorem addresses_agree_splitFile :
    (∃ r, resolveLba (gpuHandle splitFile) 4096 8192 = some r ∧ ∀ results b,
      (InBlocks r b ↔ ∃ x, (writeBlocking (some splitFile) 4096 false 8192 results).Touches x ∧
        fiemapBlock splitMap x = some b) ∧
      (InBlocks r b ↔ ∃ x, (readBlocking (some splitFile) 4096 false 8192 results).Touches x ∧
        fiemapBlock splitMap x = some b)) ∧
    (∀ b, ¬ (InBlocks (11, 1) b ∧ InBlocks (20, 2) b)) ∧
    (∀ b, ¬ (InBlocks (20, 2) b ∧ InBlocks (41, 1) b)) := by
  have hagree := addresses_agree splitFile_onGpu wholeFile_onGpu
  refine ⟨hagree.1 (by decide) 4096 8192 ⟨by decide, by decide, by decide, by decide⟩ ?_,
    hagree.2.1 ?_ 0 4096 4096 8192 (11, 1) (20, 2) ⟨by decide, by decide, by decide, by decide⟩
      ⟨by decide, by decide, by decide, by decide⟩ (.inl (by decide)) rfl rfl,
    hagree.2.2 ?_ 4096 8192 0 4096 (20, 2) (41, 1) rfl rfl⟩
  · exact ⟨_, List.mem_cons_of_mem _ List.mem_cons_self, by decide, by decide⟩
  · simp [splitMap, PhysicallyApart]
  · simp [splitMap, wholeMap, PhysicallyApart]

/-- A file whose map has just the blocks that were asked for has room for its header and
    its data exactly if the sum of both sizes does not wrap around. -/
theorem backed_iff {f : NvmeFile} {map : List FiemapExtent} (h : MadeWith f map)
    (hcont : ContiguousFrom 0 map) (hexact : (map.map fun ex => ex.feLength.toNat).sum =
      4096 * (((totalBytes f.sizeBytes).toNat + 4095) / 4096)) :
    (4096 + f.sizeBytes.toNat + 4095) / 4096 ≤ Segment.total (segmentsOf f.extents) ↔
      4096 + f.sizeBytes.toNat < 2 ^ 64 := by
  rcases h.recorded hcont with ⟨-, -, hextents, haligned⟩
  have htotal := total_recordedSegments map haligned
  have hsum : (totalBytes f.sizeBytes).toNat = (4096 + f.sizeBytes.toNat) % 2 ^ 64 :=
    UInt64.toNat_add ..
  rw [hextents, ← recordedSegments]
  omega

theorem backed_iff_splitFile : 4 ≤ Segment.total (segmentsOf splitFile.extents) :=
  (backed_iff splitFile_onGpu.made splitFile_onGpu.contiguous rfl).mpr (by decide)

/-- A file that is 4095 bytes short of the largest size gets a single block. -/
theorem wrapped_file_unbacked :
    (totalBytes 18446744073709547521).toNat = 1 ∧
    (createFileLocked mountPoint Disk.fresh ⟨FileLog.empty, [], false, false⟩ cacheName
      18446744073709547521 true true (createOk [⟨0, 163840, 4096, fiemapExtentLast⟩])).2.2.map
      (fun f => (f.sizeBytes, f.extents)) = some (18446744073709547521, [⟨40, 1⟩]) := by
  exact ⟨rfl, rfl⟩

end HostStorage

end Geminifs
